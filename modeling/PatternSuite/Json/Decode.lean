import PatternSuite.Json.Scalar

/-!
# Decoding JSON values

Readers for values of a type, from which readers for a program's own types are made. A value of
another type is a fault that tells what was found and what was expected. How deeply lists and
objects may be nested is limited, except in values that are passed over.

* `decode`: a whole text.
* `Read.object`, `Read.list`: containers, field by field and element by element.
* `Read.any`: any value.
* `Read.skipValue`: passes over any value.
-/

namespace PatternSuite.Json

open Text

/-- How many lists and objects may be open at once. -/
def nestingLimit : Nat := 127

namespace Read

/-! ### Separators -/

/-- Looks for the next element of a list. -/
def nextElement (first : Bool) : Read Bool := do
  match ← skipBlanks with
  | none => failAhead .listUnclosed
  | some b =>
    if b = byte ']' then return false
    else if first then return true
    else if b = byte ',' then
      eat
      match ← skipBlanks with
      | none => failAhead .valueMissing
      | some b => if b = byte ']' then failAhead .trailingComma else return true
    else failAhead .listSeparatorExpected

/-- Looks for the next key of an object. -/
def nextKey (first : Bool) : Read Bool := do
  match ← skipBlanks with
  | none => failAhead .objectUnclosed
  | some b =>
    if b = byte '\x7d' then return false
    else if first then
      if b = 34 then return true else failAhead .keyExpected
    else if b = byte ',' then
      eat
      match ← skipBlanks with
      | none => failAhead .valueMissing
      | some b =>
        if b = 34 then return true
        else if b = byte '\x7d' then failAhead .trailingComma
        else failAhead .keyExpected
    else failAhead .objectSeparatorExpected

/-- Reads the colon behind a key. -/
def colon : Read Unit := do
  match ← skipBlanks with
  | none => failAhead .objectUnclosed
  | some b => if b = byte ':' then eat else failAhead .colonExpected

/-- Reads the end of a list. -/
def closeList : Read Unit := do
  match ← skipBlanks with
  | none => failAhead .listUnclosed
  | some b =>
    if b = byte ']' then eat
    else if b = byte ',' then
      eat
      if (← skipBlanks) = some (byte ']') then failAhead .trailingComma
      else failAhead .trailingCharacters
    else failAhead .trailingCharacters

/-- Reads the end of an object. -/
def closeObject : Read Unit := do
  match ← skipBlanks with
  | none => failAhead .objectUnclosed
  | some b =>
    if b = byte '\x7d' then eat
    else if b = byte ',' then failAhead .trailingComma
    else failAhead .trailingCharacters

/-- Reads the elements of a list up to its end. -/
def elements {α : Type} [Inhabited α] (element : α → Read α) (a : α) : Read α := do
  let (_, a) ← repeatedly
    (fun (first, a) => do
      if ← nextElement first then return .again (false, ← element a)
      else return .done (first, a))
    (true, a)
  return a

/-- Reads the fields of an object up to its end. A field begins at the colon. -/
def fields {α : Type} [Inhabited α] (field : α → String → Read α) (a : α) : Read α := do
  let (_, a) ← repeatedly
    (fun (first, a) => do
      if ← nextKey first then
        eat
        let key ← text
        return .again (false, ← field a key)
      else return .done (first, a))
    (true, a)
  return a

/-- Opens a list or an object, of which `budget` may still be opened. -/
def nested {α : Type} (budget : Nat) (inside : Nat → Read α) (close : Read Unit) : Read α :=
  match budget with
  | 0 => failAhead .tooDeep
  | budget + 1 => do
    eat
    closed (inside budget) close

/-! ### Any value -/

/-- Reads a value that is no list and no object; `b` is its first byte. -/
def scalar (b : UInt8) : Read Found := do
  if b = byte 'n' then
    eat
    word ['u', 'l', 'l']
    return .null
  else if b = byte 't' then
    eat
    word ['r', 'u', 'e']
    return .bool true
  else if b = byte 'f' then
    eat
    word ['a', 'l', 's', 'e']
    return .bool false
  else if b = byte '-' then
    eat
    return .number (← number false)
  else if isDigit b then return .number (← number true)
  else if b = 34 then
    eat
    return .text (← text)
  else failAhead .valueExpected

/-- Reads any value; of a list or an object it only tells that it is one. What stands in them is
read by `inner`, if they may be opened. -/
def anyOver (inner : Option (Read Found)) : Read Found := do
  match ← skipBlanks with
  | none => failAhead .valueMissing
  | some b =>
    if b ≠ byte '[' ∧ b ≠ byte '\x7b' then scalar b
    else match inner with
      | none => failAhead .tooDeep
      | some inner => do
        eat
        if b = byte '[' then
          closed (elements (fun (_ : Unit) => do let _ ← inner) ()) closeList
          return .list
        else
          let field (_ : Unit) (_ : String) : Read Unit := do
            colon
            let _ ← inner
          closed (fields field ()) closeObject
          return .object

/-- Reads any value, in which `budget` lists and objects may be open at once. -/
def any : Nat → Read Found
  | 0 => anyOver none
  | budget + 1 => anyOver (some (any budget))

/-- Fails because of the value that begins here. -/
def mismatch {α : Type} (expected : String) : Read α := placed do
  let b := (← peek).getD 0
  let found ←
    if b = byte '[' then pure .list
    else if b = byte '\x7b' then pure .object
    else scalar b
  failValue (.mismatch found expected)

/-! ### Passing over values -/

/-- What is open around a value. -/
inductive Open
  | list
  | object
  deriving DecidableEq, Repr, Inhabited

/-- Passes over the ends of what is open, up to where the next value or key stands; gives what is
still open. Without `comma` no value stands before. -/
def skipEnds (comma : Bool) (around : List Open) : Read (List Open) :=
  repeatedly
    (fun (comma, around) => do
      match around with
      | [] => return .done []
      | o :: outer =>
        match ← skipBlanks with
        | none =>
          match o with
          | .list => failAhead .listUnclosed
          | .object => failAhead .objectUnclosed
        | some b =>
          if b = byte ',' ∧ comma then
            eat
            return .done around
          else if (b = byte ']' ∧ o = .list) ∨ (b = byte '\x7d' ∧ o = .object) then
            eat
            return .again (true, outer)
          else if comma then
            match o with
            | .list => failAhead .listSeparatorExpected
            | .object => failAhead .objectSeparatorExpected
          else return .done around)
    (comma, around)

/-- Passes over a key and its colon. -/
def skipKey : Read Unit := do
  match ← skipBlanks with
  | none => failAhead .objectUnclosed
  | some b =>
    if b ≠ 34 then failAhead .keyExpected
    eat
    skipText
    colon

/-- Passes over a value or its beginning; gives what it opens. -/
def skipFirst : Read (Option Open) := do
  match ← skipBlanks with
  | none => failAhead .valueMissing
  | some b =>
    if b = byte '[' then
      eat
      return some .list
    else if b = byte '\x7b' then
      eat
      return some .object
    else if b = byte '-' then
      eat
      skipNumber
      return none
    else if isDigit b then
      skipNumber
      return none
    else if b = 34 then
      eat
      skipText
      return none
    else
      let _ ← scalar b
      return none

/-- Passes over any value. -/
def skipValue : Read Unit :=
  repeatedly
    (fun around => do
      let around ← match ← skipFirst with
        | some o => skipEnds false (o :: around)
        | none => skipEnds true around
      match around with
      | [] => return .done ()
      | .list :: _ => return .again around
      | .object :: _ =>
        skipKey
        return .again around)
    []

/-! ### Values of a type -/

/-- Looks at a value of a type; the reader gets its first byte. -/
def value {α : Type} (read : UInt8 → Read α) : Read α := do
  match ← skipBlanks with
  | none => failAhead .valueMissing
  | some b => placed (read b)

/-- Reads a truth value. -/
def bool : Read Bool :=
  value fun b => do
    if b = byte 't' ∨ b = byte 'f' then
      match ← scalar b with
      | .bool v => return v
      | _ => mismatch "a boolean"
    else mismatch "a boolean"

/-- Reads a string. -/
def string (expected : String) : Read String :=
  value fun b => do
    if b = 34 then
      eat
      text
    else mismatch expected

/-- Reads null. -/
def null (expected : String) : Read Unit :=
  value fun b => do
    if b = byte 'n' then let _ ← scalar b
    else mismatch expected

/-- Reads null as nothing, or another value. -/
def optional {α : Type} (read : Read α) : Read (Option α) := do
  if (← skipBlanks) = some (byte 'n') then
    let _ ← scalar (byte 'n')
    return none
  else return some (← read)

/-- Reads a list, element by element. -/
def list {α : Type} (budget : Nat) (element : Nat → Read α) : Read (List α) :=
  value fun b => do
    if b = byte '[' then
      nested budget
        (fun budget => do
          let found ← elements (fun done => return (← element budget) :: done) []
          return found.reverse)
        closeList
    else mismatch "a sequence"

/-- Reads an object, field by field. -/
def object {α β : Type} [Inhabited α] (budget : Nat) (expected : String) (start : α)
    (field : Nat → α → String → Read α) (finish : α → Read β) : Read β :=
  value fun b => do
    if b = byte '\x7b' then
      nested budget (fun budget => do finish (← fields (field budget) start)) closeObject
    else mismatch expected

/-- Reads an object field by field, or a list with the values of its fields in order. -/
def record {α β : Type} [Inhabited α] (budget : Nat) (expected : String) (start : α)
    (field : Nat → α → String → Read α) (finish : α → Read β) (row : Nat → Read β) : Read β :=
  value fun b => do
    if b = byte '[' then nested budget row closeList
    else if b = byte '\x7b' then
      nested budget (fun budget => do finish (← fields (field budget) start)) closeObject
    else mismatch expected

/-- Reads a name that is known. -/
def name {α : Type} (expected : String) (known : List (String × α)) : Read α :=
  placed do
    let s ← string expected
    match known.lookup s with
    | some a => return a
    | none => failValue (.unknownName s (known.map (·.1)))

/-- Reads a known name as a string, or as the only key of an object whose value is null. -/
def choice {α : Type} (budget : Nat) (known : List (String × α)) : Read α := do
  let expected := "variant identifier"
  match ← skipBlanks with
  | none => failAhead .valueMissing
  | some b =>
    if b = 34 then name expected known
    else if b = byte '\x7b' then
      if budget = 0 then failAhead .tooDeep
      eat
      let a ← name expected known
      colon
      null "unit"
      match ← skipBlanks with
      | none => failHere .objectUnclosed
      | some b =>
        if b ≠ byte '\x7d' then failHere .valueExpected
        eat
        return a
    else failAhead .valueExpected

/-- Reads the next value of a row, or takes another one where the row has ended. `first` says that
no value was read yet. -/
def column {α : Type} (first : Bool) (absent : Read α) (read : Read α) : Read (Bool × α) := do
  if ← nextElement first then return (false, ← read) else return (first, ← absent)

end Read

/-- Decodes a text that holds one value and nothing else. -/
def decode {α : Type} (source : Source) (bytes : List UInt8) (read : Read α) : Except Fault α :=
  let whole : Read α := do
    let a ← read
    match ← Read.skipBlanks with
    | none => return a
    | some _ => Read.failAhead .trailingCharacters
  (Id.run (whole.run.run { rest := bytes, source := source })).1

end PatternSuite.Json
