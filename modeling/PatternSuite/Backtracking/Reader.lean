import PatternSuite.Backtracking.Expr
import PatternSuite.Backtracking.Fault
import PatternSuite.Text.Turns
import PatternSuite.Unicode.Classes

/-!
# Reading fancy patterns

From the text of a fancy pattern to its tree. Flags hold from where they are set to the end of the
pattern, or to the end of the group that sets them in front of a colon. Comments in parentheses are
passed over anywhere between parts, blanks and comments to the end of a line in the extended style.

* `Tree.read`: the whole text.
-/

namespace PatternSuite.Backtracking

open Text
open Regular (Look)

/-- Where reading stands, and what has been learned on the way. -/
structure Scan where
  /-- The characters not yet read. -/
  rest : List Char
  /-- The byte offset of the place. -/
  offset : Nat
  /-- The number of bytes of the whole pattern. -/
  length : Nat
  caseless : Bool := false
  multiline : Bool := false
  dotall : Bool := false
  ungreedy : Bool := false
  extended : Bool := false
  /-- How many groups have been opened. -/
  groups : Nat := 0
  /-- Names of groups, the latest first. -/
  names : List (String × Nat) := []
  /-- Groups that are referred to. -/
  referred : List Nat := []
  /-- Does a number refer to a group? -/
  numbered : Bool := false

/-- A reader of a part of a pattern. -/
abbrev Read := StateT Scan (Except Refusal)

namespace Read

/-- Gives up because of a fault. -/
def fail {α : Type} (fault : Fault) (offset : Nat) : Read α := throw (.unreadable fault offset)

/-- The next character. -/
def peek : Read (Option Char) := return (← get).rest.head?

/-- The offset of the place. -/
def offset : Read Nat := return (← get).offset

/-- Reads one character. -/
def bump : Read Unit := modify fun s =>
  match s.rest with
  | [] => s
  | c :: cs => { s with rest := cs, offset := s.offset + c.utf8Size }

/-- Reads some characters. -/
def bumpBy : Nat → Read Unit
  | 0 => return ()
  | n + 1 => do
    bump
    bumpBy n

/-- Does a text come next? -/
def startsWith (text : String) : Read Bool := return text.toList.isPrefixOf (← get).rest

/-- Goes back to a place, keeping what has been learned. -/
def moveTo (place : Scan) : Read Unit :=
  modify fun s => { s with rest := place.rest, offset := place.offset }

/-- Takes turns until one is the last. -/
def repeatedly {α β : Type} [Inhabited β] (step : α → Read (Turn α β)) (a : α) : Read β := do
  takeTurns step ((← get).rest.length + 2) a

/-- The characters that the loop reads as long as a test holds. -/
def takeWhile (test : Char → Bool) : Read (List Char) := do
  let found := (← get).rest.takeWhile test
  bumpBy found.length
  return found

end Read

open Read

/-! ### Blanks and comments -/

/-- Passes over the inside of a comment in parentheses; a backslash hides the character behind
it. -/
def skipComment : Read Unit :=
  repeatedly (fun (_ : Unit) => do
    match ← peek with
    | none => fail .unclosedParenthesis (← offset)
    | some ')' =>
      bump
      return .done ()
    | some '\\' =>
      bumpBy 2
      return .again ()
    | some _ =>
      bump
      return .again ()) ()

/-- Passes over blanks and comments. -/
def skipBlanks : Read Unit :=
  repeatedly (fun (_ : Unit) => do
    let s ← get
    match s.rest with
    | '(' :: '?' :: '#' :: _ =>
      bumpBy 3
      skipComment
      return .again ()
    | c :: _ =>
      if s.extended && c == '#' then
        let _ ← takeWhile (· != '\n')
        bump
        return .again ()
      else if s.extended && (c == ' ' || c == '\r' || c == '\n' || c == '\t') then
        bump
        return .again ()
      else return .done ()
    | [] => return .done ()) ()

/-! ### Numbers, names and escapes -/

/-- The greatest number that can be read. -/
def greatestNumber : Nat := 0xFFFFFFFFFFFFFFFF

/-- A decimal number, if there is one that is not too great; else nothing is read. -/
def readDecimal? : Read (Option Nat) := do
  let place ← get
  let digits ← takeWhile Char.isDigit
  let n := digits.foldl (fun n d => n * 10 + (d.toNat - '0'.toNat)) 0
  if digits.isEmpty || greatestNumber < n then
    moveTo place
    return none
  return some n

/-- May the character stand in a name? -/
def isNameChar (c : Char) : Bool := Unicode.isAlphanumeric c || c == '_'

/-- The name at the beginning of some characters, between an opening and a closing mark. A relative
number may stand there too if it is allowed. -/
def nameAt? (opening closing : String) (relative : Bool) (cs : List Char) : Option (List Char) :=
  if !opening.toList.isPrefixOf cs then none
  else
    let inside := cs.drop opening.length
    let name := match inside with
      | '-' :: number =>
        if relative then '-' :: number.takeWhile isNameChar else inside.takeWhile isNameChar
      | _ => inside.takeWhile isNameChar
    if name.isEmpty || !closing.toList.isPrefixOf (inside.drop name.length) then none
    else some name

/-- The number of a group that a name stands for: a group of that name, a number, or a number
counted back from the latest group. -/
def groupOfName? (s : Scan) (name : List Char) : Option Nat :=
  let text := String.ofList name
  match s.names.find? fun n => n.1 == text with
  | some (_, group) => some group
  | none =>
    match name with
    | '-' :: digits =>
      if digits.isEmpty || !digits.all Char.isDigit then none
      else
        let back := digits.foldl (fun n d => n * 10 + (d.toNat - '0'.toNat)) 0
        if back = 0 then some 0
        else if back ≤ s.groups + 1 then some (s.groups + 1 - back) else none
    | digits =>
      if !digits.isEmpty && digits.all Char.isDigit then
        let n := digits.foldl (fun n d => n * 10 + (d.toNat - '0'.toNat)) 0
        if n < 0x8000000000000000 then some n else none
      else none

/-- A reference to a group by name. -/
def readNamedReference (opening closing : String) (relative : Bool) : Read Expr := do
  let s ← get
  match nameAt? opening closing relative s.rest with
  | none => fail .invalidGroupName s.offset
  | some name =>
    match groupOfName? s name with
    | none => fail (.unknownGroupName (String.ofList name)) s.offset
    | some group =>
      bumpBy (opening.length + name.length + closing.length)
      modify fun s => { s with referred := group :: s.referred }
      return .sameAs group

/-- A reference to a group by number. No number may reach half the length of the pattern. -/
def readNumberedReference : Read Expr := do
  let s ← get
  match ← readDecimal? with
  | some group =>
    if group < s.length / 2 then
      modify fun s => { s with numbered := true, referred := group :: s.referred }
      return .sameAs group
    fail .invalidGroupNumber s.offset
  | none => fail .invalidGroupNumber s.offset

/-- The value of a hexadecimal digit in either case. -/
def hexValue? (c : Char) : Option Nat :=
  if c.isDigit then some (c.toNat - '0'.toNat)
  else if 'a' ≤ c ∧ c ≤ 'f' then some (c.toNat - 'a'.toNat + 10)
  else if 'A' ≤ c ∧ c ≤ 'F' then some (c.toNat - 'A'.toNat + 10)
  else none

/-- A character in hexadecimal: exactly `count` digits, or one to eight digits in braces. -/
def readHex (count : Nat) : Read Expr := do
  let s ← get
  let isHex (c : Char) : Bool := (hexValue? c).isSome
  let fixed := s.rest.take count
  let digits : List Char ←
    if fixed.length = count ∧ fixed.all isHex then
      bumpBy count
      pure fixed
    else match s.rest with
      | '{' :: inside =>
        let digits := (inside.take 8).takeWhile isHex
        if digits.isEmpty || (inside.drop digits.length).head? != some '}' then
          fail .invalidHex s.offset
        bumpBy (digits.length + 2)
        pure digits
      | _ => fail .invalidHex s.offset
  let value := digits.foldl (fun n d => n * 16 + (hexValue? d).getD 0) 0
  if value < 0xD800 || (0xDFFF < value && value < 0x110000) then
    return .literal [Char.ofNat value] s.caseless
  fail .invalidCodePoint s.offset

/-- The letters that mean something behind a backslash outside of classes only, and stand for
themselves inside. -/
def outsideOnly : List Char := ['k', 'A', 'z', 'b', 'B', 'K', 'G']

/-- The condition of a letter. -/
def look? : Char → Option Look
  | 'A' => some .start
  | 'z' => some .stop
  | 'b' => some (.word true .boundary)
  | 'B' => some (.word true .inside)
  | '<' => some (.word true .start)
  | '>' => some (.word true .stop)
  | _ => none

/-- A property, from its letter on: another letter or a name in braces. -/
def readProperty (start : Nat) (letter : Char) : Read Expr := do
  let s ← get
  let source (cs : List Char) : String := String.ofList ('\\' :: letter :: cs)
  match s.rest with
  | '{' :: inside =>
    let name := inside.takeWhile (· != '}')
    if (inside.drop name.length).isEmpty then fail .unclosedProperty start
    bumpBy (name.length + 2)
    return .atom (source ('{' :: name ++ ['}'])) s.caseless
  | c :: _ =>
    bump
    return .atom (source [c]) s.caseless
  | [] => fail (.invalidEscape (source [])) start

/-- The character that a letter behind a backslash stands for. -/
def controlChar? (inClass : Bool) : Char → Option Char
  | 'a' => some '\x07'
  | 'b' => if inClass then some '\x08' else none
  | 'f' => some '\x0c'
  | 'n' => some '\n'
  | 'r' => some '\r'
  | 't' => some '\t'
  | 'v' => some '\x0b'
  | 'e' => some '\x1b'
  | _ => none

/-- An escape, from its backslash on. -/
def readEscape (inClass : Bool) : Read Expr := do
  let s ← get
  match s.rest.drop 1 with
  | [] => fail .trailingBackslash s.offset
  | c :: behind =>
    bump
    if c.isDigit then return ← readNumberedReference
    bump
    let spelled := String.ofList ['\\', c]
    if !inClass && c == 'k' then
      if behind.head? == some '\'' then return ← readNamedReference "'" "'" true
      return ← readNamedReference "<" ">" true
    if !inClass && (c == 'b' || c == 'B') && behind.head? == some '{' then
      fail (.invalidEscape spelled) s.offset
    if !inClass then
      if let some l := look? c then return .look l
      if c == 'K' then return .keepOut
      if c == 'G' then return .searchStart
    if "dswDSW".contains c then return .atom spelled s.caseless
    if c == 'h' then return .atom "[0-9A-Fa-f]" false
    if c == 'H' then return .atom "[^0-9A-Fa-f]" false
    if c == 'x' then return ← readHex 2
    if c == 'u' then return ← readHex 4
    if c == 'U' then return ← readHex 8
    if c == 'p' || c == 'P' then return ← readProperty s.offset c
    if let some control := controlChar? inClass c then return .literal [control] false
    if c.isAlpha && !outsideOnly.contains c then fail (.invalidEscape spelled) s.offset
    return .literal [c] false

/-! ### Classes -/

/-- A class so far: its text as a basic pattern spells it, last piece first, and how many brackets
are open. -/
structure OpenClass where
  pieces : List String
  brackets : Nat

/-- Has the character a meaning of its own in a class? -/
def isClassSpecial (c : Char) : Bool := "\\.+*?()|[]{}^$#&-~".contains c

/-- A class in brackets. Its escapes are spelled anew, and all else is left as it stands. -/
def readClass : Read Expr := do
  bump
  let caret := (← peek) == some '^'
  if caret then bump
  let bracket := (← peek) == some ']'
  if bracket then bump
  let pieces := (if bracket then ["]"] else []) ++ (if caret then ["^"] else []) ++ ["["]
  let source : String ← repeatedly (fun (c : OpenClass) => do
    let here ← offset
    match ← peek with
    | none => fail .invalidClass here
    | some '\\' =>
      match ← readEscape true with
      | .literal chars _ =>
        let piece := String.ofList (chars.flatMap fun c =>
          if isClassSpecial c then ['\\', c] else [c])
        return .again { c with pieces := piece :: c.pieces }
      | .atom source _ => return .again { c with pieces := source :: c.pieces }
      | _ => fail .invalidClass here
    | some '[' =>
      bump
      return .again ⟨"[" :: c.pieces, c.brackets + 1⟩
    | some ']' =>
      bump
      if c.brackets ≤ 1 then return .done (String.join ("]" :: c.pieces).reverse)
      return .again ⟨"]" :: c.pieces, c.brackets - 1⟩
    | some x =>
      bump
      return .again { c with pieces := String.singleton x :: c.pieces }) ⟨pieces, 1⟩
  return .atom source (← get).caseless

/-! ### Repetitions and groups -/

/-- A count in braces, if it is one; the place behind it is kept only then. -/
def readCount? : Read (Option (Nat × Option Nat)) := do
  let place ← get
  try
    bump
    skipBlanks
    let min? ← if (← peek) == some ',' then pure (some 0) else readDecimal?
    match min? with
    | none =>
      moveTo place
      return none
    | some min =>
      skipBlanks
      let max? : Option (Option Nat) ← match ← peek with
        | some '}' => pure (some (some min))
        | some ',' => do
          bump
          skipBlanks
          pure (some ((← readDecimal?)))
        | _ => pure none
      skipBlanks
      match max? with
      | some max =>
        if (← peek) == some '}' then
          bump
          return some (min, max)
        moveTo place
        return none
      | none =>
        moveTo place
        return none
  catch _ =>
    moveTo place
    return none

/-- May the expression be repeated? -/
def isRepeatable : Expr → Bool
  | .around .. => false
  | .empty => false
  | .look _ => false
  | _ => true

/-- The end of a group. -/
def readClose : Read Unit := do
  skipBlanks
  match ← peek with
  | none => fail .unclosedParenthesis (← offset)
  | some ')' => bump
  | some _ => fail .closeExpected (← offset)

/-- Sets one flag, if the letter is one. -/
def setFlag? (letter : Char) (on : Bool) (s : Scan) : Option Scan :=
  match letter with
  | 'i' => some { s with caseless := on }
  | 'm' => some { s with multiline := on }
  | 's' => some { s with dotall := on }
  | 'U' => some { s with ungreedy := on }
  | 'x' => some { s with extended := on }
  | _ => none

/-- Flags up to the colon or parenthesis that ends them, which is read too. Is it a colon? -/
def readFlags : Read Bool := do
  let first ← get
  let unknown {α : Type} : Read α := do
    let here ← get
    let upTo := first.rest.take (first.rest.length - here.rest.length + 1)
    fail (.unknownFlag (String.ofList ('(' :: '?' :: upTo))) first.offset
  repeatedly (fun (negated : Bool) => do
    skipBlanks
    let s ← get
    match s.rest with
    | [] => fail .unclosedParenthesis s.offset
    | 'u' :: _ =>
      if negated then fail .unicodeRequired s.offset
      bump
      return .again negated
    | '-' :: _ =>
      if negated then unknown
      bump
      return .again true
    | ')' :: _ =>
      if s.offset = first.offset || (negated && s.offset = first.offset + 1) then unknown
      bump
      return .done false
    | ':' :: _ =>
      if negated && s.offset = first.offset + 1 then unknown
      bump
      return .done true
    | c :: _ =>
      match setFlag? c (!negated) s with
      | none => unknown
      | some s =>
        set s
        bump
        return .again negated) false

/-- How deeply groups may be nested, counted from one. -/
def nestLimit : Nat := 64

/-- What begins a group, up to its inside. -/
inductive Opening
  | group
  | around (kind : Around)
  | atomic
  | reference
  | conditional
  | flags

/-- Reads what begins a group, behind its parenthesis. -/
def readOpening : Read Opening := do
  let s ← get
  let named (skip : Nat) : Read Opening := do
    modify fun s => { s with groups := s.groups + 1 }
    match nameAt? "<" ">" false (s.rest.drop skip) with
    | none => fail .invalidGroupName s.offset
    | some name =>
      bumpBy (skip + name.length + 2)
      modify fun s => { s with names := (String.ofList name, s.groups) :: s.names }
      return .group
  match s.rest with
  | '?' :: '=' :: _ =>
    bumpBy 2
    return .around .ahead
  | '?' :: '!' :: _ =>
    bumpBy 2
    return .around .notAhead
  | '?' :: '<' :: '=' :: _ =>
    bumpBy 3
    return .around .behind
  | '?' :: '<' :: '!' :: _ =>
    bumpBy 3
    return .around .notBehind
  | '?' :: '<' :: _ => named 1
  | '?' :: 'P' :: '<' :: _ => named 2
  | '?' :: 'P' :: '=' :: _ =>
    bumpBy 3
    return .reference
  | '?' :: '>' :: _ =>
    bumpBy 2
    return .atomic
  | '?' :: '(' :: _ =>
    bumpBy 2
    return .conditional
  | '?' :: _ =>
    bump
    return .flags
  | _ =>
    modify fun s => { s with groups := s.groups + 1 }
    return .group

/-- Several branches of which the first is what a conditional chooses when it holds. -/
def conditionalBranches : Expr → Expr × Expr
  | .choice (whenTrue :: rest) =>
    match rest with
    | [whenFalse] => (whenTrue, whenFalse)
    | rest => (whenTrue, .choice rest)
  | body => (body, .empty)

/-! ### The grammar -/

mutual

/-- Branches, up to what cannot belong to them. Numbers cannot refer to groups once groups have
names. -/
def readBranches : Nat → Nat → Read Expr
  | 0, _ => return .empty
  | fuel + 1, depth => do
    let first ← readBranch fuel depth
    skipBlanks
    if (← peek) != some '|' then
      let s ← get
      if s.numbered && !s.names.isEmpty then throw (.obstacle .namedGroupsOnly)
      return first
    let branches : List Expr ← repeatedly (fun (done : List Expr) => do
      if (← peek) == some '|' then
        bump
        let branch ← readBranch fuel depth
        skipBlanks
        return .again (branch :: done)
      else return .done done.reverse) [first]
    return .choice branches

/-- Parts in a row. -/
def readBranch : Nat → Nat → Read Expr
  | 0, _ => return .empty
  | fuel + 1, depth => do
    let parts : List Expr ← repeatedly (fun (done : List Expr) => do
      let before ← offset
      if (← peek).isNone then return .done done.reverse
      let part ← readPart fuel depth
      if (← offset) = before then return .done done.reverse
      return .again (match part with
        | .empty => done
        | part => part :: done)) []
    return match parts with
      | [] => .empty
      | [e] => e
      | parts => .row parts

/-- A part with its repetition. A repetition with a plus sign behind it is matched in one way
only. -/
def readPart : Nat → Nat → Read Expr
  | 0, _ => return .empty
  | fuel + 1, depth => do
    let body ← readAtom fuel depth
    skipBlanks
    let here ← get
    let count? : Option (Nat × Option Nat × Nat) ← match here.rest with
      | '?' :: _ => pure (some (0, some 1, here.offset))
      | '*' :: _ => pure (some (0, none, here.offset))
      | '+' :: _ => pure (some (1, none, here.offset))
      | '{' :: _ => do
        match ← readCount? with
        | some (min, max) => pure (some (min, max, (← offset) - 1))
        | none => pure none
      | _ => pure none
    match count? with
    | none => return body
    | some (min, max, stop) =>
      if !isRepeatable body then fail .notRepeatable stop
      if (← offset) = here.offset then bump
      skipBlanks
      let lazy := (← peek) == some '?'
      if lazy then bump
      let node := Expr.times min max (lazy == (← get).ungreedy) body
      if (← peek) == some '+' then
        bump
        return .atomic node
      return node

/-- A single part. -/
def readAtom : Nat → Nat → Read Expr
  | 0, _ => return .empty
  | fuel + 1, depth => do
    skipBlanks
    let s ← get
    match s.rest with
    | [] => return .empty
    | '.' :: _ =>
      bump
      return .any s.dotall
    | '^' :: _ =>
      bump
      return .look (if s.multiline then .lineStart else .start)
    | '$' :: _ =>
      bump
      return .look (if s.multiline then .lineStop else .stop)
    | '(' :: _ => readGroup fuel depth
    | '\\' :: _ => readEscape false
    | '[' :: _ => readClass
    | c :: _ =>
      if "+*?|)".contains c then return .empty
      bump
      return .literal [c] s.caseless

/-- A group, from its parenthesis on. -/
def readGroup : Nat → Nat → Read Expr
  | 0, _ => return .empty
  | fuel + 1, depth => do
    if nestLimit ≤ depth + 1 then fail .tooDeep (← offset)
    bump
    skipBlanks
    match ← readOpening with
    | .reference => readNamedReference "" ")" false
    | .conditional => readConditional fuel (depth + 1)
    | .flags =>
      let outside ← get
      if ← readFlags then
        let body ← readBranches fuel (depth + 1)
        readClose
        modify fun s =>
          { s with
            caseless := outside.caseless, multiline := outside.multiline, dotall := outside.dotall
            ungreedy := outside.ungreedy, extended := outside.extended }
        return body
      return .empty
    | .group =>
      let body ← readBranches fuel (depth + 1)
      readClose
      return .group body
    | .around kind =>
      let body ← readBranches fuel (depth + 1)
      readClose
      return .around kind body
    | .atomic =>
      let body ← readBranches fuel (depth + 1)
      readClose
      return .atomic body

/-- A conditional, behind the parenthesis of its condition. -/
def readConditional : Nat → Nat → Read Expr
  | 0, _ => return .empty
  | fuel + 1, depth => do
    let condition ← match ← peek with
      | none => do fail .unclosedParenthesis (← offset)
      | some c =>
        if c.isDigit then readNumberedReference
        else if c == '\'' then readNamedReference "'" "'" true
        else if c == '<' then readNamedReference "<" ">" true
        else readBranches fuel depth
    readClose
    let before ← offset
    let body ← readBranches fuel depth
    let stop ← offset
    let condition' := match condition with
      | .sameAs group => .groupSet group
      | e => e
    if stop = before then
      match condition with
      | .sameAs group =>
        readClose
        return .groupSet group
      | _ => fail .conditionalExpected stop
    let (whenTrue, whenFalse) := conditionalBranches body
    readClose
    return match whenTrue, whenFalse with
      | .empty, .empty => condition'
      | _, _ => .ifElse condition' whenTrue whenFalse

end

/-- A pattern that has been read: its tree, the groups it refers to, and the names of groups. -/
structure Tree where
  expr : Expr
  referred : List Nat
  names : List (String × Nat)
  deriving Inhabited

/-- The tree of a pattern. Every level of the grammar takes fuel, and five levels read at least
one character. -/
def Tree.read (text : String) : Except Refusal Tree := do
  let chars := text.toList
  let start : Scan := { rest := chars, offset := 0, length := text.utf8ByteSize }
  let (expr, s) ← (readBranches (6 * (chars.length + 6)) 0).run start
  if !s.rest.isEmpty then throw (.unreadable .notAtEnd s.offset)
  return ⟨expr, s.referred, s.names⟩

end PatternSuite.Backtracking
