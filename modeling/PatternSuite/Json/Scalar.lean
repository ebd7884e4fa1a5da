import PatternSuite.Json.Scan
import PatternSuite.Text.Bytes

/-!
# Strings and numbers of JSON

* `Read.text`: a string, behind its opening quote.
* `Read.number`: a number, behind its sign.
* `Read.skipText`, `Read.skipNumber`: pass over them. What is passed over is not looked at as
  closely: its bytes need be no text, and its number may be too large.
-/

namespace PatternSuite.Json

open Text

/-- The value of a hexadecimal digit. -/
def hexDigit? (b : UInt8) : Option Nat :=
  let n := b.toNat
  if isDigit b then some (n - 48)
  else if 65 ≤ n ∧ n ≤ 70 then some (n - 55)
  else if 97 ≤ n ∧ n ≤ 102 then some (n - 87)
  else none

/-- The bytes of a code point. -/
def codePointBytes (n : Nat) : List UInt8 := textBytes (String.singleton (Char.ofNat n))

/-- The character of a letter behind a backslash. -/
def shortEscape? (b : UInt8) : Option UInt8 :=
  if b == 34 || b == 92 || b == 47 then some b
  else if b = byte 'b' then some 8
  else if b = byte 'f' then some 12
  else if b = byte 'n' then some 10
  else if b = byte 'r' then some 13
  else if b = byte 't' then some 9
  else none

namespace Read

/-- Reads a byte of a string. -/
def textByte : Read UInt8 := do
  match ← next with
  | some b => return b
  | none => failHere .stringUnclosed

/-- Looks at a byte of a string. -/
def peekTextByte : Read UInt8 := do
  match ← peek with
  | some b => return b
  | none => failHere .stringUnclosed

/-- Reads four hexadecimal digits. -/
def hexEscape : Read Nat := do
  let a ← textByte
  let b ← textByte
  let c ← textByte
  let d ← textByte
  match [a, b, c, d].mapM hexDigit? with
  | some ds => return ds.foldl (fun n d => 16 * n + d) 0
  | none => failHere .invalidEscape

/-- Reads a certain byte of a pair of escapes. -/
def pairByte (expected : UInt8) : Read Unit := do
  let b ← peekTextByte
  eat
  if b ≠ expected then failHere .pairUnfinished

/-- Reads the code point of an escape with digits; one beyond four digits takes a pair of them. -/
def codePoint : Read Nat := do
  let n ← hexEscape
  if 0xDC00 ≤ n ∧ n ≤ 0xDFFF then failHere .loneHalf
  if n < 0xD800 ∨ 0xDBFF < n then return n
  pairByte 92
  pairByte (byte 'u')
  let m ← hexEscape
  if m < 0xDC00 ∨ 0xDFFF < m then failHere .loneHalf
  return (n - 0xD800) * 0x400 + (m - 0xDC00) + 0x10000

/-- Reads what follows a backslash. -/
def escape : Read (List UInt8) := do
  let b ← textByte
  match shortEscape? b with
  | some c => return [c]
  | none => if b = byte 'u' then return codePointBytes (← codePoint) else failHere .invalidEscape

/-- Reads a string, behind its opening quote. If its bytes are no text, the fault is placed in front
of the closing quote. -/
def text : Read String :=
  repeatedly
    (fun (done : List UInt8) => do
      let place := (← get).place
      let b ← textByte
      if b = 34 then
        match textOfBytes? done.reverse with
        | some s => return .done s
        | none => throw ⟨.invalidText, some place⟩
      else if b = 92 then return .again ((← escape).reverse ++ done)
      else if b < 32 then failHere .controlCharacter
      else return .again (b :: done))
    []

/-- Passes over what follows a backslash. -/
def skipEscape : Read Unit := do
  let b ← textByte
  if (shortEscape? b).isSome then return ()
  else if b = byte 'u' then let _ ← hexEscape
  else failHere .invalidEscape

/-- Passes over a string, behind its opening quote. -/
def skipText : Read Unit :=
  repeatedly
    (fun (_ : Unit) => do
      if (← get).source = .whole ∧ (← get).rest.head?.any (· < 32) then failHere .controlCharacter
      let b ← textByte
      if b = 34 then return .done ()
      else if b = 92 then
        skipEscape
        return .again ()
      else if b < 32 then failHere .controlCharacter
      else return .again ())
    ()

/-! ### Numbers -/

/-- The greatest number that is kept exactly. -/
def maxWhole : Nat := Nat.pow 2 64 - 1

/-- The greatest power of ten in floating point. -/
def maxPower : Nat := 308

/-- A power of ten up to the greatest. -/
def powerOfTen (n : Nat) : Float := Float.ofScientific 1 false n

/-- Divides by powers of ten, the greatest first. -/
def divideDown (x : Float) : Nat → Nat → Float
  | 0, _ => x
  | fuel + 1, power =>
    if power ≤ maxPower then x / powerOfTen power
    else if x == 0.0 then x
    else divideDown (x / powerOfTen maxPower) fuel (power - maxPower)

/-- The floating-point number of digits and a power of ten. -/
def real (positive : Bool) (digits : Nat) (power : Int) : Read Number := do
  let x := (UInt64.ofNat digits).toFloat
  let y ←
    if power < 0 then pure (divideDown x (power.natAbs / maxPower + 1) power.natAbs)
    else if power ≤ (maxPower : Int) then
      let y := x * powerOfTen power.toNat
      if y.isInf then failHere .numberOutOfRange
      pure y
    else if x == 0.0 then pure x
    else failHere .numberOutOfRange
  return .real (if positive then y else -y)

/-- Reads digits as long as the number can be kept exactly; gives how many there were. -/
def digits (n : Nat) : Read (Nat × Nat) :=
  repeatedly
    (fun (n, count) => do
      match ← peek with
      | some b =>
        let m := 10 * n + (b.toNat - 48)
        if isDigit b ∧ m ≤ maxWhole then
          eat
          return .again (m, count + 1)
        else return .done (n, count)
      | none => return .done (n, count))
    (n, 0)

/-- Passes over digits and counts them. -/
def countDigits : Read Nat := do
  let before := (← get).rest.length
  skipDigits
  return before - (← get).rest.length

/-- The greatest power of ten that is counted. -/
def maxExponent : Nat := Nat.pow 2 31 - 1

/-- A power of ten within what is counted. -/
def clampExponent (e : Int) : Int := max (-(Nat.pow 2 31)) (min e maxExponent)

/-- Reads the digits of an exponent; there is none when it is too great. -/
def exponentDigits (n : Nat) : Read (Option Nat) :=
  repeatedly
    (fun n => do
      match ← peek with
      | some b =>
        if isDigit b then
          eat
          let m := 10 * n + (b.toNat - 48)
          if maxExponent < m then return .done none else return .again m
        else return .done (some n)
      | none => return .done (some n))
    n

/-- Reads an exponent, behind the digits of a number. -/
def exponent (positive : Bool) (n : Nat) (power : Int) : Read Number := do
  eat
  let up ← match ← peek with
    | some b =>
      if b = byte '+' then
        eat
        pure true
      else if b = byte '-' then
        eat
        pure false
      else pure true
    | none => pure true
  match ← next with
  | none => failHere .valueMissing
  | some b =>
    if !isDigit b then failHere .invalidNumber
    match ← exponentDigits (b.toNat - 48) with
    | some e => real positive n (clampExponent (if up then power + e else power - e))
    | none =>
      if n ≠ 0 ∧ up then failHere .numberOutOfRange
      skipDigits
      return .real (if positive then 0.0 else -0.0)

/-- Is the byte the sign of an exponent? -/
def isExponentSign (b : UInt8) : Bool := b == byte 'e' || b == byte 'E'

/-- Reads an exponent if there is one. -/
def optionalExponent (positive : Bool) (n : Nat) (power : Int) : Read Number := do
  if (← peek).any isExponentSign then exponent positive n power else real positive n power

/-- Reads the digits behind a point. Digits beyond those that can be kept are dropped. -/
def fraction (positive : Bool) (n : Nat) (power : Int) : Read Number := do
  eat
  let (n, count) ← digits n
  let dropped ← countDigits
  if count = 0 ∧ dropped = 0 then
    match ← peek with
    | some _ => failAhead .invalidNumber
    | none => failAhead .valueMissing
  optionalExponent positive n (power - (count : Int))

/-- Reads the rest of a number behind its whole part; `dropped` digits of it were not kept. -/
def numberRest (positive : Bool) (n dropped : Nat) : Read Number := do
  let b := (← peek).getD 0
  if b = byte '.' then fraction positive n dropped
  else if isExponentSign b then exponent positive n dropped
  else if dropped ≠ 0 then real positive n dropped
  else if positive then return .whole n
  else if n = 0 ∨ Nat.pow 2 63 < n then return .real (-(UInt64.ofNat n).toFloat)
  else return .whole (-(n : Int))

/-- Reads a number, behind its sign. -/
def number (positive : Bool) : Read Number := do
  match ← next with
  | none => failHere .valueMissing
  | some b =>
    if b = 48 then
      if (← peek).any isDigit then failAhead .invalidNumber
      numberRest positive 0 0
    else if isDigit b then
      let (n, _) ← digits (b.toNat - 48)
      let dropped ← countDigits
      numberRest positive n dropped
    else failHere .invalidNumber

/-- Passes over an exponent. -/
def skipExponent : Read Unit := do
  eat
  if (← peek).any fun b => b == byte '+' || b == byte '-' then eat
  if !(← next).any isDigit then failHere .invalidNumber
  skipDigits

/-- Passes over a number, behind its sign. -/
def skipNumber : Read Unit := do
  let b := (← next).getD 0
  if b = 48 then
    if (← peek).any isDigit then failAhead .invalidNumber
  else if isDigit b then skipDigits
  else failHere .invalidNumber
  let b := (← peek).getD 0
  if b = byte '.' then
    eat
    if (← countDigits) = 0 then failAhead .invalidNumber
    if (← peek).any isExponentSign then skipExponent
  else if isExponentSign b then skipExponent

end Read

end PatternSuite.Json
