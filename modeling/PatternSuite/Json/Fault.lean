import PatternSuite.Decimal.Shortest
import PatternSuite.Text.Quoted

/-!
# Faults of JSON texts

What can be wrong with a text that should hold a certain value in JSON: it is no JSON, or it holds
something else.

* `Fault.message`: the fault and its place in words.
-/

namespace PatternSuite.Json

/-- A number: whole if it was written so and is not too large, else in floating point. -/
inductive Number
  | whole (n : Int)
  | real (x : Float)
  deriving Repr, Inhabited

/-- What stands in a text where something else was expected. -/
inductive Found
  | null
  | bool (b : Bool)
  | number (n : Number)
  | text (s : String)
  | list
  | object
  deriving Repr, Inhabited

/-- What stands there, in words. -/
def Found.describe : Found → String
  | null => "null"
  | bool b => "boolean `" ++ toString b ++ "`"
  | number (.whole n) => "integer `" ++ toString n ++ "`"
  | number (.real x) => "floating point `" ++ Decimal.text x ++ "`"
  | text s => "string " ++ Text.quote s
  | list => "sequence"
  | object => "map"

/-- What is wrong. -/
inductive Cause
  /-- The text ends inside a list. -/
  | listUnclosed
  /-- The text ends inside an object. -/
  | objectUnclosed
  /-- The text ends inside a string. -/
  | stringUnclosed
  /-- The text ends where a value should be. -/
  | valueMissing
  | colonExpected
  | listSeparatorExpected
  | objectSeparatorExpected
  /-- A word is misspelt. -/
  | wordExpected
  | valueExpected
  | keyExpected
  | trailingComma
  /-- Something stands behind the value. -/
  | trailingCharacters
  | invalidEscape
  | invalidNumber
  /-- A number is too large for floating point. -/
  | numberOutOfRange
  /-- The bytes of a string are no text. -/
  | invalidText
  /-- A control character stands in a string. -/
  | controlCharacter
  /-- Half of a pair of escapes stands where it cannot begin one. -/
  | loneHalf
  /-- The second half of a pair of escapes is missing. -/
  | pairUnfinished
  /-- Lists and objects are nested too deeply. -/
  | tooDeep
  /-- A value is not of the expected type. -/
  | mismatch (found : Found) (expected : String)
  /-- A name is not among those that are known. -/
  | unknownName (name : String) (known : List String)
  | fieldMissing (field : String)
  | fieldRepeated (field : String)
  /-- A list ends too early. -/
  | tooShort (length : Nat) (expected : String)
  /-- The bytes of the text cannot be had. -/
  | unreadable (reason : String)
  deriving Repr, Inhabited

/-- Names one of which is expected, in words. -/
def oneOf (names : List String) : String :=
  match names.map fun n => "`" ++ n ++ "`" with
  | [] => "nothing"
  | [a] => a
  | [a, b] => a ++ " or " ++ b
  | quoted => "one of " ++ ", ".intercalate quoted

/-- What is wrong, in words. -/
def Cause.describe : Cause → String
  | listUnclosed => "EOF while parsing a list"
  | objectUnclosed => "EOF while parsing an object"
  | stringUnclosed => "EOF while parsing a string"
  | valueMissing => "EOF while parsing a value"
  | colonExpected => "expected `:`"
  | listSeparatorExpected => "expected `,` or `]`"
  | objectSeparatorExpected => "expected `,` or `\x7d`"
  | wordExpected => "expected ident"
  | valueExpected => "expected value"
  | keyExpected => "key must be a string"
  | trailingComma => "trailing comma"
  | trailingCharacters => "trailing characters"
  | invalidEscape => "invalid escape"
  | invalidNumber => "invalid number"
  | numberOutOfRange => "number out of range"
  | invalidText => "invalid unicode code point"
  | controlCharacter => "control character (\\u0000-\\u001F) found while parsing a string"
  | loneHalf => "lone leading surrogate in hex escape"
  | pairUnfinished => "unexpected end of hex escape"
  | tooDeep => "recursion limit exceeded"
  | mismatch found expected => "invalid type: " ++ found.describe ++ ", expected " ++ expected
  | unknownName name known => "unknown variant `" ++ name ++ "`, expected " ++ oneOf known
  | fieldMissing field => "missing field `" ++ field ++ "`"
  | fieldRepeated field => "duplicate field `" ++ field ++ "`"
  | tooShort length expected => "invalid length " ++ toString length ++ ", expected " ++ expected
  | unreadable reason => reason

/-- A place in a text: a line, and a number of bytes in it. -/
structure Position where
  line : Nat
  column : Nat
  deriving DecidableEq, Repr, Inhabited

/-- The place behind a byte. -/
def Position.after (p : Position) (b : UInt8) : Position :=
  if b = 10 then ⟨p.line + 1, 0⟩ else ⟨p.line, p.column + 1⟩

/-- What is wrong, and where if that is known. -/
structure Fault where
  cause : Cause
  place : Option Position := none
  deriving Repr, Inhabited

namespace Fault

/-- The fault with a place, unless it has one. -/
def placedAt (f : Fault) (p : Position) : Fault := { f with place := some (f.place.getD p) }

/-- The fault in words. -/
def message (f : Fault) : String :=
  f.cause.describe ++ (match f.place with
    | some p => " at line " ++ toString p.line ++ " column " ++ toString p.column
    | none => "")

/-- A report of the fault with its fields, on one line. -/
def report (f : Fault) : String :=
  let p := f.place.getD ⟨0, 0⟩
  "Error(" ++ Text.quote f.cause.describe ++ ", line: " ++ toString p.line ++ ", column: "
    ++ toString p.column ++ ")"

end Fault

end PatternSuite.Json
