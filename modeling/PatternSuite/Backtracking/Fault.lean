/-!
# Faults of fancy patterns

Why a text is no fancy pattern, or why a fancy pattern cannot be matched.
-/

namespace PatternSuite.Backtracking

/-- Why a text is no fancy pattern. -/
inductive Fault
  /-- Something stands behind the end of the pattern. -/
  | notAtEnd
  /-- Something stands where a group should end. -/
  | closeExpected
  /-- A conditional is empty, and its condition is no back-reference. -/
  | conditionalExpected
  | unclosedParenthesis
  | tooDeep
  | trailingBackslash
  | invalidEscape (escape : String)
  | unclosedProperty
  | invalidHex
  | invalidCodePoint
  | invalidClass
  | unknownFlag (flags : String)
  | unicodeRequired
  | invalidGroupNumber
  | invalidGroupName
  | unknownGroupName (name : String)
  | notRepeatable
  deriving DecidableEq, Repr, Inhabited

/-- The fault in words. -/
def Fault.message : Fault → String
  | notAtEnd => "General parsing error: end of string not reached"
  | closeExpected => "General parsing error: expected close paren"
  | conditionalExpected =>
    "General parsing error: expected conditional to be a backreference or at least an expression "
      ++ "for when the condition is true"
  | unclosedParenthesis => "Opening parenthesis without closing parenthesis"
  | tooDeep => "Pattern too deeply nested"
  | trailingBackslash => "Backslash without following character"
  | invalidEscape escape => "Invalid escape: " ++ escape
  | unclosedProperty => "Unicode escape not closed"
  | invalidHex => "Invalid hex escape"
  | invalidCodePoint => "Invalid codepoint for hex or unicode escape"
  | invalidClass => "Invalid character class"
  | unknownFlag flags => "Unknown group flag: " ++ flags
  | unicodeRequired => "Disabling Unicode not supported"
  | invalidGroupNumber => "Invalid back reference"
  | invalidGroupName => "Could not parse group name"
  | unknownGroupName name => "Invalid group name in back reference: " ++ name
  | notRepeatable => "Target of repeat operator is invalid"

/-- Why a fancy pattern cannot be matched, though it can be read. -/
inductive Obstacle
  /-- A group is referred to that does not come before. -/
  | unknownGroup
  /-- A look behind would have to go back by various numbers of characters. -/
  | lookBehindSize
  /-- A number refers to a group, but groups have names. -/
  | namedGroupsOnly
  /-- A regular part cannot be read. -/
  | partUnreadable
  /-- A regular part would take too much room. -/
  | partTooLarge
  deriving DecidableEq, Repr, Inhabited

/-- The obstacle in words. -/
def Obstacle.message : Obstacle → String
  | unknownGroup => "Error compiling regex: Invalid back reference"
  | lookBehindSize => "Error compiling regex: Look-behind assertion without constant size"
  | namedGroupsOnly =>
    "Error compiling regex: Numbered backref/call not allowed because named group was used, "
      ++ "use a named backref instead"
  | partUnreadable => "Error compiling regex: Regex error: error parsing pattern 0"
  | partTooLarge => "Error compiling regex: Regex error: error building NFA"

/-- Why a fancy pattern cannot be compiled. -/
inductive Refusal
  /-- The text is no pattern beyond a byte of it. -/
  | unreadable (fault : Fault) (offset : Nat)
  | obstacle (o : Obstacle)
  deriving DecidableEq, Repr, Inhabited

end PatternSuite.Backtracking
