/-!
# Patterns and their dialects

A pattern is a text with the dialect it was written for.
-/

namespace PatternSuite

/-- What a pattern text may use. -/
inductive Dialect
  /-- Regular expressions proper. -/
  | basic
  /-- Look-around, back-references and the like. -/
  | fancy
  /-- Not known: basic if it can be read so, else fancy. -/
  | adaptive
  deriving DecidableEq, Repr, Inhabited

namespace Dialect

/-- The dialect's name. -/
def name : Dialect → String
  | basic => "basic"
  | fancy => "fancy"
  | adaptive => "adaptive"

/-- All dialects. -/
def all : List Dialect := [basic, fancy, adaptive]

/-- The dialect of a name. -/
def ofName? (s : String) : Option Dialect := all.find? (·.name == s)

end Dialect

/-- A pattern text and its dialect. -/
structure Pattern where
  dialect : Dialect
  text : String
  deriving DecidableEq, Repr, Inhabited

namespace Pattern

/-- A text of unknown dialect. -/
def ofText (text : String) : Pattern := ⟨.adaptive, text⟩

/-- Is there no text? -/
def isEmpty (p : Pattern) : Bool := p.text.isEmpty

end Pattern

end PatternSuite
