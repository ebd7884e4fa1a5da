import PatternSuite.Captures
import PatternSuite.NameTable
import PatternSuite.Text.Quoted

/-!
# Compiled patterns

A compiled pattern is a form of the ledger together with what is known of its capture groups. It
never changes once it is made.
-/

namespace PatternSuite

/-- A compiled form, its source, and its capture groups. -/
structure CompiledPattern where
  /-- The form's number in the ledger. -/
  form : Nat
  source : String
  /-- How many groups capture, not counting the whole match. -/
  captures : Nat
  /-- The names of groups, if there are any. -/
  names : Option NameTable
  deriving DecidableEq, Repr

namespace CompiledPattern

/-- How many groups have names. -/
def namedCaptures (p : CompiledPattern) : Nat := (p.names.map NameTable.length).getD 0

/-- The entry size of the name table, or zero without one. -/
def nameSize (p : CompiledPattern) : Nat := (p.names.map NameTable.entrySize).getD 0

/-- The group of a name. -/
def captureIndex? (p : CompiledPattern) (name : String) : Option Nat :=
  p.names.bind (·.group? name)

/-- The names by group number; number 0 is the whole match. Of two names for one group the later
one counts. -/
def captureNames (p : CompiledPattern) : Array (Option String) :=
  ((p.names.map NameTable.entries).getD []).foldl
    (fun slots e => slots.setIfInBounds e.2 (some e.1))
    (Array.replicate (p.captures + 1) none)

/-- A buffer with a slot for every group. -/
def captureBuffer (p : CompiledPattern) : Captures := Captures.ofCapacity (p.captures + 1)

/-- The pattern for people. -/
def report (p : CompiledPattern) : String :=
  "CompiledPattern \x7b source: " ++ Text.quote p.source ++ ", captures: " ++ toString p.captures
    ++ ", named_captures: " ++ toString p.namedCaptures ++ " \x7d"

end CompiledPattern

end PatternSuite
