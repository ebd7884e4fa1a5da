import PatternSuite.CompiledPattern
import PatternSuite.Error

/-!
# Registries

A registry lists the patterns of one load, in the order in which they were compiled, until the
batch pass takes them.
-/

namespace PatternSuite

/-- A registered pattern and the source it is reported under. -/
structure RegistryEntry where
  pattern : CompiledPattern
  name : String
  deriving DecidableEq, Repr

namespace RegistryEntry

/-- The entry of a pattern; it is named for its source. -/
def ofPattern (p : CompiledPattern) : RegistryEntry := ⟨p, p.source⟩

/-- The entry for people. -/
def report (e : RegistryEntry) : String := "RegistryEntry(" ++ Text.quote e.name ++ ")"

end RegistryEntry

/-- The patterns of a load, first to last. -/
structure Registry where
  entries : List RegistryEntry := []
  deriving DecidableEq, Repr

namespace Registry

/-- Nothing registered. -/
def empty : Registry := {}

/-- Registers a pattern after the others, if there is room for one more. -/
def push (r : Registry) (p : CompiledPattern) (room : Bool := true) :
    Except PatternError Registry :=
  if room then .ok ⟨r.entries ++ [.ofPattern p]⟩ else .error (.noMemory p.source)

/-- How many patterns there are. -/
def length (r : Registry) : Nat := r.entries.length

/-- Are there none? -/
def isEmpty (r : Registry) : Bool := r.entries.isEmpty

/-- The forms of the patterns, one for each entry. -/
def forms (r : Registry) : List Nat := r.entries.map (·.pattern.form)

/-- The registry for people. -/
def report (r : Registry) : String :=
  "[" ++ ", ".intercalate (r.entries.map RegistryEntry.report) ++ "]"

@[simp] theorem push_true (r : Registry) (p : CompiledPattern) :
    r.push p = .ok ⟨r.entries ++ [.ofPattern p]⟩ := rfl

@[simp] theorem push_false (r : Registry) (p : CompiledPattern) :
    r.push p false = .error (.noMemory p.source) := rfl

end Registry

end PatternSuite
