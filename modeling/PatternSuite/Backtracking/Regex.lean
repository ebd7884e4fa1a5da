import PatternSuite.Backtracking.Machine

/-!
# Compiled fancy patterns

A fancy pattern without hard parts is left as a whole to the matcher of basic patterns; any other
has a program of its own.

* `Fancy.compile`: from a text to a compiled pattern, or the reason why there is none.
* `Fancy.isMatch`, `Fancy.captures`: searching.
-/

namespace PatternSuite.Backtracking

open Text

/-- How a compiled fancy pattern searches. -/
inductive Matcher
  /-- As a basic pattern. -/
  | regular (r : Regular.Regex)
  /-- By a program, with its number of groups. -/
  | program (p : Program) (groups : Nat)
  deriving Inhabited

/-- A compiled fancy pattern. -/
structure Fancy where
  matcher : Matcher
  /-- The names of groups, the latest first. -/
  names : List (String × Nat)
  /-- How often a search may go back. -/
  limit : Nat
  deriving Inhabited

/-- The reason why a search came to no answer, in words. -/
def Exhaustion.message : Exhaustion → String
  | pile =>
    "Error executing regex: Max stack size exceeded for backtracking"
  | failures => "Error executing regex: Max limit for backtracking count exceeded"

namespace Fancy

/-- A part as a basic pattern. -/
def regularMatcher (e : Expr) : Except Obstacle Matcher :=
  match Regular.Regex.compile (e.spell 0) {} with
  | .error (.fault _) => .error .partUnreadable
  | .error .tooLarge => .error .partTooLarge
  | .ok r => .ok (.regular r)

/-- The matcher of a pattern; its text is the only part of group 0. -/
def matcherOf (t : Tree) : Except Obstacle Matcher := do
  let whole ← Part.ofTree t
  if whole.parts.any fun p => p.shape.hard then
    return .program (← Program.ofPart whole) whole.shape.endGroup
  regularMatcher t.expr

/-- Compiles a text. -/
def compile (limit : Nat) (text : String) : Except Refusal Fancy := do
  let t ← Tree.read text
  match matcherOf t with
  | .ok m => return ⟨m, t.names, limit⟩
  | .error o => throw (.obstacle o)

/-- The number of groups, the whole match among them. -/
def groupCount (f : Fancy) : Nat := match f.matcher with
  | .regular r => r.groupNames.length
  | .program _ groups => groups

/-- The names of the groups by number. A name that was given twice is that of the later group. -/
def groupNames (f : Fancy) : List (Option String) :=
  (List.range f.groupCount).map fun group =>
    (f.names.find? fun n => n.2 == group && f.names.lookup n.1 == some group).map (·.1)

/-- Is there a match in the input? -/
def isMatch (f : Fancy) (input : String) : Except Exhaustion Bool := match f.matcher with
  | .regular r => .ok (r.isMatch input)
  | .program p _ => match p.search f.limit input with
    | .found _ => .ok true
    | .notFound => .ok false
    | .exhausted e => .error e

/-- The span between the places in two slots. -/
def span? (m : Memory) (group : Nat) : Option Span := do
  return ⟨(← m.slot? (2 * group)).offset, (← m.slot? (2 * group + 1)).offset⟩

/-- The spans of the groups of the first match. -/
def captures (f : Fancy) (input : String) :
    Except Exhaustion (Option (List (Option Span))) := match f.matcher with
  | .regular r => .ok (r.captures input)
  | .program p groups => match p.search f.limit input with
    | .found m => .ok (some ((List.range groups).map (span? m)))
    | .notFound => .ok none
    | .exhausted e => .error e

end Fancy

end PatternSuite.Backtracking
