import PatternSuite.Options
import PatternSuite.Regular.Reader
import PatternSuite.Regular.Resolve
import PatternSuite.Regular.Search
import PatternSuite.Regular.Storage

/-!
# Compiled basic patterns

* `Regex.compile`: from text and flags to a compiled pattern, or the reason why there is none.
* `Regex.isMatch`, `Regex.captures`: searching.
-/

namespace PatternSuite.Regular

open Text

/-- Why a pattern cannot be compiled. -/
inductive Refusal
  /-- The text is no pattern. -/
  | fault (e : SyntaxError)
  /-- The pattern would take too much room. -/
  | tooLarge
  deriving DecidableEq, Repr

/-- A compiled pattern. -/
structure Regex where
  node : Node
  machine : Automaton
  /-- The names of the groups by number; number 0 is the whole match. -/
  groupNames : List (Option String)
  deriving Inhabited

/-- The flags in force where a text begins. -/
def Flags.ofSyntax (f : SyntaxFlags) : Flags where
  caseless := f.caseInsensitive
  multiline := f.multiLine
  dotall := f.dotMatchesNewLine
  ungreedy := f.swapGreed

/-- What a text means under some flags. -/
def Node.read (text : String) (flags : SyntaxFlags) : Except SyntaxError Node := do
  Node.ofAst (.ofSyntax flags) (← Ast.read text flags.ignoreWhitespace)

namespace Regex

/-- The compiled form of an expression. -/
def ofNode (n : Node) : Regex := ⟨n, .ofNode .characters n, n.groupNames⟩

/-- Compiles a text. -/
def compile (text : String) (flags : SyntaxFlags) : Except Refusal Regex :=
  match Node.read text flags with
  | .error e => .error (.fault e)
  | .ok n => if n.fits then .ok (ofNode n) else .error .tooLarge

/-- Is there a match in the input? -/
def isMatch (r : Regex) (input : String) : Bool := r.machine.isMatch input

/-- The spans of the groups of the preferred match that begins first. -/
def captures (r : Regex) (input : String) : Option (List (Option Span)) :=
  r.machine.captures r.groupNames.length input

end Regex

end PatternSuite.Regular
