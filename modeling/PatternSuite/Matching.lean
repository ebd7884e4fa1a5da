import PatternSuite.CompiledPattern
import PatternSuite.Ledger

/-!
# Matching

* `execute`: one pattern on one input, with or without a capture buffer.
* `executeArray`: the first pattern of a list whose answer is not a plain absence of a match.
-/

namespace PatternSuite

variable {κ σ : Type}

/-- The answer of one pattern. -/
inductive MatchOutcome
  | matched
  | notMatched
  deriving DecidableEq, Repr, Inhabited

/-- The answer of a list of patterns. -/
inductive ArrayOutcome
  /-- The pattern at this place matched. -/
  | matched (index : Nat)
  /-- No pattern matched. -/
  | declined
  deriving DecidableEq, Repr, Inhabited

/-- What is logged about a search that failed. -/
def failureText (p : CompiledPattern) (input : String) (f : SearchFailure) : String :=
  "regex match failed: " ++ toString f.code ++ " on \"" ++ input ++ "\" using \"" ++ p.source
    ++ "\": " ++ f.message

/-- The engine's search with a number of slots. A pattern whose form is not in the ledger matches
nothing. -/
def search (E : Engine κ σ) (p : CompiledPattern) (input : String) (slots : Nat)
    (w : Ledger κ σ) : SearchAnswer × Ledger κ σ :=
  match w.form? p.form with
  | none => (⟨.ok none, [], []⟩, w)
  | some form => w.ask (.search p.form slots) (E.search form input slots)

/-- The outcome of a search; a failure is logged. -/
def concludeSearch (p : CompiledPattern) (input : String) (answer : SearchAnswer)
    (w : Ledger κ σ) : Except PatternError MatchOutcome × Ledger κ σ :=
  let w := answer.notes.foldl (fun w r => w.note (.logged r)) w
  match answer.outcome with
  | .ok (some _) => (.ok .matched, w)
  | .ok none => (.ok .notMatched, w)
  | .error f =>
    (.error (.execution f.code f.message input p.source), w.log .error (failureText p input f))

/-- Matches one pattern without a buffer. -/
def execute (E : Engine κ σ) (p : CompiledPattern) (input : String) (w : Ledger κ σ) :
    Except PatternError MatchOutcome × Ledger κ σ :=
  let (answer, w) := search E p input 0 w
  concludeSearch p input answer w

/-- Matches one pattern and fills a buffer. The search starts from empty slots, and without a match
nothing in the buffer can be read. -/
def executeInto (E : Engine κ σ) (p : CompiledPattern) (input : String) (buffer : Captures)
    (w : Ledger κ σ) : Except PatternError MatchOutcome × Captures × Ledger κ σ :=
  let (answer, w) := search E p input buffer.capacity w
  let count := match answer.outcome with
    | .ok (some n) => n
    | _ => 0
  let (outcome, w) := concludeSearch p input answer w
  (outcome, buffer.settle answer.stores count, w)

/-- Matches patterns in order without buffers, up to the first match or the first failure; places
are counted from `index`. -/
def executeFrom (E : Engine κ σ) (index : Nat) (ps : List CompiledPattern) (input : String)
    (w : Ledger κ σ) : Except PatternError ArrayOutcome × Ledger κ σ :=
  match ps with
  | [] => (.ok .declined, w)
  | p :: ps =>
    match execute E p input w with
    | (.error e, w) => (.error e, w)
    | (.ok .matched, w) => (.ok (.matched index), w)
    | (.ok .notMatched, w) => executeFrom E (index + 1) ps input w

/-- Matches a list of patterns. -/
def executeArray (E : Engine κ σ) (ps : List CompiledPattern) (input : String)
    (w : Ledger κ σ) : Except PatternError ArrayOutcome × Ledger κ σ :=
  executeFrom E 0 ps input w

end PatternSuite
