import PatternSuite.Proofs.Calls
import PatternSuite.Proofs.LineReports

/-!
# What a search comes to

A search calls the engine once. Its answer decides the outcome, and a failure is logged behind what
the engine has logged itself. Nothing else happens to the ledger.

* `SearchAnswer.verdict`, `SearchAnswer.count`: the outcome of an answer, and the number of slots
  that it counts.
* `searchEvents`, `Ledger.searched`: what a search writes down, and the ledger behind it.
* `execute_eq`, `executeInto_eq`: a search without a buffer, and one with a buffer.
-/

namespace PatternSuite

variable {κ σ : Type}

namespace SearchAnswer

/-- The outcome of an answer about a pattern and an input. -/
def verdict (p : CompiledPattern) (input : String) (a : SearchAnswer) :
    Except PatternError MatchOutcome :=
  match a.outcome with
  | .ok (some _) => .ok .matched
  | .ok none => .ok .notMatched
  | .error f => .error (.execution f.code f.message input p.source)

/-- The number of slots that an answer counts; only a match counts any. -/
def count (a : SearchAnswer) : Nat :=
  match a.outcome with
  | .ok (some n) => n
  | _ => 0

/-- For the outcome it does not matter how many slots a match counts. -/
theorem verdict_eq (p : CompiledPattern) (input : String) (a : SearchAnswer) :
    a.verdict p input =
      match a.outcome.map Option.isSome with
      | .ok true => .ok .matched
      | .ok false => .ok .notMatched
      | .error f => .error (.execution f.code f.message input p.source) := by
  unfold verdict
  rcases a.outcome with f | _ | n <;> rfl

theorem verdict_congr {a b : SearchAnswer}
    (h : a.outcome.map Option.isSome = b.outcome.map Option.isSome) (p : CompiledPattern)
    (input : String) : a.verdict p input = b.verdict p input := by
  rw [verdict_eq, verdict_eq, h]

theorem count_congr {a b : SearchAnswer} (h : a.outcome = b.outcome) : a.count = b.count := by
  rw [count, count, h]

end SearchAnswer

/-- The log record of a failure, if the answer is one. -/
def failureRecords (p : CompiledPattern) (input : String) (a : SearchAnswer) : List LogRecord :=
  match a.outcome with
  | .ok _ => []
  | .error f => [⟨.error, failureText p input f⟩]

/-- What a search writes down: the call, what the engine logged, and a failure. -/
def searchEvents (p : CompiledPattern) (input : String) (slots : Nat) (a : SearchAnswer) :
    List Event :=
  .called (.search p.form slots) :: (a.notes ++ failureRecords p input a).map .logged

/-- The ledger behind a search: the engine's state is what the search has left, and the events of
the search stand behind the others. -/
def Ledger.searched (E : Engine κ σ) (p : CompiledPattern) (form : κ) (input : String)
    (slots : Nat) (w : Ledger κ σ) : Ledger κ σ :=
  let (answer, state) := E.search form input slots w.state
  { state := state
    forms := w.forms
    events := w.events ++ (searchEvents p input slots answer).toArray }

theorem logAll_eq (rs : List LogRecord) (w : Ledger κ σ) :
    rs.foldl (fun w r => w.note (.logged r)) w =
      { w with events := w.events ++ (rs.map Event.logged).toArray } := by
  induction rs generalizing w with
  | nil => simp
  | cons r rs ih =>
    rw [List.foldl_cons, ih]
    simp [Ledger.note]

/-- The ledger behind an answer: what the engine logged stands in it, and a failure behind that. -/
theorem concludeSearch_eq_verdict (p : CompiledPattern) (input : String) (a : SearchAnswer)
    (w : Ledger κ σ) :
    concludeSearch p input a w = (a.verdict p input,
      { w with events :=
        w.events ++ ((a.notes ++ failureRecords p input a).map Event.logged).toArray }) := by
  unfold concludeSearch SearchAnswer.verdict failureRecords
  dsimp only
  rw [logAll_eq]
  rcases a.outcome with f | _ | n
  · simp [Ledger.log, Ledger.note]
  · simp
  · simp

section Searches

variable {E : Engine κ σ} {w : Ledger κ σ} {p : CompiledPattern} {form : κ}

theorem search_eq (h : w.form? p.form = some form) (input : String) (slots : Nat) :
    search E p input slots w = w.ask (.search p.form slots) (E.search form input slots) := by
  rw [search, h]

theorem concludeSearch_ask (p : CompiledPattern) (form : κ) (input : String) (slots : Nat)
    (w : Ledger κ σ) :
    concludeSearch p input (E.search form input slots w.state).1
        (w.ask (.search p.form slots) (E.search form input slots)).2 =
      ((E.search form input slots w.state).1.verdict p input,
        w.searched E p form input slots) := by
  rw [concludeSearch_eq_verdict]
  simp [Ledger.ask, Ledger.note, Ledger.searched, searchEvents]

/-- **A search without a buffer.** The engine is called without slots. -/
theorem execute_eq (h : w.form? p.form = some form) (input : String) :
    execute E p input w = ((E.search form input 0 w.state).1.verdict p input,
      w.searched E p form input 0) := by
  unfold execute
  rw [search_eq h]
  exact concludeSearch_ask p form input 0 w

/-- **A search with a buffer.** The engine is called with as many slots as the buffer has. -/
theorem executeInto_eq (h : w.form? p.form = some form) (input : String) (buffer : Captures) :
    executeInto E p input buffer w =
      ((E.search form input buffer.capacity w.state).1.verdict p input,
        buffer.settle (E.search form input buffer.capacity w.state).1.stores
          (E.search form input buffer.capacity w.state).1.count,
        w.searched E p form input buffer.capacity) := by
  have hconclude := concludeSearch_ask (E := E) p form input buffer.capacity w
  unfold executeInto
  rw [search_eq h]
  exact congrArg (fun out : Except PatternError MatchOutcome × Ledger κ σ =>
    (out.1, buffer.settle _ (SearchAnswer.count _), out.2)) hconclude

end Searches

end PatternSuite
