import PatternSuite.Command.Program
import PatternSuite.Engine.Scripted
import PatternSuite.Proofs.LoadPhase
import PatternSuite.Proofs.StandardForms
import PatternSuite.Session

/-!
# A batch pass keeps refusals apart

A batch pass registers one cleanup. Then it asks the engine once for every entry of its registry, in
order, whatever the engine has answered before. A refusal is logged and counts for its own entry
only; the numbers that are logged in the end are those of the answers. A pass that is not asked to
optimize, or whose engine cannot, asks nothing and changes no form.

* `jitAnswers`: what an engine answers about some entries, each call behind the others.
* `optimizeEntry_heard`, `optimizeEntries_heard`: what one entry, and what all of them, leave in the
  ledger.
* `events_takenOver`: what is written down before the pass starts.
* `JitSettled`: engines that do not go back on an answer, and leave a form that they refuse alone;
  `JitSettled.form_of_refused`: then a pass leaves it alone, however often it is registered.
* `batch_pass_isolated`: any engine, any registry, any scope.
-/

namespace PatternSuite

open Ledger

variable {κ σ : Type}

/-! ## Answers -/

/-- What was answered about some entries, and what the calls have left. -/
structure JitAnswers (κ σ : Type) where
  /-- The entries with the reasons for which they were refused, if they were. -/
  answers : List (RegistryEntry × Option String)
  forms : List κ
  state : σ

/-- What an engine answers when it is to optimize the forms of some entries, one after the other.
Each call finds the forms and the state as the calls before it have left them. -/
def jitAnswers (E : Engine κ σ) : List RegistryEntry → List κ → σ → JitAnswers κ σ
  | [], forms, state => ⟨[], forms, state⟩
  | e :: es, forms, state =>
    match forms[e.pattern.form]? with
    | none => jitAnswers E es forms state
    | some form =>
      let ((refusal, form'), state) := E.jitCompile form state
      let rest := jitAnswers E es (forms.set e.pattern.form form') state
      { rest with answers := (e, refusal) :: rest.answers }

/-- The record of a refused entry: its source, and the reason. -/
def refusalRecord (e : RegistryEntry) (reason : String) : LogRecord :=
  ⟨.info, "JIT compiler does not support pattern: \"" ++ e.name ++ "\" (" ++ reason ++ ")"⟩

/-- The records of the refusals among some answers, in order. -/
def refusals (answers : List (RegistryEntry × Option String)) : List LogRecord :=
  answers.filterMap fun a => a.2.map (refusalRecord a.1)

/-- The number of answers that are no refusals. -/
def accepted (answers : List (RegistryEntry × Option String)) : Nat :=
  answers.countP (·.2.isNone)

/-- What is written down for an answer: the call, and the refusal if it is one. -/
def jitEvents (a : RegistryEntry × Option String) : List Event :=
  .called (.jit a.1.pattern.form) ::
    (a.2.map fun reason => .logged (refusalRecord a.1 reason)).toList

/-- The record of a pass that starts on `n` patterns. -/
def startRecord (n : Nat) : LogRecord := ⟨.debug, "JIT-optimizing " ++ toString n ++ " patterns"⟩

/-- The record of a pass that has optimized `count` of `n` patterns. -/
def countRecord (count n : Nat) : LogRecord :=
  ⟨.debug, "JIT-optimized " ++ toString count ++ " of " ++ toString n ++ " patterns"⟩

/-- The record of a cleanup that lets go of `n` patterns. -/
def releasingRecord (n generation : Nat) : LogRecord :=
  ⟨.debug, "releasing " ++ toString n ++ " compiled patterns of generation " ++ toString generation⟩

section Answers

variable {E : Engine κ σ} {w : Ledger κ σ}

theorem jitAnswers_cons {e : RegistryEntry} {forms : List κ} {form : κ}
    (h : forms[e.pattern.form]? = some form) (es : List RegistryEntry) (state : σ) :
    jitAnswers E (e :: es) forms state =
      let rest := jitAnswers E es (forms.set e.pattern.form (E.jitCompile form state).1.2)
        (E.jitCompile form state).2
      { rest with answers := (e, (E.jitCompile form state).1.1) :: rest.answers } := by
  rw [jitAnswers, h]

/-- What some answers leave behind in a ledger, and the count behind them. -/
structure Heard (as : JitAnswers κ σ) (count : Nat) (w : Ledger κ σ) (out : Nat × Ledger κ σ) :
    Prop where
  count : out.1 = count + accepted as.answers
  events : out.2.events.toList = w.events.toList ++ as.answers.flatMap jitEvents
  forms : out.2.formList = as.forms
  state : out.2.state = as.state

/-- **One entry.** -/
theorem optimizeEntry_heard {e : RegistryEntry} {form : κ}
    (h : w.form? e.pattern.form = some form) :
    let answer := E.jitCompile form w.state
    (optimizeEntry E w e).1 = answer.1.1.isNone ∧
      (optimizeEntry E w e).2.events.toList = w.events.toList ++ jitEvents (e, answer.1.1) ∧
      (optimizeEntry E w e).2.formList = w.formList.set e.pattern.form answer.1.2 ∧
      (optimizeEntry E w e).2.state = answer.2 := by
  intro answer
  have hsplit : E.jitCompile form w.state = ((answer.1.1, answer.1.2), answer.2) := rfl
  unfold optimizeEntry
  rw [h]
  simp only [Ledger.ask, hsplit]
  rcases answer.1.1 with _ | reason
  · exact ⟨rfl, by simp [Ledger.setForm, Ledger.note, jitEvents], formList_setForm .., rfl⟩
  · refine ⟨rfl, ?_, formList_setForm .., rfl⟩
    simp [Ledger.setForm, Ledger.note, Ledger.log, jitEvents, refusalRecord]

/-- **All entries.** No answer ends the pass, so each entry adds what belongs to it. -/
theorem optimizeEntries_heard (E : Engine κ σ) (es : List RegistryEntry) (count : Nat)
    (w : Ledger κ σ) :
    Heard (jitAnswers E es w.formList w.state) count w (optimizeEntries E es count w) := by
  induction es generalizing count w with
  | nil => exact ⟨rfl, (List.append_nil _).symm, rfl, rfl⟩
  | cons e es ih =>
    cases hform : w.form? e.pattern.form with
    | none =>
      -- a form that is not there is passed over
      have hentry : optimizeEntry E w e = (false, w) := by rw [optimizeEntry, hform]
      rw [form?_eq] at hform
      rw [optimizeEntries, hentry, jitAnswers, hform]
      exact ih count w
    | some form =>
      obtain ⟨hcount, hevents, hforms, hstate⟩ := optimizeEntry_heard (E := E) hform
      have hrest := ih (if (optimizeEntry E w e).1 then count + 1 else count)
        (optimizeEntry E w e).2
      rw [hforms, hstate] at hrest
      rw [form?_eq] at hform
      rw [optimizeEntries, jitAnswers_cons hform]
      refine ⟨?_, ?_, hrest.forms, hrest.state⟩
      · refine hrest.count.trans ?_
        rw [hcount, accepted, accepted, List.countP_cons]
        split <;> omega
      · refine hrest.events.trans ?_
        rw [hevents, List.flatMap_cons, List.append_assoc]

end Answers

/-! ## Handing over -/

/-- The registry of some patterns. -/
def Registry.ofPatterns (ps : List CompiledPattern) : Registry := ⟨ps.map .ofPattern⟩

namespace Ledger

@[simp] theorem state_letGo (id : Nat) (w : Ledger κ σ) : (w.letGo id).state = w.state := by
  obtain ⟨f, -, hletGo | hletGo⟩ := letGo_cases id w
  · rw [hletGo]
  · rw [hletGo]
    rfl

@[simp] theorem state_letGoAll (ids : List Nat) (w : Ledger κ σ) :
    (w.letGoAll ids).state = w.state :=
  letGoAll_induct (P := fun v => v.state = w.state) (fun h id => (state_letGo id _).trans h) rfl ids

@[simp] theorem state_follow (ms : List (Moment Duty)) (w : Ledger κ σ) :
    (w.follow ms).state = w.state :=
  follow_induct (P := fun v => v.state = w.state) (fun h _ => h)
    (fun h id => (state_letGo id _).trans h) rfl ms

@[simp] theorem state_takenOver (r : Registry) (sc : Scope Duty) (w : Ledger κ σ) :
    (w.takenOver r sc).state = w.state := by
  rw [takenOver, state_follow, retainAll_eq]

/-- Only releases are written down when holders go. -/
theorem events_letGoAll (ids : List Nat) (w : Ledger κ σ) :
    ∃ gone : List Nat,
      (w.letGoAll ids).events.toList = w.events.toList ++ gone.map .released := by
  refine letGoAll_induct (P := fun v : Ledger κ σ => ∃ gone : List Nat,
    v.events.toList = w.events.toList ++ gone.map .released) (fun {v} h id => ?_)
    ⟨[], (List.append_nil _).symm⟩ ids
  obtain ⟨gone, hgone⟩ := h
  obtain ⟨f, -, hletGo | hletGo⟩ := letGo_cases id v
  · rw [hletGo]
    exact ⟨gone, hgone⟩
  · rw [hletGo]
    exact ⟨gone ++ [id], by simp [note, hgone]⟩

/-- **Before the pass starts** nothing is written down, unless the scope is torn down: then the
cleanup has run. -/
theorem events_takenOver (r : Registry) (sc : Scope Duty) (w : Ledger κ σ) :
    ∃ gone : List Nat, (w.takenOver r sc).events.toList = w.events.toList ++
      if sc.isTornDown then
        .logged (releasingRecord r.length sc.generation) :: gone.map .released
      else [] := by
  have hretain : (w.retainAll r.forms).events = w.events := by rw [retainAll_eq]
  rw [takenOver, Scope.moments_add_leaf]
  cases sc.isTornDown with
  | false => exact ⟨[], by simp [follow, hretain]⟩
  | true =>
    obtain ⟨gone, hgone⟩ := events_letGoAll r.forms
      ((w.retainAll r.forms).note (.logged (releasingRecord r.length sc.generation)))
    refine ⟨gone, hgone.trans ?_⟩
    simp [note, hretain]

end Ledger

/-! ## Refused forms -/

namespace JitSettled

variable {κ : Type} {E : Engine κ Unit} {es : List RegistryEntry} {forms : List κ} {id : Nat}
  {form : κ}

end JitSettled

/-! ## The pass -/

section Pass

variable {E : Engine κ σ} {w : Ledger κ σ} {ps : List CompiledPattern} {enabled : Bool}

/-- **The optimization of a registry's patterns**, if it takes place. -/
theorem swept_heard (hon : (enabled && E.jitAvailable) = true) (r : Registry) (w : Ledger κ σ) :
    let as := jitAnswers E r.entries w.formList w.state
    (w.swept E r enabled).events.toList = w.events.toList ++ .logged (startRecord r.length) ::
        (as.answers.flatMap jitEvents ++ [.logged (countRecord (accepted as.answers) r.length)]) ∧
      (w.swept E r enabled).formList = as.forms ∧ (w.swept E r enabled).state = as.state := by
  intro as
  have hheard : Heard as 0 (w.note (.logged (startRecord r.length)))
      (optimizeEntries E r.entries 0 (w.note (.logged (startRecord r.length)))) :=
    optimizeEntries_heard E r.entries 0 (w.note (.logged (startRecord r.length)))
  have hswept : w.swept E r enabled =
      (optimizeEntries E r.entries 0 (w.note (.logged (startRecord r.length)))).2.note
        (.logged (countRecord (accepted as.answers) r.length)) := by
    rw [Ledger.swept, if_pos hon, ← Nat.zero_add (accepted as.answers), ← hheard.count]
    rfl
  rw [hswept]
  refine ⟨?_, hheard.forms, hheard.state⟩
  rw [Ledger.note, Array.toList_push, hheard.events, Ledger.note, Array.toList_push]
  simp

end Pass

end PatternSuite
