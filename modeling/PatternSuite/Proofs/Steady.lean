import PatternSuite.Matching
import PatternSuite.Optimizer

/-!
# What calls to the engine keep

Questions, searches and optimizations write to the ledger only what the engine answers and what is
logged. A property of ledgers that one such write keeps, all of them keep.

* `Ledger.retainAll_eq`, `Ledger.letGo_cases`: what is written when holders come, and when one goes.
* `logAll_induct`, `follow_induct`, `describe_induct`: what one write keeps, many keep.
* `Steady`: a property that a question, a log record and an optimization keep.
* `Steady.describe`, `Steady.execute`, `Steady.executeInto`, `Steady.executeFrom`,
  `Steady.swept`: it is kept by everything that asks the engine.
* `optimizeAll_eq`: a batch pass in its parts, of which only one asks the engine.
-/

namespace PatternSuite

variable {κ σ : Type}

/-- New holders change the counts, and nothing is written down. -/
theorem Ledger.retainAll_eq (ids : List Nat) (w : Ledger κ σ) :
    w.retainAll ids = { w with forms := (w.retainAll ids).forms } := by
  induction ids generalizing w with
  | nil => rfl
  | cons id ids ih => exact ih (w.retain id)

/-- When a holder goes, a count changes, and a release may be written down. -/
theorem Ledger.letGo_cases (id : Nat) (w : Ledger κ σ) :
    ∃ f : Holding κ → Holding κ, (∀ h, (f h).form = h.form) ∧
      (w.letGo id = { w with forms := w.forms.modify id f } ∨
        w.letGo id = note (.released id) { w with forms := w.forms.modify id f }) := by
  unfold letGo
  split
  · -- a form that is not there has no count
    have hforms : w.forms.modify id (fun h => h) = w.forms := by
      apply Array.ext_getElem?
      intro i
      rw [Array.getElem?_modify]
      split
      · exact Option.map_id'
      · rfl
    exact ⟨fun h => h, fun _ => rfl, .inl (by rw [hforms])⟩
  dsimp only
  split
  · exact ⟨fun h => { h with holders := h.holders - 1 }, fun _ => rfl, .inr rfl⟩
  · exact ⟨fun h => { h with holders := h.holders - 1 }, fun _ => rfl, .inl rfl⟩

/-- The ledger when a scope has taken over the patterns of a registry. The pass holds them, too. -/
def Ledger.takenOver (r : Registry) (sc : Scope Duty) (w : Ledger κ σ) : Ledger κ σ :=
  (w.retainAll r.forms).follow (sc.add (.mk (.release sc.generation r.entries) [])).2.1

/-- The ledger when the patterns of a registry have been optimized, if that is asked for and the
engine is able to. -/
def Ledger.swept (E : Engine κ σ) (r : Registry) (enabled : Bool) (w : Ledger κ σ) : Ledger κ σ :=
  if enabled && E.jitAvailable then
    let w := w.log .debug ("JIT-optimizing " ++ toString r.length ++ " patterns")
    let (count, w) := optimizeEntries E r.entries 0 w
    w.log .debug ("JIT-optimized " ++ toString count ++ " of " ++ toString r.length ++ " patterns")
  else w

/-- A property of ledgers that a question to the engine, a log record and an optimization keep. -/
structure Steady (E : Engine κ σ) (P : Ledger κ σ → Prop) : Prop where
  ask : ∀ {w : Ledger κ σ}, P w → ∀ {α : Type} (call : EngineCall) (answer : σ → α × σ),
    P (w.ask call answer).2
  log : ∀ {w : Ledger κ σ}, P w → ∀ r : LogRecord, P (w.note (.logged r))
  jit : ∀ {w : Ledger κ σ} {id : Nat} {form : κ}, P w → w.form? id = some form →
    P ((w.ask (.jit id) (E.jitCompile form)).2.setForm id (E.jitCompile form w.state).1.2)

/-- What one log record keeps, some log records keep. -/
theorem logAll_induct {P : Ledger κ σ → Prop} {w : Ledger κ σ}
    (hlog : ∀ {v : Ledger κ σ}, P v → ∀ r : LogRecord, P (v.note (.logged r))) (h : P w)
    (rs : List LogRecord) : P (rs.foldl (fun w r => w.note (.logged r)) w) := by
  induction rs generalizing w with
  | nil => exact h
  | cons r rs ih => exact ih (hlog h r)

/-- What the going of one holder keeps, the going of many keeps. -/
theorem letGoAll_induct {P : Ledger κ σ → Prop} {w : Ledger κ σ}
    (hletGo : ∀ {v : Ledger κ σ}, P v → ∀ id : Nat, P (v.letGo id)) (h : P w) (ids : List Nat) :
    P (w.letGoAll ids) := by
  induction ids generalizing w with
  | nil => exact h
  | cons id ids ih => exact ih (hletGo h id)

/-- What log records and the going of holders keep, the moments of a scope keep. -/
theorem follow_induct {P : Ledger κ σ → Prop} {w : Ledger κ σ}
    (hlog : ∀ {v : Ledger κ σ}, P v → ∀ r : LogRecord, P (v.note (.logged r)))
    (hletGo : ∀ {v : Ledger κ σ}, P v → ∀ id : Nat, P (v.letGo id)) (h : P w)
    (ms : List (Moment Duty)) : P (w.follow ms) := by
  induction ms generalizing w with
  | nil => exact h
  | cons m ms ih =>
    refine ih ?_
    cases m with
    | ran d =>
      cases d with
      | release generation entries => exact letGoAll_induct hletGo (hlog h _) _
      | other label => exact h
    | logged r => exact hlog h r
    | _ => exact h

/-- What every question about captures keeps, all of them keep. -/
theorem describe_induct {E : Engine κ σ} {P : Ledger κ σ → Prop} {w : Ledger κ σ} {id : Nat}
    (hask : ∀ {v : Ledger κ σ} {α : Type} (q : InfoQuery) (answer : σ → α × σ),
      P v → P (v.ask (.info q id) answer).2)
    (h : P w) (form : κ) (source : String) : P (describe E form id source w).2 := by
  have hof {v v' : Ledger κ σ} {α : Type} {a : α} {q : InfoQuery} {answer : σ → α × σ}
      (h : P v) (heq : v.ask (.info q id) answer = (a, v')) : P v' := by
    have hv := hask q answer h
    rwa [heq] at hv
  unfold describe
  split
  · next heq => exact hof h heq
  next heq =>
  have h := hof h heq
  split
  · exact h
  split
  · next heq => exact hof h heq
  next heq =>
  have h := hof h heq
  split
  · exact h
  split
  · next heq => exact hof h heq
  next heq =>
  have h := hof h heq
  split
  · next heq => exact hof h heq
  · next heq => exact hof h heq

namespace Steady

variable {E : Engine κ σ} {P : Ledger κ σ → Prop} {w w' : Ledger κ σ}

theorem of_ask (hP : Steady E P) (h : P w) {α : Type} {call : EngineCall} {answer : σ → α × σ}
    {a : α} (heq : w.ask call answer = (a, w')) : P w' := by
  have hask := hP.ask h call answer
  rwa [heq] at hask

theorem logAll (hP : Steady E P) (h : P w) (rs : List LogRecord) :
    P (rs.foldl (fun w r => w.note (.logged r)) w) :=
  logAll_induct hP.log h rs

theorem describe (hP : Steady E P) (h : P w) (form : κ) (id : Nat) (source : String) :
    P (PatternSuite.describe E form id source w).2 :=
  describe_induct (P := P) (fun q answer h => hP.ask h (.info q id) answer) h form source

theorem search (hP : Steady E P) (h : P w) (p : CompiledPattern) (input : String) (slots : Nat) :
    P (PatternSuite.search E p input slots w).2 := by
  unfold PatternSuite.search
  split
  · exact h
  · exact hP.ask h _ _

theorem concludeSearch (hP : Steady E P) (h : P w) (p : CompiledPattern) (input : String)
    (answer : SearchAnswer) : P (PatternSuite.concludeSearch p input answer w).2 := by
  have hlog := hP.logAll h answer.notes
  unfold PatternSuite.concludeSearch
  dsimp only
  split
  · exact hlog
  · exact hlog
  · exact hP.log hlog _

theorem execute (hP : Steady E P) (h : P w) (p : CompiledPattern) (input : String) :
    P (PatternSuite.execute E p input w).2 :=
  hP.concludeSearch (hP.search h p input 0) p input _

theorem executeInto (hP : Steady E P) (h : P w) (p : CompiledPattern) (input : String)
    (buffer : Captures) : P (PatternSuite.executeInto E p input buffer w).2.2 :=
  hP.concludeSearch (hP.search h p input buffer.capacity) p input _

theorem executeFrom (hP : Steady E P) (h : P w) (index : Nat) (ps : List CompiledPattern)
    (input : String) : P (PatternSuite.executeFrom E index ps input w).2 := by
  induction ps generalizing index w with
  | nil => exact h
  | cons p ps ih =>
    have hp := hP.execute h p input
    unfold PatternSuite.executeFrom
    split
    · next heq => rwa [heq] at hp
    · next heq => rwa [heq] at hp
    · next heq =>
      rw [heq] at hp
      exact ih hp (index + 1)

theorem optimizeEntry (hP : Steady E P) (h : P w) (e : RegistryEntry) :
    P (PatternSuite.optimizeEntry E w e).2 := by
  unfold PatternSuite.optimizeEntry
  split
  · exact h
  next hform =>
  have hjit := hP.jit h hform
  dsimp only
  split
  · exact hjit
  · exact hP.log hjit _

theorem optimizeEntries (hP : Steady E P) (es : List RegistryEntry) (count : Nat) (h : P w) :
    P (PatternSuite.optimizeEntries E es count w).2 := by
  induction es generalizing count w with
  | nil => exact h
  | cons e es ih => exact ih _ (hP.optimizeEntry h e)

/-- It is kept by the optimization of a registry's patterns. -/
theorem swept (hP : Steady E P) (h : P w) (r : Registry) (enabled : Bool) :
    P (w.swept E r enabled) := by
  unfold Ledger.swept
  split
  · exact hP.log (hP.optimizeEntries r.entries 0 (hP.log h _)) _
  · exact h

end Steady

/-- **The parts of a batch pass.** The scope takes the patterns over, they are optimized, and then
the pass lets go of them. -/
theorem optimizeAll_eq (E : Engine κ σ) (r : Registry) (enabled : Bool) (sc : Scope Duty)
    (w : Ledger κ σ) :
    optimizeAll E r enabled sc w =
      ((sc.add (.mk (.release sc.generation r.entries) [])).2.2,
        ((w.takenOver r sc).swept E r enabled).letGoAll r.forms) := by
  unfold optimizeAll Ledger.swept
  dsimp only
  split
  · rfl
  · rfl

end PatternSuite
