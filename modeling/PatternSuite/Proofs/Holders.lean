import Mathlib.Data.List.Dedup
import PatternSuite.Proofs.Cleanups
import PatternSuite.Proofs.Steady
import PatternSuite.Session

/-!
# Holders and releases

The ledger counts the holders of each form. `Ledger.Balanced n held w` says that its books are
right: `n` forms were made, `held` lists the forms that are held, one entry for each holder, and a
form has been released just if it was made and nobody holds it, and then once.

* `Balanced.adopt`, `Balanced.retain`, `Balanced.letGo`: the books stay right.
* `Balanced.compiled_eq`: as many forms were made as were released or are held.
* `compile_balanced`: a compilation that fails holds nothing in the end, at whatever stage it fails.
* `swept_balanced`: the batch pass holds the forms of a registry while it lasts.
* `optimizeAll_balanced`: it hands them over to a scope.
-/

namespace PatternSuite

variable {κ σ : Type}

namespace Ledger

/-- The books of a ledger are right: `n` forms were made, and `held` lists the holdings. -/
structure Balanced (n : Nat) (held : List Nat) (w : Ledger κ σ) : Prop where
  compiled : w.compiled = n
  holders : ∀ id, w.holders id = held.count id
  releases : ∀ id, w.releases id = if id < n ∧ id ∉ held then 1 else 0

theorem releases_note (e : Event) (w : Ledger κ σ) (id : Nat) :
    (w.note e).releases id = w.releases id + if e = .released id then 1 else 0 := by
  simp [releases, note, List.count_append, List.count_singleton]

theorem holders_modify (f : Holding κ → Holding κ) (form id : Nat) (w : Ledger κ σ) :
    holders id { w with forms := w.forms.modify form f } =
      if form = id then ((w.forms[id]?).map fun h => (f h).holders).getD 0 else w.holders id := by
  simp only [holders, Array.getElem?_modify]
  split
  · cases w.forms[id]? <;> rfl
  · rfl

/-- The form that an event releases. -/
def releasedForm : Event → Option Nat
  | .released id => some id
  | _ => none

/-- The forms released so far, in order. -/
def releasedForms (w : Ledger κ σ) : List Nat := w.events.toList.filterMap releasedForm

theorem count_releasedForms (w : Ledger κ σ) (id : Nat) :
    w.releasedForms.count id = w.releases id := by
  unfold releasedForms releases
  induction w.events.toList with
  | nil => rfl
  | cons e es ih =>
    cases e with
    | released i => simp [releasedForm, List.count_cons, ih]
    | called call => simpa [List.filterMap_cons, releasedForm] using ih
    | logged r => simpa [List.filterMap_cons, releasedForm] using ih

theorem length_releasedForms (w : Ledger κ σ) : w.releasedForms.length = w.released := by
  rw [releasedForms, List.length_filterMap_eq_countP, released]
  congr 1
  funext e
  cases e <;> rfl

namespace Balanced

variable {n : Nat} {held held' : List Nat} {w : Ledger κ σ}

/-- Who holds does not matter, only how many. -/
theorem perm (h : Balanced n held w) (hp : held.Perm held') : Balanced n held' w where
  compiled := h.compiled
  holders id := by rw [h.holders, hp.count_eq]
  releases id := by simp only [h.releases, hp.mem_iff]

/-- A held form has been made. -/
theorem lt_of_mem (h : Balanced n held w) {id : Nat} (hid : id ∈ held) : id < n := by
  -- the ledger has no holders for a form that it does not have
  have hpos : 0 < w.holders id := by rw [h.holders]; exact List.count_pos_iff.2 hid
  have hsize : w.forms.size = n := h.compiled
  refine Nat.lt_of_not_le fun hge => ?_
  have hnone : w.forms[id]? = none := Array.getElem?_eq_none_iff.2 (by omega)
  simp [Ledger.holders, hnone] at hpos

theorem opened (state : σ) : Balanced 0 [] ({ state } : Ledger κ σ) where
  compiled := rfl
  holders id := by simp [Ledger.holders]
  releases id := by simp [Ledger.releases]

/-- Nothing but a release changes the books. -/
theorem note (h : Balanced n held w) {e : Event} (he : isRelease e = false) :
    Balanced n held (w.note e) where
  compiled := h.compiled
  holders := h.holders
  releases id := by
    have hne : e ≠ .released id := by rintro rfl; cases he
    rw [releases_note, if_neg hne, h.releases, Nat.add_zero]

theorem log (h : Balanced n held w) (level : LogLevel) (text : String) :
    Balanced n held (w.log level text) := h.note rfl

theorem ask (h : Balanced n held w) {α : Type} (call : EngineCall) (answer : σ → α × σ) :
    Balanced n held (w.ask call answer).2 :=
  Balanced.note (w := { w with state := (answer w.state).2 })
    ⟨h.compiled, h.holders, h.releases⟩ rfl

theorem setForm (h : Balanced n held w) (id : Nat) (form : κ) :
    Balanced n held (w.setForm id form) where
  compiled := by rw [← h.compiled]; exact Array.size_modify ..
  holders i := by
    rw [← h.holders, Ledger.setForm, holders_modify]
    split
    · rfl
    · rfl
  releases := h.releases

/-- A new form has one holder. -/
theorem adopt (h : Balanced n held w) (form : κ) :
    (w.adopt form).1 = n ∧ Balanced (n + 1) (n :: held) (w.adopt form).2 := by
  -- the new form comes after all others, so nobody can hold it yet
  have hn : n ∉ held := fun hn => absurd (h.lt_of_mem hn) (Nat.lt_irrefl n)
  refine ⟨h.compiled, ?_, fun id => ?_, fun id => ?_⟩
  · simp [Ledger.compiled, Ledger.adopt, ← h.compiled]
  · have hid := h.holders id
    have hsize : w.forms.size = n := h.compiled
    simp only [Ledger.holders, Ledger.adopt, Array.getElem?_push, hsize] at hid ⊢
    split
    · next heq => simp [heq, List.count_eq_zero.2 hn]
    · next hne => rw [hid, List.count_cons_of_ne (Ne.symm hne)]
  · have hid := h.releases id
    simp only [Ledger.releases, Ledger.adopt] at hid ⊢
    rw [hid]
    by_cases heq : id = n
    · subst heq; simp
    · have : id < n ↔ id < n + 1 := by omega
      simp [heq, this]

/-- Only a form that is held already can get one holder more. -/
theorem retain (h : Balanced n held w) {id : Nat} (hid : id ∈ held) :
    Balanced n (id :: held) (w.retain id) where
  compiled := by rw [← h.compiled]; exact Array.size_modify ..
  holders i := by
    have hi := h.holders i
    rw [Ledger.retain, holders_modify]
    split
    · next heq =>
      subst heq
      have hsize : w.forms.size = n := h.compiled
      have hlt : id < w.forms.size := hsize.symm ▸ h.lt_of_mem hid
      simp only [Ledger.holders, Array.getElem?_eq_getElem hlt] at hi
      simp only [Array.getElem?_eq_getElem hlt, List.count_cons_self, ← hi]
      rfl
    · next hne => rw [hi, List.count_cons_of_ne hne]
  releases i := by
    rw [show (w.retain id).releases i = w.releases i from rfl, h.releases]
    by_cases heq : i = id
    · subst heq; simp [hid]
    · simp [heq]

/-- The last holder's going releases the form, and nothing else does. -/
theorem letGo {id : Nat} (h : Balanced n (id :: held) w) : Balanced n held (w.letGo id) := by
  have hsize : w.forms.size = n := h.compiled
  have hlt : id < w.forms.size := hsize.symm ▸ h.lt_of_mem List.mem_cons_self
  have hcount : (w.forms[id]).holders = held.count id + 1 := by
    have hid := h.holders id
    simp only [Ledger.holders, Array.getElem?_eq_getElem hlt, List.count_cons_self] at hid
    exact hid
  -- the ledger with one holder less, before the release is written down
  have hless (i : Nat) : Ledger.holders i { w with
      forms := w.forms.modify id fun h => { h with holders := h.holders - 1 } } =
        held.count i := by
    rw [holders_modify]
    split
    · next heq =>
      subst heq
      simp [Array.getElem?_eq_getElem hlt, hcount]
    · next hne => rw [h.holders, List.count_cons_of_ne hne]
  have hcompiled : (w.forms.modify id fun h => { h with holders := h.holders - 1 }).size = n := by
    rw [Array.size_modify, hsize]
  have hreleases (i : Nat) : w.releases i = if i < n ∧ i ≠ id ∧ i ∉ held then 1 else 0 := by
    simp [h.releases, List.mem_cons]
  simp only [Ledger.letGo, Array.getElem?_eq_getElem hlt, hcount]
  split
  · next hlast =>
    have hnot : id ∉ held := List.count_eq_zero.1 (by omega)
    refine ⟨hcompiled, hless, fun i => ?_⟩
    rw [releases_note]
    refine (congrArg (· + _) (hreleases i)).trans ?_
    by_cases heq : i = id
    · subst heq; simp [hnot, ← hsize, hlt]
    · simp [heq, Ne.symm heq]
  · next hmore =>
    have hin : id ∈ held := List.count_pos_iff.1 (by omega)
    refine ⟨hcompiled, hless, fun i => (hreleases i).trans ?_⟩
    by_cases heq : i = id
    · subst heq; simp [hin]
    · simp [heq]

theorem retainAll (h : Balanced n held w) {ids : List Nat} (hids : ∀ id ∈ ids, id ∈ held) :
    Balanced n (ids ++ held) (w.retainAll ids) := by
  induction ids generalizing held w with
  | nil => exact h
  | cons id ids ih =>
    have hid := h.retain (hids id List.mem_cons_self)
    refine (ih hid fun i hi => List.mem_cons_of_mem _ (hids i (List.mem_cons_of_mem _ hi))).perm ?_
    exact List.perm_middle

theorem letGoAll {ids : List Nat} (h : Balanced n (ids ++ held) w) :
    Balanced n held (w.letGoAll ids) := by
  induction ids generalizing w with
  | nil => exact h
  | cons id ids ih => exact ih h.letGo

/-- **Every form made was released or is held.** -/
theorem compiled_eq (h : Balanced n held w) : n = w.released + held.dedup.length := by
  have hgone (id : Nat) : w.releasedForms.count id ≤ 1 := by
    rw [count_releasedForms, h.releases]
    split <;> omega
  have hmem (id : Nat) : id ∈ w.releasedForms ↔ id < n ∧ id ∉ held := by
    rw [← List.count_pos_iff, count_releasedForms, h.releases]
    split
    · next hid => simpa using hid
    · next hid => simpa using hid
  have hnodup : (w.releasedForms ++ held.dedup).Nodup := by
    refine List.nodup_append.2 ⟨List.nodup_iff_count_le_one.2 hgone, held.nodup_dedup, ?_⟩
    rintro a ha b hb rfl
    exact ((hmem a).1 ha).2 (List.mem_dedup.1 hb)
  -- released forms and held forms together are all forms, each of them once
  have hperm : (w.releasedForms ++ held.dedup).Perm (List.range n) := by
    refine (List.perm_ext_iff_of_nodup hnodup List.nodup_range).2 fun id => ?_
    rw [List.mem_append, hmem, List.mem_dedup, List.mem_range]
    constructor
    · rintro (⟨hlt, -⟩ | hid)
      · exact hlt
      · exact h.lt_of_mem hid
    · intro hlt
      by_cases hid : id ∈ held
      · exact .inr hid
      · exact .inl ⟨hlt, hid⟩
  rw [← List.length_range (n := n), ← hperm.length_eq, List.length_append, length_releasedForms]

end Balanced

end Ledger

open Ledger

variable {n : Nat} {held : List Nat} {w : Ledger κ σ} {c : Compiler}

/-! ## Compilation -/

/-- Questions and optimizations hold nothing. -/
theorem balanced_steady (E : Engine κ σ) : Steady E (Balanced n held) where
  ask h _ call answer := h.ask call answer
  log h _ := h.note rfl
  jit h _ := (h.ask _ _).setForm _ _

/-- Does the engine make a form for the pattern? It is not asked about an empty pattern. -/
def makesForm (E : Engine κ σ) (pattern : Pattern) (options : Options) (state : σ) : Bool :=
  !pattern.isEmpty && (E.compile pattern options state).1.isOk

/-- The form that the caller of a compilation holds. -/
def outcomeForms : Except PatternError CompiledPattern → List Nat
  | .ok p => [p.form]
  | .error _ => []

open Session

theorem compilePattern_balanced (h : Balanced n (compilerForms c ++ held) w) (E : Engine κ σ)
    (pattern : Pattern) (options : Options) (room : Bool) :
    Balanced (n + (makesForm E pattern options w.state).toNat)
      (outcomeForms (c.compilePattern E pattern options w room).1
        ++ (compilerForms (c.compilePattern E pattern options w room).2.1 ++ held))
      (c.compilePattern E pattern options w room).2.2 := by
  unfold Compiler.compilePattern
  split
  · next hempty => simpa [makesForm, hempty, outcomeForms] using h
  next hempty =>
  split
  · next failure w₁ heq =>
    have hmakes : (E.compile pattern options w.state).1 = .error failure := congrArg Prod.fst heq
    have hasked := (balanced_steady E).of_ask h heq
    simpa [makesForm, hmakes, Except.isOk, Except.toBool, outcomeForms] using hasked
  next form w₁ heq =>
  have hmakes : (E.compile pattern options w.state).1 = .ok form := congrArg Prod.fst heq
  have hone : (makesForm E pattern options w.state).toNat = 1 := by
    simp [makesForm, hmakes, hempty, Except.isOk, Except.toBool]
  rw [hone]
  obtain ⟨rfl, hadopt⟩ := ((balanced_steady E).of_ask h heq).adopt form
  have hd := (balanced_steady E).describe hadopt form (w₁.adopt form).1 pattern.text
  simp only
  split
  · next e w₂ hdescribe =>
    rw [hdescribe] at hd
    exact hd.letGo
  next captures names w₂ hdescribe =>
  rw [hdescribe] at hd
  split
  · exact hd
  next r hr =>
  cases room with
  | false => exact hd.letGo
  | true =>
    -- the entry in the registry is a second holder beside the caller
    refine (hd.retain List.mem_cons_self).perm ?_
    simpa [compilerForms, hr, outcomeForms, Registry.forms, RegistryEntry.ofPattern] using
      List.perm_middle.symm

/-- **Compilation.** The caller and the registry hold what comes of it; if it fails, at whatever
stage, nobody does. -/
theorem compile_balanced (h : Balanced n (compilerForms c ++ held) w) (E : Engine κ σ)
    (request : CompileRequest) (room : Bool) :
    Balanced (n + (makesForm E request.pattern request.options w.state).toNat)
      (outcomeForms (c.compile E request w room).1
        ++ (compilerForms (c.compile E request w room).2.2.1 ++ held))
      (c.compile E request w room).2.2.2 := by
  have hc := compilePattern_balanced h E request.pattern request.options room
  unfold Compiler.compile
  split
  · next heq => rwa [heq] at hc
  · next heq => rwa [heq] at hc

/-! ## The batch pass -/

/-- The forms that cleanups let go of in some moments. -/
def ranForms (ms : List (Moment Duty)) : List Nat := (Scope.ranIn ms).flatMap dutyForms

theorem perform_balanced {d : Duty} (h : Balanced n (dutyForms d ++ held) w) :
    Balanced n held (w.perform d) := by
  cases d with
  | release generation entries => exact (h.log _ _).letGoAll
  | other label => exact h

theorem follow_balanced {ms : List (Moment Duty)} (h : Balanced n (ranForms ms ++ held) w) :
    Balanced n held (w.follow ms) := by
  induction ms generalizing w with
  | nil => exact h
  | cons m ms ih =>
    cases m with
    | ran d =>
      have hd : Balanced n (dutyForms d ++ (ranForms ms ++ held)) w := by
        simpa [ranForms, Scope.ranIn] using h
      exact ih (perform_balanced hd)
    | logged r => exact ih (h.note rfl)
    | locked => exact ih h
    | unlocked => exact ih h
    | offered d => exact ih h
    | ended d => exact ih h
    | sawTornDown answer => exact ih h
    | sawStored d answer => exact ih h
    | shown text => exact ih h

/-- The cleanups that wait make no calls of their own. -/
def Leaves (sc : Scope Duty) : Prop := ∀ c ∈ sc.waiting.getD [], c = .mk (Scope.duty c) []

theorem ranForms_append (ms ns : List (Moment Duty)) :
    ranForms (ms ++ ns) = ranForms ms ++ ranForms ns := by
  simp [ranForms]

/-- Cleanups that make no calls let go of their own forms. -/
theorem ranForms_flatMap {f : Cleanup Duty → List (Moment Duty)} {cs : List (Cleanup Duty)}
    (hf : ∀ c ∈ cs, f c = [.ran (Scope.duty c), .ended (Scope.duty c)]) :
    ranForms (cs.flatMap f) = cs.flatMap fun c => dutyForms (Scope.duty c) := by
  induction cs with
  | nil => rfl
  | cons c cs ih =>
    rw [List.flatMap_cons, ranForms_append, hf c List.mem_cons_self,
      ih fun c hc => hf c (List.mem_cons_of_mem _ hc), List.flatMap_cons]
    simp [ranForms, Scope.ranIn]

theorem cleanupCourse_leaf (g : Nat) {c : Cleanup Duty} (h : c = .mk (Scope.duty c) []) :
    Scope.cleanupCourse g c = [.ran (Scope.duty c), .ended (Scope.duty c)] := by
  rw [h]
  rfl

/-- A teardown lets go of what the scope held, and the scope holds nothing afterwards. -/
theorem ranForms_teardown {sc : Scope Duty} (h : Leaves sc) :
    ranForms sc.teardown.1 = scopeForms sc ∧ sc.teardown.2.waiting = none := by
  obtain ⟨g, _ | cs⟩ := sc
  · rw [Scope.teardown, Scope.work_of_tornDown g none _ rfl]
    exact ⟨rfl, rfl⟩
  · have hrun := ranForms_flatMap fun c (hc : c ∈ cs) => cleanupCourse_leaf g (h c hc)
    simp only [Scope.teardown, Scope.work_teardown, ranForms_append]
    exact ⟨hrun, trivial⟩

theorem ranForms_dropped (sc : Scope Duty) : ranForms sc.dropped = scopeForms sc := by
  obtain ⟨g, _ | cs⟩ := sc
  · rfl
  · exact ranForms_flatMap fun c _ => rfl

/-- A new cleanup is held by the scope, or what it holds is let go of at once. -/
theorem ranForms_add (sc : Scope Duty) (d : Duty) :
    ranForms (sc.add (.mk d [])).2.1 ++ ranForms (sc.add (.mk d [])).2.2.teardown.1 =
      dutyForms d ++ ranForms sc.teardown.1 := by
  obtain ⟨g, _ | cs⟩ := sc
  · simp [Scope.add, Scope.teardown, Scope.work_of_tornDown g none _ rfl, ranForms, Scope.ranIn,
      Scope.taskCourse, Scope.cleanupCourse, Scope.callsCourse]
  · simp [Scope.add, Scope.teardown, Scope.work_teardown, ranForms, Scope.ranIn,
      Scope.cleanupCourse, Scope.callsCourse]

theorem leaves_add {sc : Scope Duty} (h : Leaves sc) (d : Duty) :
    Leaves (sc.add (.mk d [])).2.2 := by
  obtain ⟨g, _ | cs⟩ := sc
  · rw [Scope.add, Scope.work_of_tornDown g none _ rfl]
    exact h
  · intro c hc
    rcases List.mem_cons.1 hc with rfl | hc
    · rfl
    · exact h c hc

theorem endScope_balanced {sc : Option (Scope Duty)}
    (h : Balanced n ((sc.map scopeForms).getD [] ++ held) w) :
    Balanced n held (w.endScope sc) := by
  cases sc with
  | none => exact h
  | some sc =>
    refine follow_balanced ?_
    rw [ranForms_dropped]
    exact h

theorem letGoRegistry_balanced {r : Option Registry}
    (h : Balanced n ((r.map Registry.forms).getD [] ++ held) w) :
    Balanced n held (w.letGoRegistry r) := by
  cases r with
  | none => exact h
  | some r => exact h.letGoAll

/-- The pass holds the forms of the registry to its end. The scope holds them, too, or has let go of
them if it was torn down already. -/
theorem swept_balanced {r : Registry} {sc : Scope Duty}
    (h : Balanced n (r.forms ++ (ranForms sc.teardown.1 ++ held)) w) (E : Engine κ σ)
    (enabled : Bool) :
    Balanced n (r.forms ++ (ranForms (sc.add (.mk (.release sc.generation r.entries)
        [])).2.2.teardown.1 ++ held))
      ((w.takenOver r sc).swept E r enabled) := by
  have hretain : Balanced n (r.forms ++ (r.forms ++ (ranForms sc.teardown.1 ++ held)))
      (w.retainAll r.forms) := h.retainAll fun id hid => List.mem_append_left _ hid
  have hadd := ranForms_add sc (.release sc.generation r.entries)
  rw [show dutyForms (.release sc.generation r.entries) = r.forms from rfl] at hadd
  -- the cleanup has its own holdings beside those of the registry, which the pass keeps
  have htaken : Balanced n (r.forms ++ (ranForms (sc.add (.mk (.release sc.generation r.entries)
      [])).2.2.teardown.1 ++ held)) (w.takenOver r sc) := by
    refine follow_balanced (hretain.perm (List.perm_iff_count.2 fun id => ?_))
    have hid := congrArg (List.count id) hadd
    simp only [List.count_append] at hid ⊢
    omega
  exact (balanced_steady E).swept htaken r enabled

/-- **The batch pass.** The forms of the registry end up with the scope, or are let go of if it is
torn down already. -/
theorem optimizeAll_balanced {r : Registry} {sc : Scope Duty} (hsc : Leaves sc)
    (h : Balanced n (r.forms ++ (scopeForms sc ++ held)) w) (E : Engine κ σ) (enabled : Bool) :
    Balanced n (scopeForms (optimizeAll E r enabled sc w).1 ++ held)
        (optimizeAll E r enabled sc w).2 ∧
      Leaves (optimizeAll E r enabled sc w).1 := by
  have hleaves := leaves_add hsc (.release sc.generation r.entries)
  rw [← (ranForms_teardown hsc).1] at h
  have hswept := swept_balanced h E enabled
  rw [(ranForms_teardown hleaves).1] at hswept
  rw [optimizeAll_eq]
  exact ⟨hswept.letGoAll, hleaves⟩

theorem finish_balanced {sc : Scope Duty} (hsc : Leaves sc)
    (h : Balanced n (compilerForms c ++ (scopeForms sc ++ held)) w) (E : Engine κ σ)
    (config : Config) :
    Balanced n (compilerForms (c.finish E config sc w).1
        ++ (scopeForms (c.finish E config sc w).2.1 ++ held)) (c.finish E config sc w).2.2 ∧
      Leaves (c.finish E config sc w).2.1 := by
  unfold Compiler.finish
  split
  · exact ⟨h.log _ _, hsc⟩
  · next r hr =>
    rw [compilerForms, hr] at h
    exact optimizeAll_balanced hsc h E config.jitEnabled

end PatternSuite
