import PatternSuite.Proofs.Holders

/-!
# A form is released when its last holder goes

The books of a session's ledger are right after any steps: what the ledger counts is what the
patterns, compilers, registries and scopes of the session hold.

* `Session.Sound.step`, `Session.sound_run`: one step, any steps.
* `Session.forms_released_once`: the accounts of a whole run.
-/

namespace PatternSuite

open Ledger

variable {κ σ : Type} {n : Nat} {w : Ledger κ σ}

namespace Session

variable {s : Session κ σ}

theorem heldForms_patterns (s : Session κ σ) (name : String) :
    s.heldForms.Perm (((s.patterns.get? name).map (·.form)).toList
      ++ heldForms { s with patterns := s.patterns.erase name }) := by
  have hp := s.patterns.flatMap_values name fun p => [p.form]
  rw [← List.map_eq_flatMap, ← List.map_eq_flatMap] at hp
  have hopt : ((s.patterns.get? name).map fun p => [p.form]).getD [] =
      ((s.patterns.get? name).map (·.form)).toList := by
    cases s.patterns.get? name <;> rfl
  rw [hopt] at hp
  simp only [heldForms, List.append_assoc] at hp ⊢
  simpa using hp.append_right _

theorem heldForms_compilers (s : Session κ σ) (name : String) :
    s.heldForms.Perm (((s.compilers.get? name).map compilerForms).getD []
      ++ heldForms { s with compilers := s.compilers.erase name }) := by
  have hp := s.compilers.flatMap_values name compilerForms
  refine List.perm_iff_count.2 fun id => ?_
  have hid := hp.count_eq id
  simp only [heldForms, List.count_append] at hid ⊢
  omega

theorem heldForms_registries (s : Session κ σ) (name : String) :
    s.heldForms.Perm (((s.registries.get? name).map Registry.forms).getD []
      ++ heldForms { s with registries := s.registries.erase name }) := by
  have hp := s.registries.flatMap_values name Registry.forms
  refine List.perm_iff_count.2 fun id => ?_
  have hid := hp.count_eq id
  simp only [heldForms, List.count_append] at hid ⊢
  omega

theorem heldForms_scopes (s : Session κ σ) (name : String) :
    s.heldForms.Perm (((s.scopes.get? name).map scopeForms).getD []
      ++ heldForms { s with scopes := s.scopes.erase name }) := by
  have hp := s.scopes.flatMap_values name scopeForms
  refine List.perm_iff_count.2 fun id => ?_
  have hid := hp.count_eq id
  simp only [heldForms, List.count_append] at hid ⊢
  omega

theorem heldForms_setCompiler (s : Session κ σ) (name : String) (c : Compiler) :
    (heldForms { s with compilers := s.compilers.set name c }).Perm
      (compilerForms c ++ heldForms { s with compilers := s.compilers.erase name }) := by
  refine List.perm_iff_count.2 fun id => ?_
  simp only [heldForms, Shelf.values_set, List.flatMap_cons, List.count_append]
  omega

theorem heldForms_setRegistry (s : Session κ σ) (name : String) (r : Registry) :
    (heldForms { s with registries := s.registries.set name r }).Perm
      (r.forms ++ heldForms { s with registries := s.registries.erase name }) := by
  refine List.perm_iff_count.2 fun id => ?_
  simp only [heldForms, Shelf.values_set, List.flatMap_cons, List.count_append]
  omega

theorem heldForms_setScope (s : Session κ σ) (name : String) (sc : Scope Duty) :
    (heldForms { s with scopes := s.scopes.set name sc }).Perm
      (scopeForms sc ++ heldForms { s with scopes := s.scopes.erase name }) := by
  refine List.perm_iff_count.2 fun id => ?_
  simp only [heldForms, Shelf.values_set, List.flatMap_cons, List.count_append]
  omega

/-- The books of a session are right: `n` forms were made, and the session's objects hold what the
ledger counts. -/
structure Sound (n : Nat) (s : Session κ σ) : Prop where
  balanced : Balanced n s.heldForms s.ledger
  leaves : ∀ sc ∈ s.scopes.values, Leaves sc

namespace Sound

theorem opened (state : σ) : Sound 0 (Session.opened state : Session κ σ) where
  balanced := Balanced.opened state
  leaves := by simp [Session.opened, Leaves, Scope.opened]

/-- Steps that only ask and log. -/
theorem ofLedger (h : Sound n s) (hb : Balanced n s.heldForms w) :
    Sound n { s with ledger := w } := ⟨hb, h.leaves⟩

theorem leaves_erase (h : Sound n s) (name : String) :
    ∀ sc ∈ (s.scopes.erase name).values, Leaves sc :=
  fun sc hsc => h.leaves sc (Shelf.mem_of_mem_erase hsc)

theorem leaves_set (h : Sound n s) (name : String) {sc : Scope Duty} (hsc : Leaves sc) :
    ∀ sc' ∈ (s.scopes.set name sc).values, Leaves sc' := by
  intro sc' hsc'
  rcases List.mem_cons.1 hsc' with rfl | hsc'
  · exact hsc
  · exact h.leaves_erase name sc' hsc'

/-- A handle takes over a holding. -/
theorem hold {p : CompiledPattern} (hb : Balanced n (p.form :: s.heldForms) s.ledger)
    (hl : ∀ sc ∈ s.scopes.values, Leaves sc) (handle : String) : Sound n (s.hold handle p) := by
  refine ⟨?_, hl⟩
  have hperm := hb.perm ((heldForms_patterns s handle).cons p.form)
  unfold Session.hold
  cases hget : s.patterns.get? handle with
  | none =>
    simp only [hget, Option.map_none, Option.toList_none, List.nil_append] at hperm
    exact hperm
  | some q =>
    simp only [hget, Option.map_some, Option.toList_some, List.singleton_append] at hperm
    exact (hperm.perm (.swap ..)).letGo

theorem release (h : Sound n s) (handle : String) : Sound n (s.release handle) := by
  have hperm := h.balanced.perm (heldForms_patterns s handle)
  unfold Session.release
  split
  · next q hget =>
    simp only [hget, Option.map_some, Option.toList_some, List.singleton_append] at hperm
    exact ⟨hperm.letGo, h.leaves⟩
  · exact h

theorem releaseAll (h : Sound n s) (handles : List String) :
    Sound n (handles.foldl Session.release s) := by
  induction handles generalizing s with
  | nil => exact h
  | cons handle handles ih => exact ih (h.release handle)

theorem exec (h : Sound n s) (E : Engine κ σ) (p : CompiledPattern) (input : String)
    (into : CaptureTarget) : Sound n (s.exec E p input into).2 := by
  cases into with
  | nowhere => exact h.ofLedger ((balanced_steady E).execute h.balanced p input)
  | fresh capacity => exact h.ofLedger ((balanced_steady E).executeInto h.balanced p input _)
  | fitted => exact h.ofLedger ((balanced_steady E).executeInto h.balanced p input _)
  | held name =>
    unfold Session.exec
    dsimp only
    split
    · exact h
    · next b _ => exact ⟨(balanced_steady E).executeInto h.balanced p input b, h.leaves⟩

end Sound

/-- Does a step make a form? -/
def makes (E : Engine κ σ) (s : Session κ σ) : Step → Bool
  | .compile compiler _ request _ =>
    (s.compilers.get? compiler).isSome &&
      makesForm E request.pattern request.options s.ledger.state
  | _ => false

namespace Sound

theorem compile (h : Sound n s) (E : Engine κ σ) (compiler handle : String)
    (request : CompileRequest) (room : Bool) :
    Sound (n + (makes E s (.compile compiler handle request room)).toNat)
      (s.step E (.compile compiler handle request room)).2 := by
  have hperm := h.balanced.perm (heldForms_compilers s compiler)
  simp only [Session.step, makes]
  split
  · next hget => simpa [hget] using h
  next c hget =>
  simp only [hget, Option.map_some, Option.getD_some, Option.isSome_some, Bool.true_and]
    at hperm ⊢
  -- with the compiler off its shelf, its registry is the first of the holders
  have hc := compile_balanced hperm E request room
  have hset := heldForms_setCompiler s compiler (c.compile E request s.ledger room).2.2.1
  have hc := hc.perm (hset.symm.append_left _)
  generalize c.compile E request s.ledger room = out at hc ⊢
  obtain ⟨outcome, request', c', w'⟩ := out
  cases outcome with
  | ok p =>
    exact hold (s := { s with compilers := s.compilers.set compiler c', ledger := w' }) hc
      h.leaves handle
  | error e => exact ⟨hc, h.leaves⟩

theorem share (h : Sound n s) (E : Engine κ σ) (handle copy : String) :
    Sound n (s.step E (.share handle copy)).2 := by
  simp only [Session.step]
  split
  · exact h
  next p hget =>
  have hmem : p.form ∈ s.heldForms := by
    refine (heldForms_patterns s handle).mem_iff.2 ?_
    simp [hget]
  exact hold (s := { s with ledger := s.ledger.retain p.form }) (h.balanced.retain hmem)
    h.leaves copy

theorem finish (h : Sound n s) (E : Engine κ σ) (compiler scope : String) :
    Sound n (s.step E (.finish compiler scope)).2 := by
  have hc := heldForms_compilers s compiler
  have hsc := heldForms_scopes { s with compilers := s.compilers.erase compiler } scope
  simp only [Session.step]
  split
  swap
  · exact h
  next c sc hgetc hgetsc =>
  simp only [hgetc, hgetsc, Option.map_some, Option.getD_some] at hc hsc
  have hb := h.balanced.perm (hc.trans (hsc.append_left _))
  obtain ⟨hfinish, hleaves⟩ :=
    finish_balanced (h.leaves sc (Shelf.mem_of_get? hgetsc)) hb E s.config
  -- both go back to their shelves
  have hset := heldForms_setScope { s with compilers := s.compilers.erase compiler } scope
    (c.finish E s.config sc s.ledger).2.1
  have hset' := heldForms_setCompiler { s with
    scopes := s.scopes.set scope (c.finish E s.config sc s.ledger).2.1 } compiler
    (c.finish E s.config sc s.ledger).1
  exact ⟨hfinish.perm ((hset.symm.append_left _).trans hset'.symm), h.leaves_set scope hleaves⟩

theorem optimize (h : Sound n s) (E : Engine κ σ) (registry scope : String) (enabled : Bool) :
    Sound n (s.step E (.optimize registry scope enabled)).2 := by
  have hr := heldForms_registries s registry
  have hsc := heldForms_scopes { s with registries := s.registries.erase registry } scope
  simp only [Session.step]
  split
  swap
  · exact h
  next r sc hgetr hgetsc =>
  simp only [hgetr, hgetsc, Option.map_some, Option.getD_some] at hr hsc
  have hb := h.balanced.perm (hr.trans (hsc.append_left _))
  obtain ⟨hopt, hleaves⟩ :=
    optimizeAll_balanced (h.leaves sc (Shelf.mem_of_get? hgetsc)) hb E enabled
  have hset := heldForms_setScope { s with registries := s.registries.erase registry } scope
    (optimizeAll E r enabled sc s.ledger).1
  exact ⟨hopt.perm hset.symm, h.leaves_set scope hleaves⟩

theorem push (h : Sound n s) (E : Engine κ σ) (registry handle : String) (room : Bool) :
    Sound n (s.step E (.push registry handle room)).2 := by
  have hr := heldForms_registries s registry
  simp only [Session.step]
  split
  swap
  · exact h
  next p r hgetp hgetr =>
  cases room with
  | false => exact h
  | true =>
    simp only [hgetr, Option.map_some, Option.getD_some] at hr
    have hmem : p.form ∈ s.heldForms := by
      refine (heldForms_patterns s handle).mem_iff.2 ?_
      simp [hgetp]
    -- the handle keeps its holding, so the entry needs one of its own
    have hset := heldForms_setRegistry s registry ⟨r.entries ++ [.ofPattern p]⟩
    refine ⟨(h.balanced.retain hmem).perm ?_, h.leaves⟩
    refine ((hr.cons p.form).trans ?_).trans hset.symm
    simpa [Registry.forms, RegistryEntry.ofPattern] using List.perm_middle.symm

/-- A registry goes. -/
theorem dropRegistry (h : Sound n s) (registry : String) {r : Registry}
    (hget : s.registries.get? registry = some r) :
    Sound n { s with
      registries := s.registries.erase registry, ledger := s.ledger.letGoAll r.forms } := by
  have hr := heldForms_registries s registry
  simp only [hget, Option.map_some, Option.getD_some] at hr
  exact ⟨(h.balanced.perm hr).letGoAll, h.leaves⟩

theorem newRegistry (h : Sound n s) (E : Engine κ σ) (name : String) :
    Sound n (s.step E (.newRegistry name)).2 :=
  ⟨(letGoRegistry_balanced (h.balanced.perm (heldForms_registries s name))).perm
    (heldForms_setRegistry s name .empty).symm, h.leaves⟩

theorem newCompiler (h : Sound n s) (E : Engine κ σ) (compiler : String) :
    Sound n (s.step E (.newCompiler compiler)).2 := by
  have hforms : ((s.compilers.get? compiler).map compilerForms).getD [] =
      (((s.compilers.get? compiler).bind (·.registry)).map Registry.forms).getD [] := by
    cases s.compilers.get? compiler <;> rfl
  have hc := heldForms_compilers s compiler
  rw [hforms] at hc
  exact ⟨(letGoRegistry_balanced (h.balanced.perm hc)).perm
    (heldForms_setCompiler s compiler Compiler.opened).symm, h.leaves⟩

theorem dropCompiler (h : Sound n s) (E : Engine κ σ) (compiler : String) :
    Sound n (s.step E (.dropCompiler compiler)).2 := by
  have hc := heldForms_compilers s compiler
  simp only [Session.step]
  split
  · exact h
  next c hget =>
  simp only [hget, Option.map_some, Option.getD_some] at hc
  exact ⟨letGoRegistry_balanced (h.balanced.perm hc), h.leaves⟩

theorem newScope (h : Sound n s) (E : Engine κ σ) (scope : String) (generation : Nat) :
    Sound n (s.step E (.newScope scope generation)).2 :=
  ⟨(endScope_balanced (h.balanced.perm (heldForms_scopes s scope))).perm
      (heldForms_setScope s scope (Scope.opened generation)).symm,
    h.leaves_set scope (by simp [Leaves, Scope.opened])⟩

theorem dropScope (h : Sound n s) (E : Engine κ σ) (scope : String) :
    Sound n (s.step E (.dropScope scope)).2 := by
  have hsc := heldForms_scopes s scope
  simp only [Session.step]
  split
  · exact h
  next sc hget =>
  rw [hget] at hsc
  exact ⟨endScope_balanced (h.balanced.perm hsc), h.leaves_erase scope⟩

theorem teardown (h : Sound n s) (E : Engine κ σ) (scope : String) :
    Sound n (s.step E (.teardown scope)).2 := by
  have hsc := heldForms_scopes s scope
  simp only [Session.step]
  split
  · exact h
  next sc hget =>
  simp only [hget, Option.map_some, Option.getD_some] at hsc
  -- what the scope held has been let go of, so it is not counted twice
  obtain ⟨hran, hwaiting⟩ := ranForms_teardown (h.leaves sc (Shelf.mem_of_get? hget))
  have hb := h.balanced.perm hsc
  rw [← hran] at hb
  have hset := heldForms_setScope s scope sc.teardown.2
  have hnone : scopeForms sc.teardown.2 = [] := by simp [scopeForms, hwaiting]
  rw [hnone, List.nil_append] at hset
  exact ⟨(follow_balanced hb).perm hset.symm,
    h.leaves_set scope (by simp [Leaves, hwaiting])⟩

theorem jit (h : Sound n s) (E : Engine κ σ) (handle : String) :
    Sound n (s.step E (.jit handle)).2 := by
  simp only [Session.step]
  split
  · exact h
  split
  · exact h
  · next hform => exact h.ofLedger ((balanced_steady E).jit h.balanced hform)

/-- **One step.** The books stay right. -/
theorem step (h : Sound n s) (E : Engine κ σ) (st : Step) :
    Sound (n + (makes E s st).toNat) (s.step E st).2 := by
  cases st with
  | compile compiler handle request room => exact h.compile E compiler handle request room
  | share handle copy => exact h.share E handle copy
  | describe handle => simp only [Session.step]; split <;> exact h
  | index handle name => simp only [Session.step]; split <;> exact h
  | buffer name capacity => exact ⟨h.balanced, h.leaves⟩
  | exec handle input into =>
    simp only [Session.step]
    split
    · exact h
    · exact h.exec E _ input into
  | array handles input =>
    simp only [Session.step]
    split
    · exact h
    · next ps _ => exact h.ofLedger ((balanced_steady E).executeFrom h.balanced 0 ps input)
  | directive name value =>
    simp only [Session.step]
    split
    · exact ⟨h.balanced, h.leaves⟩
    · exact h
  | withJit enabled => exact ⟨h.balanced, h.leaves⟩
  | validate => exact ⟨(balanced_steady E).logAll h.balanced _, h.leaves⟩
  | init => exact ⟨h.balanced, h.leaves⟩
  | finish compiler scope => exact h.finish E compiler scope
  | jit handle => exact h.jit E handle
  | registry compiler => simp only [Session.step]; split <;> exact h
  | newRegistry name => exact h.newRegistry E name
  | push registry handle room => exact h.push E registry handle room
  | optimize registry scope enabled => exact h.optimize E registry scope enabled
  | entries registry =>
    simp only [Session.step]
    split
    · exact h
    · next hget => exact h.dropRegistry registry hget
  | dropRegistry registry =>
    simp only [Session.step]
    split
    · exact h
    · next hget => exact h.dropRegistry registry hget
  | drop handles => exact h.releaseAll handles
  | dropCompiler compiler => exact h.dropCompiler E compiler
  | newCompiler compiler => exact h.newCompiler E compiler
  | newScope scope generation => exact h.newScope E scope generation
  | dropScope scope => exact h.dropScope E scope
  | teardown scope => exact h.teardown E scope

end Sound

/-- How many forms the engine makes in a run. -/
def made (E : Engine κ σ) (s : Session κ σ) : List Step → Nat
  | [] => 0
  | st :: steps => (makes E s st).toNat + made E (s.step E st).2 steps

/-- **Any steps.** The books stay right. -/
theorem sound_run (h : Sound n s) (E : Engine κ σ) (steps : List Step) :
    Sound (n + made E s steps) (run E s steps) := by
  induction steps generalizing n s with
  | nil => exact h
  | cons st steps ih =>
    have hst := ih (h.step E st)
    rwa [Nat.add_assoc] at hst

/-- **A form is released when its last holder goes.** After any steps: no form has been released
twice; a form that is held has not been released; one that nobody holds any more has; as many forms
were made as were released or are held; and when nobody holds anything, each form made has been
released once. -/
theorem forms_released_once (E : Engine κ σ) (state : σ) (steps : List Step) :
    let s := run E (opened state) steps
    let n := made E (opened state) steps
    (∀ form, s.ledger.releases form ≤ 1) ∧
      (∀ form ∈ s.heldForms, form < n ∧ s.ledger.releases form = 0) ∧
      (∀ form < n, form ∉ s.heldForms → s.ledger.releases form = 1) ∧
      n = s.ledger.released + s.heldForms.dedup.length ∧
      (s.heldForms = [] → s.ledger.released = n ∧ ∀ form < n, s.ledger.releases form = 1) := by
  have h := sound_run (Sound.opened state) E steps
  rw [Nat.zero_add] at h
  have hb := h.balanced
  refine ⟨fun form => ?_, fun form hform => ?_, fun form hlt hform => ?_, hb.compiled_eq,
    fun hnone => ⟨?_, fun form hlt => ?_⟩⟩
  · rw [hb.releases]
    split <;> omega
  · exact ⟨hb.lt_of_mem hform, by simp [hb.releases, hform]⟩
  · simp [hb.releases, hlt, hform]
  · have hcount := hb.compiled_eq
    rw [hnone] at hcount
    exact hcount.symm
  · simp [hb.releases, hlt, hnone]

end Session

end PatternSuite
