import PatternSuite.Proofs.BatchPasses
import PatternSuite.Proofs.Holders

/-!
# A load and its scope end in either order

A compiler is finished, and the scope that takes its patterns over is torn down. On an open scope
the cleanup of the patterns waits for the teardown; on a scope that is torn down already it runs
before the batch pass starts, and only the pass holds the patterns then. Either way the pass has all
of them in its hands while it asks the engine, and in the end the same forms are optimized and the
same forms are released.

* `Ending`: a compiler, a scope and a ledger; `Ending.finish`, `Ending.teardown`: what happens to
  them.
* `Unreleased`: forms that have not been released at any call to optimize.
* `Ended`: what is left in the end, without regard to the order.
* `finished`, `tornDown`: one step, from any compiler and any scope.
* `finish_teardown_comm`: the two orders.
-/

namespace PatternSuite

open Ledger Session

variable {κ σ : Type}

/-- A compiler, the scope that is to take its patterns over, and the ledger. -/
structure Ending (κ σ : Type) where
  compiler : Compiler
  scope : Scope Duty
  ledger : Ledger κ σ

namespace Ending

/-- The compiler is finished. -/
def finish (E : Engine κ σ) (config : Config) (e : Ending κ σ) : Ending κ σ :=
  let (c, sc, w) := e.compiler.finish E config e.scope e.ledger
  ⟨c, sc, w⟩

/-- A registry that is there goes to the batch pass. -/
theorem finish_of_registry {e : Ending κ σ} {r : Registry} (hr : e.compiler.registry = some r)
    (E : Engine κ σ) (config : Config) :
    e.finish E config = ⟨⟨none⟩,
      (e.scope.add (.mk (.release e.scope.generation r.entries) [])).2.2,
      (optimizeAll E r config.jitEnabled e.scope e.ledger).2⟩ := by
  rw [finish, Compiler.finish, hr]
  rfl

/-- The scope is torn down. -/
def teardown (e : Ending κ σ) : Ending κ σ :=
  let (moments, sc) := e.scope.teardown
  { e with scope := sc, ledger := e.ledger.follow moments }

end Ending

/-! ## Events -/

/-- None of these forms has been released at a call to optimize. -/
def Unreleased (ids : List Nat) (w : Ledger κ σ) : Prop :=
  ∀ before form after, w.events.toList = before ++ .called (.jit form) :: after →
    ∀ id ∈ ids, .released id ∉ before

section Events

variable {w v : Ledger κ σ} {ids : List Nat}

theorem unreleased_of_releases (h : ∀ id ∈ ids, w.releases id = 0) : Unreleased ids w := by
  intro before form after hevents id hid hmem
  have hnot : .released id ∉ w.events.toList := List.count_eq_zero.1 (h id hid)
  rw [hevents] at hnot
  exact hnot (List.mem_append_left _ hmem)

/-- What happens behind the last call does not matter. -/
theorem Unreleased.extend (h : Unreleased ids w) (hpre : w.events.toList <+: v.events.toList)
    (hcalls : v.calls = w.calls) : Unreleased ids v := by
  obtain ⟨more, hmore⟩ := hpre
  have hnone : more.filterMap call? = [] := by
    have hlength := congrArg List.length hcalls
    rw [calls, calls, ← hmore, List.filterMap_append, List.length_append] at hlength
    exact List.length_eq_zero_iff.1 (by omega)
  intro before form after hevents
  rw [← hmore] at hevents
  rcases List.append_eq_append_iff.1 hevents with ⟨between, -, hlate⟩ | ⟨between, hearly, hrest⟩
  · -- the call cannot be one of the later events
    have hmem : .called (.jit form) ∈ more := by simp [hlate]
    have hcall := List.filterMap_eq_nil_iff.1 hnone _ hmem
    cases hcall
  · cases between with
    | nil =>
      have hmem : .called (.jit form) ∈ more := by
        rw [List.nil_append] at hrest
        simp [← hrest]
      have hcall := List.filterMap_eq_nil_iff.1 hnone _ hmem
      cases hcall
    | cons e between =>
      obtain ⟨rfl, -⟩ := List.cons_eq_cons.1 hrest
      exact h before form between hearly

theorem prefix_letGoAll (ids : List Nat) (w : Ledger κ σ) :
    w.events.toList <+: (w.letGoAll ids).events.toList := by
  obtain ⟨gone, hgone⟩ := events_letGoAll ids w
  exact ⟨_, hgone.symm⟩

theorem prefix_note (e : Event) (w : Ledger κ σ) :
    w.events.toList <+: (w.note e).events.toList := by
  simp [note]

/-- Cleanups only add to what is written down. -/
theorem prefix_follow (ms : List (Moment Duty)) (w : Ledger κ σ) :
    w.events.toList <+: (w.follow ms).events.toList :=
  follow_induct (P := fun v => w.events.toList <+: v.events.toList)
    (fun h _ => h.trans (prefix_note _ _)) (fun h id => h.trans (prefix_letGoAll [id] _))
    (List.prefix_refl _) ms

/-- So does the engine. -/
theorem prefix_steady (E : Engine κ σ) (l : List Event) :
    Steady E fun v => l <+: v.events.toList where
  ask {w} h _ call answer :=
    h.trans (prefix_note (.called call) { w with state := (answer w.state).2 })
  log h _ := h.trans (prefix_note _ _)
  jit {w} {id} {form} h _ :=
    h.trans (prefix_note (.called (.jit id)) { w with state := (E.jitCompile form w.state).2 })

end Events

/-! ## One step -/

/-- What an engine makes of the patterns of a compiler that is finished. -/
def Compiler.pass (E : Engine κ σ) (config : Config) (c : Compiler) (w : Ledger κ σ) :
    JitAnswers κ σ :=
  if config.jitEnabled && E.jitAvailable then
    jitAnswers E ((c.registry.map Registry.entries).getD []) w.formList w.state
  else ⟨[], w.formList, w.state⟩

/-- It depends on the forms and the state that the engine finds. -/
theorem Compiler.pass_congr (E : Engine κ σ) (config : Config) (c : Compiler) {w v : Ledger κ σ}
    (hforms : v.formList = w.formList) (hstate : v.state = w.state) :
    c.pass E config v = c.pass E config w := by
  rw [pass, pass, hforms, hstate]

/-- The calls for the patterns of a compiler that is finished. -/
def Compiler.passCalls (E : Engine κ σ) (config : Config) (c : Compiler) : List EngineCall :=
  if config.jitEnabled && E.jitAvailable then (compilerForms c).map .jit else []

namespace Ledger.Balanced

variable {n : Nat} {gone held : List Nat} {w v : Ledger κ σ}

/-- A form that is held has not been released. -/
theorem releases_of_mem (h : Balanced n held w) {id : Nat} (hid : id ∈ held) :
    w.releases id = 0 := by
  rw [h.releases, if_neg fun hgone => hgone.2 hid]

/-- When some holders have gone, their forms have been released that nobody else holds. -/
theorem releases_of_gone (h : Balanced n (gone ++ held) w) (h' : Balanced n held v) (id : Nat) :
    v.releases id = w.releases id + if id ∈ gone ∧ id ∉ held then 1 else 0 := by
  rw [h.releases, h'.releases]
  by_cases hheld : id ∈ held
  · simp [hheld]
  by_cases hgone : id ∈ gone
  · have hlt : id < n := h.lt_of_mem (List.mem_append_left _ hgone)
    simp [hheld, hgone, hlt]
  · simp [hheld, hgone]

end Ledger.Balanced

section Steps

variable {n : Nat} {held : List Nat} {E : Engine κ σ} {config : Config} {e : Ending κ σ}

/-- What a finish comes to when the ledger is balanced and `held` are the holdings of others. -/
structure Finished (E : Engine κ σ) (config : Config) (n : Nat) (held : List Nat)
    (e e' : Ending κ σ) : Prop where
  compiler : e'.compiler = ⟨none⟩
  /-- A torn-down scope stays so, and an open one stays open. -/
  scope : ∃ add, e'.scope = { e.scope with waiting := e.scope.waiting.map add }
  forms : e'.ledger.formList = (e.compiler.pass E config e.ledger).forms
  state : e'.ledger.state = (e.compiler.pass E config e.ledger).state
  calls : e'.ledger.calls = e.ledger.calls ++ e.compiler.passCalls E config
  /-- The scope holds the patterns of the compiler, or they have been let go of. -/
  balanced : Balanced n (ranForms e'.scope.teardown.1 ++ held) e'.ledger
  unreleased : Unreleased (compilerForms e.compiler) e'.ledger

/-- **A compiler is finished.** The pass holds the patterns to its end, so none of them is released
while the engine is asked. -/
theorem finished
    (h : Balanced n (compilerForms e.compiler ++ (ranForms e.scope.teardown.1 ++ held)) e.ledger)
    (E : Engine κ σ) (config : Config) : Finished E config n held e (e.finish E config) := by
  obtain ⟨⟨registry⟩, sc, w⟩ := e
  cases registry with
  | none =>
    -- there is nothing to hand over, and the engine is not asked
    have hpass : Compiler.pass E config ⟨none⟩ w = ⟨[], w.formList, w.state⟩ := by
      rw [Compiler.pass]
      split
      · rfl
      · rfl
    have hcalls : Compiler.passCalls E config ⟨none⟩ = [] := by
      rw [Compiler.passCalls]
      split
      · rfl
      · rfl
    refine ⟨rfl, ⟨id, ?_⟩, ?_, ?_, ?_, h.log _ _, ?_⟩
    · rw [Option.map_id]
      rfl
    · rw [hpass]
      rfl
    · rw [hpass]
      rfl
    · rw [hcalls, List.append_nil]
      exact calls_log ..
    · intro before form after _ id hid
      cases hid
  | some r =>
    have hmade : ∀ id ∈ r.forms, id < w.formList.length := by
      intro id hid
      have hlt := h.lt_of_mem (List.mem_append_left _ hid)
      have hcompiled : w.forms.size = n := h.compiled
      rwa [formList, List.length_map, Array.length_toList, hcompiled]
    -- the cleanup changes neither the forms nor the state that the pass finds
    have hpass : ((w.takenOver r sc).swept E r config.jitEnabled).formList =
          (Compiler.pass E config ⟨some r⟩ w).forms ∧
        ((w.takenOver r sc).swept E r config.jitEnabled).state =
          (Compiler.pass E config ⟨some r⟩ w).state := by
      rw [Compiler.pass]
      split
      · next hon =>
        obtain ⟨-, hforms, hstate⟩ := swept_heard hon r (w.takenOver r sc)
        rw [formList_takenOver, state_takenOver] at hforms hstate
        exact ⟨hforms, hstate⟩
      · next hoff =>
        rw [Ledger.swept, if_neg hoff]
        exact ⟨formList_takenOver .., state_takenOver ..⟩
    have hswept := swept_balanced h E config.jitEnabled
    have hcalls := calls_optimizeAll (E := E) hmade config.jitEnabled sc
    rw [Ending.finish_of_registry rfl]
    rw [optimizeAll_eq] at hcalls ⊢
    refine ⟨rfl, ⟨_, (sc.add_leaf _).1⟩, ?_, ?_, hcalls, hswept.letGoAll, ?_⟩
    · exact (formList_letGoAll _ _).trans hpass.1
    · exact (state_letGoAll _ _).trans hpass.2
    · have hmid := unreleased_of_releases fun id hid =>
        hswept.releases_of_mem (List.mem_append_left _ hid)
      exact hmid.extend (prefix_letGoAll _ _) (calls_letGoAll _ _)

/-- A scope that has been torn down has nothing left to do. -/
theorem teardown_scope (sc : Scope Duty) : sc.teardown.2 = { sc with waiting := none } := by
  obtain ⟨g, _ | cs⟩ := sc
  · rw [Scope.teardown, Scope.work_of_tornDown g none _ rfl]
  · rw [Scope.teardown, Scope.work_teardown]

theorem ranForms_tornDown (sc : Scope Duty) :
    ranForms (Scope.teardown { sc with waiting := none }).1 = [] := by
  rw [Scope.teardown, Scope.work_of_tornDown _ none _ rfl]
  rfl

/-- What is left when a compiler has been finished and its scope has been torn down. -/
structure Ended (E : Engine κ σ) (config : Config) (held : List Nat) (e e' : Ending κ σ) :
    Prop where
  compiler : e'.compiler = ⟨none⟩
  scope : e'.scope = { e.scope with waiting := none }
  forms : e'.ledger.formList = (e.compiler.pass E config e.ledger).forms
  state : e'.ledger.state = (e.compiler.pass E config e.ledger).state
  calls : e'.ledger.calls = e.ledger.calls ++ e.compiler.passCalls E config
  /-- The patterns of the compiler, and those of other cleanups if these have any, are released just
  if nobody else holds them. -/
  releases : ∀ id, e'.ledger.releases id = e.ledger.releases id +
    if id ∈ compilerForms e.compiler ++ ranForms e.scope.teardown.1 ∧ id ∉ held then 1 else 0
  unreleased : Unreleased (compilerForms e.compiler) e'.ledger

/-- The finish comes first. -/
theorem ended_finish_teardown
    (h : Balanced n (compilerForms e.compiler ++ (ranForms e.scope.teardown.1 ++ held)) e.ledger)
    (E : Engine κ σ) (config : Config) :
    Ended E config held e (e.finish E config).teardown := by
  have hfinish := finished h E config
  have hbalanced : Balanced n held (e.finish E config).teardown.ledger :=
    follow_balanced hfinish.balanced
  obtain ⟨add, hscope⟩ := hfinish.scope
  refine ⟨hfinish.compiler, ?_, ?_, ?_, ?_, ?_, ?_⟩
  · refine (teardown_scope _).trans ?_
    rw [hscope]
  · exact (formList_follow _ _).trans hfinish.forms
  · exact (state_follow _ _).trans hfinish.state
  · exact (calls_follow _ _).trans hfinish.calls
  · rw [← List.append_assoc] at h
    exact h.releases_of_gone hbalanced
  · exact hfinish.unreleased.extend (prefix_follow _ _) (calls_follow _ _)

/-- The teardown comes first. The compiler holds its patterns beyond it. -/
theorem ended_teardown_finish
    (h : Balanced n (compilerForms e.compiler ++ (ranForms e.scope.teardown.1 ++ held)) e.ledger)
    (E : Engine κ σ) (config : Config) :
    Ended E config held e (e.teardown.finish E config) := by
  have hscope : e.teardown.scope = { e.scope with waiting := none } := teardown_scope e.scope
  -- the cleanups let go of what they hold, and leave a scope without cleanups
  have hteardown : Balanced n (compilerForms e.compiler ++
      (ranForms e.teardown.scope.teardown.1 ++ held)) e.teardown.ledger := by
    rw [hscope, ranForms_tornDown, List.nil_append]
    refine follow_balanced (h.perm ?_)
    rw [← List.append_assoc, ← List.append_assoc]
    exact List.perm_append_comm.append_right _
  have hpass : e.teardown.compiler.pass E config e.teardown.ledger =
      e.compiler.pass E config e.ledger :=
    e.compiler.pass_congr E config (formList_follow _ _) (state_follow _ _)
  have hfinish := finished (e := e.teardown) hteardown E config
  have htorn : (e.teardown.finish E config).scope = { e.scope with waiting := none } := by
    obtain ⟨add, hadd⟩ := hfinish.scope
    rw [hadd, hscope]
    rfl
  have hbalanced : Balanced n held (e.teardown.finish E config).ledger := by
    have hleft := hfinish.balanced
    rwa [htorn, ranForms_tornDown] at hleft
  refine ⟨hfinish.compiler, htorn, ?_, ?_, ?_, ?_, hfinish.unreleased⟩
  · rw [hfinish.forms, hpass]
  · rw [hfinish.state, hpass]
  · refine hfinish.calls.trans ?_
    exact congrArg (· ++ _) (calls_follow _ _)
  · rw [← List.append_assoc] at h
    exact h.releases_of_gone hbalanced

/-- On a torn-down scope the cleanup of the patterns runs before the pass starts. -/
theorem released_before {r : Registry} (hr : e.compiler.registry = some r)
    (htorn : e.scope.isTornDown = true) (E : Engine κ σ) (config : Config) :
    e.ledger.events.toList ++ [.logged (releasingRecord r.length e.scope.generation)] <+:
      (e.finish E config).ledger.events.toList := by
  obtain ⟨gone, hgone⟩ := events_takenOver r e.scope e.ledger
  rw [if_pos htorn] at hgone
  have htaken :
      e.ledger.events.toList ++ [.logged (releasingRecord r.length e.scope.generation)] <+:
        (e.ledger.takenOver r e.scope).events.toList := by
    rw [hgone, List.prefix_append_right_inj]
    exact ⟨gone.map .released, rfl⟩
  rw [Ending.finish_of_registry hr, optimizeAll_eq]
  exact ((prefix_steady E _).swept htaken r config.jitEnabled).trans (prefix_letGoAll _ _)

/-- On an open scope it runs in the teardown, before any other. -/
theorem released_after {r : Registry} (hr : e.compiler.registry = some r)
    (hopen : e.scope.isTornDown = false) (E : Engine κ σ) (config : Config) :
    ∃ count, (e.finish E config).ledger.events.toList ++
        [.logged (Scope.teardownRecord e.scope.generation count),
          .logged (releasingRecord r.length e.scope.generation)] <+:
      (e.finish E config).teardown.ledger.events.toList := by
  obtain ⟨c, ⟨g, _ | cs⟩, w⟩ := e
  · cases hopen
  rw [Ending.finish_of_registry hr]
  generalize (optimizeAll E r config.jitEnabled ⟨g, some cs⟩ w).2 = v
  -- the cleanup stands before those that were registered earlier
  have hteardown : (Ending.teardown ⟨⟨none⟩, ⟨g, some (.mk (.release g r.entries) [] :: cs)⟩,
      v⟩).ledger = ((v.note (.logged (Scope.teardownRecord g (cs.length + 1)))).perform
        (.release g r.entries)).follow (cs.flatMap (Scope.cleanupCourse g)) := by
    rw [Ending.teardown, Scope.teardown, Scope.work_teardown]
    rfl
  have hlogged : v.events.toList ++ [.logged (Scope.teardownRecord g (cs.length + 1)),
      .logged (releasingRecord r.length g)] =
        ((v.note (.logged (Scope.teardownRecord g (cs.length + 1)))).note
          (.logged (releasingRecord r.length g))).events.toList := by
    simp [note]
  refine ⟨cs.length + 1, ?_⟩
  change v.events.toList ++ _ <+: (Ending.teardown ⟨⟨none⟩,
    ⟨g, some (.mk (.release g r.entries) [] :: cs)⟩, v⟩).ledger.events.toList
  rw [hteardown]
  change v.events.toList ++ [.logged (Scope.teardownRecord g (cs.length + 1)),
    .logged (releasingRecord r.length g)] <+: _
  rw [hlogged]
  exact (prefix_letGoAll _ _).trans (prefix_follow _ _)

end Steps

/-! ## The two orders -/

/-- Two ends are the same, apart from what was logged and the order of releases. -/
structure SameEnd (a b : Ending κ σ) : Prop where
  compiler : a.compiler = b.compiler
  scope : a.scope = b.scope
  forms : a.ledger.formList = b.ledger.formList
  state : a.ledger.state = b.ledger.state
  calls : a.ledger.calls = b.ledger.calls
  releases : ∀ id, a.ledger.releases id = b.ledger.releases id

theorem Ended.sameEnd {E : Engine κ σ} {config : Config} {held : List Nat} {e a b : Ending κ σ}
    (ha : Ended E config held e a) (hb : Ended E config held e b) : SameEnd a b where
  compiler := ha.compiler.trans hb.compiler.symm
  scope := ha.scope.trans hb.scope.symm
  forms := ha.forms.trans hb.forms.symm
  state := ha.state.trans hb.state.symm
  calls := ha.calls.trans hb.calls.symm
  releases id := (ha.releases id).trans (hb.releases id).symm

/-- **A load and its scope end in either order**, for any compiler and any scope, whatever its
cleanups do to it; `held` are the holdings of callers, other registries and other scopes. The forms
and the calls to the engine are the same in the end, the registry is consumed, the scope is torn
down, and of the patterns of the compiler and of other cleanups those were released, once, that
nobody else holds. No pattern of the compiler had been released at any call to optimize, although
the cleanup of the patterns runs before the pass if the scope is torn down first, and behind it
otherwise. -/
theorem finish_teardown_comm (E : Engine κ σ) (config : Config) {n : Nat} {held : List Nat}
    {e : Ending κ σ}
    (h : Balanced n (compilerForms e.compiler ++ (ranForms e.scope.teardown.1 ++ held)) e.ledger) :
    SameEnd (e.finish E config).teardown (e.teardown.finish E config) ∧
      Ended E config held e (e.finish E config).teardown ∧
      Ended E config held e (e.teardown.finish E config) ∧
      ∀ r, e.compiler.registry = some r →
        (e.teardown.ledger.calls = e.ledger.calls ∧
          e.teardown.ledger.events.toList ++
              [.logged (releasingRecord r.length e.scope.generation)] <+:
            (e.teardown.finish E config).ledger.events.toList) ∧
        (e.scope.isTornDown = false →
          (e.finish E config).ledger.calls = (e.finish E config).teardown.ledger.calls ∧
          ∃ count, (e.finish E config).ledger.events.toList ++
              [.logged (Scope.teardownRecord e.scope.generation count),
                .logged (releasingRecord r.length e.scope.generation)] <+:
            (e.finish E config).teardown.ledger.events.toList) := by
  have hfirst := ended_finish_teardown h E config
  have hsecond := ended_teardown_finish h E config
  refine ⟨hfirst.sameEnd hsecond, hfirst, hsecond, fun r hr => ⟨⟨calls_follow _ _, ?_⟩,
    fun hopen => ⟨(calls_follow _ _).symm, released_after hr hopen E config⟩⟩⟩
  have hscope : e.teardown.scope = { e.scope with waiting := none } := teardown_scope e.scope
  have hearly := released_before (e := e.teardown) hr (by rw [hscope]; rfl) E config
  rwa [hscope] at hearly

/-- Two patterns, of which one is refused and the other has another holder, and a scope with a
cleanup that touches neither. -/
theorem finish_teardown_comm_scripted :
    let script : Script := { jitRefusals := ["b"] }
    let w : Ledger ScriptedForm Unit :=
      (((({ state := () } : Ledger ScriptedForm Unit).adopt ⟨"a", false⟩).2.adopt
        ⟨"b", false⟩).2).retain 0
    let e : Ending ScriptedForm Unit :=
      ⟨⟨some (.ofPatterns [⟨0, "a", 0, none⟩, ⟨1, "b", 0, none⟩])⟩,
        ⟨3, some [.mk (.other "counters") [.isTornDown]]⟩, w⟩
    let a := (e.finish script.engine { jit := some true }).teardown
    let b := e.teardown.finish script.engine { jit := some true }
    Balanced 2 (compilerForms e.compiler ++ (ranForms e.scope.teardown.1 ++ [0])) e.ledger ∧
      SameEnd a b ∧ a.ledger.calls = [.jit 0, .jit 1] ∧
      a.ledger.formList = [⟨"a", true⟩, ⟨"b", false⟩] ∧ a.ledger.releasedForms = [1] := by
  intro script w e a b
  have hran : ranForms e.scope.teardown.1 = [] := by decide +kernel
  have hopened : Balanced 0 [] ({ state := () } : Ledger ScriptedForm Unit) := .opened ()
  have hfirst := (hopened.adopt ⟨"a", false⟩).2
  have hsecond := (hfirst.adopt ⟨"b", false⟩).2
  have hbalanced : Balanced 2 [0, 1, 0] w := hsecond.retain (by decide)
  have h : Balanced 2 (compilerForms e.compiler ++ (ranForms e.scope.teardown.1 ++ [0]))
      e.ledger := by
    rw [hran]
    exact hbalanced
  refine ⟨h, (finish_teardown_comm script.engine { jit := some true } h).1, ?_, ?_, ?_⟩
  · decide +kernel
  · decide +kernel
  · decide +kernel

end PatternSuite
