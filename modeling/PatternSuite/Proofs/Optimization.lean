import PatternSuite.Engine.Scripted
import PatternSuite.Proofs.StandardForms
import PatternSuite.Proofs.Twins
import PatternSuite.Session

/-!
# Optimization does not show

Two sessions over engines that answer alike answer alike themselves, whatever either optimizes and
whatever its configuration says about it.

* `Session.Twin`: two sessions with the same objects and related forms.
* `Session.Twin.plainStep`, `Session.twin_run`: the same steps keep them so.
* `optimization_hidden`: the standard engine and the scripted engine, with any settings.
-/

namespace PatternSuite

open Text

variable {κ σ μ τ : Type} {F : κ → μ → Prop} {E : Engine κ σ} {D : Engine μ τ}
  {w : Ledger κ σ} {v : Ledger μ τ}

/-! ## The batch pass -/

theorem optimizeAll_optimized (E : Engine κ σ) (r : Registry) (enabled : Bool) (sc : Scope Duty)
    (w : Ledger κ σ) : Optimized E w.formList (optimizeAll E r enabled sc w).2.formList := by
  rw [optimizeAll_eq, Ledger.formList_letGoAll]
  exact (optimized_steady E w.formList).swept (.of_eq (by simp)) r enabled

theorem finish_optimized (E : Engine κ σ) (config : Config) (sc : Scope Duty) (c : Compiler)
    (w : Ledger κ σ) : Optimized E w.formList (c.finish E config sc w).2.2.formList := by
  unfold Compiler.finish
  split
  · exact .refl _
  · exact optimizeAll_optimized E _ config.jitEnabled sc w

/-- A finished load does not depend on the engine. -/
theorem finish_eq (E : Engine κ σ) (D : Engine μ τ) (config config' : Config) (sc : Scope Duty)
    (c : Compiler) (w : Ledger κ σ) (v : Ledger μ τ) :
    (c.finish E config sc w).1 = (c.finish D config' sc v).1 ∧
      (c.finish E config sc w).2.1 = (c.finish D config' sc v).2.1 := by
  unfold Compiler.finish
  cases c.registry with
  | none => exact ⟨rfl, rfl⟩
  | some r => exact ⟨rfl, rfl⟩

/-- What a step is apart from optimization: nothing, or a step that does not say whether the batch
pass is to optimize. -/
def Step.plain : Step → Option Step
  | .jit _ => none
  | .directive _ _ => none
  | .withJit _ => none
  | .validate => none
  | .init => none
  | .optimize name scope _ => some (.optimize name scope true)
  | st => some st

namespace Session

variable {s : Session κ σ} {r : Session μ τ}

/-- Two sessions with the same objects and related forms. -/
structure Twin (F : κ → μ → Prop) (s : Session κ σ) (r : Session μ τ) : Prop where
  forms : List.Forall₂ F s.ledger.formList r.ledger.formList
  compilers : s.compilers = r.compilers
  scopes : s.scopes = r.scopes
  registries : s.registries = r.registries
  patterns : s.patterns = r.patterns
  buffers : s.buffers = r.buffers

namespace Twin

theorem opened (F : κ → μ → Prop) (a : σ) (b : τ) :
    Twin F (Session.opened a : Session κ σ) (Session.opened b : Session μ τ) :=
  ⟨.nil, rfl, rfl, rfl, rfl, rfl⟩

theorem ofLedger (h : Twin F s r) (hf : List.Forall₂ F w.formList v.formList) :
    Twin F { s with ledger := w } { r with ledger := v } :=
  ⟨hf, h.compilers, h.scopes, h.registries, h.patterns, h.buffers⟩

theorem hold (h : Twin F s r) (handle : String) (p : CompiledPattern) :
    Twin F (s.hold handle p) (r.hold handle p) := by
  unfold Session.hold
  rw [h.patterns]
  refine ⟨?_, h.compilers, h.scopes, h.registries, rfl, h.buffers⟩
  cases r.patterns.get? handle with
  | none => exact h.forms
  | some q => simpa using h.forms

theorem release (h : Twin F s r) (handle : String) :
    Twin F (s.release handle) (r.release handle) := by
  unfold Session.release
  rw [h.patterns]
  cases r.patterns.get? handle with
  | none => exact h
  | some q =>
    exact ⟨by simpa using h.forms, h.compilers, h.scopes, h.registries, rfl, h.buffers⟩

theorem releaseAll (h : Twin F s r) (handles : List String) :
    Twin F (handles.foldl Session.release s) (handles.foldl Session.release r) := by
  induction handles generalizing s r with
  | nil => exact h
  | cons handle handles ih => exact ih (h.release handle)

/-- Two matches come out alike. -/
theorem exec (hE : Twins F E D) (h : Twin F s r) (p : CompiledPattern) (input : String)
    (into : CaptureTarget) :
    (s.exec E p input into).1 = (r.exec D p input into).1 ∧
      Twin F (s.exec E p input into).2 (r.exec D p input into).2 := by
  have hinto (b : Captures) : List.Forall₂ F (executeInto E p input b s.ledger).2.2.formList
      (executeInto D p input b r.ledger).2.2.formList :=
    hE.both h.forms ((optimized_steady E _).executeInto (.refl _) p input b)
      ((optimized_steady D _).executeInto (.refl _) p input b)
  cases into with
  | nowhere =>
    have hout := hE.execute_eq h.forms p input
    refine ⟨by simp only [Session.exec, hout], h.ofLedger ?_⟩
    exact hE.both h.forms ((optimized_steady E _).execute (.refl _) p input)
      ((optimized_steady D _).execute (.refl _) p input)
  | fresh capacity =>
    obtain ⟨hout, hb⟩ := hE.executeInto_eq h.forms p input (.ofCapacity capacity)
    exact ⟨by simp only [Session.exec, hout, hb], h.ofLedger (hinto _)⟩
  | fitted =>
    obtain ⟨hout, hb⟩ := hE.executeInto_eq h.forms p input p.captureBuffer
    exact ⟨by simp only [Session.exec, hout, hb], h.ofLedger (hinto _)⟩
  | held name =>
    simp only [Session.exec, h.buffers]
    cases r.buffers.get? name with
    | none => exact ⟨rfl, h⟩
    | some b =>
      obtain ⟨hout, hb⟩ := hE.executeInto_eq h.forms p input b
      refine ⟨by simp only [hout, hb], ?_⟩
      exact ⟨hinto b, h.compilers, h.scopes, h.registries, h.patterns, by simp only [hb]⟩

theorem compile (hE : Twins F E D) (h : Twin F s r) (compiler handle : String)
    (request : CompileRequest) (room : Bool) :
    (s.step E (.compile compiler handle request room)).1 =
        (r.step D (.compile compiler handle request room)).1 ∧
      Twin F (s.step E (.compile compiler handle request room)).2
        (r.step D (.compile compiler handle request room)).2 := by
  simp only [Session.step, h.compilers]
  cases r.compilers.get? compiler with
  | none => exact ⟨rfl, h⟩
  | some c =>
  obtain ⟨hout, hreq, hc, hforms⟩ := hE.compile_eq h.forms c request room
  dsimp only
  rcases hw : c.compile E request s.ledger room with ⟨x, q, c₁, w₁⟩
  rcases hv : c.compile D request r.ledger room with ⟨y, q', c₂, v₁⟩
  rw [hw, hv] at hout hreq hc hforms
  obtain rfl : x = y := hout
  obtain rfl : q = q' := hreq
  obtain rfl : c₁ = c₂ := hc
  have hset : Twin F { s with compilers := r.compilers.set compiler c₁, ledger := w₁ }
      { r with compilers := r.compilers.set compiler c₁, ledger := v₁ } :=
    ⟨hforms, rfl, h.scopes, h.registries, h.patterns, h.buffers⟩
  cases x with
  | error e => exact ⟨rfl, hset⟩
  | ok p => exact ⟨rfl, hset.hold handle p⟩

theorem finish (hE : Twins F E D) (h : Twin F s r) (compiler scope : String) :
    (s.step E (.finish compiler scope)).1 = (r.step D (.finish compiler scope)).1 ∧
      Twin F (s.step E (.finish compiler scope)).2 (r.step D (.finish compiler scope)).2 := by
  simp only [Session.step, h.compilers, h.scopes]
  cases r.compilers.get? compiler with
  | none => exact ⟨rfl, h⟩
  | some c =>
  cases r.scopes.get? scope with
  | none => exact ⟨rfl, h⟩
  | some sc =>
  obtain ⟨hc, hsc⟩ := finish_eq E D s.config r.config sc c s.ledger r.ledger
  have hforms := hE.both h.forms (finish_optimized E s.config sc c s.ledger)
    (finish_optimized D r.config sc c r.ledger)
  refine ⟨rfl, hforms, ?_, ?_, h.registries, h.patterns, h.buffers⟩
  · simp only [hc]
  · simp only [hsc]

/-- It does not matter whether a batch pass is to optimize. -/
theorem optimize (hE : Twins F E D) (h : Twin F s r) (name scope : String)
    (enabled enabled' : Bool) :
    (s.step E (.optimize name scope enabled)).1 = (r.step D (.optimize name scope enabled')).1 ∧
      Twin F (s.step E (.optimize name scope enabled)).2
        (r.step D (.optimize name scope enabled')).2 := by
  simp only [Session.step, h.registries, h.scopes]
  cases r.registries.get? name with
  | none => exact ⟨rfl, h⟩
  | some reg =>
  cases r.scopes.get? scope with
  | none => exact ⟨rfl, h⟩
  | some sc =>
  have hforms := hE.both h.forms (optimizeAll_optimized E reg enabled sc s.ledger)
    (optimizeAll_optimized D reg enabled' sc r.ledger)
  exact ⟨rfl, hforms, h.compilers, rfl, rfl, h.patterns, h.buffers⟩

/-- **One step.** Twins that take the same step answer alike and stay twins. -/
theorem step (hE : Twins F E D) (h : Twin F s r) {st : Step} (hst : st.plain.isSome = true) :
    (s.step E st).1 = (r.step D st).1 ∧ Twin F (s.step E st).2 (r.step D st).2 := by
  cases st with
  | compile compiler handle request room => exact h.compile hE compiler handle request room
  | share handle copy =>
    simp only [Session.step, h.patterns]
    cases r.patterns.get? handle with
    | none => exact ⟨rfl, h⟩
    | some p =>
      have hretain : Twin F { s with ledger := s.ledger.retain p.form }
          { r with ledger := r.ledger.retain p.form } := h.ofLedger (by simpa using h.forms)
      exact ⟨rfl, by simpa only [h.patterns] using hretain.hold copy p⟩
  | describe handle =>
    simp only [Session.step, h.patterns]
    cases r.patterns.get? handle <;> exact ⟨rfl, h⟩
  | index handle name =>
    simp only [Session.step, h.patterns]
    cases r.patterns.get? handle <;> exact ⟨rfl, h⟩
  | buffer name capacity =>
    refine ⟨rfl, h.forms, h.compilers, h.scopes, h.registries, h.patterns, ?_⟩
    simp only [Session.step, h.buffers]
  | exec handle input into =>
    simp only [Session.step, h.patterns]
    cases r.patterns.get? handle with
    | none => exact ⟨rfl, h⟩
    | some p => exact h.exec hE p input into
  | array handles input =>
    simp only [Session.step, h.patterns]
    cases handles.mapM r.patterns.get? with
    | none => exact ⟨rfl, h⟩
    | some ps =>
      have hout := hE.executeFrom_eq h.forms 0 ps input
      have hforms := hE.both h.forms ((optimized_steady E _).executeFrom (.refl _) 0 ps input)
        ((optimized_steady D _).executeFrom (.refl _) 0 ps input)
      refine ⟨by simp only [executeArray, hout], ?_⟩
      exact ⟨hforms, h.compilers, h.scopes, h.registries, rfl, h.buffers⟩
  -- steps of optimization alone are not plain
  | directive name value => cases hst
  | withJit enabled => cases hst
  | validate => cases hst
  | init => cases hst
  | finish compiler scope => exact h.finish hE compiler scope
  | jit handle => cases hst
  | registry compiler =>
    simp only [Session.step, h.compilers]
    cases r.compilers.get? compiler <;> exact ⟨rfl, h⟩
  | newRegistry name =>
    refine ⟨rfl, by simpa [Session.step] using h.forms, h.compilers, h.scopes, ?_, h.patterns,
      h.buffers⟩
    simp only [Session.step, h.registries]
  | push registry handle room =>
    simp only [Session.step, h.patterns, h.registries]
    cases r.patterns.get? handle with
    | none => exact ⟨rfl, h⟩
    | some p =>
    cases r.registries.get? registry with
    | none => exact ⟨rfl, h⟩
    | some reg =>
    cases room with
    | false => exact ⟨rfl, h⟩
    | true =>
      exact ⟨rfl, by simpa using h.forms, h.compilers, h.scopes, rfl, rfl, h.buffers⟩
  | optimize registry scope enabled => exact h.optimize hE registry scope enabled enabled
  | entries registry =>
    simp only [Session.step, h.registries]
    cases r.registries.get? registry with
    | none => exact ⟨rfl, h⟩
    | some reg =>
      exact ⟨rfl, by simpa using h.forms, h.compilers, h.scopes, rfl, h.patterns, h.buffers⟩
  | dropRegistry registry =>
    simp only [Session.step, h.registries]
    cases r.registries.get? registry with
    | none => exact ⟨rfl, h⟩
    | some reg =>
      exact ⟨rfl, by simpa using h.forms, h.compilers, h.scopes, rfl, h.patterns, h.buffers⟩
  | drop handles => exact ⟨rfl, h.releaseAll handles⟩
  | dropCompiler compiler =>
    simp only [Session.step, h.compilers]
    cases r.compilers.get? compiler with
    | none => exact ⟨rfl, h⟩
    | some c =>
      exact ⟨rfl, by simpa using h.forms, rfl, h.scopes, h.registries, h.patterns, h.buffers⟩
  | newCompiler compiler =>
    refine ⟨rfl, by simpa [Session.step] using h.forms, ?_, h.scopes, h.registries, h.patterns,
      h.buffers⟩
    simp only [Session.step, h.compilers]
  | newScope scope generation =>
    refine ⟨rfl, by simpa [Session.step] using h.forms, h.compilers, ?_, h.registries, h.patterns,
      h.buffers⟩
    simp only [Session.step, h.scopes]
  | dropScope scope =>
    simp only [Session.step, h.scopes]
    cases r.scopes.get? scope with
    | none => exact ⟨rfl, h⟩
    | some sc =>
      exact ⟨rfl, by simpa using h.forms, h.compilers, rfl, h.registries, h.patterns, h.buffers⟩
  | teardown scope =>
    simp only [Session.step, h.scopes]
    cases r.scopes.get? scope with
    | none => exact ⟨rfl, h⟩
    | some sc =>
      exact ⟨rfl, by simpa using h.forms, h.compilers, rfl, h.registries, h.patterns, h.buffers⟩

/-- **A step of optimization alone.** A session that takes it stays a twin. -/
theorem hidden (hE : Twins F E D) (h : Twin F s r) {st : Step} (hst : st.plain = none) :
    Twin F (s.step E st).2 r := by
  cases st with
  | jit handle =>
    simp only [Session.step]
    split
    · exact h
    split
    · exact h
    next p _ form hform =>
    have hjit := (optimized_steady E _).jit (.refl _) hform
    exact ⟨hE.left h.forms hjit, h.compilers, h.scopes, h.registries, h.patterns, h.buffers⟩
  | directive name value =>
    simp only [Session.step]
    split
    · exact ⟨h.forms, h.compilers, h.scopes, h.registries, h.patterns, h.buffers⟩
    · exact h
  | withJit enabled => exact ⟨h.forms, h.compilers, h.scopes, h.registries, h.patterns, h.buffers⟩
  | validate =>
    have hforms := hE.left h.forms ((optimized_steady E _).logAll (.refl _)
      (s.config.validate E.jitAvailable).2)
    exact ⟨hforms, h.compilers, h.scopes, h.registries, h.patterns, h.buffers⟩
  | init => exact ⟨h.forms, h.compilers, h.scopes, h.registries, h.patterns, h.buffers⟩
  | _ => cases hst

theorem symm (h : Twin F s r) : Twin (flip F) r s :=
  ⟨h.forms.flip, h.compilers.symm, h.scopes.symm, h.registries.symm, h.patterns.symm,
    h.buffers.symm⟩

theorem hiddenRight (hE : Twins F E D) (h : Twin F s r) {st : Step} (hst : st.plain = none) :
    Twin F s (r.step D st).2 :=
  (h.symm.hidden hE.symm hst).symm

end Twin

/-- What the steps of a run answer, apart from those of optimization alone. -/
def plainAnswers (E : Engine κ σ) (s : Session κ σ) : List Step → List Answer
  | [] => []
  | st :: steps =>
    (if st.plain.isSome then [(s.step E st).1] else []) ++ plainAnswers E (s.step E st).2 steps

theorem plainAnswers_hidden (s : Session κ σ) {st : Step} (hst : st.plain = none)
    (steps : List Step) :
    plainAnswers E s (st :: steps) = plainAnswers E (s.step E st).2 steps := by
  rw [plainAnswers, hst]
  rfl

theorem plainAnswers_plain (s : Session κ σ) {st p : Step} (hst : st.plain = some p)
    (steps : List Step) :
    plainAnswers E s (st :: steps) =
      (s.step E st).1 :: plainAnswers E (s.step E st).2 steps := by
  rw [plainAnswers, hst]
  rfl

/-- Steps that are the same apart from optimization. -/
theorem eq_or_optimize {st p : Step} (h : st.plain = some p) :
    st = p ∨ ∃ name scope enabled, st = .optimize name scope enabled ∧
      p = .optimize name scope true := by
  cases st with
  | optimize name scope enabled => exact .inr ⟨name, scope, enabled, rfl, (Option.some.inj h).symm⟩
  | jit handle => cases h
  | directive name value => cases h
  | withJit enabled => cases h
  | validate => cases h
  | init => cases h
  | _ => exact .inl (Option.some.inj h)

theorem Twin.plainStep (hE : Twins F E D) (h : Twin F s r) {st st' p : Step}
    (hst : st.plain = some p) (hst' : st'.plain = some p) :
    (s.step E st).1 = (r.step D st').1 ∧ Twin F (s.step E st).2 (r.step D st').2 := by
  have hsome : st.plain.isSome = true := by rw [hst]; rfl
  -- batch passes are one plain step, whether they optimize or not
  rcases eq_or_optimize hst with rfl | ⟨name, scope, enabled, rfl, rfl⟩
  · rcases eq_or_optimize hst' with rfl | ⟨name, scope, enabled, rfl, rfl⟩
    · exact h.step hE hsome
    · exact h.optimize hE name scope true enabled
  · rcases eq_or_optimize hst' with rfl | ⟨name', scope', enabled', rfl, heq⟩
    · exact h.optimize hE name scope enabled true
    · cases heq
      exact h.optimize hE name scope enabled enabled'

/-- **Any steps.** Twins that take the same steps apart from optimization answer alike apart from
optimization. -/
theorem twin_run (hE : Twins F E D) (h : Twin F s r) {steps steps' : List Step}
    (hsteps : steps.filterMap Step.plain = steps'.filterMap Step.plain) :
    plainAnswers E s steps = plainAnswers D r steps' := by
  induction steps generalizing s r steps' with
  | nil =>
    -- all that is left of the other run is optimization
    induction steps' generalizing r with
    | nil => rfl
    | cons st' steps' ih' =>
      cases hst' : st'.plain with
      | none =>
        rw [List.filterMap_cons_none hst'] at hsteps
        rw [plainAnswers_hidden r hst']
        exact ih' (h.hiddenRight hE hst') hsteps
      | some p =>
        rw [List.filterMap_cons_some hst'] at hsteps
        cases hsteps
  | cons st steps ih =>
    cases hst : st.plain with
    | none =>
      rw [List.filterMap_cons_none hst] at hsteps
      rw [plainAnswers_hidden s hst]
      exact ih (h.hidden hE hst) hsteps
    | some p =>
      rw [List.filterMap_cons_some hst] at hsteps
      -- the other run comes to the same step after some of optimization alone
      induction steps' generalizing r with
      | nil => cases hsteps
      | cons st' steps' ih' =>
        cases hst' : st'.plain with
        | none =>
          rw [List.filterMap_cons_none hst'] at hsteps
          rw [plainAnswers_hidden r hst']
          exact ih' (h.hiddenRight hE hst') hsteps
        | some p' =>
          rw [List.filterMap_cons_some hst'] at hsteps
          obtain ⟨rfl, hrest⟩ := List.cons.inj hsteps
          obtain ⟨hanswer, htwin⟩ := h.plainStep hE hst hst'
          rw [plainAnswers_plain s hst, plainAnswers_plain r hst', hanswer, ih htwin hrest]

end Session

/-! ## The engines -/

/-- The standard engine, with and without tables of any size. -/
theorem Standard.twins {M : Matchers} (hM : Standard.TablesAgree M) (jit jit' : Bool)
    (limit limit' backtrack : Nat) :
    Twins Standard.SameButTable (Standard.engine M ⟨jit, limit, backtrack⟩)
      (Standard.engine M ⟨jit', limit', backtrack⟩) where
  compile p o _ _ := by
    simp only [Standard.engine]
    cases h : Standard.compile M backtrack p o with
    | error e => exact .error e
    | ok f => exact .ok (.refl (Standard.compile_faithful h))
  captureCount h _ _ := by simp only [Standard.engine, h.groups]
  nameCount h _ _ := by simp only [Standard.engine, h.named]
  nameEntrySize h _ _ := by simp only [Standard.engine, h.named]
  nameTable h _ _ := by simp only [Standard.engine, h.named]
  outcome h input slots _ _ := (h.search_eq hM input slots).1
  stores h input slots _ _ := (h.search_eq hM input slots).2
  jitLeft h _ := h.jitLeft _
  jitRight h _ := (h.symm.jitLeft _).symm

/-- The scripted engine, with and without optimization and whatever it refuses to optimize. -/
theorem Script.twins (script : Script) (jit jit' : Bool) (refusals refusals' : List String) :
    Twins (fun f g => f.pattern = g.pattern)
      { script with jit := jit, jitRefusals := refusals }.engine
      { script with jit := jit', jitRefusals := refusals' }.engine where
  compile p o _ _ := by
    simp only [Script.engine]
    cases Script.lookup p.text script.rejects with
    | some failure => exact .error failure
    | none => exact .ok rfl
  captureCount h _ _ := by simp only [Script.engine, Script.info, h]
  nameCount h _ _ := by simp only [Script.engine, Script.info, Script.names, h]
  nameEntrySize h _ _ := by simp only [Script.engine, Script.info, Script.names, h]
  nameTable h _ _ := by simp only [Script.engine, Script.info, Script.names, h]
  outcome h input slots _ _ := by simp only [Script.engine, Script.search, Script.span?, h]
  stores h input slots _ _ := by simp only [Script.engine, Script.search, Script.span?, h]
  jitLeft h _ := by
    simp only [Script.engine]
    split
    · exact h
    · exact h
  jitRight h _ := by
    simp only [Script.engine]
    split
    · exact h
    · exact h

/-- **Optimization does not show.** Two runs that take the same steps apart from optimization
answer alike, over engines that may or may not optimize, with tables of any size, whatever the
configuration says and whenever a form is optimized. For the standard engine this rests on its
tables, for the scripted engine on nothing. -/
theorem optimization_hidden :
    (∀ M : Matchers, Standard.TablesAgree M →
      ∀ (jit jit' : Bool) (limit limit' backtrack : Nat) (steps steps' : List Step),
        steps.filterMap Step.plain = steps'.filterMap Step.plain →
        Session.plainAnswers (Standard.engine M ⟨jit, limit, backtrack⟩) (.opened ()) steps =
          Session.plainAnswers (Standard.engine M ⟨jit', limit', backtrack⟩) (.opened ()) steps') ∧
      ∀ (script : Script) (jit jit' : Bool) (refusals refusals' : List String)
        (steps steps' : List Step),
        steps.filterMap Step.plain = steps'.filterMap Step.plain →
        Session.plainAnswers { script with jit := jit, jitRefusals := refusals }.engine
            (.opened ()) steps =
          Session.plainAnswers { script with jit := jit', jitRefusals := refusals' }.engine
            (.opened ()) steps' := by
  constructor
  · intro M hM jit jit' limit limit' backtrack steps steps' hsteps
    exact Session.twin_run (Standard.twins hM jit jit' limit limit' backtrack)
      (.opened _ () ()) hsteps
  · intro script jit jit' refusals refusals' steps steps' hsteps
    exact Session.twin_run (Script.twins script jit jit' refusals refusals')
      (.opened _ () ()) hsteps

/-- Matchers of texts that stand for themselves, with tables that never give up. -/
def literalMatchers : Matchers where
  Basic := String
  Fancy := String
  Table := String
  compileBasic text _ := .ok text
  basicFault? _ _ := none
  basicGroups _ := [none]
  basicIsMatch b input := (Script.findBytes (textBytes b) 0 (textBytes input)).isSome
  basicCaptures b input := (Script.findBytes (textBytes b) 0 (textBytes input)).map fun start =>
    [some ⟨start, start + b.utf8ByteSize⟩]
  compileFancy _ text := .ok text
  fancyGroups _ := [none]
  fancyIsMatch f input := .ok (Script.findBytes (textBytes f) 0 (textBytes input)).isSome
  fancyCaptures f input := .ok <|
    (Script.findBytes (textBytes f) 0 (textBytes input)).map fun start =>
      [some ⟨start, start + f.utf8ByteSize⟩]
  buildTable _ text _ := .ok text
  searchTable t input :=
    if (Script.findBytes (textBytes t) 0 (textBytes input)).isSome then .found else .none

theorem tablesAgree_literal : Standard.TablesAgree literalMatchers := by
  intro limit text flags b t hb ht input
  cases hb
  cases ht
  cases h : (Script.findBytes (textBytes text) 0 (textBytes input)).isSome with
  | true => simp [literalMatchers, h]
  | false => simp [literalMatchers, h]

/-- With a table built on the way and without. -/
theorem optimization_hidden_literal :
    Standard.TablesAgree literalMatchers ∧
      Session.plainAnswers (Standard.engine literalMatchers ⟨true, 1000, 1000⟩) (.opened ())
          [.compile mainName "p" ⟨⟨.basic, "ab"⟩, .none, .default⟩, .withJit true,
            .finish mainName mainName, .exec "p" "xaby" .nowhere, .jit "p",
            .exec "p" "xaby" (.fresh 1)] =
        Session.plainAnswers (Standard.engine literalMatchers ⟨false, 10, 1000⟩) (.opened ())
          [.compile mainName "p" ⟨⟨.basic, "ab"⟩, .none, .default⟩, .finish mainName mainName,
            .exec "p" "xaby" .nowhere, .exec "p" "xaby" (.fresh 1)] :=
  ⟨tablesAgree_literal,
    optimization_hidden.1 literalMatchers tablesAgree_literal true false 1000 10 1000 _ _ rfl⟩

end PatternSuite
