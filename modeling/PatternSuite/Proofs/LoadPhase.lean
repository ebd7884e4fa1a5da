import PatternSuite.Engine.Canned
import PatternSuite.Proofs.Calls
import PatternSuite.Proofs.Cleanups

/-!
# The registry has the load, and is consumed once

A compiler is called to compile and to finish, in any order and as often as one likes. Up to the
first finish its registry has one entry for each pattern that was compiled, in order. The first
finish hands these entries to the batch pass, which registers one cleanup and optimizes each of
them once or none at all. From then on there is no registry: patterns are compiled as before, but
nothing is registered, handed over or optimized any more.

* `CompilerRun`: calls on a compiler, one after the other.
* `Loading.compile`, `loading_run`: what the registry has before the first finish.
* `Spent.call`, `spent_run`: what is left after it.
* `load_recorded_once`: any calls.
-/

namespace PatternSuite

open Ledger

variable {κ σ : Type}

/-- A call on a compiler. -/
inductive CompilerCall
  | compile (request : CompileRequest) (room : Bool)
  | finish (config : Config) (scope : Scope Duty)

/-- What a call on a compiler gives back. -/
inductive CompilerAnswer
  | compiled (outcome : Except PatternError CompiledPattern)
  /-- The scope as it is then. -/
  | finished (scope : Scope Duty)

/-- A compiler, its ledger, and what the calls so far gave back. -/
structure CompilerRun (κ σ : Type) where
  compiler : Compiler := .opened
  ledger : Ledger κ σ
  answers : List CompilerAnswer := []

/-- The pattern that a call gave back, if it did. -/
def CompilerAnswer.pattern? : CompilerAnswer → Option CompiledPattern
  | .compiled (.ok p) => some p
  | _ => none

namespace CompilerRun

/-- One call. -/
def call (E : Engine κ σ) (d : CompilerRun κ σ) : CompilerCall → CompilerRun κ σ
  | .compile request room =>
    let (outcome, _, c, w) := d.compiler.compile E request d.ledger room
    ⟨c, w, d.answers ++ [.compiled outcome]⟩
  | .finish config scope =>
    let (c, scope, w) := d.compiler.finish E config scope d.ledger
    ⟨c, w, d.answers ++ [.finished scope]⟩

/-- Calls in order. -/
def calls (E : Engine κ σ) (d : CompilerRun κ σ) (cs : List CompilerCall) : CompilerRun κ σ :=
  cs.foldl (call E) d

/-- The patterns that were given back, in order. -/
def patterns (d : CompilerRun κ σ) : List CompiledPattern := d.answers.filterMap (·.pattern?)

/-- The registry entries of the patterns that were given back. -/
def entries (d : CompilerRun κ σ) : List RegistryEntry := d.patterns.map .ofPattern

theorem patterns_append (d : CompilerRun κ σ) (c : Compiler) (w : Ledger κ σ)
    (a : CompilerAnswer) :
    patterns ⟨c, w, d.answers ++ [a]⟩ = d.patterns ++ a.pattern?.toList := by
  rw [patterns, patterns, List.filterMap_append]
  cases a with
  | compiled outcome => cases outcome <;> rfl
  | finished scope => rfl

end CompilerRun

open CompilerRun

variable {E : Engine κ σ} {w : Ledger κ σ} {d f : CompilerRun κ σ}

/-! ## Up to the first finish -/

/-- A load that began with the ledger `w`: the registry has the patterns that were given back, and
nothing has been optimized. -/
structure Loading (w : Ledger κ σ) (d : CompilerRun κ σ) : Prop where
  registry : d.compiler.registry = some ⟨d.entries⟩
  jitForms : d.ledger.jitForms = w.jitForms
  made : ∀ p ∈ d.patterns, p.form < d.ledger.formList.length

namespace Loading

theorem opened (w : Ledger κ σ) : Loading w ({ ledger := w } : CompilerRun κ σ) where
  registry := rfl
  jitForms := rfl
  made := by simp [patterns]

/-- **One compilation.** A pattern is registered just if it is given back. -/
theorem compile (h : Loading w d) (E : Engine κ σ) (request : CompileRequest) (room : Bool) :
    Loading w (d.call E (.compile request room)) := by
  have hcomp := compile_compilation E request d.compiler d.ledger room
  have hjit := jitForms_compile E request d.compiler d.ledger room
  simp only [call]
  generalize d.compiler.compile E request d.ledger room = out at hcomp hjit
  obtain ⟨outcome, request', c, w'⟩ := out
  have hprefix := hcomp.formList_prefix.length_le
  cases outcome with
  | error e =>
    obtain rfl := hcomp.of_error
    refine ⟨?_, hjit.trans h.jitForms, ?_⟩
    · rw [h.registry, entries, entries, patterns_append]
      simp [CompilerAnswer.pattern?]
    · intro p hp
      rw [patterns_append] at hp
      simp only [CompilerAnswer.pattern?, Option.toList_none, List.append_nil] at hp
      exact Nat.lt_of_lt_of_le (h.made p hp) hprefix
  | ok p =>
    obtain ⟨-, hp, ⟨form, -, hforms⟩, hregistry⟩ := hcomp.of_ok
    refine ⟨?_, hjit.trans h.jitForms, ?_⟩
    · rw [hregistry, h.registry, entries, entries, patterns_append]
      simp [CompilerAnswer.pattern?]
    · intro q hq
      rw [patterns_append] at hq
      simp only [CompilerAnswer.pattern?, Option.toList_some, List.mem_append,
        List.mem_singleton] at hq
      rcases hq with hq | rfl
      · exact Nat.lt_of_lt_of_le (h.made q hq) hprefix
      · simp [hp, hforms]

end Loading

/-- Compilations with whether there was room to register what comes of them. -/
def compileCalls (load : List (CompileRequest × Bool)) : List CompilerCall :=
  load.map fun l => .compile l.1 l.2

theorem loading_run (h : Loading w d) (E : Engine κ σ) (load : List (CompileRequest × Bool)) :
    Loading w (d.calls E (compileCalls load)) := by
  induction load generalizing d with
  | nil => exact h
  | cons l load ih => exact ih (h.compile E l.1 l.2)

/-- A pattern that is given back is that of its request. -/
def AnswersRequest (l : CompileRequest × Bool) (a : CompilerAnswer) : Prop :=
  ∃ outcome, a = .compiled outcome ∧ ∀ p, outcome = .ok p → p.source = l.1.pattern.text

theorem answers_run (E : Engine κ σ) (d : CompilerRun κ σ) (load : List (CompileRequest × Bool)) :
    ∃ as, (d.calls E (compileCalls load)).answers = d.answers ++ as ∧
      List.Forall₂ AnswersRequest load as := by
  induction load generalizing d with
  | nil => exact ⟨[], (List.append_nil _).symm, .nil⟩
  | cons l load ih =>
    obtain ⟨as, has, hall⟩ := ih (d.call E (.compile l.1 l.2))
    have hcomp := compile_compilation E l.1 d.compiler d.ledger l.2
    refine ⟨.compiled (d.compiler.compile E l.1 d.ledger l.2).1 :: as, ?_, .cons ⟨_, rfl, ?_⟩ hall⟩
    · exact has.trans (List.append_assoc ..)
    · intro p hp
      rw [hp] at hcomp
      exact hcomp.of_ok.1

/-! ## The first finish -/

/-- The moments of a cleanup without calls that is registered. -/
theorem Scope.moments_add_leaf {ε : Type} (d : ε) (s : Scope ε) :
    (s.add (.mk d [])).2.1 =
      .locked :: .unlocked :: if s.isTornDown then [.ran d, .ended d] else [] := by
  obtain ⟨g, _ | cs⟩ := s
  · rw [Scope.add, work_of_tornDown g none _ rfl]
    rfl
  · rfl

/-- A cleanup without calls waits, most recent first; on a torn-down scope it runs at once. -/
theorem Scope.add_leaf {ε : Type} (d : ε) (s : Scope ε) :
    (s.add (.mk d [])).2.2 = { s with waiting := s.waiting.map (.mk d [] :: ·) } ∧
      ranIn (s.add (.mk d [])).2.1 = if s.isTornDown then [d] else [] := by
  constructor
  · obtain ⟨g, _ | cs⟩ := s
    · rw [Scope.add, work_of_tornDown g none _ rfl]
      rfl
    · rfl
  · rw [moments_add_leaf]
    cases s.isTornDown <;> rfl

/-- **The first finish** hands the entries of the load over. -/
theorem Loading.finish (h : Loading w d) (E : Engine κ σ) (config : Config) (scope : Scope Duty) :
    d.call E (.finish config scope) =
      ⟨⟨none⟩, (optimizeAll E ⟨d.entries⟩ config.jitEnabled scope d.ledger).2, d.answers ++
        [.finished (scope.add (.mk (.release scope.generation d.entries) [])).2.2]⟩ := by
  simp only [call, Compiler.finish, h.registry]
  rfl

/-- The pass optimizes each pattern of the load once, in order, or none. -/
theorem Loading.jitForms_finish (h : Loading w d) (E : Engine κ σ) (config : Config)
    (scope : Scope Duty) :
    (d.call E (.finish config scope)).ledger.jitForms = w.jitForms ++
      if config.jitEnabled && E.jitAvailable then d.patterns.map (·.form) else [] := by
  have hforms : Registry.forms ⟨d.entries⟩ = d.patterns.map (·.form) := by
    rw [Registry.forms, entries, List.map_map]
    rfl
  have hmade : ∀ id ∈ Registry.forms ⟨d.entries⟩, id < d.ledger.formList.length := by
    intro id hid
    rw [hforms] at hid
    obtain ⟨p, hp, rfl⟩ := List.mem_map.1 hid
    exact h.made p hp
  rw [h.finish, jitForms_optimizeAll hmade, h.jitForms, hforms]

/-! ## After the first finish -/

/-- **A compiler whose registry is consumed**, at a later point of a run that was finished in `f`:
it compiles as a new one does, and the caller is the only one to hold what comes of it; a finish
does nothing. -/
structure Spent (E : Engine κ σ) (f d : CompilerRun κ σ) : Prop where
  registry : d.compiler.registry = none
  jitForms : d.ledger.jitForms = f.ledger.jitForms
  compile : ∀ request room, (d.compiler.compile E request d.ledger room).1 =
    (Compiler.opened.compile E request d.ledger).1
  usable : ∀ request room p, (d.compiler.compile E request d.ledger room).1 = .ok p →
    ∃ form, (E.compile request.pattern request.options d.ledger.state).1 = .ok form ∧
      (d.compiler.compile E request d.ledger room).2.2.2.form? p.form = some form ∧
      (d.compiler.compile E request d.ledger room).2.2.2.holders p.form = 1
  finish : ∀ config scope, d.compiler.finish E config scope d.ledger =
    (d.compiler, scope, d.ledger.log .debug "regex registry already consumed")

namespace Spent

/-- All of this comes of there being no registry. -/
theorem of_registry (hc : d.compiler.registry = none)
    (hjit : d.ledger.jitForms = f.ledger.jitForms) : Spent E f d where
  registry := hc
  jitForms := hjit
  compile request room := by
    have h := (compile_compilation E request d.compiler d.ledger room).eq_outcome (.inr hc)
    exact h.trans
      ((compile_compilation E request .opened d.ledger true).eq_outcome (.inl rfl)).symm
  usable request room p hp := by
    have h := compile_compilation E request d.compiler d.ledger room
    rw [hp] at h
    obtain ⟨form, hform, hid, hforms⟩ := h.forms_of_ok hc
    refine ⟨form, hform, ?_, ?_⟩
    · simp [form?, hid, hforms]
    · simp [holders, hid, hforms]
  finish config scope := by
    unfold Compiler.finish
    rw [hc]

/-- **One call** after the first finish. -/
theorem call (h : Spent E f d) (c : CompilerCall) : Spent E f (d.call E c) := by
  cases c with
  | compile request room =>
    refine of_registry ?_ ((jitForms_compile E request d.compiler d.ledger room).trans h.jitForms)
    exact (compile_compilation E request d.compiler d.ledger room).registry_none h.registry
  | finish config scope =>
    simp only [CompilerRun.call, h.finish config scope]
    refine of_registry h.registry (Eq.trans ?_ h.jitForms)
    rw [Ledger.jitForms, calls_log, Ledger.jitForms]

end Spent

theorem spent_run (h : Spent E f d) (cs : List CompilerCall) : Spent E f (d.calls E cs) := by
  induction cs generalizing d with
  | nil => exact h
  | cons c cs ih => exact ih (h.call c)

/-! ## Any calls -/

/-- **The registry has the load, and is consumed once.** Compilations fill it with an entry for each
pattern that they give back. The first finish hands the entries to the batch pass, which registers
one cleanup for them, and if it may and can, optimizes each of them once, in order. Whatever comes
later finds no registry. -/
theorem load_recorded_once (E : Engine κ σ) (w : Ledger κ σ)
    (load : List (CompileRequest × Bool)) :
    let d := calls E { ledger := w } (compileCalls load)
    d.compiler.registry = some ⟨d.patterns.map fun p => ⟨p, p.source⟩⟩ ∧
      List.Forall₂ AnswersRequest load d.answers ∧
      d.ledger.jitForms = w.jitForms ∧
      ∀ (config : Config) (scope : Scope Duty),
        let cleanup : Cleanup Duty := .mk (.release scope.generation d.entries) []
        let scope' := { scope with waiting := scope.waiting.map (cleanup :: ·) }
        let f := d.call E (.finish config scope)
        f.answers = d.answers ++ [.finished scope'] ∧
          (scope', f.ledger) = optimizeAll E ⟨d.entries⟩ config.jitEnabled scope d.ledger ∧
          Scope.ranIn (scope.add cleanup).2.1 =
            (if scope.isTornDown then [.release scope.generation d.entries] else []) ∧
          f.ledger.jitForms = w.jitForms ++
            (if config.jitEnabled && E.jitAvailable then d.patterns.map (·.form) else []) ∧
          ∀ late, Spent E f (f.calls E late) := by
  have hd := loading_run (.opened w) E load
  obtain ⟨as, has, hall⟩ := answers_run E { ledger := w } load
  intro d
  refine ⟨hd.registry, ?_, hd.jitForms, fun config scope => ?_⟩
  · have has : d.answers = as := has
    rwa [has]
  intro cleanup scope' f
  obtain ⟨hscope, hran⟩ := scope.add_leaf (.release scope.generation d.entries)
  have hf : f = _ := hd.finish E config scope
  refine ⟨?_, ?_, hran, hd.jitForms_finish E config scope, fun late => ?_⟩
  · rw [hf, hscope]
  · rw [hf]
    exact congrArg (·, _) hscope.symm
  · exact spent_run (Spent.of_registry (by rw [hf]) rfl) late

/-- A pattern and one that is refused before the first finish; a pattern and another finish after
it. -/
theorem load_recorded_once_canned :
    let E := Canned.engine { patterns := [("q", { reject := some ⟨"refused", 0⟩ })] }
    let request (text : String) : CompileRequest := { pattern := ⟨.basic, text⟩ }
    let p : CompiledPattern := ⟨0, "p", 0, none⟩
    let late : CompiledPattern := ⟨1, "late", 0, none⟩
    let d := calls E { ledger := { state := () } }
      (compileCalls [(request "p", true), (request "q", true)])
    let f := d.call E (.finish ⟨some true⟩ (Scope.opened 1))
    let l := f.calls E [.compile (request "late") true, .finish ⟨some true⟩ (Scope.opened 2)]
    d.patterns = [p] ∧ d.compiler.registry = some ⟨[⟨p, "p"⟩]⟩ ∧ f.ledger.jitForms = [0] ∧
      (f.compiler.compile E (request "late") f.ledger true).1 = .ok late ∧
      (f.compiler.compile E (request "late") f.ledger true).2.2.2.holders late.form = 1 ∧
      l.patterns = [p, late] ∧ l.compiler.registry = none ∧ l.ledger.jitForms = [0] := by
  intro E request p late d f l
  obtain ⟨hregistry, -, -, hfinish⟩ :=
    load_recorded_once E { state := () } [(request "p", true), (request "q", true)]
  obtain ⟨-, -, -, hjit, hspent⟩ := hfinish ⟨some true⟩ (Scope.opened 1)
  have hpatterns : d.patterns = [p] := by decide +kernel
  have hlate : (f.compiler.compile E (request "late") f.ledger true).1 = .ok late := by
    decide +kernel
  have hboth : l.patterns = [p, late] := by decide +kernel
  obtain ⟨form, -, -, hholders⟩ := (hspent []).usable (request "late") true late hlate
  have hafter : Spent E f l := hspent _
  have hoptimized : f.ledger.jitForms = [0] := hjit
  exact ⟨hpatterns, hregistry, hoptimized, hlate, hholders, hboth, hafter.registry,
    hafter.jitForms.trans hoptimized⟩

end PatternSuite
