import PatternSuite.Generation
import PatternSuite.Proofs.Calls
import PatternSuite.Proofs.Optimization

/-!
# What stays true of a pattern

What is true of a pattern when it has been compiled, and stays true whatever is optimized and
whatever forms are made later, is true of every pattern that a session holds at any time, and of
every pattern of a generation that was loaded.

* `Lasting`: such a property.
* `Lasting.step`, `Lasting.run`: it is kept by a step of a session, and by any steps.
* `Lasting.load`: the patterns of a generation have it.
-/

namespace PatternSuite

open Ledger

variable {κ σ : Type} {E : Engine κ σ} {P : List κ → CompiledPattern → Prop}

/-- A property of patterns, given the forms of the ledger, that lasts: a pattern has it when it has
been compiled, and neither optimizations nor new forms take it away. -/
structure Lasting (E : Engine κ σ) (P : List κ → CompiledPattern → Prop) : Prop where
  compiled : ∀ {pattern : Pattern} {options : Options} {c c' : Compiler} {room : Bool}
    {w w' : Ledger κ σ} {p : CompiledPattern},
    Compilation E pattern options c w room (.ok p, c', w') → P w'.formList p
  optimized : ∀ {l l' : List κ} {p : CompiledPattern}, P l p → Optimized E l l' → P l' p
  extended : ∀ {l l' : List κ} {p : CompiledPattern}, P l p → l <+: l' → P l' p

namespace Lasting

/-! ## Sessions -/

section Sessions

open Session

variable {s s' : Session κ σ}

/-- Do all patterns of a session have a property? -/
def Everywhere (P : List κ → CompiledPattern → Prop) (s : Session κ σ) : Prop :=
  ∀ p ∈ s.patterns.values, P s.ledger.formList p

/-- Optimizations, and a session that holds no other patterns. -/
theorem ofOptimized (hP : Lasting E P) (h : Everywhere P s)
    (hforms : Optimized E s.ledger.formList s'.ledger.formList)
    (hpatterns : ∀ p ∈ s'.patterns.values, p ∈ s.patterns.values) : Everywhere P s' :=
  fun p hp => hP.optimized (h p (hpatterns p hp)) hforms

/-- A step that leaves the patterns and does no more to the forms than optimize them. -/
theorem kept (hP : Lasting E P) (h : Everywhere P s)
    (hforms : Optimized E s.ledger.formList s'.ledger.formList)
    (hpatterns : s'.patterns = s.patterns) : Everywhere P s' :=
  hP.ofOptimized h hforms fun _ hp => hpatterns ▸ hp

theorem hold {p : CompiledPattern} (h : Everywhere P s) (hp : P s.ledger.formList p)
    (handle : String) : Everywhere P (s.hold handle p) := by
  have hforms : (s.hold handle p).ledger.formList = s.ledger.formList := by
    unfold Session.hold
    cases s.patterns.get? handle with
    | none => rfl
    | some q => exact formList_letGo q.form s.ledger
  intro q hq
  rw [hforms]
  rcases List.mem_cons.1 hq with rfl | hq
  · exact hp
  · exact h q (Shelf.mem_of_mem_erase hq)

theorem release (hP : Lasting E P) (h : Everywhere P s) (handle : String) :
    Everywhere P (s.release handle) := by
  unfold Session.release
  split
  · exact hP.ofOptimized h (.of_eq (formList_letGo _ _)) fun q hq => Shelf.mem_of_mem_erase hq
  · exact h

theorem releaseAll (hP : Lasting E P) (h : Everywhere P s) (handles : List String) :
    Everywhere P (handles.foldl Session.release s) := by
  induction handles generalizing s with
  | nil => exact h
  | cons handle handles ih => exact ih (hP.release h handle)

theorem exec (hP : Lasting E P) (h : Everywhere P s) (p : CompiledPattern) (input : String)
    (into : CaptureTarget) : Everywhere P (s.exec E p input into).2 := by
  have hinto (b : Captures) : Optimized E s.ledger.formList
      (executeInto E p input b s.ledger).2.2.formList :=
    (optimized_steady E _).executeInto (.refl _) p input b
  cases into with
  | nowhere => exact hP.kept h ((optimized_steady E _).execute (.refl _) p input) rfl
  | fresh capacity => exact hP.kept h (hinto _) rfl
  | fitted => exact hP.kept h (hinto _) rfl
  | held name =>
    simp only [Session.exec]
    split
    · exact h
    · exact hP.kept h (hinto _) rfl

/-- The new pattern has the property, and the others keep it. -/
theorem compile (hP : Lasting E P) (h : Everywhere P s) (compiler handle : String)
    (request : CompileRequest) (room : Bool) :
    Everywhere P (s.step E (.compile compiler handle request room)).2 := by
  simp only [Session.step]
  split
  · exact h
  next c _ =>
  have hcomp := compile_compilation E request c s.ledger room
  rcases hout : c.compile E request s.ledger room with ⟨outcome, request', c', w'⟩
  rw [hout] at hcomp
  have hothers : Everywhere P { s with compilers := s.compilers.set compiler c', ledger := w' } :=
    fun p hp => hP.extended (h p hp) hcomp.formList_prefix
  cases outcome with
  | error e => exact hothers
  | ok p => exact hold hothers (hP.compiled hcomp) handle

theorem share (hP : Lasting E P) (h : Everywhere P s) (handle copy : String) :
    Everywhere P (s.step E (.share handle copy)).2 := by
  simp only [Session.step]
  split
  · exact h
  next p hget =>
  have hretain : Everywhere P { s with ledger := s.ledger.retain p.form } :=
    hP.kept h (.of_eq (formList_retain _ _)) rfl
  exact hold hretain (hretain p (Shelf.mem_of_get? hget)) copy

/-- **One step** of a session. -/
theorem step (hP : Lasting E P) (h : Everywhere P s) (st : Step) :
    Everywhere P (s.step E st).2 := by
  cases st with
  | compile compiler handle request room => exact hP.compile h compiler handle request room
  | share handle copy => exact hP.share h handle copy
  | describe handle => simp only [Session.step]; split <;> exact h
  | index handle name => simp only [Session.step]; split <;> exact h
  | buffer name capacity => exact h
  | exec handle input into =>
    simp only [Session.step]
    split
    · exact h
    · exact hP.exec h _ input into
  | array handles input =>
    simp only [Session.step]
    split
    · exact h
    · next ps _ =>
      exact hP.kept h ((optimized_steady E _).executeFrom (.refl _) 0 ps input) rfl
  | directive name value => simp only [Session.step]; split <;> exact h
  | withJit enabled => exact h
  | validate => exact hP.kept h ((optimized_steady E _).logAll (.refl _) _) rfl
  | init => exact h
  | finish compiler scope =>
    simp only [Session.step]
    split
    · next c sc _ _ => exact hP.kept h (finish_optimized E s.config sc c s.ledger) rfl
    · exact h
  | jit handle =>
    simp only [Session.step]
    split
    · exact h
    split
    · exact h
    · next hform => exact hP.kept h ((optimized_steady E _).jit (.refl _) hform) rfl
  | registry compiler => simp only [Session.step]; split <;> exact h
  | newRegistry name => exact hP.kept h (.of_eq (formList_letGoRegistry _ _)) rfl
  | push registry handle room =>
    simp only [Session.step]
    split
    swap
    · exact h
    split
    · exact h
    · exact hP.kept h (.of_eq (formList_retain _ _)) rfl
  | optimize registry scope enabled =>
    simp only [Session.step]
    split
    · next r sc _ _ => exact hP.kept h (optimizeAll_optimized E r enabled sc s.ledger) rfl
    · exact h
  | entries registry =>
    simp only [Session.step]
    split
    · exact h
    · exact hP.kept h (.of_eq (formList_letGoAll _ _)) rfl
  | dropRegistry registry =>
    simp only [Session.step]
    split
    · exact h
    · exact hP.kept h (.of_eq (formList_letGoAll _ _)) rfl
  | drop handles => exact hP.releaseAll h handles
  | dropCompiler compiler =>
    simp only [Session.step]
    split
    · exact h
    · exact hP.kept h (.of_eq (formList_letGoRegistry _ _)) rfl
  | newCompiler compiler => exact hP.kept h (.of_eq (formList_letGoRegistry _ _)) rfl
  | newScope scope generation => exact hP.kept h (.of_eq (formList_endScope _ _)) rfl
  | dropScope scope =>
    simp only [Session.step]
    split
    · exact h
    · exact hP.kept h (.of_eq (formList_endScope _ _)) rfl
  | teardown scope =>
    simp only [Session.step]
    split
    · exact h
    · exact hP.kept h (.of_eq (formList_follow _ _)) rfl

/-- **Any steps.** The patterns that a session holds have what lasts. -/
theorem run (hP : Lasting E P) (state : σ) (steps : List Step) :
    Everywhere P (Session.run E (.opened state) steps) := by
  have hopened : Everywhere P (Session.opened state : Session κ σ) := fun p hp => nomatch hp
  generalize (Session.opened state : Session κ σ) = s at hopened ⊢
  induction steps generalizing s with
  | nil => exact hopened
  | cons st steps ih => exact ih _ (hP.step hopened st)

end Sessions

/-! ## Loads -/

section Loads

variable {w w' : Ledger κ σ}

theorem loadCompile (hP : Lasting E P) {l : Load κ σ}
    (h : ∀ p ∈ l.patterns, P l.ledger.formList p) (es : List PatternEntry) :
    ∀ p ∈ (Load.compile E es l).2.patterns, P (Load.compile E es l).2.ledger.formList p := by
  induction es generalizing l with
  | nil => exact h
  | cons e es ih =>
    have hcomp := compile_compilation E e.request l.compiler l.ledger true
    unfold Load.compile
    rcases hout : l.compiler.compile E e.request l.ledger with ⟨outcome, request, c, w⟩
    rw [hout] at hcomp
    have hothers : ∀ p ∈ l.patterns, P w.formList p :=
      fun p hp => hP.extended (h p hp) hcomp.formList_prefix
    cases outcome with
    | error e => exact hothers
    | ok p =>
      refine ih fun q hq => ?_
      rcases List.mem_append.1 hq with hq | hq
      · exact hothers q hq
      · rw [List.mem_singleton.1 hq]
        exact hP.compiled hcomp

/-- **The patterns of a loaded generation** have what lasts, in whatever ledger it was loaded. -/
theorem load (hP : Lasting E P) {file : PatternFile} {override : Option String} {number : Nat}
    {g : Generation} (h : Generation.load E file override number w = (.ok g, w')) :
    ∀ p ∈ g.patterns, P w'.formList p := by
  unfold Generation.load at h
  split at h
  · cases h
  next config _ =>
  dsimp only at h
  have hcompiled := hP.loadCompile
    (l := { ledger := (config.validate E.jitAvailable).2.foldl (fun w r => w.note (.logged r)) w })
    (fun p hp => nomatch hp) file.entries
  generalize Load.compile E file.entries _ = out at h hcompiled
  obtain ⟨_ | e, l⟩ := out
  · obtain ⟨hg, rfl⟩ := Prod.mk.inj h
    obtain rfl := Except.ok.inj hg
    -- behind the compilations there is only the batch pass
    exact fun p hp => hP.optimized (hcompiled p hp) (finish_optimized E _ _ l.compiler l.ledger)
  · cases h

end Loads

end Lasting

end PatternSuite
