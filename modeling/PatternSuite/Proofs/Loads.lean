import PatternSuite.Generation
import PatternSuite.Proofs.LoadPhase
import PatternSuite.Proofs.Optimization
import PatternSuite.Proofs.Releases

/-!
# A load succeeds as a whole or leaves nothing behind

Over an engine without a state an entry compiles or not whatever was compiled before it. A load
compiles the entries of its file in order, up to the first that does not compile. If there is none,
the patterns go to the batch pass and to one cleanup of the scope. If there is one, its error is the
error of the load, and all forms that were made are released.

* `PatternEntry.Asks`: the option bits that an entry asks for; `PatternEntry.asks_options`: those
  that it is compiled with.
* `PatternEntry.alone`: what an entry comes to by itself; `compile_alone`: it comes to the same in a
  load.
* `Underway`: a load that has compiled some entries; `underway_run`: it compiles further ones.
* `Underway.fail`: the first entry that does not compile.
* `formList_optimizeAll`: what the batch pass makes of the forms of a load.
* `load_cases`: the three ways in which a load can go.
* `load_all_or_nothing`: any file, any override.
-/

namespace PatternSuite

open Ledger Session

/-! ## What entries ask for -/

namespace PatternEntry

/-- **The options that an entry asks for**: each of its five fields is one bit of their word, and no
other bit is on. -/
structure Asks (e : PatternEntry) (o : Options) : Prop where
  caseless : o.toBits.testBit 0 = e.caseless
  multiline : o.toBits.testBit 1 = e.multiline
  dotall : o.toBits.testBit 2 = e.dotall
  extended : o.toBits.testBit 3 = e.extended
  ungreedy : o.toBits.testBit 4 = e.ungreedy
  others : ∀ i, 5 ≤ i → o.toBits.testBit i = false

/-- A request for the pattern of an entry, with its dialect, its text and its options. -/
structure AsksFor (e : PatternEntry) (request : Pattern × Options) : Prop where
  pattern : request.1 = ⟨e.dialect, e.text⟩
  options : e.Asks request.2

/-- The bit of a switch is the field of the entry. -/
theorem testBit_options (e : PatternEntry) (s : Switch) :
    e.options.toBits.testBit s.bit = e.field s := by
  rw [Options.testBit_toBits, get_options]

/-- **An entry is compiled with the options that it asks for.** -/
theorem asks_options (e : PatternEntry) : e.Asks e.options where
  caseless := e.testBit_options .caseless
  multiline := e.testBit_options .multiline
  dotall := e.testBit_options .dotall
  extended := e.testBit_options .extended
  ungreedy := e.testBit_options .ungreedy
  others _ := e.options.testBit_toBits_of_le

/-- An entry asks for no other options. -/
theorem Asks.unique {e : PatternEntry} {o o' : Options} (h : e.Asks o) (h' : e.Asks o') :
    o = o' := by
  rw [← Options.ofBits_toBits o, ← Options.ofBits_toBits o', Options.ofBits, Options.ofBits,
    h.caseless, h.multiline, h.dotall, h.extended, h.ungreedy, h'.caseless, h'.multiline,
    h'.dotall, h'.extended, h'.ungreedy]

/-- What an engine is asked to compile for an entry. -/
def asked (e : PatternEntry) : Pattern × Options := (⟨e.dialect, e.text⟩, e.options)

theorem asksFor_asked (e : PatternEntry) : e.AsksFor e.asked := ⟨rfl, e.asks_options⟩

theorem forall₂_asked (es : List PatternEntry) : List.Forall₂ AsksFor es (es.map (·.asked)) :=
  List.forall₂_map_right_iff.2 (List.forall₂_same.2 fun e _ => e.asksFor_asked)

end PatternEntry

/-! ## Entries by themselves -/

section Alone

variable {κ : Type} {E : Engine κ Unit}

/-- What a compilation comes to depends on the request, apart from the number of the form. -/
theorem compileOutcome_stateless (E : Engine κ Unit) (pattern : Pattern) (options : Options)
    (w v : Ledger κ Unit) :
    compileOutcome E pattern options w =
      (compileOutcome E pattern options v).map fun p => { p with form := w.compiled } := by
  unfold compileOutcome
  split
  · rfl
  cases (E.compile pattern options ()).1 with
  | error failure => rfl
  | ok form =>
    dsimp only
    -- the state holds nothing, so a question gets one answer at any time
    rw [describe_agree (fun _ _ => rfl) (fun _ _ => rfl) (fun _ _ => rfl) (fun _ _ => rfl)
      w.compiled v.compiled pattern.text (adopted E pattern options form w)
      (adopted E pattern options form v)]
    cases (describe E form v.compiled pattern.text (adopted E pattern options form v)).1 <;> rfl

/-- What an entry comes to if nothing else is compiled. -/
def PatternEntry.alone (E : Engine κ Unit) (e : PatternEntry) :
    Except PatternError CompiledPattern :=
  (Compiler.opened.compile E e.request { state := () }).1

/-- The first form of a ledger has number 0. -/
theorem alone_form {e : PatternEntry} {p : CompiledPattern} (h : e.alone E = .ok p) :
    p.form = 0 := by
  have hcomp := compile_compilation E e.request .opened { state := () } true
  rw [show (Compiler.opened.compile E e.request { state := () }).1 = .ok p from h] at hcomp
  exact hcomp.of_ok.2.1

/-- **An entry comes to the same in a load**, apart from the number of its form. -/
theorem compile_alone (E : Engine κ Unit) (e : PatternEntry) (c : Compiler) (w : Ledger κ Unit) :
    (c.compile E e.request w).1 = (e.alone E).map fun p => { p with form := w.compiled } := by
  have h := (compile_compilation E e.request c w true).eq_outcome (.inl rfl)
  have halone := (compile_compilation E e.request .opened { state := () } true).eq_outcome (.inl rfl)
  rw [PatternEntry.alone, halone]
  exact h.trans (compileOutcome_stateless E _ _ w _)

/-! ## A load in progress -/

/-- The pattern of an entry in a load: what the entry comes to alone, with the form that the engine
gave for it. -/
structure CompiledFrom (E : Engine κ Unit) (w : Ledger κ Unit) (e : PatternEntry)
    (p : CompiledPattern) : Prop where
  alone : e.alone E = .ok { p with form := 0 }
  source : p.source = e.text
  form : ∃ f, (E.compile e.asked.1 e.asked.2 ()).1 = .ok f ∧ w.form? p.form = some f

/-- **A load that has compiled some entries**, and nothing else. The caller and the registry hold
the patterns, and each pattern has a form of its own. -/
structure Underway (E : Engine κ Unit) (done : List PatternEntry) (l : Load κ Unit) : Prop where
  patterns : List.Forall₂ (CompiledFrom E l.ledger) done l.patterns
  forms : l.patterns.map (·.form) = List.range done.length
  length : l.ledger.formList.length = done.length
  registry : l.compiler.registry = some ⟨l.patterns.map .ofPattern⟩
  requests : l.ledger.requests = done.map (·.asked)
  jitForms : l.ledger.jitForms = []
  balanced : Balanced done.length (compilerForms l.compiler ++ l.patterns.map (·.form)) l.ledger

/-- More forms do not take the form of a pattern away. -/
theorem CompiledFrom.mono {w w' : Ledger κ Unit} {e : PatternEntry} {p : CompiledPattern}
    (h : CompiledFrom E w e p) (hw : w.formList <+: w'.formList) : CompiledFrom E w' e p where
  alone := h.alone
  source := h.source
  form := by
    obtain ⟨f, hf, hform⟩ := h.form
    obtain ⟨more, hmore⟩ := hw
    refine ⟨f, hf, ?_⟩
    rw [form?_eq] at hform ⊢
    obtain ⟨hlt, -⟩ := List.getElem?_eq_some_iff.1 hform
    rw [← hmore, List.getElem?_append_left hlt, hform]

/-- Only a text can be compiled, and then the engine made a form for it. -/
theorem Compilation.made {pattern : Pattern} {options : Options} {c c' : Compiler} {room : Bool}
    {w w' : Ledger κ Unit} {p : CompiledPattern}
    (h : Compilation E pattern options c w room (.ok p, c', w')) :
    pattern.isEmpty = false ∧ makesForm E pattern options w.state = true := by
  cases h with
  | unregistered h hform => exact ⟨h, by simp [makesForm, h, hform, Except.isOk, Except.toBool]⟩
  | registered h hform => exact ⟨h, by simp [makesForm, h, hform, Except.isOk, Except.toBool]⟩

namespace Underway

variable {done : List PatternEntry} {l : Load κ Unit}

theorem opened (E : Engine κ Unit) : Underway E [] { ledger := { state := () } } where
  patterns := .nil
  forms := rfl
  length := rfl
  registry := rfl
  requests := rfl
  jitForms := rfl
  balanced := Balanced.opened ()

theorem log (h : Underway E done l) (r : LogRecord) :
    Underway E done { l with ledger := l.ledger.note (.logged r) } where
  patterns := h.patterns.imp fun _ _ hp => hp.mono (List.prefix_refl _)
  forms := h.forms
  length := h.length
  registry := h.registry
  requests := by rw [Ledger.requests, calls_logged, ← h.requests, Ledger.requests]
  jitForms := by rw [Ledger.jitForms, calls_logged, ← h.jitForms, Ledger.jitForms]
  balanced := h.balanced.note rfl

/-- What the next compilation does, whatever comes of it. -/
theorem attempt (h : Underway E done l) (e : PatternEntry)
    {outcome : Except PatternError CompiledPattern} {request : CompileRequest} {c : Compiler}
    {w : Ledger κ Unit}
    (hout : l.compiler.compile E e.request l.ledger = (outcome, request, c, w)) :
    outcome = ((e.alone E).map fun p => { p with form := done.length }) ∧
      Compilation E e.asked.1 e.asked.2 l.compiler l.ledger true (outcome, c, w) ∧
      w.requests = done.map (·.asked) ++ (if e.text.isEmpty then [] else [e.asked]) ∧
      w.jitForms = [] ∧
      Balanced (done.length + (makesForm E e.asked.1 e.asked.2 ()).toNat)
        (outcomeForms outcome ++ (compilerForms c ++ l.patterns.map (·.form))) w := by
  have halone := compile_alone E e l.compiler l.ledger
  have hcomp := compile_compilation E e.request l.compiler l.ledger true
  have hrequests := requests_compile E e.request l.compiler l.ledger true
  have hjit := jitForms_compile E e.request l.compiler l.ledger true
  have hbalanced := compile_balanced h.balanced E e.request true
  rw [hout] at halone hcomp hrequests hjit hbalanced
  rw [h.balanced.compiled] at halone
  rw [h.requests] at hrequests
  exact ⟨halone, hcomp, hrequests, hjit.trans h.jitForms, hbalanced⟩

/-- **One entry** that compiles. -/
theorem compile (h : Underway E done l) {e : PatternEntry} (he : ∃ p, e.alone E = .ok p) :
    ∃ l', Underway E (done ++ [e]) l' ∧ ∀ es, Load.compile E (e :: es) l = Load.compile E es l' := by
  obtain ⟨p₀, hp₀⟩ := he
  rcases hout : l.compiler.compile E e.request l.ledger with ⟨outcome, request, c, w⟩
  obtain ⟨halone, hcomp, hrequests, hjit, hbalanced⟩ := h.attempt e hout
  rw [hp₀] at halone
  obtain rfl : outcome = .ok { p₀ with form := done.length } := halone
  obtain ⟨hempty, hmakes⟩ := hcomp.made
  have htext : ¬ e.text.isEmpty = true := ne_true_of_eq_false hempty
  obtain ⟨hsource, -, ⟨f, hf, hforms⟩, hregistry⟩ := hcomp.of_ok
  have hzero : p₀ = { p₀ with form := 0 } := by rw [← alone_form hp₀]
  -- the new form comes after all others, so the earlier patterns keep theirs
  refine ⟨⟨l.patterns ++ [{ p₀ with form := done.length }], c, w⟩, ?_, fun es => ?_⟩
  · constructor
    · refine List.rel_append (h.patterns.imp fun _ _ hp => hp.mono hcomp.formList_prefix)
        (.cons ⟨hp₀.trans (congrArg _ hzero), hsource, f, hf, ?_⟩ .nil)
      rw [form?_eq, hforms, ← h.length]
      exact List.getElem?_concat_length
    · rw [List.map_append, h.forms, List.length_append]
      exact List.range_succ.symm
    · rw [hforms, List.length_append, h.length, List.length_append]
      rfl
    · rw [hregistry, h.registry, List.map_append]
      rfl
    · rw [hrequests, if_neg htext, List.map_append]
      rfl
    · exact hjit
    · rw [hmakes] at hbalanced
      rw [List.length_append]
      refine (hbalanced.perm List.perm_append_comm).perm (.of_eq ?_)
      rw [List.map_append, List.append_assoc]
      rfl
  · rw [Load.compile, hout]

/-- **The first entry that does not compile** ends the load, and holds nothing. -/
theorem fail (h : Underway E done l) {e : PatternEntry} {failure : PatternError}
    (he : e.alone E = .error failure) :
    ∃ w, (∀ es, Load.compile E (e :: es) l = (some failure, { l with ledger := w })) ∧
      w.requests = done.map (·.asked) ++ (if e.text.isEmpty then [] else [e.asked]) ∧
      w.jitForms = [] ∧
      Balanced (done.length + (makesForm E e.asked.1 e.asked.2 ()).toNat)
        (compilerForms l.compiler ++ l.patterns.map (·.form)) w := by
  rcases hout : l.compiler.compile E e.request l.ledger with ⟨outcome, request, c, w⟩
  obtain ⟨halone, hcomp, hrequests, hjit, hbalanced⟩ := h.attempt e hout
  rw [he] at halone
  obtain rfl : outcome = .error failure := halone
  obtain rfl := hcomp.of_error
  refine ⟨w, fun es => ?_, hrequests, hjit, hbalanced⟩
  rw [Load.compile, hout]

end Underway

/-- **Some entries** that compile. -/
theorem underway_run {done es : List PatternEntry} {l : Load κ Unit} (h : Underway E done l)
    (hes : ∀ e ∈ es, ∃ p, e.alone E = .ok p) :
    ∃ l', Underway E (done ++ es) l' ∧
      ∀ rest, Load.compile E (es ++ rest) l = Load.compile E rest l' := by
  induction es generalizing done l with
  | nil => exact ⟨l, by rwa [List.append_nil], fun _ => rfl⟩
  | cons e es ih =>
    obtain ⟨l₁, h₁, hstep⟩ := h.compile (hes e List.mem_cons_self)
    obtain ⟨l₂, h₂, hrun⟩ := ih h₁ fun e' he' => hes e' (List.mem_cons_of_mem e he')
    refine ⟨l₂, ?_, fun rest => ?_⟩
    · rwa [List.append_assoc] at h₂
    · rw [List.cons_append, hstep, hrun]

/-! ## The end of a load that failed -/

/-- **Nothing is left behind**: nobody holds a form, and the scope, which has no cleanups, is torn
down. -/
theorem abandoned_balanced {n : Nat} {l : Load κ Unit} (number : Nat)
    (h : Balanced n (compilerForms l.compiler ++ l.patterns.map (·.form)) l.ledger) :
    Balanced n [] (l.abandoned (Scope.opened number)) ∧
      (l.abandoned (Scope.opened number)).events.back? =
        some (.logged (Scope.teardownRecord number 0)) ∧
      (l.abandoned (Scope.opened number)).calls = l.ledger.calls := by
  have hpatterns : Balanced n (l.patterns.map (·.form) ++ (compilerForms l.compiler ++ []))
      l.ledger := by
    rw [List.append_nil]
    exact h.perm List.perm_append_comm
  refine ⟨endScope_balanced (letGoRegistry_balanced hpatterns.letGoAll), Array.back?_push, ?_⟩
  simp [Load.abandoned]

/-! ## The end of a load that succeeded -/

theorem getElem?_optimizeEntry (E : Engine κ Unit) (w : Ledger κ Unit) (e : RegistryEntry)
    (i : Nat) :
    (optimizeEntry E w e).2.formList[i]? =
      if i = e.pattern.form then (w.formList[i]?).map fun f => (E.jitCompile f ()).1.2
      else w.formList[i]? := by
  unfold optimizeEntry
  split
  · next hnone =>
    rw [form?_eq] at hnone
    split
    · next hi => rw [hi, hnone, Option.map_none]
    · rfl
  next form hform =>
  rw [form?_eq] at hform
  have hset : (w.formList.set e.pattern.form (E.jitCompile form ()).1.2)[i]? =
      if i = e.pattern.form then (w.formList[i]?).map fun f => (E.jitCompile f ()).1.2
      else w.formList[i]? := by
    split
    · next hi =>
      obtain ⟨hlt, -⟩ := List.getElem?_eq_some_iff.1 hform
      rw [hi, hform, List.getElem?_set_self hlt, Option.map_some]
    · next hi => rw [List.getElem?_set_ne (Ne.symm hi)]
  dsimp only
  split
  · rwa [formList_setForm, formList_ask]
  · rwa [formList_log, formList_setForm, formList_ask]

/-- Forms that are optimized once each. -/
theorem getElem?_optimizeEntries (E : Engine κ Unit) {es : List RegistryEntry}
    (hes : (es.map (·.pattern.form)).Nodup) (count : Nat) (w : Ledger κ Unit) (i : Nat) :
    (optimizeEntries E es count w).2.formList[i]? =
      if i ∈ es.map (·.pattern.form) then (w.formList[i]?).map fun f => (E.jitCompile f ()).1.2
      else w.formList[i]? := by
  induction es generalizing count w with
  | nil => rfl
  | cons e es ih =>
    obtain ⟨hnot, hrest⟩ := List.nodup_cons.1 hes
    rw [optimizeEntries, ih hrest, getElem?_optimizeEntry]
    by_cases hi : i = e.pattern.form
    · rw [if_neg (hi ▸ hnot), if_pos hi, if_pos (by simp [hi])]
    · simp only [hi, if_false, List.map_cons, List.mem_cons, false_or]

/-- **The batch pass optimizes each form of the ledger** if each is in the registry once. -/
theorem formList_optimizeAll (E : Engine κ Unit) {r : Registry} {w : Ledger κ Unit}
    (hr : r.forms = List.range w.formList.length) (enabled : Bool) (sc : Scope Duty) :
    (optimizeAll E r enabled sc w).2.formList =
      if enabled && E.jitAvailable then w.formList.map fun f => (E.jitCompile f ()).1.2
      else w.formList := by
  rw [optimizeAll_eq, formList_letGoAll, Ledger.swept]
  split
  · have hnodup : (r.entries.map (·.pattern.form)).Nodup := by
      rw [← Registry.forms, hr]
      exact List.nodup_range
    apply List.ext_getElem?
    intro i
    rw [formList_log, getElem?_optimizeEntries E hnodup, ← Registry.forms, hr]
    simp only [formList_log, formList_takenOver, List.getElem?_map, List.mem_range]
    split
    · rfl
    -- behind the last form there is nothing to optimize
    · next hi => rw [List.getElem?_eq_none (by omega), Option.map_none]
  · simp

/-- **The patterns go to one cleanup of the scope**, which holds them besides the caller. -/
theorem Underway.finish {done : List PatternEntry} {l : Load κ Unit} (h : Underway E done l)
    (config : Config) (number : Nat) :
    let out := l.compiler.finish E config (Scope.opened number) l.ledger
    out.2.1 = ⟨number, some [.mk (.release number (l.patterns.map .ofPattern)) []]⟩ ∧
      out.2.2.formList =
        (if config.jitEnabled && E.jitAvailable then
          l.ledger.formList.map fun f => (E.jitCompile f ()).1.2
        else l.ledger.formList) ∧
      out.2.2.requests = done.map (·.asked) ∧
      Balanced done.length (l.patterns.map (·.form) ++ l.patterns.map (·.form)) out.2.2 := by
  intro out
  have hout : out = (⟨none⟩, optimizeAll E ⟨l.patterns.map .ofPattern⟩ config.jitEnabled
      (Scope.opened number) l.ledger) := by
    simp only [out, Compiler.finish, h.registry]
  have hforms : Registry.forms ⟨l.patterns.map .ofPattern⟩ = l.patterns.map (·.form) := by
    rw [Registry.forms, List.map_map]
    rfl
  have hrange : Registry.forms ⟨l.patterns.map .ofPattern⟩ =
      List.range l.ledger.formList.length := by
    rw [hforms, h.forms, h.length]
  have hmade : ∀ id ∈ Registry.forms ⟨l.patterns.map .ofPattern⟩,
      id < l.ledger.formList.length := by
    intro id hid
    rwa [hrange, List.mem_range] at hid
  have hscope : out.2.1 = ⟨number, some [.mk (.release number (l.patterns.map .ofPattern)) []]⟩ := by
    rw [hout]
    exact ((Scope.opened number).add_leaf _).1
  refine ⟨hscope, ?_, ?_, ?_⟩
  · rw [hout]
    exact formList_optimizeAll E hrange config.jitEnabled _
  · have hjit (ids : List Nat) : (ids.map EngineCall.jit).filterMap compiled? = [] := by
      simp [compiled?]
    rw [hout, Ledger.requests, calls_optimizeAll hmade, List.filterMap_append, ← Ledger.requests,
      h.requests]
    split
    · rw [hjit, List.append_nil]
    · exact List.append_nil _
  · have hleaves : Leaves (Scope.opened number) := by simp [Leaves, Scope.opened]
    have hfinish : Balanced done.length (compilerForms out.1
        ++ (scopeForms out.2.1 ++ l.patterns.map (·.form))) out.2.2 :=
      (finish_balanced hleaves h.balanced E config).1
    have hcompiler : compilerForms out.1 = [] := by
      rw [hout]
      rfl
    have hheld : scopeForms out.2.1 = l.patterns.map (·.form) := by
      rw [hscope]
      simp [scopeForms, dutyForms, Scope.duty, RegistryEntry.ofPattern]
    rwa [hcompiler, hheld] at hfinish

/-! ## Files -/

/-- **An override that is not accepted** ends a load before it began. -/
theorem load_refused (E : Engine κ Unit) {file : PatternFile} {override : Option String}
    {failure : PatternError} (hconfig : Generation.effectiveConfig file override = .error failure)
    (number : Nat) :
    Generation.load E file override number { state := () } = (.error failure, { state := () }) := by
  simp only [Generation.load, hconfig]

/-- A load logs what there is to be said about its configuration and compiles its entries. -/
theorem load_eq (E : Engine κ Unit) {file : PatternFile} {override : Option String}
    {config : Config} (hconfig : Generation.effectiveConfig file override = .ok config)
    (number : Nat) :
    ∃ l, Underway E [] l ∧
      Generation.load E file override number { state := () } =
        match Load.compile E file.entries l with
        | (some e, l) => (.error e, l.abandoned (Scope.opened number))
        | (none, l) =>
          let config := (config.validate E.jitAvailable).1.init
          let out := l.compiler.finish E config (Scope.opened number) l.ledger
          (.ok ⟨l.patterns, out.2.1⟩,
            out.2.2.log .info (Generation.loadedText number l.patterns.length config)) := by
  refine ⟨_, logAll_induct (P := fun w => Underway E [] { ledger := w }) (fun h r => h.log r)
    (.opened E) (config.validate E.jitAvailable).2, ?_⟩
  simp only [Generation.load, hconfig]
  generalize Load.compile E file.entries _ = out
  rcases out with ⟨_ | e, l⟩
  · rfl
  · rfl

/-- Entries that do not all compile have a first one that does not. -/
theorem exists_first_failure {es : List PatternEntry}
    (h : ¬ ∀ e ∈ es, ∃ p, e.alone E = .ok p) :
    ∃ before bad after failure, es = before ++ bad :: after ∧
      (∀ e ∈ before, ∃ p, e.alone E = .ok p) ∧ bad.alone E = .error failure := by
  induction es with
  | nil => simp at h
  | cons e es ih =>
    cases he : e.alone E with
    | error failure => exact ⟨[], e, es, failure, rfl, by simp, he⟩
    | ok p =>
      obtain ⟨before, bad, after, failure, rfl, hbefore, hbad⟩ := ih (by simpa [he] using h)
      refine ⟨e :: before, bad, after, failure, rfl, ?_, hbad⟩
      intro e' he'
      rcases List.mem_cons.1 he' with rfl | he'
      · exact ⟨p, he⟩
      · exact hbefore e' he'

/-- **What a load leaves behind** that failed at an entry: the engine was asked for each pattern up
to the entry, or before it if that has no text, for nothing behind it and for no optimization, the
scope was torn down without a cleanup, and all forms that were made are released. -/
structure Abandoned (E : Engine κ Unit) (before : List PatternEntry) (bad : PatternEntry)
    (number : Nat) (w : Ledger κ Unit) : Prop where
  requests : List.Forall₂ PatternEntry.AsksFor
    (before ++ if bad.text.isEmpty then [] else [bad]) w.requests
  jitForms : w.jitForms = []
  tornDown : w.events.back? = some (.logged (Scope.teardownRecord number 0))
  compiled : ∃ o, bad.Asks o ∧
    w.compiled = before.length + (makesForm E ⟨bad.dialect, bad.text⟩ o ()).toNat
  released : ∀ id < w.compiled, w.releases id = 1
  holders : ∀ id, w.holders id = 0

/-- **A load fails** with the first entry that does not compile. -/
theorem load_failed (E : Engine κ Unit) {file : PatternFile} {override : Option String}
    {config : Config} (hconfig : Generation.effectiveConfig file override = .ok config)
    (number : Nat) {before after : List PatternEntry} {bad : PatternEntry} {failure : PatternError}
    (hfile : file.entries = before ++ bad :: after)
    (hbefore : ∀ e ∈ before, ∃ p, e.alone E = .ok p) (hbad : bad.alone E = .error failure) :
    (Generation.load E file override number { state := () }).1 = .error failure ∧
      Abandoned E before bad number
        (Generation.load E file override number { state := () }).2 := by
  obtain ⟨l₀, h₀, hload⟩ := load_eq E hconfig number
  obtain ⟨l, h, hrun⟩ := underway_run h₀ hbefore
  obtain ⟨w, hfail, hrequests, hjit, hbalanced⟩ := h.fail hbad
  rw [hfile, hrun, hfail] at hload
  obtain ⟨hnone, htorn, hcalls⟩ := abandoned_balanced (l := { l with ledger := w }) number hbalanced
  rw [hload]
  refine ⟨rfl, ?_, ?_, htorn, ⟨_, bad.asks_options, hnone.compiled⟩, ?_, ?_⟩
  · have hasked : (if bad.text.isEmpty then [] else [bad.asked]) =
        (if bad.text.isEmpty then [] else [bad]).map (·.asked) := by
      split <;> rfl
    rw [Ledger.requests, hcalls, ← Ledger.requests, hrequests, List.nil_append, hasked,
      ← List.map_append]
    exact PatternEntry.forall₂_asked _
  · rw [Ledger.jitForms, hcalls, ← Ledger.jitForms, hjit]
  · intro id hid
    rw [hnone.releases, if_pos ⟨hnone.compiled ▸ hid, List.not_mem_nil⟩]
  · exact hnone.holders

end Alone

/-! ## The standard engine -/

section Standard

variable {M : Matchers}

/-- A new form has no table. -/
theorem Standard.isJit_of_compile {limit : Nat} {p : Pattern} {options : Options}
    {f : Standard.Form M} (h : Standard.compile M limit p options = .ok f) : f.isJit = false := by
  obtain ⟨c, rfl, -⟩ := Standard.compile_cases h
  rfl

/-- A form is optimized just if that is not refused. -/
theorem Standard.isJit_jitCompile (s : Standard.Settings) {f : Standard.Form M}
    (h : f.isJit = false) :
    (Standard.jitCompile s f).2.isJit = true ↔ (Standard.jitCompile s f).1 = none := by
  rcases Standard.jitCompile_cases s f with ⟨reason, hrefused⟩ | ⟨-, htable, -⟩ |
    ⟨-, b, t, -, -, hbuilt⟩
  · simp [hrefused, h]
  · rw [h] at htable
    cases htable
  · simp [hbuilt, Standard.Form.isJit]

/-- **The pattern of an entry** in a loaded generation: that of the entry's text, dialect and
options. The caller and the cleanup hold its form, which is optimized just if it was to be and could
be. -/
structure LoadedFrom (s : Standard.Settings) (jit : Bool) (w : Ledger (Standard.Form M) Unit)
    (e : PatternEntry) (p : CompiledPattern) : Prop where
  alone : e.alone (Standard.engine M s) = .ok { p with form := 0 }
  source : p.source = e.text
  form : ∃ o f g, e.Asks o ∧
    Standard.compile M s.backtrackLimit ⟨e.dialect, e.text⟩ o = .ok f ∧
    w.form? p.form = some g ∧ Standard.SameButTable g f ∧
    (g.isJit = true ↔ jit = true ∧ (Standard.jitCompile s f).1 = none)
  holders : w.holders p.form = 2

/-- **A loaded generation**: a pattern for each entry, in order, each with a form of its own, and an
open scope with one cleanup for all of them. The engine was asked for these patterns and for nothing
else, and no form is released. -/
structure Loaded (s : Standard.Settings) (jit : Bool) (es : List PatternEntry) (number : Nat)
    (g : Generation) (w : Ledger (Standard.Form M) Unit) : Prop where
  patterns : List.Forall₂ (LoadedFrom s jit w) es g.patterns
  forms : g.patterns.map (·.form) = List.range w.compiled
  scope : g.scope = ⟨number, some [.mk (.release number (g.patterns.map .ofPattern)) []]⟩
  requests : List.Forall₂ PatternEntry.AsksFor es w.requests
  released : ∀ id, w.releases id = 0

/-- What the batch pass makes of the form of an entry. -/
theorem loadedFrom (s : Standard.Settings) {jit : Bool} {w w' : Ledger (Standard.Form M) Unit}
    {e : PatternEntry} {p : CompiledPattern} (h : CompiledFrom (Standard.engine M s) w e p)
    (hforms : w'.formList = if jit && s.jit then
      w.formList.map fun f => (Standard.jitCompile s f).2 else w.formList)
    (hholders : w'.holders p.form = 2) : LoadedFrom s jit w' e p := by
  obtain ⟨f, hf, hform⟩ := h.form
  rw [form?_eq] at hform
  have hnew := Standard.isJit_of_compile hf
  have hsame := Standard.SameButTable.refl (Standard.compile_faithful hf)
  refine ⟨h.alone, h.source, ?_, hholders⟩
  by_cases hjit : (jit && s.jit) = true
  · rw [if_pos hjit] at hforms
    refine ⟨_, f, (Standard.jitCompile s f).2, e.asks_options, hf, ?_, hsame.jitLeft s, ?_⟩
    · rw [form?_eq, hforms, List.getElem?_map, hform, Option.map_some]
    · rw [Standard.isJit_jitCompile s hnew]
      simp [(Bool.and_eq_true_iff.1 hjit).1]
  · rw [if_neg hjit] at hforms
    refine ⟨_, f, f, e.asks_options, hf, ?_, hsame, ?_⟩
    · rw [form?_eq, hforms, hform]
    · -- the pass was not run for want of the flag, or for want of the engine, which would refuse
      have hrefused : jit = true → (Standard.jitCompile s f).1 ≠ none := by
        intro hon
        simp [Standard.jitCompile, show s.jit = false by simpa [hon] using hjit]
      rw [hnew]
      constructor
      · intro h
        cases h
      · rintro ⟨hon, hnone⟩
        exact absurd hnone (hrefused hon)

/-- **A load succeeds** if all entries compile. -/
theorem load_loaded (s : Standard.Settings) {file : PatternFile} {override : Option String}
    {config : Config} (hconfig : Generation.effectiveConfig file override = .ok config)
    (number : Nat) (hfile : ∀ e ∈ file.entries, ∃ p, e.alone (Standard.engine M s) = .ok p) :
    ∃ g, (Generation.load (Standard.engine M s) file override number { state := () }).1 = .ok g ∧
      Loaded s (config.validate s.jit).1.init.jitEnabled file.entries number g
        (Generation.load (Standard.engine M s) file override number { state := () }).2 := by
  obtain ⟨l₀, h₀, hload⟩ := load_eq (Standard.engine M s) hconfig number
  obtain ⟨l, h, hrun⟩ := underway_run h₀ hfile
  rw [← List.append_nil file.entries, hrun [], Load.compile] at hload
  let config' := (config.validate s.jit).1.init
  let out := l.compiler.finish (Standard.engine M s) config' (Scope.opened number) l.ledger
  let w := out.2.2.log .info (Generation.loadedText number l.patterns.length config')
  have hresult : Generation.load (Standard.engine M s) file override number { state := () } =
      (.ok ⟨l.patterns, out.2.1⟩, w) := hload
  obtain ⟨hscope, hforms, hrequests, hbalanced⟩ := h.finish config' number
  rw [List.nil_append] at h hrequests hbalanced
  rw [h.forms] at hbalanced
  have hlogged : Balanced file.entries.length
      (List.range file.entries.length ++ List.range file.entries.length) w := hbalanced.log _ _
  have hlist : w.formList = if config'.jitEnabled && s.jit then
      l.ledger.formList.map fun f => (Standard.jitCompile s f).2 else l.ledger.formList := hforms
  rw [hresult]
  refine ⟨_, rfl, ?_, ?_, hscope, ?_, ?_⟩
  · refine h.patterns.imp fun e p hp => loadedFrom s hp hlist ?_
    obtain ⟨f, -, hform⟩ := hp.form
    rw [form?_eq] at hform
    obtain ⟨hlt, -⟩ := List.getElem?_eq_some_iff.1 hform
    have hone : (List.range file.entries.length).count p.form = 1 :=
      List.count_eq_one_of_mem List.nodup_range (List.mem_range.2 (h.length ▸ hlt))
    rw [hlogged.holders, List.count_append, hone]
  · exact h.forms.trans (congrArg List.range hlogged.compiled.symm)
  · rw [Ledger.requests, calls_log, ← Ledger.requests, hrequests]
    exact PatternEntry.forall₂_asked _
  · intro id
    rw [hlogged.releases]
    simp

/-- The three ways in which a load can go: the override is not accepted, all entries compile, or one
is the first that does not. -/
theorem load_cases (M : Matchers) (s : Standard.Settings) (file : PatternFile)
    (override : Option String) (number : Nat) :
    let E := Standard.engine M s
    let out := Generation.load E file override number { state := () }
    (∃ failure, Generation.effectiveConfig file override = .error failure ∧
        out = (.error failure, { state := () })) ∨
      ∃ config, Generation.effectiveConfig file override = .ok config ∧
        ((∃ g, (∀ e ∈ file.entries, ∃ p, e.alone E = .ok p) ∧ out.1 = .ok g ∧
            Loaded s (config.validate s.jit).1.init.jitEnabled file.entries number g out.2) ∨
          ∃ before bad after failure, file.entries = before ++ bad :: after ∧
            (∀ e ∈ before, ∃ p, e.alone E = .ok p) ∧ bad.alone E = .error failure ∧
            out.1 = .error failure ∧ Abandoned E before bad number out.2) := by
  intro E out
  cases hconfig : Generation.effectiveConfig file override with
  | error failure => exact .inl ⟨failure, rfl, load_refused E hconfig number⟩
  | ok config =>
    refine .inr ⟨config, rfl, ?_⟩
    by_cases hfile : ∀ e ∈ file.entries, ∃ p, e.alone E = .ok p
    · obtain ⟨g, hg, hloaded⟩ := load_loaded s hconfig number hfile
      exact .inl ⟨g, hfile, hg, hloaded⟩
    · obtain ⟨before, bad, after, failure, hentries, hbefore, hbad⟩ := exists_first_failure hfile
      obtain ⟨hfailed, habandoned⟩ := load_failed E hconfig number hentries hbefore hbad
      exact .inr ⟨before, bad, after, failure, hentries, hbefore, hbad, hfailed, habandoned⟩

/-- **A load succeeds as a whole or leaves nothing behind.** It succeeds just if the override is
accepted on top of the file's flag and all entries compile. If the override is not accepted nothing
was done; otherwise a load that fails does so with the error of the first entry that does not
compile. -/
theorem load_all_or_nothing (M : Matchers) (s : Standard.Settings) (file : PatternFile)
    (override : Option String) (number : Nat) :
    let E := Standard.engine M s
    let out := Generation.load E file override number { state := () }
    ((∃ g, out.1 = .ok g) ↔
        (∃ config, Generation.effectiveConfig file override = .ok config) ∧
          ∀ e ∈ file.entries, ∃ p, e.alone E = .ok p) ∧
      (∀ g, out.1 = .ok g →
        ∃ config, Generation.effectiveConfig file override = .ok config ∧
          Loaded s (config.validate s.jit).1.init.jitEnabled file.entries number g out.2) ∧
      ∀ failure, out.1 = .error failure →
        (Generation.effectiveConfig file override = .error failure ∧ out.2 = { state := () }) ∨
          (∃ config, Generation.effectiveConfig file override = .ok config) ∧
            ∃ before bad after, file.entries = before ++ bad :: after ∧
              (∀ e ∈ before, ∃ p, e.alone E = .ok p) ∧ bad.alone E = .error failure ∧
                Abandoned E before bad number out.2 := by
  intro E out
  rcases load_cases M s file override number with ⟨e, hconfig, hout⟩ | ⟨config, hconfig, h⟩
  · have hout : out = (.error e, { state := () }) := hout
    rw [hout, hconfig]
    refine ⟨by simp, by simp, fun failure hfailure => .inl ⟨?_, rfl⟩⟩
    rw [Except.error.inj hfailure]
  rcases h with ⟨g, hfile, hg, hloaded⟩ | ⟨before, bad, after, e, hentries, hbefore, hbad, he, h⟩
  · have hg : out.1 = .ok g := hg
    refine ⟨⟨fun _ => ⟨⟨config, hconfig⟩, hfile⟩, fun _ => ⟨g, hg⟩⟩, fun g' hg' => ?_, ?_⟩
    · obtain rfl : g = g' := Except.ok.inj (hg.symm.trans hg')
      exact ⟨config, hconfig, hloaded⟩
    · intro failure hfailure
      rw [hg] at hfailure
      cases hfailure
  · have he : out.1 = .error e := he
    rw [he]
    refine ⟨⟨by simp, ?_⟩, by simp, fun failure hfailure => .inr ⟨⟨config, hconfig⟩, ?_⟩⟩
    · rintro ⟨-, hfile⟩
      obtain ⟨p, hp⟩ := hfile bad (by simp [hentries])
      rw [hbad] at hp
      cases hp
    · obtain rfl : e = failure := Except.error.inj hfailure
      exact ⟨before, bad, after, hentries, hbefore, hbad, h⟩

/-- A load of an entry with two options that succeeds, one whose override is not accepted, and one
with an entry that does not compile. -/
theorem load_all_or_nothing_literal :
    let E := Standard.engine literalMatchers {}
    let a : PatternEntry := { text := "a", dialect := .basic, caseless := true, dotall := true }
    let empty : PatternEntry := { text := "", dialect := .basic }
    let load (es : List PatternEntry) (override : Option String) :=
      Generation.load E ⟨{}, es⟩ override 1 { state := () }
    (∃ g, (load [a] (some "On")).1 = .ok g ∧
        Loaded {} true [a] 1 g (load [a] (some "On")).2) ∧
      (load [a] (some "On")).2.requests = [(⟨.basic, "a"⟩, .ofBits 5)] ∧
      (load [a] (some "1")).2 = { state := () } ∧
      ∃ before bad after, [a, empty, a] = before ++ bad :: after ∧
        bad.alone E = .error .emptyPattern ∧
        Abandoned E before bad 1 (load [a, empty, a] none).2 := by
  intro E a empty load
  have ha : ∃ p, a.alone E = .ok p := ⟨⟨0, "a", 0, none⟩, rfl⟩
  obtain ⟨g, hg, h⟩ : ∃ g, (load [a] (some "On")).1 = .ok g ∧
      Loaded {} true [a] 1 g (load [a] (some "On")).2 := by
    obtain ⟨hiff, hloaded, -⟩ := load_all_or_nothing literalMatchers {} ⟨{}, [a]⟩ (some "On") 1
    obtain ⟨g, hg⟩ := hiff.2 ⟨⟨⟨some true⟩, by decide +kernel⟩, by simpa using ha⟩
    obtain ⟨config, hconfig, h⟩ := hloaded g hg
    obtain rfl : config = ⟨some true⟩ := Except.ok.inj (hconfig.symm.trans (by decide +kernel))
    exact ⟨g, hg, h⟩
  refine ⟨⟨g, hg, h⟩, ?_, ?_, ?_⟩
  · -- the third bit and the first are those of the entry's two fields
    have hbits : a.Asks (.ofBits 5) := a.asks_options
    rcases List.forall₂_cons_left_iff.1 h.requests with ⟨⟨p, o⟩, rest, hask, hrest, hrequests⟩
    obtain rfl : rest = [] := List.forall₂_nil_left_iff.1 hrest
    obtain rfl : p = ⟨.basic, "a"⟩ := hask.pattern
    obtain rfl : o = .ofBits 5 := hask.options.unique hbits
    exact hrequests
  · obtain ⟨-, -, hfailed⟩ := load_all_or_nothing literalMatchers {} ⟨{}, [a]⟩ (some "1") 1
    rcases hfailed (.invalidFlag jitDirective "1") rfl with ⟨-, h⟩ | ⟨⟨config, hconfig⟩, -⟩
    · exact h
    · cases hconfig
  · obtain ⟨-, -, hfailed⟩ :=
      load_all_or_nothing literalMatchers {} ⟨{}, [a, empty, a]⟩ none 1
    rcases hfailed .emptyPattern rfl with ⟨hconfig, -⟩ | ⟨-, before, bad, after, hsplit, -, hbad, h⟩
    · cases hconfig
    · exact ⟨before, bad, after, hsplit, hbad, h⟩

end Standard

end PatternSuite
