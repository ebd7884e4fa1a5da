import PatternSuite.Proofs.Twins

/-!
# What an engine is asked

A ledger has every call to the engine in order. Compilations ask for a form and then about its
captures; only the batch pass asks to optimize, and then once for every entry of its registry.

* `Ledger.calls`, `Ledger.requests`, `Ledger.jitForms`: all calls, the patterns to be compiled, the
  forms to be optimized.
* `Compilation`: the ways in which a compilation can end, one for each stage.
* `Compilation.of_ok`, `Compilation.of_error`: what a compilation leaves behind.
* `requests_compile`, `jitForms_compile`, `jitForms_optimizeAll`: what compilations and the batch
  pass ask.
-/

namespace PatternSuite

variable {κ σ : Type}

/-- The call that an event is, if it is one. -/
def call? : Event → Option EngineCall
  | .called call => some call
  | _ => none

/-- What a call compiles, if it does. -/
def compiled? : EngineCall → Option (Pattern × Options)
  | .compile pattern options => some (pattern, options)
  | _ => none

/-- The form that a call optimizes, if it does. -/
def jitForm? : EngineCall → Option Nat
  | .jit form => some form
  | _ => none

namespace Ledger

/-- The calls to the engine so far, in order. -/
def calls (w : Ledger κ σ) : List EngineCall := w.events.toList.filterMap call?

/-- What the engine was asked to compile, in order. -/
def requests (w : Ledger κ σ) : List (Pattern × Options) := w.calls.filterMap compiled?

/-- The forms that the engine was asked to optimize, in order. -/
def jitForms (w : Ledger κ σ) : List Nat := w.calls.filterMap jitForm?

theorem calls_note (e : Event) (w : Ledger κ σ) :
    (w.note e).calls = w.calls ++ (call? e).toList := by
  rw [calls, note, Array.toList_push, List.filterMap_append]
  cases e <;> rfl

@[simp] theorem calls_logged (r : LogRecord) (w : Ledger κ σ) :
    (w.note (.logged r)).calls = w.calls := by
  simp [calls_note, call?]

@[simp] theorem calls_log (level : LogLevel) (text : String) (w : Ledger κ σ) :
    (w.log level text).calls = w.calls := calls_logged _ w

@[simp] theorem calls_ask {α : Type} (call : EngineCall) (answer : σ → α × σ)
    (w : Ledger κ σ) : (w.ask call answer).2.calls = w.calls ++ [call] :=
  calls_note (.called call) { w with state := (answer w.state).2 }

@[simp] theorem calls_adopt (form : κ) (w : Ledger κ σ) : (w.adopt form).2.calls = w.calls := rfl

@[simp] theorem calls_setForm (id : Nat) (form : κ) (w : Ledger κ σ) :
    (w.setForm id form).calls = w.calls := rfl

@[simp] theorem calls_retain (id : Nat) (w : Ledger κ σ) : (w.retain id).calls = w.calls := rfl

@[simp] theorem calls_letGo (id : Nat) (w : Ledger κ σ) : (w.letGo id).calls = w.calls := by
  obtain ⟨f, -, hletGo | hletGo⟩ := letGo_cases id w
  · rw [hletGo]
    rfl
  · rw [hletGo, calls_note]
    exact List.append_nil _

@[simp] theorem calls_retainAll (ids : List Nat) (w : Ledger κ σ) :
    (w.retainAll ids).calls = w.calls := by
  rw [retainAll_eq]
  rfl

@[simp] theorem calls_letGoAll (ids : List Nat) (w : Ledger κ σ) :
    (w.letGoAll ids).calls = w.calls :=
  letGoAll_induct (P := fun v => v.calls = w.calls) (fun h id => (calls_letGo id _).trans h) rfl ids

@[simp] theorem calls_follow (w : Ledger κ σ) (ms : List (Moment Duty)) :
    (w.follow ms).calls = w.calls :=
  follow_induct (P := fun v => v.calls = w.calls) (fun h r => (calls_logged r _).trans h)
    (fun h id => (calls_letGo id _).trans h) rfl ms

@[simp] theorem calls_takenOver (r : Registry) (sc : Scope Duty) (w : Ledger κ σ) :
    (w.takenOver r sc).calls = w.calls :=
  (calls_follow _ _).trans (calls_retainAll r.forms w)

@[simp] theorem calls_endScope (sc : Option (Scope Duty)) (w : Ledger κ σ) :
    (w.endScope sc).calls = w.calls := by
  cases sc with
  | none => rfl
  | some sc => exact calls_follow w _

@[simp] theorem calls_letGoRegistry (r : Option Registry) (w : Ledger κ σ) :
    (w.letGoRegistry r).calls = w.calls := by
  cases r with
  | none => rfl
  | some r => exact calls_letGoAll _ w

end Ledger

open Ledger

/-! ## Compilation -/

section Compilation

variable {E : Engine κ σ} {w : Ledger κ σ}

/-- Questions do not touch the forms. -/
theorem forms_describe (form : κ) (id : Nat) (source : String) :
    (describe E form id source w).2.forms = w.forms :=
  describe_induct (P := fun v => v.forms = w.forms) (fun _ _ h => h) rfl form source

theorem calls_describe (form : κ) (id : Nat) (source : String) :
    ∃ qs : List InfoQuery,
      (describe E form id source w).2.calls = w.calls ++ qs.map (EngineCall.info · id) := by
  refine describe_induct
    (P := fun v => ∃ qs : List InfoQuery, v.calls = w.calls ++ qs.map (EngineCall.info · id))
    (fun q _ h => ?_) ⟨[], (List.append_nil _).symm⟩ form source
  obtain ⟨qs, hqs⟩ := h
  exact ⟨qs ++ [q], by simp [hqs]⟩

/-- The ledger when the engine has given a form for a pattern. -/
def adopted (E : Engine κ σ) (pattern : Pattern) (options : Options) (form : κ)
    (w : Ledger κ σ) : Ledger κ σ :=
  ((w.ask (.compile pattern options) (E.compile pattern options)).2.adopt form).2

/-- The ways in which a compilation can end. -/
inductive Compilation (E : Engine κ σ) (pattern : Pattern) (options : Options) (c : Compiler)
    (w : Ledger κ σ) (room : Bool) :
    Except PatternError CompiledPattern × Compiler × Ledger κ σ → Prop
  /-- There is nothing to compile. -/
  | empty (h : pattern.isEmpty = true) :
    Compilation E pattern options c w room (.error .emptyPattern, c, w)
  /-- The engine refuses the pattern. -/
  | refused (h : pattern.isEmpty = false) {failure : CompileFailure}
    (hform : (E.compile pattern options w.state).1 = .error failure) :
    Compilation E pattern options c w room (.error (compileError pattern.text failure), c,
      (w.ask (.compile pattern options) (E.compile pattern options)).2)
  /-- A question about captures fails. -/
  | unknown (h : pattern.isEmpty = false) {form : κ}
    (hform : (E.compile pattern options w.state).1 = .ok form) {e : PatternError}
    {w' : Ledger κ σ}
    (hdescribe : describe E form w.compiled pattern.text (adopted E pattern options form w)
      = (.error e, w')) :
    Compilation E pattern options c w room (.error e, c, w'.letGo w.compiled)
  /-- There is no registry any more. -/
  | unregistered (h : pattern.isEmpty = false) {form : κ}
    (hform : (E.compile pattern options w.state).1 = .ok form) {captures : Nat}
    {names : Option NameTable} {w' : Ledger κ σ}
    (hdescribe : describe E form w.compiled pattern.text (adopted E pattern options form w)
      = (.ok (captures, names), w'))
    (hc : c.registry = none) :
    Compilation E pattern options c w room
      (.ok ⟨w.compiled, pattern.text, captures, names⟩, c, w')
  /-- The registry has room. -/
  | registered (h : pattern.isEmpty = false) {form : κ}
    (hform : (E.compile pattern options w.state).1 = .ok form) {captures : Nat}
    {names : Option NameTable} {w' : Ledger κ σ}
    (hdescribe : describe E form w.compiled pattern.text (adopted E pattern options form w)
      = (.ok (captures, names), w'))
    {r : Registry} (hc : c.registry = some r) (hroom : room = true) :
    Compilation E pattern options c w room
      (.ok ⟨w.compiled, pattern.text, captures, names⟩,
        ⟨some ⟨r.entries ++ [.ofPattern ⟨w.compiled, pattern.text, captures, names⟩]⟩⟩,
        w'.retain w.compiled)
  /-- The registry has no room. -/
  | noRoom (h : pattern.isEmpty = false) {form : κ}
    (hform : (E.compile pattern options w.state).1 = .ok form) {captures : Nat}
    {names : Option NameTable} {w' : Ledger κ σ}
    (hdescribe : describe E form w.compiled pattern.text (adopted E pattern options form w)
      = (.ok (captures, names), w'))
    {r : Registry} (hc : c.registry = some r) (hroom : room = false) :
    Compilation E pattern options c w room
      (.error (.noMemory pattern.text), c, w'.letGo w.compiled)

theorem compilePattern_compilation (E : Engine κ σ) (pattern : Pattern) (options : Options)
    (c : Compiler) (w : Ledger κ σ) (room : Bool) :
    Compilation E pattern options c w room (c.compilePattern E pattern options w room) := by
  unfold Compiler.compilePattern
  split
  · next hempty => exact .empty hempty
  next hempty =>
  have hne : pattern.isEmpty = false := by simpa using hempty
  split
  · next failure w₁ heq =>
    obtain rfl : (w.ask (.compile pattern options) (E.compile pattern options)).2 = w₁ :=
      congrArg Prod.snd heq
    exact .refused hne (congrArg Prod.fst heq)
  next form w₁ heq =>
  obtain rfl : (w.ask (.compile pattern options) (E.compile pattern options)).2 = w₁ :=
    congrArg Prod.snd heq
  have hform : (E.compile pattern options w.state).1 = .ok form := congrArg Prod.fst heq
  dsimp only
  split
  · next e w₂ hdescribe => exact .unknown hne hform hdescribe
  next captures names w₂ hdescribe =>
  split
  · next hc => exact .unregistered hne hform hdescribe hc
  next r hc =>
  cases room with
  | false => exact .noRoom hne hform hdescribe hc rfl
  | true => exact .registered hne hform hdescribe hc rfl

/-- What a compilation comes to, where there is room for it. -/
def compileOutcome (E : Engine κ σ) (pattern : Pattern) (options : Options) (w : Ledger κ σ) :
    Except PatternError CompiledPattern :=
  if pattern.isEmpty then .error .emptyPattern
  else
    match (E.compile pattern options w.state).1 with
    | .error failure => .error (compileError pattern.text failure)
    | .ok form =>
      (describe E form w.compiled pattern.text (adopted E pattern options form w)).1.map
        fun groups => ⟨w.compiled, pattern.text, groups.1, groups.2⟩

/-- Only the form that was made is new, whatever comes of it. -/
theorem forms_of_describe {pattern : Pattern} {options : Options} {form : κ} {w' : Ledger κ σ}
    {x : Except PatternError (Nat × Option NameTable)}
    (h : describe E form w.compiled pattern.text (adopted E pattern options form w) = (x, w')) :
    w'.forms = w.forms.push ⟨form, 1⟩ := by
  have hforms := forms_describe (E := E) (w := adopted E pattern options form w) form w.compiled
    pattern.text
  rw [h] at hforms
  exact hforms

theorem formList_of_describe {pattern : Pattern} {options : Options} {form : κ} {w' : Ledger κ σ}
    {x : Except PatternError (Nat × Option NameTable)}
    (h : describe E form w.compiled pattern.text (adopted E pattern options form w) = (x, w')) :
    w'.formList = w.formList ++ [form] := by
  simp [formList, forms_of_describe h]

theorem calls_of_describe {pattern : Pattern} {options : Options} {form : κ} {w' : Ledger κ σ}
    {x : Except PatternError (Nat × Option NameTable)}
    (h : describe E form w.compiled pattern.text (adopted E pattern options form w) = (x, w')) :
    ∃ qs : List InfoQuery, w'.calls =
      w.calls ++ .compile pattern options :: qs.map (EngineCall.info · w.compiled) := by
  obtain ⟨qs, hqs⟩ := calls_describe (E := E) (w := adopted E pattern options form w) form
    w.compiled pattern.text
  rw [h] at hqs
  refine ⟨qs, hqs.trans ?_⟩
  simp [adopted]

namespace Compilation

variable {pattern : Pattern} {options : Options} {c c' : Compiler} {room : Bool}
  {w w' : Ledger κ σ} {out : Except PatternError CompiledPattern × Compiler × Ledger κ σ}

/-- A compilation asks for a form, unless there is nothing to compile, and then about captures. -/
theorem calls (h : Compilation E pattern options c w room out) :
    ∃ qs : List InfoQuery, out.2.2.calls = w.calls ++
      ((if pattern.isEmpty then [] else [.compile pattern options])
        ++ qs.map (EngineCall.info · w.compiled)) := by
  cases h with
  | empty h => exact ⟨[], by simp [h]⟩
  | refused h => exact ⟨[], by simp [h]⟩
  | unknown h _ hdescribe =>
    obtain ⟨qs, hqs⟩ := calls_of_describe hdescribe
    exact ⟨qs, by simp [h, hqs]⟩
  | unregistered h _ hdescribe =>
    obtain ⟨qs, hqs⟩ := calls_of_describe hdescribe
    exact ⟨qs, by simp [h, hqs]⟩
  | registered h _ hdescribe =>
    obtain ⟨qs, hqs⟩ := calls_of_describe hdescribe
    exact ⟨qs, by simp [h, hqs]⟩
  | noRoom h _ hdescribe =>
    obtain ⟨qs, hqs⟩ := calls_of_describe hdescribe
    exact ⟨qs, by simp [h, hqs]⟩

/-- No form goes, and none is changed. -/
theorem formList_prefix (h : Compilation E pattern options c w room out) :
    w.formList <+: out.2.2.formList := by
  cases h with
  | empty h => exact List.prefix_refl _
  | refused h => exact List.prefix_refl _
  | unknown _ _ hdescribe => simp [formList_of_describe hdescribe]
  | unregistered _ _ hdescribe => simp [formList_of_describe hdescribe]
  | registered _ _ hdescribe => simp [formList_of_describe hdescribe]
  | noRoom _ _ hdescribe => simp [formList_of_describe hdescribe]

/-- A failure registers nothing. -/
theorem of_error {e : PatternError}
    (h : Compilation E pattern options c w room (.error e, c', w')) : c' = c := by
  cases h with
  | empty => rfl
  | refused => rfl
  | unknown => rfl
  | noRoom => rfl

/-- What a compilation comes to does not depend on what was registered before. -/
theorem eq_outcome (h : Compilation E pattern options c w room out)
    (hroom : room = true ∨ c.registry = none) : out.1 = compileOutcome E pattern options w := by
  cases h with
  | empty h => simp [compileOutcome, h]
  | refused h hform => simp [compileOutcome, h, hform]
  | unknown h hform hdescribe => simp [compileOutcome, h, hform, hdescribe, Except.map]
  | unregistered h hform hdescribe => simp [compileOutcome, h, hform, hdescribe, Except.map]
  | registered h hform hdescribe => simp [compileOutcome, h, hform, hdescribe, Except.map]
  | noRoom _ _ _ hc hfull => simp [hc, hfull] at hroom

/-- A compiler without a registry stays without. -/
theorem registry_none (h : Compilation E pattern options c w room out)
    (hc : c.registry = none) : out.2.1.registry = none := by
  cases h with
  | registered _ _ _ hr => simp [hc] at hr
  | _ => exact hc

/-- Without a registry the caller is the only holder of what was compiled. -/
theorem forms_of_ok {p : CompiledPattern}
    (h : Compilation E pattern options c w room (.ok p, c', w')) (hc : c.registry = none) :
    ∃ form, (E.compile pattern options w.state).1 = .ok form ∧
      p.form = w.forms.size ∧ w'.forms = w.forms.push ⟨form, 1⟩ := by
  cases h with
  | unregistered _ hform hdescribe => exact ⟨_, hform, rfl, forms_of_describe hdescribe⟩
  | registered _ _ _ hr => simp [hc] at hr

/-- **A pattern that was compiled** is that of the request, and its form is what the engine gave
for it. The registry has it behind the others, if there is a registry. -/
theorem of_ok {p : CompiledPattern}
    (h : Compilation E pattern options c w room (.ok p, c', w')) :
    p.source = pattern.text ∧ p.form = w.formList.length ∧
      (∃ form, (E.compile pattern options w.state).1 = .ok form ∧
        w'.formList = w.formList ++ [form]) ∧
      c'.registry = c.registry.map fun r => ⟨r.entries ++ [.ofPattern p]⟩ := by
  have hlength : w.compiled = w.formList.length := by simp [Ledger.compiled, formList]
  cases h with
  | unregistered _ hform hdescribe hc =>
    exact ⟨rfl, hlength, ⟨_, hform, formList_of_describe hdescribe⟩, by simp [hc]⟩
  | registered _ hform hdescribe hc =>
    exact ⟨rfl, hlength, ⟨_, hform, by simp [formList_of_describe hdescribe]⟩, by simp [hc]⟩

end Compilation

/-- A compilation of a request ends as that of its pattern. -/
theorem compile_compilation (E : Engine κ σ) (request : CompileRequest) (c : Compiler)
    (w : Ledger κ σ) (room : Bool) :
    Compilation E request.pattern request.options c w room
      ((c.compile E request w room).1, (c.compile E request w room).2.2.1,
        (c.compile E request w room).2.2.2) := by
  have h := compilePattern_compilation E request.pattern request.options c w room
  unfold Compiler.compile
  split
  · next heq => rwa [heq] at h
  · next heq => rwa [heq] at h

theorem requests_compile (E : Engine κ σ) (request : CompileRequest) (c : Compiler)
    (w : Ledger κ σ) (room : Bool) :
    (c.compile E request w room).2.2.2.requests = w.requests ++
      if request.pattern.isEmpty then [] else [(request.pattern, request.options)] := by
  obtain ⟨qs, hqs⟩ := (compile_compilation E request c w room).calls
  have hinfo : (qs.map (EngineCall.info · w.compiled)).filterMap compiled? = [] := by
    simp [compiled?]
  rw [requests, hqs, List.filterMap_append, List.filterMap_append, hinfo, List.append_nil]
  cases request.pattern.isEmpty <;> rfl

/-- Compilations do not optimize. -/
theorem jitForms_compile (E : Engine κ σ) (request : CompileRequest) (c : Compiler)
    (w : Ledger κ σ) (room : Bool) :
    (c.compile E request w room).2.2.2.jitForms = w.jitForms := by
  obtain ⟨qs, hqs⟩ := (compile_compilation E request c w room).calls
  have hinfo : (qs.map (EngineCall.info · w.compiled)).filterMap jitForm? = [] := by
    simp [jitForm?]
  rw [jitForms, hqs, List.filterMap_append, List.filterMap_append, hinfo, List.append_nil]
  cases request.pattern.isEmpty <;> exact List.append_nil _

end Compilation

/-! ## The batch pass -/

section Optimization

variable {E : Engine κ σ} {w : Ledger κ σ}

/-- An entry whose form is there is optimized once. -/
theorem calls_optimizeEntry {e : RegistryEntry} (h : e.pattern.form < w.formList.length) :
    (optimizeEntry E w e).2.calls = w.calls ++ [.jit e.pattern.form] := by
  unfold optimizeEntry
  split
  · next hnone =>
    rw [form?_eq, List.getElem?_eq_none_iff] at hnone
    omega
  dsimp only
  split
  · simp
  · simp

/-- What the pass makes of a form does not take it away. -/
theorem length_optimizeEntry (e : RegistryEntry) :
    (optimizeEntry E w e).2.formList.length = w.formList.length := by
  unfold optimizeEntry
  split
  · rfl
  dsimp only
  split
  · simp
  · simp

/-- **The pass asks once for every entry, in order.** -/
theorem calls_optimizeEntries {es : List RegistryEntry} (count : Nat)
    (h : ∀ e ∈ es, e.pattern.form < w.formList.length) :
    (optimizeEntries E es count w).2.calls = w.calls ++ es.map fun e => .jit e.pattern.form := by
  induction es generalizing count w with
  | nil => exact (List.append_nil _).symm
  | cons e es ih =>
    simp only [optimizeEntries]
    rw [ih _ fun e' he' => ?_, calls_optimizeEntry (h e List.mem_cons_self)]
    · simp
    · rw [length_optimizeEntry]
      exact h e' (List.mem_cons_of_mem _ he')

theorem calls_optimizeAll {r : Registry} (h : ∀ id ∈ r.forms, id < w.formList.length)
    (enabled : Bool) (sc : Scope Duty) :
    (optimizeAll E r enabled sc w).2.calls =
      w.calls ++ if enabled && E.jitAvailable then r.forms.map .jit else [] := by
  rw [optimizeAll_eq, calls_letGoAll, Ledger.swept]
  split
  · -- the forms are there when the pass starts, whatever the cleanup has done
    rw [calls_log, calls_optimizeEntries]
    · simp [Registry.forms]
    · intro e he
      have hform := h e.pattern.form (List.mem_map.2 ⟨e, he, rfl⟩)
      simpa using hform
  · simp

theorem jitForms_optimizeAll {r : Registry} (h : ∀ id ∈ r.forms, id < w.formList.length)
    (enabled : Bool) (sc : Scope Duty) :
    (optimizeAll E r enabled sc w).2.jitForms =
      w.jitForms ++ if enabled && E.jitAvailable then r.forms else [] := by
  have hjit : (r.forms.map EngineCall.jit).filterMap jitForm? = r.forms := by
    rw [List.filterMap_map]
    exact List.filterMap_some
  rw [jitForms, calls_optimizeAll h, List.filterMap_append]
  split
  · rw [hjit]
    rfl
  · rfl

end Optimization

end PatternSuite
