import PatternSuite.Engine.Scripted
import PatternSuite.Proofs.Calls
import PatternSuite.Proofs.ErrorBuffers
import PatternSuite.Proofs.Holders

/-!
# A compilation is atomic

A compilation that fails, at whatever stage, changes nothing but the message in its request. If the
engine had given a form for the pattern, the form has no holder left and has been released, once. A
compilation that succeeds leaves its request alone and adds one entry at the end of the registry, if
there still is a registry.

* `madeForm?`: the form that the engine gives for a pattern.
* `releasedForms_of_describe`: questions release nothing.
* `Compilation.disposed`: what becomes of the form of a compilation that fails.
* `compilation_atomic`: any compilation.
-/

namespace PatternSuite

open Ledger Session

variable {κ σ : Type}

namespace Ledger

theorem releasedForms_note (e : Event) (w : Ledger κ σ) :
    (w.note e).releasedForms = w.releasedForms ++ (releasedForm e).toList := by
  rw [releasedForms, note, Array.toList_push, List.filterMap_append]
  cases e <;> rfl

@[simp] theorem releasedForms_ask {α : Type} (call : EngineCall) (answer : σ → α × σ)
    (w : Ledger κ σ) : (w.ask call answer).2.releasedForms = w.releasedForms :=
  (releasedForms_note (.called call) { w with state := (answer w.state).2 }).trans
    (List.append_nil _)

@[simp] theorem releasedForms_adopt (form : κ) (w : Ledger κ σ) :
    (w.adopt form).2.releasedForms = w.releasedForms := rfl

@[simp] theorem releasedForms_retain (id : Nat) (w : Ledger κ σ) :
    (w.retain id).releasedForms = w.releasedForms := rfl

/-- The only holder of the newest form lets it go. -/
theorem letGo_newest {w : Ledger κ σ} {forms : Array (Holding κ)} {form : κ}
    (h : w.forms = forms.push ⟨form, 1⟩) :
    (w.letGo forms.size).forms = forms.push ⟨form, 0⟩ ∧
      (w.letGo forms.size).releasedForms = w.releasedForms ++ [forms.size] := by
  have hget : w.forms[forms.size]? = some ⟨form, 1⟩ := by rw [h, Array.getElem?_push_size]
  simp only [letGo, hget, if_true]
  refine ⟨?_, releasedForms_note _ _⟩
  rw [h]
  apply Array.ext_getElem?
  intro i
  simp only [note, Array.getElem?_modify, Array.getElem?_push]
  split
  · next hi => simp [← hi]
  · next hi => rw [if_neg (Ne.symm hi), if_neg (Ne.symm hi)]

end Ledger

/-! ## Compilations that fail -/

/-- The form that the engine gives for a pattern; it is not asked about an empty one. -/
def madeForm? (E : Engine κ σ) (pattern : Pattern) (options : Options) (state : σ) : Option κ :=
  if pattern.isEmpty then none else (E.compile pattern options state).1.toOption

/-- A form that was made has no holder any more and was released, once; nothing else has changed
hands. -/
def Disposed (made : Option κ) (w w' : Ledger κ σ) : Prop :=
  match made with
  | none => w'.forms = w.forms ∧ w'.releasedForms = w.releasedForms
  | some form => w'.forms = w.forms.push ⟨form, 0⟩ ∧
      w'.releasedForms = w.releasedForms ++ [w.compiled]

section Compilation

variable {E : Engine κ σ} {pattern : Pattern} {options : Options} {c c' : Compiler} {room : Bool}
  {w w' : Ledger κ σ}

/-- Questions release nothing. -/
theorem releasedForms_of_describe {form : κ} {x : Except PatternError (Nat × Option NameTable)}
    (h : describe E form w.compiled pattern.text (adopted E pattern options form w) = (x, w')) :
    w'.releasedForms = w.releasedForms := by
  have hdescribe : (describe E form w.compiled pattern.text
      (adopted E pattern options form w)).2.releasedForms = w.releasedForms :=
    describe_induct (P := fun v => v.releasedForms = w.releasedForms)
      (fun _ _ hv => (releasedForms_ask ..).trans hv) (by simp [adopted]) form pattern.text
  rwa [h] at hdescribe

/-- A form that was described and then let go. -/
theorem disposed_of_describe (hne : pattern.isEmpty = false) {form : κ}
    (hform : (E.compile pattern options w.state).1 = .ok form)
    {x : Except PatternError (Nat × Option NameTable)}
    (h : describe E form w.compiled pattern.text (adopted E pattern options form w) = (x, w')) :
    Disposed (madeForm? E pattern options w.state) w (w'.letGo w.compiled) := by
  have hmade : madeForm? E pattern options w.state = some form := by
    simp [madeForm?, hne, hform, Except.toOption]
  obtain ⟨hforms, hreleased⟩ := letGo_newest (forms_of_describe h)
  rw [hmade]
  refine ⟨hforms, hreleased.trans ?_⟩
  rw [releasedForms_of_describe h]
  rfl

namespace Compilation

/-- **A compilation that fails** disposes of the form that was made for it, at whatever stage. -/
theorem disposed {e : PatternError}
    (h : Compilation E pattern options c w room (.error e, c', w')) :
    Disposed (madeForm? E pattern options w.state) w w' := by
  cases h with
  | empty hempty =>
    have hmade : madeForm? E pattern options w.state = none := by simp [madeForm?, hempty]
    rw [hmade]
    exact ⟨rfl, rfl⟩
  | refused hne hform =>
    have hmade : madeForm? E pattern options w.state = none := by
      simp [madeForm?, hne, hform, Except.toOption]
    rw [hmade]
    exact ⟨rfl, releasedForms_ask ..⟩
  | unknown hne hform hdescribe => exact disposed_of_describe hne hform hdescribe
  | noRoom hne hform hdescribe => exact disposed_of_describe hne hform hdescribe

/-- A compilation that succeeds releases nothing. -/
theorem releasedForms_of_ok {p : CompiledPattern}
    (h : Compilation E pattern options c w room (.ok p, c', w')) :
    w'.releasedForms = w.releasedForms := by
  cases h with
  | unregistered _ _ hdescribe => exact releasedForms_of_describe hdescribe
  | registered _ _ hdescribe =>
    rw [releasedForms_retain]
    exact releasedForms_of_describe hdescribe

end Compilation

end Compilation

/-! ## Requests -/

/-- A failure writes its message into the request, and a success nothing. -/
theorem request_compile (E : Engine κ σ) (request : CompileRequest) (c : Compiler)
    (w : Ledger κ σ) (room : Bool) :
    (c.compile E request w room).2.1 =
      match (c.compile E request w room).1 with
      | .ok _ => request
      | .error e => { request with error := request.error.write e.message } := by
  unfold Compiler.compile
  split <;> rfl

/-- **What a compilation that failed leaves behind.** -/
structure Undone (E : Engine κ σ) (request : CompileRequest) (c : Compiler) (w : Ledger κ σ)
    (e : PatternError) (request' : CompileRequest) (c' : Compiler) (w' : Ledger κ σ) : Prop where
  compiler : c' = c
  pattern : request'.pattern = request.pattern
  options : request'.options = request.options
  capacity : request'.error.capacity = request.error.capacity
  message : LongestFit request.error.capacity e.message request'.error.message
  disposed : Disposed (madeForm? E request.pattern request.options w.state) w w'
  /-- No registry and nobody else has the form that was made. -/
  unreachable : ∀ n held, Balanced n (compilerForms c ++ held) w →
    w.compiled ∉ compilerForms c' ++ held

/-- **What a compilation that succeeded leaves behind.** -/
structure Recorded (request : CompileRequest) (c : Compiler) (w : Ledger κ σ)
    (p : CompiledPattern) (request' : CompileRequest) (c' : Compiler) (w' : Ledger κ σ) : Prop where
  unchanged : request' = request
  /-- One more entry at the end of the registry, if there is one. -/
  registry : c'.registry = c.registry.map fun r => ⟨r.entries ++ [⟨p, request.pattern.text⟩]⟩
  released : w'.releasedForms = w.releasedForms

/-- **A compilation is atomic**, for any engine and any compiler, whether its registry is open or
consumed and has room or not. -/
theorem compilation_atomic (E : Engine κ σ) (request : CompileRequest) (c : Compiler)
    (w : Ledger κ σ) (room : Bool) :
    (∀ e request' c' w', c.compile E request w room = (.error e, request', c', w') →
        Undone E request c w e request' c' w') ∧
      ∀ p request' c' w', c.compile E request w room = (.ok p, request', c', w') →
        Recorded request c w p request' c' w' := by
  have hcomp := compile_compilation E request c w room
  have hrequest := request_compile E request c w room
  constructor
  · intro e request' c' w' hout
    rw [hout] at hcomp hrequest
    obtain rfl : request' = { request with error := request.error.write e.message } := hrequest
    obtain rfl := hcomp.of_error
    refine ⟨rfl, rfl, rfl, rfl, longestFit_write _ _, hcomp.disposed, fun n held hbooks hmem => ?_⟩
    -- a form that is held has been made before
    have hlt := hbooks.lt_of_mem hmem
    rw [hbooks.compiled] at hlt
    exact absurd hlt (Nat.lt_irrefl n)
  · intro p request' c' w' hout
    rw [hout] at hcomp hrequest
    obtain ⟨hsource, -, -, hregistry⟩ := hcomp.of_ok
    refine ⟨hrequest, ?_, hcomp.releasedForms_of_ok⟩
    rw [hregistry, ← hsource]
    rfl

/-- A pattern whose second question about captures fails, when the registry has another pattern and
the request an old message; and one that is compiled when the registry is consumed. -/
theorem compilation_atomic_scripted :
    let script : Script := { groups := [("b", [some "x"])], infoFailures := [("b", .nameCount, 7)] }
    let c : Compiler := ⟨some ⟨[⟨⟨0, "a", 0, none⟩, "a"⟩]⟩⟩
    let w : Ledger ScriptedForm Unit := { state := (), forms := #[⟨⟨"a", false⟩, 1⟩] }
    let request (text : String) : CompileRequest :=
      { pattern := ⟨.basic, text⟩, error := ⟨7, "refused"⟩ }
    let failed := c.compile script.engine (request "b") w
    let compiled := (⟨none⟩ : Compiler).compile script.engine (request "a") w
    (failed.1 = .error (.patternInfo .nameCount "b" 7) ∧ failed.2.1.error.message = "pattern" ∧
        Undone script.engine (request "b") c w (.patternInfo .nameCount "b" 7) failed.2.1
          failed.2.2.1 failed.2.2.2) ∧
      compiled.1 = .ok ⟨1, "a", 0, none⟩ ∧
        Recorded (request "a") ⟨none⟩ w ⟨1, "a", 0, none⟩ compiled.2.1 compiled.2.2.1
          compiled.2.2.2 := by
  intro script c w request failed compiled
  refine ⟨⟨rfl, by decide +kernel, ?_⟩, rfl, ?_⟩
  · exact (compilation_atomic script.engine (request "b") c w true).1 _ _ _ _ rfl
  · exact (compilation_atomic script.engine (request "a") ⟨none⟩ w true).2 _ _ _ _ rfl

end PatternSuite
