import Mathlib.Data.List.Forall2
import PatternSuite.Proofs.Steady

/-!
# Engines that answer alike

Two engines may differ in what optimization does to their forms and still answer all other
questions alike.

* `Ledger.formList`: the forms of a ledger; only a new form and an optimization change it.
* `Twins`: two engines that answer alike on related forms, however often either optimizes.
* `Optimized`: what optimizations make of the forms of a ledger.
* `Twins.compile_eq`, `Twins.execute_eq`, `Twins.executeInto_eq`, `Twins.executeFrom_eq`:
  compilations and matches that come out alike.
-/

namespace PatternSuite

variable {κ σ μ τ : Type}

/-! ## The forms of a ledger -/

namespace Ledger

/-- The forms in the order in which they were made. -/
def formList (w : Ledger κ σ) : List κ := w.forms.toList.map (·.form)

theorem formList_modify (w : Ledger κ σ) (id : Nat) (f : Holding κ → Holding κ)
    (hf : ∀ h, (f h).form = h.form) :
    formList { w with forms := w.forms.modify id f } = w.formList := by
  apply List.ext_getElem?
  intro i
  simp only [formList, Array.toList_modify, List.getElem?_map, List.getElem?_modify]
  split
  · cases w.forms.toList[i]? with
    | none => rfl
    | some h => exact congrArg some (hf h)
  · simp

@[simp] theorem formList_note (e : Event) (w : Ledger κ σ) :
    (w.note e).formList = w.formList := rfl

@[simp] theorem formList_log (level : LogLevel) (text : String) (w : Ledger κ σ) :
    (w.log level text).formList = w.formList := rfl

@[simp] theorem formList_ask {α : Type} (call : EngineCall) (answer : σ → α × σ)
    (w : Ledger κ σ) : (w.ask call answer).2.formList = w.formList := rfl

@[simp] theorem formList_retain (id : Nat) (w : Ledger κ σ) :
    (w.retain id).formList = w.formList := formList_modify w id _ fun _ => rfl

@[simp] theorem formList_letGo (id : Nat) (w : Ledger κ σ) :
    (w.letGo id).formList = w.formList := by
  obtain ⟨f, hf, hletGo | hletGo⟩ := letGo_cases id w
  · rw [hletGo]
    exact formList_modify w id f hf
  · rw [hletGo]
    exact formList_modify w id f hf

@[simp] theorem formList_retainAll (ids : List Nat) (w : Ledger κ σ) :
    (w.retainAll ids).formList = w.formList := by
  induction ids generalizing w with
  | nil => rfl
  | cons id ids ih => exact (ih _).trans (formList_retain id w)

@[simp] theorem formList_letGoAll (ids : List Nat) (w : Ledger κ σ) :
    (w.letGoAll ids).formList = w.formList :=
  letGoAll_induct (P := fun v => v.formList = w.formList)
    (fun h id => (formList_letGo id _).trans h) rfl ids

@[simp] theorem formList_follow (w : Ledger κ σ) (ms : List (Moment Duty)) :
    (w.follow ms).formList = w.formList :=
  follow_induct (P := fun v => v.formList = w.formList) (fun h _ => h)
    (fun h id => (formList_letGo id _).trans h) rfl ms

@[simp] theorem formList_endScope (sc : Option (Scope Duty)) (w : Ledger κ σ) :
    (w.endScope sc).formList = w.formList := by
  cases sc with
  | none => rfl
  | some sc => exact formList_follow w _

@[simp] theorem formList_letGoRegistry (r : Option Registry) (w : Ledger κ σ) :
    (w.letGoRegistry r).formList = w.formList := by
  cases r with
  | none => rfl
  | some r => exact formList_letGoAll _ w

@[simp] theorem formList_takenOver (r : Registry) (sc : Scope Duty) (w : Ledger κ σ) :
    (w.takenOver r sc).formList = w.formList :=
  (formList_follow _ _).trans (formList_retainAll r.forms w)

theorem form?_eq (id : Nat) (w : Ledger κ σ) : w.form? id = w.formList[id]? := by
  simp [form?, formList]

@[simp] theorem formList_adopt (form : κ) (w : Ledger κ σ) :
    (w.adopt form).2.formList = w.formList ++ [form] := by
  simp [adopt, formList]

theorem adopt_fst (form : κ) (w : Ledger κ σ) : (w.adopt form).1 = w.formList.length := by
  simp [adopt, formList]

@[simp] theorem formList_setForm (id : Nat) (form : κ) (w : Ledger κ σ) :
    (w.setForm id form).formList = w.formList.set id form := by
  apply List.ext_getElem?
  intro i
  simp only [setForm, formList, Array.toList_modify, List.getElem?_map, List.getElem?_modify,
    List.getElem?_set']
  by_cases hi : id = i
  · subst hi
    cases w.forms.toList[id]? <;> simp
  · simp [hi]

end Ledger

/-! ## Engines that answer alike -/

/-- The same error, or related results. -/
inductive Alike {ε : Type} (F : κ → μ → Prop) : Except ε κ → Except ε μ → Prop
  | error (e : ε) : Alike F (.error e) (.error e)
  | ok {a : κ} {b : μ} (h : F a b) : Alike F (.ok a) (.ok b)

/-- Two engines that answer alike on forms that `F` relates. What a search logs may differ, and
either may optimize a form at any time. -/
structure Twins (F : κ → μ → Prop) (E : Engine κ σ) (D : Engine μ τ) : Prop where
  compile : ∀ p o s t, Alike F (E.compile p o s).1 (D.compile p o t).1
  captureCount : ∀ {a b}, F a b → ∀ s t, (E.captureCount a s).1 = (D.captureCount b t).1
  nameCount : ∀ {a b}, F a b → ∀ s t, (E.nameCount a s).1 = (D.nameCount b t).1
  nameEntrySize : ∀ {a b}, F a b → ∀ s t, (E.nameEntrySize a s).1 = (D.nameEntrySize b t).1
  nameTable : ∀ {a b}, F a b → ∀ s t, (E.nameTable a s).1 = (D.nameTable b t).1
  outcome : ∀ {a b}, F a b → ∀ input slots s t,
    (E.search a input slots s).1.outcome = (D.search b input slots t).1.outcome
  stores : ∀ {a b}, F a b → ∀ input slots s t,
    (E.search a input slots s).1.stores = (D.search b input slots t).1.stores
  jitLeft : ∀ {a b}, F a b → ∀ s, F (E.jitCompile a s).1.2 b
  jitRight : ∀ {a b}, F a b → ∀ t, F a (D.jitCompile b t).1.2

/-- What optimizations make of some forms. -/
inductive Optimized (E : Engine κ σ) : List κ → List κ → Prop
  | refl (l : List κ) : Optimized E l l
  | step {l l' : List κ} (id : Nat) {a : κ} (s : σ) (h : l[id]? = some a)
      (h' : Optimized E (l.set id (E.jitCompile a s).1.2) l') : Optimized E l l'

theorem Optimized.trans {E : Engine κ σ} {l l' l'' : List κ} (h : Optimized E l l')
    (k : Optimized E l' l'') : Optimized E l l'' := by
  induction h with
  | refl => exact k
  | step id s h _ ih => exact .step id s h (ih k)

theorem Optimized.of_eq {E : Engine κ σ} {l l' : List κ} (h : l' = l) : Optimized E l l' :=
  h.symm ▸ .refl l

section Related

variable {F : κ → μ → Prop} {l : List κ} {m : List μ}

/-- At each place of related lists stand related things, or nothing. -/
theorem forall₂_getElem? (h : List.Forall₂ F l m) (i : Nat) :
    (l[i]? = none ∧ m[i]? = none) ∨ ∃ a b, l[i]? = some a ∧ m[i]? = some b ∧ F a b := by
  induction h generalizing i with
  | nil => exact .inl ⟨rfl, rfl⟩
  | cons hab _ ih =>
    cases i with
    | zero => exact .inr ⟨_, _, rfl, rfl, hab⟩
    | succ i => exact ih i

theorem forall₂_set (h : List.Forall₂ F l m) (i : Nat) {x : κ}
    (hx : ∀ b, m[i]? = some b → F x b) : List.Forall₂ F (l.set i x) m := by
  induction h generalizing i with
  | nil => exact .nil
  | cons hab h ih =>
    cases i with
    | zero => exact .cons (hx _ rfl) h
    | succ i => exact .cons hab (ih i hx)

variable {E : Engine κ σ} {D : Engine μ τ}

theorem Alike.symm {ε : Type} {x : Except ε κ} {y : Except ε μ} (h : Alike F x y) :
    Alike (flip F) y x := by
  cases h with
  | error e => exact .error e
  | ok h => exact .ok h

theorem Twins.symm (h : Twins F E D) : Twins (flip F) D E where
  compile p o s t := (h.compile p o t s).symm
  captureCount hab s t := (h.captureCount hab t s).symm
  nameCount hab s t := (h.nameCount hab t s).symm
  nameEntrySize hab s t := (h.nameEntrySize hab t s).symm
  nameTable hab s t := (h.nameTable hab t s).symm
  outcome hab input slots s t := (h.outcome hab input slots t s).symm
  stores hab input slots s t := (h.stores hab input slots t s).symm
  jitLeft hab := h.jitRight hab
  jitRight hab := h.jitLeft hab

/-- Optimizations on one side keep the forms related. -/
theorem Twins.left (hE : Twins F E D) {l' : List κ} (h : List.Forall₂ F l m)
    (hl : Optimized E l l') : List.Forall₂ F l' m := by
  induction hl with
  | refl => exact h
  | step id s hid _ ih =>
    refine ih (forall₂_set h id fun b hb => ?_)
    rcases forall₂_getElem? h id with ⟨hnone, -⟩ | ⟨a, b', ha, hb', hab⟩
    · rw [hnone] at hid
      cases hid
    · obtain rfl := Option.some.inj (hid.symm.trans ha)
      obtain rfl := Option.some.inj (hb.symm.trans hb')
      exact hE.jitLeft hab s

theorem Twins.right (hE : Twins F E D) {m' : List μ} (h : List.Forall₂ F l m)
    (hm : Optimized D m m') : List.Forall₂ F l m' :=
  (hE.symm.left h.flip hm).flip

/-- Optimizations on both sides keep the forms related. -/
theorem Twins.both (hE : Twins F E D) {l' : List κ} {m' : List μ} (h : List.Forall₂ F l m)
    (hl : Optimized E l l') (hm : Optimized D m m') : List.Forall₂ F l' m' :=
  hE.right (hE.left h hl) hm

end Related

/-- Everything that asks the engine does no more to the forms than optimize them. -/
theorem optimized_steady (E : Engine κ σ) (l : List κ) :
    Steady E fun w => Optimized E l w.formList where
  ask h _ _ _ := h
  log h _ := h
  jit {w id form} h hform := by
    rw [Ledger.form?_eq] at hform
    rw [Ledger.formList_setForm]
    exact h.trans (.step id w.state hform (.refl _))

/-! ## Compilations and matches that come out alike -/

section Calls

variable {F : κ → μ → Prop} {E : Engine κ σ} {D : Engine μ τ} {w w' : Ledger κ σ}
  {v v' : Ledger μ τ}

/-- The same question put to both engines. -/
theorem ask_eq {α : Type} {call call' : EngineCall} {answer : σ → α × σ} {answer' : τ → α × τ}
    {x y : α} (h : ∀ s t, (answer s).1 = (answer' t).1) (hw : w.ask call answer = (x, w'))
    (hv : v.ask call' answer' = (y, v')) : x = y := by
  have hx : (answer w.state).1 = x := congrArg Prod.fst hw
  have hy : (answer' v.state).1 = y := congrArg Prod.fst hv
  rw [← hx, ← hy]
  exact h w.state v.state

/-- What is found out about two forms is the same if all questions about them get the same answers,
whatever numbers the forms have. -/
theorem describe_agree {a : κ} {b : μ}
    (hcaptures : ∀ s t, (E.captureCount a s).1 = (D.captureCount b t).1)
    (hnamed : ∀ s t, (E.nameCount a s).1 = (D.nameCount b t).1)
    (hsize : ∀ s t, (E.nameEntrySize a s).1 = (D.nameEntrySize b t).1)
    (htable : ∀ s t, (E.nameTable a s).1 = (D.nameTable b t).1) (id id' : Nat) (source : String)
    (w : Ledger κ σ) (v : Ledger μ τ) :
    (describe E a id source w).1 = (describe D b id' source v).1 := by
  unfold describe
  -- each answer decides whether the next question is put
  rcases hw : w.ask (.info .captureCount id) (E.captureCount a) with ⟨x, w⟩
  rcases hv : v.ask (.info .captureCount id') (D.captureCount b) with ⟨y, v⟩
  obtain rfl := ask_eq hcaptures hw hv
  cases x with
  | error code => rfl
  | ok captures =>
  dsimp only
  split
  · rfl
  rcases hw : w.ask (.info .nameCount id) (E.nameCount a) with ⟨x, w⟩
  rcases hv : v.ask (.info .nameCount id') (D.nameCount b) with ⟨y, v⟩
  obtain rfl := ask_eq hnamed hw hv
  cases x with
  | error code => rfl
  | ok named =>
  dsimp only
  split
  · rfl
  rcases hw : w.ask (.info .nameEntrySize id) (E.nameEntrySize a) with ⟨x, w⟩
  rcases hv : v.ask (.info .nameEntrySize id') (D.nameEntrySize b) with ⟨y, v⟩
  obtain rfl := ask_eq hsize hw hv
  cases x with
  | error code => rfl
  | ok entrySize =>
  dsimp only
  rcases hw : w.ask (.info .nameTable id) (E.nameTable a) with ⟨x, w⟩
  rcases hv : v.ask (.info .nameTable id') (D.nameTable b) with ⟨y, v⟩
  obtain rfl := ask_eq htable hw hv
  cases x <;> rfl

theorem Twins.describe_eq (hE : Twins F E D) {a : κ} {b : μ} (hab : F a b) (id : Nat)
    (source : String) (w : Ledger κ σ) (v : Ledger μ τ) :
    (describe E a id source w).1 = (describe D b id source v).1 :=
  describe_agree (hE.captureCount hab) (hE.nameCount hab) (hE.nameEntrySize hab)
    (hE.nameTable hab) id id source w v

/-- Two compilations of one pattern come out alike. -/
theorem Twins.compilePattern_eq (hE : Twins F E D)
    (h : List.Forall₂ F w.formList v.formList) (c : Compiler) (pattern : Pattern)
    (options : Options) (room : Bool) :
    (c.compilePattern E pattern options w room).1 = (c.compilePattern D pattern options v room).1 ∧
      (c.compilePattern E pattern options w room).2.1 =
        (c.compilePattern D pattern options v room).2.1 ∧
      List.Forall₂ F (c.compilePattern E pattern options w room).2.2.formList
        (c.compilePattern D pattern options v room).2.2.formList := by
  unfold Compiler.compilePattern
  split
  · exact ⟨rfl, rfl, h⟩
  rcases hw : w.ask (.compile pattern options) (E.compile pattern options) with ⟨x, w₁⟩
  rcases hv : v.ask (.compile pattern options) (D.compile pattern options) with ⟨y, v₁⟩
  have hx : (E.compile pattern options w.state).1 = x := congrArg Prod.fst hw
  have hy : (D.compile pattern options v.state).1 = y := congrArg Prod.fst hv
  have hxy := hE.compile pattern options w.state v.state
  rw [hx, hy] at hxy
  have h₁ : List.Forall₂ F w₁.formList v₁.formList :=
    hE.both h ((optimized_steady E _).of_ask (.refl _) hw)
      ((optimized_steady D _).of_ask (.refl _) hv)
  cases hxy with
  | error e => exact ⟨rfl, rfl, h₁⟩
  | @ok a b hab =>
  -- the ledgers have equally many forms, so the new form has one number in both
  have hid : (w₁.adopt a).1 = (v₁.adopt b).1 := by
    rw [Ledger.adopt_fst, Ledger.adopt_fst, h₁.length_eq]
  have hadopt : List.Forall₂ F (w₁.adopt a).2.formList (v₁.adopt b).2.formList := by
    rw [Ledger.formList_adopt, Ledger.formList_adopt]
    exact List.rel_append h₁ (.cons hab .nil)
  have hdescribe := hE.describe_eq hab (w₁.adopt a).1 pattern.text (w₁.adopt a).2 (v₁.adopt b).2
  have hforms := hE.both hadopt
    ((optimized_steady E _).describe (.refl _) a (w₁.adopt a).1 pattern.text)
    ((optimized_steady D _).describe (.refl _) b (w₁.adopt a).1 pattern.text)
  dsimp only
  rw [← hid]
  rcases hw' : describe E a (w₁.adopt a).1 pattern.text (w₁.adopt a).2 with ⟨x', w₂⟩
  rcases hv' : describe D b (w₁.adopt a).1 pattern.text (v₁.adopt b).2 with ⟨y', v₂⟩
  rw [hw', hv'] at hdescribe hforms
  obtain rfl := hdescribe
  cases x' with
  | error e => exact ⟨rfl, rfl, by simpa using hforms⟩
  | ok groups =>
  obtain ⟨captures, names⟩ := groups
  dsimp only
  cases c.registry with
  | none => exact ⟨rfl, rfl, hforms⟩
  | some r =>
  cases room with
  | false => exact ⟨rfl, rfl, by simpa using hforms⟩
  | true => exact ⟨rfl, rfl, by simpa using hforms⟩

/-- **Two compilations of one request come out alike.** -/
theorem Twins.compile_eq (hE : Twins F E D) (h : List.Forall₂ F w.formList v.formList)
    (c : Compiler) (request : CompileRequest) (room : Bool) :
    (c.compile E request w room).1 = (c.compile D request v room).1 ∧
      (c.compile E request w room).2.1 = (c.compile D request v room).2.1 ∧
      (c.compile E request w room).2.2.1 = (c.compile D request v room).2.2.1 ∧
      List.Forall₂ F (c.compile E request w room).2.2.2.formList
        (c.compile D request v room).2.2.2.formList := by
  obtain ⟨hout, hc, hforms⟩ := hE.compilePattern_eq h c request.pattern request.options room
  unfold Compiler.compile
  rcases hw : c.compilePattern E request.pattern request.options w room with ⟨x, c₁, w₁⟩
  rcases hv : c.compilePattern D request.pattern request.options v room with ⟨y, c₂, v₁⟩
  rw [hw, hv] at hout hc hforms
  obtain rfl : x = y := hout
  obtain rfl : c₁ = c₂ := hc
  cases x with
  | error e => exact ⟨rfl, rfl, rfl, hforms⟩
  | ok p => exact ⟨rfl, rfl, rfl, hforms⟩

theorem Twins.search_eq (hE : Twins F E D) (h : List.Forall₂ F w.formList v.formList)
    (p : CompiledPattern) (input : String) (slots : Nat) :
    (search E p input slots w).1.outcome = (search D p input slots v).1.outcome ∧
      (search E p input slots w).1.stores = (search D p input slots v).1.stores := by
  unfold search
  rw [Ledger.form?_eq, Ledger.form?_eq]
  rcases forall₂_getElem? h p.form with ⟨ha, hb⟩ | ⟨a, b, ha, hb, hab⟩
  · rw [ha, hb]
    exact ⟨rfl, rfl⟩
  · rw [ha, hb]
    exact ⟨hE.outcome hab input slots w.state v.state, hE.stores hab input slots w.state v.state⟩

theorem concludeSearch_eq (p : CompiledPattern) (input : String) {x y : SearchAnswer}
    (h : x.outcome = y.outcome) (w : Ledger κ σ) (v : Ledger μ τ) :
    (concludeSearch p input x w).1 = (concludeSearch p input y v).1 := by
  unfold concludeSearch
  rw [h]
  cases y.outcome with
  | error f => rfl
  | ok found => cases found <;> rfl

/-- **Two matches of one pattern come out alike.** -/
theorem Twins.execute_eq (hE : Twins F E D) (h : List.Forall₂ F w.formList v.formList)
    (p : CompiledPattern) (input : String) :
    (execute E p input w).1 = (execute D p input v).1 :=
  concludeSearch_eq p input (hE.search_eq h p input 0).1 _ _

theorem Twins.executeInto_eq (hE : Twins F E D) (h : List.Forall₂ F w.formList v.formList)
    (p : CompiledPattern) (input : String) (buffer : Captures) :
    (executeInto E p input buffer w).1 = (executeInto D p input buffer v).1 ∧
      (executeInto E p input buffer w).2.1 = (executeInto D p input buffer v).2.1 := by
  obtain ⟨hout, hstores⟩ := hE.search_eq h p input buffer.capacity
  refine ⟨concludeSearch_eq p input hout _ _, ?_⟩
  unfold executeInto
  dsimp only
  rw [hout, hstores]

theorem Twins.executeFrom_eq (hE : Twins F E D) (h : List.Forall₂ F w.formList v.formList)
    (index : Nat) (ps : List CompiledPattern) (input : String) :
    (executeFrom E index ps input w).1 = (executeFrom D index ps input v).1 := by
  induction ps generalizing index w v with
  | nil => rfl
  | cons p ps ih =>
    have hp := hE.execute_eq h p input
    -- the next pattern is looked up in ledgers that are still related
    have hforms := hE.both h ((optimized_steady E _).execute (.refl _) p input)
      ((optimized_steady D _).execute (.refl _) p input)
    unfold executeFrom
    rcases hw : execute E p input w with ⟨x, w₁⟩
    rcases hv : execute D p input v with ⟨y, v₁⟩
    rw [hw, hv] at hp hforms
    obtain rfl : x = y := hp
    cases x with
    | error e => rfl
    | ok outcome =>
      cases outcome with
      | matched => rfl
      | notMatched => exact ih hforms (index + 1)

end Calls

end PatternSuite
