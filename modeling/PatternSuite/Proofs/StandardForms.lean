import PatternSuite.Engine.Standard

/-!
# Forms of the standard engine

A form keeps the text and the options that its matcher compiled, and its table, if there is one,
was built from the same. Both get the same flags for the options. If tables agree with the matcher
on texts and flags, it does not show in a search whether there is one.

* `Standard.tableFlags_eq`, `Standard.faultFlags_eq`: a table is built, and a fault looked for, with
  the flags that the pattern was compiled with.
* `Standard.compile_cases`, `Standard.jitCompile_cases`: what a compilation, and an optimization,
  can give.
* `Standard.search_eq_matcher`: a search with a table is a search without it.
* `Standard.SameButTable`: forms that differ at most in their tables.
-/

namespace PatternSuite

namespace Standard

variable {M : Matchers}

/-- **A table is built with the flags of its pattern.** -/
theorem tableFlags_eq (o : Options) : tableFlags o = basicFlags o := rfl

/-- **The fault of a pattern is looked for with the flags that it was refused with.** -/
theorem faultFlags_eq (o : Options) : faultFlags o = basicFlags o := rfl

/-- A table that was built for a basic pattern with the same flags answers as the matcher does, or
gives up. -/
def TablesAgree (M : Matchers) : Prop :=
  ∀ limit text flags b t, M.compileBasic text flags = .ok b →
    M.buildTable limit text flags = .ok t → ∀ input,
      match M.searchTable t input with
      | .found => M.basicIsMatch b input = true
      | .none => M.basicIsMatch b input = false
      | .gaveUp _ => True

/-- A form that searches as its matcher does: its text and options are those that the matcher
compiled, and the table, if there is one, was built from them. -/
structure Faithful (f : Form M) : Prop where
  source : ∀ b, f.compiled = .basic b → M.compileBasic f.text (basicFlags f.options) = .ok b
  table : ∀ t, f.table = some t → ∃ b limit, f.compiled = .basic b ∧
    M.buildTable limit f.text (tableFlags f.options) = .ok t

/-- Forms that differ at most in their tables. -/
structure SameButTable (f g : Form M) : Prop where
  compiled : f.compiled = g.compiled
  text : f.text = g.text
  options : f.options = g.options
  left : Faithful f
  right : Faithful g

theorem compileBasic_eq_ok {text : String} {options : Options} {c : Compiled M}
    (h : compileBasic M text options = .ok c) :
    ∃ b, c = .basic b ∧ M.compileBasic text (basicFlags options) = .ok b := by
  unfold compileBasic at h
  split at h
  · next b hb => exact ⟨b, (Except.ok.inj h).symm, hb⟩
  · cases h

theorem compileFancy_ne_basic {limit : Nat} {text : String} {options : Options} {c : Compiled M}
    (h : compileFancy M limit text options = .ok c) (b : M.Basic) : c ≠ .basic b := by
  unfold compileFancy at h
  split at h
  · cases h
    simp
  · cases h

/-- What a compilation can give. -/
theorem compile_cases {limit : Nat} {p : Pattern} {options : Options} {f : Form M}
    (h : compile M limit p options = .ok f) :
    ∃ c, f = ⟨c, p.text, options, none⟩ ∧
      (compileBasic M p.text options = .ok c ∨ compileFancy M limit p.text options = .ok c) := by
  unfold compile at h
  dsimp only at h
  split at h
  · cases hb : compileBasic M p.text options with
    | error e => simp [hb, Except.map] at h
    | ok c =>
      simp only [hb, Except.map, Except.ok.injEq] at h
      exact ⟨c, h.symm, .inl rfl⟩
  · cases hc : compileFancy M limit p.text options with
    | error e => simp [hc, Except.map] at h
    | ok c =>
      simp only [hc, Except.map, Except.ok.injEq] at h
      exact ⟨c, h.symm, .inr rfl⟩
  · cases hb : compileBasic M p.text options with
    | ok c =>
      simp only [hb, Except.map, Except.ok.injEq] at h
      exact ⟨c, h.symm, .inl rfl⟩
    | error e =>
      cases hc : compileFancy M limit p.text options with
      | error e => simp [hb, hc, Except.map] at h
      | ok c =>
        simp only [hb, hc, Except.map, Except.ok.injEq] at h
        exact ⟨c, h.symm, .inr rfl⟩

/-- What was compiled by the basic matcher was compiled from the form's text and options. -/
theorem compile_faithful {limit : Nat} {p : Pattern} {options : Options} {f : Form M}
    (h : compile M limit p options = .ok f) : Faithful f := by
  obtain ⟨c, rfl, hc⟩ := compile_cases h
  refine ⟨fun b hb => ?_, fun t ht => nomatch ht⟩
  rcases hc with hc | hc
  · obtain ⟨b', rfl, hcompile⟩ := compileBasic_eq_ok hc
    cases hb
    exact hcompile
  · exact absurd hb (compileFancy_ne_basic hc b)

/-- What an optimization can give: the form is refused, or has a table already, or gets one. -/
theorem jitCompile_cases (s : Settings) (f : Form M) :
    (∃ reason, jitCompile s f = (some reason, f)) ∨
      (s.jit = true ∧ f.isJit = true ∧ jitCompile s f = (none, f)) ∨
      s.jit = true ∧ ∃ b t, f.compiled = .basic b ∧
        M.buildTable s.tableLimit f.text (tableFlags f.options) = .ok t ∧
        jitCompile s f = (none, { f with table := some t }) := by
  unfold jitCompile
  split
  · exact .inl ⟨_, rfl⟩
  next hjit =>
  have hon : s.jit = true := by simpa using hjit
  split
  · next htable => exact .inr (.inl ⟨hon, htable, rfl⟩)
  split
  · exact .inl ⟨_, rfl⟩
  next b hb =>
  split
  · next t ht => exact .inr (.inr ⟨hon, b, t, hb, ht, rfl⟩)
  · exact .inl ⟨_, rfl⟩

theorem jitCompile_faithful (s : Settings) {f : Form M} (h : Faithful f) :
    Faithful (jitCompile s f).2 ∧ (jitCompile s f).2.compiled = f.compiled ∧
      (jitCompile s f).2.text = f.text ∧ (jitCompile s f).2.options = f.options := by
  rcases jitCompile_cases s f with ⟨reason, hrefused⟩ | ⟨-, -, hkept⟩ | ⟨-, b, t, hb, ht, hbuilt⟩
  · rw [hrefused]
    exact ⟨h, rfl, rfl, rfl⟩
  · rw [hkept]
    exact ⟨h, rfl, rfl, rfl⟩
  · -- the table is built from the text and the options that the form keeps
    rw [hbuilt]
    refine ⟨⟨h.source, fun t' ht' => ?_⟩, rfl, rfl, rfl⟩
    cases ht'
    exact ⟨b, s.tableLimit, hb, ht⟩

/-- A search without a table. -/
def searchMatcher (f : Form M) (input : String) (slots : Nat) : SearchAnswer :=
  if slots ≠ 0 then fill f input slots else decide f input

/-- **A table answers as the matcher does.** -/
theorem search_eq_matcher (hM : TablesAgree M) {f : Form M} (h : Faithful f) (input : String)
    (slots : Nat) :
    (search f input slots).outcome = (searchMatcher f input slots).outcome ∧
      (search f input slots).stores = (searchMatcher f input slots).stores := by
  unfold search searchMatcher
  split
  · exact ⟨rfl, rfl⟩
  cases htable : f.table with
  | none => exact ⟨rfl, rfl⟩
  | some t =>
  -- only a basic form has a table, and the table was built from what the matcher compiled
  obtain ⟨b, limit, hb, ht⟩ := h.table t htable
  rw [tableFlags_eq] at ht
  have hagree := hM limit f.text (basicFlags f.options) b t (h.source b hb) ht input
  have hmatch : isMatch f input = .ok (M.basicIsMatch b input) := by rw [isMatch, hb]
  dsimp only
  cases hanswer : M.searchTable t input with
  | found =>
    rw [hanswer] at hagree
    simp [decide, hmatch, hagree, Except.map]
  | none =>
    rw [hanswer] at hagree
    simp [decide, hmatch, hagree, Except.map]
  | gaveUp reason => exact ⟨rfl, rfl⟩

namespace SameButTable

variable {f g : Form M}

theorem refl (h : Faithful f) : SameButTable f f := ⟨rfl, rfl, rfl, h, h⟩

theorem symm (h : SameButTable f g) : SameButTable g f :=
  ⟨h.compiled.symm, h.text.symm, h.options.symm, h.right, h.left⟩

theorem groups (h : SameButTable f g) : f.groups = g.groups := by
  rw [Form.groups, Form.groups, h.compiled]

theorem named (h : SameButTable f g) : f.named = g.named := by
  rw [Form.named, Form.named, h.groups]

theorem jitLeft (h : SameButTable f g) (s : Settings) : SameButTable (jitCompile s f).2 g := by
  obtain ⟨hfaithful, hcompiled, htext, hoptions⟩ := jitCompile_faithful s h.left
  exact ⟨hcompiled.trans h.compiled, htext.trans h.text, hoptions.trans h.options, hfaithful,
    h.right⟩

/-- Forms that differ at most in their tables search alike. -/
theorem search_eq (hM : TablesAgree M) (h : SameButTable f g) (input : String) (slots : Nat) :
    (search f input slots).outcome = (search g input slots).outcome ∧
      (search f input slots).stores = (search g input slots).stores := by
  obtain ⟨hf, hf'⟩ := search_eq_matcher hM h.left input slots
  obtain ⟨hg, hg'⟩ := search_eq_matcher hM h.right input slots
  have hmatcher : searchMatcher f input slots = searchMatcher g input slots := by
    unfold searchMatcher fill decide captures isMatch
    rw [h.compiled]
  rw [hf, hf', hg, hg', hmatcher]
  exact ⟨rfl, rfl⟩

end SameButTable

end Standard

end PatternSuite
