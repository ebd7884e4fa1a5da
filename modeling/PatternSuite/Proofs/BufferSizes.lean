import PatternSuite.Command.Report
import PatternSuite.Engine.Scripted
import PatternSuite.Proofs.CaptureBuffers
import PatternSuite.Proofs.Lasting
import PatternSuite.Proofs.Questions

/-!
# The size of a buffer does not change the answer

The standard engine answers a search without slots by a table or by asking the matcher whether
there is a match, and one with slots by asking the matcher for the groups. If its matchers agree
with themselves, and its tables with the matchers, this does not show: a buffer gets as many of the
groups as it has slots for, and everything else is the same.

* `Matchers.Agree`: matchers that agree with themselves.
* `Standard.spans`: the spans that there are to tell; `Standard.toList_settle_search`: a buffer gets
  the first of them.
* `Standard.Described`, `Standard.lasting_described`: what is true of every compiled pattern.
* `SizeFree`, `SecondSearch`: what the size of a buffer does not change, and the search for the
  captures of a pattern that has matched.
* `buffer_size_hidden`: any patterns of a session or of a generation.
-/

namespace PatternSuite

open Text Ledger

/-- **Matchers that agree with themselves.** Whether there is a match is what the search for groups
says, or it fails alike. A match has the span of each group that the pattern has, and the whole
match is one of them. -/
structure Matchers.Agree (M : Matchers) : Prop where
  basicMatch : ∀ b input, M.basicIsMatch b input = (M.basicCaptures b input).isSome
  basicLength : ∀ b input spans, M.basicCaptures b input = some spans →
    spans.length = (M.basicGroups b).length
  basicWhole : ∀ text flags b, M.compileBasic text flags = .ok b →
    0 < (M.basicGroups b).length
  fancyMatch : ∀ f input, M.fancyIsMatch f input = (M.fancyCaptures f input).map Option.isSome
  fancyLength : ∀ f input spans, M.fancyCaptures f input = .ok (some spans) →
    spans.length = (M.fancyGroups f).length
  fancyWhole : ∀ limit text f, M.compileFancy limit text = .ok f → 0 < (M.fancyGroups f).length

namespace Standard

variable {M : Matchers}

/-! ## Searches with slots and without -/

section Searches

variable {f : Form M}

theorem isMatch_eq (hM : M.Agree) (f : Form M) (input : String) :
    isMatch f input = (captures f input).map Option.isSome := by
  unfold isMatch captures
  cases f.compiled with
  | basic b => exact congrArg Except.ok (hM.basicMatch b input)
  | fancy c => exact hM.fancyMatch c input

theorem length_of_captures (hM : M.Agree) {input : String} {spans : List (Option Span)}
    (h : captures f input = .ok (some spans)) : spans.length = f.groups.length := by
  unfold captures at h
  unfold Form.groups
  cases hf : f.compiled with
  | basic b =>
    rw [hf] at h
    exact hM.basicLength b input spans (Except.ok.inj h)
  | fancy c =>
    rw [hf] at h
    exact hM.fancyLength c input spans h

/-- What was compiled has a group, the whole match. -/
theorem groups_pos (hM : M.Agree) {limit : Nat} {p : Pattern} {options : Options}
    (h : compile M limit p options = .ok f) : 0 < f.groups.length := by
  obtain ⟨c, rfl, hc | hc⟩ := compile_cases h
  · obtain ⟨b, rfl, hb⟩ := compileBasic_eq_ok hc
    exact hM.basicWhole p.text (basicFlags options) b hb
  · unfold compileFancy at hc
    split at hc
    · next c' hc' =>
      obtain rfl := Except.ok.inj hc
      exact hM.fancyWhole limit _ c' hc'
    · cases hc

/-- **With any number of slots a search finds a match or fails as the matcher does.** -/
theorem found_search (hM : M.Agree) (hT : TablesAgree M) (hf : Faithful f) (input : String)
    (slots : Nat) :
    (search f input slots).outcome.map Option.isSome =
      (captures f input).map Option.isSome := by
  rw [(search_eq_matcher hT hf input slots).1, searchMatcher]
  split
  · unfold fill
    rcases captures f input with e | _ | spans <;> rfl
  · rw [decide, isMatch_eq hM]
    rcases captures f input with e | _ | spans <;> rfl

/-- The spans that there are to tell. -/
def spans (f : Form M) (input : String) : List (Option Span) :=
  match captures f input with
  | .ok (some spans) => spans
  | _ => []

theorem length_spans_le (hM : M.Agree) (f : Form M) (input : String) :
    (spans f input).length ≤ f.groups.length := by
  unfold spans
  split
  · next h => exact (length_of_captures hM h).le
  · exact Nat.zero_le _

/-- Spans stored in order come to stand in order. -/
theorem lastStore_zipIdx (l : List (Option Span)) (i : Nat) :
    Captures.lastStore (l.zipIdx.map fun s => (s.2, s.1)) i = l[i]?.join := by
  induction l using List.reverseRecOn with
  | nil => rfl
  | append_singleton l a ih =>
    rw [List.zipIdx_append, List.map_append]
    refine (Captures.lastStore_concat _ _ i).trans ?_
    rw [ih, List.getElem?_append]
    dsimp only
    rcases Nat.lt_trichotomy i l.length with hlt | rfl | hgt
    · rw [if_neg (by omega), if_pos hlt]
    · rw [if_pos (by omega), if_neg (by omega)]
      simp
    · rw [if_neg (by omega), if_neg (by omega), List.getElem?_eq_none (by omega)]
      rw [List.getElem?_eq_none (by simp; omega)]

/-- **A buffer gets the first spans**, as many as it has slots for. -/
theorem toList_settle_search (f : Form M) (input : String) (buffer : Captures) :
    let answer := search f input buffer.capacity
    (buffer.settle answer.stores answer.count).toList =
      (spans f input).take buffer.capacity := by
  intro answer
  apply List.ext_getElem?
  intro i
  rw [Captures.getElem?_toList_settle, List.getElem?_take]
  by_cases hslots : buffer.capacity = 0
  · -- no slots, so whatever was counted nothing can be read
    simp [hslots]
  obtain hanswer : answer = fill f input buffer.capacity := if_pos hslots
  rw [hanswer, fill, spans]
  rcases captures f input with e | _ | found
  · simp [SearchAnswer.count]
  · simp [SearchAnswer.count]
  simp only [SearchAnswer.count, lastStore_zipIdx, List.getElem?_take]
  by_cases hi : i < buffer.capacity
  · by_cases hfound : i < found.length
    · rw [if_pos (by omega), if_pos hi, List.getElem?_eq_getElem hfound]
      rfl
    · rw [if_neg (by omega), if_pos hi, List.getElem?_eq_none (by omega)]
  · rw [if_neg (by omega), if_neg hi]

end Searches

/-! ## Compiled patterns -/

/-- What is true of a pattern that the engine has compiled, given the forms of the ledger: its form
searches as its matcher does, and it knows how many groups there are besides the whole match. -/
def Described (l : List (Form M)) (p : CompiledPattern) : Prop :=
  ∃ f, l[p.form]? = some f ∧ Faithful f ∧ f.groups.length = p.captures + 1

/-- **Every compiled pattern is described**, whatever is optimized and compiled later. -/
theorem lasting_described (hM : M.Agree) (s : Settings) : Lasting (engine M s) Described where
  compiled {pattern options c c' room w w' p} h := by
    obtain ⟨f, state, hf, hid, hforms, hcount⟩ := h.captureCount
    have hcompile : compile M s.backtrackLimit pattern options = .ok f := hf
    have hcaptures : f.groups.length - 1 = p.captures := Except.ok.inj hcount
    have hpos := groups_pos hM hcompile
    refine ⟨f, ?_, compile_faithful hcompile, by omega⟩
    rw [hid, hforms]
    exact List.getElem?_concat_length
  optimized {l l' p} h hl := by
    induction hl with
    | refl => exact h
    | @step l l' id a st hid _ ih =>
      obtain ⟨f, hf, hfaithful, hgroups⟩ := h
      refine ih ?_
      by_cases hp : id = p.form
      · -- the pattern's own form is optimized, and only its table changes
        subst hp
        obtain rfl := Option.some.inj (hid.symm.trans hf)
        obtain ⟨hlt, -⟩ := List.getElem?_eq_some_iff.1 hf
        obtain ⟨hjit, hcompiled, -⟩ := jitCompile_faithful s hfaithful
        refine ⟨(jitCompile s a).2, List.getElem?_set_self hlt, hjit, ?_⟩
        rwa [Form.groups, hcompiled, ← Form.groups]
      · exact ⟨f, by rw [List.getElem?_set_ne hp, hf], hfaithful, hgroups⟩
  extended {l l' p} h hl := by
    obtain ⟨f, hf, hfaithful, hgroups⟩ := h
    obtain ⟨more, rfl⟩ := hl
    obtain ⟨hlt, -⟩ := List.getElem?_eq_some_iff.1 hf
    exact ⟨f, by rw [List.getElem?_append_left hlt, hf], hfaithful, hgroups⟩

end Standard

/-! ## Buffers of any size -/

section Sizes

variable {κ σ : Type}

/-- **The size of a buffer does not change the answer** about a pattern. With any buffer and without
one a search comes to the same outcome or the same error. On a match as many groups can be read as
there are slots for, and of two buffers the larger one begins with what the smaller one has. The
buffer that is made for the pattern gets all groups. -/
structure SizeFree (E : Engine κ σ) (p : CompiledPattern) (w : Ledger κ σ) : Prop where
  outcome : ∀ input buffer, (executeInto E p input buffer w).1 = (execute E p input w).1
  filled : ∀ input buffer, (executeInto E p input buffer w).1 = .ok .matched →
    (executeInto E p input buffer w).2.1.filled = min buffer.capacity (p.captures + 1)
  same : ∀ input (smaller larger : Captures), smaller.capacity ≤ larger.capacity →
    (executeInto E p input larger w).2.1.toList.take (min smaller.capacity (p.captures + 1)) =
      (executeInto E p input smaller w).2.1.toList
  fitted : ∀ input, (executeInto E p input p.captureBuffer w).1 = .ok .matched →
    (executeInto E p input p.captureBuffer w).2.1.filled = p.captures + 1

/-- **The second search matches.** If a list of patterns comes to a match, the search for the
captures of the pattern that has matched finds the match and gets all groups, and the report of the
line has the captures. -/
def SecondSearch (E : Engine κ σ) (ps : List CompiledPattern) (w : Ledger κ σ) : Prop :=
  ∀ line i w', executeArray E ps line w = (.ok (.matched i), w') →
    ∃ p c w'', ps[i]? = some p ∧
      executeInto E p line p.captureBuffer w' = (.ok .matched, c, w'') ∧
      c.filled = p.captures + 1 ∧
      lineReport E ps true line w = (toString i ++ captureFields p line c ++ "\n", w'')

/-- A list comes to a match only if the pattern at that place matches. -/
theorem executeFrom_matched {E : Engine κ σ} {index i : Nat} {ps : List CompiledPattern}
    {input : String} {w w' : Ledger κ σ}
    (h : executeFrom E index ps input w = (.ok (.matched i), w')) :
    ∃ k p v, i = index + k ∧ ps[k]? = some p ∧ v.forms = w.forms ∧
      (execute E p input v).1 = .ok .matched := by
  induction ps generalizing index w with
  | nil => cases h
  | cons p ps ih =>
    have hforms := forms_execute (E := E) p input w
    rw [executeFrom] at h
    rcases hp : execute E p input w with ⟨e | _ | _, w₁⟩
    · rw [hp] at h
      cases h
    · rw [hp] at h
      cases h
      exact ⟨0, p, w, rfl, rfl, rfl, by rw [hp]⟩
    · rw [hp] at h hforms
      obtain ⟨k, q, v, rfl, hq, hv, hmatched⟩ := ih h
      exact ⟨k + 1, q, v, by omega, hq, hv.trans hforms, hmatched⟩

/-- **The second search matches** if the size of a buffer does not matter: no matter what was
searched in between, the engine answers as before. -/
theorem secondSearch {E : Engine κ Unit} {ps : List CompiledPattern} {w : Ledger κ Unit}
    (h : ∀ p ∈ ps, ∀ v, v.forms = w.forms → SizeFree E p v) : SecondSearch E ps w := by
  intro line i w' harray
  obtain ⟨k, p, v, hk, hp, hv, hmatched⟩ := executeFrom_matched harray
  obtain rfl : i = k := by omega
  have hw' : w'.forms = w.forms := by
    have hforms := forms_executeFrom (E := E) 0 ps line w
    rwa [show executeFrom E 0 ps line w = _ from harray] at hforms
  have hfree := h p (List.mem_of_getElem? hp) w' hw'
  have hsecond : (executeInto E p line p.captureBuffer w').1 = .ok .matched := by
    rw [hfree.outcome, execute_congr (form?_of_forms (hw'.trans hv.symm) p.form), hmatched]
  have hfilled := hfree.fitted line hsecond
  rcases hinto : executeInto E p line p.captureBuffer w' with ⟨outcome, c, w''⟩
  rw [hinto] at hsecond hfilled
  obtain rfl : outcome = .ok .matched := hsecond
  refine ⟨p, c, w'', hp, hinto, hfilled, ?_⟩
  simp only [lineReport, harray, hp, captureReport, hinto]

end Sizes

namespace Standard

variable {M : Matchers} {s : Settings} {p : CompiledPattern} {w : Ledger (Form M) Unit}
  {f : Form M}

/-- What can be read of a buffer after a search. -/
theorem toList_executeInto (hform : w.form? p.form = some f) (input : String)
    (buffer : Captures) :
    (executeInto (engine M s) p input buffer w).2.1.toList =
      (spans f input).take buffer.capacity := by
  rw [executeInto_eq hform]
  exact toList_settle_search f input buffer

/-- A match has a span for each group, so a buffer is filled as far as there are groups. -/
theorem filled_executeInto (hM : M.Agree) (hT : TablesAgree M) (hf : Faithful f)
    (hform : w.form? p.form = some f) {input : String} {buffer : Captures}
    (h : (executeInto (engine M s) p input buffer w).1 = .ok .matched) :
    (executeInto (engine M s) p input buffer w).2.1.filled =
      min buffer.capacity f.groups.length := by
  rw [← Captures.length_toList, toList_executeInto hform, List.length_take, spans]
  have hfound : ((engine M s).search f input buffer.capacity w.state).1.outcome.map
      Option.isSome = (captures f input).map Option.isSome :=
    found_search hM hT hf input buffer.capacity
  rw [executeInto_eq hform, SearchAnswer.verdict_eq, hfound] at h
  rcases hcaptures : captures f input with e | _ | found
  · simp [hcaptures, Except.map] at h
  · simp [hcaptures, Except.map] at h
  · rw [length_of_captures hM hcaptures]

/-- **The size of a buffer does not change the answer** about a pattern that is described. -/
theorem sizeFree (hM : M.Agree) (hT : TablesAgree M) (h : Described w.formList p) :
    SizeFree (engine M s) p w := by
  obtain ⟨f, hform, hf, hgroups⟩ := h
  rw [← form?_eq] at hform
  have hfilled {input : String} {buffer : Captures}
      (h : (executeInto (engine M s) p input buffer w).1 = .ok .matched) :=
    hgroups ▸ filled_executeInto hM hT hf hform h
  constructor
  · intro input buffer
    rw [executeInto_eq hform, execute_eq hform]
    exact SearchAnswer.verdict_congr ((found_search hM hT hf input _).trans
      (found_search hM hT hf input 0).symm) p input
  · exact fun input buffer => hfilled
  · intro input smaller larger hle
    have hlength := length_spans_le hM f input
    rw [toList_executeInto hform, toList_executeInto hform, List.take_take]
    apply List.take_eq_take_iff.2
    omega
  · intro input hmatched
    rw [hfilled hmatched, CompiledPattern.captureBuffer, Captures.capacity_ofCapacity,
      Nat.min_self]

end Standard

/-- **The size of a buffer never changes the answer.** Over matchers that agree with themselves and
with their tables this is so for every pattern of a session, whatever its dialect and its options
are, whether it is optimized or not, and whatever was done before; and for every pattern of a
generation. A list of such patterns that comes to a match is followed by a search for the captures
that matches, too. -/
theorem buffer_size_hidden (M : Matchers) (hM : M.Agree) (hT : Standard.TablesAgree M)
    (s : Standard.Settings) :
    let E := Standard.engine M s
    (∀ steps, let held := Session.run E (.opened ()) steps
      ∀ w, w.forms = held.ledger.forms →
        (∀ handle p, held.patterns.get? handle = some p → SizeFree E p w) ∧
        ∀ ps, (∀ p ∈ ps, ∃ handle, held.patterns.get? handle = some p) → SecondSearch E ps w) ∧
      ∀ file override number w₀ g w₁,
        Generation.load E file override number w₀ = (.ok g, w₁) →
          ∀ w, w.forms = w₁.forms →
            (∀ p ∈ g.patterns, SizeFree E p w) ∧ SecondSearch E g.patterns w := by
  intro E
  have hlasting := Standard.lasting_described hM s
  have hsize {w w' : Ledger (Standard.Form M) Unit} {p : CompiledPattern}
      (h : Standard.Described w.formList p) (hw : w'.forms = w.forms) : SizeFree E p w' := by
    refine Standard.sizeFree hM hT ?_
    rwa [Ledger.formList, hw, ← Ledger.formList]
  constructor
  · intro steps held w hw
    have hheld : ∀ p ∈ held.patterns.values, ∀ v, v.forms = w.forms → SizeFree E p v :=
      fun p hp v hv => hsize (hlasting.run () steps p hp) (hv.trans hw)
    refine ⟨fun handle p hp => hheld p (Shelf.mem_of_get? hp) w rfl, fun ps hps => ?_⟩
    refine secondSearch fun p hp => ?_
    obtain ⟨handle, hget⟩ := hps p hp
    exact hheld p (Shelf.mem_of_get? hget)
  · intro file override number w₀ g w₁ hload w hw
    have hloaded : ∀ p ∈ g.patterns, ∀ v, v.forms = w.forms → SizeFree E p v :=
      fun p hp v hv => hsize (hlasting.load hload p hp) (hv.trans hw)
    exact ⟨fun p hp => hloaded p hp w rfl, secondSearch hloaded⟩

/-- What stands between the first and the last character of a text. -/
def innerText (text : String) : String := String.ofList text.toList.tail.dropLast

/-- Where a text first stands in an input. -/
def firstSpan? (text input : String) : Option Span :=
  (Script.findBytes (textBytes text) 0 (textBytes input)).map fun start =>
    ⟨start, start + text.utf8ByteSize⟩

/-- Matchers of texts in parentheses, which are a group, with tables that never give up. -/
def groupMatchers : Matchers where
  Basic := String
  Fancy := String
  Table := String
  compileBasic text _ := .ok (innerText text)
  basicFault? _ _ := none
  basicGroups _ := [none, none]
  basicIsMatch b input := (firstSpan? b input).isSome
  basicCaptures b input := (firstSpan? b input).map fun span => [some span, some span]
  compileFancy _ text := .ok (innerText text)
  fancyGroups _ := [none, none]
  fancyIsMatch f input := .ok (firstSpan? f input).isSome
  fancyCaptures f input := .ok ((firstSpan? f input).map fun span => [some span, some span])
  buildTable _ text _ := .ok (innerText text)
  searchTable t input := if (firstSpan? t input).isSome then .found else .none

theorem agree_group : groupMatchers.Agree where
  basicMatch b input := Option.isSome_map.symm
  basicLength b input spans h := by
    obtain ⟨span, -, rfl⟩ := Option.map_eq_some_iff.1 h
    rfl
  basicWhole _ _ _ _ := Nat.zero_lt_two
  fancyMatch f input := congrArg Except.ok Option.isSome_map.symm
  fancyLength f input spans h := by
    obtain ⟨span, -, rfl⟩ := Option.map_eq_some_iff.1 (Except.ok.inj h)
    rfl
  fancyWhole _ _ _ _ := Nat.zero_lt_two

theorem tablesAgree_group : Standard.TablesAgree groupMatchers := by
  intro limit text flags b t hb ht input
  cases hb
  cases ht
  cases h : (firstSpan? (innerText text) input).isSome with
  | true => simp [groupMatchers, h]
  | false => simp [groupMatchers, h]

/-- An optimized pattern with a group, with one slot and with five; and a fancy pattern of a
generation, whose captures are reported. -/
theorem buffer_size_hidden_group :
    let E := Standard.engine groupMatchers {}
    let held := Session.run E (.opened ())
      [.compile mainName "p" ⟨⟨.basic, "(ab)"⟩, .none, .default⟩, .jit "p"]
    let p : CompiledPattern := ⟨0, "(ab)", 1, none⟩
    let loaded := Generation.load E ⟨{}, [{ text := "(ab)", dialect := .fancy }]⟩ none 1
      { state := () }
    groupMatchers.Agree ∧ Standard.TablesAgree groupMatchers ∧
      held.patterns.get? "p" = some p ∧ SizeFree E p held.ledger ∧
      (executeInto E p "xab" (.ofCapacity 1) held.ledger).2.1.filled = 1 ∧
      (executeInto E p "xab" (.ofCapacity 5) held.ledger).2.1.filled = 2 ∧
      ∃ g c, loaded.1 = .ok g ∧ c.filled = 2 ∧
        (lineReport E g.patterns true "xab" loaded.2).1 =
          toString 0 ++ captureFields p "xab" c ++ "\n" := by
  intro E held p loaded
  obtain ⟨hheld, hloaded⟩ := buffer_size_hidden groupMatchers agree_group tablesAgree_group {}
  obtain ⟨hfree, -⟩ := hheld
    [.compile mainName "p" ⟨⟨.basic, "(ab)"⟩, .none, .default⟩, .jit "p"] held.ledger rfl
  have hp : held.patterns.get? "p" = some p := by decide +kernel
  have hsize : SizeFree E p held.ledger := hfree "p" p hp
  have hone := hsize.filled "xab" (.ofCapacity 1) (by decide +kernel)
  have hfive := hsize.filled "xab" (.ofCapacity 5) (by decide +kernel)
  refine ⟨agree_group, tablesAgree_group, hp, hsize, hone, hfive, ?_⟩
  obtain ⟨g, hg, hpatterns⟩ : ∃ g, loaded.1 = .ok g ∧ g.patterns = [p] := ⟨_, rfl, rfl⟩
  obtain ⟨-, hsecond⟩ := hloaded _ none 1 _ g loaded.2 (Prod.ext hg rfl) loaded.2 rfl
  have hmatched : (executeArray E [p] "xab" loaded.2).1 = .ok (.matched 0) := by decide +kernel
  rw [hpatterns] at hsecond
  obtain ⟨q, c, w, hq, -, hfilled, hreport⟩ := hsecond "xab" 0 _ (Prod.ext hmatched rfl)
  obtain rfl : p = q := Option.some.inj hq
  exact ⟨g, c, hg, hfilled, by rw [hpatterns]; exact congrArg Prod.fst hreport⟩

end PatternSuite
