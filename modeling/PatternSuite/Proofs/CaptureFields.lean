import PatternSuite.Proofs.BufferSizes
import PatternSuite.Proofs.ByteCuts
import PatternSuite.Proofs.ReportLines

/-!
# Reports of captures can be read back

A report has a field behind a tab for each group that can be read of the buffer. The field has the
label of the group, an equals sign, and the text of the group in quotes or a dash. No label has a
tab or an equals sign, and no quoted text a tab, so a report falls apart into its fields at the tabs
and a field at its first equals sign. What stands in quotes can be read back and is never a dash.

* `splitTabs_captureFields`: the fields of a report.
* `readField_captureField`, `readReport_captureFields`: the texts of the groups are read back.
* `Standard.slice_of_matchedInto`: what a search of the standard engine tells are places of the
  input, so a group that took part has a text.
* `ShowsField`, `ShowsGroups`: what a report shows.
* `capture_reports_unambiguous`: any reports of matches.
-/

namespace PatternSuite

open Text

variable {κ σ : Type}

/-! ## Fields -/

/-- No group of the pattern has a tab or an equals sign in its name. -/
def FieldNames (p : CompiledPattern) : Prop :=
  ∀ (i : Nat) (name : String), p.captureNames[i]? = some (some name) →
    '\t' ∉ name.toList ∧ '=' ∉ name.toList

/-- The field of a group. -/
def captureField (p : CompiledPattern) (input : String) (c : Captures) (i : Nat) : String :=
  groupLabel p.captureNames i ++ "=" ++ groupText input c i

/-- The pieces of a text between its tabs. -/
def splitTabs (s : String) : List String := (s.toList.splitOn '\t').map String.ofList

/-- The texts of the groups that a buffer tells of; none for a group that took no part. -/
def groupTexts (input : String) (c : Captures) : List (Option String) :=
  (List.range c.filled).map (c.text? input)

/-- What stands in a field behind the first equals sign. -/
def fieldValue (field : String) : String :=
  String.ofList ((field.toList.dropWhile (· != '=')).drop 1)

/-- The text that a field shows, if it shows one. -/
def readField (field : String) : Option String :=
  if fieldValue field = "-" then none else some (unquote (fieldValue field))

/-- The texts that the fields of a report show. -/
def readReport (report : String) : List (Option String) := (splitTabs report).tail.map readField

/-- Pieces behind tabs are what is found between the tabs. -/
theorem splitTabs_join {fields : List String} (h : ∀ field ∈ fields, '\t' ∉ field.toList) :
    splitTabs (String.join (fields.map fun field => "\t" ++ field)) = "" :: fields := by
  -- by induction with what stands before the first tab
  have hpieces (first : String) (hfirst : '\t' ∉ first.toList) :
      splitTabs (first ++ String.join (fields.map fun field => "\t" ++ field)) =
        first :: fields := by
    induction fields generalizing first with
    | nil =>
      rw [List.map_nil, String.join_nil, String.append_empty, splitTabs,
        List.splitOn_eq_singleton hfirst, List.map_singleton, String.ofList_toList]
    | cons field fields ih =>
      obtain ⟨hfield, hfields⟩ := List.forall_mem_cons.1 h
      have hrest := ih hfields field hfield
      have htab : "\t".toList = ['\t'] := rfl
      rw [splitTabs] at hrest ⊢
      rw [List.map_cons, String.join_cons, String.append_assoc, String.toList_append,
        String.toList_append, htab, List.singleton_append,
        List.splitOn_append_cons_self_of_not_mem hfirst, List.map_cons, hrest,
        String.ofList_toList]
  simpa using hpieces "" (by simp)

section Fields

variable {p : CompiledPattern}

theorem notMem_label (hp : FieldNames p) {x : Char} (hx : x = '\t' ∨ x = '=') (i : Nat) :
    x ∉ (groupLabel p.captureNames i).toList := by
  rcases hx with rfl | rfl
  · exact notMem_groupLabel (by decide) (fun _ => Nat.digitChar_ne _ (by decide))
      (fun i name hname => (hp i name hname).1) i
  · exact notMem_groupLabel (by decide) (fun _ => Nat.digitChar_ne _ (by decide))
      (fun i name hname => (hp i name hname).2) i

theorem tab_notMem_groupText (input : String) (c : Captures) (i : Nat) :
    '\t' ∉ (groupText input c i).toList := by
  unfold groupText
  split
  · exact notMem_quote (.inl rfl) _
  · decide

theorem tab_notMem_captureField (hp : FieldNames p) (input : String) (c : Captures) (i : Nat) :
    '\t' ∉ (captureField p input c i).toList := by
  have hlabel := notMem_label hp (.inl rfl) i
  have htext := tab_notMem_groupText input c i
  simp [captureField, hlabel, htext]

theorem captureFields_eq (p : CompiledPattern) (input : String) (c : Captures) :
    captureFields p input c =
      String.join (((List.range c.filled).map (captureField p input c)).map
        fun field => "\t" ++ field) := by
  simp only [captureFields, captureField, List.map_map, Function.comp_def, String.append_assoc]

/-- **The fields of a report** are what is found between its tabs. -/
theorem splitTabs_captureFields (hp : FieldNames p) (input : String) (c : Captures) :
    splitTabs (captureFields p input c) =
      "" :: (List.range c.filled).map (captureField p input c) := by
  rw [captureFields_eq]
  refine splitTabs_join fun field hfield => ?_
  obtain ⟨i, -, rfl⟩ := List.mem_map.1 hfield
  exact tab_notMem_captureField hp input c i

theorem fieldValue_captureField (hp : FieldNames p) (input : String) (c : Captures) (i : Nat) :
    fieldValue (captureField p input c i) = groupText input c i := by
  have hlabel : ∀ x ∈ (groupLabel p.captureNames i).toList, (x != '=') = true := by
    intro x hx
    refine bne_iff_ne.2 fun h => ?_
    exact notMem_label hp (.inr rfl) i (h ▸ hx)
  have hequals : "=".toList = ['='] := rfl
  rw [fieldValue, captureField, String.toList_append, String.toList_append, List.append_assoc,
    List.dropWhile_append_of_pos hlabel, hequals]
  simp

/-- **The text of a group is read back** from its field. -/
theorem readField_captureField (hp : FieldNames p) (input : String) (c : Captures) (i : Nat) :
    readField (captureField p input c i) = c.text? input i := by
  rw [readField, fieldValue_captureField hp]
  cases htext : c.text? input i with
  | none =>
    have hshown : groupText input c i = "-" := by simp only [groupText, htext]
    rw [hshown, if_pos rfl]
  | some text =>
    have hshown : groupText input c i = quote text := by simp only [groupText, htext]
    rw [hshown, if_neg (quote_ne_dash text), unquote_quote]

/-- **The texts of all groups are read back** from a report. -/
theorem readReport_captureFields (hp : FieldNames p) (input : String) (c : Captures) :
    readReport (captureFields p input c) = groupTexts input c := by
  simp only [readReport, splitTabs_captureFields hp, List.tail_cons, List.map_map, groupTexts,
    Function.comp_def, readField_captureField hp]

end Fields

/-! ## Spans -/

/-- **The spans that matchers find are spans of the input**: they begin and end between characters
of it, and do not end before they begin. -/
structure Matchers.SpansInside (M : Matchers) : Prop where
  basic : ∀ b input spans, M.basicCaptures b input = some spans →
    ∀ span, some span ∈ spans → (slice? input span).isSome
  fancy : ∀ f input spans, M.fancyCaptures f input = .ok (some spans) →
    ∀ span, some span ∈ spans → (slice? input span).isSome

/-- A buffer behind a search that has matched. -/
def MatchedInto (E : Engine κ σ) (p : CompiledPattern) (input : String) (c : Captures) : Prop :=
  ∃ buffer w w', executeInto E p input buffer w = (.ok .matched, c, w')

/-- Only a pattern of the ledger matches. -/
theorem MatchedInto.exists_form {E : Engine κ σ} {p : CompiledPattern} {input : String}
    {buffer c : Captures} {w w' : Ledger κ σ}
    (h : executeInto E p input buffer w = (.ok .matched, c, w')) :
    ∃ form, w.form? p.form = some form := by
  cases hform : w.form? p.form with
  | some form => exact ⟨form, rfl⟩
  | none =>
    rw [executeInto, search, hform] at h
    cases h

namespace Standard

variable {M : Matchers} {s : Settings} {p : CompiledPattern} {input : String} {c : Captures}

theorem slice_of_mem_spans (hM : M.SpansInside) {f : Form M} {span : Span}
    (h : some span ∈ spans f input) : (slice? input span).isSome := by
  unfold spans captures at h
  cases hf : f.compiled with
  | basic b =>
    simp only [hf] at h
    cases hb : M.basicCaptures b input with
    | none => simp [hb] at h
    | some found => exact hM.basic b input found hb span (by simpa [hb] using h)
  | fancy f' =>
    simp only [hf] at h
    rcases hb : M.fancyCaptures f' input with e | _ | found
    · simp [hb] at h
    · simp [hb] at h
    · exact hM.fancy f' input found hb span (by simpa [hb] using h)

/-- **A group that took part has a text**, in a buffer behind a match. -/
theorem slice_of_matchedInto (hM : M.SpansInside) (h : MatchedInto (engine M s) p input c) {i : Nat}
    {span : Span} (hspan : c.get? i = some span) : ∃ text, slice? input span = some text := by
  obtain ⟨buffer, w, w', h⟩ := h
  obtain ⟨f, hform⟩ := MatchedInto.exists_form h
  have hread : c.toList = (spans f input).take buffer.capacity := by
    have hlist := toList_executeInto (s := s) hform input buffer
    rwa [h] at hlist
  have hmem : some span ∈ c.toList :=
    List.mem_of_getElem? (Option.join_eq_some_iff.1 hspan)
  rw [hread] at hmem
  exact Option.isSome_iff_exists.1 (slice_of_mem_spans hM (List.mem_of_mem_take hmem))

end Standard

/-! ## Reports -/

/-- **What a field shows of a group**: its name, or a dollar and its number if it has none, and
behind an equals sign its text. -/
structure ShowsField (p : CompiledPattern) (input : String) (c : Captures) (i : Nat)
    (field : String) : Prop where
  named : ∀ name, p.captureNames[i]? = some (some name) →
    field = name ++ "=" ++ groupText input c i
  numbered : (∀ name, p.captureNames[i]? ≠ some (some name)) →
    field = "$" ++ toString i ++ "=" ++ groupText input c i

theorem showsField_captureField (p : CompiledPattern) (input : String) (c : Captures) (i : Nat) :
    ShowsField p input c i (captureField p input c i) where
  named name hname := by
    rw [captureField, groupLabel, Option.join_eq_some_iff.2 hname, Option.getD_some]
  numbered hnone := by
    have hjoin : (p.captureNames[i]?).join = none :=
      Option.eq_none_iff_forall_ne_some.2 fun name hname =>
        hnone name (Option.join_eq_some_iff.1 hname)
    rw [captureField, groupLabel, hjoin, Option.getD_none]

/-- **What a report shows of a buffer.** Between its tabs stand nothing and then the fields, one for
each group that the buffer tells of. A field has a dash just if its group took no part, and
otherwise the text of the group in quotes, which is no dash. The texts of the groups are read
back. -/
structure ShowsGroups (p : CompiledPattern) (input : String) (c : Captures) (report : String) :
    Prop where
  pieces : ∃ fields, splitTabs report = "" :: fields ∧
    List.Forall₂ (ShowsField p input c) (List.range c.filled) fields
  unset : ∀ i, groupText input c i = "-" ↔ c.get? i = none
  quoted : ∀ i span, c.get? i = some span →
    ∃ text, slice? input span = some text ∧ groupText input c i = quote text
  read : readReport report = groupTexts input c

/-- A report shows the groups of a buffer whose spans are spans of the input. -/
theorem showsGroups {p : CompiledPattern} {input : String} {c : Captures} (hp : FieldNames p)
    (hspans : ∀ i span, c.get? i = some span → ∃ text, slice? input span = some text) :
    ShowsGroups p input c (captureFields p input c) := by
  have hquoted (i : Nat) (span : Span) (hspan : c.get? i = some span) :
      ∃ text, slice? input span = some text ∧ groupText input c i = quote text := by
    obtain ⟨text, htext⟩ := hspans i span hspan
    refine ⟨text, htext, ?_⟩
    simp only [groupText, Captures.text?, hspan, Option.bind_some, htext]
  have hfields : List.Forall₂ (ShowsField p input c) (List.range c.filled)
      ((List.range c.filled).map (captureField p input c)) :=
    List.forall₂_map_right_iff.2
      (List.forall₂_same.2 fun i _ => showsField_captureField p input c i)
  refine ⟨⟨_, splitTabs_captureFields hp input c, hfields⟩, fun i => ?_, hquoted,
    readReport_captureFields hp input c⟩
  cases hspan : c.get? i with
  | none => simp [groupText, Captures.text?, hspan]
  | some span =>
    obtain ⟨text, -, htext⟩ := hquoted i span hspan
    simp [htext, quote_ne_dash]

/-- **Reports of captures are unambiguous.** On a match the report of the captures has the fields of
the buffer. For any pattern, input and buffer behind a match it shows the groups, and no quoted text
is a dash, so a group that took no part is not taken for one with a dash or an empty text. Two
reports that are the same tell of the same texts, even of different patterns on different inputs. -/
theorem capture_reports_unambiguous (M : Matchers) (hM : M.SpansInside) (s : Standard.Settings) :
    let E := Standard.engine M s
    (∀ p input w c w', executeInto E p input p.captureBuffer w = (.ok .matched, c, w') →
        captureReport E p input w = (captureFields p input c, w')) ∧
      (∀ text, quote text ≠ "-") ∧
      (∀ p input c, FieldNames p → MatchedInto E p input c →
        ShowsGroups p input c (captureFields p input c)) ∧
      ∀ p q input input' c c', FieldNames p → FieldNames q →
        MatchedInto E p input c → MatchedInto E q input' c' →
        captureFields p input c = captureFields q input' c' →
          groupTexts input c = groupTexts input' c' := by
  intro E
  refine ⟨fun p input w c w' h => ?_, quote_ne_dash, fun p input c hp h => ?_, ?_⟩
  · rw [captureReport, h]
  · exact showsGroups hp fun i span => Standard.slice_of_matchedInto hM h
  · intro p q input input' c c' hp hq _ _ hsame
    rw [← readReport_captureFields hp, hsame, readReport_captureFields hq]

/-- The spans of the groups of `(?P<n>-)|(x)` in an input that begins with a dash. -/
def dashSpans? (input : String) : Option (List (Option Span)) :=
  match input.toList with
  | '-' :: _ => some [some ⟨0, 1⟩, some ⟨0, 1⟩, none]
  | _ => none

/-- Matchers of a pattern with two groups, one of which takes part if the input begins with a
dash. -/
def dashMatchers : Matchers where
  Basic := Unit
  Fancy := Unit
  Table := Unit
  compileBasic _ _ := .ok ()
  basicFault? _ _ := none
  basicGroups _ := [none, some "n", none]
  basicIsMatch _ input := (dashSpans? input).isSome
  basicCaptures _ input := dashSpans? input
  compileFancy _ _ := .ok ()
  fancyGroups _ := [none, some "n", none]
  fancyIsMatch _ input := .ok (dashSpans? input).isSome
  fancyCaptures _ input := .ok (dashSpans? input)
  buildTable _ _ _ := .error ""
  searchTable _ _ := .none

theorem slice_of_dashSpans {input : String} {spans : List (Option Span)} {span : Span}
    (h : dashSpans? input = some spans) (hspan : some span ∈ spans) :
    (slice? input span).isSome := by
  unfold dashSpans? at h
  split at h
  · next cs hinput =>
    cases h
    obtain rfl : span = ⟨0, 1⟩ := by simpa using hspan
    have hfront : input = "-" ++ String.ofList cs := by
      refine String.toList_injective ?_
      rw [hinput, String.toList_append, String.toList_ofList]
      simp
    rw [hfront]
    exact Option.isSome_of_eq_some (slice?_front "-" (String.ofList cs))
  · cases h

theorem spansInside_dash : dashMatchers.SpansInside where
  basic _ _ _ h _ hspan := slice_of_dashSpans h hspan
  fancy _ _ _ h _ hspan := slice_of_dashSpans (Except.ok.inj h) hspan

/-- The report of a match of `(?P<n>-)|(x)` with a dash. -/
def dashReport : String :=
  String.join ["\t$0=" ++ quote "-", "\tn=" ++ quote "-", "\t$2=-"]

theorem captureFields_dash {p : CompiledPattern} (hp : p.captureNames = #[none, some "n", none])
    {c : Captures} (hc : c.toList = [some ⟨0, 1⟩, some ⟨0, 1⟩, none]) {input rest : String}
    (hinput : input = "-" ++ rest) :
    groupTexts input c = [some "-", some "-", none] ∧ captureFields p input c = dashReport := by
  subst hinput
  have hslice : slice? ("-" ++ rest) ⟨0, 1⟩ = some "-" := slice?_front "-" rest
  have hcount : c.filled = 3 := by
    rw [← Captures.length_toList, hc]
    rfl
  have hwhole : c.text? ("-" ++ rest) 0 = some "-" := by
    simp [Captures.text?, Captures.get?, hc, hslice]
  have hnamed : c.text? ("-" ++ rest) 1 = some "-" := by
    simp [Captures.text?, Captures.get?, hc, hslice]
  have hunset : c.text? ("-" ++ rest) 2 = none := by simp [Captures.text?, Captures.get?, hc]
  have hrange : List.range 3 = [0, 1, 2] := rfl
  constructor
  · simp [groupTexts, hcount, hrange, hwhole, hnamed, hunset]
  · have hlabels : "\t" ++ groupLabel p.captureNames 0 ++ "=" = "\t$0=" ∧
        "\t" ++ groupLabel p.captureNames 1 ++ "=" = "\tn=" ∧
        "\t" ++ groupLabel p.captureNames 2 ++ "=" ++ "-" = "\t$2=-" := by
      rw [hp]
      decide +kernel
    simp only [captureFields, hcount, hrange, List.map_cons, List.map_nil, groupText, hwhole,
      hnamed, hunset, hlabels, dashReport]

/-- A group with a name that has matched a dash, and one that took no part; and the same report of
another input. -/
theorem capture_reports_unambiguous_dash :
    let E := Standard.engine dashMatchers {}
    let p : CompiledPattern := ⟨0, "(?P<n>-)|(x)", 2, some ⟨4, [0, 1, 110, 0], by decide⟩⟩
    let w : Ledger (Standard.Form dashMatchers) Unit :=
      { state := (), forms := #[⟨⟨.basic (), "(?P<n>-)|(x)", {}, none⟩, 1⟩] }
    let c := (executeInto E p "-" p.captureBuffer w).2.1
    let c' := (executeInto E p "-x" p.captureBuffer w).2.1
    dashMatchers.SpansInside ∧ FieldNames p ∧ (captureReport E p "-" w).1 = dashReport ∧
      ShowsGroups p "-" c dashReport ∧ readReport dashReport = [some "-", some "-", none] ∧
      groupTexts "-" c = groupTexts "-x" c' := by
  intro E p w c c'
  have hnames : p.captureNames = #[none, some "n", none] := by decide +kernel
  have hp : FieldNames p := by
    intro i name hname
    rw [hnames] at hname
    match i with
    | 0 | 2 | i + 3 => simp at hname
    | 1 =>
      obtain rfl : "n" = name := by simpa using hname
      decide
  have hmatched : MatchedInto E p "-" c :=
    ⟨p.captureBuffer, w, _, Prod.ext (by decide +kernel) rfl⟩
  have hmatched' : MatchedInto E p "-x" c' :=
    ⟨p.captureBuffer, w, _, Prod.ext (by decide +kernel) rfl⟩
  have hc : c.toList = [some ⟨0, 1⟩, some ⟨0, 1⟩, none] := by decide +kernel
  have hc' : c'.toList = [some ⟨0, 1⟩, some ⟨0, 1⟩, none] := by decide +kernel
  have hinput : "-" = "-" ++ "" := by decide
  have hinput' : "-x" = "-" ++ "x" := by decide
  obtain ⟨htexts, hfields⟩ := captureFields_dash hnames hc hinput
  obtain ⟨-, hfields'⟩ := captureFields_dash hnames hc' hinput'
  obtain ⟨hreport, -, hshows, hsame⟩ :=
    capture_reports_unambiguous dashMatchers spansInside_dash {}
  have hshown := hshows p "-" c hp hmatched
  rw [hfields] at hshown
  have hwritten := hreport p "-" w c _ (Prod.ext (by decide +kernel) rfl)
  refine ⟨spansInside_dash, hp, ?_, hshown, hshown.read.trans htexts, ?_⟩
  · rw [hwritten, hfields]
  · exact hsame p p "-" "-x" c c' hp hp hmatched hmatched' (hfields.trans hfields'.symm)

end PatternSuite
