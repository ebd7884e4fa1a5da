import PatternSuite.Proofs.LineReports
import PatternSuite.Proofs.QuotedTexts
import PatternSuite.Proofs.TextBytes

/-!
# Reports and lines

Texts of the input stand in quotes in a report, where a newline is escaped; numbers and the words
of a message have none. The source of a pattern that failed on a line is shown as it is. So the
report of a line is a line, but for the newlines in the source of the pattern whose failure it
shows, and the lines of a whole report are those of the input when no source has a newline.

* `newlines`: how many newlines a text has.
* `Reported`: the reports of a line, with the pattern whose failure is shown.
* `reported_lineReport`: there are no other reports.
* `newlines_reported`: the newlines of a report.
* `reports_keep_lines`: the reports of a whole input.
-/

namespace PatternSuite

open Text

variable {κ σ : Type} {E : Engine κ σ}

/-! ## Newlines -/

/-- How many newlines a text has. -/
def newlines (s : String) : Nat := s.toList.count '\n'

theorem newlines_eq_zero {s : String} : newlines s = 0 ↔ '\n' ∉ s.toList := List.count_eq_zero

theorem newlines_append (s t : String) : newlines (s ++ t) = newlines s + newlines t := by
  simp [newlines]

theorem newlines_toString_nat (n : Nat) : newlines (toString n) = 0 := by
  rw [newlines_eq_zero, Nat.toString_eq_ofList_toDigits, String.toList_ofList]
  exact notMem_toDigits (fun _ => Nat.digitChar_ne _ (by decide)) (by decide) n

theorem newlines_toString_int (i : Int) : newlines (toString i) = 0 := by
  cases i with
  | ofNat n => exact newlines_toString_nat n
  | negSucc n =>
    have hminus : toString (Int.negSucc n) = "-" ++ toString (n + 1) := rfl
    rw [hminus, newlines_append, newlines_toString_nat]
    rfl

/-- **There are no newlines between quotes.** -/
theorem newlines_quote (s : String) : newlines (quote s) = 0 :=
  newlines_eq_zero.2 (notMem_quote (.inr rfl) s)

/-! ## Lines of an input -/

/-- Only the last byte of a line can be a newline. -/
theorem Lines.dropNewline {input line : List UInt8} {lines : List (List UInt8)}
    (h : Lines input lines) (hline : line ∈ lines) :
    ∃ bs, 10 ∉ bs ∧ (line = bs ∨ line = bs ++ [10]) := by
  induction h with
  | none => cases hline
  | last _ hlast =>
    obtain rfl := List.mem_singleton.1 hline
    exact ⟨_, hlast, .inl rfl⟩
  | cons hfirst _ ih =>
    rcases List.mem_cons.1 hline with rfl | hrest
    · exact ⟨_, hfirst, .inr rfl⟩
    · exact ih hrest

/-- A line of an input has no newline but at its end. -/
theorem newlines_trimLine {input line : List UInt8} {text : String}
    (hline : line ∈ splitLines input) (htext : textOfBytes? line = some text) :
    newlines (trimLine text) = 0 := by
  obtain ⟨bs, hbs, hbytes⟩ := (lines_splitLines input).dropNewline hline
  obtain ⟨⟨tail, htail, -⟩, hlast⟩ := trimmed_trimLine text
  have hbegins : (trimLine text).toList <+: text.toList := ⟨tail, htail.symm⟩
  rw [← textBytes_of_textOfBytes htext] at hbytes
  rw [newlines_eq_zero]
  intro hmem
  rcases hbytes with hbytes | hbytes
  · exact hbs (hbytes ▸ newline_mem_textBytes.2 (hbegins.subset hmem))
  · obtain ⟨cs, hcs, hchars⟩ := toList_of_textBytes_eq hbs hbytes
    rw [hchars, List.prefix_concat_iff] at hbegins
    rcases hbegins with hall | hfirst
    · exact (hlast '\n' (by simp [hall])).2 rfl
    · exact hcs (hfirst.subset hmem)

/-- The lines of a text are texts. -/
theorem texts_of_splitLines (s : String) :
    ∀ line ∈ splitLines (textBytes s), ∃ text, textOfBytes? line = some text := by
  obtain ⟨cs, rfl⟩ : ∃ cs, s = String.ofList cs := ⟨s.toList, s.ofList_toList.symm⟩
  induction hn : cs.length using Nat.strong_induction_on generalizing cs with
  | _ n ih =>
    subst hn
    intro line hline
    by_cases hmem : '\n' ∈ cs
    · obtain ⟨first, rest, rfl, hfirst⟩ := List.eq_append_cons_of_mem hmem
      rw [textBytes_newline, splitLines,
        splitLinesFrom_newline (newline_notMem_textBytes hfirst)] at hline
      rcases List.mem_cons.1 hline with rfl | hrest
      · have hfirstLine : textBytes (String.ofList (first ++ ['\n'])) =
            textBytes (String.ofList first) ++ [10] := textBytes_newline first []
        rw [List.reverse_nil, List.nil_append, ← hfirstLine]
        exact ⟨_, textOfBytes_textBytes _⟩
      · exact ih rest.length (by simp; omega) rest rfl line hrest
    · rw [splitLines, splitLinesFrom_of_notMem (newline_notMem_textBytes hmem)] at hline
      split at hline
      · cases hline
      · obtain rfl := List.mem_singleton.1 hline
        exact ⟨_, textOfBytes_textBytes _⟩

/-- Texts with one newline each, at the end. -/
def OneLine (s : String) : Prop := ∃ body, s = body ++ "\n" ∧ newlines body = 0

/-- **Such texts are the lines of what they make together.** -/
theorem lines_join {parts : List String} (h : ∀ s ∈ parts, OneLine s) :
    Lines (textBytes (String.join parts)) (parts.map textBytes) := by
  induction parts with
  | nil => exact .none
  | cons s parts ih =>
    obtain ⟨⟨body, rfl, hbody⟩, hparts⟩ := List.forall_mem_cons.1 h
    have hline : 10 ∉ textBytes body := fun hmem =>
      newlines_eq_zero.1 hbody (newline_mem_textBytes.1 hmem)
    have hnewline : textBytes "\n" = [10] := rfl
    rw [String.join_cons, List.map_cons, textBytes_append, textBytes_append, hnewline,
      List.append_assoc]
    exact .cons hline (ih hparts)

theorem newlines_join {parts : List String} (h : ∀ s ∈ parts, OneLine s) :
    newlines (String.join parts) = parts.length := by
  induction parts with
  | nil => rfl
  | cons s parts ih =>
    obtain ⟨⟨body, rfl, hbody⟩, hparts⟩ := List.forall_mem_cons.1 h
    have hnewline : newlines "\n" = 1 := rfl
    rw [String.join_cons, newlines_append, newlines_append, ih hparts, hbody, hnewline,
      List.length_cons]
    omega

/-! ## What a report shows -/

/-- The failure of a pattern on a line in words. -/
def failureMessage (p : CompiledPattern) (line : String) (code : Int) (message : String) : String :=
  (PatternError.execution code message line p.source).message

/-- The reports that a line can have, each with the pattern whose failure it shows, if it shows
one. -/
inductive Reported (ps : List CompiledPattern) (line : String) :
    Option CompiledPattern → String → Prop
  | declined : Reported ps line none "declined\n"
  | matched (i : Nat) : Reported ps line none (toString i ++ "\n")
  | captured (i : Nat) {p : CompiledPattern} (hp : p ∈ ps) (c : Captures) :
      Reported ps line none (toString i ++ captureFields p line c ++ "\n")
  | failed {p : CompiledPattern} (hp : p ∈ ps) (code : Int) (message : String) :
      Reported ps line (some p) ("error: " ++ failureMessage p line code message ++ "\n")
  | capturesFailed (i : Nat) {p : CompiledPattern} (hp : p ∈ ps) (code : Int) (message : String) :
      Reported ps line (some p)
        (toString i ++ ("\terror: " ++ failureMessage p line code message) ++ "\n")

section Reported

variable {ps : List CompiledPattern} {p : CompiledPattern} {line : String} {w w' : Ledger κ σ}
  {e : PatternError}

theorem concludeSearch_error {answer : SearchAnswer}
    (h : concludeSearch p line answer w = (.error e, w')) :
    ∃ code message, e = .execution code message line p.source := by
  unfold concludeSearch at h
  dsimp only at h
  split at h
  · cases h
  · cases h
  · next f _ =>
    obtain ⟨⟩ := h
    exact ⟨f.code, f.message, rfl⟩

/-- The failure of a list of patterns is the failure of one of them. -/
theorem executeFrom_error {index : Nat} (h : executeFrom E index ps line w = (.error e, w')) :
    ∃ p ∈ ps, ∃ code message, e = .execution code message line p.source := by
  induction ps generalizing index w with
  | nil => cases h
  | cons p ps ih =>
    unfold executeFrom at h
    split at h
    · next heq =>
      obtain ⟨⟩ := h
      exact ⟨p, List.mem_cons_self, concludeSearch_error heq⟩
    · cases h
    · obtain ⟨q, hq, hfailure⟩ := ih h
      exact ⟨q, List.mem_cons_of_mem p hq, hfailure⟩

theorem captureReport_cases (E : Engine κ σ) (p : CompiledPattern) (line : String)
    (w : Ledger κ σ) :
    (∃ c, (captureReport E p line w).1 = captureFields p line c) ∨
      (captureReport E p line w).1 = "" ∨
      ∃ code message,
        (captureReport E p line w).1 = "\terror: " ++ failureMessage p line code message := by
  unfold captureReport
  split
  · exact .inl ⟨_, rfl⟩
  · exact .inr (.inl rfl)
  · next heq =>
    have hsearch := congrArg (fun r => (r.1, r.2.2)) heq
    obtain ⟨code, message, rfl⟩ := concludeSearch_error hsearch
    exact .inr (.inr ⟨code, message, rfl⟩)

/-- **There are no other reports.** -/
theorem reported_lineReport (E : Engine κ σ) (ps : List CompiledPattern) (captures : Bool)
    (line : String) (w : Ledger κ σ) :
    ∃ failed, Reported ps line failed (lineReport E ps captures line w).1 := by
  unfold lineReport executeArray
  split
  · next heq =>
    obtain ⟨p, hp, code, message, rfl⟩ := executeFrom_error heq
    exact ⟨some p, .failed hp code message⟩
  · exact ⟨none, .declined⟩
  next i w₁ heq =>
  split
  · next p hp =>
    have hmem := List.mem_of_getElem? hp
    show ∃ failed, Reported ps line failed (toString i ++ (captureReport E p line w₁).1 ++ "\n")
    obtain ⟨c, hc⟩ | hc | ⟨code, message, hc⟩ := captureReport_cases E p line w₁
    · exact ⟨none, hc ▸ .captured i hmem c⟩
    · exact ⟨none, by rw [hc, String.append_empty]; exact .matched i⟩
    · exact ⟨some p, hc ▸ .capturesFailed i hmem code message⟩
  · exact ⟨none, .matched i⟩

theorem newlines_bare (s : String) : newlines (PatternError.bare s) = newlines s := by
  rw [PatternError.bare, newlines_append, newlines_append]
  exact Nat.zero_add _

theorem newlines_failureMessage (p : CompiledPattern) (hline : newlines line = 0) (code : Int)
    (message : String) : newlines (failureMessage p line code message) = newlines p.source := by
  have hmessage : failureMessage p line code message = "regex match failed: " ++ toString code ++
      " on " ++ PatternError.bare line ++ " using " ++ PatternError.bare p.source := rfl
  rw [hmessage, newlines_append, newlines_append, newlines_append, newlines_append,
    newlines_append, newlines_bare, newlines_bare, newlines_toString_int, hline]
  exact Nat.zero_add _

/-- No group of the pattern has a newline in its name. -/
def PlainNames (p : CompiledPattern) : Prop :=
  ∀ (i : Nat) (name : String), p.captureNames[i]? = some (some name) → newlines name = 0

/-- The label of a group has what its name has, or it is a number behind a dollar. -/
theorem notMem_groupLabel {x : Char} {names : Array (Option String)} (hdollar : x ≠ '$')
    (hdigit : ∀ d, Nat.digitChar d ≠ x)
    (hnames : ∀ (i : Nat) (name : String), names[i]? = some (some name) → x ∉ name.toList)
    (i : Nat) : x ∉ (groupLabel names i).toList := by
  have hnumber : x ∉ ("$" ++ toString i).toList := by
    rw [String.toList_append, Nat.toString_eq_ofList_toDigits, String.toList_ofList]
    simpa [hdollar] using notMem_toDigits hdigit (by decide) i
  unfold groupLabel
  cases hname : names[i]? with
  | none => exact hnumber
  | some name =>
    cases name with
    | none => exact hnumber
    | some name => exact hnames i name hname

theorem newlines_groupLabel (hnames : PlainNames p) (i : Nat) :
    newlines (groupLabel p.captureNames i) = 0 := by
  refine newlines_eq_zero.2 (notMem_groupLabel (by decide) ?_ ?_ i)
  · exact fun _ => Nat.digitChar_ne _ (by decide)
  · exact fun i name hname => newlines_eq_zero.1 (hnames i name hname)

theorem newlines_groupText (line : String) (c : Captures) (i : Nat) :
    newlines (groupText line c i) = 0 := by
  unfold groupText
  split
  · exact newlines_quote _
  · rfl

theorem newlines_captureFields (hnames : PlainNames p) (c : Captures) :
    newlines (captureFields p line c) = 0 := by
  rw [newlines_eq_zero, captureFields, String.toList_join]
  intro hmem
  obtain ⟨_, hfield, hmem⟩ := List.mem_flatMap.1 hmem
  obtain ⟨i, -, rfl⟩ := List.mem_map.1 hfield
  refine newlines_eq_zero.1 ?_ hmem
  rw [newlines_append, newlines_append, newlines_append, newlines_groupLabel hnames,
    newlines_groupText]
  rfl

/-- The newlines of a report that belong to the pattern whose failure it shows. -/
def shownNewlines (failed : Option CompiledPattern) : Nat :=
  (failed.map fun p => newlines p.source).getD 0

/-- **The newlines of a report**: one at its end, and before it those of the source that it
shows. -/
theorem newlines_reported {failed : Option CompiledPattern} {report : String}
    (h : Reported ps line failed report) (hline : newlines line = 0)
    (hnames : ∀ p ∈ ps, PlainNames p) :
    ∃ body, report = body ++ "\n" ∧ newlines body = shownNewlines failed := by
  cases h with
  | declined => exact ⟨"declined", rfl, rfl⟩
  | matched i => exact ⟨toString i, rfl, newlines_toString_nat i⟩
  | captured i hp c =>
    refine ⟨_, rfl, ?_⟩
    rw [newlines_append, newlines_toString_nat, newlines_captureFields (hnames _ hp)]
    rfl
  | failed hp code message =>
    refine ⟨_, rfl, ?_⟩
    rw [newlines_append, newlines_failureMessage _ hline, (rfl : newlines "error: " = 0)]
    exact Nat.zero_add _
  | capturesFailed i hp code message =>
    refine ⟨_, rfl, ?_⟩
    rw [newlines_append, newlines_append, newlines_toString_nat, newlines_failureMessage _ hline,
      (rfl : newlines "\terror: " = 0), Nat.zero_add]
    exact Nat.zero_add _

/-- A report shows no newline of a source that has none. -/
theorem shownNewlines_of_reported {failed : Option CompiledPattern} {report : String}
    (h : Reported ps line failed report) (hsources : ∀ p ∈ ps, newlines p.source = 0) :
    shownNewlines failed = 0 := by
  cases h with
  | declined => rfl
  | matched => rfl
  | captured => rfl
  | failed hp => exact hsources _ hp
  | capturesFailed _ hp => exact hsources _ hp

end Reported

/-! ## The reports of an input -/

/-- A report answers a line: it is what is written for the text of the line. -/
def Answers (E : Engine κ σ) (ps : List CompiledPattern) (captures : Bool) (line : List UInt8)
    (report : String) : Prop :=
  ∃ text w, textOfBytes? line = some text ∧
    report = (lineReport E ps captures (trimLine text) w).1

section Inputs

variable (E : Engine κ σ) (ps : List CompiledPattern) (captures : Bool)

/-- Reports answer lines in order. -/
theorem matchLines_answers (lines : List (List UInt8)) (w : Ledger κ σ) :
    List.Forall₂ (Answers E ps captures)
      (lines.take (matchLines E ps captures lines w).1.length)
      (matchLines E ps captures lines w).1 := by
  induction lines generalizing w with
  | nil => exact .nil
  | cons line lines ih =>
    unfold matchLines
    split
    · exact .nil
    · next text htext => exact .cons ⟨text, w, htext, rfl⟩ (ih _)

/-- Lines that are texts are all answered. -/
theorem matchLines_complete {lines : List (List UInt8)}
    (h : ∀ line ∈ lines, ∃ text, textOfBytes? line = some text) (w : Ledger κ σ) :
    (matchLines E ps captures lines w).1.length = lines.length ∧
      (matchLines E ps captures lines w).2.1 = true := by
  induction lines generalizing w with
  | nil => exact ⟨rfl, rfl⟩
  | cons line lines ih =>
    obtain ⟨⟨text, htext⟩, hlines⟩ := List.forall_mem_cons.1 h
    obtain ⟨hlength, hcomplete⟩ := ih hlines (lineReport E ps captures (trimLine text) w).2
    unfold matchLines
    rw [htext]
    exact ⟨congrArg (· + 1) hlength, hcomplete⟩

end Inputs

/-- **Reports keep to lines.** The reports of an input answer its lines in order, all of them if it
is a text. A report ends in a newline, and has as many before it as the source of the pattern whose
failure it shows, if it shows one. So if no source has a newline, the lines of the output are the
reports. -/
theorem reports_keep_lines (E : Engine κ σ) (ps : List CompiledPattern)
    (hnames : ∀ p ∈ ps, PlainNames p) (captures : Bool) (input : List UInt8) (w : Ledger κ σ) :
    let out := matchReport E ps captures input w
    List.Forall₂ (Answers E ps captures) ((splitLines input).take out.1.length) out.1 ∧
      (∀ s, input = textBytes s →
        out.1.length = (splitLines input).length ∧ out.2.1 = true) ∧
      (∀ line ∈ splitLines input, ∀ report, Answers E ps captures line report →
        ∃ text failed body, textOfBytes? line = some text ∧
          Reported ps (trimLine text) failed report ∧
          report = body ++ "\n" ∧ newlines body = shownNewlines failed) ∧
      ((∀ p ∈ ps, newlines p.source = 0) →
        splitLines (textBytes (String.join out.1)) = out.1.map textBytes ∧
          newlines (String.join out.1) = out.1.length) := by
  intro out
  have hanswers := matchLines_answers E ps captures (splitLines input) w
  have hreports : ∀ line ∈ splitLines input, ∀ report, Answers E ps captures line report →
      ∃ text failed body, textOfBytes? line = some text ∧
        Reported ps (trimLine text) failed report ∧
        report = body ++ "\n" ∧ newlines body = shownNewlines failed := by
    rintro line hline _ ⟨text, v, htext, rfl⟩
    obtain ⟨failed, hfailed⟩ := reported_lineReport E ps captures (trimLine text) v
    obtain ⟨body, hbody, hcount⟩ := newlines_reported hfailed (newlines_trimLine hline htext) hnames
    exact ⟨text, failed, body, htext, hfailed, hbody, hcount⟩
  refine ⟨hanswers, ?_, hreports, fun hsources => ?_⟩
  · rintro s rfl
    exact matchLines_complete E ps captures (texts_of_splitLines s) w
  have hone : ∀ report ∈ out.1, OneLine report := by
    intro report hreport
    obtain ⟨k, hk, rfl⟩ := List.mem_iff_getElem.1 hreport
    have hk' := hanswers.length_eq ▸ hk
    obtain ⟨_, failed, body, -, hfailed, hbody, hcount⟩ :=
      hreports _ (List.mem_of_mem_take (List.getElem_mem hk')) _ (hanswers.get hk' hk)
    exact ⟨body, hbody, hcount.trans (shownNewlines_of_reported hfailed hsources)⟩
  exact ⟨splitLines_of_lines (lines_join hone), newlines_join hone⟩

/-- The literal matchers, but that the fancy one fails on a certain text and whenever it is asked
for captures. -/
def brittleMatchers : Matchers where
  __ := literalMatchers
  fancyIsMatch f input :=
    if input = "!" then .error ⟨-47, "too many steps"⟩ else literalMatchers.fancyIsMatch f input
  fancyCaptures _ _ := .error ⟨-47, "too many steps"⟩

/-- A ledger with the fancy form of a text. -/
def brittleLedger (text : String) : Ledger (Standard.Form brittleMatchers) Unit where
  state := ()
  forms := #[⟨⟨.fancy text, text, {}, none⟩, 1⟩]

/-- A line whose captures cannot be had, one that does not match, and one that cannot be searched. -/
theorem reports_keep_lines_brittle :
    let ps : List CompiledPattern := [⟨0, "a", 0, none⟩]
    let out := matchReport (Standard.engine brittleMatchers ⟨false, 10, 1000⟩) ps true
      (textBytes "ba\r\nb\n!") (brittleLedger "a")
    out.1 = ["0\terror: regex match failed: -47 on \"ba\" using \"a\"\n", "declined\n",
        "error: regex match failed: -47 on \"!\" using \"a\"\n"] ∧
      splitLines (textBytes (String.join out.1)) = out.1.map textBytes ∧
      newlines (String.join out.1) = 3 := by
  intro ps out
  have hnames : ∀ p ∈ ps, PlainNames p := by
    intro p hp i name hname
    obtain rfl := List.mem_singleton.1 hp
    have hnone : (⟨0, "a", 0, none⟩ : CompiledPattern).captureNames = #[none] := rfl
    rw [hnone] at hname
    cases i <;> simp at hname
  have hreports : out.1 = ["0\terror: regex match failed: -47 on \"ba\" using \"a\"\n",
      "declined\n", "error: regex match failed: -47 on \"!\" using \"a\"\n"] := by
    decide +kernel
  obtain ⟨-, -, -, hlines⟩ := reports_keep_lines (Standard.engine brittleMatchers ⟨false, 10, 1000⟩)
    ps hnames true (textBytes "ba\r\nb\n!") (brittleLedger "a")
  obtain ⟨hsplit, hcount⟩ := hlines (by decide)
  exact ⟨hreports, hsplit, hcount.trans (by rw [hreports]; rfl)⟩

/-- The failure of a pattern with a newline takes two lines, for one line of the input. -/
theorem source_newline_shown :
    let ps : List CompiledPattern := [⟨0, "a\n", 0, none⟩]
    let out := matchReport (Standard.engine brittleMatchers ⟨false, 10, 1000⟩) ps false
      (textBytes "!\n") (brittleLedger "a\n")
    out.1 = ["error: regex match failed: -47 on \"!\" using \"a\n\"\n"] ∧ out.2.1 = true ∧
      (splitLines (textBytes "!\n")).length = 1 ∧ newlines (String.join out.1) = 2 := by
  decide +kernel

end PatternSuite
