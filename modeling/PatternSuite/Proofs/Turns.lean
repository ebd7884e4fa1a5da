import PatternSuite.Proofs.Commands
import PatternSuite.Proofs.LineReports

/-!
# Reading and writing in turn

A match reads a line of its input, writes the report of the line, and goes on. What it reads is what
the input holds by then, which the reports may have changed: if the input is the output, it was
emptied before the first line was read. Any other input holds what it held when the command started.

* `Turns`: lines that are read and answered in turn; `Turns.unique`: they come to one end.
* `turns_of_held`: they come to the report of what the input holds when the output is empty.
* `matches_held_input`: the matches that succeed.
-/

namespace PatternSuite

open Text

variable {κ σ : Type}

/-- What is left of some bytes behind their first line has the other lines. -/
theorem splitLines_drop {bytes line : List UInt8} {lines : List (List UInt8)}
    (h : splitLines bytes = line :: lines) : splitLines (bytes.drop line.length) = lines := by
  have hlines := h ▸ lines_splitLines bytes
  cases hlines with
  | last => simp [splitLines, splitLinesFrom]
  | @cons first rest _ hfirst hrest =>
    have happend : first ++ 10 :: rest = (first ++ [10]) ++ rest := List.append_cons ..
    rw [happend, List.drop_left, splitLines_of_lines hrest]

/-- The lines behind an offset of an input, when a report has been written so far. -/
def linesLeft (s : Surroundings) (input output : Option String) (offset : Nat) (written : String) :
    Option (List (List UInt8)) :=
  ((s.reported output written).held input).map fun bytes => splitLines (bytes.drop offset)

/-- Lines are read from the input as it is by now, and their reports go behind what was written
before. -/
inductive Turns (E : Engine κ σ) (ps : List CompiledPattern) (captures : Bool) (s : Surroundings)
    (input output : Option String) :
    Nat → String → Ledger κ σ → Except CommandFailure Unit → String → Prop
  | ended {offset : Nat} {written : String} {w : Ledger κ σ}
      (hlines : linesLeft s input output offset written = some []) :
      Turns E ps captures s input output offset written w (.ok ()) written
  | notText {offset : Nat} {written : String} {w : Ledger κ σ} {line : List UInt8}
      {lines : List (List UInt8)}
      (hlines : linesLeft s input output offset written = some (line :: lines))
      (htext : textOfBytes? line = none) :
      Turns E ps captures s input output offset written w (.error .notText) written
  | turn {offset : Nat} {written text report final : String} {w w' : Ledger κ σ}
      {line : List UInt8} {lines : List (List UInt8)} {r : Except CommandFailure Unit}
      (hlines : linesLeft s input output offset written = some (line :: lines))
      (htext : textOfBytes? line = some text)
      (hreport : lineReport E ps captures (trimLine text) w = (report, w'))
      (h : Turns E ps captures s input output (offset + line.length) (written ++ report) w' r
        final) :
      Turns E ps captures s input output offset written w r final

/-- **Turns come to one end only.** -/
theorem Turns.unique {E : Engine κ σ} {ps : List CompiledPattern} {captures : Bool}
    {s : Surroundings} {input output : Option String} {offset : Nat} {written final final' : String}
    {w : Ledger κ σ} {r r' : Except CommandFailure Unit}
    (h : Turns E ps captures s input output offset written w r final)
    (h' : Turns E ps captures s input output offset written w r' final') :
    r = r' ∧ final = final' := by
  induction h with
  | ended hlines =>
    cases h' with
    | ended => exact ⟨rfl, rfl⟩
    | notText hlines' | turn hlines' => cases hlines.symm.trans hlines'
  | notText hlines htext =>
    cases h' with
    | ended hlines' => cases hlines.symm.trans hlines'
    | notText => exact ⟨rfl, rfl⟩
    | turn hlines' htext' =>
      obtain ⟨⟩ := hlines.symm.trans hlines'
      cases htext.symm.trans htext'
  | turn hlines htext hreport _ ih =>
    cases h' with
    | ended hlines' => cases hlines.symm.trans hlines'
    | notText hlines' htext' =>
      obtain ⟨⟩ := hlines.symm.trans hlines'
      cases htext.symm.trans htext'
    | turn hlines' htext' hreport' h' =>
      obtain ⟨⟩ := hlines.symm.trans hlines'
      obtain ⟨⟩ := htext.symm.trans htext'
      obtain ⟨⟩ := hreport.symm.trans hreport'
      exact ih h'

section Turns

variable (E : Engine κ σ) (ps : List CompiledPattern) (captures : Bool) {s : Surroundings}
  {input output : Option String} {bytes : List UInt8}

/-- **An input that no report changes** is answered line by line. -/
theorem turns_of_unchanged (hheld : ∀ text, (s.reported output text).held input = some bytes)
    {lines : List (List UInt8)} {offset : Nat} (hlines : splitLines (bytes.drop offset) = lines)
    (written : String) (w : Ledger κ σ) :
    Turns E ps captures s input output offset written w
      (if (matchLines E ps captures lines w).2.1 then .ok () else .error .notText)
      (written ++ String.join (matchLines E ps captures lines w).1) := by
  have hleft (offset : Nat) (written : String) :
      linesLeft s input output offset written = some (splitLines (bytes.drop offset)) := by
    rw [linesLeft, hheld]
    rfl
  -- each turn leaves one line less behind the offset, and the input as it was
  induction lines generalizing offset written w with
  | nil =>
    have hend := (hleft offset written).trans (congrArg some hlines)
    simpa [matchLines] using Turns.ended hend
  | cons line lines ih =>
    have hnext := (hleft offset written).trans (congrArg some hlines)
    cases htext : textOfBytes? line with
    | none => simpa [matchLines, htext] using Turns.notText hnext htext
    | some text =>
      have hrest : splitLines (bytes.drop (offset + line.length)) = lines := by
        rw [← List.drop_drop, splitLines_drop hlines]
      rcases hreport : lineReport E ps captures (trimLine text) w with ⟨report, w'⟩
      unfold matchLines
      rw [htext]
      simp only [hreport]
      refine .turn hnext htext hreport ?_
      rw [String.join_cons, ← String.append_assoc]
      exact ih hrest (written ++ report) w'

/-- **Any input is answered as what it holds when the output is empty.** -/
theorem turns_of_held (hbytes : (s.reported output "").held input = some bytes)
    (w : Ledger κ σ) :
    Turns E ps captures s input output 0 "" w
      (if (matchReport E ps captures bytes w).2.1 then .ok () else .error .notText)
      (String.join (matchReport E ps captures bytes w).1) := by
  by_cases hsame : Surroundings.SameFile input output
  · -- the input was emptied with the output, and there is nothing to read
    have hleft : linesLeft s input output 0 "" = some (splitLines bytes) := by
      rw [linesLeft, hbytes]
      rfl
    rw [Surroundings.held_reported_of_same hsame] at hbytes
    obtain rfl := Option.some.inj hbytes
    exact .ended hleft
  · have hheld (text : String) : (s.reported output text).held input = some bytes := by
      rw [Surroundings.held_reported_of_other hsame] at hbytes ⊢
      exact hbytes
    have hlines : splitLines (bytes.drop 0) = splitLines bytes := rfl
    have hturns := turns_of_unchanged E ps captures hheld hlines "" w
    rw [String.empty_append] at hturns
    exact hturns

end Turns

/-- **A match that succeeds reports on the input it was given**, unless that is the output. The
patterns are those of the pattern file as it was when the command started. Lines are read and
answered in turn, and the answers are all that the output holds: those to the lines that the input
held, if it is not the output, and none at all otherwise. -/
theorem matches_held_input (D : PatternDecoder) (E : Engine κ σ) (isJit : κ → Bool)
    (source : PatternSource) (input output : Option String) (captures : Bool) (s : Surroundings)
    (w : Ledger κ σ) (path : Path) (hpath : Surroundings.filePath? output = some path)
    (h : ((Command.matchLines source input output captures).run D E isJit s w).1 = .ok ()) :
    ∃ g w₁ bytes text, Loads D E source s w g w₁ ∧ s.held input = some bytes ∧
      Turns E g.patterns captures s input output 0 "" w₁ (.ok ()) text ∧
      ((Command.matchLines source input output captures).run D E isJit s w).2.1.folder.content?
          path = some (textBytes text) ∧
      (Surroundings.filePath? input ≠ some path →
        (matchReport E g.patterns captures bytes w₁).2.1 = true ∧
          text = String.join (matchReport E g.patterns captures bytes w₁).1) ∧
      (Surroundings.filePath? input = some path → text = "") := by
  rcases run_cases D E isJit (.matchLines source input output captures) s w with
    ⟨e, -, he, -⟩ | ⟨g, w₁, hload, hr, hs⟩
  · rw [h] at he
    cases he
  have hmatched := matchInput_cases E g input output captures s w₁
  rw [show (Command.matchInput E g input output captures s w₁).1 = .ok () from hr.symm.trans h,
    show (Command.matchInput E g input output captures s w₁).2.1 = _ from hs.symm] at hmatched
  obtain ⟨held, bytes, hheld, hbytes, hcomplete, hs'⟩ := hmatched.of_ok
  have hturns := turns_of_held E g.patterns captures hbytes w₁
  rw [hcomplete, if_pos rfl] at hturns
  refine ⟨g, w₁, held, _, hload, hheld, hturns, ?_, fun hne => ?_, fun hsame => ?_⟩
  · rw [hs', Surroundings.content?_reported_self hpath]
  · have hother : ¬ Surroundings.SameFile input output := by
      rintro ⟨_, hin, hout⟩
      exact hne (hin.trans (hout.symm.trans hpath))
    rw [Surroundings.held_reported_of_other hother, hheld] at hbytes
    obtain rfl := Option.some.inj hbytes
    exact ⟨hcomplete, rfl⟩
  · rw [Surroundings.held_reported_of_same ⟨path, hsame, hpath⟩] at hbytes
    obtain rfl := Option.some.inj hbytes
    rfl

section ThreeFilesRuns

variable {D : PatternDecoder} {config : List UInt8}
  (h : (D config).toOption = some ⟨{}, [{ text := "a" }]⟩)
include h

theorem run_threeFiles :
    let E := Standard.engine literalMatchers ⟨false, 10, 1000⟩
    ∃ w, (threeFilesCommand "l" "o").run D E Standard.Form.isJit
        (threeFiles config [97, 10, 98] [55, 10]) { state := () } =
      (.ok (), threeFiles config [97, 10, 98] (textBytes "0\ndeclined\n"), w) := by
  simp only [threeFilesCommand, Command.run, Command.source, readPatterns_threeFiles _ _ h,
    Command.use, Command.matchInput, openInput_threeFiles, openOutput_threeFiles]
  exact ⟨_, rfl⟩

theorem run_threeFiles_same :
    let E := Standard.engine literalMatchers ⟨false, 10, 1000⟩
    ∃ w, (threeFilesCommand "l" "l").run D E Standard.Form.isJit
        (threeFiles config [97, 10, 98] [55, 10]) { state := () } =
      (.ok (), threeFiles config [] [55, 10], w) := by
  simp only [threeFilesCommand, Command.run, Command.source, readPatterns_threeFiles _ _ h,
    Command.use, Command.matchInput, openInput_threeFiles, openOutput_threeFiles_same]
  exact ⟨_, rfl⟩

theorem report_threeFiles :
    let E := Standard.engine literalMatchers ⟨false, 10, 1000⟩
    ∃ g w₁, Loads D E ⟨"c", none⟩ (threeFiles config [97, 10, 98] [55, 10]) { state := () } g w₁ ∧
      String.join (matchReport E g.patterns false [97, 10, 98] w₁).1 = "0\ndeclined\n" :=
  ⟨_, _, ⟨_, readPatterns_threeFiles _ _ h, rfl⟩, rfl⟩

end ThreeFilesRuns

/-- Two lines with a report in a file of its own. -/
theorem matches_held_input_threeFiles :
    let D : PatternDecoder := PatternFile.decode .stream
    let E := Standard.engine literalMatchers ⟨false, 10, 1000⟩
    let s := threeFiles (textBytes patternText) [97, 10, 98] [55, 10]
    let run := (threeFilesCommand "l" "o").run D E Standard.Form.isJit s { state := () }
    Surroundings.filePath? (some "o") = some ["o"] ∧ run.1 = .ok () ∧
      run.2.1.folder.content? ["o"] = some (textBytes "0\ndeclined\n") ∧
      ∃ g w₁ text, Loads D E ⟨"c", none⟩ s { state := () } g w₁ ∧
        run.2.1.folder.content? ["o"] = some (textBytes text) ∧
        text = String.join (matchReport E g.patterns false [97, 10, 98] w₁).1 := by
  intro D E s run
  have hpath : Surroundings.filePath? (some "o") = some ["o"] := rfl
  have hinput : Surroundings.filePath? (some "l") = some ["l"] := rfl
  obtain ⟨w, hrun⟩ := run_threeFiles decode_patternText
  have hrun : (Command.matchLines ⟨"c", none⟩ (some "l") (some "o") false).run D E
    Standard.Form.isJit s { state := () } = (.ok (), threeFiles _ _ _, w) := hrun
  obtain ⟨g, w₁, bytes, text, hload, hheld, -, hcontent, hreport, -⟩ :=
    matches_held_input D E Standard.Form.isJit ⟨"c", none⟩ (some "l") (some "o") false s
      { state := () } ["o"] hpath (by rw [hrun])
  rw [hrun] at hcontent
  rw [Surroundings.held, hinput] at hheld
  obtain rfl : bytes = [97, 10, 98] := (Option.some.inj hheld).symm
  rw [show run = _ from hrun]
  exact ⟨hpath, rfl, rfl, g, w₁, text, hload, hcontent, (hreport (by rw [hinput]; decide)).2⟩

/-- With one file for the input and the report, the lines are gone and nothing is reported. -/
theorem input_emptied_by_report :
    let D : PatternDecoder := PatternFile.decode .stream
    let E := Standard.engine literalMatchers ⟨false, 10, 1000⟩
    let s := threeFiles (textBytes patternText) [97, 10, 98] [55, 10]
    let run := (threeFilesCommand "l" "l").run D E Standard.Form.isJit s { state := () }
    run.1 = .ok () ∧ s.held (some "l") = some [97, 10, 98] ∧
      run.2.1.folder.content? ["l"] = some [] ∧
      ∃ g w₁, Loads D E ⟨"c", none⟩ s { state := () } g w₁ ∧
        String.join (matchReport E g.patterns false [97, 10, 98] w₁).1 = "0\ndeclined\n" := by
  intro D E s run
  obtain ⟨w, hrun⟩ := run_threeFiles_same decode_patternText
  rw [show run = (.ok (), threeFiles _ [] [55, 10], w) from hrun]
  exact ⟨rfl, rfl, rfl, report_threeFiles decode_patternText⟩

end PatternSuite
