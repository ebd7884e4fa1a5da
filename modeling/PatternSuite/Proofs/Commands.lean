import PatternSuite.Proofs.Folders
import PatternSuite.Proofs.Optimization

/-!
# What commands leave

A command loads its patterns before it opens its input, and opens its input before its output. So
what cannot be loaded or opened leaves the files as they are; of what was opened, only the output
changes, and what it holds then is the report as far as it goes.

* `Refused`: why a command fails before its output is open.
* `run_cases`, `describe_cases`, `matchInput_cases`: the ways through a command.
* `FailedRun`: what a command that failed leaves, by the stage that failed.
* `failed_commands_keep_files`: all commands.
-/

namespace PatternSuite

open Text

variable {κ σ : Type}

namespace Command

/-- The name of the output. -/
def output : Command → Option String
  | check _ output => output
  | matchLines _ _ output _ => output

/-- The name of the input; a command that only describes patterns reads nothing further. -/
def input : Command → Option String
  | check .. => none
  | matchLines _ input _ _ => input

end Command

section Runs

variable {D : PatternDecoder} {E : Engine κ σ} {isJit : κ → Bool} {c : Command} {s : Surroundings}
  {w w₁ : Ledger κ σ} {g : Generation}

/-- A generation is loaded from the pattern file that is there. -/
def Loads (D : PatternDecoder) (E : Engine κ σ) (source : PatternSource) (s : Surroundings)
    (w : Ledger κ σ) (g : Generation) (w₁ : Ledger κ σ) : Prop :=
  ∃ file, s.readPatterns D source.config = .ok file ∧
    Generation.load E file source.jit Command.generationNumber w = (.ok g, w₁)

/-- Why a command fails before its output is open. -/
inductive Refused (D : PatternDecoder) (E : Engine κ σ) (c : Command) (s : Surroundings)
    (w : Ledger κ σ) : CommandFailure → Prop
  | unread {e : CommandFailure} (h : s.readPatterns D c.source.config = .error e) :
      Refused D E c s w e
  | unloaded {file : PatternFile} {e : PatternError} {w₁ : Ledger κ σ}
      (hfile : s.readPatterns D c.source.config = .ok file)
      (h : Generation.load E file c.source.jit Command.generationNumber w = (.error e, w₁)) :
      Refused D E c s w (.pattern e)
  | noInput {e : CommandFailure} (h : s.openInput c.input = .error e) : Refused D E c s w e
  | noOutput {e : CommandFailure} (h : s.openOutput c.output = .error e) : Refused D E c s w e

/-- **A command fails before it uses a generation, or comes to what the use comes to.** -/
theorem run_cases (D : PatternDecoder) (E : Engine κ σ) (isJit : κ → Bool) (c : Command)
    (s : Surroundings) (w : Ledger κ σ) :
    (∃ e, Refused D E c s w e ∧ (c.run D E isJit s w).1 = .error e ∧
        (c.run D E isJit s w).2.1 = s) ∨
      ∃ g w₁, Loads D E c.source s w g w₁ ∧
        (c.run D E isJit s w).1 = (Command.use E isJit g s w₁ c).1 ∧
        (c.run D E isJit s w).2.1 = (Command.use E isJit g s w₁ c).2.1 := by
  unfold Command.run
  cases hfile : s.readPatterns D c.source.config with
  | error e => exact .inl ⟨e, .unread hfile, rfl, rfl⟩
  | ok file =>
  rcases hload : Generation.load E file c.source.jit Command.generationNumber w with ⟨_ | g, w₁⟩
  · refine .inl ⟨_, .unloaded hfile hload, ?_⟩
    simp only [hload, and_self]
  · refine .inr ⟨g, w₁, ⟨file, hfile, hload⟩, ?_⟩
    simp only [hload]
    split <;> next heq => exact ⟨(congrArg (·.1) heq).symm, (congrArg (·.2.1) heq).symm⟩

/-- **A description** changes nothing, or is what the output holds. -/
theorem describe_cases (isJit : κ → Bool) (g : Generation) (output : Option String)
    (s : Surroundings) (w : Ledger κ σ) :
    (∃ e, s.openOutput output = .error e ∧
        Command.describe isJit g output s w = (.error e, s)) ∨
      ∃ out, s.openOutput output = .ok out ∧
        Command.describe isJit g output s w =
          (.ok (), s.reported output (Command.describeAll isJit g.patterns w)) := by
  unfold Command.describe
  rcases hout : s.openOutput output with e | ⟨out, s'⟩
  · exact .inl ⟨e, rfl, rfl⟩
  · obtain ⟨-, hwrite⟩ := Surroundings.openOutput_cases hout
    exact .inr ⟨_, rfl, congrArg (Prod.mk _) (hwrite _)⟩

/-- How a match of an input ends, and what it leaves. -/
inductive Matched (E : Engine κ σ) (g : Generation) (input output : Option String)
    (captures : Bool) (s : Surroundings) (w : Ledger κ σ) :
    Except CommandFailure Unit → Surroundings → Prop
  | noInput {e : CommandFailure} (h : s.openInput input = .error e) :
      Matched E g input output captures s w (.error e) s
  | noOutput {e : CommandFailure} (h : s.openOutput output = .error e) :
      Matched E g input output captures s w (.error e) s
  /-- A folder can be opened as an input, but not read. -/
  | folder {out : OutputStream × Surroundings} (hin : s.openInput input = .ok (.opened .folder))
      (hout : s.openOutput output = .ok out) :
      Matched E g input output captures s w (.error (.file .isFolder)) (s.reported output "")
  /-- What is read is what the input holds when the output has been emptied. -/
  | answered {source : InputStream} {out : OutputStream × Surroundings} {held bytes : List UInt8}
      (hin : s.openInput input = .ok source) (hout : s.openOutput output = .ok out)
      (hheld : s.held input = some held)
      (hbytes : (s.reported output "").held input = some bytes) :
      Matched E g input output captures s w
        (if (matchReport E g.patterns captures bytes w).2.1 then .ok () else .error .notText)
        (s.reported output (String.join (matchReport E g.patterns captures bytes w).1))

/-- A match leaves what there was, but for a report. -/
theorem Matched.reported {input output : Option String} {captures : Bool}
    {r : Except CommandFailure Unit} {s' : Surroundings}
    (h : Matched E g input output captures s w r s') :
    s' = s ∨ ∃ text, s' = s.reported output text := by
  cases h with
  | noInput => exact .inl rfl
  | noOutput => exact .inl rfl
  | folder => exact .inr ⟨"", rfl⟩
  | answered => exact .inr ⟨_, rfl⟩

/-- A match that succeeds has answered what it read. -/
theorem Matched.of_ok {input output : Option String} {captures : Bool} {s' : Surroundings}
    (h : Matched E g input output captures s w (.ok ()) s') :
    ∃ held bytes, s.held input = some held ∧ (s.reported output "").held input = some bytes ∧
      (matchReport E g.patterns captures bytes w).2.1 = true ∧
      s' = s.reported output (String.join (matchReport E g.patterns captures bytes w).1) := by
  generalize hr : (Except.ok () : Except CommandFailure Unit) = r at h
  cases h with
  | noInput => cases hr
  | noOutput => cases hr
  | folder => cases hr
  | answered _ _ hheld hbytes =>
    split at hr
    · next hcomplete => exact ⟨_, _, hheld, hbytes, hcomplete, rfl⟩
    · cases hr

/-- An input that holds something holds something when a report has been written. -/
theorem isSome_held_reported {input : Option String} (h : (s.held input).isSome)
    (output : Option String) (text : String) : ((s.reported output text).held input).isSome := by
  by_cases hsame : Surroundings.SameFile input output
  · rw [Surroundings.held_reported_of_same hsame]
    rfl
  · rwa [Surroundings.held_reported_of_other hsame]

/-- **A match of an input ends in one of these ways.** -/
theorem matchInput_cases (E : Engine κ σ) (g : Generation) (input output : Option String)
    (captures : Bool) (s : Surroundings) (w : Ledger κ σ) :
    Matched E g input output captures s w (Command.matchInput E g input output captures s w).1
      (Command.matchInput E g input output captures s w).2.1 := by
  unfold Command.matchInput
  cases hin : s.openInput input with
  | error e => exact .noInput hin
  | ok source =>
  rcases hout : s.openOutput output with e | ⟨out, s'⟩
  · exact .noOutput hout
  obtain ⟨rfl, hwrite⟩ := Surroundings.openOutput_cases hout
  rcases Surroundings.openInput_cases hin with rfl | ⟨hsome, hread⟩
  · exact .folder hin hout
  · obtain ⟨held, hheld⟩ := Option.isSome_iff_exists.1 hsome
    obtain ⟨bytes, hbytes⟩ :=
      Option.isSome_iff_exists.1 (isSome_held_reported hsome output "")
    simp only [hread _ bytes hbytes, hwrite]
    exact .answered hin hout hheld hbytes

/-- Answers that stop before the last line stop at one that is no text. -/
theorem matchLines_stopped {ps : List CompiledPattern} {captures : Bool}
    {lines : List (List UInt8)} (h : (matchLines E ps captures lines w).2.1 = false) :
    ∃ before bad after, lines = before ++ bad :: after ∧ textOfBytes? bad = none ∧
      (matchLines E ps captures before w).2.1 = true ∧
      (matchLines E ps captures lines w).1 = (matchLines E ps captures before w).1 := by
  induction lines generalizing w with
  | nil => cases h
  | cons line lines ih =>
    cases htext : textOfBytes? line with
    | none =>
      refine ⟨[], line, lines, rfl, htext, rfl, ?_⟩
      unfold matchLines
      rw [htext]
    | some text =>
      unfold matchLines at h
      rw [htext] at h
      obtain ⟨before, bad, after, rfl, hbad, hcomplete, hreports⟩ := ih h
      refine ⟨line :: before, bad, after, rfl, hbad, ?_, ?_⟩
      · unfold matchLines
        rw [htext]
        exact hcomplete
      · unfold matchLines
        rw [htext]
        exact congrArg (List.cons _) hreports

/-- What a command that failed leaves, by the stage that failed. -/
inductive FailedRun (D : PatternDecoder) (E : Engine κ σ) (s : Surroundings) (w : Ledger κ σ) :
    Command → CommandFailure → Surroundings → Prop
  | refused {c : Command} {e : CommandFailure} (h : Refused D E c s w e) : FailedRun D E s w c e s
  /-- The output was emptied before the folder could not be read. -/
  | folder {source : PatternSource} {input output : Option String} {captures : Bool}
      {g : Generation} {w₁ : Ledger κ σ} {out : OutputStream × Surroundings}
      (hload : Loads D E source s w g w₁) (hin : s.openInput input = .ok (.opened .folder))
      (hout : s.openOutput output = .ok out) :
      FailedRun D E s w (.matchLines source input output captures) (.file .isFolder)
        (s.reported output "")
  /-- The lines before one that is no text were answered. -/
  | notText {source : PatternSource} {input output : Option String} {captures : Bool}
      {g : Generation} {w₁ : Ledger κ σ} {out : OutputStream × Surroundings}
      {bytes bad : List UInt8} {before after : List (List UInt8)}
      (hload : Loads D E source s w g w₁) (hout : s.openOutput output = .ok out)
      (hheld : s.held input = some bytes)
      (hlines : splitLines bytes = before ++ bad :: after) (hbad : textOfBytes? bad = none)
      (hbefore : (matchLines E g.patterns captures before w₁).2.1 = true) :
      FailedRun D E s w (.matchLines source input output captures) .notText
        (s.reported output (String.join (matchLines E g.patterns captures before w₁).1))

/-- A match of an input that fails with its patterns loaded. -/
theorem failedRun_of_matched {source : PatternSource} {input output : Option String}
    {captures : Bool} (hload : Loads D E source s w g w₁) {e : CommandFailure} {s' : Surroundings}
    (h : Matched E g input output captures s w₁ (.error e) s') :
    FailedRun D E s w (.matchLines source input output captures) e s' := by
  generalize hr : (Except.error e : Except CommandFailure Unit) = r at h
  cases h with
  | noInput h =>
    obtain rfl := Except.error.inj hr
    exact .refused (.noInput h)
  | noOutput h =>
    obtain rfl := Except.error.inj hr
    exact .refused (.noOutput h)
  | folder hin hout =>
    obtain rfl := Except.error.inj hr
    exact .folder hload hin hout
  | answered _ hout hheld hbytes =>
    split at hr
    · cases hr
    next hcomplete =>
    obtain rfl := Except.error.inj hr
    obtain ⟨before, bad, after, hlines, hbad, hbefore, hreports⟩ :=
      matchLines_stopped (Bool.eq_false_iff.2 hcomplete)
    rw [matchReport, hreports]
    refine .notText hload hout ?_ hlines hbad hbefore
    -- an input that was emptied has no lines, so this one holds what it held
    by_cases hsame : Surroundings.SameFile input output
    · rw [Surroundings.held_reported_of_same hsame] at hbytes
      obtain rfl := Option.some.inj hbytes
      simp [splitLines, splitLinesFrom, textBytes] at hlines
    · rwa [Surroundings.held_reported_of_other hsame] at hbytes

/-- **What a run leaves**, whether it fails or not: what there was, but for a report. -/
theorem run_reported (D : PatternDecoder) (E : Engine κ σ) (isJit : κ → Bool) (c : Command)
    (s : Surroundings) (w : Ledger κ σ) :
    (c.run D E isJit s w).2.1 = s ∨
      ∃ text, (c.run D E isJit s w).2.1 = s.reported c.output text := by
  rcases run_cases D E isJit c s w with ⟨e, -, -, hs⟩ | ⟨g, w₁, -, -, hs⟩
  · exact .inl hs
  rw [hs]
  cases c with
  | check source output =>
    rcases describe_cases isJit g output s w₁ with ⟨e, -, h⟩ | ⟨out, -, h⟩
    · exact .inl (congrArg (·.2) h)
    · exact .inr ⟨_, congrArg (·.2) h⟩
  | matchLines source input output captures =>
    exact (matchInput_cases E g input output captures s w₁).reported

/-- **Every failure has its stage.** -/
theorem failedRun_of_run {e : CommandFailure} (h : (c.run D E isJit s w).1 = .error e) :
    FailedRun D E s w c e (c.run D E isJit s w).2.1 := by
  rcases run_cases D E isJit c s w with ⟨e', hrefused, he, hs⟩ | ⟨g, w₁, hload, he, hs⟩
  · obtain rfl := Except.error.inj (h.symm.trans he)
    rw [hs]
    exact .refused hrefused
  rw [he] at h
  rw [hs]
  cases c with
  | check source output =>
    rcases describe_cases isJit g output s w₁ with ⟨e', hout, hdescribe⟩ | ⟨out, -, hdescribe⟩
    · obtain rfl := Except.error.inj (h.symm.trans (congrArg (·.1) hdescribe))
      rw [show (Command.use E isJit g s w₁ (.check source output)).2.1 = s from
        congrArg (·.2) hdescribe]
      exact .refused (.noOutput hout)
    · cases h.symm.trans (congrArg (·.1) hdescribe)
  | matchLines source input output captures =>
    have hmatched := matchInput_cases E g input output captures s w₁
    rw [show (Command.matchInput E g input output captures s w₁).1 = .error e from h] at hmatched
    exact failedRun_of_matched hload hmatched

/-- A match with an input or output that cannot be opened fails and changes nothing. -/
theorem Matched.of_refused {input output : Option String} {captures : Bool}
    {r : Except CommandFailure Unit} {s' : Surroundings}
    (h : Matched E g input output captures s w r s') {e : CommandFailure}
    (hclosed : s.openInput input = .error e ∨ s.openOutput output = .error e) :
    (∃ e', r = .error e') ∧ s' = s := by
  cases h with
  | noInput => exact ⟨⟨_, rfl⟩, rfl⟩
  | noOutput => exact ⟨⟨_, rfl⟩, rfl⟩
  | folder hin hout | answered hin hout =>
    rcases hclosed with hclosed | hclosed
    · cases hin.symm.trans hclosed
    · cases hout.symm.trans hclosed

/-- **What cannot be loaded or opened leaves everything as it is**, and the command fails. -/
theorem run_of_refused {e : CommandFailure} (h : Refused D E c s w e) :
    (∃ e', (c.run D E isJit s w).1 = .error e') ∧ (c.run D E isJit s w).2.1 = s := by
  rcases run_cases D E isJit c s w with ⟨e', -, he, hs⟩ | ⟨g, w₁, ⟨file, hfile, hload⟩, he, hs⟩
  · exact ⟨⟨e', he⟩, hs⟩
  rw [he, hs]
  have hclosed : s.openInput c.input = .error e ∨ s.openOutput c.output = .error e := by
    cases h with
    | unread h => cases hfile.symm.trans h
    | unloaded hfile' h =>
      obtain rfl := Except.ok.inj (hfile.symm.trans hfile')
      cases hload.symm.trans h
    | noInput h => exact .inl h
    | noOutput h => exact .inr h
  cases c with
  | check source output =>
    rcases describe_cases isJit g output s w₁ with ⟨e', -, hdescribe⟩ | ⟨out, hout, -⟩
    · exact ⟨⟨e', congrArg (·.1) hdescribe⟩, congrArg (·.2) hdescribe⟩
    · rcases hclosed with hclosed | hclosed
      · cases hclosed
      · cases hout.symm.trans hclosed
  | matchLines source input output captures =>
    exact (matchInput_cases E g input output captures s w₁).of_refused hclosed

/-- **Commands that fail keep the files.** A command whose patterns cannot be loaded, or whose
input or output cannot be opened, fails and changes nothing. A description has no other failures.
A match has two: it was given a folder to read, and the output is empty, or it came to a line that
is no text, and the output is the reports of the lines before it. No run changes a file that is not
its output. -/
theorem failed_commands_keep_files (D : PatternDecoder) (E : Engine κ σ) (isJit : κ → Bool)
    (s : Surroundings) (w : Ledger κ σ) :
    (∀ (c : Command) e, Refused D E c s w e →
        (∃ e', (c.run D E isJit s w).1 = .error e') ∧ (c.run D E isJit s w).2.1 = s) ∧
      (∀ source output e, ((Command.check source output).run D E isJit s w).1 = .error e →
        ((Command.check source output).run D E isJit s w).2.1 = s) ∧
      (∀ (c : Command) e, (c.run D E isJit s w).1 = .error e →
        FailedRun D E s w c e (c.run D E isJit s w).2.1) ∧
      (∀ output path text, Surroundings.filePath? output = some path →
        (s.reported output text).folder.content? path = some (textBytes text)) ∧
      ∀ (c : Command) path, Surroundings.filePath? c.output ≠ some path →
        (c.run D E isJit s w).2.1.folder.content? path = s.folder.content? path := by
  refine ⟨fun c e h => run_of_refused h, ?_, fun c e h => failedRun_of_run h,
    fun output path text h => Surroundings.content?_reported_self h text, ?_⟩
  · intro source output e h
    have hfailed := failedRun_of_run h
    generalize ((Command.check source output).run D E isJit s w).2.1 = s' at hfailed
    cases hfailed
    rfl
  · intro c path hpath
    rcases run_reported D E isJit c s w with h | ⟨text, h⟩
    · rw [h]
    · rw [h, Surroundings.content?_reported_of_ne hpath]

end Runs

/-! ## A folder with three files -/

/-- A folder with a pattern file, an input and a report. -/
def threeFiles (config input report : List UInt8) : Surroundings where
  folder := { files := [(["c"], config), (["l"], input), (["o"], report)] }

/-- A pattern file with one pattern. -/
def patternText : String := "\x7b\"patterns\": [\x7b\"pattern\": \"a\"\x7d]\x7d"

theorem decode_patternText :
    (PatternFile.decode .stream (textBytes patternText)).toOption =
      some ⟨{}, [{ text := "a" }]⟩ := by
  decide +kernel

section ThreeFiles

variable (config input report : List UInt8)

theorem openFile_threeFiles :
    (threeFiles config input report).folder.openFile "c" = .ok (.file ["c"]) := rfl

theorem openInput_threeFiles :
    (threeFiles config input report).openInput (some "l") = .ok (.opened (.file ["l"])) := rfl

theorem openInput_threeFiles_folder :
    (threeFiles config input report).openInput (some ".") = .ok (.opened .folder) := rfl

theorem openOutput_threeFiles :
    (threeFiles config input report).openOutput (some "o") =
      .ok (.file ["o"], threeFiles config input []) := rfl

theorem openOutput_threeFiles_same :
    (threeFiles config input report).openOutput (some "l") =
      .ok (.file ["l"], threeFiles config [] report) := rfl

variable {config}

theorem readPatterns_threeFiles {D : PatternDecoder} {file : PatternFile}
    (h : (D config).toOption = some file) :
    (threeFiles config input report).readPatterns D "c" = .ok file := by
  rw [Surroundings.readPatterns, openFile_threeFiles]
  show Except.mapError CommandFailure.config (D config) = _
  cases hdecode : D config with
  | error e =>
    rw [hdecode] at h
    cases h
  | ok decoded =>
    rw [hdecode] at h
    exact congrArg Except.ok (Option.some.inj h)

end ThreeFiles

/-- The match of the lines of a file, with the report in a file. -/
def threeFilesCommand (input output : String) : Command :=
  .matchLines ⟨"c", none⟩ (some input) (some output) false

section ThreeFilesRuns

variable {D : PatternDecoder} {config : List UInt8}
  (h : (D config).toOption = some ⟨{}, [{ text := "a" }]⟩)
include h

/-- A line that is no text comes after one that was answered. -/
theorem run_threeFiles_notText :
    let E := Standard.engine literalMatchers ⟨false, 10, 1000⟩
    ∃ w, (threeFilesCommand "l" "o").run D E Standard.Form.isJit
        (threeFiles config [97, 10, 255, 10, 98] [55, 10]) { state := () } =
      (.error .notText, threeFiles config [97, 10, 255, 10, 98] [48, 10], w) := by
  simp only [threeFilesCommand, Command.run, Command.source, readPatterns_threeFiles _ _ h,
    Command.use, Command.matchInput, openInput_threeFiles, openOutput_threeFiles]
  exact ⟨_, rfl⟩

theorem run_threeFiles_folder :
    let E := Standard.engine literalMatchers ⟨false, 10, 1000⟩
    ∃ w, (threeFilesCommand "." "o").run D E Standard.Form.isJit
        (threeFiles config [97, 10] [55, 10]) { state := () } =
      (.error (.file .isFolder), threeFiles config [97, 10] [], w) := by
  simp only [threeFilesCommand, Command.run, Command.source, readPatterns_threeFiles _ _ h,
    Command.use, Command.matchInput, openInput_threeFiles_folder, openOutput_threeFiles]
  exact ⟨_, rfl⟩

end ThreeFilesRuns

/-- The earlier report gives way to that of the line before the one that is no text. -/
theorem failed_commands_keep_files_notText :
    let D : PatternDecoder := PatternFile.decode .stream
    let E := Standard.engine literalMatchers ⟨false, 10, 1000⟩
    let s := threeFiles (textBytes patternText) [97, 10, 255, 10, 98] [55, 10]
    let run := (threeFilesCommand "l" "o").run D E Standard.Form.isJit s { state := () }
    run.1 = .error .notText ∧
      FailedRun D E s { state := () } (threeFilesCommand "l" "o") .notText run.2.1 ∧
      run.2.1.folder.content? ["o"] = some [48, 10] ∧
      run.2.1.folder.content? ["l"] = s.folder.content? ["l"] := by
  intro D E s run
  obtain ⟨w, hrun⟩ := run_threeFiles_notText decode_patternText
  have hrun : (threeFilesCommand "l" "o").run D E Standard.Form.isJit s { state := () } =
    (.error .notText, threeFiles _ _ [48, 10], w) := hrun
  obtain ⟨-, -, hruns, -, hkept⟩ :=
    failed_commands_keep_files D E Standard.Form.isJit s { state := () }
  have hfailed := hruns (threeFilesCommand "l" "o") .notText
  have hother := hkept (threeFilesCommand "l" "o") ["l"] (by decide)
  rw [hrun] at hfailed hother
  rw [show run = _ from hrun]
  exact ⟨rfl, hfailed rfl, rfl, hother⟩

/-- A folder can be opened as an input, and an earlier report is gone when it cannot be read. -/
theorem folder_empties_report :
    let D : PatternDecoder := PatternFile.decode .stream
    let E := Standard.engine literalMatchers ⟨false, 10, 1000⟩
    let s := threeFiles (textBytes patternText) [97, 10] [55, 10]
    let run := (threeFilesCommand "." "o").run D E Standard.Form.isJit s { state := () }
    run.1 = .error (.file .isFolder) ∧ s.openInput (some ".") = .ok (.opened .folder) ∧
      s.folder.content? ["o"] = some [55, 10] ∧ run.2.1.folder.content? ["o"] = some [] := by
  intro D E s run
  obtain ⟨w, hrun⟩ := run_threeFiles_folder decode_patternText
  have hrun : run = (.error (.file .isFolder), threeFiles _ _ [], w) := hrun
  rw [hrun]
  exact ⟨rfl, openInput_threeFiles_folder _ _ _, rfl, rfl⟩

end PatternSuite
