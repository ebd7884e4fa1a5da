import PatternSuite.Command.Arguments
import PatternSuite.Command.Report
import PatternSuite.Folder
import PatternSuite.Generation

/-!
# Running commands

A command reads a pattern file, loads it as generation 1, and writes its report. The output is
opened, and so emptied, only after all that is read has been opened; it may be a file that is read.

What the bytes of a pattern file say is a matter of its format. The decoder is a parameter, as the
engine is.

* `Command.run`: a command on a folder.
-/

namespace PatternSuite

open Text

variable {κ σ : Type}

/-- Why a command failed. -/
inductive CommandFailure
  /-- The patterns cannot be loaded. -/
  | pattern (e : PatternError)
  /-- The pattern file is no pattern file, or cannot be read. -/
  | config (f : Json.Fault)
  /-- The pattern file cannot be opened, or the input cannot be read. -/
  | file (f : FileFault)
  /-- An input or output cannot be opened. -/
  | opening (what name : String) (f : FileFault)
  /-- A line of the input is no text. -/
  | notText
  deriving Repr, Inhabited

namespace CommandFailure

/-- What is said about an input or output that cannot be opened. -/
def openingText (what name : String) (f : FileFault) : String :=
  "cannot open " ++ what ++ " \"" ++ name ++ "\": " ++ f.message

/-- What is said about a line that is no text. -/
def notTextText : String := "stream did not contain valid UTF-8"

/-- The failure in words. -/
def message : CommandFailure → String
  | pattern e => e.message
  | config f => f.message
  | file f => f.message
  | opening what name f => openingText what name f
  | notText => notTextText

/-- A report of the failure with its fields, on one line. -/
def report : CommandFailure → String
  | pattern e => e.report
  | config f => f.report
  | file f =>
    "Os \x7b code: " ++ toString f.code ++ ", kind: " ++ f.kind ++ ", message: "
      ++ quote f.describe ++ " \x7d"
  | opening what name f =>
    "Custom \x7b kind: " ++ f.kind ++ ", error: " ++ quote (openingText what name f) ++ " \x7d"
  | notText => "Error \x7b kind: InvalidData, message: " ++ quote notTextText ++ " \x7d"

end CommandFailure

/-- What reads the bytes of a pattern file. -/
abbrev PatternDecoder := List UInt8 → Except Json.Fault PatternFile

/-- What a command works with: the folder, the standard input, and what has been written to the
standard output. -/
structure Surroundings where
  folder : Folder
  input : List UInt8 := []
  output : String := ""
  deriving Repr, Inhabited

/-- Where lines come from. -/
inductive InputStream
  | standard
  | opened (o : Opened)
  deriving DecidableEq, Repr, Inhabited

/-- Where a report goes. -/
inductive OutputStream
  | standard
  | file (path : Path)
  deriving DecidableEq, Repr, Inhabited

namespace Surroundings

/-- The name of a file; nothing or a dash means a standard stream. -/
def fileName? (name : Option String) : Option String := name.filter (· != "-")

/-- Opens the input of a name. -/
def openInput (s : Surroundings) (name : Option String) : Except CommandFailure InputStream :=
  match fileName? name with
  | none => .ok .standard
  | some name =>
    match s.folder.openFile name with
    | .ok o => .ok (.opened o)
    | .error f => .error (.opening "input" name f)

/-- Opens the output of a name. -/
def openOutput (s : Surroundings) (name : Option String) :
    Except CommandFailure (OutputStream × Surroundings) :=
  match fileName? name with
  | none => .ok (.standard, s)
  | some name =>
    match s.folder.create name with
    | .ok (path, folder) => .ok (.file path, { s with folder := folder })
    | .error f => .error (.opening "output" name f)

/-- All that an input holds now. -/
def readAll (s : Surroundings) : InputStream → Except CommandFailure (List UInt8)
  | .standard => .ok s.input
  | .opened o => (s.folder.read o).mapError .file

/-- Writes a report. -/
def write (s : Surroundings) (text : String) : OutputStream → Surroundings
  | .standard => { s with output := s.output ++ text }
  | .file path => { s with folder := s.folder.write path (textBytes text) }

/-- Reads a pattern file. A folder can be opened, but then nothing can be read from it. -/
def readPatterns (D : PatternDecoder) (s : Surroundings) (name : String) :
    Except CommandFailure PatternFile :=
  match s.folder.openFile name with
  | .error f => .error (.file f)
  | .ok o =>
    match s.folder.read o with
    | .error f => .error (.config ⟨.unreadable f.message, none⟩)
    | .ok bytes => (D bytes).mapError .config

end Surroundings

namespace Command

/-- The number of the generation that a command loads. -/
def generationNumber : Nat := 1

/-- Is the form of a pattern optimized? -/
def isOptimized (isJit : κ → Bool) (w : Ledger κ σ) (p : CompiledPattern) : Bool :=
  ((w.form? p.form).map isJit).getD false

/-- Describes the patterns of a generation. -/
def describeAll (isJit : κ → Bool) (ps : List CompiledPattern) (w : Ledger κ σ) : String :=
  String.join (ps.zipIdx.map fun (p, i) => describeLine i p (isOptimized isJit w p))

/-- Describes a generation. -/
def describe (isJit : κ → Bool) (g : Generation) (output : Option String) (s : Surroundings)
    (w : Ledger κ σ) : Except CommandFailure Unit × Surroundings :=
  match s.openOutput output with
  | .error e => (.error e, s)
  | .ok (out, s) => (.ok (), s.write (describeAll isJit g.patterns w) out)

/-- Matches the lines of an input against a generation. What was written before a failure stays
written. -/
def matchInput (E : Engine κ σ) (g : Generation) (input output : Option String)
    (captures : Bool) (s : Surroundings) (w : Ledger κ σ) :
    Except CommandFailure Unit × Surroundings × Ledger κ σ :=
  match s.openInput input with
  | .error e => (.error e, s, w)
  | .ok source =>
    match s.openOutput output with
    | .error e => (.error e, s, w)
    | .ok (out, s) =>
      match s.readAll source with
      | .error e => (.error e, s, w)
      | .ok bytes =>
        let (reports, complete, w) := matchReport E g.patterns captures bytes w
        (if complete then .ok () else .error .notText, s.write (String.join reports) out, w)

/-- Which patterns a command loads. -/
def source : Command → PatternSource
  | check source _ => source
  | matchLines source _ _ _ => source

/-- What a command does with its generation. -/
def use (E : Engine κ σ) (isJit : κ → Bool) (g : Generation) (s : Surroundings)
    (w : Ledger κ σ) : Command → Except CommandFailure Unit × Surroundings × Ledger κ σ
  | .check _ output =>
    let (result, s) := describe isJit g output s w
    (result, s, w)
  | .matchLines _ input output captures => matchInput E g input output captures s w

/-- Runs a command. A generation that was loaded is torn down if the command succeeds, and ends in
any case. -/
def run (D : PatternDecoder) (E : Engine κ σ) (isJit : κ → Bool) (c : Command) (s : Surroundings)
    (w : Ledger κ σ) : Except CommandFailure Unit × Surroundings × Ledger κ σ :=
  match s.readPatterns D c.source.config with
  | .error e => (.error e, s, w)
  | .ok file =>
    match Generation.load E file c.source.jit generationNumber w with
    | (.error e, w) => (.error (.pattern e), s, w)
    | (.ok g, w) =>
      match use E isJit g s w c with
      | (.error e, s, w) => (.error e, s, g.dropped w)
      | (.ok (), s, w) =>
        let (g, w) := g.teardown w
        (.ok (), s, g.dropped w)

end Command

end PatternSuite
