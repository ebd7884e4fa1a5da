import PatternSuite.Command.Run
import PatternSuite.Engine.Native

/-!
# The program

A whole run of the program on a command line: the command with the standard engine, its log, and
how it exits.

* `Program.run`: a whole run.
-/

namespace PatternSuite

/-- How a run of the program ends. -/
structure ProgramEnd where
  /-- The exit code. -/
  code : Nat
  /-- The folder, and what was written to the standard output. -/
  surroundings : Surroundings
  /-- What was written to the standard error. -/
  errors : String
  deriving Inhabited

namespace LogSettings

/-- Is a record of a level shown? -/
def shows (s : LogSettings) (level : LogLevel) : Bool :=
  !s.quiet && level.rank ≤ defaultLevels + s.verbose

end LogSettings

namespace Program

/-- A log record on a line. -/
def logLine (r : LogRecord) : String := r.level.name.toUpper ++ " " ++ r.text ++ "\n"

/-- The log records among events. -/
def records (events : Array Event) : List LogRecord := events.toList.filterMap fun
  | .logged r => some r
  | _ => none

/-- The log as it is shown. -/
def logText (s : LogSettings) (rs : List LogRecord) : String :=
  String.join ((rs.filter fun r => s.shows r.level).map logLine)

/-- The exit code when the command line is not understood. -/
def usageCode : Nat := 2

/-- Runs a command on a JSON pattern file with the standard engine. -/
def runCommand (c : Command) (s : Surroundings) :
    Except CommandFailure Unit × Surroundings × List LogRecord :=
  let (result, s, w) :=
    c.run (PatternFile.decode .stream) (standardEngine {}) Standard.Form.isJit s { state := () }
  (result, s, records w.events)

/-- A whole run. There is none when the command line is not understood. -/
def run (words : List String) (s : Surroundings) : Option ProgramEnd := do
  let invocation ← Invocation.parse words
  let (result, s, rs) := runCommand invocation.command s
  let log := logText invocation.logging rs
  return match result with
    | .ok () => ⟨0, s, log⟩
    | .error e => ⟨1, s, log ++ "Error: " ++ e.report ++ "\n"⟩

end Program

end PatternSuite
