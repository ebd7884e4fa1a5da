/-!
# Command lines

The words of a command line: flags, options with a value, and a command. Every option is given at
most once; a flag that counts may be repeated. The flags about logging may stand before and behind
the command.

* `Command.parse`: a command with its options.
* `Invocation.parse`: a whole command line.
-/

namespace PatternSuite

/-- Which patterns a command loads. -/
structure PatternSource where
  /-- The name of the pattern file. -/
  config : String
  /-- Overrides the flag of the file. -/
  jit : Option String := none
  deriving DecidableEq, Repr, Inhabited

/-- A command. Where the name of an input or output is absent, a standard stream takes its
place. -/
inductive Command
  /-- Describe the patterns. -/
  | check (source : PatternSource) (output : Option String)
  /-- Match the lines of an input, perhaps with captures. -/
  | matchLines (source : PatternSource) (input output : Option String) (captures : Bool)
  deriving DecidableEq, Repr, Inhabited

/-- What is logged, and how. -/
structure LogSettings where
  quiet : Bool := false
  /-- How often more was asked for. -/
  verbose : Nat := 0
  timestamps : Bool := false
  deriving DecidableEq, Repr, Inhabited

/-- A whole command line. -/
structure Invocation where
  logging : LogSettings
  command : Command
  deriving DecidableEq, Repr, Inhabited

/-- The options that a command line may have. -/
structure OptionTable where
  /-- Flags, with a letter if they have one. -/
  flags : List (String × Option Char) := []
  /-- Flags that may be repeated. -/
  counted : List String := []
  /-- Options with a value. -/
  valued : List String := []

/-- An option that was given. -/
inductive Given
  | flag (name : String)
  | value (name text : String)
  deriving DecidableEq, Repr, Inhabited

/-- Does a word stand for options? A lone dash does not. -/
def isOptionWord (word : String) : Bool := word.startsWith "-" && word != "-"

namespace OptionTable

/-- The flags of letters behind a dash. -/
def letters (t : OptionTable) (cs : List Char) : Option (List Given) :=
  cs.mapM fun c => (t.flags.find? fun f => f.2 == some c).map fun f => .flag f.1

/-- A word behind two dashes: its name, and the value behind an equals sign. -/
def splitWord (cs : List Char) : String × Option String :=
  match cs.dropWhile (· != '=') with
  | [] => (String.ofList cs, none)
  | _ :: value => (String.ofList (cs.takeWhile (· != '=')), some (String.ofList value))

/-- The options at the beginning of some words, and what follows them. There are none when a word
cannot be understood. -/
def read (t : OptionTable) : List String → Option (List Given × List String)
  | [] => some ([], [])
  | word :: rest =>
    match word.toList with
    | '-' :: '-' :: [] => if rest.isEmpty then some ([], []) else none
    | '-' :: '-' :: cs =>
      let (name, attached) := splitWord cs
      if t.flags.any (·.1 == name) then
        if attached.isSome then none
        else (read t rest).map fun (gs, rest) => (.flag name :: gs, rest)
      else if t.valued.contains name then
        match attached with
        | some text => (read t rest).map fun (gs, rest) => (.value name text :: gs, rest)
        | none =>
          match rest with
          | [] => none
          | text :: rest =>
            if isOptionWord text then none
            else (read t rest).map fun (gs, rest) => (.value name text :: gs, rest)
      else none
    | '-' :: c :: cs =>
      match t.letters (c :: cs), read t rest with
      | some gs, some (hs, rest) => some (gs ++ hs, rest)
      | _, _ => none
    | _ => some ([], word :: rest)

/-- Was nothing given twice, except flags that count? -/
def isSingle (t : OptionTable) (gs : List Given) : Bool :=
  let names := gs.map fun
    | .flag name => name
    | .value name _ => name
  names.all fun n => t.counted.contains n || names.count n == 1

end OptionTable

/-- How often a flag was given. -/
def Given.count (name : String) (gs : List Given) : Nat := gs.count (.flag name)

/-- The value of an option. -/
def Given.value? (name : String) (gs : List Given) : Option String :=
  gs.findSome? fun
    | .value n text => if n == name then some text else none
    | .flag _ => none

/-- The options of both commands. -/
def sharedOptions : OptionTable where
  valued := ["config", "pcre-jit", "output"]

/-- The options about logging. -/
def loggingOptions : OptionTable where
  flags := [("quiet", some 'q'), ("verbose", some 'v'), ("ts", none)]
  counted := ["verbose"]

namespace Command

/-- The options of a command. -/
def options? (name : String) : Option OptionTable :=
  if name = "check" then some sharedOptions
  else if name = "match" then
    some { sharedOptions with
      flags := [("captures", none)]
      valued := "input" :: sharedOptions.valued }
  else none

/-- The command of a name and its options. -/
def ofGiven (name : String) (gs : List Given) : Option Command := do
  let source : PatternSource := ⟨← Given.value? "config" gs, Given.value? "pcre-jit" gs⟩
  let output := Given.value? "output" gs
  if name = "check" then return .check source output
  else return .matchLines source (Given.value? "input" gs) output (0 < Given.count "captures" gs)

/-- Reads a command and its options, among which options of another table may stand; gives those
too. -/
def parseWith (others : OptionTable) : List String → Option (Command × List Given)
  | [] => none
  | name :: words => do
    let own ← options? name
    let table : OptionTable :=
      ⟨own.flags ++ others.flags, own.counted ++ others.counted, own.valued ++ others.valued⟩
    let (gs, rest) ← table.read words
    if !rest.isEmpty || !table.isSingle gs then none
    return (← ofGiven name gs, gs)

/-- Reads a command and its options. -/
def parse (words : List String) : Option Command := (parseWith {} words).map (·.1)

end Command

namespace Invocation

/-- What options say about logging. Those behind the command count more than those before it. -/
def settingsOf (before behind : List Given) : LogSettings :=
  let count (name : String) : Nat :=
    if Given.count name behind = 0 then Given.count name before else Given.count name behind
  ⟨0 < count "quiet", count "verbose", 0 < count "ts"⟩

/-- Reads a whole command line. -/
def parse (words : List String) : Option Invocation := do
  let (before, rest) ← loggingOptions.read words
  if !loggingOptions.isSingle before then none
  let (command, behind) ← Command.parseWith loggingOptions rest
  return ⟨settingsOf before behind, command⟩

end Invocation

/-- How many levels of log records are shown unless more are asked for. -/
def LogSettings.defaultLevels : Nat := 2

end PatternSuite
