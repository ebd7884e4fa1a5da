import PatternSuite.Text.Quoted

/-!
# What can go wrong

The failures of loading patterns, of matching, and of configuration directives, with their texts.
Only a failed match leaves a load alive.
-/

namespace PatternSuite

/-- What an engine is asked about a compiled form. -/
inductive InfoQuery
  /-- How many groups capture, not counting the whole match. -/
  | captureCount
  /-- How many groups have names. -/
  | nameCount
  /-- How long an entry of the name table is. -/
  | nameEntrySize
  /-- The bytes of the name table. -/
  | nameTable
  deriving DecidableEq, Repr, Inhabited

/-- The query as messages write it. -/
def InfoQuery.label : InfoQuery → String
  | captureCount => "CAPTURECOUNT"
  | nameCount => "NAMECOUNT"
  | nameEntrySize => "NAMEENTRYSIZE"
  | nameTable => "NAMETABLE"

/-- A failure. -/
inductive PatternError
  /-- The pattern has no text. -/
  | emptyPattern
  /-- The engine refused the pattern; `rest` is the part it had not read. -/
  | compile (message pattern : String) (rest : Option String)
  /-- The engine compiled the pattern and then failed to describe it. -/
  | patternInfo (query : InfoQuery) (pattern : String) (code : Int)
  /-- There was no room for the pattern. -/
  | noMemory (pattern : String)
  /-- The engine failed while matching. -/
  | execution (code : Int) (message input pattern : String)
  /-- A flag was neither `on` nor `off`. -/
  | invalidFlag (directive value : String)
  /-- A directive came a second time. -/
  | duplicateDirective (directive : String)
  /-- Nobody knows the directive. -/
  | unknownDirective (directive : String)
  deriving DecidableEq, Repr, Inhabited

namespace PatternError

/-- A text between quotes, written as it is. -/
def bare (s : String) : String := "\"" ++ s ++ "\""

/-- The part of a compile message that shows what was not read. -/
def restSuffix : Option String → String
  | some rest => " at " ++ bare rest
  | none => ""

/-- The message for people. -/
def message : PatternError → String
  | emptyPattern => "empty regex pattern"
  | compile message pattern rest =>
    "regex compile failed: " ++ message ++ " in " ++ bare pattern ++ restSuffix rest
  | patternInfo query pattern code =>
    "pattern info query " ++ query.label ++ " failed for " ++ bare pattern ++ ": " ++ toString code
  | noMemory pattern => "regex " ++ bare pattern ++ " compilation failed: no memory"
  | execution code _ input pattern =>
    "regex match failed: " ++ toString code ++ " on " ++ bare input ++ " using " ++ bare pattern
  | invalidFlag directive value =>
    "invalid value " ++ bare value ++ " in " ++ bare directive
      ++ " directive, it must be \"on\" or \"off\""
  | duplicateDirective directive => bare directive ++ " directive is duplicate"
  | unknownDirective directive => "unknown directive " ++ bare directive

/-- Does the failure end a load? -/
def isFatalToLoad : PatternError → Bool
  | execution .. => false
  | _ => true

/-- The name of the kind of failure. -/
def kindName : PatternError → String
  | emptyPattern => "EmptyPattern"
  | compile .. => "Compile"
  | patternInfo .. => "PatternInfo"
  | noMemory .. => "NoMemory"
  | execution .. => "Execution"
  | invalidFlag .. => "InvalidFlag"
  | duplicateDirective .. => "DuplicateDirective"
  | unknownDirective .. => "UnknownDirective"

/-- The name of a query in a structured report. -/
def queryName : InfoQuery → String
  | .captureCount => "CaptureCount"
  | .nameCount => "NameCount"
  | .nameEntrySize => "NameEntrySize"
  | .nameTable => "NameTable"

/-- One field of a structured report. -/
def field (name value : String) : String := name ++ ": " ++ value

/-- A report of a failure with all its fields, on one line. -/
def report (e : PatternError) : String :=
  let fields : List String := match e with
    | emptyPattern => []
    | compile message pattern rest =>
      [field "message" (Text.quote message), field "pattern" (Text.quote pattern),
        field "at" (match rest with
          | some r => "Some(" ++ Text.quote r ++ ")"
          | none => "None")]
    | patternInfo query pattern code =>
      [field "query" (queryName query), field "pattern" (Text.quote pattern),
        field "code" (toString code)]
    | noMemory pattern => [field "pattern" (Text.quote pattern)]
    | execution code message input pattern =>
      [field "code" (toString code), field "message" (Text.quote message),
        field "input" (Text.quote input), field "pattern" (Text.quote pattern)]
    | invalidFlag directive value =>
      [field "directive" (Text.quote directive), field "value" (Text.quote value)]
    | duplicateDirective directive => [field "directive" (Text.quote directive)]
    | unknownDirective directive => [field "directive" (Text.quote directive)]
  if fields.isEmpty then e.kindName
  else e.kindName ++ " \x7b " ++ ", ".intercalate fields ++ " \x7d"

end PatternError

end PatternSuite
