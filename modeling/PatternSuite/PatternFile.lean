import PatternSuite.Compiler
import PatternSuite.Config
import PatternSuite.Json.Decode

/-!
# Pattern files

The configuration of one generation as a JSON text: the flag of the module, and the patterns with
their dialects and options. Fields that nobody knows are passed over.

* `PatternEntry.options`, `PatternEntry.request`: what an entry asks for.
* `Dialect.decode`, `Config.decode`: parts of a file by themselves.
* `PatternFile.decode`: a whole file.
-/

namespace PatternSuite

open Json (Read Fault Found)

/-- One pattern of a file. -/
structure PatternEntry where
  text : String
  dialect : Dialect := .adaptive
  caseless : Bool := false
  multiline : Bool := false
  dotall : Bool := false
  extended : Bool := false
  ungreedy : Bool := false
  deriving DecidableEq, Repr, Inhabited

namespace PatternEntry

/-- The field of a switch. -/
def field (e : PatternEntry) : Switch → Bool
  | .caseless => e.caseless
  | .multiline => e.multiline
  | .dotall => e.dotall
  | .extended => e.extended
  | .ungreedy => e.ungreedy

/-- The options that an entry asks for. -/
def options (e : PatternEntry) : Options :=
  Options.none
    |>.set .caseless e.caseless
    |>.set .multiline e.multiline
    |>.set .dotall e.dotall
    |>.set .extended e.extended
    |>.set .ungreedy e.ungreedy

/-- An option is on just if the field of its switch is. -/
theorem get_options (e : PatternEntry) (s : Switch) : e.options.get s = e.field s := by
  cases s <;> simp [options, field]

/-- The request that an entry stands for. -/
def request (e : PatternEntry) : CompileRequest where
  pattern := ⟨e.dialect, e.text⟩
  options := e.options

end PatternEntry

/-- A pattern file. -/
structure PatternFile where
  config : Config := {}
  entries : List PatternEntry := []
  deriving DecidableEq, Repr, Inhabited

/-! ### Dialects -/

/-- Reads the name of a dialect. -/
def Dialect.read (budget : Nat) : Read Dialect :=
  Read.choice budget (Dialect.all.map fun d => (d.name, d))

/-- A text that holds a dialect. -/
def Dialect.decode (source : Json.Source) (bytes : List UInt8) : Except Fault Dialect :=
  Json.decode source bytes (Dialect.read Json.nestingLimit)

/-! ### Configurations -/

namespace Config

/-- Reads a field of a configuration. -/
def readField (found : Option (Option Bool)) (key : String) : Read (Option (Option Bool)) := do
  if key = jitDirective then
    if found.isSome then Read.failValue (.fieldRepeated key)
    Read.colon
    return some (← Read.optional Read.bool)
  else
    Read.colon
    Read.skipValue
    return found

/-- Reads a configuration. -/
def read (budget : Nat) : Read Config :=
  Read.record budget "struct RegexConfig" none (fun _ => readField)
    (fun found => return ⟨found.join⟩)
    (fun _ => do
      let (_, flag) ← Read.column true (return none) (Read.optional Read.bool)
      return ⟨flag⟩)

/-- A text that holds a configuration. -/
def decode (source : Json.Source) (bytes : List UInt8) : Except Fault Config :=
  Json.decode source bytes (read Json.nestingLimit)

/-- The flag that a value stands for. -/
def flagOf : Found → Read (Option Bool)
  | .null => return none
  | .bool b => return some b
  | found => Read.failValue (.mismatch found "a boolean")

/-- The configuration among the fields of a file, in order. -/
def ofFields (fields : List (String × Found)) : Read Config := do
  let flag ← fields.foldlM
    (fun (flag : Option (Option Bool)) (key, found) => do
      if key = jitDirective then
        if flag.isSome then Read.failValue (.fieldRepeated key)
        return some (← flagOf found)
      else return flag)
    none
  return ⟨flag.join⟩

end Config

/-! ### Entries -/

namespace PatternEntry

/-- The name of the field of a switch. -/
def fieldName : Switch → String
  | .caseless => "caseless"
  | .multiline => "multiline"
  | .dotall => "dotall"
  | .extended => "extended"
  | .ungreedy => "ungreedy"

/-- The entry of a text, a dialect and the values of the switches. -/
def ofFields (text : String) (dialect : Dialect) (value : Switch → Bool) : PatternEntry where
  text := text
  dialect := dialect
  caseless := value .caseless
  multiline := value .multiline
  dotall := value .dotall
  extended := value .extended
  ungreedy := value .ungreedy

@[simp]
theorem field_ofFields (text : String) (dialect : Dialect) (value : Switch → Bool) (s : Switch) :
    (ofFields text dialect value).field s = value s := by
  cases s <;> rfl

/-- The value of a switch among those that were read. -/
def valueOf (read : List (Switch × Bool)) (s : Switch) : Bool := (read.lookup s).getD false

/-- What has been read of an entry. -/
structure Draft where
  text : Option String := none
  dialect : Option Dialect := none
  /-- The switches that were read, with their values. -/
  switches : List (Switch × Bool) := []
  deriving Inhabited

/-- Fails if a field was read before. -/
def onlyOnce (before : Bool) (key : String) : Read Unit := do
  if before then Read.failValue (.fieldRepeated key)
  Read.colon

/-- Reads a field of an entry. -/
def readField (budget : Nat) (d : Draft) (key : String) : Read Draft := do
  if key = "pattern" then
    onlyOnce d.text.isSome key
    return { d with text := some (← Read.string "a string") }
  else if key = "kind" then
    onlyOnce d.dialect.isSome key
    return { d with dialect := some (← Dialect.read budget) }
  else
    match Switch.all.find? fun s => fieldName s == key with
    | some s =>
      onlyOnce (d.switches.lookup s).isSome key
      return { d with switches := (s, ← Read.bool) :: d.switches }
    | none =>
      Read.colon
      Read.skipValue
      return d

/-- The entry of all that was read; it must have a pattern. -/
def ofDraft (d : Draft) : Read PatternEntry := do
  match d.text with
  | some text => return ofFields text (d.dialect.getD .adaptive) (valueOf d.switches)
  | none => Read.failValue (.fieldMissing "pattern")

/-- Reads an entry that is a list of the values of its fields. -/
def readRow (budget : Nat) : Read PatternEntry := do
  let (first, text) ← Read.column true
    (Read.failValue (.tooShort 0 "struct PatternEntry with 7 elements")) (Read.string "a string")
  let (first, dialect) ← Read.column first (return .adaptive) (Dialect.read budget)
  let (_, switches) ← Switch.all.foldlM
    (fun (first, switches) s => do
      let (first, value) ← Read.column first (return false) Read.bool
      return (first, (s, value) :: switches))
    (first, ([] : List (Switch × Bool)))
  return ofFields text dialect (valueOf switches)

/-- Reads an entry. -/
def read (budget : Nat) : Read PatternEntry :=
  Read.record budget "struct PatternEntry" {} readField ofDraft readRow

end PatternEntry

/-! ### Files -/

namespace PatternFile

/-- What has been read of a file. -/
structure Draft where
  entries : Option (List PatternEntry) := none
  /-- The other fields, the latest first. -/
  others : List (String × Found) := []
  deriving Inhabited

/-- Reads a field of a file. -/
def readField (budget : Nat) (d : Draft) (key : String) : Read Draft := do
  if key = "patterns" then
    if d.entries.isSome then Read.failValue (.fieldRepeated key)
    Read.colon
    return { d with entries := some (← Read.list budget PatternEntry.read) }
  else
    Read.colon
    return { d with others := (key, ← Read.any budget) :: d.others }

/-- The file of all that was read. -/
def ofDraft (d : Draft) : Read PatternFile := do
  return ⟨← Config.ofFields d.others.reverse, d.entries.getD []⟩

/-- Reads a file. -/
def read (budget : Nat) : Read PatternFile :=
  Read.object budget "struct PatternFile" {} readField ofDraft

/-- A text that holds a file. -/
def decode (source : Json.Source) (bytes : List UInt8) : Except Fault PatternFile :=
  Json.decode source bytes (read Json.nestingLimit)

end PatternFile

end PatternSuite
