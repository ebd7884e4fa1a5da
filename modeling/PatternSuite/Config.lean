import PatternSuite.Error
import PatternSuite.Log

/-!
# Module configuration

One flag says whether compiled patterns are optimized. A directive sets it at most once, and an
engine that cannot optimize switches it off.
-/

namespace PatternSuite

/-- The name of the directive that sets the flag. -/
def jitDirective : String := "pcre_jit"

/-- The configuration; the flag may not have been set yet. -/
structure Config where
  jit : Option Bool := none
  deriving DecidableEq, Repr, Inhabited

namespace Config

/-- Sets the flag. -/
def withJit (_ : Config) (enabled : Bool) : Config := ⟨some enabled⟩

/-- A text in lower case, ASCII letters only. -/
def lowerAscii (s : String) : String := String.ofList (s.toList.map Char.toLower)

/-- The value of a flag: `on` or `off` in any case. -/
def flag? (value : String) : Option Bool :=
  if lowerAscii value == "on" then some true
  else if lowerAscii value == "off" then some false
  else none

/-- Applies a directive. -/
def applyDirective (c : Config) (name value : String) : Except PatternError Config :=
  if name != jitDirective then .error (.unknownDirective name)
  else if c.jit.isSome then .error (.duplicateDirective name)
  else
    match flag? value with
    | some b => .ok ⟨some b⟩
    | none => .error (.invalidFlag name value)

/-- What is logged when the flag is switched off. -/
def unsupportedRecord : LogRecord :=
  ⟨.warn, "regex engine does not support JIT; \"" ++ jitDirective ++ "\" ignored"⟩

/-- Switches the flag off, with a warning, when the engine cannot optimize. -/
def validate (jitAvailable : Bool) (c : Config) : Config × List LogRecord :=
  if c.jit = some true && !jitAvailable then (⟨some false⟩, [unsupportedRecord]) else (c, [])

/-- Settles what was left open. -/
def init (c : Config) : Config := ⟨some (c.jit.getD false)⟩

/-- Are patterns optimized? -/
def jitEnabled (c : Config) : Bool := c.jit.getD false

end Config

end PatternSuite
