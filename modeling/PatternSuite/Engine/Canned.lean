import PatternSuite.Ledger

/-!
# The canned engine

An engine that answers every question exactly as it was told to, however little the answers fit
together. It shows what the library does with an engine that cannot be trusted.
-/

namespace PatternSuite

open Text

/-- What to answer about one pattern text. -/
structure CannedAnswers where
  /-- Why compilation fails, if it does. -/
  reject : Option CompileFailure := none
  captureCount : Except Int Nat := .ok 0
  nameCount : Except Int Nat := .ok 0
  nameEntrySize : Except Int Nat := .ok 0
  nameTable : Except Int (List UInt8) := .ok []
  /-- How a search ends. -/
  outcome : Except SearchFailure (Option Nat) := .ok none
  /-- What a search stores in slots, if the caller has them. -/
  stores : List (Nat × Span) := []
  /-- Why optimization is refused, if it is. -/
  refuseJit : Option String := none

/-- A compiled form: the pattern text, and whether it has been optimized. -/
structure CannedForm where
  pattern : String
  jit : Bool
  deriving DecidableEq, Repr, Inhabited

/-- Answers by pattern text; a later entry for a text wins. -/
structure Canned where
  jit : Bool := true
  patterns : List (String × CannedAnswers) := []

namespace Canned

/-- The answers for a text. -/
def answers (c : Canned) (text : String) : CannedAnswers :=
  ((c.patterns.reverse.find? fun p => p.1 == text).map (·.2)).getD {}

/-- The engine that gives the answers. It needs no state. -/
def engine (c : Canned) : Engine CannedForm Unit where
  compile p _ st :=
    match (c.answers p.text).reject with
    | some failure => (.error failure, st)
    | none => (.ok ⟨p.text, false⟩, st)
  captureCount f st := ((c.answers f.pattern).captureCount, st)
  nameCount f st := ((c.answers f.pattern).nameCount, st)
  nameEntrySize f st := ((c.answers f.pattern).nameEntrySize, st)
  nameTable f st := ((c.answers f.pattern).nameTable, st)
  search f _ slots st :=
    let a := c.answers f.pattern
    ({ outcome := a.outcome
       stores := (a.stores.filter fun w => w.1 < slots).map fun w => (w.1, some w.2) }, st)
  jitAvailable := c.jit
  jitCompile f st :=
    match (c.answers f.pattern).refuseJit with
    | some reason => ((some reason, f), st)
    | none => ((none, { f with jit := true }), st)

end Canned

/-- A call as the canned engine writes it down, given the texts of forms. -/
def EngineCall.label (formText : Nat → String) : EngineCall → String
  | .compile p o => "compile " ++ p.dialect.name ++ " " ++ toString o.toBits ++ " " ++ p.text
  | .info .captureCount f => "capture_count " ++ formText f
  | .info .nameCount f => "name_count " ++ formText f
  | .info .nameEntrySize f => "name_entry_size " ++ formText f
  | .info .nameTable f => "name_table " ++ formText f
  | .search f slots => "exec[" ++ toString slots ++ "] " ++ formText f
  | .jit f => "jit " ++ formText f

end PatternSuite
