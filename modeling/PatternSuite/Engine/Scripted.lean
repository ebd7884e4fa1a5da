import PatternSuite.Engine
import PatternSuite.NameTable

/-!
# The scripted engine

An engine for trials. What it answers is scripted per pattern text; a text without a script
compiles with no groups, matches where it occurs, and can be optimized.
-/

namespace PatternSuite

open Text

/-- A scripted search. -/
inductive ScriptedOutcome
  /-- The whole input matches. -/
  | always
  /-- Nothing matches. -/
  | never
  /-- The search fails with this code. -/
  | fails (code : Int)
  deriving DecidableEq, Repr, Inhabited

/-- The scripts, by pattern text; a later entry for a text wins. -/
structure Script where
  jit : Bool := true
  rejects : List (String × CompileFailure) := []
  infoFailures : List (String × InfoQuery × Int) := []
  /-- The groups of a pattern in order; some have names. -/
  groups : List (String × List (Option String)) := []
  outcomes : List (String × ScriptedOutcome) := []
  jitRefusals : List String := []

/-- A compiled form: the pattern text, and whether it has been optimized. -/
structure ScriptedForm where
  pattern : String
  jit : Bool
  deriving DecidableEq, Repr, Inhabited

namespace Script

/-- The last entry for a text. -/
def lookup {α : Type} (text : String) (xs : List (String × α)) : Option α :=
  (xs.reverse.find? fun x => x.1 == text).map (·.2)

/-- The named groups of a form with their numbers, counted from one. -/
def names (s : Script) (f : ScriptedForm) : List (String × Nat) :=
  (((lookup f.pattern s.groups).getD []).zipIdx 1).filterMap fun g => g.1.map fun n => (n, g.2)

/-- Answers a question about captures, unless a failure is scripted for it. -/
def info {α : Type} (s : Script) (f : ScriptedForm) (query : InfoQuery) (answer : Except Int α) :
    Except Int α :=
  match lookup f.pattern s.infoFailures with
  | some (q, code) => if q = query then .error code else answer
  | none => answer

/-- The first place where some bytes begin in an input, counted from `start`. -/
def findBytes (needle : List UInt8) (start : Nat) : List UInt8 → Option Nat
  | [] => if needle.isEmpty then some start else none
  | b :: bs =>
    if needle.isPrefixOf (b :: bs) then some start else findBytes needle (start + 1) bs

/-- The span of the match in an input. -/
def span? (s : Script) (f : ScriptedForm) (input : String) : Except SearchFailure (Option Span) :=
  match lookup f.pattern s.outcomes with
  | some (.fails code) => .error ⟨code, "scripted failure"⟩
  | some .never => .ok none
  | some .always => .ok (some ⟨0, input.utf8ByteSize⟩)
  | none =>
    .ok ((findBytes (textBytes f.pattern) 0 (textBytes input)).map fun start =>
      ⟨start, start + f.pattern.utf8ByteSize⟩)

/-- A search stores the whole match if there is a slot for it. -/
def search (s : Script) (f : ScriptedForm) (input : String) (slots : Nat) : SearchAnswer :=
  match s.span? f input with
  | .error e => { outcome := .error e }
  | .ok none => { outcome := .ok none }
  | .ok (some span) =>
    if slots = 0 then { outcome := .ok (some 0) }
    else { outcome := .ok (some 1), stores := [(0, some span)] }

/-- The engine of a script. It needs no state. -/
def engine (s : Script) : Engine ScriptedForm Unit where
  compile p _ st :=
    match lookup p.text s.rejects with
    | some failure => (.error failure, st)
    | none => (.ok ⟨p.text, false⟩, st)
  captureCount f st :=
    (s.info f .captureCount (.ok ((lookup f.pattern s.groups).getD []).length), st)
  nameCount f st := (s.info f .nameCount (.ok (s.names f).length), st)
  nameEntrySize f st :=
    (s.info f .nameEntrySize (.ok (NameTable.entrySizeFor ((s.names f).map (·.1)))), st)
  nameTable f st :=
    (s.info f .nameTable
      (match NameTable.build (s.names f) with
        | some t => .ok t.bytes
        | none => .error groupOverflowCode), st)
  search f input slots st := (s.search f input slots, st)
  jitAvailable := s.jit
  jitCompile f st :=
    if s.jitRefusals.contains f.pattern then ((some "scripted refusal", f), st)
    else ((none, { f with jit := true }), st)

end Script

end PatternSuite
