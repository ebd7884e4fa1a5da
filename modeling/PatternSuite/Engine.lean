import PatternSuite.Error
import PatternSuite.Log
import PatternSuite.Options
import PatternSuite.Pattern
import PatternSuite.Text.Bytes

/-!
# Matching engines

An engine turns pattern texts into compiled forms of a type `κ` and answers questions about them.
It may keep a state of its own, of type `σ`, so an answer may depend on everything that was asked
before. Nothing is assumed of the answers: an engine may contradict itself.
-/

namespace PatternSuite

open Text

/-- Why an engine refused a pattern, and the byte of the pattern where it stopped reading. -/
structure CompileFailure where
  message : String
  offset : Nat
  deriving DecidableEq, Repr, Inhabited

/-- How a search failed; this is never a plain absence of a match. -/
structure SearchFailure where
  code : Int
  message : String
  deriving DecidableEq, Repr, Inhabited

/-- What a search gave: the number of slots it counts on a match, nothing without one, or a
failure; the spans it stored in slots on the way, in order; and what it logged. -/
structure SearchAnswer where
  outcome : Except SearchFailure (Option Nat)
  stores : List (Nat × Option Span) := []
  notes : List LogRecord := []

/-- A matching engine with compiled forms in `κ` and a state in `σ`. -/
structure Engine (κ σ : Type) where
  /-- Compiles a pattern. -/
  compile : Pattern → Options → σ → Except CompileFailure κ × σ
  /-- How many groups capture, not counting the whole match. -/
  captureCount : κ → σ → Except Int Nat × σ
  /-- How many groups have names. -/
  nameCount : κ → σ → Except Int Nat × σ
  /-- How long an entry of the name table is. -/
  nameEntrySize : κ → σ → Except Int Nat × σ
  /-- The bytes of the name table. -/
  nameTable : κ → σ → Except Int (List UInt8) × σ
  /-- Searches an input, with a number of capture slots at hand. -/
  search : κ → String → Nat → σ → SearchAnswer × σ
  /-- Can this engine optimize at all? -/
  jitAvailable : Bool
  /-- Optimizes a form: the reason of a refusal if there is one, and the form as it is then. -/
  jitCompile : κ → σ → (Option String × κ) × σ

/-- The answer to a name table query when a group's number is too great for an entry. -/
def groupOverflowCode : Int := -3

end PatternSuite
