import PatternSuite.ErrorBuffer
import PatternSuite.Proofs.ByteCuts

/-!
# What fits of a message

An error buffer keeps the longest beginning of a message that it has room for; a beginning always
ends between two characters. What it held before does not matter. Looking for the end byte by byte
comes to the same: it never runs below byte 0, and never cuts a character.

* `longestFit_write`: a buffer has the longest beginning of the message written last.
* `writeStepping?_eq`: a write that looks for the end byte by byte.
* `longest_beginning_kept`: any writes, one after the other.
-/

namespace PatternSuite

open Text

/-- **A buffer keeps the longest beginning that fits** of the message written last, whatever it
held before. -/
theorem longestFit_write (b : ErrorBuffer) (message : String) :
    LongestFit b.capacity message (b.write message).message :=
  longestFit_takeBytes b.capacity message

namespace ErrorBuffer

variable {b c : ErrorBuffer}

/-- Of the buffer only the capacity matters for what a write leaves. -/
theorem write_congr (h : b.capacity = c.capacity) (message : String) :
    b.write message = c.write message := by
  rw [write, write, h]

/-- A write that looks for the end byte by byte: it steps back from the capacity, or from the end of
the message if that comes first, and keeps what stands before the place that it finds. It comes to
nothing if it would step below byte 0 or cut a character. -/
def writeStepping? (b : ErrorBuffer) (message : String) : Option ErrorBuffer := do
  let stop ← stepBack? message (min message.utf8ByteSize b.capacity)
  let kept ← slice? message ⟨0, stop⟩
  return { b with message := kept }

/-- **Looking for the end byte by byte** always comes to an end, and to the same one. -/
theorem writeStepping?_eq (b : ErrorBuffer) (message : String) :
    b.writeStepping? message = some (b.write message) := by
  have hfit := longestFit_write b message
  have hstep := hfit.capped.stepBack
  obtain ⟨rest, hrest⟩ := exists_append_of_begins hfit.beginning
  have hslice := slice?_front (b.write message).message rest
  rw [← hrest] at hslice
  rw [writeStepping?, hstep, Option.bind_eq_bind, Option.bind_some, hslice]
  rfl

/-- Messages written one after the other. -/
def writeAll (b : ErrorBuffer) (messages : List String) : ErrorBuffer := messages.foldl write b

theorem capacity_writeAll (b : ErrorBuffer) (messages : List String) :
    (b.writeAll messages).capacity = b.capacity := by
  induction messages generalizing b with
  | nil => rfl
  | cons m ms ih => exact (ih (b.write m)).trans (capacity_write b m)

/-- The last message decides, and it is written as if it were the only one. -/
theorem writeAll_concat (b : ErrorBuffer) (earlier : List String) (message : String) :
    b.writeAll (earlier ++ [message]) = b.write message := by
  rw [writeAll, List.foldl_append]
  exact write_congr (capacity_writeAll b earlier) message

theorem writeStepping?_all (b : ErrorBuffer) (messages : List String) :
    messages.foldlM writeStepping? b = some (b.writeAll messages) := by
  induction messages generalizing b with
  | nil => rfl
  | cons m ms ih =>
    rw [List.foldlM_cons, writeStepping?_eq]
    exact ih (b.write m)

end ErrorBuffer

open ErrorBuffer

/-- **A buffer keeps the longest beginning that fits of the last message**, after any messages. Its
capacity stays. Looking for the cut byte by byte neither fails nor differs. The message is whole
just if it fits, and no more than three bytes are left otherwise. Writing what was kept into a
smaller buffer is writing the message itself there. -/
theorem longest_beginning_kept (b : ErrorBuffer) (earlier : List String) (message : String) :
    let after := b.writeAll (earlier ++ [message])
    (earlier ++ [message]).foldlM writeStepping? b = some after ∧
      after.capacity = b.capacity ∧
      LongestFit b.capacity message after.message ∧
      (∀ (c : ErrorBuffer) (others : List String), c.capacity = b.capacity →
        c.writeAll (others ++ [message]) = after) ∧
      (after.message = message ↔ message.utf8ByteSize ≤ b.capacity) ∧
      (b.capacity < message.utf8ByteSize → b.capacity ≤ after.message.utf8ByteSize + 3) ∧
      ∀ small : ErrorBuffer, small.capacity ≤ b.capacity →
        small.write after.message = small.write message := by
  intro after
  have hafter : after = b.write message := writeAll_concat b earlier message
  have hfit : LongestFit b.capacity message after.message := hafter ▸ longestFit_write b message
  refine ⟨writeStepping?_all b _, capacity_writeAll b _, hfit, fun c others hc => ?_,
    hfit.whole_iff, hfit.wasted, fun small hsmall => ?_⟩
  · rw [writeAll_concat, hafter, write_congr hc]
  · have htwice := hfit.trans hsmall (longestFit_write small after.message)
    have hmessage := htwice.unique (longestFit_write small message)
    calc small.write after.message
        = ⟨small.capacity, (small.write after.message).message⟩ := rfl
      _ = ⟨small.capacity, (small.write message).message⟩ := by rw [hmessage]
      _ = small.write message := rfl

/-- Two bytes for the last character do not fit behind seven of eight; and nothing fits into no
bytes. -/
theorem longest_beginning_kept_accented :
    let after := (ErrorBuffer.ofCapacity 8).writeAll (["a much longer message"] ++ ["abcdefgé"])
    after.message = "abcdefg" ∧ LongestFit 8 "abcdefgé" after.message ∧
      8 ≤ after.message.utf8ByteSize + 3 ∧
      ((ErrorBuffer.ofCapacity 3).write after.message).message = "abc" ∧
      (ErrorBuffer.ofCapacity 3).write after.message = (ErrorBuffer.ofCapacity 3).write "abcdefgé" ∧
      ((ErrorBuffer.ofCapacity 0).writeAll ([] ++ ["é"])).message = "" := by
  intro after
  obtain ⟨-, -, hfit, -, -, hwasted, hsmall⟩ :=
    longest_beginning_kept (.ofCapacity 8) ["a much longer message"] "abcdefgé"
  exact ⟨by decide +kernel, hfit, hwasted (by decide +kernel), by decide +kernel,
    hsmall (.ofCapacity 3) (by decide), by decide +kernel⟩

end PatternSuite
