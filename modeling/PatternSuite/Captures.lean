import PatternSuite.Text.Bytes

/-!
# Capture buffers

A caller's slots for the spans of groups; slot 0 is the whole match. A match fills some of the
slots, and only the filled beginning can be read.

* `Captures.cleared`: what a search starts from.
* `Captures.settle`: what a search leaves, from its stores and its count.
-/

namespace PatternSuite

open Text

/-- Slots of a fixed number, of which the first `filled` can be read. -/
structure Captures where
  slots : List (Option Span)
  filled : Nat
  filled_le : filled ≤ slots.length := by omega
  deriving DecidableEq, Repr

namespace Captures

/-- Empty slots. -/
def ofCapacity (capacity : Nat) : Captures where
  slots := List.replicate capacity none
  filled := 0
  filled_le := Nat.zero_le _

/-- How many slots there are. -/
def capacity (c : Captures) : Nat := c.slots.length

/-- All slots emptied. -/
def cleared (c : Captures) : Captures := ofCapacity c.capacity

/-- Stores spans into slots, in order; a store beyond the last slot is lost. -/
def storeAll (slots : List (Option Span)) (stores : List (Nat × Option Span)) :
    List (Option Span) :=
  stores.foldl (fun s w => s.set w.1 w.2) slots

/-- The buffer after a search: its stores go into empty slots, and as many slots as it counts can
be read. A search without a match counts none. -/
def settle (c : Captures) (stores : List (Nat × Option Span)) (count : Nat) : Captures where
  slots := storeAll c.cleared.slots stores
  filled := min count (storeAll c.cleared.slots stores).length
  filled_le := Nat.min_le_right ..

/-- Can nothing be read? -/
def isEmpty (c : Captures) : Bool := c.filled == 0

/-- The slots that can be read. -/
def toList (c : Captures) : List (Option Span) := c.slots.take c.filled

/-- The span in slot `i`, if the slot can be read and its group took part. -/
def get? (c : Captures) (i : Nat) : Option Span := (c.toList[i]?).join

/-- The text of slot `i` in the input. -/
def text? (c : Captures) (input : String) (i : Nat) : Option String :=
  (c.get? i).bind (slice? input)

theorem length_storeAll (slots : List (Option Span)) (stores : List (Nat × Option Span)) :
    (storeAll slots stores).length = slots.length := by
  induction stores generalizing slots with
  | nil => rfl
  | cons w ws ih => simpa [storeAll] using ih (slots.set w.1 w.2)

@[simp] theorem capacity_ofCapacity (n : Nat) : (ofCapacity n).capacity = n := by
  simp [ofCapacity, capacity]

/-- A search never changes the number of slots. -/
@[simp] theorem capacity_settle (c : Captures) (stores : List (Nat × Option Span)) (count : Nat) :
    (c.settle stores count).capacity = c.capacity := by
  simp [settle, capacity, length_storeAll, cleared, ofCapacity]

end Captures

end PatternSuite
