import PatternSuite.Text.Bytes

/-!
# Error buffers

A buffer of fixed capacity for one message. A message that does not fit is cut at the last
character boundary inside the capacity.
-/

namespace PatternSuite

/-- The last message written, cut to the capacity. -/
structure ErrorBuffer where
  capacity : Nat
  message : String
  deriving DecidableEq, Repr, Inhabited

namespace ErrorBuffer

/-- The capacity of a buffer that nobody sized. -/
def defaultCapacity : Nat := 256

/-- An empty buffer. -/
def ofCapacity (capacity : Nat) : ErrorBuffer := ⟨capacity, ""⟩

/-- An empty buffer of the default capacity. -/
def default : ErrorBuffer := ofCapacity defaultCapacity

/-- Replaces the message. -/
def write (b : ErrorBuffer) (message : String) : ErrorBuffer :=
  { b with message := String.ofList (Text.takeBytes b.capacity message.toList) }

/-- The length of the message in bytes. -/
def length (b : ErrorBuffer) : Nat := b.message.utf8ByteSize

/-- Has nothing been written, or nothing that fits? -/
def isEmpty (b : ErrorBuffer) : Bool := b.message.isEmpty

@[simp] theorem capacity_write (b : ErrorBuffer) (m : String) :
    (b.write m).capacity = b.capacity := rfl

/-- A write forgets the message before it. -/
theorem write_write (b : ErrorBuffer) (m n : String) : (b.write m).write n = b.write n := rfl

end ErrorBuffer

end PatternSuite
