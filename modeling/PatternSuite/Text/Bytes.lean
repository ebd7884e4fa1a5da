/-!
# Text measured in bytes

Offsets and capacities count the bytes of UTF-8, and a cut is only made between characters.

* `takeBytes n`: the longest beginning of at most `n` bytes.
* `dropBytes n`: the end of the text from the last character boundary that is not after byte `n`.
* `slice?`: the text between two byte offsets, if both are character boundaries.
-/

namespace PatternSuite.Text

/-- The bytes of a text. -/
def textBytes (s : String) : List UInt8 := s.toUTF8.data.toList

/-- The text of some bytes, if they are one. -/
def textOfBytes? (bs : List UInt8) : Option String := String.fromUTF8? ⟨bs.toArray⟩

/-- The number of bytes of some characters. -/
def byteLength : List Char → Nat
  | [] => 0
  | c :: cs => c.utf8Size + byteLength cs

/-- The longest beginning of at most `n` bytes. -/
def takeBytes : Nat → List Char → List Char
  | _, [] => []
  | n, c :: cs => if c.utf8Size ≤ n then c :: takeBytes (n - c.utf8Size) cs else []

/-- What follows the longest beginning of at most `n` bytes. -/
def dropBytes : Nat → List Char → List Char
  | _, [] => []
  | n, c :: cs => if c.utf8Size ≤ n then dropBytes (n - c.utf8Size) cs else c :: cs

/-- Cutting in two loses nothing. -/
theorem takeBytes_append_dropBytes (n : Nat) (cs : List Char) :
    takeBytes n cs ++ dropBytes n cs = cs := by
  induction cs generalizing n with
  | nil => rfl
  | cons c cs ih => by_cases h : c.utf8Size ≤ n <;> simp [takeBytes, dropBytes, h, ih]

/-- The beginning fits. -/
theorem byteLength_takeBytes_le (n : Nat) (cs : List Char) :
    byteLength (takeBytes n cs) ≤ n := by
  induction cs generalizing n with
  | nil => simp [takeBytes, byteLength]
  | cons c cs ih =>
    by_cases h : c.utf8Size ≤ n
    · have := ih (n - c.utf8Size)
      simp only [takeBytes, h, if_true, byteLength]
      omega
    · simp [takeBytes, h, byteLength]

/-- A span of byte offsets, from `start` up to `stop`. -/
structure Span where
  start : Nat
  stop : Nat
  deriving BEq, DecidableEq, Repr, Inhabited

/-- The text of a span. There is none when the span runs backwards, leaves the text, or begins or
ends inside a character. -/
def slice? (s : String) (span : Span) : Option String :=
  if span.start ≤ span.stop && String.Pos.Raw.isValid s ⟨span.start⟩
      && String.Pos.Raw.isValid s ⟨span.stop⟩ then
    some (String.Pos.Raw.extract s ⟨span.start⟩ ⟨span.stop⟩)
  else none

end PatternSuite.Text
