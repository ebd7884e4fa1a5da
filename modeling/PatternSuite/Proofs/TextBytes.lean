import Mathlib.Data.List.Basic
import Mathlib.Data.List.TakeWhile
import PatternSuite.Text.Bytes

/-!
# The bytes of a text

* `textBytes_ofList`: the bytes of some characters, one after the other.
* `textOfBytes_textBytes`: a text can be read back from its bytes.
* `newline_mem_textBytes`, `textBytes_newline`: newlines in a text are newlines among its bytes.
* `takeWhile_textBytes`: bytes read up to the first zero are the text up to the first NUL.
-/

namespace PatternSuite.Text

theorem textBytes_ofList (cs : List Char) :
    textBytes (String.ofList cs) = cs.flatMap String.utf8EncodeChar := by
  induction cs with
  | nil => rfl
  | cons c cs ih =>
    simp only [textBytes, String.toUTF8, String.toByteArray_ofList] at ih ⊢
    rw [List.utf8Encode_cons, List.utf8Encode_singleton]
    simpa using ih

theorem textBytes_eq (s : String) : textBytes s = s.toList.flatMap String.utf8EncodeChar := by
  rw [← textBytes_ofList, String.ofList_toList]

theorem textBytes_append (s t : String) : textBytes (s ++ t) = textBytes s ++ textBytes t := by
  rw [textBytes_eq, textBytes_eq, textBytes_eq, String.toList_append, List.flatMap_append]

/-- **A text can be read back from its bytes.** -/
theorem textOfBytes_textBytes (s : String) : textOfBytes? (textBytes s) = some s := by
  have hbytes : (⟨(textBytes s).toArray⟩ : ByteArray) = s.toByteArray := by
    simp [textBytes, String.toUTF8]
  rw [textOfBytes?, hbytes, String.fromUTF8?, dif_pos s.isValidUTF8]
  rfl

/-- The bytes of a text that was read are those it was read from. -/
theorem textBytes_of_textOfBytes {bs : List UInt8} {s : String} (h : textOfBytes? bs = some s) :
    textBytes s = bs := by
  unfold textOfBytes? String.fromUTF8? at h
  split at h
  · obtain rfl := Option.some.inj h
    rfl
  · cases h

theorem textBytes_injective {s t : String} (h : textBytes s = textBytes t) : s = t := by
  have hs := textOfBytes_textBytes s
  rw [h, textOfBytes_textBytes t] at hs
  exact (Option.some.inj hs).symm

/-- A byte below 128 stands for a character of its own. -/
theorem toNat_of_mem_utf8EncodeChar {b : UInt8} (hb : b.toNat < 128) {c : Char}
    (h : b ∈ String.utf8EncodeChar c) : c.toNat = b.toNat := by
  -- all bytes of longer characters are 128 or more
  have hlong {n : Nat} (hn : 128 ≤ n) (hn' : n < 256) : b ≠ UInt8.ofNat n := by
    rintro rfl
    rw [UInt8.toNat_ofNat_of_lt' hn'] at hb
    omega
  unfold String.utf8EncodeChar at h
  dsimp only at h
  split at h
  · have hc : c.val.toNat < UInt8.size := by
      simp only [UInt8.size]
      omega
    rw [List.mem_singleton.1 h, UInt8.toNat_ofNat_of_lt' hc]
    rfl
  exfalso
  split at h
  · simp only [List.mem_cons, List.not_mem_nil, or_false] at h
    rcases h with h | h <;> exact hlong (by omega) (by omega) h
  split at h
  · simp only [List.mem_cons, List.not_mem_nil, or_false] at h
    rcases h with h | h | h <;> exact hlong (by omega) (by omega) h
  · simp only [List.mem_cons, List.not_mem_nil, or_false] at h
    rcases h with h | h | h | h <;> exact hlong (by omega) (by omega) h

/-- No character but NUL has a zero byte. -/
theorem zero_mem_utf8EncodeChar {c : Char} (h : 0 ∈ String.utf8EncodeChar c) : c = '\x00' :=
  Char.toNat_inj.1 (toNat_of_mem_utf8EncodeChar (by decide) h)

/-- A byte below 128 is in a text just if the character that it stands for is. -/
theorem ascii_mem_textBytes {b : UInt8} {c : Char} (hb : b.toNat < 128) (hc : c.toNat = b.toNat)
    (henc : b ∈ String.utf8EncodeChar c) {s : String} : b ∈ textBytes s ↔ c ∈ s.toList := by
  rw [textBytes_eq, List.mem_flatMap]
  constructor
  · rintro ⟨d, hd, h⟩
    rwa [Char.toNat_inj.1 (hc.trans (toNat_of_mem_utf8EncodeChar hb h).symm)]
  · intro h
    exact ⟨c, h, henc⟩

/-- The byte of a newline is in a text just if the newline is. -/
theorem newline_mem_textBytes {s : String} : 10 ∈ textBytes s ↔ '\n' ∈ s.toList :=
  ascii_mem_textBytes (by decide) rfl (by decide)

theorem zero_mem_textBytes {s : String} : 0 ∈ textBytes s ↔ '\x00' ∈ s.toList :=
  ascii_mem_textBytes (by decide) rfl (by decide)

theorem newline_notMem_textBytes {cs : List Char} (h : '\n' ∉ cs) :
    10 ∉ textBytes (String.ofList cs) := by
  rwa [newline_mem_textBytes, String.toList_ofList]

theorem textBytes_newline (cs rest : List Char) :
    textBytes (String.ofList (cs ++ '\n' :: rest)) =
      textBytes (String.ofList cs) ++ 10 :: textBytes (String.ofList rest) := by
  rw [String.ofList_append, textBytes_append, ← List.singleton_append, String.ofList_append,
    textBytes_append]
  rfl

/-- Bytes with a newline behind them are a text with a newline behind it. -/
theorem toList_of_textBytes_eq {text : String} {bs : List UInt8} (hbs : 10 ∉ bs)
    (h : textBytes text = bs ++ [10]) : ∃ cs, '\n' ∉ cs ∧ text.toList = cs ++ ['\n'] := by
  have hmem : '\n' ∈ text.toList := newline_mem_textBytes.1 (by simp [h])
  obtain ⟨cs, rest, htext, hcs⟩ := List.eq_append_cons_of_mem hmem
  have hbytes : textBytes (String.ofList cs) ++ 10 :: textBytes (String.ofList rest) =
      bs ++ [10] := by
    rw [← h, ← textBytes_newline, ← htext, String.ofList_toList]
  -- the first newline is the last byte, so nothing stands behind it
  obtain ⟨-, -, hrest⟩ :=
    (List.append_cons_inj_of_notMem hbs List.not_mem_nil).1 hbytes.symm
  have hnil : rest = [] := by
    have hempty := textBytes_injective (hrest.symm.trans (show [] = textBytes "" from rfl))
    simpa using congrArg String.toList hempty
  exact ⟨cs, hcs, by rw [htext, hnil]⟩

/-- A text up to its first NUL. -/
def cutAtNul (s : String) : String := String.ofList (s.toList.takeWhile (· != '\x00'))

theorem cutAtNul_of_notMem {s : String} (h : '\x00' ∉ s.toList) : cutAtNul s = s := by
  have hall : s.toList.takeWhile (· != '\x00') = s.toList := by
    rw [List.takeWhile_eq_self_iff]
    intro c hc
    simpa using fun hnul : c = '\x00' => h (hnul ▸ hc)
  rw [cutAtNul, hall, String.ofList_toList]

/-- **Bytes read up to the first zero are the text up to the first NUL.** -/
theorem takeWhile_textBytes (s : String) (rest : List UInt8) :
    (textBytes s ++ 0 :: rest).takeWhile (· != 0) = textBytes (cutAtNul s) := by
  rw [cutAtNul, textBytes_ofList, textBytes_eq]
  induction s.toList with
  | nil => simp
  | cons c cs ih =>
    by_cases hc : c = '\x00'
    · subst hc
      rfl
    · have hall : ∀ b ∈ String.utf8EncodeChar c, (b != 0) = true := by
        intro b hb
        simpa using fun h0 : b = 0 => hc (zero_mem_utf8EncodeChar (h0 ▸ hb))
      rw [List.flatMap_cons, List.append_assoc, List.takeWhile_append_of_pos hall, ih]
      simp [hc]

end PatternSuite.Text
