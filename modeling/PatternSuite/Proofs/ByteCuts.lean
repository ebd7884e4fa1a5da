import Mathlib.Data.String.Basic
import PatternSuite.Text.Bytes

/-!
# Cutting a text at a byte

A text is only cut between two characters. From a byte that may lie inside a character, or behind
the text, one finds such a place by stepping back byte by byte, and this is the end of the longest
beginning that fits into so many bytes.

* `LongestFit`: the longest beginning of a text within a number of bytes.
* `LongestFit.whole_iff`, `LongestFit.wasted`: whether it is the whole text, and how much room it
  leaves if not.
* `LongestFit.trans`: cutting twice.
* `LongestFit.behind`: cutting a text that stands behind another one.
* `LongestFit.stepBack`: stepping back from a byte ends where the longest beginning does.
* `slice?_append`: a slice between two places between characters.
-/

namespace PatternSuite

open Text

/-- The longest beginning of a text that has at most `n` bytes. -/
structure LongestFit (n : Nat) (text part : String) : Prop where
  beginning : part.toList <+: text.toList
  fits : part.utf8ByteSize ≤ n
  longest : ∀ other : String, other.toList <+: text.toList → other.utf8ByteSize ≤ n →
    other.toList <+: part.toList

theorem utf8ByteSize_eq_byteLength (s : String) : s.utf8ByteSize = byteLength s.toList := by
  obtain ⟨cs, rfl⟩ : ∃ cs, s = String.ofList cs := ⟨s.toList, s.ofList_toList.symm⟩
  induction cs with
  | nil => rfl
  | cons c cs ih =>
    rw [String.toList_ofList] at ih ⊢
    rw [← List.singleton_append, String.ofList_append, String.utf8ByteSize_append, ih,
      ← String.singleton_eq_ofList, String.utf8ByteSize_singleton]
    rfl

/-- No longer beginning fits. -/
theorem prefix_takeBytes {n : Nat} {cs ds : List Char} (hbegins : ds <+: cs)
    (hfits : byteLength ds ≤ n) : ds <+: takeBytes n cs := by
  induction cs generalizing n ds with
  | nil => simpa [takeBytes] using hbegins
  | cons c cs ih =>
    cases ds with
    | nil => exact List.nil_prefix
    | cons d ds =>
      obtain ⟨rfl, hds⟩ := List.cons_prefix_cons.1 hbegins
      have hlength : d.utf8Size + byteLength ds ≤ n := hfits
      rw [takeBytes, if_pos (by omega)]
      exact List.cons_prefix_cons.2 ⟨rfl, ih hds (by omega)⟩

/-- What is taken of a text is the longest beginning that fits. -/
theorem longestFit_takeBytes (n : Nat) (text : String) :
    LongestFit n text (String.ofList (takeBytes n text.toList)) where
  beginning := by
    rw [String.toList_ofList]
    exact ⟨_, takeBytes_append_dropBytes n text.toList⟩
  fits := by
    rw [utf8ByteSize_eq_byteLength, String.toList_ofList]
    exact byteLength_takeBytes_le n text.toList
  longest other hbegins hfits := by
    rw [String.toList_ofList]
    rw [utf8ByteSize_eq_byteLength] at hfits
    exact prefix_takeBytes hbegins hfits

theorem prefix_append_left (s t : String) : s.toList <+: (s ++ t).toList := by
  rw [String.toList_append]
  exact List.prefix_append _ _

theorem exists_append_of_begins {s t : String} (h : s.toList <+: t.toList) :
    ∃ rest, t = s ++ rest := by
  obtain ⟨cs, hcs⟩ := h
  refine ⟨String.ofList cs, String.toList_injective ?_⟩
  rw [String.toList_append, String.toList_ofList, hcs]

theorem utf8ByteSize_le_of_begins {s t : String} (h : s.toList <+: t.toList) :
    s.utf8ByteSize ≤ t.utf8ByteSize := by
  obtain ⟨rest, rfl⟩ := exists_append_of_begins h
  rw [String.utf8ByteSize_append]
  omega

namespace LongestFit

variable {m n : Nat} {text part other : String}

/-- There is only one longest beginning. -/
theorem unique (h : LongestFit n text part) (h' : LongestFit n text other) : part = other := by
  have hle := (h'.longest part h.beginning h.fits).length_le
  exact String.toList_injective ((h.longest other h'.beginning h'.fits).eq_of_length_le hle).symm

/-- The whole text is kept just if it fits. -/
theorem whole_iff (h : LongestFit n text part) : part = text ↔ text.utf8ByteSize ≤ n := by
  constructor
  · rintro rfl
    exact h.fits
  · intro hfits
    have hle := (h.longest text (List.prefix_refl _) hfits).length_le
    exact String.toList_injective (h.beginning.eq_of_length_le hle)

/-- **No more than three bytes are wasted**, as the next character does not fit. -/
theorem wasted (h : LongestFit n text part) (hn : n < text.utf8ByteSize) :
    n ≤ part.utf8ByteSize + 3 := by
  obtain ⟨rest, rfl⟩ := exists_append_of_begins h.beginning
  rcases hrest : rest.toList with _ | ⟨c, cs⟩
  · obtain rfl : rest = "" := String.toList_injective hrest
    rw [String.append_empty] at hn
    exact absurd h.fits (by omega)
  have hnext : (part ++ String.singleton c).toList <+: (part ++ rest).toList := by
    rw [String.toList_append, String.toList_append, hrest, String.toList_singleton]
    exact List.prefix_append_right_inj _ |>.2 ⟨cs, rfl⟩
  have hsize : (part ++ String.singleton c).utf8ByteSize = part.utf8ByteSize + c.utf8Size := by
    rw [String.utf8ByteSize_append, String.utf8ByteSize_singleton]
  have hlarge : n < part.utf8ByteSize + c.utf8Size := by
    by_contra hle
    have hpart := utf8ByteSize_le_of_begins (h.longest _ hnext (by omega))
    have hpos := c.utf8Size_pos
    omega
  have hfour := c.utf8Size_le_four
  omega

/-- **Cutting twice** is cutting once at the lesser byte. -/
theorem trans (hmn : m ≤ n) (h : LongestFit n text part) (h' : LongestFit m part other) :
    LongestFit m text other where
  beginning := h'.beginning.trans h.beginning
  fits := h'.fits
  longest _ hbegins hfits := h'.longest _ (h.longest _ hbegins (hfits.trans hmn)) hfits

/-- No more than the bytes of the text matter. -/
theorem capped (h : LongestFit n text part) : LongestFit (min text.utf8ByteSize n) text part where
  beginning := h.beginning
  fits := Nat.le_min.2 ⟨utf8ByteSize_le_of_begins h.beginning, h.fits⟩
  longest other hbegins hfits := h.longest other hbegins (hfits.trans (Nat.min_le_right ..))

/-- **A text behind another one** is cut where it would be cut alone. -/
theorem behind (h : LongestFit n text part) (front : String) :
    LongestFit (front.utf8ByteSize + n) (front ++ text) (front ++ part) where
  beginning := by
    rw [String.toList_append, String.toList_append]
    exact (List.prefix_append_right_inj _).2 h.beginning
  fits := by
    rw [String.utf8ByteSize_append]
    exact Nat.add_le_add_left h.fits _
  longest other hbegins hfits := by
    have hfront : front.toList <+: (front ++ text).toList := prefix_append_left front text
    -- the other beginning ends in front of the text or inside of it
    rcases List.prefix_or_prefix_of_prefix hbegins hfront with hinside | hbehind
    · exact hinside.trans (prefix_append_left front part)
    · obtain ⟨more, rfl⟩ := exists_append_of_begins hbehind
      rw [String.utf8ByteSize_append] at hfits
      rw [String.toList_append, String.toList_append, List.prefix_append_right_inj] at hbegins ⊢
      exact h.longest more hbegins (by omega)

end LongestFit

/-! ## Stepping back -/

/-- The last place between two characters that is not behind a byte, found by stepping back one
byte at a time; none if even byte 0 is no such place. -/
def stepBack? (text : String) : Nat → Option Nat
  | 0 => if String.Pos.Raw.isValid text ⟨0⟩ then some 0 else none
  | n + 1 => if String.Pos.Raw.isValid text ⟨n + 1⟩ then some (n + 1) else stepBack? text n

/-- The places between characters are the ends of beginnings. -/
theorem isValid_iff {text : String} {n : Nat} :
    String.Pos.Raw.isValid text ⟨n⟩ = true ↔
      ∃ front back : String, text = front ++ back ∧ front.utf8ByteSize = n := by
  rw [String.Pos.Raw.isValid_eq_true_iff, String.Pos.Raw.isValid_iff_exists_append]
  constructor
  · rintro ⟨front, back, rfl, hn⟩
    exact ⟨front, back, rfl, (congrArg String.Pos.Raw.byteIdx hn).symm⟩
  · rintro ⟨front, back, rfl, rfl⟩
    exact ⟨front, back, rfl, rfl⟩

/-- **Stepping back** ends where the longest beginning ends that fits. -/
theorem LongestFit.stepBack {n : Nat} {text part : String} (h : LongestFit n text part) :
    stepBack? text n = some part.utf8ByteSize := by
  have hvalid {k : Nat} (hk : part.utf8ByteSize = k) :
      String.Pos.Raw.isValid text ⟨k⟩ = true := by
    obtain ⟨rest, rfl⟩ := exists_append_of_begins h.beginning
    exact isValid_iff.2 ⟨part, rest, rfl, hk⟩
  induction n with
  | zero =>
    have hzero : part.utf8ByteSize = 0 := Nat.le_zero.1 h.fits
    rw [stepBack?, if_pos (hvalid hzero), hzero]
  | succ n ih =>
    rw [stepBack?]
    split
    · next hplace =>
      -- a beginning that ends here is the longest one
      obtain ⟨front, back, rfl, hfront⟩ := isValid_iff.1 hplace
      have hle := utf8ByteSize_le_of_begins
        (h.longest front (prefix_append_left front back) hfront.le)
      rw [Nat.le_antisymm h.fits (hfront ▸ hle)]
    · next hplace =>
      have hne : part.utf8ByteSize ≠ n + 1 := fun heq => hplace (hvalid heq)
      have hfits := h.fits
      exact ih ⟨h.beginning, by omega, fun other hbegins hother =>
        h.longest other hbegins (hother.trans (Nat.le_succ n))⟩

/-- **A slice** between two places between characters is what stands there. -/
theorem slice?_append (front part back : String) :
    slice? (front ++ part ++ back)
      ⟨front.utf8ByteSize, front.utf8ByteSize + part.utf8ByteSize⟩ = some part := by
  have hstart : String.Pos.Raw.isValid (front ++ part ++ back) ⟨front.utf8ByteSize⟩ = true :=
    isValid_iff.2 ⟨front, part ++ back, String.append_assoc, rfl⟩
  have hstop : String.Pos.Raw.isValid (front ++ part ++ back)
      ⟨front.utf8ByteSize + part.utf8ByteSize⟩ = true :=
    isValid_iff.2 ⟨front ++ part, back, rfl, String.utf8ByteSize_append⟩
  have hextract := String.extract_of_valid front.toList part.toList back.toList
  simp only [String.ofList_append, String.ofList_toList, String.utf8Len_toList] at hextract
  simp [slice?, hstart, hstop, hextract]

theorem slice?_front (front back : String) :
    slice? (front ++ back) ⟨0, front.utf8ByteSize⟩ = some front := by
  simpa using slice?_append "" front back

end PatternSuite
