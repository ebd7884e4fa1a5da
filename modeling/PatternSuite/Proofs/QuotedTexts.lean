import Mathlib.Data.List.Basic
import Mathlib.Tactic.IntervalCases
import Mathlib.Tactic.SplitIfs
import PatternSuite.Text.Quoted
import PatternSuite.Unicode.CharSet

/-!
# Quoted texts can be read back

Every escape begins with a backslash and tells by what follows where it ends, and a backslash of
the text is escaped itself. So a text can be read back from what stands between its quotes. Tabs and
newlines are escaped, and no quoted text is a dash.

* `notMem_toDigits`, `notMem_escapeChar`: characters that never stand among digits, or between
  quotes.
* `natOfHex_toDigits`: a number is read back from its hexadecimal digits.
* `unescape_escapeChar`: a character is read back, whatever follows it.
* `unquote_quote`: a text is read back.
-/

namespace PatternSuite.Text

/-! ## Digits -/

/-- What is no digit does not stand among the digits of a number, in any base. -/
theorem notMem_toDigits {x : Char} (hx : ∀ d, Nat.digitChar d ≠ x) {b : Nat} (hb : 1 < b)
    (n : Nat) : x ∉ Nat.toDigits b n := by
  have hdigit (d : Nat) : x ≠ Nat.digitChar d := (hx d).symm
  induction n using Nat.strong_induction_on with
  | _ n ih =>
    rw [Nat.toDigits_eq_if hb]
    split
    · simp [hdigit]
    · next hn =>
      have hlt : n / b < n := Nat.div_lt_self (by omega) hb
      simpa [hdigit] using ih (n / b) hlt

/-- The number that some hexadecimal digits in lower case stand for. -/
def natOfHex (digits : List Char) : Nat :=
  digits.foldl (fun n c => 16 * n + Unicode.CharSet.hexDigit c) 0

theorem natOfHex_concat (digits : List Char) (c : Char) :
    natOfHex (digits ++ [c]) = 16 * natOfHex digits + Unicode.CharSet.hexDigit c :=
  List.foldl_append

theorem hexDigit_digitChar {d : Nat} (h : d < 16) :
    Unicode.CharSet.hexDigit (Nat.digitChar d) = d := by
  interval_cases d <;> rfl

/-- **A number is read back from its hexadecimal digits.** -/
theorem natOfHex_toDigits (n : Nat) : natOfHex (Nat.toDigits 16 n) = n := by
  induction n using Nat.strong_induction_on with
  | _ n ih =>
    rw [Nat.toDigits_eq_if (by decide)]
    split
    · next hn =>
      rw [← List.nil_append [_], natOfHex_concat, hexDigit_digitChar hn]
      exact Nat.zero_add n
    · next hn =>
      have hlast := hexDigit_digitChar (Nat.mod_lt n (by decide : 0 < 16))
      rw [natOfHex_concat, ih (n / 16) (by omega), hlast]
      omega

/-! ## Escapes -/

/-- There are no tabs and no newlines between quotes. -/
theorem notMem_escapeChar {x : Char} (hx : x = '\t' ∨ x = '\n') (c : Char) :
    x ∉ escapeChar c := by
  have hdigit (d : Nat) : Nat.digitChar d ≠ x := by
    rcases hx with rfl | rfl <;> exact Nat.digitChar_ne _ (by decide)
  unfold escapeChar
  split_ifs with ht hr hn h0 hq hb hs
  -- letters and marks are neither; nor is a character that is shown
  all_goals try (rcases hx with rfl | rfl <;> decide)
  · rcases hx with rfl | rfl
    · simpa using Ne.symm (by simpa using ht : c ≠ '\t')
    · simpa using Ne.symm (by simpa using hn : c ≠ '\n')
  · have hdigits := notMem_toDigits hdigit (by decide : 1 < 16) c.toNat
    rcases hx with rfl | rfl <;> simpa using hdigits

/-- The character that a letter or a mark behind a backslash stands for. -/
def unletter (c : Char) : Char :=
  match c with
  | 't' => '\t'
  | 'r' => '\r'
  | 'n' => '\n'
  | '0' => '\x00'
  | c => c

/-- Reads back what stands between quotes. -/
def unescape : List Char → List Char
  | [] => []
  | '\\' :: 'u' :: cs =>
    let digits := cs.tail.takeWhile (· != '\x7d')
    Char.ofNat (natOfHex digits) :: unescape (cs.tail.drop (digits.length + 1))
  | '\\' :: c :: cs => unletter c :: unescape cs
  | c :: cs => c :: unescape cs
termination_by cs => cs.length
decreasing_by all_goals simp; try omega

theorem unescape_letter {c : Char} (hc : c ≠ 'u') (rest : List Char) :
    unescape ('\\' :: c :: rest) = unletter c :: unescape rest := by
  rw [unescape]
  simpa using hc

/-- The number of a character is read back up to the closing brace. -/
theorem unescape_code (c : Char) (rest : List Char) :
    unescape (['\\', 'u', '\x7b'] ++ Nat.toDigits 16 c.toNat ++ ['\x7d'] ++ rest) =
      c :: unescape rest := by
  have hbrace (d : Nat) : Nat.digitChar d ≠ '\x7d' := Nat.digitChar_ne _ (by decide)
  have hdigits : ∀ d ∈ Nat.toDigits 16 c.toNat, (d != '\x7d') = true := by
    intro d hd
    refine bne_iff_ne.2 fun h => ?_
    exact notMem_toDigits hbrace (by decide) c.toNat (h ▸ hd)
  have htake : (Nat.toDigits 16 c.toNat ++ '\x7d' :: rest).takeWhile (· != '\x7d') =
      Nat.toDigits 16 c.toNat := by
    rw [List.takeWhile_append_of_pos hdigits]
    simp
  simp only [List.cons_append, List.nil_append, List.append_assoc, unescape, List.tail_cons]
  rw [htake, natOfHex_toDigits, Char.ofNat_toNat, List.drop_length_add_append]
  rfl

/-- **A character is read back**, whatever follows it. -/
theorem unescape_escapeChar (c : Char) (rest : List Char) :
    unescape (escapeChar c ++ rest) = c :: unescape rest := by
  unfold escapeChar
  split_ifs with ht hr hn h0 hq hb hs
  -- a number for what is not shown; otherwise a letter or a mark behind a backslash, or itself
  case neg => exact unescape_code c rest
  · obtain rfl := beq_iff_eq.1 ht
    exact unescape_letter (by decide) rest
  · obtain rfl := beq_iff_eq.1 hr
    exact unescape_letter (by decide) rest
  · obtain rfl := beq_iff_eq.1 hn
    exact unescape_letter (by decide) rest
  · obtain rfl := beq_iff_eq.1 h0
    exact unescape_letter (by decide) rest
  · obtain rfl := beq_iff_eq.1 hq
    exact unescape_letter (by decide) rest
  · obtain rfl := beq_iff_eq.1 hb
    exact unescape_letter (by decide) rest
  · have hplain : c ≠ '\\' := by simpa using hb
    rw [List.singleton_append, unescape]
    · exact fun _ h => absurd h hplain
    · exact fun _ _ h => absurd h hplain

theorem unescape_flatMap (cs : List Char) : unescape (cs.flatMap escapeChar) = cs := by
  induction cs with
  | nil => simp [unescape]
  | cons c cs ih => rw [List.flatMap_cons, unescape_escapeChar, ih]

/-! ## Quotes -/

theorem toList_quote (s : String) :
    (quote s).toList = '"' :: (s.toList.flatMap escapeChar ++ ['"']) := String.toList_ofList

/-- There are no tabs and no newlines in a quoted text. -/
theorem notMem_quote {x : Char} (hx : x = '\t' ∨ x = '\n') (s : String) :
    x ∉ (quote s).toList := by
  have hmark : x ≠ '"' := by rcases hx with rfl | rfl <;> decide
  rw [toList_quote]
  simp [hmark, notMem_escapeChar hx]

/-- A quoted text is no dash. -/
theorem quote_ne_dash (s : String) : quote s ≠ "-" := by
  intro h
  have hchars := congrArg String.toList h
  rw [toList_quote] at hchars
  exact absurd (List.cons.inj hchars).1 (by decide)

/-- The text that stands in quotes. -/
def unquote (s : String) : String := String.ofList (unescape s.toList.tail.dropLast)

/-- **A text is read back** from its quotes. -/
theorem unquote_quote (s : String) : unquote (quote s) = s := by
  rw [unquote, toList_quote, List.tail_cons, List.dropLast_concat, unescape_flatMap,
    String.ofList_toList]

end PatternSuite.Text
