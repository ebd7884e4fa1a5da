import PatternSuite.Unicode.Category
import PatternSuite.Unicode.Property

/-!
# The character classes in daily use

Letters of words, decimal digits, blanks, the characters of identifiers, and the characters that
can be shown as they are.
-/

namespace PatternSuite.Unicode

/-- A set laid out for binary search. -/
structure CharIndex where
  intervals : Array Interval
  deriving Inhabited, Repr, BEq

namespace CharIndex

/-- Lays out a set. -/
def ofSet (s : CharSet) : CharIndex := ⟨s.intervals.toArray⟩

/-- Looks for `c` between two indices. -/
def search (t : CharIndex) (c : Nat) : Nat → Nat → Nat → Bool
  | 0, _, _ => false
  | fuel + 1, lo, hi =>
    if hi ≤ lo then false
    else
      let mid := (lo + hi) / 2
      match t.intervals[mid]? with
      | none => false
      | some i =>
        if c < i.lo then t.search c fuel lo mid
        else if i.hi < c then t.search c fuel (mid + 1) hi
        else true

/-- Whether a code point is in the set. -/
def contains (t : CharIndex) (c : Nat) : Bool := t.search c t.intervals.size 0 t.intervals.size

end CharIndex

/-- The characters with a binary property, by one of its names. -/
def property (name : String) : CharSet := (NamedTable.find name propertyTable).getD CharSet.none

/-- Decimal digits. -/
def decimalDigits : CharSet := category "nd"

/-- Blanks. -/
def whiteSpace : CharSet := property "whitespace"

/-- Characters of words: letters, marks, decimal digits, connectors and joiners. -/
def wordCharacters : CharSet :=
  ["mn", "mc", "me", "nd", "pc"].foldl (fun s c => s.union (category c))
    ((property "alphabetic").union (property "joincontrol"))

/-- Letters in the wide sense. -/
def alphabetic : CharSet := property "alphabetic"

/-- Letters in the wide sense and numbers of every kind. -/
def alphanumeric : CharSet :=
  ["nd", "nl", "no"].foldl (fun s c => s.union (category c)) alphabetic

/-- Characters that are no controls, formats, private or unassigned ones, or separators other
than the plain blank. -/
def printable : CharSet :=
  (["cc", "cf", "co", "zl", "zp", "zs"].foldl (fun s c => s.diff (category c)) assigned).union
    (CharSet.singleton 0x20)

/-- Characters that join the one before them. -/
def graphemeExtend : CharSet := property "graphemeextend"

/-- Index of the blanks. -/
def whiteSpaceIndex : CharIndex := .ofSet whiteSpace

/-- Index of the characters of words. -/
def wordIndex : CharIndex := .ofSet wordCharacters

/-- Index of the letters. -/
def alphabeticIndex : CharIndex := .ofSet alphabetic

/-- Index of letters and numbers. -/
def alphanumericIndex : CharIndex := .ofSet alphanumeric

/-- Index of the characters that a quoted text shows as they are. -/
def shownIndex : CharIndex := .ofSet (printable.diff graphemeExtend)

/-- Is the character a blank? -/
def isWhiteSpace (c : Char) : Bool := whiteSpaceIndex.contains c.toNat

/-- Does the character belong to words? -/
def isWordChar (c : Char) : Bool := wordIndex.contains c.toNat

/-- Is the character a letter, in the wide sense? -/
def isAlphabetic (c : Char) : Bool := alphabeticIndex.contains c.toNat

/-- Is the character a letter or a number? -/
def isAlphanumeric (c : Char) : Bool := alphanumericIndex.contains c.toNat

/-- Does a quoted text show the character as it is? -/
def isShown (c : Char) : Bool := shownIndex.contains c.toNat

/-- Is the character an ASCII letter, digit or underscore? -/
def isAsciiWordChar (c : Char) : Bool := c.isAlphanum || c == '_'

end PatternSuite.Unicode
