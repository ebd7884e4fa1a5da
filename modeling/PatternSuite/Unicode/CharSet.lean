/-!
# Sets of characters

A set of code points is a list of intervals in ascending order, disjoint and never adjacent, so a
set has one form. Code points are natural numbers; surrogates belong to no complement.

* `CharSet.union`, `inter`, `diff`, `symmDiff`, `complement`: the Boolean operations.
* `CharSet.contains`: membership of a code point.
* `CharSet.ofTable`: reads the compact tables that the property modules hold.
-/

namespace PatternSuite.Unicode

/-- A closed interval of code points. -/
structure Interval where
  lo : Nat
  hi : Nat
  deriving BEq, DecidableEq, Repr, Inhabited

/-- The last code point. -/
def lastCodePoint : Nat := 0x10FFFF

/-- A set of code points as ascending intervals with gaps between them. -/
structure CharSet where
  intervals : List Interval
  deriving BEq, DecidableEq, Repr, Inhabited

namespace CharSet

/-- The empty set. -/
def none : CharSet := ⟨[]⟩

/-- Every character. -/
def all : CharSet := ⟨[⟨0, lastCodePoint⟩]⟩

/-- The characters from `lo` to `hi`. -/
def range (lo hi : Nat) : CharSet := ⟨[⟨lo, hi⟩]⟩

/-- A single character. -/
def singleton (c : Nat) : CharSet := range c c

/-- Is there nothing in the set? -/
def isEmpty (s : CharSet) : Bool := s.intervals.isEmpty

/-- Whether a code point is in the set. -/
def contains (s : CharSet) (c : Nat) : Bool :=
  s.intervals.any fun i => i.lo ≤ c && c ≤ i.hi

/-- Joins intervals that overlap or touch; the input ascends by lower end. -/
def joinAdjacent : List Interval → List Interval
  | [] => []
  | i :: rest => go i rest []
where
  /-- `current` is still growing; `done` holds the finished intervals, last first. -/
  go (current : Interval) : List Interval → List Interval → List Interval
    | [], done => (current :: done).reverse
    | j :: rest, done =>
      if j.lo ≤ current.hi + 1 then go ⟨current.lo, max current.hi j.hi⟩ rest done
      else go j rest (current :: done)

/-- The set of all characters in some intervals, given in any order. -/
def ofIntervals (is : List Interval) : CharSet :=
  ⟨joinAdjacent (is.mergeSort fun a b => a.lo ≤ b.lo)⟩

/-- Characters in one set or the other. -/
def union (s t : CharSet) : CharSet :=
  if s.isEmpty then t else if t.isEmpty then s
  else ⟨joinAdjacent (List.merge s.intervals t.intervals fun a b => a.lo ≤ b.lo)⟩

/-- The part of a gap that holds characters, if any: a gap that ends in the surrogates is cut
back to its characters. -/
def trimSurrogates (i : Interval) : Option Interval :=
  let lo := if 0xD800 ≤ i.lo && i.lo ≤ 0xDFFF then 0xE000 else i.lo
  let hi := if 0xD800 ≤ i.hi && i.hi ≤ 0xDFFF then 0xD7FF else i.hi
  if lo ≤ hi then some ⟨lo, hi⟩ else Option.none

/-- The gaps between intervals, from `start` on. -/
def gaps (start : Nat) : List Interval → List Interval
  | [] => if start ≤ lastCodePoint then [⟨start, lastCodePoint⟩] else []
  | i :: rest =>
    if start < i.lo then ⟨start, i.lo - 1⟩ :: gaps (i.hi + 1) rest else gaps (i.hi + 1) rest

/-- Characters that are not in the set. -/
def complement (s : CharSet) : CharSet := ⟨(gaps 0 s.intervals).filterMap trimSurrogates⟩

/-- The overlaps of two ascending lists of intervals. -/
def overlaps : List Interval → List Interval → List Interval
  | [], _ => []
  | _ :: _, [] => []
  | i :: is, j :: js =>
    let lo := max i.lo j.lo
    let hi := min i.hi j.hi
    let rest := if i.hi < j.hi then overlaps is (j :: js) else overlaps (i :: is) js
    if lo ≤ hi then ⟨lo, hi⟩ :: rest else rest
termination_by is js => is.length + js.length

/-- Characters in both sets. -/
def inter (s t : CharSet) : CharSet := ⟨overlaps s.intervals t.intervals⟩

/-- Characters in the first set only. -/
def diff (s t : CharSet) : CharSet := s.inter t.complement

/-- Characters in exactly one of the sets. -/
def symmDiff (s t : CharSet) : CharSet := (s.union t).diff (s.inter t)

/-- Does the set hold ASCII characters only? -/
def isAscii (s : CharSet) : Bool := s.intervals.all fun i => i.hi ≤ 0x7F

/-- The character, if the set has exactly one. -/
def single? (s : CharSet) : Option Nat :=
  match s.intervals with
  | [i] => if i.lo == i.hi then some i.lo else Option.none
  | _ => Option.none

/-- The value of a hexadecimal digit in lower case. -/
def hexDigit (c : Char) : Nat :=
  if c.isDigit then c.toNat - '0'.toNat else c.toNat - 'a'.toNat + 10

/-- Reads words of hexadecimal digits separated by blanks. -/
def readWords (row : String) : List Nat :=
  let (words, current, inWord) := row.foldl
    (fun (st : List Nat × Nat × Bool) c =>
      if c == ' ' then if st.2.2 then (st.2.1 :: st.1, 0, false) else st
      else (st.1, st.2.1 * 16 + hexDigit c, true))
    ([], 0, false)
  (if inWord then current :: words else words).reverse

/-- Reads gap and extent pairs: each interval starts `gap` code points after the one before it
ended, and holds `extent + 1` of them. -/
def readIntervals (start : Nat) : List Nat → List Interval
  | gap :: extent :: rest =>
    let lo := start + gap
    ⟨lo, lo + extent⟩ :: readIntervals (lo + extent + 1) rest
  | _ => []

/-- The set that the rows of a table describe. -/
def ofTable (rows : List String) : CharSet :=
  ofIntervals (readIntervals 0 (rows.flatMap readWords))

end CharSet

/-- A set of characters kept as a table, and the normalised spellings that name it. -/
structure NamedTable where
  names : List String
  rows : List String

namespace NamedTable

/-- The characters of the table. -/
def set (t : NamedTable) : CharSet := CharSet.ofTable t.rows

/-- The characters of the table with the given name. -/
def find (name : String) (tables : List NamedTable) : Option CharSet :=
  (tables.find? fun t => t.names.contains name).map set

end NamedTable

end PatternSuite.Unicode
