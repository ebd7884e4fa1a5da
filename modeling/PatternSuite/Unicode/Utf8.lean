import PatternSuite.Unicode.CharSet
import Std.Data.HashMap

/-!
# Sets of characters as sets of byte sequences

In UTF-8 a set of characters is a set of byte sequences. An interval of characters splits into a
few sequences of byte ranges, and the sequences of a whole set share beginnings and ends in a
trie.

* `Interval.byteSequences`: the sequences of an interval, ascending.
* `ByteTrie.ofSet`: the trie of a set, with every node kept once.
-/

namespace PatternSuite.Unicode

/-- A closed interval of bytes. -/
structure ByteRange where
  lo : Nat
  hi : Nat
  deriving BEq, DecidableEq, Hashable, Repr, Inhabited

/-- Any continuation byte. -/
def continuationByte : ByteRange := ⟨0x80, 0xBF⟩

/-- The sequences for the payloads from `lo` to `hi`. The first byte counts from `base`, and
`more` continuation bytes of six bits follow it. -/
def payloadSequences (base : Nat) : Nat → Nat → Nat → List (List ByteRange)
  | 0, lo, hi => [[⟨base + lo, base + hi⟩]]
  | more + 1, lo, hi =>
    let block := 64 ^ (more + 1)
    let first := lo / block
    let last := hi / block
    let within (lead first last : Nat) : List (List ByteRange) :=
      (payloadSequences 0x80 more first last).map (⟨base + lead, base + lead⟩ :: ·)
    if first = last then within first (lo % block) (hi % block)
    else
      let partialHead := lo % block ≠ 0
      let partialTail := hi % block ≠ block - 1
      let start := if partialHead then first + 1 else first
      let upTo := if partialTail then last else last + 1
      (if partialHead then within first (lo % block) (block - 1) else [])
        ++ (if start < upTo then
            [⟨base + start, base + (upTo - 1)⟩ :: List.replicate (more + 1) continuationByte]
          else [])
        ++ (if partialTail then within last 0 (hi % block) else [])

/-- The code points that are encoded alike: their bounds, the base of the first byte, and the
number of continuation bytes. Surrogates are not among them. -/
def encodingBlocks : List (Nat × Nat × Nat × Nat) := [
  (0, 0x7F, 0, 0), (0x80, 0x7FF, 0xC0, 1), (0x800, 0xD7FF, 0xE0, 2), (0xE000, 0xFFFF, 0xE0, 2),
  (0x10000, 0x10FFFF, 0xF0, 3)]

/-- The byte sequences of an interval of characters, ascending. -/
def Interval.byteSequences (i : Interval) : List (List ByteRange) :=
  encodingBlocks.flatMap fun (lo, hi, base, more) =>
    let first := max lo i.lo
    let last := min hi i.hi
    if first ≤ last then payloadSequences base more first last else []

/-- The byte sequences of a set, ascending. -/
def CharSet.byteSequences (s : CharSet) : List (List ByteRange) :=
  s.intervals.flatMap Interval.byteSequences

/-- A branch of a trie: some bytes, and the node they lead to; without a node they are last. -/
structure TrieBranch where
  range : ByteRange
  next : Option Nat
  deriving BEq, DecidableEq, Hashable, Repr, Inhabited

/-- A trie of byte sequences whose nodes are numbered; equal nodes are one. A node comes after the
nodes it leads to, and the root is the last. -/
structure ByteTrie where
  nodes : Array (List TrieBranch) := #[]
  numbers : Std.HashMap (List TrieBranch) Nat := {}

namespace ByteTrie

/-- Puts sequences with the same first range together; they stand side by side. -/
def groupByFirst : List (List ByteRange) → List (ByteRange × List (List ByteRange))
  | [] => []
  | [] :: rest => groupByFirst rest
  | (r :: tail) :: rest =>
    match groupByFirst rest with
    | (r', tails) :: groups =>
      if r == r' then (r, tail :: tails) :: groups else (r, [tail]) :: (r', tails) :: groups
    | [] => [(r, [tail])]

/-- The number of a node, which is added if it is new. -/
def number (node : List TrieBranch) (t : ByteTrie) : Nat × ByteTrie :=
  match t.numbers[node]? with
  | some n => (n, t)
  | none => (t.nodes.size, ⟨t.nodes.push node, t.numbers.insert node t.nodes.size⟩)

/-- Adds the node that some sequences begin at; they have at most `depth` bytes. -/
def insertAll : Nat → List (List ByteRange) → ByteTrie → Nat × ByteTrie
  | 0, _, t => t.number []
  | depth + 1, sequences, t =>
    let (branches, t) := (groupByFirst sequences).foldl
      (fun (st : List TrieBranch × ByteTrie) group =>
        let tails := group.2.filter (!·.isEmpty)
        if tails.isEmpty then (⟨group.1, none⟩ :: st.1, st.2)
        else
          let (n, t) := insertAll depth tails st.2
          (⟨group.1, some n⟩ :: st.1, t))
      ([], t)
    t.number branches.reverse

/-- The trie of a set. -/
def ofSet (s : CharSet) : ByteTrie := (insertAll 4 s.byteSequences {}).2

end ByteTrie

end PatternSuite.Unicode
