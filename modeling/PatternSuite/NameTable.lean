import PatternSuite.Text.Bytes

/-!
# Tables of group names

The names of capture groups travel as one flat table with entries of a fixed size. An entry is the
group's number in two bytes, the high one first, then the bytes of the name, then zeros up to the
entry's size, at least one. Entries stand in the order of their names.

* `NameTable.encode`, `NameTable.build`: the table of some names, unless a group's number needs
  more than two bytes.
* `NameTable.entries`: the names of a table. Tables come from engines and may hold anything: a name
  ends at its first zero or with its entry, an entry whose name is no text is passed over, and
  bytes that fill no entry mean nothing.
* `NameTable.group?`: the number of a name.
-/

namespace PatternSuite

open Text

/-- A flat table of group names. No entry is shorter than its number and a closing zero. -/
structure NameTable where
  entrySize : Nat
  bytes : List UInt8
  three_le_entrySize : 3 ≤ entrySize := by omega
  deriving DecidableEq, Repr

namespace NameTable

/-- Wraps raw bytes; entries have at least three bytes whatever the caller says. -/
def ofBytes (entrySize : Nat) (bytes : List UInt8) : NameTable where
  entrySize := max entrySize 3
  bytes := bytes
  three_le_entrySize := Nat.le_max_right ..

/-- The entry size that names of these lengths need. -/
def entrySizeOfLengths (lengths : List Nat) : Nat := 2 + lengths.foldl max 0 + 1

/-- The entry size that these names need. -/
def entrySizeFor (names : List String) : Nat :=
  entrySizeOfLengths (names.map fun n => (textBytes n).length)

/-- The order of entries: by the bytes of the name, then by number. -/
def entryLE (a b : List UInt8 × Nat) : Bool :=
  if a.1 = b.1 then a.2 ≤ b.2 else decide (a.1 < b.1)

/-- The greatest number that an entry can hold. -/
def maxGroup : Nat := 65535

/-- Why a table was not built. -/
inductive Fault
  /-- A group's number is too great for an entry. -/
  | groupTooGreat
  /-- Bytes outside of an entry would have been written or read. -/
  | outOfRange
  deriving DecidableEq, Repr

/-- The first `count` pieces of `size` bytes. -/
def pieces (size : Nat) : Nat → List UInt8 → List (List UInt8)
  | 0, _ => []
  | count + 1, bs => bs.take size :: pieces size count (bs.drop size)

/-- Writes bytes over others, from a place on. -/
def overwrite (bs : List UInt8) (start : Nat) (new : List UInt8) : Except Fault (List UInt8) :=
  if start + new.length ≤ bs.length then
    .ok (bs.take start ++ new ++ bs.drop (start + new.length))
  else .error .outOfRange

/-- Writes an entry over a piece of the table: the number, then the name. -/
def writeEntry (piece : List UInt8) (entry : List UInt8 × Nat) : Except Fault (List UInt8) :=
  if maxGroup < entry.2 then .error .groupTooGreat
  else
    match overwrite piece 0 [UInt8.ofNat (entry.2 / 256), UInt8.ofNat (entry.2 % 256)] with
    | .error f => .error f
    | .ok piece => overwrite piece 2 entry.1

/-- Writes entries over the pieces of a table, one after the other. -/
def writeEntries : List (List UInt8) → List (List UInt8 × Nat) → Except Fault (List UInt8)
  | piece :: ps, entry :: es =>
    match writeEntry piece entry with
    | .error f => .error f
    | .ok piece =>
      match writeEntries ps es with
      | .error f => .error f
      | .ok bytes => .ok (piece ++ bytes)
  | ps, _ => .ok ps.flatten

/-- The entries of some names in their order. -/
def sortedEntries (names : List (String × Nat)) : List (List UInt8 × Nat) :=
  (names.map fun n => (textBytes n.1, n.2)).mergeSort entryLE

/-- Writes the entries of some names into a table of zeros. -/
def encode (names : List (String × Nat)) : Except Fault NameTable :=
  let entries := sortedEntries names
  let size := entrySizeOfLengths (entries.map (·.1.length))
  (writeEntries (pieces size entries.length (List.replicate (size * entries.length) 0)) entries).map
    (ofBytes size)

/-- The table of some names with their groups. There is none when a number is too great for an
entry. -/
def build (names : List (String × Nat)) : Option NameTable := (encode names).toOption

/-- The number of entries. -/
def length (t : NameTable) : Nat := t.bytes.length / t.entrySize

/-- Has the table no entries? -/
def isEmpty (t : NameTable) : Bool := t.length == 0

/-- Reads one entry. -/
def decodeEntry : List UInt8 → Option (String × Nat)
  | high :: low :: rest =>
    (textOfBytes? (rest.takeWhile (· != 0))).map fun name => (name, high.toNat * 256 + low.toNat)
  | _ => none

/-- The names of the table with their groups, in table order. -/
def entries (t : NameTable) : List (String × Nat) :=
  (pieces t.entrySize t.length t.bytes).filterMap decodeEntry

/-- The group of a name: that of the first entry with the name. -/
def group? (t : NameTable) (name : String) : Option Nat :=
  (t.entries.find? fun e => e.1 == name).map (·.2)

end NameTable

end PatternSuite
