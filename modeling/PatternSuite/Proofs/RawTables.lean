import Mathlib.Data.List.Forall2
import Mathlib.Data.List.ReduceOption
import PatternSuite.Proofs.NameTables

/-!
# Tables of any bytes

A table may come from anywhere and hold anything: bytes that fill no entry, names that no zero
closes or that are no text, rubbish behind a name, entries out of order, entries longer than any
name needs. What is read from it can always be written again, and what is written then is the table
itself just if it has none of these defects.

* `rows`, `Reads`: the entries of a table where they stand in its bytes, and what one reads as.
* `readEntry_eq`: reading looks at no byte that an entry does not have.
* `entries_described`: the names of any table.
* `Canonical`, `build_entries_iff`: the tables that come back when their names are written again.
* `raw_tables_read`: any entry size, any bytes.
-/

namespace PatternSuite.NameTable

open Text

/-! ## Entries where they stand -/

/-- The bytes of the `i`-th entry. -/
def row (t : NameTable) (i : Nat) : List UInt8 := (t.bytes.drop (i * t.entrySize)).take t.entrySize

/-- The entries that the bytes of a table fill, in order. -/
def rows (t : NameTable) : List (List UInt8) := (List.range t.length).map t.row

/-- The bytes of a row's name: what stands behind the group, up to the first zero or the end. -/
def nameField (row : List UInt8) : List UInt8 := (row.drop 2).takeWhile (· != 0)

/-- Is the name of a row a text? -/
def readable (row : List UInt8) : Bool := (textOfBytes? (nameField row)).isSome

/-- A row reads as a name with a group, which stands in the first two bytes, the high one first. -/
structure Reads (row : List UInt8) (e : String × Nat) : Prop where
  name : textBytes e.1 = nameField row
  group : ∃ high low, row[0]? = some high ∧ row[1]? = some low ∧
    e.2 = high.toNat * 256 + low.toNat

/-- Reads a row place by place. A place that the row does not have is a fault. -/
def readEntry (row : List UInt8) : Except Fault (Option (String × Nat)) :=
  match row[0]?, row[1]? with
  | some high, some low =>
    if 2 ≤ row.length then
      .ok ((textOfBytes? (nameField row)).map fun name => (name, high.toNat * 256 + low.toNat))
    else .error .outOfRange
  | _, _ => .error .outOfRange

theorem textOfBytes_eq_some {bs : List UInt8} {s : String} :
    textOfBytes? bs = some s ↔ textBytes s = bs := by
  constructor
  · exact textBytes_of_textOfBytes
  · rintro rfl
    exact textOfBytes_textBytes s

theorem pieces_eq (size count : Nat) (bs : List UInt8) :
    pieces size count bs = (List.range count).map fun i => (bs.drop (i * size)).take size := by
  induction count generalizing bs with
  | zero => rfl
  | succ count ih =>
    rw [pieces, ih, List.range_succ_eq_map, List.map_cons, List.map_map, Nat.zero_mul,
      List.drop_zero]
    congr 1
    refine List.map_congr_left fun i _ => ?_
    rw [Function.comp_apply, List.drop_drop, Nat.succ_mul, Nat.add_comm]

theorem rows_eq (t : NameTable) : t.rows = pieces t.entrySize t.length t.bytes :=
  (pieces_eq ..).symm

theorem entries_eq (t : NameTable) : t.entries = t.rows.filterMap decodeEntry := by
  rw [rows_eq, entries]

@[simp] theorem length_rows (t : NameTable) : t.rows.length = t.length := by simp [rows]

/-- An entry ends where the table ends or before. -/
theorem row_end_le (t : NameTable) {i : Nat} (hi : i < t.length) :
    i * t.entrySize + t.entrySize ≤ t.bytes.length := by
  rw [← Nat.succ_mul]
  exact Nat.mul_le_of_le_div _ _ _ hi

/-- No row is cut short. -/
theorem length_of_mem_rows {t : NameTable} {row : List UInt8} (h : row ∈ t.rows) :
    row.length = t.entrySize := by
  obtain ⟨i, hi, rfl⟩ := List.mem_map.1 h
  have hend := t.row_end_le (List.mem_range.1 hi)
  rw [NameTable.row, List.length_take, List.length_drop]
  omega

/-- A row has the two bytes of its group. -/
theorem cons_of_mem_rows {t : NameTable} {row : List UInt8} (h : row ∈ t.rows) :
    ∃ high low rest, row = high :: low :: rest ∧ rest.length + 2 = t.entrySize := by
  have hlen := length_of_mem_rows h
  have hsize := t.three_le_entrySize
  match row with
  | [] => simp at hlen; omega
  | [_] => simp at hlen; omega
  | high :: low :: rest => exact ⟨high, low, rest, rfl, hlen⟩

/-- **Reading looks at no byte that an entry does not have.** -/
theorem readEntry_eq {t : NameTable} {row : List UInt8} (h : row ∈ t.rows) :
    readEntry row = .ok (decodeEntry row) := by
  obtain ⟨high, low, rest, rfl, -⟩ := cons_of_mem_rows h
  simp [readEntry, decodeEntry, nameField]

/-- Reading that fails nowhere succeeds as a whole. -/
theorem mapM_eq_ok {α β ε : Type} {f : α → Except ε β} {g : α → β} {l : List α}
    (h : ∀ x ∈ l, f x = .ok (g x)) : l.mapM f = .ok (l.map g) := by
  induction l with
  | nil => rfl
  | cons x l ih =>
    rw [List.mapM_cons, h x List.mem_cons_self, ih fun y hy => h y (List.mem_cons_of_mem _ hy)]
    rfl

theorem decodeEntry_eq_some {t : NameTable} {row : List UInt8} (h : row ∈ t.rows)
    {e : String × Nat} : decodeEntry row = some e ↔ Reads row e := by
  obtain ⟨high, low, rest, rfl, -⟩ := cons_of_mem_rows h
  obtain ⟨name, group⟩ := e
  simp only [decodeEntry, Option.map_eq_some_iff, textOfBytes_eq_some, Prod.mk.injEq]
  constructor
  · rintro ⟨s, hs, rfl, rfl⟩
    exact ⟨hs, high, low, rfl, rfl, rfl⟩
  · rintro ⟨hname, high', low', hhigh, hlow, hgroup⟩
    cases hhigh
    cases hlow
    exact ⟨name, hname, rfl, hgroup.symm⟩

theorem isSome_decodeEntry {t : NameTable} {row : List UInt8} (h : row ∈ t.rows) :
    (decodeEntry row).isSome = readable row := by
  obtain ⟨high, low, rest, rfl, -⟩ := cons_of_mem_rows h
  rw [decodeEntry, Option.isSome_map]
  rfl

/-! ## The names of any table -/

/-- What is true of the names of a table, whatever its bytes. -/
structure Described (t : NameTable) : Prop where
  /-- Every row is read to its end, and no further. -/
  inRange : ∃ read, t.rows.mapM readEntry = .ok read ∧ t.entries = read.reduceOption
  /-- Each row whose name is a text gives one name, in table order. -/
  reads : List.Forall₂ Reads (t.rows.filter readable) t.entries
  length_le : t.entries.length ≤ t.length
  /-- None is missing just if all names are texts. -/
  length_eq : t.entries.length = t.length ↔ ∀ row ∈ t.rows, readable row = true
  /-- What is read fits into an entry. -/
  fits : ∀ e ∈ t.entries,
    '\x00' ∉ e.1.toList ∧ e.1.utf8ByteSize ≤ t.entrySize - 2 ∧ e.2 ≤ 65535

/-- What a filter by success leaves, and what comes of it. -/
theorem forall₂_filterMap {α β : Type} {f : α → Option β} {p : α → Bool} {R : α → β → Prop}
    {l : List α} (hp : ∀ x ∈ l, (f x).isSome = p x) (hR : ∀ x ∈ l, ∀ y, f x = some y → R x y) :
    List.Forall₂ R (l.filter p) (l.filterMap f) := by
  induction l with
  | nil => exact .nil
  | cons x l ih =>
    have hl := ih (fun y hy => hp y (List.mem_cons_of_mem _ hy))
      fun y hy => hR y (List.mem_cons_of_mem _ hy)
    have hx := hp x List.mem_cons_self
    cases hfx : f x with
    | none =>
      rw [hfx, Option.isSome_none] at hx
      rwa [List.filterMap_cons_none hfx, List.filter_cons_of_neg (by simp [← hx])]
    | some y =>
      rw [hfx, Option.isSome_some] at hx
      rw [List.filterMap_cons_some hfx, List.filter_cons_of_pos hx.symm]
      exact .cons (hR x List.mem_cons_self y hfx) hl

/-- A name is read up to the first zero, so it has none, and it lies behind the group. -/
theorem Reads.fits {t : NameTable} {row : List UInt8} {e : String × Nat} (h : Reads row e)
    (hrow : row ∈ t.rows) :
    '\x00' ∉ e.1.toList ∧ e.1.utf8ByteSize ≤ t.entrySize - 2 ∧ e.2 ≤ 65535 := by
  refine ⟨fun hnul => ?_, ?_, ?_⟩
  · have hzero : 0 ∈ nameField row := h.name ▸ zero_mem_textBytes.2 hnul
    simpa using List.mem_takeWhile_imp hzero
  · have hlen : (textBytes e.1).length ≤ (row.drop 2).length :=
      h.name ▸ (List.takeWhile_prefix _).length_le
    rw [List.length_drop, length_of_mem_rows hrow] at hlen
    exact hlen
  · obtain ⟨high, low, -, -, hgroup⟩ := h.group
    have hhigh := high.toNat_lt
    have hlow := low.toNat_lt
    omega

/-- **The names of any table.** -/
theorem entries_described (t : NameTable) : Described t where
  inRange := by
    refine ⟨_, mapM_eq_ok fun row => readEntry_eq, ?_⟩
    rw [entries_eq, List.reduceOption, List.filterMap_map]
    rfl
  reads := by
    rw [entries_eq]
    exact forall₂_filterMap (fun row => isSome_decodeEntry) fun row hrow e =>
      (decodeEntry_eq_some hrow).1
  length_le := by
    rw [entries_eq, ← length_rows]
    exact List.length_filterMap_le ..
  length_eq := by
    rw [entries_eq, ← length_rows, List.length_filterMap_eq_countP, List.countP_eq_length]
    exact forall₂_congr fun row hrow => by rw [isSome_decodeEntry hrow]
  fits e he := by
    rw [entries_eq] at he
    obtain ⟨row, hrow, hread⟩ := List.mem_filterMap.1 he
    exact ((decodeEntry_eq_some hrow).1 hread).fits hrow

/-- **Bytes that fill no entry mean nothing.** -/
theorem rows_append {size : Nat} {bytes tail : List UInt8}
    (h : bytes.length % (ofBytes size bytes).entrySize + tail.length <
      (ofBytes size bytes).entrySize) :
    (ofBytes size (bytes ++ tail)).rows = (ofBytes size bytes).rows := by
  have hlength : (ofBytes size (bytes ++ tail)).length = (ofBytes size bytes).length := by
    have hdiv := Nat.div_add_mod bytes.length (max size 3)
    simp only [length, ofBytes, List.length_append] at h ⊢
    refine Nat.div_eq_of_lt_le ?_ ?_
    · rw [Nat.mul_comm]
      omega
    · rw [Nat.mul_comm, Nat.mul_succ]
      omega
  rw [rows, rows, hlength]
  refine List.map_congr_left fun i hi => ?_
  have hend := (ofBytes size bytes).row_end_le (List.mem_range.1 hi)
  simp only [row, ofBytes] at hend ⊢
  rw [List.drop_append_of_le_length (by omega),
    List.take_append_of_le_length (by rw [List.length_drop]; omega)]

/-! ## Tables that come back -/

/-- The order of names in a table: by their bytes, then by group. -/
def InOrder (a b : String × Nat) : Prop :=
  textBytes a.1 < textBytes b.1 ∨ a.1 = b.1 ∧ a.2 ≤ b.2

theorem nameLE_iff (a b : String × Nat) : nameLE a b = true ↔ InOrder a b := by
  rw [nameLE, entryLE_iff, InOrder]
  exact or_congr_right (and_congr_left fun _ => ⟨textBytes_injective, fun h => h ▸ rfl⟩)

/-- A table without any of the defects. -/
structure Canonical (t : NameTable) : Prop where
  /-- All bytes belong to entries. -/
  whole : t.entrySize ∣ t.bytes.length
  /-- Behind the group stand a name and then zeros. -/
  padded : ∀ row ∈ t.rows, ∃ (name : String) (zeros : Nat),
    '\x00' ∉ name.toList ∧ row.drop 2 = textBytes name ++ List.replicate zeros 0
  sorted : t.entries.Pairwise InOrder
  /-- Entries are no longer than the longest name needs. -/
  entrySize : t.entrySize = 3 + (t.entries.map (·.1.utf8ByteSize)).max?.getD 0

theorem ofBytes_self (t : NameTable) : ofBytes t.entrySize t.bytes = t := by
  obtain ⟨size, bytes, hsize⟩ := t
  simp only [ofBytes, mk.injEq, and_true]
  exact Nat.max_eq_left hsize

theorem flatten_pieces (size count : Nat) (bs : List UInt8) :
    (pieces size count bs).flatten = bs.take (size * count) := by
  induction count generalizing bs with
  | zero => rfl
  | succ count ih =>
    rw [pieces, List.flatten_cons, ih, Nat.mul_succ, Nat.add_comm, List.take_add]

theorem flatten_rows {t : NameTable} (h : t.entrySize ∣ t.bytes.length) :
    t.rows.flatten = t.bytes := by
  rw [rows_eq, flatten_pieces, length, Nat.mul_div_cancel' h, List.take_length]

/-- A name with zeros behind it is read in full. -/
theorem nameField_of_padded {row : List UInt8} {name : String} {zeros : Nat}
    (hname : '\x00' ∉ name.toList) (h : row.drop 2 = textBytes name ++ List.replicate zeros 0) :
    nameField row = textBytes name := by
  have hall : ∀ b ∈ textBytes name, (b != 0) = true := by
    intro b hb
    simpa using fun hzero : b = 0 => hname (zero_mem_textBytes.1 (hzero ▸ hb))
  rw [nameField, h, List.takeWhile_append_of_pos hall, List.takeWhile_replicate]
  simp

/-- **An entry that is a name with zeros behind it is written as it was.** -/
theorem entryBytes_of_padded {t : NameTable} {row : List UInt8} (hrow : row ∈ t.rows)
    {name : String} {zeros : Nat} (hname : '\x00' ∉ name.toList)
    (h : row.drop 2 = textBytes name ++ List.replicate zeros 0) :
    ∃ e, decodeEntry row = some e ∧ entryBytes t.entrySize (textBytes e.1, e.2) = row := by
  have hfield := nameField_of_padded hname h
  obtain ⟨high, low, rest, rfl, hlen⟩ := cons_of_mem_rows hrow
  have hrest : rest = textBytes name ++ List.replicate zeros 0 := h
  refine ⟨(name, high.toNat * 256 + low.toNat), ?_, ?_⟩
  · exact (decodeEntry_eq_some hrow).2 ⟨hfield.symm, high, low, rfl, rfl, rfl⟩
  · have hhigh : (high.toNat * 256 + low.toNat) / 256 = high.toNat := by
      have := low.toNat_lt
      omega
    have hlow : (high.toNat * 256 + low.toNat) % 256 = low.toNat := by
      have := low.toNat_lt
      omega
    have hzeros : t.entrySize - 2 - (textBytes name).length = zeros := by
      rw [hrest, List.length_append, List.length_replicate] at hlen
      omega
    simp only [entryBytes, hhigh, hlow, hzeros, UInt8.ofNat_toNat]
    rw [hrest]
    rfl

/-- The rows of a table without defects are what is written for its names. -/
theorem rows_of_canonical {t : NameTable} (h : Canonical t) :
    t.rows = t.entries.map fun e => entryBytes t.entrySize (textBytes e.1, e.2) := by
  have hback : ∀ row ∈ t.rows, (decodeEntry row).map
      (fun e => entryBytes t.entrySize (textBytes e.1, e.2)) = some row := by
    intro row hrow
    obtain ⟨name, zeros, hname, hdrop⟩ := h.padded row hrow
    obtain ⟨e, he, hwritten⟩ := entryBytes_of_padded hrow hname hdrop
    rw [he, Option.map_some, hwritten]
  rw [entries_eq, List.map_filterMap, List.filterMap_congr hback]
  exact List.filterMap_some.symm

/-- The names of any table can be written. -/
theorem build_entries (t : NameTable) : build t.entries = some (tableOf t.entries) := by
  rw [build_eq, if_neg]
  rintro ⟨e, he, hgreat⟩
  exact absurd ((entries_described t).fits e he).2.2 (Nat.not_le.2 hgreat)

theorem nulFree_entries (t : NameTable) : NulFree t.entries :=
  fun e he => ((entries_described t).fits e he).1

theorem entries_tableOf_entries (t : NameTable) :
    (tableOf t.entries).entries = sortedNames t.entries :=
  (holds_tableOf fun e he => ((entries_described t).fits e he).2.2).whole (nulFree_entries t)

/-- A table that comes back has none of the defects. -/
theorem canonical_of_tableOf {t : NameTable} (h : tableOf t.entries = t) : Canonical t where
  whole := by
    have hlen := length_bytes_tableOf t.entries
    rw [← entrySize_tableOf, h] at hlen
    exact ⟨_, hlen⟩
  padded row hrow := by
    have hrows : t.rows =
        (sortedEntries t.entries).map (entryBytes (sizeFor t.entries)) := by
      rw [← pieces_tableOf, h, rows_eq]
      have hsize := entrySize_tableOf t.entries
      have hlen := length_tableOf t.entries
      rw [h] at hsize hlen
      rw [hsize, hlen]
    rw [hrows, sortedEntries_eq, List.map_map] at hrow
    obtain ⟨e, he, rfl⟩ := List.mem_map.1 hrow
    exact ⟨e.1, _, nulFree_entries t e ((sortedNames_perm _).mem_iff.1 he), rfl⟩
  sorted := by
    have hsorted := entries_tableOf_entries t
    rw [h] at hsorted
    rw [hsorted]
    exact (sortedNames_pairwise _).imp fun {a b} => (nameLE_iff a b).1
  entrySize := by
    have hsize := entrySize_tableOf t.entries
    rwa [h] at hsize

/-- A table without defects comes back. -/
theorem tableOf_of_canonical {t : NameTable} (h : Canonical t) : tableOf t.entries = t := by
  have hsize : sizeFor t.entries = t.entrySize := h.entrySize.symm
  have hsorted : sortedNames t.entries = t.entries :=
    List.mergeSort_of_pairwise (h.sorted.imp fun {a b} => (nameLE_iff a b).2)
  have hbytes : tableBytes t.entries = t.bytes := by
    rw [tableBytes, sortedEntries_eq, hsorted, hsize, List.flatMap_map, ← flatten_rows h.whole,
      rows_of_canonical h, ← List.flatMap_def]
  rw [tableOf, hsize, hbytes, ofBytes_self]

/-- **The tables that come back** when their names are written again. -/
theorem build_entries_iff (t : NameTable) : build t.entries = some t ↔ Canonical t := by
  rw [build_entries, Option.some.injEq]
  exact ⟨canonical_of_tableOf, tableOf_of_canonical⟩

/-! ## Any bytes -/

/-- **Tables of any bytes can be read, and written again.** No entry is shorter than three bytes.
Reading stays inside of the table, gives a name for each entry whose name is a text, and gives the
same with more bytes that fill no entry. The names can always be written, which puts them in order,
and gives the table back just if it was without defects. -/
theorem raw_tables_read (entrySize : Nat) (bytes : List UInt8) :
    (ofBytes entrySize bytes).entrySize = max entrySize 3 ∧
      let t := ofBytes entrySize bytes
      Described t ∧
      (∀ tail : List UInt8, bytes.length % t.entrySize + tail.length < t.entrySize →
        (ofBytes entrySize (bytes ++ tail)).length = t.length ∧
          (ofBytes entrySize (bytes ++ tail)).entries = t.entries) ∧
      (∃ written, build t.entries = some written ∧ written.entries.Perm t.entries ∧
        written.entries.Pairwise InOrder) ∧
      (build t.entries = some t ↔ Canonical t) := by
  refine ⟨rfl, ?_⟩
  intro t
  refine ⟨entries_described t, fun tail htail => ?_, ?_, build_entries_iff t⟩
  · have hrows := rows_append htail
    rw [← length_rows, ← length_rows t, entries_eq, entries_eq t, hrows]
    exact ⟨rfl, rfl⟩
  · refine ⟨tableOf t.entries, build_entries t, ?_, ?_⟩
    · rw [entries_tableOf_entries]
      exact sortedNames_perm _
    · rw [entries_tableOf_entries]
      exact (sortedNames_pairwise _).imp fun {a b} => (nameLE_iff a b).1

example : (ofBytes 4 [0, 1, 97, 0, 0, 2]).entries = [("a", 1)] := by cbv

end PatternSuite.NameTable
