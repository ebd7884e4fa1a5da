import Mathlib.Data.List.Basic
import PatternSuite.NameTable
import PatternSuite.Proofs.TextBytes

/-!
# Name tables decode to what was encoded

* `entryLE_trans`, `entryLE_total`, `entryLE_antisymm`: the order of entries.
* `encode_eq`: what is written, entry by entry; nothing is written outside of an entry.
* `decodeEntry_entryBytes`: what is read back from one entry.
* `names_kept`: a table of names has the names, each with its group, in order.
-/

namespace PatternSuite.NameTable

open Text

/-! ## The order of entries -/

theorem entryLE_iff (a b : List UInt8 × Nat) :
    entryLE a b = true ↔ a.1 < b.1 ∨ a.1 = b.1 ∧ a.2 ≤ b.2 := by
  unfold entryLE
  split
  · next h => simp [h, List.lt_irrefl]
  · next h => simp [h]

theorem entryLE_trans (a b c : List UInt8 × Nat) (h : entryLE a b = true)
    (k : entryLE b c = true) : entryLE a c = true := by
  rw [entryLE_iff] at h k ⊢
  rcases h with h | ⟨h, h'⟩
  · rcases k with k | ⟨k, -⟩
    · exact .inl (List.lt_trans h k)
    · exact .inl (k ▸ h)
  · rcases k with k | ⟨k, k'⟩
    · exact .inl (h ▸ k)
    · exact .inr ⟨h.trans k, h'.trans k'⟩

theorem entryLE_antisymm (a b : List UInt8 × Nat) (h : entryLE a b = true)
    (k : entryLE b a = true) : a = b := by
  rw [entryLE_iff] at h k
  rcases h with h | ⟨h, h'⟩
  · rcases k with k | ⟨k, -⟩
    · exact absurd (List.lt_trans h k) (List.lt_irrefl _)
    · exact absurd (k ▸ h) (List.lt_irrefl _)
  · rcases k with k | ⟨-, k'⟩
    · exact absurd (h ▸ k) (List.lt_irrefl _)
    · exact Prod.ext h (Nat.le_antisymm h' k')

theorem entryLE_total (a b : List UInt8 × Nat) : (entryLE a b || entryLE b a) = true := by
  rw [Bool.or_eq_true, entryLE_iff, entryLE_iff]
  by_cases hab : a.1 < b.1
  · exact .inl (.inl hab)
  by_cases hba : b.1 < a.1
  · exact .inr (.inl hba)
  have heq : a.1 = b.1 := List.le_antisymm hba hab
  rcases Nat.le_total a.2 b.2 with h | h
  · exact .inl (.inr ⟨heq, h⟩)
  · exact .inr (.inr ⟨heq.symm, h⟩)

/-- The order of names: by their bytes, then by group. -/
def nameLE (a b : String × Nat) : Bool := entryLE (textBytes a.1, a.2) (textBytes b.1, b.2)

theorem nameLE_trans (a b c : String × Nat) (h : nameLE a b = true) (k : nameLE b c = true) :
    nameLE a c = true := entryLE_trans _ _ _ h k

theorem nameLE_total (a b : String × Nat) : (nameLE a b || nameLE b a) = true :=
  entryLE_total _ _

theorem nameLE_antisymm (a b : String × Nat) (h : nameLE a b = true) (k : nameLE b a = true) :
    a = b := by
  have heq := entryLE_antisymm _ _ h k
  obtain ⟨hname, hgroup⟩ := Prod.mk.inj heq
  exact Prod.ext (textBytes_injective hname) hgroup

/-- Names in order. -/
def sortedNames (names : List (String × Nat)) : List (String × Nat) := names.mergeSort nameLE

theorem sortedNames_perm (names : List (String × Nat)) : (sortedNames names).Perm names :=
  List.mergeSort_perm names nameLE

theorem sortedNames_pairwise (names : List (String × Nat)) :
    (sortedNames names).Pairwise fun a b => nameLE a b = true :=
  List.pairwise_mergeSort nameLE_trans nameLE_total names

theorem sortedEntries_eq (names : List (String × Nat)) :
    sortedEntries names = (sortedNames names).map fun n => (textBytes n.1, n.2) := by
  rw [sortedEntries, sortedNames]
  exact (List.map_mergeSort (f := fun n : String × Nat => (textBytes n.1, n.2))
    fun _ _ _ _ => rfl).symm

/-- Names have one order, in whatever order they come. -/
theorem sortedNames_congr {names names' : List (String × Nat)} (h : names.Perm names') :
    sortedNames names = sortedNames names' := by
  have hperm := ((sortedNames_perm names).trans h).trans (sortedNames_perm names').symm
  exact List.Perm.eq_of_pairwise (fun a b _ _ => nameLE_antisymm a b)
    (sortedNames_pairwise names) (sortedNames_pairwise names') hperm

/-! ## Writing -/

/-- The bytes of an entry. -/
def entryBytes (size : Nat) (e : List UInt8 × Nat) : List UInt8 :=
  [UInt8.ofNat (e.2 / 256), UInt8.ofNat (e.2 % 256)] ++ e.1
    ++ List.replicate (size - 2 - e.1.length) 0

theorem length_entryBytes {size : Nat} {e : List UInt8 × Nat} (h : e.1.length + 3 ≤ size) :
    (entryBytes size e).length = size := by
  simp [entryBytes]
  omega

theorem overwrite_eq {bs new : List UInt8} {start : Nat} (h : start + new.length ≤ bs.length) :
    overwrite bs start new = .ok (bs.take start ++ new ++ bs.drop (start + new.length)) :=
  if_pos h

/-- An entry is written inside of its piece. -/
theorem writeEntry_zeros {size : Nat} {e : List UInt8 × Nat} (h : e.1.length + 3 ≤ size) :
    writeEntry (List.replicate size 0) e =
      if maxGroup < e.2 then .error .groupTooGreat else .ok (entryBytes size e) := by
  unfold writeEntry
  split
  · rfl
  -- first the group, then the name behind it; both are inside of the piece
  rw [overwrite_eq (by simp; omega)]
  simp only [List.take_zero, List.nil_append, List.drop_replicate]
  rw [overwrite_eq (by simp; omega)]
  simp only [entryBytes, List.cons_append, List.nil_append, List.take_succ_cons, List.take_zero]
  rw [Nat.add_comm 2, List.drop_succ_cons, List.drop_succ_cons, List.drop_replicate]
  rfl

theorem pieces_zeros (size count : Nat) :
    pieces size count (List.replicate (size * count) 0) =
      List.replicate count (List.replicate size 0) := by
  induction count with
  | zero => rfl
  | succ count ih =>
    have hsize : size * (count + 1) - size = size * count := by
      rw [Nat.mul_succ, Nat.add_sub_cancel]
    rw [pieces, List.take_replicate, List.drop_replicate, hsize, ih, List.replicate_succ,
      Nat.min_eq_left (Nat.le_mul_of_pos_right size (Nat.succ_pos count))]

/-- **Entries are written one after the other**, up to the first whose number is too great. -/
theorem writeEntries_zeros {size : Nat} {es : List (List UInt8 × Nat)}
    (h : ∀ e ∈ es, e.1.length + 3 ≤ size) :
    writeEntries (List.replicate es.length (List.replicate size 0)) es =
      if ∃ e ∈ es, maxGroup < e.2 then .error .groupTooGreat
      else .ok (es.flatMap (entryBytes size)) := by
  induction es with
  | nil => simp [writeEntries]
  | cons e es ih =>
    have hes := ih fun e' he' => h e' (List.mem_cons_of_mem _ he')
    rw [List.length_cons, List.replicate_succ, writeEntries,
      writeEntry_zeros (h e List.mem_cons_self), hes]
    -- a number that is too great in any entry ends it all
    by_cases he : maxGroup < e.2
    · simp [he]
    · by_cases hrest : ∃ e' ∈ es, maxGroup < e'.2
      · simp [he, hrest]
      · simp [he, hrest]

/-- The longest name decides the size of entries. -/
theorem entrySizeOfLengths_eq (lengths : List Nat) :
    entrySizeOfLengths lengths = 3 + lengths.max?.getD 0 := by
  have hfold : lengths.foldl max 0 = lengths.max?.getD 0 := by
    cases lengths with
    | nil => rfl
    | cons l ls => rw [List.max?_cons', Option.getD_some, List.foldl_cons, Nat.zero_max]
  rw [entrySizeOfLengths, hfold]
  omega

theorem le_entrySizeOfLengths {lengths : List Nat} {l : Nat} (h : l ∈ lengths) :
    l + 3 ≤ entrySizeOfLengths lengths := by
  have hmax := List.le_max?_getD_of_mem (k := 0) h
  rw [entrySizeOfLengths_eq]
  omega

theorem entrySizeOfLengths_perm {lengths lengths' : List Nat} (h : lengths.Perm lengths') :
    entrySizeOfLengths lengths = entrySizeOfLengths lengths' := by
  rw [entrySizeOfLengths, entrySizeOfLengths, h.foldl_eq' fun _ _ _ _ _ => by omega]

/-- The entry size for names with groups. -/
def sizeFor (names : List (String × Nat)) : Nat := 3 + (names.map (·.1.utf8ByteSize)).max?.getD 0

theorem sizeFor_eq (names : List (String × Nat)) :
    entrySizeOfLengths ((sortedEntries names).map (·.1.length)) = sizeFor names := by
  rw [sizeFor, ← entrySizeOfLengths_eq, sortedEntries_eq, List.map_map]
  exact entrySizeOfLengths_perm ((sortedNames_perm names).map _)

theorem le_sizeFor {names : List (String × Nat)} {e : List UInt8 × Nat}
    (h : e ∈ sortedEntries names) : e.1.length + 3 ≤ sizeFor names := by
  rw [← sizeFor_eq]
  exact le_entrySizeOfLengths (List.mem_map.2 ⟨e, h, rfl⟩)

/-- The bytes of the entries of some names. -/
def tableBytes (names : List (String × Nat)) : List UInt8 :=
  (sortedEntries names).flatMap (entryBytes (sizeFor names))

/-- **What is written.** There is no table just if a group's number is too great, and nothing is
written outside of an entry. -/
theorem encode_eq (names : List (String × Nat)) :
    encode names =
      if ∃ n ∈ names, maxGroup < n.2 then .error .groupTooGreat
      else .ok (ofBytes (sizeFor names) (tableBytes names)) := by
  have hgroups : (∃ e ∈ sortedEntries names, maxGroup < e.2) ↔ ∃ n ∈ names, maxGroup < n.2 := by
    rw [sortedEntries_eq]
    constructor
    · rintro ⟨e, he, hg⟩
      obtain ⟨n, hn, rfl⟩ := List.mem_map.1 he
      exact ⟨n, (sortedNames_perm names).mem_iff.1 hn, hg⟩
    · rintro ⟨n, hn, hg⟩
      exact ⟨_, List.mem_map.2 ⟨n, (sortedNames_perm names).mem_iff.2 hn, rfl⟩, hg⟩
  simp only [encode, sizeFor_eq, pieces_zeros]
  rw [writeEntries_zeros fun e => le_sizeFor]
  by_cases h : ∃ n ∈ names, maxGroup < n.2
  · rw [if_pos h, if_pos (hgroups.2 h)]
    rfl
  · rw [if_neg h, if_neg (mt hgroups.1 h)]
    rfl

/-! ## Reading -/

theorem length_flatMap_entryBytes {size : Nat} {es : List (List UInt8 × Nat)}
    (h : ∀ e ∈ es, e.1.length + 3 ≤ size) :
    (es.flatMap (entryBytes size)).length = size * es.length := by
  induction es with
  | nil => rfl
  | cons e es ih =>
    rw [List.flatMap_cons, List.length_append, length_entryBytes (h e List.mem_cons_self),
      ih fun e' he' => h e' (List.mem_cons_of_mem _ he'), List.length_cons, Nat.mul_succ,
      Nat.add_comm]

theorem pieces_flatMap {size : Nat} {es : List (List UInt8 × Nat)}
    (h : ∀ e ∈ es, e.1.length + 3 ≤ size) :
    pieces size es.length (es.flatMap (entryBytes size)) = es.map (entryBytes size) := by
  induction es with
  | nil => rfl
  | cons e es ih =>
    have hlen := length_entryBytes (h e List.mem_cons_self)
    rw [List.length_cons, pieces, List.flatMap_cons, List.take_left' hlen, List.drop_left' hlen,
      ih fun e' he' => h e' (List.mem_cons_of_mem _ he'), List.map_cons]

/-- **What is read back from an entry**: the name up to its first NUL, and the group. -/
theorem decodeEntry_entryBytes {size : Nat} {name : String} {group : Nat}
    (hname : (textBytes name).length + 3 ≤ size) (hgroup : group ≤ maxGroup) :
    decodeEntry (entryBytes size (textBytes name, group)) = some (cutAtNul name, group) := by
  -- at least one zero closes the name, so the name is read up to it
  obtain ⟨k, hk⟩ : ∃ k, size - 2 - (textBytes name).length = k + 1 :=
    ⟨size - 2 - (textBytes name).length - 1, by omega⟩
  have hnumber : (UInt8.ofNat (group / 256)).toNat * 256 + (UInt8.ofNat (group % 256)).toNat =
      group := by
    have hsize : UInt8.size = 256 := rfl
    rw [maxGroup] at hgroup
    rw [UInt8.toNat_ofNat_of_lt' (by omega), UInt8.toNat_ofNat_of_lt' (by omega)]
    omega
  simp only [entryBytes, hk, List.cons_append, List.nil_append, decodeEntry, hnumber]
  rw [List.replicate_succ, takeWhile_textBytes, textOfBytes_textBytes]
  rfl

/-- The table of some names. -/
def tableOf (names : List (String × Nat)) : NameTable := ofBytes (sizeFor names) (tableBytes names)

theorem entrySize_tableOf (names : List (String × Nat)) :
    (tableOf names).entrySize = sizeFor names := by
  have h : 3 ≤ sizeFor names := Nat.le_add_right 3 _
  exact Nat.max_eq_left h

theorem length_sortedEntries (names : List (String × Nat)) :
    (sortedEntries names).length = names.length := by
  rw [sortedEntries_eq, List.length_map, (sortedNames_perm names).length_eq]

theorem length_bytes_tableOf (names : List (String × Nat)) :
    (tableOf names).bytes.length = sizeFor names * names.length := by
  rw [← length_sortedEntries names]
  exact length_flatMap_entryBytes fun e => le_sizeFor

theorem length_tableOf (names : List (String × Nat)) :
    (tableOf names).length = names.length := by
  have hpos : 0 < sizeFor names := Nat.lt_of_lt_of_le (by omega) (Nat.le_add_right 3 _)
  rw [length, length_bytes_tableOf, entrySize_tableOf, Nat.mul_div_cancel_left _ hpos]

theorem pieces_tableOf (names : List (String × Nat)) :
    pieces (sizeFor names) names.length (tableOf names).bytes =
      (sortedEntries names).map (entryBytes (sizeFor names)) := by
  rw [← length_sortedEntries names]
  exact pieces_flatMap fun e => le_sizeFor

/-- The names that a table gives back. -/
theorem entries_tableOf {names : List (String × Nat)} (h : ∀ n ∈ names, n.2 ≤ maxGroup) :
    (tableOf names).entries = (sortedNames names).map fun n => (cutAtNul n.1, n.2) := by
  have hread : ∀ n ∈ sortedNames names,
      decodeEntry (entryBytes (sizeFor names) (textBytes n.1, n.2)) =
        some (cutAtNul n.1, n.2) := by
    intro n hn
    have hmem : (textBytes n.1, n.2) ∈ sortedEntries names := by
      rw [sortedEntries_eq]
      exact List.mem_map.2 ⟨n, hn, rfl⟩
    exact decodeEntry_entryBytes (le_sizeFor hmem)
      (h n ((sortedNames_perm names).mem_iff.1 hn))
  rw [entries, entrySize_tableOf, length_tableOf, pieces_tableOf, sortedEntries_eq, List.map_map,
    List.filterMap_map, ← List.filterMap_eq_map]
  exact List.filterMap_congr hread

/-! ## Looking up a name -/

/-- The least group of a name. -/
def leastGroup (names : List (String × Nat)) (name : String) : Option Nat :=
  ((names.filter fun n => n.1 == name).map (·.2)).min?

theorem leastGroup_eq_some {names : List (String × Nat)} {name : String} {group : Nat} :
    leastGroup names name = some group ↔
      (name, group) ∈ names ∧ ∀ other, (name, other) ∈ names → group ≤ other := by
  have hmem (g : Nat) : g ∈ (names.filter fun n => n.1 == name).map (·.2) ↔ (name, g) ∈ names := by
    constructor
    · intro hg
      obtain ⟨n, hn, rfl⟩ := List.mem_map.1 hg
      obtain ⟨hn, hname⟩ := List.mem_filter.1 hn
      rw [← beq_iff_eq.1 hname]
      exact hn
    · intro hg
      exact List.mem_map.2 ⟨(name, g), List.mem_filter.2 ⟨hg, beq_self_eq_true name⟩, rfl⟩
  rw [leastGroup, List.min?_eq_some_iff, hmem]
  simp only [hmem]

theorem leastGroup_perm {names names' : List (String × Nat)} (h : names.Perm names')
    (name : String) : leastGroup names name = leastGroup names' name := by
  apply Option.ext
  intro group
  rw [leastGroup_eq_some, leastGroup_eq_some]
  simp only [h.mem_iff]

/-- In sorted names the first group of a name is its least. -/
theorem find_sorted {ns : List (String × Nat)} (h : ns.Pairwise fun a b => nameLE a b = true)
    (name : String) :
    (ns.find? fun n => n.1 == name).map (·.2) = leastGroup ns name := by
  induction ns with
  | nil => rfl
  | cons n ns ih =>
    obtain ⟨hn, hns⟩ := List.pairwise_cons.1 h
    by_cases hname : n.1 = name
    · rw [List.find?_cons_of_pos (by simpa using hname), Option.map_some]
      symm
      subst hname
      -- `n` is the first of its name, and what comes after it is not less
      refine leastGroup_eq_some.2 ⟨List.mem_cons_self, fun other hother => ?_⟩
      rcases List.mem_cons.1 hother with heq | hother
      · exact Nat.le_of_eq (congrArg Prod.snd heq).symm
      · rcases (entryLE_iff _ _).1 (hn _ hother) with hlt | ⟨-, hle⟩
        · exact absurd hlt (List.lt_irrefl _)
        · exact hle
    · have hne : (n.1 == name) = false := by simpa using hname
      have hleast : leastGroup (n :: ns) name = leastGroup ns name := by
        simp [leastGroup, hne]
      rw [hleast, ← ih hns, List.find?_cons, hne]

/-! ## The round trip -/

/-- The names have no NUL. -/
def NulFree (names : List (String × Nat)) : Prop := ∀ n ∈ names, '\x00' ∉ n.1.toList

/-- A table has the names `names` with their groups. -/
structure Holds (names : List (String × Nat)) (t : NameTable) : Prop where
  /-- An entry has room for the longest name. -/
  entrySize : t.entrySize = 3 + (names.map (·.1.utf8ByteSize)).max?.getD 0
  length : t.length = names.length
  bytes : t.bytes.length = t.entrySize * t.length
  /-- The names stand in order, each up to its first NUL. -/
  entries : t.entries = (sortedNames names).map fun n => (cutAtNul n.1, n.2)
  /-- Names without NUL stand there in full. -/
  whole : NulFree names → t.entries = sortedNames names
  /-- The group of a name is its least, if it has any. -/
  group : NulFree names → ∀ name, t.group? name = leastGroup names name

theorem holds_tableOf {names : List (String × Nat)} (h : ∀ n ∈ names, n.2 ≤ maxGroup) :
    Holds names (tableOf names) := by
  have hwhole (hfree : NulFree names) : (tableOf names).entries = sortedNames names := by
    rw [entries_tableOf h]
    refine (List.map_congr_left fun n hn => ?_).trans (List.map_id _)
    have hnul := hfree n ((sortedNames_perm names).mem_iff.1 hn)
    rw [cutAtNul_of_notMem hnul]
    rfl
  refine ⟨entrySize_tableOf names, length_tableOf names, ?_, entries_tableOf h, hwhole, ?_⟩
  · rw [length_bytes_tableOf, entrySize_tableOf, length_tableOf]
  · intro hfree name
    rw [group?, hwhole hfree, find_sorted (sortedNames_pairwise names),
      leastGroup_perm (sortedNames_perm names)]

theorem build_eq (names : List (String × Nat)) :
    build names = if ∃ n ∈ names, maxGroup < n.2 then none else some (tableOf names) := by
  rw [build, encode_eq]
  split <;> rfl

/-- **Name tables decode to what was encoded.** Nothing is written outside of the table. There is
none just if a group's number is too great; otherwise it has the names, in the one order that
they have in whatever order they came. -/
theorem names_kept (names : List (String × Nat)) :
    encode names ≠ .error .outOfRange ∧
      (build names = none ↔ ∃ n ∈ names, 65535 < n.2) ∧
      (∀ t, build names = some t → Holds names t) ∧
      (sortedNames names).Perm names ∧
      (sortedNames names).Pairwise (fun a b =>
        textBytes a.1 < textBytes b.1 ∨ a.1 = b.1 ∧ a.2 ≤ b.2) ∧
      ∀ names', names.Perm names' → build names' = build names := by
  refine ⟨?_, ?_, fun t ht => ?_, sortedNames_perm names, ?_, fun names' h => ?_⟩
  · rw [encode_eq]
    split <;> simp
  · rw [build_eq]
    split
    · next h => exact iff_of_true rfl h
    · next h => exact iff_of_false (by simp) h
  · rw [build_eq] at ht
    split at ht
    · cases ht
    · next h =>
      cases ht
      exact holds_tableOf fun n hn => Nat.le_of_not_lt fun hlt => h ⟨n, hn, hlt⟩
  · refine (sortedNames_pairwise names).imp fun {a b} hab => ?_
    rcases (entryLE_iff _ _).1 hab with hlt | ⟨heq, hle⟩
    · exact .inl hlt
    · exact .inr ⟨textBytes_injective heq, hle⟩
  · have htable : tableOf names' = tableOf names := by
      rw [tableOf, tableOf, tableBytes, tableBytes, ← sizeFor_eq, ← sizeFor_eq, sortedEntries_eq,
        sortedEntries_eq, sortedNames_congr h]
    rw [build_eq, build_eq, htable]
    simp only [h.mem_iff]

example : (build [("b", 2), ("a", 7), ("a", 1)]).map entries =
    some [("a", 1), ("a", 7), ("b", 2)] := by cbv

end PatternSuite.NameTable
