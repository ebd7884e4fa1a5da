import PatternSuite.CompiledPattern
import PatternSuite.Proofs.RawTables

/-!
# Names by group and groups by name

A compiled pattern shows its name table in two ways. Names by group number are put into slots one
after the other, so of two names for one group the last counts. The group of a name is searched for
from the front, so of two groups with one name the first counts. Over a table without such doubts
the two say the same.

* `LastFor`, `FirstFor`: the entry that counts.
* `captureNames_of_last`, `captureNames_of_notMem`: the slots.
* `captureIndex_eq_some`: the search.
* `name_views`: any table, the two views of it side by side.
-/

namespace PatternSuite

open Text NameTable

/-- The last entry for a group has this name. -/
def LastFor (es : List (String × Nat)) (group : Nat) (name : String) : Prop :=
  ∃ before after, es = before ++ (name, group) :: after ∧ group ∉ after.map (·.2)

/-- The first entry for a name has this group. -/
def FirstFor (es : List (String × Nat)) (name : String) (group : Nat) : Prop :=
  ∃ before after, es = before ++ (name, group) :: after ∧ name ∉ before.map (·.1)

section Entries

variable {es : List (String × Nat)} {name : String} {group : Nat}

theorem LastFor.mem (h : LastFor es group name) : (name, group) ∈ es := by
  obtain ⟨before, after, rfl, -⟩ := h
  simp

theorem FirstFor.mem (h : FirstFor es name group) : (name, group) ∈ es := by
  obtain ⟨before, after, rfl, -⟩ := h
  simp

/-- A group that has entries has a last one. -/
theorem exists_lastFor (h : group ∈ es.map (·.2)) : ∃ name, LastFor es group name := by
  induction es with
  | nil => cases h
  | cons e es ih =>
    by_cases hes : group ∈ es.map (·.2)
    · obtain ⟨name, before, after, rfl, hafter⟩ := ih hes
      exact ⟨name, e :: before, after, rfl, hafter⟩
    · rw [List.map_cons, List.mem_cons] at h
      obtain rfl := h.resolve_right hes
      exact ⟨e.1, [], es, rfl, hes⟩

/-- Where groups do not repeat, each entry is the last of its group. -/
theorem lastFor_of_mem (hes : (es.map (·.2)).Nodup) (h : (name, group) ∈ es) :
    LastFor es group name := by
  obtain ⟨before, after, rfl⟩ := List.append_of_mem h
  rw [List.map_append, List.map_cons] at hes
  obtain ⟨-, hrest, -⟩ := List.nodup_append.1 hes
  exact ⟨before, after, rfl, (List.nodup_cons.1 hrest).1⟩

/-- Where names do not repeat, each entry is the first of its name. -/
theorem firstFor_of_mem (hes : (es.map (·.1)).Nodup) (h : (name, group) ∈ es) :
    FirstFor es name group := by
  obtain ⟨before, after, rfl⟩ := List.append_of_mem h
  rw [List.map_append, List.map_cons] at hes
  obtain ⟨-, -, happart⟩ := List.nodup_append.1 hes
  exact ⟨before, after, rfl, fun hbefore => happart name hbefore name List.mem_cons_self rfl⟩

end Entries

/-! ## Slots -/

section Slots

variable {es : List (String × Nat)} {slots : Array (Option String)} {i : Nat}

/-- Puts names into the slots of their groups, one after the other. -/
def placeNames (es : List (String × Nat)) (slots : Array (Option String)) :
    Array (Option String) :=
  es.foldl (fun slots e => slots.setIfInBounds e.2 (some e.1)) slots

@[simp] theorem size_placeNames : (placeNames es slots).size = slots.size := by
  induction es generalizing slots with
  | nil => rfl
  | cons e es ih => exact ih.trans Array.size_setIfInBounds

/-- A slot that no name is for stays as it was. -/
theorem placeNames_of_notMem (h : i ∉ es.map (·.2)) : (placeNames es slots)[i]? = slots[i]? := by
  induction es generalizing slots with
  | nil => rfl
  | cons e es ih =>
    rw [List.map_cons, List.mem_cons, not_or] at h
    exact (ih h.2).trans (Array.getElem?_setIfInBounds_ne (Ne.symm h.1))

/-- The last name for a slot is the one that stays. -/
theorem placeNames_of_last {name : String} (h : LastFor es i name) (hi : i < slots.size) :
    (placeNames es slots)[i]? = some (some name) := by
  obtain ⟨before, after, rfl, hafter⟩ := h
  have hsplit : placeNames (before ++ (name, i) :: after) slots =
      placeNames after ((placeNames before slots).setIfInBounds i (some name)) := by
    simp only [placeNames, List.foldl_append, List.foldl_cons]
  rw [hsplit, placeNames_of_notMem hafter]
  exact Array.getElem?_setIfInBounds_self_of_lt (by rwa [size_placeNames])

/-- Names for slots that are not there go nowhere. -/
theorem placeNames_filter (es : List (String × Nat)) (slots : Array (Option String)) :
    placeNames (es.filter fun e => e.2 < slots.size) slots = placeNames es slots := by
  induction es generalizing slots with
  | nil => rfl
  | cons e es ih =>
    have hes := ih (slots.setIfInBounds e.2 (some e.1))
    rw [Array.size_setIfInBounds] at hes
    by_cases he : e.2 < slots.size
    · rw [List.filter_cons_of_pos (by simpa using he)]
      exact hes
    · rw [List.filter_cons_of_neg (by simpa using he)]
      have hout : slots.setIfInBounds e.2 (some e.1) = slots := by
        simp [Array.setIfInBounds, he]
      rw [hout] at hes
      exact hes.trans (congrArg (placeNames es) hout.symm)

end Slots

namespace CompiledPattern

variable {p : CompiledPattern}

/-- The rows of the pattern's table, if it has one. -/
def rows (p : CompiledPattern) : List (List UInt8) := (p.names.map NameTable.rows).getD []

/-- The names in the pattern's table with their groups, in table order. -/
def entries (p : CompiledPattern) : List (String × Nat) := (p.names.map NameTable.entries).getD []

/-- The entries are what the readable rows read as. -/
theorem reads_entries (p : CompiledPattern) :
    List.Forall₂ Reads (p.rows.filter readable) p.entries := by
  unfold rows entries
  cases p.names with
  | none => exact .nil
  | some t => exact (entries_described t).reads

theorem captureNames_eq_placeNames (p : CompiledPattern) :
    p.captureNames = placeNames p.entries (Array.replicate (p.captures + 1) none) := rfl

theorem size_captureNames (p : CompiledPattern) : p.captureNames.size = p.captures + 1 := by
  rw [captureNames_eq_placeNames, size_placeNames, Array.size_replicate]

/-- **A slot has the last name for its group.** -/
theorem captureNames_of_last {i : Nat} {name : String} (hi : i ≤ p.captures)
    (h : LastFor p.entries i name) : p.captureNames[i]? = some (some name) := by
  rw [captureNames_eq_placeNames]
  exact placeNames_of_last h (by rw [Array.size_replicate]; omega)

/-- **A slot without a name for its group is empty.** -/
theorem captureNames_of_notMem {i : Nat} (hi : i ≤ p.captures) (h : i ∉ p.entries.map (·.2)) :
    p.captureNames[i]? = some none := by
  rw [captureNames_eq_placeNames, placeNames_of_notMem h]
  rw [Array.getElem?_replicate, if_pos (by omega)]

theorem captureNames_eq_some {i : Nat} {name : String} (hi : i ≤ p.captures) :
    p.captureNames[i]? = some (some name) ↔ LastFor p.entries i name := by
  refine ⟨fun h => ?_, captureNames_of_last hi⟩
  by_cases hmem : i ∈ p.entries.map (·.2)
  · obtain ⟨last, hlast⟩ := exists_lastFor hmem
    rw [captureNames_of_last hi hlast] at h
    cases h
    exact hlast
  · rw [captureNames_of_notMem hi hmem] at h
    cases h

theorem captureNames_eq_none {i : Nat} (hi : i ≤ p.captures) :
    p.captureNames[i]? = some none ↔ i ∉ p.entries.map (·.2) := by
  refine ⟨fun h hmem => ?_, captureNames_of_notMem hi⟩
  obtain ⟨last, hlast⟩ := exists_lastFor hmem
  rw [captureNames_of_last hi hlast] at h
  cases h

/-- Only the entries for the pattern's groups count. -/
theorem captureNames_congr {q : CompiledPattern} (hcaptures : q.captures = p.captures)
    (h : q.entries.filter (·.2 ≤ p.captures) = p.entries.filter (·.2 ≤ p.captures)) :
    q.captureNames = p.captureNames := by
  have hcut (r : CompiledPattern) (hr : r.captures = p.captures) : r.captureNames =
      placeNames (r.entries.filter (·.2 ≤ p.captures)) (Array.replicate (p.captures + 1) none) := by
    have hfilter := placeNames_filter r.entries (Array.replicate (p.captures + 1) none)
    simp only [Array.size_replicate, Nat.lt_succ_iff] at hfilter
    rw [captureNames_eq_placeNames, hr, hfilter]
  rw [hcut q hcaptures, hcut p rfl, h]

theorem captureIndex?_eq (p : CompiledPattern) (name : String) :
    p.captureIndex? name = (p.entries.find? fun e => e.1 == name).map (·.2) := by
  unfold captureIndex? entries
  cases p.names <;> rfl

/-- **The group of a name** is that of its first entry. -/
theorem captureIndex_eq_some {name : String} {i : Nat} :
    p.captureIndex? name = some i ↔ FirstFor p.entries name i := by
  rw [captureIndex?_eq, Option.map_eq_some_iff]
  constructor
  · rintro ⟨⟨name', i'⟩, hfirst, rfl⟩
    obtain ⟨hname, before, after, hes, hbefore⟩ := List.find?_eq_some_iff_append.1 hfirst
    obtain rfl := beq_iff_eq.1 hname
    refine ⟨before, after, hes, fun hin => ?_⟩
    obtain ⟨e, he, heq⟩ := List.mem_map.1 hin
    simpa [heq] using hbefore e he
  · rintro ⟨before, after, hes, hbefore⟩
    refine ⟨(name, i), List.find?_eq_some_iff_append.2
      ⟨beq_self_eq_true name, before, after, hes, fun e he => ?_⟩, rfl⟩
    simpa using fun heq : e.1 = name => hbefore (heq ▸ List.mem_map_of_mem he)

theorem captureIndex_eq_none {name : String} :
    p.captureIndex? name = none ↔ name ∉ p.entries.map (·.1) := by
  rw [captureIndex?_eq, Option.map_eq_none_iff, List.find?_eq_none, List.mem_map]
  constructor
  · rintro h ⟨e, he, hname⟩
    exact h e he (beq_iff_eq.2 hname)
  · intro h e he hname
    exact h ⟨e, he, beq_iff_eq.1 hname⟩

/-- Where neither names nor groups repeat and all groups are the pattern's, the two views are the
inverse of each other. -/
theorem captureIndex_iff_captureNames (hnames : (p.entries.map (·.1)).Nodup)
    (hgroups : (p.entries.map (·.2)).Nodup) (hle : ∀ e ∈ p.entries, e.2 ≤ p.captures)
    (name : String) (i : Nat) :
    p.captureIndex? name = some i ↔ p.captureNames[i]? = some (some name) := by
  rw [captureIndex_eq_some]
  constructor
  · intro h
    exact captureNames_of_last (hle _ h.mem) (lastFor_of_mem hgroups h.mem)
  · intro h
    obtain ⟨hi, -⟩ := Array.getElem?_eq_some_iff.1 h
    rw [size_captureNames] at hi
    exact firstFor_of_mem hnames ((captureNames_eq_some (by omega)).1 h).mem

end CompiledPattern

open CompiledPattern

/-- **The two views of a table.** Whatever the table: there is a slot for each group and one for the
whole match. A slot has the last name that the table has for its group, and is empty if there is
none; names for other groups do not count. The group of a name is that of its first entry. Over a
table where neither names nor groups repeat and all groups are the pattern's, a name leads to a
group just if the group's slot has the name. -/
theorem name_views (p : CompiledPattern) :
    let es := p.entries
    List.Forall₂ Reads (p.rows.filter readable) es ∧
      p.captureNames.size = p.captures + 1 ∧
      (∀ i ≤ p.captures,
        (∀ name, p.captureNames[i]? = some (some name) ↔ LastFor es i name) ∧
          (p.captureNames[i]? = some none ↔ i ∉ es.map (·.2))) ∧
      (∀ q : CompiledPattern, q.captures = p.captures →
        q.entries.filter (·.2 ≤ p.captures) = es.filter (·.2 ≤ p.captures) →
        q.captureNames = p.captureNames) ∧
      (∀ name, (∀ i, p.captureIndex? name = some i ↔ FirstFor es name i) ∧
        (p.captureIndex? name = none ↔ name ∉ es.map (·.1))) ∧
      ((es.map (·.1)).Nodup → (es.map (·.2)).Nodup → (∀ e ∈ es, e.2 ≤ p.captures) →
        ∀ name i, p.captureIndex? name = some i ↔ p.captureNames[i]? = some (some name)) := by
  intro es
  refine ⟨p.reads_entries, p.size_captureNames, fun i hi => ?_, fun q => captureNames_congr,
    fun name => ⟨fun i => captureIndex_eq_some, captureIndex_eq_none⟩, ?_⟩
  · exact ⟨fun name => captureNames_eq_some hi, captureNames_eq_none hi⟩
  · exact captureIndex_iff_captureNames

/-- The table `[0, 1, 'a', 0], [0, 1, 'b', 0]` has two names for one group. -/
example : (⟨0, "p", 1, some (ofBytes 4 [0, 1, 97, 0, 0, 1, 98, 0])⟩ : CompiledPattern).captureNames
    = #[none, some "b"] := by cbv

end PatternSuite
