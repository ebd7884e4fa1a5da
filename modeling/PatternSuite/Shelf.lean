/-!
# Things under names

A shelf keeps things under names, at most one under each. Putting a thing under a name removes
what stood there.

* `Shelf.get?`, `Shelf.set`, `Shelf.erase`: look, put, take away.
* `Shelf.perm_of_get?`: a shelf with something under a name is that thing and the rest.
* `Shelf.flatMap_values`: what the things have is what that thing has and what the rest has.
-/

namespace PatternSuite

/-- Things under names; no name stands twice. -/
structure Shelf (α : Type) where
  entries : List (String × α) := []
  nodup : (entries.map (·.1)).Nodup := by simp

namespace Shelf

variable {α β : Type}

/-- The shelf with one thing. -/
def single (name : String) (value : α) : Shelf α where
  entries := [(name, value)]

/-- What stands under a name. -/
def get? (t : Shelf α) (name : String) : Option α :=
  (t.entries.find? fun e => e.1 == name).map (·.2)

/-- Takes away what stands under a name. -/
def erase (t : Shelf α) (name : String) : Shelf α where
  entries := t.entries.filter fun e => e.1 != name
  nodup := t.nodup.sublist (List.filter_sublist.map _)

theorem notMem_erase (t : Shelf α) (name : String) :
    name ∉ (t.erase name).entries.map (·.1) := by
  simp [erase]

/-- Puts a thing under a name. -/
def set (t : Shelf α) (name : String) (value : α) : Shelf α where
  entries := (name, value) :: (t.erase name).entries
  nodup := List.nodup_cons.2 ⟨t.notMem_erase name, (t.erase name).nodup⟩

/-- All things. -/
def values (t : Shelf α) : List α := t.entries.map (·.2)

@[simp] theorem values_set (t : Shelf α) (name : String) (value : α) :
    (t.set name value).values = value :: (t.erase name).values := rfl

@[simp] theorem values_single (name : String) (value : α) :
    (single name value).values = [value] := rfl

@[simp] theorem values_empty : ({} : Shelf α).values = [] := rfl

theorem erase_of_get?_none {t : Shelf α} {name : String} (h : t.get? name = none) :
    t.erase name = t := by
  obtain ⟨es, hn⟩ := t
  simp only [get?, Option.map_eq_none_iff, List.find?_eq_none] at h
  simp only [erase, mk.injEq, List.filter_eq_self]
  intro e he
  simpa using h e he

/-- With names that do not repeat, a thing and what stands under the other names are all. -/
theorem perm_of_get? {t : Shelf α} {name : String} {value : α} (h : t.get? name = some value) :
    t.values.Perm (value :: (t.erase name).values) := by
  obtain ⟨es, hn⟩ := t
  simp only [get?, values, erase] at h ⊢
  induction es with
  | nil => simp at h
  | cons e es ih =>
    obtain ⟨hne, hn'⟩ := List.nodup_cons.1 hn
    by_cases he : e.1 = name
    · -- nothing behind `e` has its name
      have hrest : es.filter (fun x => x.1 != name) = es := by
        rw [List.filter_eq_self]
        intro x hx
        simp only [bne_iff_ne, ne_eq]
        rintro rfl
        exact hne (List.mem_map.2 ⟨x, hx, he.symm⟩)
      have hv : e.2 = value := by simpa [he] using h
      simp [he, hrest, hv]
    · have hf : (e :: es).filter (fun x => x.1 != name)
          = e :: es.filter (fun x => x.1 != name) := by simp [he]
      rw [hf]
      simp only [List.map_cons]
      exact ((ih hn' (by simpa [he] using h)).cons e.2).trans (.swap ..)

theorem mem_of_get? {t : Shelf α} {name : String} {value : α} (h : t.get? name = some value) :
    value ∈ t.values :=
  (perm_of_get? h).mem_iff.2 List.mem_cons_self

theorem mem_of_mem_erase {t : Shelf α} {name : String} {value : α}
    (h : value ∈ (t.erase name).values) : value ∈ t.values := by
  cases hget : t.get? name with
  | none => rwa [erase_of_get?_none hget] at h
  | some v => exact (perm_of_get? hget).mem_iff.2 (List.mem_cons_of_mem _ h)

theorem flatMap_values (t : Shelf α) (name : String) (f : α → List β) :
    (t.values.flatMap f).Perm
      (((t.get? name).map f).getD [] ++ (t.erase name).values.flatMap f) := by
  cases hget : t.get? name with
  | none => simp [erase_of_get?_none hget]
  | some v => simpa using (perm_of_get? hget).flatMap_right f

end Shelf

end PatternSuite
