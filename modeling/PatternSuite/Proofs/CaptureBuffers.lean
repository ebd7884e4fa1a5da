import PatternSuite.Engine.Canned
import PatternSuite.Proofs.Searches

/-!
# Capture buffers that are used again

A search with a buffer starts from empty slots, however the buffer was used before. What can be
read of the buffer afterwards is what the engine stored during this search, and only if it found a
match. An engine may store spans before it reports no match, and may count more slots than it was
given; neither shows.

* `Captures.lastStore`: what stores leave in a slot.
* `Captures.getElem?_toList_settle`: what can be read after a search.
* `Refilled`: a buffer after a search, by the answer of the engine.
* `executeLooking_eq`: an engine that looks into its slots finds them empty.
* `executeRun`: searches in a row that use one buffer.
* `no_stale_captures`: any search of such a row.
-/

namespace PatternSuite

open Text

/-! ## Slots -/

namespace Captures

/-- What stores leave in slot `i`: the last one counts. -/
def lastStore (stores : List (Nat × Option Span)) (i : Nat) : Option Span :=
  (stores.reverse.find? fun s => s.1 == i).bind (·.2)

theorem lastStore_concat (stores : List (Nat × Option Span)) (s : Nat × Option Span) (i : Nat) :
    lastStore (stores ++ [s]) i = if s.1 = i then s.2 else lastStore stores i := by
  by_cases h : s.1 = i <;> simp [lastStore, h]

/-- Stores go into empty slots one after the other, and none goes beyond the last slot. -/
theorem getElem?_storeAll (n : Nat) (stores : List (Nat × Option Span)) (i : Nat) :
    (storeAll (List.replicate n none) stores)[i]? =
      if i < n then some (lastStore stores i) else none := by
  induction stores using List.reverseRecOn with
  | nil => simp [storeAll, lastStore, List.getElem?_replicate]
  | append_singleton stores s ih =>
    have hlength := length_storeAll (List.replicate n none) stores
    rw [List.length_replicate] at hlength
    have hstep : storeAll (List.replicate n none) (stores ++ [s]) =
        (storeAll (List.replicate n none) stores).set s.1 s.2 := by
      simp [storeAll]
    rw [hstep, List.getElem?_set, ih, hlength, lastStore_concat]
    by_cases hs : s.1 = i
    · subst hs
      simp
    · simp [hs]

@[simp] theorem filled_settle (c : Captures) (stores : List (Nat × Option Span)) (count : Nat) :
    (c.settle stores count).filled = min count c.capacity := by
  simp [settle, length_storeAll, cleared, ofCapacity]

/-- **What can be read after a search**: as many slots as it counts, as far as there are any, each
with the last span that was stored in it. -/
theorem getElem?_toList_settle (c : Captures) (stores : List (Nat × Option Span)) (count i : Nat) :
    (c.settle stores count).toList[i]? =
      if i < min count c.capacity then some (lastStore stores i) else none := by
  rw [toList, filled_settle, List.getElem?_take]
  have hslots : (c.settle stores count).slots =
      storeAll (List.replicate c.capacity none) stores := rfl
  split
  · next h => rw [hslots, getElem?_storeAll, if_pos (by omega)]
  · rfl

theorem get?_settle (c : Captures) (stores : List (Nat × Option Span)) (count i : Nat) :
    (c.settle stores count).get? i =
      if i < min count c.capacity then lastStore stores i else none := by
  rw [get?, getElem?_toList_settle]
  split <;> rfl

theorem length_toList (c : Captures) : c.toList.length = c.filled := by
  rw [toList, List.length_take, Nat.min_eq_left c.filled_le]

/-- A buffer after a search depends on what was before only by the number of slots. -/
theorem settle_congr {c d : Captures} (h : c.capacity = d.capacity)
    (stores : List (Nat × Option Span)) (count : Nat) :
    c.settle stores count = d.settle stores count := by
  have hcleared : c.cleared = d.cleared := congrArg ofCapacity h
  simp only [settle, hcleared]

/-- Spans stored into the slots; as much can be read as before. -/
def storing (c : Captures) (stores : List (Nat × Option Span)) : Captures where
  slots := storeAll c.slots stores
  filled := c.filled
  filled_le := (length_storeAll c.slots stores).symm ▸ c.filled_le

/-- The same slots, of which `n` can be read, or all if there are fewer. -/
def showing (c : Captures) (n : Nat) : Captures where
  slots := c.slots
  filled := min n c.capacity
  filled_le := Nat.min_le_right ..

end Captures

open Captures

/-- A buffer after a search, by the engine's answer in this search. On a match of `n` the first `n`
slots can be read, as far as there are any, and each gives what was stored in it last. Otherwise
nothing can be read. -/
structure Refilled (answer : SearchAnswer) (before after : Captures) : Prop where
  capacity : after.capacity = before.capacity
  filled_le : after.filled ≤ after.capacity
  matched : ∀ n, answer.outcome = .ok (some n) →
    after.filled = min n after.capacity ∧
      (∀ i < after.filled, after.get? i = lastStore answer.stores i) ∧
      ∀ i, after.filled ≤ i → after.get? i = none
  unmatched : (∀ n, answer.outcome ≠ .ok (some n)) →
    after.filled = 0 ∧ ∀ i, after.get? i = none

theorem refilled_settle (answer : SearchAnswer) (buffer : Captures) :
    Refilled answer buffer (buffer.settle answer.stores answer.count) where
  capacity := capacity_settle ..
  filled_le := filled_le _
  matched n h := by
    have hcount : answer.count = n := by rw [SearchAnswer.count, h]
    simp only [filled_settle, capacity_settle, get?_settle, hcount]
    exact ⟨trivial, fun i hi => if_pos hi, fun i hi => if_neg (Nat.not_lt.2 hi)⟩
  unmatched h := by
    have hcount : answer.count = 0 := by
      unfold SearchAnswer.count
      split
      · next n hn => exact absurd hn (h n)
      · rfl
    simp [get?_settle, hcount]

/-! ## Engines that look into their slots -/

section Looking

variable {κ σ : Type}

/-- A search with a buffer, for an engine that looks into the slots it is given: the buffer is
emptied, the engine gets its slots and stores spans in them, and on a match as many can be read as
the engine counts. -/
def executeLooking (look : κ → String → List (Option Span) → σ → SearchAnswer × σ)
    (p : CompiledPattern) (input : String) (buffer : Captures) (w : Ledger κ σ) :
    Except PatternError MatchOutcome × Captures × Ledger κ σ :=
  let prepared := buffer.cleared
  match w.form? p.form with
  | none => (.ok .notMatched, prepared, w)
  | some form =>
    let (answer, w) := w.ask (.search p.form prepared.capacity) (look form input prepared.slots)
    let stored := prepared.storing answer.stores
    let (outcome, w) := concludeSearch p input answer w
    match answer.outcome with
    | .ok (some n) => (outcome, stored.showing n, w)
    | _ => (outcome, stored, w)

/-- **An engine that looks into its slots finds them empty.** It is enough to tell an engine how
many slots there are. -/
theorem executeLooking_eq {E : Engine κ σ}
    {look : κ → String → List (Option Span) → σ → SearchAnswer × σ}
    (h : ∀ form input n s, E.search form input n s = look form input (List.replicate n none) s)
    (p : CompiledPattern) (input : String) (buffer : Captures) (w : Ledger κ σ) :
    executeLooking look p input buffer w = executeInto E p input buffer w := by
  have hempty : ∀ form, look form input buffer.cleared.slots =
      E.search form input buffer.capacity := fun form => funext fun s => (h form input _ s).symm
  have hcapacity : buffer.cleared.capacity = buffer.capacity := capacity_ofCapacity _
  unfold executeLooking executeInto search
  cases w.form? p.form with
  | none =>
    simp [concludeSearch, settle, storeAll, cleared, ofCapacity]
  | some form =>
    dsimp only
    rw [hempty form, hcapacity]
    generalize w.ask (.search p.form buffer.capacity) (E.search form input buffer.capacity) = asked
    obtain ⟨⟨outcome, stores, notes⟩, w'⟩ := asked
    rcases outcome with f | _ | n
    · simp [settle, storing, cleared, ofCapacity]
    · simp [settle, storing, cleared, ofCapacity]
    · simp [settle, storing, showing, cleared, ofCapacity, length_storeAll, Captures.capacity]

end Looking

/-! ## Searches in a row -/

section Runs

variable {κ σ : Type}

/-- Searches in a row that use one buffer; what they leave of it, and of the ledger. -/
def executeRun (E : Engine κ σ) :
    List (CompiledPattern × String) → Captures → Ledger κ σ → Captures × Ledger κ σ
  | [], buffer, w => (buffer, w)
  | (p, input) :: calls, buffer, w =>
    let (_, buffer, w) := executeInto E p input buffer w
    executeRun E calls buffer w

variable {E : Engine κ σ}

theorem capacity_executeRun (calls : List (CompiledPattern × String)) (buffer : Captures)
    (w : Ledger κ σ) : (executeRun E calls buffer w).1.capacity = buffer.capacity := by
  induction calls generalizing buffer w with
  | nil => rfl
  | cons call calls ih => exact (ih _ _).trans (capacity_settle ..)

theorem forms_executeRun (calls : List (CompiledPattern × String)) (buffer : Captures)
    (w : Ledger κ σ) : (executeRun E calls buffer w).2.forms = w.forms := by
  induction calls generalizing buffer w with
  | nil => rfl
  | cons call calls ih => exact (ih _ _).trans (forms_executeInto ..)

/-- **Nothing of an earlier search shows in a buffer, and nothing unearned.** In a row of searches
of any patterns on any inputs, each calls the engine once, with as many empty slots as the buffer
has, and comes to what the engine answers; a failure is logged, and nothing else is. What can be
read of the buffer is what was stored during this search, and without a match nothing. A fresh
buffer, searched with any other engine that gives the same answer and stores the same, is the same
buffer afterwards. -/
theorem no_stale_captures (E : Engine κ σ) (before : List (CompiledPattern × String))
    (buffer : Captures) (w : Ledger κ σ) (p : CompiledPattern) (input : String) {form : κ}
    (hform : w.form? p.form = some form) :
    let earlier := executeRun E before buffer w
    let answer := (E.search form input buffer.capacity earlier.2.state).1
    let out := executeInto E p input earlier.1 earlier.2
    out.1 = answer.verdict p input ∧
      out.2.2 = earlier.2.searched E p form input buffer.capacity ∧
      (∀ look : κ → String → List (Option Span) → σ → SearchAnswer × σ,
        (∀ form input n s, E.search form input n s = look form input (List.replicate n none) s) →
          executeLooking look p input earlier.1 earlier.2 = out) ∧
      Refilled answer buffer out.2.1 ∧
      ∀ {κ' σ' : Type} (E' : Engine κ' σ') (p' : CompiledPattern) (input' : String)
        (w' : Ledger κ' σ') (form' : κ'), w'.form? p'.form = some form' →
        let answer' := (E'.search form' input' buffer.capacity w'.state).1
        answer'.outcome = answer.outcome → answer'.stores = answer.stores →
          (executeInto E' p' input' (ofCapacity buffer.capacity) w').2.1 = out.2.1 := by
  intro earlier answer out
  have hcapacity : earlier.1.capacity = buffer.capacity := capacity_executeRun before buffer w
  -- the earlier searches have left the forms, so this pattern's form is still there
  have hform' : earlier.2.form? p.form = some form :=
    (form?_of_forms (forms_executeRun before buffer w) p.form).trans hform
  have hout : out = (answer.verdict p input, earlier.1.settle answer.stores answer.count,
      earlier.2.searched E p form input buffer.capacity) := by
    have heq := executeInto_eq (E := E) hform' input earlier.1
    rwa [hcapacity] at heq
  have hbuffer : out.2.1 = buffer.settle answer.stores answer.count := by
    rw [hout]
    exact settle_congr hcapacity _ _
  refine ⟨by rw [hout], by rw [hout], fun look hlook => executeLooking_eq hlook .., ?_, ?_⟩
  · rw [hbuffer]
    exact refilled_settle answer buffer
  · intro κ' σ' E' p' input' w' form' hform'' answer' houtcome hstores
    have hcount : answer'.count = answer.count := SearchAnswer.count_congr houtcome
    have heq := executeInto_eq (E := E') hform'' input' (ofCapacity buffer.capacity)
    rw [capacity_ofCapacity] at heq
    rw [hbuffer, heq, ← hstores, ← hcount]
    exact settle_congr (capacity_ofCapacity _) _ _

/-- A search that fails after it has stored a span, behind one that counts more slots than there
are: two slots could be read, and then none. -/
theorem no_stale_captures_canned :
    let E := Canned.engine { patterns :=
      [("p", { outcome := .ok (some 9), stores := [(0, ⟨0, 2⟩), (1, ⟨0, 1⟩), (0, ⟨1, 2⟩)] }),
        ("q", { outcome := .error ⟨-8, "gave up"⟩, stores := [(0, ⟨0, 1⟩)] })] }
    let w : Ledger CannedForm Unit :=
      { state := (), forms := #[⟨⟨"p", false⟩, 1⟩, ⟨⟨"q", false⟩, 1⟩] }
    let q : CompiledPattern := ⟨1, "q", 0, none⟩
    let earlier := executeRun E [(⟨0, "p", 0, none⟩, "ab")] (ofCapacity 2) w
    let out := executeInto E q "ab" earlier.1 earlier.2
    earlier.1.toList = [some ⟨1, 2⟩, some ⟨0, 1⟩] ∧
      out.1 = .error (.execution (-8) "gave up" "ab" "q") ∧ out.2.1.filled = 0 ∧
      (∀ i, out.2.1.get? i = none) ∧
      out.2.1 = (executeInto E q "ab" (ofCapacity 2) w).2.1 := by
  intro E w q earlier out
  have hform : w.form? q.form = some ⟨"q", false⟩ := rfl
  obtain ⟨hout, -, -, hrefilled, hfresh⟩ := no_stale_captures E [(⟨0, "p", 0, none⟩, "ab")]
    (ofCapacity 2) w q "ab" hform
  obtain ⟨hfilled, hget⟩ := hrefilled.unmatched (by rintro n h; cases h)
  exact ⟨by decide +kernel, hout, hfilled, hget, (hfresh E q "ab" w _ hform rfl rfl).symm⟩

end Runs

end PatternSuite
