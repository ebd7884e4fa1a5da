import PatternSuite.Command.Program
import PatternSuite.Engine.Canned
import PatternSuite.Proofs.Searches

/-!
# Lists of patterns

A list of patterns is matched up to the first answer that is not a plain absence of a match. A match
gives the place of its pattern, and a failure is the failure of the list; what would be answered
later counts for nothing. A list without such an answer declines.

* `answersTo`: what an engine answers about forms one after the other.
* `Wrote`: what the ledger has more when some answers were heard.
* `Decided`: the outcome of a list by the answers about it; `executeFrom_decided`: it is that.
* `executeFrom_append`: a list of two parts.
* `first_decisive_answer`: any list.
-/

namespace PatternSuite

variable {κ σ : Type}

/-- What an engine answers about an input and forms, one after the other, without slots. -/
def answersTo (E : Engine κ σ) (input : String) : List κ → σ → List SearchAnswer
  | [], _ => []
  | form :: forms, state =>
    let (answer, state) := E.search form input 0 state
    answer :: answersTo E input forms state

/-- What is in a ledger behind another when answers about the first of some patterns were heard: a
call for each answer, and what the engine logged with it; then there are records of failures. -/
structure Wrote (ps : List CompiledPattern) (heard : List SearchAnswer)
    (failures : List LogRecord) (w v : Ledger κ σ) : Prop where
  calls : v.calls = w.calls ++ (ps.take heard.length).map fun p => .search p.form 0
  records : Program.records v.events =
    Program.records w.events ++ heard.flatMap (·.notes) ++ failures
  forms : v.forms = w.forms

/-- The outcome of a list, whose places are counted from `index`, by the answers about its patterns.
It declines just if no answer is a match or a failure. Otherwise the first of these decides, and
nothing is asked behind it. -/
structure Decided (index : Nat) (ps : List CompiledPattern) (input : String)
    (answers : List SearchAnswer) (w : Ledger κ σ)
    (out : Except PatternError ArrayOutcome × Ledger κ σ) : Prop where
  declined_iff : out.1 = .ok .declined ↔ ∀ a ∈ answers, a.outcome = .ok none
  declined : out.1 = .ok .declined → Wrote ps answers [] w out.2
  decisive : ∀ before a after, answers = before ++ a :: after →
    (∀ b ∈ before, b.outcome = .ok none) → ∃ p, ps[before.length]? = some p ∧
      (∀ n, a.outcome = .ok (some n) →
        out.1 = .ok (.matched (index + before.length)) ∧ Wrote ps (before ++ [a]) [] w out.2) ∧
      ∀ f, a.outcome = .error f →
        out.1 = .error (.execution f.code f.message input p.source) ∧
          Wrote ps (before ++ [a]) [⟨.error, failureText p input f⟩] w out.2

/-! ## What is written down -/

section Wrote

variable {E : Engine κ σ} {w v : Ledger κ σ} {p : CompiledPattern} {form : κ}

theorem calls_searched (p : CompiledPattern) (form : κ) (input : String) (slots : Nat)
    (w : Ledger κ σ) :
    (w.searched E p form input slots).calls = w.calls ++ [.search p.form slots] := by
  have hlogged (rs : List LogRecord) : (rs.map Event.logged).filterMap call? = [] := by
    rw [List.filterMap_map]
    exact List.filterMap_eq_nil_iff.2 fun _ _ => rfl
  simp only [Ledger.calls, Ledger.searched, searchEvents, Array.toList_append,
    List.filterMap_append, List.filterMap_cons, call?, hlogged]

theorem records_searched (p : CompiledPattern) (form : κ) (input : String) (slots : Nat)
    (w : Ledger κ σ) :
    Program.records (w.searched E p form input slots).events = Program.records w.events ++
      ((E.search form input slots w.state).1.notes ++
        failureRecords p input (E.search form input slots w.state).1) := by
  have hlogged (rs : List LogRecord) : Program.records (rs.map Event.logged).toArray = rs := by
    rw [Program.records, List.filterMap_map]
    exact List.filterMap_some
  rw [← hlogged (_ ++ failureRecords p input _)]
  simp [Program.records, Ledger.searched, searchEvents]

theorem Wrote.refl (ps : List CompiledPattern) (w : Ledger κ σ) : Wrote ps [] [] w w where
  calls := by simp
  records := by simp
  forms := rfl

/-- The answer that ends the search of a list. -/
theorem wrote_searched (p : CompiledPattern) (form : κ) (ps : List CompiledPattern)
    (input : String) (w : Ledger κ σ) :
    Wrote (p :: ps) [(E.search form input 0 w.state).1]
      (failureRecords p input (E.search form input 0 w.state).1) w
      (w.searched E p form input 0) where
  calls := by simp [calls_searched]
  records := by simp [records_searched]
  forms := rfl

/-- Answers are heard behind one that is no failure. -/
theorem Wrote.cons {ps : List CompiledPattern} {heard : List SearchAnswer}
    {failures : List LogRecord} {input : String} {a : SearchAnswer}
    (ha : (E.search form input 0 w.state).1 = a) (hnone : a.outcome = .ok none)
    (h : Wrote ps heard failures (w.searched E p form input 0) v) :
    Wrote (p :: ps) (a :: heard) failures w v where
  calls := by
    rw [h.calls, calls_searched]
    simp
  records := by
    rw [h.records, records_searched, ha, failureRecords, hnone]
    simp
  forms := h.forms

end Wrote

/-! ## Lists -/

section Lists

variable {E : Engine κ σ} {w : Ledger κ σ} {p : CompiledPattern} {form : κ}

/-- The first pattern decides, or the rest of the list does. -/
theorem executeFrom_cons (h : w.form? p.form = some form) (index : Nat)
    (ps : List CompiledPattern) (input : String) :
    let answer := (E.search form input 0 w.state).1
    let v := w.searched E p form input 0
    executeFrom E index (p :: ps) input w =
      match answer.outcome with
      | .ok (some _) => (.ok (.matched index), v)
      | .ok none => executeFrom E (index + 1) ps input v
      | .error f => (.error (.execution f.code f.message input p.source), v) := by
  intro answer v
  rw [executeFrom, execute_eq h, SearchAnswer.verdict]
  rcases (E.search form input 0 w.state).1.outcome with f | _ | n <;> rfl

/-- An answer that is a match or a failure decides, whatever would be answered behind it. -/
theorem decided_of_decisive {index : Nat} {ps : List CompiledPattern} {input : String}
    {a : SearchAnswer} {out : Except PatternError ArrayOutcome × Ledger κ σ}
    (ha : a.outcome ≠ .ok none)
    (hmatched : ∀ n, a.outcome = .ok (some n) → out.1 = .ok (.matched index))
    (hfailed : ∀ f, a.outcome = .error f →
      out.1 = .error (.execution f.code f.message input p.source))
    (hwrote : Wrote (p :: ps) [a] (failureRecords p input a) w out.2)
    (answers : List SearchAnswer) : Decided index (p :: ps) input (a :: answers) w out := by
  have hnot : out.1 ≠ .ok .declined := by
    rcases houtcome : a.outcome with f | _ | n
    · simp [hfailed f houtcome]
    · exact absurd houtcome ha
    · simp [hmatched n houtcome]
  refine ⟨⟨fun h => absurd h hnot, fun h => absurd (h a List.mem_cons_self) ha⟩,
    fun h => absurd h hnot, ?_⟩
  rintro (_ | ⟨c, before⟩) b after heq hbefore
  · obtain rfl := (List.cons.inj heq).1
    refine ⟨p, rfl, fun n hn => ⟨hmatched n hn, ?_⟩, fun f hf => ⟨hfailed f hf, ?_⟩⟩
    · rwa [failureRecords, hn] at hwrote
    · rwa [failureRecords, hf] at hwrote
  · obtain rfl := (List.cons.inj heq).1
    exact absurd (hbefore a List.mem_cons_self) ha

/-- Behind a pattern that does not match, the rest of the list decides. -/
theorem Decided.cons {index : Nat} {ps : List CompiledPattern} {input : String}
    {a : SearchAnswer} {answers : List SearchAnswer}
    {out : Except PatternError ArrayOutcome × Ledger κ σ}
    (ha : (E.search form input 0 w.state).1 = a) (hnone : a.outcome = .ok none)
    (h : Decided (index + 1) ps input answers (w.searched E p form input 0) out) :
    Decided index (p :: ps) input (a :: answers) w out where
  declined_iff := by
    rw [h.declined_iff]
    simp [hnone]
  declined hdeclined := (h.declined hdeclined).cons ha hnone
  decisive := by
    rintro (_ | ⟨c, before⟩) b after heq hbefore
    · obtain rfl := (List.cons.inj heq).1
      exact ⟨p, rfl, by simp [hnone], by simp [hnone]⟩
    · obtain ⟨rfl, hrest⟩ := List.cons.inj heq
      obtain ⟨q, hq, hmatched, hfailed⟩ := h.decisive before b after hrest
        fun c hc => hbefore c (List.mem_cons_of_mem _ hc)
      refine ⟨q, hq, fun n hn => ?_, fun f hf => ?_⟩
      · obtain ⟨hout, hwrote⟩ := hmatched n hn
        rw [hout, List.length_cons, Nat.add_right_comm, Nat.add_assoc]
        exact ⟨rfl, hwrote.cons ha hnone⟩
      · obtain ⟨hout, hwrote⟩ := hfailed f hf
        exact ⟨hout, hwrote.cons ha hnone⟩

/-- **A list comes to what its answers decide.** -/
theorem executeFrom_decided (input : String) (ps : List CompiledPattern) (forms : List κ)
    (index : Nat) (w : Ledger κ σ)
    (hforms : ps.map (fun p => w.form? p.form) = forms.map some) :
    Decided index ps input (answersTo E input forms w.state) w
      (executeFrom E index ps input w) := by
  induction ps generalizing forms index w with
  | nil =>
    obtain rfl : forms = [] := by simpa using hforms.symm
    exact ⟨by simp [executeFrom, answersTo], fun _ => .refl [] w, by simp [answersTo]⟩
  | cons p ps ih =>
    cases forms with
    | nil => cases hforms
    | cons form forms =>
    obtain ⟨hform, hforms⟩ := List.cons.inj hforms
    have hwrote := wrote_searched (E := E) p form ps input w
    -- the search leaves the forms, so those of the other patterns are still there
    have hrest := ih forms (index + 1) (w.searched E p form input 0) hforms
    rw [executeFrom_cons hform, answersTo]
    rcases houtcome : (E.search form input 0 w.state).1.outcome with f | _ | n
    · refine decided_of_decisive (by simp [houtcome]) (by simp [houtcome]) ?_ hwrote _
      intro f' hf'
      obtain rfl : f = f' := by simpa [houtcome] using hf'
      rfl
    · exact hrest.cons rfl houtcome
    · exact decided_of_decisive (by simp [houtcome]) (fun _ _ => rfl) (by simp [houtcome]) hwrote _

/-! ## Lists of two parts -/

namespace ArrayOutcome

/-- The outcome when there are `n` more patterns in front. -/
def shifted (n : Nat) : ArrayOutcome → ArrayOutcome
  | matched i => matched (n + i)
  | declined => declined

end ArrayOutcome

theorem executeFrom_shifted (n index : Nat) (ps : List CompiledPattern) (input : String)
    (w : Ledger κ σ) :
    executeFrom E (n + index) ps input w =
      ((executeFrom E index ps input w).1.map (ArrayOutcome.shifted n),
        (executeFrom E index ps input w).2) := by
  induction ps generalizing index w with
  | nil => rfl
  | cons p ps ih =>
    unfold executeFrom
    rcases execute E p input w with ⟨e | _ | _, v⟩
    · rfl
    · rfl
    · exact ih (index + 1) v

/-- **A list of two parts.** The first part decides, unless it declines; then the second does. -/
theorem executeFrom_append (index : Nat) (xs ys : List CompiledPattern) (input : String)
    (w : Ledger κ σ) :
    let first := executeFrom E index xs input w
    (first.1 ≠ .ok .declined → executeFrom E index (xs ++ ys) input w = first) ∧
      (first.1 = .ok .declined → executeFrom E index (xs ++ ys) input w =
        executeFrom E (index + xs.length) ys input first.2) := by
  induction xs generalizing index w with
  | nil => exact ⟨fun h => absurd rfl h, fun _ => rfl⟩
  | cons p xs ih =>
    rw [List.cons_append, executeFrom, executeFrom]
    rcases execute E p input w with ⟨e | _ | _, v⟩
    · exact ⟨fun _ => rfl, nofun⟩
    · exact ⟨fun _ => rfl, nofun⟩
    · dsimp only
      rw [List.length_cons, Nat.add_comm xs.length, ← Nat.add_assoc]
      exact ih (index + 1) v

/-- **A list of patterns comes to its first answer that is a match or a failure.** The patterns are
asked about in order and without slots, once each, up to this answer. A match gives the place of
the pattern and a failure the pattern's error, with one record of it; without such an answer the
list declines, and no failure is logged. More patterns behind a list count only if it declines. -/
theorem first_decisive_answer (E : Engine κ σ) (ps : List CompiledPattern) (forms : List κ)
    (input : String) (w : Ledger κ σ)
    (hforms : ps.map (fun p => w.form? p.form) = forms.map some) :
    let out := executeArray E ps input w
    Decided 0 ps input (answersTo E input forms w.state) w out ∧
      ∀ rest, (out.1 ≠ .ok .declined → executeArray E (ps ++ rest) input w = out) ∧
        (out.1 = .ok .declined → executeArray E (ps ++ rest) input w =
          ((executeArray E rest input out.2).1.map (ArrayOutcome.shifted ps.length),
            (executeArray E rest input out.2).2)) := by
  intro out
  refine ⟨executeFrom_decided input ps forms 0 w hforms, fun rest => ?_⟩
  obtain ⟨hstop, hgo⟩ := executeFrom_append (E := E) 0 ps rest input w
  refine ⟨hstop, fun hdeclined => (hgo hdeclined).trans ?_⟩
  rw [Nat.add_comm]
  exact executeFrom_shifted ps.length 0 rest input _

/-- A failure between a pattern that does not match and one that would, and a match in front of a
failure; the first pattern is in both lists twice. -/
theorem first_decisive_answer_canned :
    let E := Canned.engine { patterns :=
      [("p", { outcome := .ok (some 1) }), ("q", { outcome := .error ⟨-8, "gave up"⟩ })] }
    let w : Ledger CannedForm Unit :=
      { state := (), forms := #[⟨⟨"n", false⟩, 1⟩, ⟨⟨"p", false⟩, 1⟩, ⟨⟨"q", false⟩, 1⟩] }
    let n : CompiledPattern := ⟨0, "n", 0, none⟩
    let p : CompiledPattern := ⟨1, "p", 0, none⟩
    let q : CompiledPattern := ⟨2, "q", 0, none⟩
    (executeArray E [n, q, n, p] "x" w).1 = .error (.execution (-8) "gave up" "x" "q") ∧
      (executeArray E [n, q, n, p] "x" w).2.calls = [.search 0 0, .search 2 0] ∧
      (executeArray E [n, n, p, q] "x" w).1 = .ok (.matched 2) ∧
      (executeArray E ([n, n] ++ [p, q]) "x" w).1 =
        (executeArray E [p, q] "x" (executeArray E [n, n] "x" w).2).1.map (.shifted 2) := by
  intro E w n p q
  obtain ⟨hfailed, -⟩ := first_decisive_answer E [n, q, n, p]
    [⟨"n", false⟩, ⟨"q", false⟩, ⟨"n", false⟩, ⟨"p", false⟩] "x" w rfl
  obtain ⟨q', hq', -, hfailed⟩ := hfailed.decisive [⟨.ok none, [], []⟩]
    ⟨.error ⟨-8, "gave up"⟩, [], []⟩ [⟨.ok none, [], []⟩, ⟨.ok (some 1), [], []⟩] rfl (by simp)
  obtain ⟨herror, hwrote⟩ := hfailed _ rfl
  obtain rfl : q = q' := by simpa using hq'
  obtain ⟨hmatched, -⟩ := first_decisive_answer E [n, n, p, q]
    [⟨"n", false⟩, ⟨"n", false⟩, ⟨"p", false⟩, ⟨"q", false⟩] "x" w rfl
  obtain ⟨-, -, hmatched, -⟩ := hmatched.decisive [⟨.ok none, [], []⟩, ⟨.ok none, [], []⟩]
    ⟨.ok (some 1), [], []⟩ [⟨.error ⟨-8, "gave up"⟩, [], []⟩] rfl (by simp)
  obtain ⟨hmatched, -⟩ := hmatched 1 rfl
  obtain ⟨hdeclined, hrest⟩ := first_decisive_answer E [n, n] [⟨"n", false⟩, ⟨"n", false⟩] "x" w rfl
  have hnone : (executeArray E [n, n] "x" w).1 = .ok .declined :=
    hdeclined.declined_iff.2 (by simp [answersTo, E, Canned.engine, Canned.answers])
  exact ⟨herror, hwrote.calls, hmatched, congrArg Prod.fst ((hrest [p, q]).2 hnone)⟩

end Lists

end PatternSuite
