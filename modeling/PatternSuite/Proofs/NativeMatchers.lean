import PatternSuite.Engine.Native
import PatternSuite.Proofs.BufferSizes

/-!
# The library's own matchers agree with themselves

A search that stops at the first match it learns of finds one just if the search for the preferred
match does. A search by a program is the same whether the groups are asked for or not.

* `Regular.Automaton.isSome_run`: stopping early does not change whether there is a match.
* `Backtracking.Part.le_endGroup`: a part does not close more groups than are open.
* `Native.agree`: the matchers of the library.
* `Native.compileBasic_error`: why a basic pattern is refused, and where.
-/

namespace PatternSuite

open Text

/-! ## Basic patterns -/

namespace Regular

namespace Automaton

variable {a : Automaton} {fuel : Nat}

/-- A match that is known is not lost. -/
theorem isSome_run_of_best {best : Option Notes} (h : best.isSome = true) (earliest : Bool)
    (before : Option Char) (offset : Nat) (front : Front) (cs : List Char) :
    (a.run fuel earliest before offset best front cs).isSome = true := by
  induction cs generalizing before offset best front with
  | nil => simp [run, h]
  | cons c cs ih =>
    unfold run
    dsimp only
    split
    · exact h
    split
    · simp [h]
    · exact ih (by simp [h]) _ _ _

/-- **Stopping early** does not change whether there is a match. -/
theorem isSome_run (before : Option Char) (offset : Nat) (best : Option Notes) (front : Front)
    (cs : List Char) :
    (a.run fuel true before offset best front cs).isSome =
      (a.run fuel false before offset best front cs).isSome := by
  induction cs generalizing before offset best front with
  | nil => rfl
  | cons c cs ih =>
    unfold run
    dsimp only
    split
    · rfl
    split
    · next hbest =>
      -- the search that goes on knows the match, too
      have hknown := (Bool.and_eq_true_iff.1 hbest).2
      rw [if_neg (by simp), hknown, isSome_run_of_best hknown]
    · rw [if_neg (by simp)]
      exact ih _ _ _ _

theorem isMatch_eq (groups : Nat) (input : String) :
    a.isMatch input = (a.captures groups input).isSome := by
  rw [isMatch, captures, Option.isSome_map]
  exact isSome_run ..

theorem length_of_captures {groups : Nat} {input : String} {spans : List (Option Span)}
    (h : a.captures groups input = some spans) : spans.length = groups := by
  obtain ⟨notes, -, rfl⟩ := Option.map_eq_some_iff.1 h
  simp

end Automaton

/-- The whole match is a group. -/
theorem Regex.groupNames_pos {text : String} {flags : SyntaxFlags} {r : Regex}
    (h : Regex.compile text flags = .ok r) : 0 < r.groupNames.length := by
  unfold Regex.compile at h
  split at h
  · cases h
  split at h
  · cases h
    simp [Regex.ofNode, Node.groupNames]
  · cases h

end Regular

/-! ## Fancy patterns -/

namespace Backtracking

namespace Part

/-- What a stage needs, it has been given. -/
theorem of_bind {α β : Type} {x : Except Obstacle α} {f : α → Except Obstacle β} {b : β}
    (h : (x >>= f) = .ok b) : ∃ a, x = .ok a ∧ f a = .ok b := by
  cases x with
  | error o => cases h
  | ok a => exact ⟨a, rfl, h⟩

mutual

/-- Behind a part no fewer groups have been opened than before it. -/
theorem le_endGroup {referred : List Nat} {group : Nat} {p : Part} :
    ∀ {e : Expr}, ofExpr referred group e = .ok p → group ≤ p.shape.endGroup
  | .empty, h | .look _, h | .any _, h | .literal _ _, h | .atom _ _, h | .keepOut, h
  | .searchStart, h => by
    unfold ofExpr at h
    cases h
    exact Nat.le_refl _
  | .sameAs _, h | .groupSet _, h => by
    rw [ofExpr] at h
    split at h
    · cases h
    · cases h
      exact Nat.le_refl _
  | .row _, h | .choice _, h => by
    rw [ofExpr] at h
    obtain ⟨⟨ps, stop⟩, hes, h⟩ := of_bind h
    cases h
    exact le_stop hes
  | .group _, h => by
    rw [ofExpr] at h
    obtain ⟨q, hq, h⟩ := of_bind h
    have hle := le_endGroup hq
    cases h
    exact (Nat.le_succ group).trans hle
  | .around _ _, h | .times _ _ _ _, h | .atomic _, h => by
    rw [ofExpr] at h
    obtain ⟨q, hq, h⟩ := of_bind h
    have hle := le_endGroup hq
    cases h
    exact hle
  | .ifElse _ _ _, h => by
    rw [ofExpr] at h
    obtain ⟨c, hc, h⟩ := of_bind h
    obtain ⟨t, ht, h⟩ := of_bind h
    obtain ⟨f, hf, h⟩ := of_bind h
    have hle := ((le_endGroup hc).trans (le_endGroup ht)).trans (le_endGroup hf)
    cases h
    exact hle

theorem le_stop {referred : List Nat} {group : Nat} {ps : List Part} {stop : Nat} :
    ∀ {es : List Expr}, ofExprs referred group es = .ok (ps, stop) → group ≤ stop
  | [], h => by
    rw [ofExprs] at h
    cases h
    exact Nat.le_refl _
  | _ :: _, h => by
    rw [ofExprs] at h
    obtain ⟨p, hp, h⟩ := of_bind h
    obtain ⟨⟨qs, stop'⟩, hes, h⟩ := of_bind h
    cases h
    exact (le_endGroup hp).trans (le_stop hes)

end

/-- A whole pattern is a group. -/
theorem endGroup_pos {t : Tree} {p : Part} (h : ofTree t = .ok p) : 0 < p.shape.endGroup := by
  rw [ofTree, ofExpr] at h
  obtain ⟨q, hq, h⟩ := of_bind h
  have hle := le_endGroup hq
  cases h
  exact hle

end Part

namespace Fancy

/-- The whole match is a group. -/
theorem groupCount_of_matcherOf {t : Tree} {m : Matcher} (h : matcherOf t = .ok m)
    (names : List (String × Nat)) (limit : Nat) : 0 < groupCount ⟨m, names, limit⟩ := by
  obtain ⟨whole, hwhole, h⟩ := Part.of_bind h
  split at h
  · obtain ⟨program, -, h⟩ := Part.of_bind h
    cases h
    exact Part.endGroup_pos hwhole
  · unfold regularMatcher at h
    split at h
    · cases h
    · cases h
    · next r hr =>
      cases h
      exact Regular.Regex.groupNames_pos hr

theorem groupCount_pos {limit : Nat} {text : String} {f : Fancy}
    (h : Fancy.compile limit text = .ok f) : 0 < f.groupCount := by
  unfold compile at h
  cases ht : Tree.read text with
  | error e =>
    rw [ht] at h
    cases h
  | ok t =>
    rw [ht] at h
    cases hm : matcherOf t with
    | error o =>
      simp only [hm, bind, Except.bind] at h
      cases h
    | ok m =>
      simp only [hm, bind, Except.bind] at h
      cases h
      exact groupCount_of_matcherOf hm t.names limit

theorem isMatch_eq (f : Fancy) (input : String) :
    f.isMatch input = (f.captures input).map Option.isSome := by
  unfold isMatch captures
  split
  · exact congrArg Except.ok (Regular.Automaton.isMatch_eq _ input)
  next p groups _ => cases p.search f.limit input <;> rfl

theorem length_of_captures {f : Fancy} {input : String} {spans : List (Option Span)}
    (h : f.captures input = .ok (some spans)) : spans.length = f.groupCount := by
  unfold captures at h
  unfold groupCount
  split at h
  · exact Regular.Automaton.length_of_captures (Except.ok.inj h)
  next p groups hp =>
  split at h
  · cases h
    simp
  · cases h
  · cases h

theorem length_groupNames (f : Fancy) : f.groupNames.length = f.groupCount := by
  rw [groupNames, List.length_map, List.length_range]

end Fancy

end Backtracking

/-! ## The matchers -/

/-- **A basic pattern is refused for the fault in its text**, in its place, or as a whole if it is
too large. -/
theorem Native.compileBasic_error {text : String} {o : Options} {failure : CompileFailure}
    (h : Standard.compileBasic Native.matchers text o = .error failure) :
    (∃ e, Regular.Node.read text (Standard.basicFlags o) = .error e ∧
        failure = ⟨e.fault.message, e.offset⟩) ∨
      ∃ n, Regular.Node.read text (Standard.basicFlags o) = .ok n ∧ n.fits = false ∧
        failure = ⟨(BasicRefusal.tooLarge Regular.Node.storageLimit).message,
          text.utf8ByteSize⟩ := by
  unfold Standard.compileBasic at h
  split at h
  · cases h
  next refusal hrefused =>
  obtain rfl := Except.error.inj h
  -- the text is read with the same flags once more, and so has the same fault
  unfold Standard.basicFailure
  rw [Standard.faultFlags_eq]
  cases hread : Regular.Node.read text (Standard.basicFlags o) with
  | error e =>
    refine .inl ⟨e, rfl, ?_⟩
    simp only [Native.matchers, hread]
  | ok n =>
    refine .inr ⟨n, rfl, ?_⟩
    simp only [Native.matchers, Regular.Regex.compile, hread] at hrefused ⊢
    split at hrefused
    · cases hrefused
    · next refused hfits =>
      split at hfits
      · cases hfits
      · next hlarge =>
        cases hfits
        cases hrefused
        exact ⟨Bool.eq_false_iff.2 hlarge, rfl⟩

/-- **The library's own matchers agree with themselves.** What is left to be assumed of them is
what is said of their tables. -/
theorem Native.agree : Native.matchers.Agree where
  basicMatch r input := Regular.Automaton.isMatch_eq r.groupNames.length input
  basicLength r input spans h := Regular.Automaton.length_of_captures h
  basicWhole text flags r h := by
    simp only [Native.matchers] at h
    split at h
    · next r' hr =>
      cases h
      exact Regular.Regex.groupNames_pos hr
    · cases h
  fancyMatch f input := by
    have heq := Backtracking.Fancy.isMatch_eq f input
    simp only [Native.matchers, heq]
    rcases Backtracking.Fancy.captures f input with e | found <;> rfl
  fancyLength f input spans h := by
    simp only [Native.matchers] at h
    rcases hf : Backtracking.Fancy.captures f input with e | found
    · rw [hf] at h
      cases h
    · rw [hf] at h
      cases h
      exact (Backtracking.Fancy.length_of_captures hf).trans
        (Backtracking.Fancy.length_groupNames f).symm
  fancyWhole limit text f h := by
    simp only [Native.matchers] at h
    split at h
    · next f' hf =>
      cases h
      exact (Backtracking.Fancy.groupCount_pos hf).trans_eq
        (Backtracking.Fancy.length_groupNames f).symm
    · cases h

end PatternSuite
