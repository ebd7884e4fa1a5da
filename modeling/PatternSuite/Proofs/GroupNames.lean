import PatternSuite.Engine.Native
import PatternSuite.Engine.Scripted
import PatternSuite.Proofs.Calls
import PatternSuite.Proofs.NameViews

/-!
# Group names arrive at the caller

An engine is asked for the number of groups, for the number of names, for the size of an entry and
for the bytes of the name table, each by itself. If it answers all four from one list of groups,
the compiled pattern shows the caller that list: no group is lost, and none gets another's name.

* `namedGroups`, `AnswersFrom`: an engine that answers from one list of groups.
* `describe_eq`: what the compiler makes of the answers.
* `shows_tableOf`: the pattern that comes of it shows the groups.
* `groups_kept`: from the request to the caller, for any engine, the standard and the scripted one
  among them.
-/

namespace PatternSuite

open Text NameTable

variable {κ σ : Type} {groups : List (Option String)}

/-- The named groups of a pattern with their numbers; the first group has number 1. -/
def namedGroups (groups : List (Option String)) : List (String × Nat) :=
  (groups.zipIdx 1).filterMap fun g => g.1.map fun name => (name, g.2)

/-- The engine answers the four questions about a form from one list of groups. -/
structure AnswersFrom (E : Engine κ σ) (form : κ) (groups : List (Option String)) : Prop where
  captureCount : ∀ s, (E.captureCount form s).1 = .ok groups.length
  nameCount : ∀ s, (E.nameCount form s).1 = .ok (namedGroups groups).length
  nameEntrySize : ∀ s, (E.nameEntrySize form s).1 =
    .ok (entrySizeFor ((namedGroups groups).map (·.1)))
  nameTable : ∀ s, (E.nameTable form s).1 =
    match build (namedGroups groups) with
    | some t => .ok t.bytes
    | none => .error groupOverflowCode

/-- Some named group has a number that no entry can hold. -/
def GroupTooGreat (groups : List (Option String)) : Prop :=
  ∃ i name, groups[i]? = some (some name) ∧ 65535 < i + 1

/-- A compiled pattern shows its caller these groups. -/
structure Shows (groups : List (Option String)) (p : CompiledPattern) : Prop where
  captures : p.captures = groups.length
  namedCaptures : p.namedCaptures = (groups.filterMap id).length
  /-- Without names there is no table. -/
  unnamed : groups.filterMap id = [] → p.names = none ∧ p.nameSize = 0
  /-- With names there is one, and its entries have room for the longest. -/
  nameSize : groups.filterMap id ≠ [] → p.names.isSome ∧
    p.nameSize = 3 + ((groups.filterMap id).map String.utf8ByteSize).max?.getD 0
  /-- Behind the whole match, which has no name, stand the groups. -/
  captureNames : p.captureNames.toList = none :: groups
  /-- A name leads to the first group that has it. -/
  captureIndex : ∀ name, p.captureIndex? name = (groups.idxOf? (some name)).map (· + 1)

/-! ## Named groups -/

theorem mem_namedGroups {name : String} {number : Nat} :
    (name, number) ∈ namedGroups groups ↔
      ∃ i, number = i + 1 ∧ groups[i]? = some (some name) := by
  simp only [namedGroups, List.mem_filterMap, Option.map_eq_some_iff, Prod.mk.injEq]
  constructor
  · rintro ⟨⟨g, k⟩, hg, name', rfl, rfl, rfl⟩
    obtain ⟨hle, hlt, hget⟩ := List.mem_zipIdx hg
    refine ⟨k - 1, by omega, ?_⟩
    rw [List.getElem?_eq_getElem (by omega)]
    exact congrArg some hget.symm
  · rintro ⟨i, rfl, hget⟩
    refine ⟨(some name, i + 1), ?_, name, rfl, rfl, rfl⟩
    rw [List.mk_mem_zipIdx_iff_le_and_getElem?_sub]
    exact ⟨by omega, by simpa using hget⟩

theorem map_fst_namedGroups (groups : List (Option String)) :
    (namedGroups groups).map (·.1) = groups.filterMap id := by
  have hfst : groups.filterMap id = ((groups.zipIdx 1).map Prod.fst).filterMap id := by
    rw [List.zipIdx_map_fst]
  rw [hfst, namedGroups, List.map_filterMap, List.filterMap_map]
  refine List.filterMap_congr fun g _ => ?_
  rcases g with ⟨_ | name, k⟩
  · rfl
  · rfl

theorem length_namedGroups (groups : List (Option String)) :
    (namedGroups groups).length = (groups.filterMap id).length := by
  rw [← map_fst_namedGroups, List.length_map]

theorem namedGroups_eq_nil : namedGroups groups = [] ↔ groups.filterMap id = [] := by
  rw [← List.length_eq_zero_iff, length_namedGroups, List.length_eq_zero_iff]

/-- No two named groups have one number. -/
theorem nodup_namedGroups (groups : List (Option String)) :
    ((namedGroups groups).map (·.2)).Nodup := by
  have hsub : ((namedGroups groups).map (·.2)).Sublist ((groups.zipIdx 1).map (·.2)) := by
    rw [namedGroups]
    generalize groups.zipIdx 1 = gs
    induction gs with
    | nil => exact .slnil
    | cons g gs ih =>
      rcases g with ⟨_ | name, k⟩
      · exact ih.cons _
      · exact ih.cons_cons _
  refine List.Nodup.sublist hsub ?_
  rw [List.zipIdx_map_snd]
  exact List.nodup_range'

theorem groupTooGreat_iff : GroupTooGreat groups ↔ ∃ n ∈ namedGroups groups, maxGroup < n.2 := by
  constructor
  · rintro ⟨i, name, hget, hlt⟩
    exact ⟨(name, i + 1), mem_namedGroups.2 ⟨i, rfl, hget⟩, hlt⟩
  · rintro ⟨⟨name, number⟩, hn, hlt⟩
    obtain ⟨i, rfl, hget⟩ := mem_namedGroups.1 hn
    exact ⟨i, name, hget, hlt⟩

/-! ## Answers put together -/

/-- The table of an engine is the one that was built, entry size and bytes asked one by one. -/
theorem ofBytes_entrySizeFor (names : List (String × Nat)) :
    ofBytes (entrySizeFor (names.map (·.1))) (tableOf names).bytes = tableOf names := by
  have hsize : entrySizeFor (names.map (·.1)) = sizeFor names := by
    rw [entrySizeFor, entrySizeOfLengths_eq, sizeFor, List.map_map]
    rfl
  rw [hsize]
  rfl

/-- **What the compiler makes of the answers.** -/
theorem describe_eq {E : Engine κ σ} {form : κ} (h : AnswersFrom E form groups) (id : Nat)
    (source : String) (w : Ledger κ σ) :
    (GroupTooGreat groups → (describe E form id source w).1 =
        .error (.patternInfo .nameTable source groupOverflowCode)) ∧
      (¬ GroupTooGreat groups → (describe E form id source w).1 =
        .ok (groups.length, if namedGroups groups = [] then none
          else some (tableOf (namedGroups groups)))) := by
  unfold describe
  rcases hw : w.ask (.info .captureCount id) (E.captureCount form) with ⟨x, w₁⟩
  obtain rfl : x = .ok groups.length := (congrArg Prod.fst hw).symm.trans (h.captureCount _)
  dsimp only
  by_cases hzero : groups.length = 0
  · obtain rfl := List.length_eq_zero_iff.1 hzero
    refine ⟨fun hgreat => ?_, fun _ => rfl⟩
    obtain ⟨i, name, hget, -⟩ := hgreat
    cases hget
  rw [if_neg hzero]
  rcases hw : w₁.ask (.info .nameCount id) (E.nameCount form) with ⟨x, w₂⟩
  obtain rfl : x = .ok (namedGroups groups).length :=
    (congrArg Prod.fst hw).symm.trans (h.nameCount _)
  dsimp only
  by_cases hnone : namedGroups groups = []
  · rw [if_pos (List.length_eq_zero_iff.2 hnone), if_pos hnone]
    refine ⟨fun hgreat => ?_, fun _ => rfl⟩
    obtain ⟨n, hn, -⟩ := groupTooGreat_iff.1 hgreat
    rw [hnone] at hn
    cases hn
  rw [if_neg (mt List.length_eq_zero_iff.1 hnone), if_neg hnone]
  rcases hw : w₂.ask (.info .nameEntrySize id) (E.nameEntrySize form) with ⟨x, w₃⟩
  obtain rfl : x = .ok (entrySizeFor ((namedGroups groups).map (·.1))) :=
    (congrArg Prod.fst hw).symm.trans (h.nameEntrySize _)
  dsimp only
  rcases hw : w₃.ask (.info .nameTable id) (E.nameTable form) with ⟨x, w₄⟩
  have hx := (congrArg Prod.fst hw).symm.trans (h.nameTable _)
  -- only the table itself can fail, and only for a number that is too great
  rw [build_eq] at hx
  constructor
  · intro hgreat
    rw [if_pos (groupTooGreat_iff.1 hgreat)] at hx
    obtain rfl := hx
    rfl
  · intro hsmall
    rw [if_neg (mt groupTooGreat_iff.2 hsmall)] at hx
    obtain rfl := hx
    dsimp only
    rw [ofBytes_entrySizeFor]

/-! ## What the caller sees -/

/-- The pattern whose table is that of the groups has their names by number. -/
theorem captureNames_eq {p : CompiledPattern} (hcount : p.captures = groups.length)
    (hnames : p.entries.Perm (namedGroups groups)) :
    p.captureNames.toList = none :: groups := by
  have hnodup : (p.entries.map (·.2)).Nodup :=
    ((hnames.map _).nodup_iff).2 (nodup_namedGroups groups)
  have hmem {name : String} {k : Nat} :
      (name, k) ∈ p.entries ↔ ∃ i, k = i + 1 ∧ groups[i]? = some (some name) :=
    hnames.mem_iff.trans mem_namedGroups
  -- a slot that no group has a name for is empty
  have hempty {k : Nat} (hk : k ≤ groups.length) (h : ∀ name, (name, k) ∉ p.entries) :
      p.captureNames[k]? = some none := by
    refine CompiledPattern.captureNames_of_notMem (hcount.symm ▸ hk) fun hin => ?_
    obtain ⟨⟨name, _⟩, hn, rfl⟩ := List.mem_map.1 hin
    exact h name hn
  apply List.ext_getElem?
  intro k
  rw [Array.getElem?_toList]
  rcases k with _ | i
  · rw [hempty (Nat.zero_le _) fun name hn => by obtain ⟨i, hi, -⟩ := hmem.1 hn; omega]
    rfl
  rw [List.getElem?_cons_succ]
  cases hget : groups[i]? with
  | none =>
    have hge := List.getElem?_eq_none_iff.1 hget
    rw [Array.getElem?_eq_none_iff, CompiledPattern.size_captureNames, hcount]
    omega
  | some g =>
    obtain ⟨hlt, -⟩ := List.getElem?_eq_some_iff.1 hget
    cases g with
    | none =>
      exact hempty hlt fun name hn => by obtain ⟨j, hj, hj'⟩ := hmem.1 hn; simp_all
    | some name =>
      exact CompiledPattern.captureNames_of_last (hcount.symm ▸ hlt)
        (lastFor_of_mem hnodup (hmem.2 ⟨i, rfl, hget⟩))

theorem leastGroup_namedGroups (groups : List (Option String)) (name : String) :
    leastGroup (namedGroups groups) name = (groups.idxOf? (some name)).map (· + 1) := by
  apply Option.ext
  intro k
  rw [leastGroup_eq_some, Option.map_eq_some_iff]
  constructor
  · rintro ⟨hmem, hleast⟩
    obtain ⟨i, rfl, hget⟩ := mem_namedGroups.1 hmem
    obtain ⟨hlt, hi⟩ := List.getElem?_eq_some_iff.1 hget
    refine ⟨i, List.idxOf?_eq_some_iff.2 ⟨hlt, hi, fun j hj hname => ?_⟩, rfl⟩
    have hj' := hleast (j + 1) (mem_namedGroups.2 ⟨j, rfl, List.getElem?_eq_some_iff.2
      ⟨by omega, hname⟩⟩)
    omega
  · rintro ⟨i, hidx, rfl⟩
    obtain ⟨hlt, hi, hbefore⟩ := List.idxOf?_eq_some_iff.1 hidx
    refine ⟨mem_namedGroups.2 ⟨i, rfl, List.getElem?_eq_some_iff.2 ⟨hlt, hi⟩⟩, fun k hk => ?_⟩
    obtain ⟨j, rfl, hj⟩ := mem_namedGroups.1 hk
    obtain ⟨hjlt, hj⟩ := List.getElem?_eq_some_iff.1 hj
    by_contra hless
    exact hbefore j (by omega) hj

/-- **The caller sees the groups.** -/
theorem shows_tableOf (form : Nat) (source : String) (hsmall : ¬ GroupTooGreat groups)
    (hfree : ∀ name, some name ∈ groups → '\x00' ∉ name.toList) :
    Shows groups ⟨form, source, groups.length,
      if namedGroups groups = [] then none else some (tableOf (namedGroups groups))⟩ := by
  have hfits : ∀ n ∈ namedGroups groups, n.2 ≤ maxGroup := fun n hn =>
    Nat.le_of_not_lt fun hlt => hsmall (groupTooGreat_iff.2 ⟨n, hn, hlt⟩)
  have hnul : NulFree (namedGroups groups) := by
    rintro ⟨name, k⟩ hn
    obtain ⟨i, -, hget⟩ := mem_namedGroups.1 hn
    exact hfree name (List.mem_of_getElem? hget)
  have hsize : ((namedGroups groups).map (·.1.utf8ByteSize)) =
      (groups.filterMap id).map String.utf8ByteSize := by
    rw [← map_fst_namedGroups, List.map_map]
    rfl
  have hholds := holds_tableOf hfits
  by_cases hnone : namedGroups groups = []
  · have hnames := namedGroups_eq_nil.1 hnone
    rw [if_pos hnone]
    refine ⟨rfl, ?_, fun _ => ⟨rfl, rfl⟩, fun h => absurd hnames h, ?_, fun name => ?_⟩
    · rw [hnames]
      rfl
    · exact captureNames_eq rfl (by rw [hnone]; exact .refl _)
    · rw [← leastGroup_namedGroups, hnone]
      rfl
  · have hnames := mt namedGroups_eq_nil.2 hnone
    rw [if_neg hnone]
    refine ⟨rfl, ?_, fun h => absurd h hnames, fun _ => ⟨rfl, ?_⟩, ?_, fun name => ?_⟩
    · exact hholds.length.trans (length_namedGroups groups)
    · exact hholds.entrySize.trans (by rw [hsize])
    · refine captureNames_eq rfl ?_
      simp only [CompiledPattern.entries, Option.map_some, Option.getD_some]
      rw [hholds.whole hnul]
      exact sortedNames_perm _
    · exact (hholds.group hnul name).trans (leastGroup_namedGroups groups name)

/-! ## From the request to the caller -/

/-- The standard engine answers from the groups behind the whole match. -/
theorem Standard.answersFrom (M : Matchers) (s : Standard.Settings) {f : Standard.Form M}
    (h : f.groups = none :: groups) : AnswersFrom (Standard.engine M s) f groups := by
  have hnamed : f.named = namedGroups groups := by
    rw [Standard.Form.named, h]
    rfl
  refine ⟨fun _ => ?_, fun _ => ?_, fun _ => ?_, fun _ => ?_⟩
  · simp [Standard.engine, h]
  · simp [Standard.engine, hnamed]
  · simp [Standard.engine, hnamed]
  · rw [← hnamed]
    rfl

/-- The scripted engine answers from the groups of its script, unless a failure is scripted. -/
theorem Script.answersFrom (script : Script) {f : ScriptedForm}
    (h : Script.lookup f.pattern script.infoFailures = none) :
    AnswersFrom script.engine f ((Script.lookup f.pattern script.groups).getD []) := by
  refine ⟨fun _ => ?_, fun _ => ?_, fun _ => ?_, fun _ => ?_⟩
  · simp [Script.engine, Script.info, h]
  · simp [Script.engine, Script.info, h, Script.names, namedGroups]
  · simp [Script.engine, Script.info, h, Script.names, namedGroups]
  · simp only [Script.engine, Script.info, h]
    rfl

/-- **Group names arrive at the caller.** Whatever engine answers all questions about an accepted
pattern from one list of groups: if a named group has a number that no entry can hold, the
compilation fails, with the query and the code that say so; otherwise it succeeds, and the caller
sees the groups. The standard engine answers so, as its matchers have the whole match without a
name in front of the groups; so does the scripted one where no failure is scripted. -/
theorem groups_kept :
    (∀ {κ σ : Type} (E : Engine κ σ) (c : Compiler) (request : CompileRequest) (w : Ledger κ σ)
        (form : κ) (groups : List (Option String)),
        request.pattern.isEmpty = false →
        (E.compile request.pattern request.options w.state).1 = .ok form →
        AnswersFrom E form groups →
        (∀ name, some name ∈ groups → '\x00' ∉ name.toList) →
        (GroupTooGreat groups → (c.compile E request w).1 =
            .error (.patternInfo .nameTable request.pattern.text groupOverflowCode)) ∧
          (¬ GroupTooGreat groups → ∃ p, (c.compile E request w).1 = .ok p ∧ Shows groups p)) ∧
      (∀ (M : Matchers) (s : Standard.Settings) (f : Standard.Form M)
        (groups : List (Option String)),
        f.groups = none :: groups → AnswersFrom (Standard.engine M s) f groups) ∧
      ∀ (script : Script) (f : ScriptedForm),
        Script.lookup f.pattern script.infoFailures = none →
        AnswersFrom script.engine f ((Script.lookup f.pattern script.groups).getD []) := by
  refine ⟨?_, fun M s f groups => Standard.answersFrom M s, fun script f => script.answersFrom⟩
  intro κ σ E c request w form groups hne hform hanswers hfree
  have hout := (compile_compilation E request c w true).eq_outcome (.inl rfl)
  obtain ⟨hgreat, hsmall⟩ := describe_eq hanswers w.compiled request.pattern.text
    (adopted E request.pattern request.options form w)
  simp only [compileOutcome, hne, hform] at hout
  rw [hout]
  constructor
  · intro h
    rw [hgreat h]
    rfl
  · intro h
    rw [hsmall h]
    exact ⟨_, rfl, shows_tableOf w.compiled request.pattern.text h hfree⟩

/-- A script with three groups, two of them of one name, and a basic pattern with one group. -/
theorem groups_kept_both :
    let script : Script := { groups := [("p", [some "b", none, some "b"])] }
    let f : Standard.Form Native.matchers :=
      ⟨.basic (.ofNode (.capture 1 (some "user") (.literal ['a']))), "(?P<user>a)", {}, none⟩
    (Script.lookup "p" script.infoFailures = none ∧
        ∃ p, (Compiler.opened.compile script.engine ⟨⟨.basic, "p"⟩, {}, .default⟩
          { state := () }).1 = .ok p ∧ Shows [some "b", none, some "b"] p) ∧
      f.groups = none :: [some "user"] ∧ AnswersFrom (standardEngine {}) f [some "user"] := by
  intro script f
  have hgroups : f.groups = none :: [some "user"] := rfl
  have hanswers := groups_kept.2.2 script ⟨"p", false⟩ rfl
  have hsmall : ¬ GroupTooGreat [some "b", none, some "b"] := by
    rintro ⟨i, name, hget, hlt⟩
    obtain ⟨hi, -⟩ := List.getElem?_eq_some_iff.1 hget
    simp at hi
    omega
  refine ⟨⟨rfl, ?_⟩, hgroups, groups_kept.2.1 Native.matchers {} f _ hgroups⟩
  refine (groups_kept.1 script.engine .opened ⟨⟨.basic, "p"⟩, {}, .default⟩ { state := () }
    ⟨"p", false⟩ _ (by decide) rfl hanswers fun name hname => ?_).2 hsmall
  obtain rfl : name = "b" := by simpa [Script.lookup, script] using hname
  decide

end PatternSuite
