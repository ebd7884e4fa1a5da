import Mathlib.Data.List.Basic
import PatternSuite.Session

/-!
# The flag is set once

A directive sets the flag of a configuration if it is still unset. One that is refused leaves the
flag as it is, so an invalid value is no obstacle to a later valid one. A flag that is set stays
set, also when it is switched off because the engine cannot optimize, and then no directive is
accepted any more. Only setting the flag switches it on, so behind a check it is on only if the
engine can optimize, until it is set again.

* `flag?_eq_true_iff`, `flag?_eq_false_iff`: the values of a flag.
* `ConfigStep`, `Config.run`, `Config.answers`: what can be done to a configuration, and runs.
* `Config.step_accepted`, `Config.step_refused`: what a directive comes to.
* `Config.run_unset_iff`: what leaves the flag unset.
* `FirstDecides`, `Checked`, `SetOnce`: directives alone, checks, and any runs.
* `Session.config_run`: the configuration of a session.
* `directive_set_once`: any configuration.
-/

namespace PatternSuite

/-! ## Values -/

/-- The number of a small letter is that of its capital and 32. -/
theorem toNat_toLower (c : Char) :
    c.toLower.toNat = if 65 ≤ c.toNat ∧ c.toNat ≤ 90 then c.toNat + 32 else c.toNat := by
  have hcapital : c.val ≥ 'A'.val ∧ c.val ≤ 'Z'.val ↔ 65 ≤ c.toNat ∧ c.toNat ≤ 90 :=
    and_congr UInt32.le_iff_toNat_le UInt32.le_iff_toNat_le
  rw [← if_congr hcapital rfl rfl]
  unfold Char.toLower
  split
  · next h =>
    have hle : c.val.toNat ≤ 90 := (hcapital.1 h).2
    have hstep : ('a'.val - 'A'.val).toNat = 32 := rfl
    have hsum : (c.val + ('a'.val - 'A'.val)).toNat = c.val.toNat + 32 := by
      rw [UInt32.toNat_add, hstep]
      omega
    exact hsum
  · rfl

/-- Only a small letter and its capital come to the small letter. -/
theorem toLower_eq_iff {letter : Char × Char} (hcapital : 65 ≤ letter.2.toNat)
    (hcapital' : letter.2.toNat ≤ 90) (hsmall : letter.1.toNat = letter.2.toNat + 32) (c : Char) :
    c.toLower = letter.1 ↔ c = letter.1 ∨ c = letter.2 := by
  rw [← Char.toNat_inj, ← Char.toNat_inj, ← Char.toNat_inj, toNat_toLower]
  split <;> omega

/-- The ways to write a word, each letter of which is given with its capital. -/
def spellings : List (Char × Char) → List (List Char)
  | [] => [[]]
  | l :: ls => (spellings ls).map (l.1 :: ·) ++ (spellings ls).map (l.2 :: ·)

/-- What comes to a word in small letters is a way to write it. -/
theorem map_toLower_eq_iff {letters : List (Char × Char)}
    (h : ∀ l ∈ letters, 65 ≤ l.2.toNat ∧ l.2.toNat ≤ 90 ∧ l.1.toNat = l.2.toNat + 32)
    (cs : List Char) : cs.map Char.toLower = letters.map (·.1) ↔ cs ∈ spellings letters := by
  induction letters generalizing cs with
  | nil => simp [spellings]
  | cons l letters ih =>
    obtain ⟨⟨hcapital, hcapital', hsmall⟩, hletters⟩ := List.forall_mem_cons.1 h
    cases cs with
    | nil => simp [spellings]
    | cons c cs =>
      have hfirst := toLower_eq_iff hcapital hcapital' hsmall c
      rw [List.map_cons, List.map_cons, List.cons.injEq, hfirst, ih hletters, or_and_right]
      simp [spellings, eq_comm, and_comm]

namespace Config

/-- A value comes to a word in small letters just if it is one of the ways to write it. -/
theorem lowerAscii_eq_iff (letters : List (Char × Char))
    (h : ∀ l ∈ letters, 65 ≤ l.2.toNat ∧ l.2.toNat ≤ 90 ∧ l.1.toNat = l.2.toNat + 32)
    {word : String} (hword : word.toList = letters.map (·.1)) {words : List String}
    (hwords : words.map String.toList = spellings letters) {value : String} :
    lowerAscii value = word ↔ value ∈ words := by
  rw [← String.toList_inj, lowerAscii, String.toList_ofList, hword, map_toLower_eq_iff h, ← hwords,
    List.mem_map_of_injective fun _ _ => String.toList_injective]

theorem flag?_eq_some_iff {value : String} {b : Bool} :
    flag? value = some b ↔ lowerAscii value = if b then "on" else "off" := by
  rw [flag?]
  by_cases hon : lowerAscii value = "on"
  · cases b <;> simp [hon]
  by_cases hoff : lowerAscii value = "off"
  · cases b <;> simp [hoff]
  · cases b <;> simp [hon, hoff]

/-- **The values that switch the flag on.** -/
theorem flag?_eq_true_iff {value : String} :
    flag? value = some true ↔ value ∈ ["on", "oN", "On", "ON"] :=
  flag?_eq_some_iff.trans
    (lowerAscii_eq_iff [('o', 'O'), ('n', 'N')] (by decide) (by decide) (by decide))

/-- **The values that switch the flag off.** -/
theorem flag?_eq_false_iff {value : String} :
    flag? value = some false ↔
      value ∈ ["off", "ofF", "oFf", "oFF", "Off", "OfF", "OFf", "OFF"] :=
  flag?_eq_some_iff.trans
    (lowerAscii_eq_iff [('o', 'O'), ('f', 'F'), ('f', 'F')] (by decide) (by decide) (by decide))

end Config

/-! ## Steps -/

/-- What can be done to a configuration. -/
inductive ConfigStep
  /-- Apply a directive. -/
  | directive (name value : String)
  /-- Set the flag. -/
  | withJit (enabled : Bool)
  /-- Check the flag against an engine, which may be able to optimize. -/
  | validate (jitAvailable : Bool)
  /-- Settle the flag. -/
  | init
  deriving DecidableEq, Repr

/-- The flag that a step gives to a configuration without one, if it gives it one. -/
def ConfigStep.flag? : ConfigStep → Option Bool
  | .directive name value => if name = jitDirective then Config.flag? value else none
  | .withJit enabled => some enabled
  | .validate _ => none
  | .init => some false

/-- The refusal of a directive by a configuration whose flag may be set. -/
def refusal (set : Bool) (name value : String) : PatternError :=
  if name ≠ jitDirective then .unknownDirective name
  else if set then .duplicateDirective name
  else .invalidFlag name value

namespace Config

variable {c : Config}

/-- A step, and its answer. What is refused leaves the configuration as it is. -/
def step (c : Config) : ConfigStep → Except PatternError Unit × Config
  | .directive name value =>
    match c.applyDirective name value with
    | .ok c' => (.ok (), c')
    | .error e => (.error e, c)
  | .withJit enabled => (.ok (), c.withJit enabled)
  | .validate jitAvailable => (.ok (), (c.validate jitAvailable).1)
  | .init => (.ok (), c.init)

/-- The configuration after some steps. -/
def run (c : Config) (steps : List ConfigStep) : Config :=
  steps.foldl (fun c st => (c.step st).2) c

/-- What the steps of a run answer. -/
def answers (c : Config) : List ConfigStep → List (Except PatternError Unit)
  | [] => []
  | st :: steps => (c.step st).1 :: answers (c.step st).2 steps

/-- Only a directive is refused, and then nothing changes. -/
theorem step_error {st : ConfigStep} {e : PatternError} (h : (c.step st).1 = .error e) :
    (c.step st).2 = c := by
  cases st with
  | directive name value =>
    simp only [step] at h ⊢
    split
    · next heq => simp [heq] at h
    · rfl
  | withJit => cases h
  | validate => cases h
  | init => cases h

/-- **A directive** is accepted if the flag is unset and the value is one for it. -/
theorem step_accepted {name value : String} {b : Bool} (hunset : c.jit = none)
    (hflag : (ConfigStep.directive name value).flag? = some b) :
    c.step (.directive name value) = (.ok (), ⟨some b⟩) := by
  obtain ⟨rfl, hvalue⟩ : name = jitDirective ∧ Config.flag? value = some b := by
    simpa [ConfigStep.flag?] using hflag
  simp [step, applyDirective, hunset, hvalue]

/-- **Any other directive** is refused: its name is looked at first, and then the flag. -/
theorem step_refused {name value : String}
    (h : c.jit = none → (ConfigStep.directive name value).flag? = none) :
    c.step (.directive name value) = (.error (refusal c.jit.isSome name value), c) := by
  by_cases hname : name = jitDirective
  · subst hname
    cases hjit : c.jit with
    | none =>
      have hvalue : Config.flag? value = none := by simpa [ConfigStep.flag?] using h hjit
      simp [step, applyDirective, refusal, hjit, hvalue]
    | some b => simp [step, applyDirective, refusal, hjit]
  · simp [step, applyDirective, refusal, hname]

/-- A step leaves the flag unset if it gives none. -/
theorem step_unset_iff (st : ConfigStep) :
    (c.step st).2.jit = none ↔ c.jit = none ∧ st.flag? = none := by
  cases st with
  | directive name value =>
    by_cases hset : c.jit = none → (ConfigStep.directive name value).flag? = none
    · rw [step_refused hset]
      exact ⟨fun hunset => ⟨hunset, hset hunset⟩, And.left⟩
    · obtain ⟨hunset, hflag⟩ := Classical.not_imp.1 hset
      obtain ⟨b, hb⟩ := Option.ne_none_iff_exists'.1 hflag
      simp [step_accepted hunset hb, hb]
  | withJit enabled => simp [step, withJit, ConfigStep.flag?]
  | validate jitAvailable =>
    simp only [step, validate, ConfigStep.flag?, and_true]
    split
    · next hoff => simp_all
    · rfl
  | init => simp [step, init, ConfigStep.flag?]

end Config

/-! ## Runs -/

namespace Config

variable {c : Config}

theorem run_append (c : Config) (steps more : List ConfigStep) :
    c.run (steps ++ more) = (c.run steps).run more := List.foldl_append

theorem answers_append (c : Config) (steps more : List ConfigStep) :
    c.answers (steps ++ more) = c.answers steps ++ (c.run steps).answers more := by
  induction steps generalizing c with
  | nil => rfl
  | cons st steps ih => exact congrArg _ (ih (c.step st).2)

/-- **The flag is unset** as long as no step has given one. -/
theorem run_unset_iff (steps : List ConfigStep) :
    (c.run steps).jit = none ↔ c.jit = none ∧ ∀ st ∈ steps, st.flag? = none := by
  induction steps generalizing c with
  | nil => simp [run]
  | cons st steps ih =>
    have htail := ih (c := (c.step st).2)
    rw [step_unset_iff, and_assoc] at htail
    rw [List.forall_mem_cons]
    exact htail

/-- Can the step switch the flag on? Either the flag is set or a directive is accepted. -/
def Sets (c : Config) : ConfigStep → Prop
  | .directive name value => (c.step (.directive name value)).1 = .ok ()
  | .withJit _ => True
  | .validate _ => False
  | .init => False

/-- The flag is not set in a run, and no directive is accepted. -/
def Quiet (c : Config) : List ConfigStep → Prop
  | [] => True
  | st :: steps => ¬ c.Sets st ∧ Quiet (c.step st).2 steps

end Config

/-- A call of a directive with a name and a value. -/
def directiveStep (call : String × String) : ConfigStep := .directive call.1 call.2

/-- The refusal of a call. -/
def refused (set : Bool) (call : String × String) : Except PatternError Unit :=
  .error (refusal set call.1 call.2)

/-- **The first valid directive decides.** If the flag is set at the beginning, all directives are
refused. Otherwise those before the first valid one are refused for their name or their value, that
one is accepted and gives the flag, and those behind it are refused for their name or because they
come a second time. -/
structure FirstDecides (c : Config) (calls : List (String × String)) : Prop where
  set : c.jit ≠ none →
    c.answers (calls.map directiveStep) = calls.map (refused true) ∧
      c.run (calls.map directiveStep) = c
  unset : c.jit = none → (∀ call ∈ calls, (directiveStep call).flag? = none) →
    c.answers (calls.map directiveStep) = calls.map (refused false) ∧
      c.run (calls.map directiveStep) = c
  first : c.jit = none → ∀ before call after b, calls = before ++ call :: after →
    (∀ d ∈ before, (directiveStep d).flag? = none) → (directiveStep call).flag? = some b →
      c.answers (calls.map directiveStep) =
          before.map (refused false) ++ .ok () :: after.map (refused true) ∧
        c.run (calls.map directiveStep) = ⟨some b⟩

/-- **Checks.** Settling the flag does not switch it. After a check it is on if it was on and the
engine can optimize, and a second check finds nothing to do. Whether the flag is settled before or
after the check does not matter. -/
structure Checked (c : Config) (jitAvailable : Bool) : Prop where
  init : c.init.jitEnabled = c.jitEnabled
  validate : (c.validate jitAvailable).1.jitEnabled = (c.jitEnabled && jitAvailable)
  idempotent :
    (c.validate jitAvailable).1.validate jitAvailable = ((c.validate jitAvailable).1, [])
  commutes : c.init.validate jitAvailable =
    ((c.validate jitAvailable).1.init, (c.validate jitAvailable).2)

/-- **Any runs.** The flag is unset as long as no step has given one, and just then a valid directive
is accepted. Behind a step that gives one, as settling does, all directives are refused. Behind a
check the flag is on only if the engine can optimize, unless the flag is set again or a directive is
accepted. -/
structure SetOnce (c : Config) (steps : List ConfigStep) : Prop where
  unset_iff : (c.run steps).jit = none ↔ c.jit = none ∧ ∀ st ∈ steps, st.flag? = none
  accepted_iff : ∀ name value, ((c.run steps).step (.directive name value)).1 = .ok () ↔
    c.jit = none ∧ (∀ st ∈ steps, st.flag? = none) ∧
      (ConfigStep.directive name value).flag? ≠ none
  refused : ∀ st ∈ steps, st.flag? ≠ none → ∀ name value,
    (c.run steps).step (.directive name value) =
      (.error (refusal true name value), c.run steps)
  capable : ∀ before jitAvailable after, steps = before ++ .validate jitAvailable :: after →
    (c.run (before ++ [.validate jitAvailable])).Quiet after →
      (c.run steps).jitEnabled = true → jitAvailable = true

section Laws

variable {c : Config}

/-- Directives that are all refused leave the configuration as it is. -/
theorem answers_refused {calls : List (String × String)}
    (h : c.jit = none → ∀ call ∈ calls, (directiveStep call).flag? = none) :
    c.answers (calls.map directiveStep) = calls.map (refused c.jit.isSome) ∧
      c.run (calls.map directiveStep) = c := by
  induction calls with
  | nil => exact ⟨rfl, rfl⟩
  | cons call calls ih =>
    have hcall : c.step (directiveStep call) = (refused c.jit.isSome call, c) :=
      Config.step_refused fun hunset => h hunset call List.mem_cons_self
    obtain ⟨hanswers, hrun⟩ := ih fun hunset d hd => h hunset d (List.mem_cons_of_mem call hd)
    constructor
    · rw [List.map_cons, List.map_cons, Config.answers, hcall, hanswers]
    · rw [List.map_cons, Config.run, List.foldl_cons, hcall, ← Config.run, hrun]

theorem firstDecides (c : Config) (calls : List (String × String)) : FirstDecides c calls where
  set hset := by
    have hsome : c.jit.isSome = true := Option.isSome_iff_ne_none.2 hset
    exact hsome ▸ answers_refused fun hunset => absurd hunset hset
  unset hunset hnone := by
    have hsome : c.jit.isSome = false := by rw [hunset]; rfl
    exact hsome ▸ answers_refused fun _ => hnone
  first hunset before call after b hcalls hbefore hcall := by
    -- the calls before the first valid one meet an unset flag, and those behind it a set one
    subst hcalls
    have hsome : c.jit.isSome = false := by rw [hunset]; rfl
    have hset : (⟨some b⟩ : Config).jit = none → ∀ d ∈ after, (directiveStep d).flag? = none :=
      fun hunset => nomatch hunset
    obtain ⟨hanswers, hrun⟩ := answers_refused fun _ : c.jit = none => hbefore
    obtain ⟨hanswers', hrun'⟩ := answers_refused hset
    have hstep : c.step (directiveStep call) = (.ok (), ⟨some b⟩) :=
      Config.step_accepted hunset hcall
    constructor
    · rw [List.map_append, Config.answers_append, hanswers, hrun, hsome, List.map_cons,
        Config.answers, hstep, hanswers']
      rfl
    · rw [List.map_append, Config.run_append, hrun, List.map_cons, Config.run, List.foldl_cons,
        hstep, ← Config.run, hrun']

theorem checked (c : Config) (jitAvailable : Bool) : Checked c jitAvailable := by
  obtain ⟨_ | _ | _⟩ := c <;> cases jitAvailable <;> exact ⟨rfl, rfl, rfl, rfl⟩

/-- Only setting the flag and accepting a directive can switch the flag on. -/
theorem jitEnabled_step {st : ConfigStep} (h : ¬ c.Sets st)
    (hon : (c.step st).2.jitEnabled = true) : c.jitEnabled = true := by
  cases st with
  | directive name value =>
    cases hanswer : (c.step (.directive name value)).1 with
    | error e => rwa [Config.step_error hanswer] at hon
    | ok u => exact absurd hanswer h
  | withJit enabled => exact absurd trivial h
  | validate jitAvailable =>
    have hboth := (checked c jitAvailable).validate.symm.trans hon
    exact (Bool.and_eq_true_iff.1 hboth).1
  | init => exact (checked c true).init.symm.trans hon

theorem jitEnabled_run {steps : List ConfigStep} (h : c.Quiet steps)
    (hon : (c.run steps).jitEnabled = true) : c.jitEnabled = true := by
  induction steps generalizing c with
  | nil => exact hon
  | cons st steps ih => exact jitEnabled_step h.1 (ih h.2 hon)

theorem setOnce (c : Config) (steps : List ConfigStep) : SetOnce c steps where
  unset_iff := Config.run_unset_iff steps
  accepted_iff name value := by
    rw [← and_assoc, ← Config.run_unset_iff]
    constructor
    · intro hok
      by_contra hnot
      rw [Config.step_refused (by simpa using hnot)] at hok
      cases hok
    · rintro ⟨hunset, hflag⟩
      obtain ⟨b, hb⟩ := Option.ne_none_iff_exists'.1 hflag
      rw [Config.step_accepted hunset hb]
  refused st hst hflag name value := by
    have hset : (c.run steps).jit ≠ none := fun hunset =>
      hflag (((Config.run_unset_iff steps).1 hunset).2 st hst)
    rw [Config.step_refused fun hunset => absurd hunset hset, Option.isSome_iff_ne_none.2 hset]
  capable before jitAvailable after hsteps hquiet hon := by
    -- what is on at the end was on behind the check already
    rw [hsteps, ← List.singleton_append, ← List.append_assoc, Config.run_append] at hon
    have hchecked := jitEnabled_run hquiet hon
    rw [Config.run_append] at hchecked
    have hboth := (checked (c.run before) jitAvailable).validate.symm.trans hchecked
    exact (Bool.and_eq_true_iff.1 hboth).2

end Laws

/-! ## Sessions -/

/-- What a step of a session does to its configuration. -/
def ConfigStep.ofStep? (jitAvailable : Bool) : Step → Option ConfigStep
  | .directive name value => some (.directive name value)
  | .withJit enabled => some (.withJit enabled)
  | .validate => some (.validate jitAvailable)
  | .init => some .init
  | _ => none

/-- What the configuration said, if the answer is one of it. -/
def Answer.config? : Answer → Option (Except PatternError Unit)
  | .config outcome => some outcome
  | _ => none

namespace Session

variable {κ σ : Type} {E : Engine κ σ} {s : Session κ σ}

theorem config_foldl_release (s : Session κ σ) (handles : List String) :
    (handles.foldl release s).config = s.config := by
  induction handles generalizing s with
  | nil => rfl
  | cons handle handles ih =>
    rw [List.foldl_cons, ih, release]
    split <;> rfl

theorem config_exec (E : Engine κ σ) (p : CompiledPattern) (input : String)
    (into : CaptureTarget) (s : Session κ σ) :
    (s.exec E p input into).2.config = s.config ∧
      (s.exec E p input into).1.config? = none := by
  cases into with
  | nowhere => exact ⟨rfl, rfl⟩
  | fresh capacity => exact ⟨rfl, rfl⟩
  | fitted => exact ⟨rfl, rfl⟩
  | held name =>
    unfold exec
    dsimp only
    split <;> exact ⟨rfl, rfl⟩

/-- Other steps have nothing to do with the configuration. -/
theorem config_step_other {st : Step}
    (h : ConfigStep.ofStep? E.jitAvailable st = none) :
    (s.step E st).2.config = s.config ∧ (s.step E st).1.config? = none := by
  cases st
  case directive => cases h
  case withJit => cases h
  case validate => cases h
  case init => cases h
  -- letting go and matching are functions of their own
  case drop handles => exact ⟨config_foldl_release s handles, rfl⟩
  case exec handle input into =>
    unfold step
    dsimp only
    split
    · exact ⟨rfl, rfl⟩
    · exact config_exec E _ input into s
  all_goals
    unfold step
    dsimp only
    repeat' split
    all_goals exact ⟨rfl, rfl⟩

theorem config_step {st : Step} {cs : ConfigStep}
    (h : ConfigStep.ofStep? E.jitAvailable st = some cs) :
    (s.step E st).2.config = (s.config.step cs).2 ∧
      (s.step E st).1.config? = some (s.config.step cs).1 := by
  cases st <;> cases h
  case directive name value =>
    cases happlied : s.config.applyDirective name value <;>
      simp [step, Config.step, happlied, Answer.config?]
  all_goals exact ⟨rfl, rfl⟩

/-- **The configuration of a session** is what the steps that concern it make of it, and so are their
answers. -/
theorem config_run (E : Engine κ σ) (s : Session κ σ) (steps : List Step) :
    (run E s steps).config =
        s.config.run (steps.filterMap (ConfigStep.ofStep? E.jitAvailable)) ∧
      (answers E s steps).filterMap Answer.config? =
        s.config.answers (steps.filterMap (ConfigStep.ofStep? E.jitAvailable)) := by
  induction steps generalizing s with
  | nil => exact ⟨rfl, rfl⟩
  | cons st steps ih =>
    obtain ⟨hconfig, hanswers⟩ := ih (s.step E st).2
    cases hst : ConfigStep.ofStep? E.jitAvailable st with
    | none =>
      obtain ⟨hkept, hother⟩ := config_step_other (s := s) hst
      rw [List.filterMap_cons_none hst, ← hkept]
      exact ⟨hconfig, (List.filterMap_cons_none hother).trans hanswers⟩
    | some cs =>
      obtain ⟨hstep, hanswer⟩ := config_step (s := s) hst
      rw [hstep] at hconfig hanswers
      rw [List.filterMap_cons_some hst]
      refine ⟨hconfig, (List.filterMap_cons_some hanswer).trans ?_⟩
      rw [hanswers]
      rfl

end Session

/-- **The flag is set once, and only an engine that can optimize runs with it.** The flag is given by
`on` and `off` in any case. Any configuration keeps what a refused step finds; of any directives the
first valid one decides; checks and settling go together, however often they are done; and this is
so in any runs, as in those of sessions. -/
theorem directive_set_once (c : Config) :
    (∀ value, Config.flag? value = some true ↔ value ∈ ["on", "oN", "On", "ON"]) ∧
      (∀ value, Config.flag? value = some false ↔
        value ∈ ["off", "ofF", "oFf", "oFF", "Off", "OfF", "OFf", "OFF"]) ∧
      (∀ st e, (c.step st).1 = .error e → (c.step st).2 = c) ∧
      (∀ calls, FirstDecides c calls) ∧
      (∀ jitAvailable, Checked c jitAvailable) ∧
      (∀ steps, SetOnce c steps) ∧
      ∀ {κ σ : Type} (E : Engine κ σ) (s : Session κ σ) (steps : List Step), s.config = c →
        (s.run E steps).config =
            c.run (steps.filterMap (ConfigStep.ofStep? E.jitAvailable)) ∧
          (s.answers E steps).filterMap Answer.config? =
            c.answers (steps.filterMap (ConfigStep.ofStep? E.jitAvailable)) := by
  refine ⟨fun _ => Config.flag?_eq_true_iff, fun _ => Config.flag?_eq_false_iff,
    fun _ _ => Config.step_error, firstDecides c, checked c, setOnce c, ?_⟩
  rintro κ σ E s steps rfl
  exact Session.config_run E s steps

/-- Directives with a name that is not known, with a value that cannot be read, with a valid one and
again; and a check that switches the flag off, behind which no directive is accepted. -/
theorem directive_set_once_again :
    let calls := [("pcre_study", "on"), ("pcre_jit", "yes"), ("pcre_jit", "oN"), ("pcre_jit", "no")]
    let steps : List ConfigStep := [.directive "pcre_jit" "ON", .validate false, .init]
    ({} : Config).answers (calls.map directiveStep) =
        [.error (.unknownDirective "pcre_study"), .error (.invalidFlag "pcre_jit" "yes"), .ok (),
          .error (.duplicateDirective "pcre_jit")] ∧
      ({} : Config).run (calls.map directiveStep) = ⟨some true⟩ ∧
      (({} : Config).run steps).jitEnabled = false ∧
      (({} : Config).run steps).step (.directive "pcre_jit" "on") =
        (.error (.duplicateDirective "pcre_jit"), ({} : Config).run steps) := by
  intro calls steps
  obtain ⟨-, -, -, hcalls, -, hruns, -⟩ := directive_set_once {}
  obtain ⟨hanswers, hrun⟩ := (hcalls calls).first rfl [("pcre_study", "on"), ("pcre_jit", "yes")]
    ("pcre_jit", "oN") [("pcre_jit", "no")] true rfl (by decide) (by decide)
  have hoff : (({} : Config).run steps).jitEnabled ≠ true := fun hon =>
    nomatch (hruns steps).capable [.directive "pcre_jit" "ON"] false [.init] rfl
      ⟨not_false, trivial⟩ hon
  refine ⟨hanswers, hrun, Bool.eq_false_iff.2 hoff, ?_⟩
  exact (hruns steps).refused (.directive "pcre_jit" "ON") (by decide) (by decide) "pcre_jit" "on"

end PatternSuite
