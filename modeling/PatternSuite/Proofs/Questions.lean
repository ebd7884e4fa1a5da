import PatternSuite.Engine.Canned
import PatternSuite.Proofs.Calls

/-!
# A compilation asks no more than it needs

A compilation has five questions to its engine, in a fixed order: for a form, for the number of
groups, for the number of names, for the size of an entry and for the table of names. It asks one
after the other, up to the first answer that settles it: a failure, or a number of groups or names
that is zero. Nothing is assumed of the answers, so the engine may contradict itself.

* `upTo`: a list up to the first element that stops it.
* `Reply`, `replies`: what an engine answers to all questions, each put after those before it.
* `heard`: the answers up to the first that settles the compilation.
* `describe_heard`: what the questions about captures come to.
* `Compilation.heard`: what a compilation comes to.
* `questions_asked`: any compilation.
-/

namespace PatternSuite

open Ledger

variable {κ σ : Type}

/-! ## Asking up to an answer -/

section UpTo

variable {α : Type} {stop : α → Bool} {l : List α}

/-- A list up to and including the first element that stops it. -/
def upTo (stop : α → Bool) : List α → List α
  | [] => []
  | a :: l => a :: if stop a then [] else upTo stop l

theorem upTo_cons_of_stop {a : α} (h : stop a = true) (l : List α) : upTo stop (a :: l) = [a] := by
  rw [upTo, if_pos h]

theorem upTo_cons_of_go {a : α} (h : stop a = false) (l : List α) :
    upTo stop (a :: l) = a :: upTo stop l := by
  rw [upTo, if_neg (by simp [h])]

theorem isPrefix_upTo (stop : α → Bool) (l : List α) : upTo stop l <+: l := by
  induction l with
  | nil => exact List.prefix_refl _
  | cons a l ih =>
    cases h : stop a with
    | true => rw [upTo_cons_of_stop h]; exact ⟨l, rfl⟩
    | false => rw [upTo_cons_of_go h]; exact List.cons_prefix_cons.2 ⟨rfl, ih⟩

/-- Nothing stops before the end. -/
theorem go_of_mem_dropLast_upTo {a : α} (h : a ∈ (upTo stop l).dropLast) : stop a = false := by
  induction l with
  | nil => cases h
  | cons b l ih =>
    cases hb : stop b with
    | true =>
      rw [upTo_cons_of_stop hb] at h
      cases h
    | false =>
      rw [upTo_cons_of_go hb] at h
      rcases hl : upTo stop l with _ | ⟨c, cs⟩
      · rw [hl] at h
        cases h
      · rw [hl, List.dropLast_cons_cons] at h
        rcases List.mem_cons.1 h with rfl | hmem
        · exact hb
        · exact ih (hl ▸ hmem)

/-- What stops ends the list, and only what stops or the end of the list ends it. -/
theorem upTo_ends (stop : α → Bool) (l : List α) :
    (∃ a, (upTo stop l).getLast? = some a ∧ stop a = true) ∨
      upTo stop l = l ∧ ∀ a ∈ l, stop a = false := by
  induction l with
  | nil => exact .inr ⟨rfl, by simp⟩
  | cons a l ih =>
    cases h : stop a with
    | true => exact .inl ⟨a, by rw [upTo_cons_of_stop h]; rfl, h⟩
    | false =>
      rw [upTo_cons_of_go h]
      rcases ih with ⟨b, hlast, hb⟩ | ⟨hall, hgo⟩
      · exact .inl ⟨b, by rw [List.getLast?_cons, hlast]; rfl, hb⟩
      · refine .inr ⟨by rw [hall], fun b hb => ?_⟩
        rcases List.mem_cons.1 hb with rfl | hb
        · exact h
        · exact hgo b hb

end UpTo

/-! ## Questions and answers -/

/-- An engine's answer to a question of a compilation. -/
inductive Reply (κ : Type)
  /-- To the question for a form. -/
  | form (answer : Except CompileFailure κ)
  /-- To a question for a number. -/
  | number (query : InfoQuery) (answer : Except Int Nat)
  /-- To the question for the table of names. -/
  | table (answer : Except Int (List UInt8))

namespace Reply

/-- The call that was answered. -/
def call (pattern : Pattern) (options : Options) (id : Nat) : Reply κ → EngineCall
  | form _ => .compile pattern options
  | number query _ => .info query id
  | table _ => .info .nameTable id

/-- The error of a compilation that gets the answer, if it is a failure. -/
def failure? (text : String) : Reply κ → Option PatternError
  | form (.error failure) => some (compileError text failure)
  | number query (.error code) => some (.patternInfo query text code)
  | table (.error code) => some (.patternInfo .nameTable text code)
  | _ => none

/-- Is nothing asked after the answer? -/
def settles : Reply κ → Bool
  | form (.error _) | number _ (.error _) | table (.error _) => true
  | number .captureCount (.ok n) | number .nameCount (.ok n) => n == 0
  | _ => false

end Reply

/-- The questions of a compilation, in order. -/
def questions (pattern : Pattern) (options : Options) (id : Nat) : List EngineCall :=
  .compile pattern options ::
    [.info .captureCount id, .info .nameCount id, .info .nameEntrySize id, .info .nameTable id]

/-- What an engine answers about a form if all is asked in order. -/
def infoReplies (E : Engine κ σ) (form : κ) (state : σ) : List (Reply κ) :=
  let captures := E.captureCount form state
  let named := E.nameCount form captures.2
  let entrySize := E.nameEntrySize form named.2
  let table := E.nameTable form entrySize.2
  [.number .captureCount captures.1, .number .nameCount named.1,
    .number .nameEntrySize entrySize.1, .table table.1]

/-- What an engine answers about a pattern if all is asked in order; without a form there is nothing
to ask about. -/
def replies (E : Engine κ σ) (pattern : Pattern) (options : Options) (state : σ) :
    List (Reply κ) :=
  let made := E.compile pattern options state
  .form made.1 :: match made.1 with
    | .error _ => []
    | .ok form => infoReplies E form made.2

/-- What a compilation hears: the answers up to the first that settles it. -/
def heard (E : Engine κ σ) (pattern : Pattern) (options : Options) (state : σ) : List (Reply κ) :=
  upTo Reply.settles (replies E pattern options state)

/-- The error that the last answer makes, if it was a failure. -/
def lastFailure? (text : String) (said : List (Reply κ)) : Option PatternError :=
  said.getLast?.bind (Reply.failure? text)

/-- The captures are those that were told: the number of groups; and if there are groups and names,
the table of the entry size and the bytes. -/
structure Told (said : List (Reply κ)) (captures : Nat) (names : Option NameTable) : Prop where
  groups : .number .captureCount (.ok captures) ∈ said
  named : names.isSome ↔ 0 < captures ∧ ∃ n, 0 < n ∧ .number .nameCount (.ok n) ∈ said
  table : ∀ t, names = some t → ∃ entrySize bytes,
    .number .nameEntrySize (.ok entrySize) ∈ said ∧ .table (.ok bytes) ∈ said ∧
      t = NameTable.ofBytes entrySize bytes

/-! ## Questions about captures -/

/-- A question that is put: the engine answers in the state it is in, and the call is written
down. -/
theorem ask_cases {α : Type} {call : EngineCall} {answer : σ → α × σ} {a : α} {w w' : Ledger κ σ}
    (h : w.ask call answer = (a, w')) :
    answer w.state = (a, w'.state) ∧ w'.calls = w.calls ++ [call] := by
  obtain rfl : (answer w.state).1 = a := congrArg Prod.fst h
  obtain rfl : (w.ask call answer).2 = w' := congrArg Prod.snd h
  exact ⟨rfl, calls_ask call answer w⟩

/-- **What the questions about captures come to.** They are asked up to the first answer that
settles them. -/
theorem describe_heard (E : Engine κ σ) (form : κ) (pattern : Pattern) (options : Options)
    (id : Nat) (w : Ledger κ σ) :
    let said := upTo Reply.settles (infoReplies E form w.state)
    let out := describe E form id pattern.text w
    out.2.calls = w.calls ++ said.map (Reply.call pattern options id) ∧
      match out.1 with
      | .error e => lastFailure? pattern.text said = some e
      | .ok (captures, names) =>
        lastFailure? pattern.text said = none ∧ Told said captures names := by
  intro said out
  simp only [said, out, describe, infoReplies]
  -- each answer decides whether the next question is put
  rcases hw₁ : w.ask (.info .captureCount id) (E.captureCount form) with ⟨captures, w₁⟩
  obtain ⟨hcaptures, hcalls₁⟩ := ask_cases hw₁
  rw [hcaptures]
  rcases captures with code | captures
  · exact ⟨hcalls₁, rfl⟩
  by_cases hnoGroups : captures = 0
  · subst hnoGroups
    exact ⟨hcalls₁, rfl, by simp [upTo, Reply.settles], by simp, by simp⟩
  have hgroups : Reply.settles (.number .captureCount (.ok captures) : Reply κ) = false :=
    beq_eq_false_iff_ne.2 hnoGroups
  rw [upTo_cons_of_go hgroups]
  dsimp only
  rw [if_neg hnoGroups]
  rcases hw₂ : w₁.ask (.info .nameCount id) (E.nameCount form) with ⟨named, w₂⟩
  obtain ⟨hnamed, hcalls₂⟩ := ask_cases hw₂
  rw [hcalls₁] at hcalls₂
  rw [hnamed]
  rcases named with code | named
  · exact ⟨by simp [upTo, Reply.settles, hcalls₂, Reply.call], rfl⟩
  by_cases hnoNames : named = 0
  · subst hnoNames
    exact ⟨by simp [upTo, Reply.settles, hcalls₂, Reply.call], rfl, by simp [upTo, Reply.settles],
      by simp [upTo, Reply.settles], by simp⟩
  have hnames : Reply.settles (.number .nameCount (.ok named) : Reply κ) = false :=
    beq_eq_false_iff_ne.2 hnoNames
  rw [upTo_cons_of_go hnames]
  dsimp only
  rw [if_neg hnoNames]
  rcases hw₃ : w₂.ask (.info .nameEntrySize id) (E.nameEntrySize form) with ⟨entrySize, w₃⟩
  obtain ⟨hentrySize, hcalls₃⟩ := ask_cases hw₃
  rw [hcalls₂] at hcalls₃
  rw [hentrySize]
  rcases entrySize with code | entrySize
  · exact ⟨by simp [upTo, Reply.settles, hcalls₃, Reply.call], rfl⟩
  dsimp only
  rcases hw₄ : w₃.ask (.info .nameTable id) (E.nameTable form) with ⟨bytes, w₄⟩
  obtain ⟨hbytes, hcalls₄⟩ := ask_cases hw₄
  rw [hcalls₃] at hcalls₄
  rw [hbytes]
  rcases bytes with code | bytes
  · exact ⟨by simp [upTo, Reply.settles, hcalls₄, Reply.call], rfl⟩
  refine ⟨by simp [upTo, Reply.settles, hcalls₄, Reply.call], rfl, ?_, ?_, ?_⟩
  · simp
  · have hpositive : 0 < captures ∧ 0 < named :=
      ⟨Nat.pos_of_ne_zero hnoGroups, Nat.pos_of_ne_zero hnoNames⟩
    simp [upTo, Reply.settles, hpositive]
  · rintro t ht
    obtain rfl := Option.some.inj ht
    exact ⟨entrySize, bytes, by simp [upTo, Reply.settles], by simp [upTo, Reply.settles], rfl⟩

/-! ## Compilations -/

section Compilation

variable {E : Engine κ σ} {pattern : Pattern} {options : Options} {state : σ} {form : κ}

theorem heard_of_error {failure : CompileFailure}
    (h : (E.compile pattern options state).1 = .error failure) :
    heard E pattern options state = [.form (.error failure)] := by
  rw [heard, replies, h]
  rfl

theorem heard_of_ok (h : (E.compile pattern options state).1 = .ok form) :
    heard E pattern options state = .form (.ok form) ::
      upTo Reply.settles (infoReplies E form (E.compile pattern options state).2) := by
  rw [heard, replies, h]
  rfl

theorem lastFailure?_cons {text : String} {r : Reply κ} (h : r.failure? text = none)
    (said : List (Reply κ)) : lastFailure? text (r :: said) = lastFailure? text said := by
  cases said with
  | nil => exact h
  | cons r' said => rw [lastFailure?, List.getLast?_cons_cons, lastFailure?]

/-- The answer to the question for a form tells nothing about captures. -/
theorem Told.cons_form {said : List (Reply κ)} {captures : Nat} {names : Option NameTable}
    (h : Told said captures names) (answer : Except CompileFailure κ) :
    Told (.form answer :: said) captures names where
  groups := List.mem_cons_of_mem _ h.groups
  named := by simpa using h.named
  table t ht := by
    obtain ⟨entrySize, bytes, hsize, hbytes, heq⟩ := h.table t ht
    exact ⟨entrySize, bytes, List.mem_cons_of_mem _ hsize, List.mem_cons_of_mem _ hbytes, heq⟩

/-- What is heard when the engine has made a form. -/
theorem heard_of_describe {w w' : Ledger κ σ}
    (hform : (E.compile pattern options w.state).1 = .ok form)
    {x : Except PatternError (Nat × Option NameTable)}
    (h : describe E form w.compiled pattern.text (adopted E pattern options form w) = (x, w')) :
    let said := heard E pattern options w.state
    w'.calls = w.calls ++ said.map (Reply.call pattern options w.compiled) ∧
      match x with
      | .error e => lastFailure? pattern.text said = some e
      | .ok (captures, names) =>
        lastFailure? pattern.text said = none ∧ Told said captures names := by
  intro said
  obtain ⟨hcalls, htold⟩ := describe_heard E form pattern options w.compiled
    (adopted E pattern options form w)
  rw [h] at hcalls htold
  -- the questions are put in the state that the compilation has left
  have hstate : (adopted E pattern options form w).state = (E.compile pattern options w.state).2 :=
    rfl
  rw [hstate] at hcalls htold
  have hnone : (Reply.form (.ok form)).failure? pattern.text = none := rfl
  simp only [said, heard_of_ok hform, lastFailure?_cons hnone]
  refine ⟨?_, ?_⟩
  · simp [hcalls, adopted, Reply.call]
  · rcases x with e | ⟨captures, names⟩
    · exact htold
    · exact ⟨htold.1, htold.2.cons_form _⟩

/-- **What a compilation comes to.** It calls the engine for what it hears, and no more. If the
last answer was a failure, that is its failure; otherwise it fails only for want of room, and what
it gives is what it was told. -/
theorem Compilation.heard {c : Compiler} {w : Ledger κ σ} {room : Bool}
    {out : Except PatternError CompiledPattern × Compiler × Ledger κ σ}
    (h : Compilation E pattern options c w room out) (hne : pattern.isEmpty = false) :
    let said := PatternSuite.heard E pattern options w.state
    out.2.2.calls = w.calls ++ said.map (Reply.call pattern options w.compiled) ∧
      match out.1 with
      | .error e => lastFailure? pattern.text said = some e ∨
          lastFailure? pattern.text said = none ∧ c.registry.isSome ∧ room = false ∧
            e = .noMemory pattern.text
      | .ok p => lastFailure? pattern.text said = none ∧ (room = true ∨ c.registry = none) ∧
          Told said p.captures p.names := by
  intro said
  cases h with
  | empty hempty =>
    rw [hne] at hempty
    cases hempty
  | refused _ hform =>
    simp only [said, heard_of_error hform]
    exact ⟨by simp [Reply.call], .inl rfl⟩
  | unknown _ hform hdescribe =>
    obtain ⟨hcalls, hlast⟩ := heard_of_describe hform hdescribe
    exact ⟨by rwa [calls_letGo], .inl hlast⟩
  | unregistered _ hform hdescribe hc =>
    obtain ⟨hcalls, hlast, htold⟩ := heard_of_describe hform hdescribe
    exact ⟨hcalls, hlast, .inr hc, htold⟩
  | registered _ hform hdescribe hc hroom =>
    obtain ⟨hcalls, hlast, htold⟩ := heard_of_describe hform hdescribe
    exact ⟨by rwa [calls_retain], hlast, .inl hroom, htold⟩
  | noRoom _ hform hdescribe hc hroom =>
    -- the engine has answered everything, and the registry is full
    obtain ⟨hcalls, hlast, -⟩ := heard_of_describe hform hdescribe
    exact ⟨by rwa [calls_letGo], .inr ⟨hlast, by rw [hc]; rfl, hroom, rfl⟩⟩

/-- An empty pattern is refused at once. -/
theorem Compilation.of_empty {c : Compiler} {w : Ledger κ σ} {room : Bool}
    {out : Except PatternError CompiledPattern × Compiler × Ledger κ σ}
    (h : Compilation E pattern options c w room out) (hempty : pattern.isEmpty = true) :
    out = (.error .emptyPattern, c, w) := by
  cases h with
  | empty => rfl
  | refused h => simp [hempty] at h
  | unknown h => simp [hempty] at h
  | unregistered h => simp [hempty] at h
  | registered h => simp [hempty] at h
  | noRoom h => simp [hempty] at h

/-- **A compilation fails just if the last answer was a failure**, and with that failure, or if the
registry has no room. -/
theorem Compilation.fails_iff {c : Compiler} {w : Ledger κ σ} {room : Bool}
    {out : Except PatternError CompiledPattern × Compiler × Ledger κ σ}
    (h : Compilation E pattern options c w room out) (hne : pattern.isEmpty = false)
    (e : PatternError) :
    let said := PatternSuite.heard E pattern options w.state
    out.1 = .error e ↔ lastFailure? pattern.text said = some e ∨
      lastFailure? pattern.text said = none ∧ c.registry.isSome ∧ room = false ∧
        e = .noMemory pattern.text := by
  intro said
  obtain ⟨-, houtcome⟩ := h.heard hne
  generalize out.1 = outcome at houtcome ⊢
  cases outcome with
  | ok p =>
    obtain ⟨hnone, hroom, -⟩ := houtcome
    refine ⟨nofun, ?_⟩
    rintro (hlast | ⟨-, hsome, hfull, -⟩)
    · rw [hnone] at hlast
      cases hlast
    · rcases hroom with hroom | hc
      · rw [hfull] at hroom
        cases hroom
      · rw [hc] at hsome
        cases hsome
  | error e₀ =>
    constructor
    · intro he
      obtain rfl := Except.error.inj he
      exact houtcome
    -- the last answer decides which error it is
    intro he
    rcases houtcome with hlast | ⟨hnone, -, -, rfl⟩
    · rcases he with he | ⟨hnone, -⟩
      · rw [Option.some.inj (hlast.symm.trans he)]
      · rw [hlast] at hnone
        cases hnone
    · rcases he with he | ⟨-, -, -, rfl⟩
      · rw [hnone] at he
        cases he
      · rfl

/-- **With room a compilation fails just if the last answer was a failure**, and with that
failure. -/
theorem Compilation.fails_iff_of_room {c : Compiler} {w : Ledger κ σ} {room : Bool}
    {out : Except PatternError CompiledPattern × Compiler × Ledger κ σ}
    (h : Compilation E pattern options c w room out) (hne : pattern.isEmpty = false)
    (hroom : room = true) (e : PatternError) :
    out.1 = .error e ↔
      lastFailure? pattern.text (PatternSuite.heard E pattern options w.state) = some e := by
  refine (h.fails_iff hne e).trans ⟨?_, .inl⟩
  rintro (hlast | ⟨-, -, hfull, -⟩)
  · exact hlast
  · cases hroom.symm.trans hfull

/-- The number of groups that a pattern has is what the engine answers about its form. -/
theorem Compilation.captureCount {c c' : Compiler} {w w' : Ledger κ σ} {room : Bool}
    {p : CompiledPattern} (h : Compilation E pattern options c w room (.ok p, c', w')) :
    ∃ form state, (E.compile pattern options w.state).1 = .ok form ∧
      p.form = w.formList.length ∧ w'.formList = w.formList ++ [form] ∧
      (E.captureCount form state).1 = .ok p.captures := by
  obtain ⟨-, hid, ⟨form, hform, hforms⟩, -⟩ := h.of_ok
  have hne : pattern.isEmpty = false := by
    cases h with
    | unregistered hne => exact hne
    | registered hne => exact hne
  obtain ⟨-, -, -, htold⟩ := h.heard hne
  -- among all answers only one is to the question for the number of groups
  have hmem := (isPrefix_upTo Reply.settles (replies E pattern options w.state)).subset htold.groups
  rw [replies, hform] at hmem
  refine ⟨form, (E.compile pattern options w.state).2, hform, hid, hforms, ?_⟩
  simpa [infoReplies, eq_comm] using hmem

/-- **A conversation with an engine**: its answers to the questions of a compilation, in order, up
to the first that settles it. -/
structure Conversation (E : Engine κ σ) (pattern : Pattern) (options : Options) (state : σ)
    (id : Nat) (said : List (Reply κ)) : Prop where
  answers : said <+: replies E pattern options state
  order : said.map (Reply.call pattern options id) <+: questions pattern options id
  goesOn : ∀ r ∈ said.dropLast, r.settles = false
  ends : (∃ r, said.getLast? = some r ∧ r.settles = true) ∨
    said.map (Reply.call pattern options id) = questions pattern options id

theorem conversation_heard (E : Engine κ σ) (pattern : Pattern) (options : Options) (state : σ)
    (id : Nat) :
    Conversation E pattern options state id (PatternSuite.heard E pattern options state) := by
  have hanswers := isPrefix_upTo Reply.settles (replies E pattern options state)
  -- with a form all questions are there, and without one the first answer settles it
  have hreplies : (replies E pattern options state).map (Reply.call pattern options id) <+:
        questions pattern options id ∧
      ((∀ r ∈ replies E pattern options state, r.settles = false) →
        (replies E pattern options state).map (Reply.call pattern options id) =
          questions pattern options id) := by
    unfold replies
    dsimp only
    cases (E.compile pattern options state).1 with
    | error failure => exact ⟨⟨_, rfl⟩, fun hgo => nomatch hgo _ List.mem_cons_self⟩
    | ok form => exact ⟨List.prefix_refl _, fun _ => rfl⟩
  refine ⟨hanswers, (hanswers.map _).trans hreplies.1, fun r hr => go_of_mem_dropLast_upTo hr, ?_⟩
  rcases upTo_ends Reply.settles (replies E pattern options state) with hstop | ⟨hall, hgo⟩
  · exact .inl hstop
  · exact .inr ((congrArg _ hall).trans (hreplies.2 hgo))

end Compilation

/-- **A compilation asks no more than it needs.** Nothing is asked about an empty pattern. For any
other the engine is asked in order up to the first answer that settles the matter. The compilation
fails just if the last answer was a failure, and then with the failure of that question; the only
other failure is that of a registry without room for the pattern. A pattern that comes of it has the
captures that were told; what it says of its names is what its table says. -/
theorem questions_asked (E : Engine κ σ) (request : CompileRequest) (c : Compiler)
    (w : Ledger κ σ) (room : Bool) :
    let text := request.pattern.text
    let out := c.compile E request w room
    (request.pattern.isEmpty = true → out.1 = .error .emptyPattern ∧ out.2.2.2 = w) ∧
      (request.pattern.isEmpty = false → ∃ said,
        Conversation E request.pattern request.options w.state w.compiled said ∧
        out.2.2.2.calls = w.calls ++
          said.map (Reply.call request.pattern request.options w.compiled) ∧
        (∀ e, out.1 = .error e ↔ lastFailure? text said = some e ∨
          lastFailure? text said = none ∧ c.registry.isSome ∧ room = false ∧ e = .noMemory text) ∧
        (room = true → ∀ e, out.1 = .error e ↔ lastFailure? text said = some e) ∧
        ∀ p, out.1 = .ok p → Told said p.captures p.names ∧
          p.namedCaptures = p.names.elim 0 NameTable.length ∧
          p.nameSize = p.names.elim 0 NameTable.entrySize) := by
  intro text out
  have hcomp : Compilation E request.pattern request.options c w room
    (out.1, out.2.2.1, out.2.2.2) := compile_compilation E request c w room
  refine ⟨fun hempty => ?_, fun hne => ?_⟩
  · have hout := hcomp.of_empty hempty
    exact ⟨congrArg (·.1) hout, congrArg (·.2.2) hout⟩
  obtain ⟨hcalls, houtcome⟩ := hcomp.heard hne
  refine ⟨_, conversation_heard E request.pattern request.options w.state w.compiled, hcalls,
    hcomp.fails_iff hne, hcomp.fails_iff_of_room hne, fun p hp => ?_⟩
  simp only [hp] at houtcome
  obtain ⟨-, -, htold⟩ := houtcome
  -- a pattern without a table of names says zero
  refine ⟨htold, ?_, ?_⟩
  · rw [CompiledPattern.namedCaptures]
    cases p.names <;> rfl
  · rw [CompiledPattern.nameSize]
    cases p.names <;> rfl

/-- An engine that tells of five names and has a table with one, of an entry size that no table has,
and whose second answer about another pattern is a failure. -/
theorem questions_asked_canned :
    let E := Canned.engine { patterns :=
      [("p", { captureCount := .ok 2, nameCount := .ok 5, nameTable := .ok [0, 1, 97] }),
        ("q", { captureCount := .ok 2, nameCount := .error (-7) })] }
    let run (text : String) :=
      Compiler.opened.compile E { pattern := ⟨.basic, text⟩ } { state := () }
    (∃ p said, (run "p").1 = .ok p ∧ p.namedCaptures = 1 ∧ p.nameSize = 3 ∧
        Conversation E ⟨.basic, "p"⟩ .none () 0 said ∧ Told said p.captures p.names) ∧
      ∃ said, Conversation E ⟨.basic, "q"⟩ .none () 0 said ∧
        said.map (Reply.call ⟨.basic, "q"⟩ .none 0) =
          [.compile ⟨.basic, "q"⟩ .none, .info .captureCount 0, .info .nameCount 0] ∧
        lastFailure? "q" said = some (.patternInfo .nameCount "q" (-7)) := by
  intro E run
  constructor
  · obtain ⟨-, h⟩ := questions_asked E { pattern := ⟨.basic, "p"⟩ } .opened { state := () } true
    obtain ⟨said, hsaid, -, -, -, htold⟩ := h rfl
    exact ⟨_, said, rfl, by decide +kernel, by decide +kernel, hsaid, (htold _ rfl).1⟩
  · obtain ⟨-, h⟩ := questions_asked E { pattern := ⟨.basic, "q"⟩ } .opened { state := () } true
    obtain ⟨said, hsaid, hcalls, -, hfails, -⟩ := h rfl
    exact ⟨said, hsaid, hcalls.symm, (hfails rfl (.patternInfo .nameCount "q" (-7))).1 rfl⟩

end PatternSuite
