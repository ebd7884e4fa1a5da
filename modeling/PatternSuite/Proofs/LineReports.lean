import Mathlib.Data.List.DropRight
import PatternSuite.Command.Report
import PatternSuite.Proofs.Optimization

/-!
# Lines are matched one by one

A search leaves the compiled forms as they are, so over an engine without a state the answer to a
line is the same whatever lines came before it, and whatever became of them. The report of an input
is then that of its lines, one after the other, up to a line that is no text.

* `Lines`: bytes split after each newline; `lines_splitLines`, `splitLines_of_lines`: there is one
  such split.
* `forms_lineReport`: a line leaves the compiled forms as they are.
* `lineReport_congr`: the answer to a line depends on the patterns, the switch and the text.
* `matchLines_append`: lines that are texts are answered one by one.
* `lines_matched_alone`: the report of any input.
-/

namespace PatternSuite

open Text

variable {κ σ : Type}

/-! ## Lines -/

/-- Bytes split after each newline; the last line may lack it. -/
inductive Lines : List UInt8 → List (List UInt8) → Prop
  | none : Lines [] []
  | last {line : List UInt8} (h : line ≠ []) (hline : 10 ∉ line) : Lines line [line]
  | cons {line rest : List UInt8} {lines : List (List UInt8)} (hline : 10 ∉ line)
    (h : Lines rest lines) : Lines (line ++ 10 :: rest) ((line ++ [10]) :: lines)

theorem splitLinesFrom_of_notMem {line bs : List UInt8} (h : 10 ∉ bs) :
    splitLinesFrom line bs = if (bs.reverse ++ line).isEmpty then [] else [line.reverse ++ bs] := by
  induction bs generalizing line with
  | nil => cases line <;> simp [splitLinesFrom]
  | cons b bs ih =>
    obtain ⟨hb, hbs⟩ := List.ne_and_not_mem_of_not_mem_cons h
    rw [splitLinesFrom, if_neg (Ne.symm hb), ih hbs]
    simp

theorem splitLinesFrom_newline {line bs : List UInt8} (h : 10 ∉ bs) (rest : List UInt8) :
    splitLinesFrom line (bs ++ 10 :: rest) = (line.reverse ++ bs ++ [10]) :: splitLines rest := by
  induction bs generalizing line with
  | nil => simp [splitLinesFrom, splitLines]
  | cons b bs ih =>
    obtain ⟨hb, hbs⟩ := List.ne_and_not_mem_of_not_mem_cons h
    rw [List.cons_append, splitLinesFrom, if_neg (Ne.symm hb), ih hbs]
    simp

/-- There is no other split. -/
theorem splitLines_of_lines {input : List UInt8} {lines : List (List UInt8)}
    (h : Lines input lines) : splitLines input = lines := by
  induction h with
  | none => rfl
  | last h hline =>
    rw [splitLines, splitLinesFrom_of_notMem hline]
    simp [h]
  | cons hline _ ih =>
    rw [splitLines, splitLinesFrom_newline hline, ih]
    simp

/-- All bytes can be split. -/
theorem lines_splitLines (input : List UInt8) : Lines input (splitLines input) := by
  induction hn : input.length using Nat.strong_induction_on generalizing input with
  | _ n ih =>
    subst hn
    by_cases hmem : 10 ∈ input
    · obtain ⟨line, rest, rfl, hline⟩ := List.eq_append_cons_of_mem hmem
      rw [splitLines, splitLinesFrom_newline hline]
      exact .cons hline (ih rest.length (by simp; omega) rest rfl)
    · rw [splitLines, splitLinesFrom_of_notMem hmem]
      by_cases hnil : input = []
      · subst hnil
        exact .none
      · simpa [hnil] using Lines.last hnil hmem

/-- Bytes behind a newline make lines of their own. -/
theorem splitLines_append (a b : List UInt8) :
    splitLines (a ++ [10] ++ b) = splitLines (a ++ [10]) ++ splitLines b := by
  induction hn : a.length using Nat.strong_induction_on generalizing a with
  | _ n ih =>
    subst hn
    by_cases hmem : 10 ∈ a
    · obtain ⟨line, rest, rfl, hline⟩ := List.eq_append_cons_of_mem hmem
      have hrest := ih rest.length (by simp; omega) rest rfl
      simp only [List.append_assoc, List.cons_append, splitLines] at hrest ⊢
      rw [splitLinesFrom_newline hline, splitLinesFrom_newline hline, splitLines, splitLines,
        hrest, List.cons_append]
    · simp only [List.append_assoc, List.cons_append, List.nil_append, splitLines]
      rw [splitLinesFrom_newline hmem, splitLinesFrom_newline hmem]
      rfl

/-- A text is cut just before the carriage returns and newlines at its end. -/
structure Trimmed (text line : String) : Prop where
  ends : ∃ tail, text.toList = line.toList ++ tail ∧ ∀ c ∈ tail, c = '\r' ∨ c = '\n'
  last : ∀ c, line.toList.getLast? = some c → c ≠ '\r' ∧ c ≠ '\n'

theorem trimmed_trimLine (text : String) : Trimmed text (trimLine text) := by
  have htext : (trimLine text).toList =
      text.toList.rdropWhile fun c => c == '\r' || c == '\n' := by
    rw [trimLine, String.toList_ofList]
    rfl
  constructor
  · rw [htext]
    refine ⟨_, List.rdropWhile_append_rtakeWhile.symm, ?_⟩
    intro c hc
    simpa using List.mem_rtakeWhile_imp hc
  · intro c hc
    rw [htext] at hc
    obtain ⟨hne, rfl⟩ := List.mem_getLast?_eq_getLast hc
    simpa using List.rdropWhile_last_not _ _ hne

/-! ## Searches leave the forms -/

section Forms

variable {E : Engine κ σ}

theorem form?_of_forms {w v : Ledger κ σ} (h : v.forms = w.forms) (id : Nat) :
    v.form? id = w.form? id := by
  rw [Ledger.form?, Ledger.form?, h]

theorem forms_logAll (rs : List LogRecord) (w : Ledger κ σ) :
    (rs.foldl (fun w r => w.note (.logged r)) w).forms = w.forms :=
  logAll_induct (P := fun v => v.forms = w.forms) (fun h _ => h) rfl rs

theorem forms_search (p : CompiledPattern) (input : String) (slots : Nat) (w : Ledger κ σ) :
    (search E p input slots w).2.forms = w.forms := by
  unfold search
  split <;> rfl

theorem forms_concludeSearch (p : CompiledPattern) (input : String) (answer : SearchAnswer)
    (w : Ledger κ σ) : (concludeSearch p input answer w).2.forms = w.forms := by
  have hlog := forms_logAll answer.notes w
  unfold concludeSearch
  dsimp only
  split <;> exact hlog

theorem forms_execute (p : CompiledPattern) (input : String) (w : Ledger κ σ) :
    (execute E p input w).2.forms = w.forms :=
  (forms_concludeSearch p input _ _).trans (forms_search p input 0 w)

theorem forms_executeInto (p : CompiledPattern) (input : String) (buffer : Captures)
    (w : Ledger κ σ) : (executeInto E p input buffer w).2.2.forms = w.forms :=
  (forms_concludeSearch p input _ _).trans (forms_search p input buffer.capacity w)

theorem forms_executeFrom (index : Nat) (ps : List CompiledPattern) (input : String)
    (w : Ledger κ σ) : (executeFrom E index ps input w).2.forms = w.forms := by
  induction ps generalizing index w with
  | nil => rfl
  | cons p ps ih =>
    have hp := forms_execute (E := E) p input w
    unfold executeFrom
    split
    · next heq => rwa [heq] at hp
    · next heq => rwa [heq] at hp
    · next heq =>
      rw [heq] at hp
      exact (ih (index + 1) _).trans hp

theorem forms_captureReport (p : CompiledPattern) (input : String) (w : Ledger κ σ) :
    (captureReport E p input w).2.forms = w.forms := by
  have hp := forms_executeInto (E := E) p input p.captureBuffer w
  unfold captureReport
  split <;> next heq => rwa [heq] at hp

/-- **A line leaves the compiled forms as they are.** -/
theorem forms_lineReport (ps : List CompiledPattern) (captures : Bool) (line : String)
    (w : Ledger κ σ) : (lineReport E ps captures line w).2.forms = w.forms := by
  have hps := forms_executeFrom (E := E) 0 ps line w
  unfold lineReport executeArray
  split
  · next heq => rwa [heq] at hps
  · next heq => rwa [heq] at hps
  next heq =>
  rw [heq] at hps
  split
  · exact (forms_captureReport _ line _).trans hps
  · exact hps

end Forms

/-! ## Engines without a state -/

section Stateless

variable {E : Engine κ Unit} {w v : Ledger κ Unit}

theorem search_congr {p : CompiledPattern} (h : v.form? p.form = w.form? p.form) (input : String)
    (slots : Nat) : (search E p input slots v).1 = (search E p input slots w).1 := by
  unfold search
  rw [h]
  cases w.form? p.form <;> rfl

theorem execute_congr {p : CompiledPattern} (h : v.form? p.form = w.form? p.form)
    (input : String) : (execute E p input v).1 = (execute E p input w).1 :=
  concludeSearch_eq p input (congrArg _ (search_congr h input 0)) _ _

theorem executeFrom_congr {ps : List CompiledPattern}
    (h : ∀ p ∈ ps, v.form? p.form = w.form? p.form) (index : Nat) (input : String) :
    (executeFrom E index ps input v).1 = (executeFrom E index ps input w).1 := by
  induction ps generalizing index w v with
  | nil => rfl
  | cons p ps ih =>
    have hp := execute_congr (E := E) (h p List.mem_cons_self) input
    have hv := forms_execute (E := E) p input v
    have hw := forms_execute (E := E) p input w
    unfold executeFrom
    rcases hev : execute E p input v with ⟨x, v₁⟩
    rcases hew : execute E p input w with ⟨y, w₁⟩
    rw [hev] at hp hv
    rw [hew] at hp hw
    obtain rfl : x = y := hp
    cases x with
    | error e => rfl
    | ok outcome =>
      cases outcome with
      | matched => rfl
      | notMatched =>
        -- the search has left the forms of the other patterns, so they still agree
        refine ih (fun q hq => ?_) (index + 1)
        rw [form?_of_forms hv, form?_of_forms hw]
        exact h q (List.mem_cons_of_mem p hq)

theorem captureReport_congr {p : CompiledPattern} (h : v.form? p.form = w.form? p.form)
    (input : String) : (captureReport E p input v).1 = (captureReport E p input w).1 := by
  have hsearch := search_congr (E := E) h input p.captureBuffer.capacity
  have hout : (executeInto E p input p.captureBuffer v).1 =
      (executeInto E p input p.captureBuffer w).1 :=
    concludeSearch_eq p input (congrArg _ hsearch) _ _
  have hbuffer : (executeInto E p input p.captureBuffer v).2.1 =
      (executeInto E p input p.captureBuffer w).2.1 := by
    unfold executeInto
    dsimp only
    rw [hsearch]
  unfold captureReport
  rcases hev : executeInto E p input p.captureBuffer v with ⟨x, c, v₁⟩
  rcases hew : executeInto E p input p.captureBuffer w with ⟨y, d, w₁⟩
  rw [hev, hew] at hout hbuffer
  obtain rfl : x = y := hout
  obtain rfl : c = d := hbuffer
  cases x with
  | error e => rfl
  | ok outcome => cases outcome <;> rfl

/-- **The answer to a line depends on the forms of the patterns, the switch and the text.** What
was asked, logged or released before does not count. -/
theorem lineReport_congr {ps : List CompiledPattern}
    (h : ∀ p ∈ ps, v.form? p.form = w.form? p.form) (captures : Bool) (line : String) :
    (lineReport E ps captures line v).1 = (lineReport E ps captures line w).1 := by
  have hps := executeFrom_congr (E := E) h 0 line
  have hv := forms_executeFrom (E := E) 0 ps line v
  have hw := forms_executeFrom (E := E) 0 ps line w
  unfold lineReport executeArray
  rcases hev : executeFrom E 0 ps line v with ⟨x, v₁⟩
  rcases hew : executeFrom E 0 ps line w with ⟨y, w₁⟩
  rw [hev] at hps hv
  rw [hew] at hps hw
  obtain rfl : x = y := hps
  cases x with
  | error e => rfl
  | ok outcome =>
  cases outcome with
  | declined => rfl
  | matched i =>
  cases captures with
  | false => rfl
  | true =>
  cases hp : ps[i]? with
  | none => simp only [hp]
  | some p =>
    -- the captures are searched for in the ledgers that the first search has left
    have hform : v₁.form? p.form = w₁.form? p.form := by
      rw [form?_of_forms hv, form?_of_forms hw]
      exact h p (List.mem_of_getElem? hp)
    simp only [hp, captureReport_congr hform line]

/-! ## The answers to lines -/

/-- What is written for a line of some text. -/
def lineAnswer (E : Engine κ Unit) (ps : List CompiledPattern) (captures : Bool)
    (w : Ledger κ Unit) (text : String) : String :=
  (lineReport E ps captures (trimLine text) w).1

variable (E) (ps : List CompiledPattern) (captures : Bool)

theorem lineAnswer_congr (h : ∀ p ∈ ps, v.form? p.form = w.form? p.form) :
    lineAnswer E ps captures v = lineAnswer E ps captures w :=
  funext fun text => lineReport_congr h captures (trimLine text)

/-- A line that is a text is answered, and the other lines are answered as if it were not there. -/
theorem matchLines_cons {line : List UInt8} {text : String} (h : textOfBytes? line = some text)
    (lines : List (List UInt8)) (w : Ledger κ Unit) :
    ∃ v : Ledger κ Unit, v.forms = w.forms ∧
      (matchLines E ps captures (line :: lines) w).1 =
        lineAnswer E ps captures w text :: (matchLines E ps captures lines v).1 ∧
      (matchLines E ps captures (line :: lines) w).2.1 =
        (matchLines E ps captures lines v).2.1 := by
  refine ⟨(lineReport E ps captures (trimLine text) w).2, forms_lineReport _ _ _ _, ?_⟩
  rw [matchLines, h]
  exact ⟨rfl, rfl⟩

/-- Lines are answered as they would be over any other ledger with the same forms. -/
theorem matchLines_congr (h : v.forms = w.forms) (lines : List (List UInt8)) :
    (matchLines E ps captures lines v).1 = (matchLines E ps captures lines w).1 ∧
      (matchLines E ps captures lines v).2.1 = (matchLines E ps captures lines w).2.1 := by
  induction lines generalizing v w with
  | nil => exact ⟨rfl, rfl⟩
  | cons line lines ih =>
    cases htext : textOfBytes? line with
    | none => simp [matchLines, htext]
    | some text =>
      obtain ⟨v', hv', hv₁, hv₂⟩ := matchLines_cons E ps captures htext lines v
      obtain ⟨w', hw', hw₁, hw₂⟩ := matchLines_cons E ps captures htext lines w
      obtain ⟨h₁, h₂⟩ := ih (hv'.trans (h.trans hw'.symm))
      rw [hv₁, hv₂, hw₁, hw₂, h₁, h₂,
        lineAnswer_congr E ps captures fun p _ => form?_of_forms h p.form]
      exact ⟨rfl, rfl⟩

/-- **Lines that are texts are answered one by one**, and what follows them as if it stood alone. -/
theorem matchLines_append {lines : List (List UInt8)} {texts : List String}
    (h : lines.map textOfBytes? = texts.map some) (rest : List (List UInt8))
    (w : Ledger κ Unit) :
    (matchLines E ps captures (lines ++ rest) w).1 =
        texts.map (lineAnswer E ps captures w) ++ (matchLines E ps captures rest w).1 ∧
      (matchLines E ps captures (lines ++ rest) w).2.1 =
        (matchLines E ps captures rest w).2.1 := by
  induction lines generalizing texts w with
  | nil =>
    obtain rfl : texts = [] := by simpa using h.symm
    exact ⟨rfl, rfl⟩
  | cons line lines ih =>
    cases texts with
    | nil => cases h
    | cons text texts =>
    obtain ⟨hline, hlines⟩ := List.cons.inj h
    obtain ⟨v, hv, h₁, h₂⟩ := matchLines_cons E ps captures hline (lines ++ rest) w
    obtain ⟨ih₁, ih₂⟩ := ih hlines v
    obtain ⟨hrest₁, hrest₂⟩ := matchLines_congr E ps captures hv rest
    rw [List.cons_append, h₁, h₂, ih₁, ih₂, hrest₁, hrest₂,
      lineAnswer_congr E ps captures fun p _ => form?_of_forms hv p.form]
    exact ⟨rfl, rfl⟩

/-- If all lines were answered, all are texts. -/
theorem texts_of_complete {lines : List (List UInt8)} {w : Ledger κ Unit}
    (h : (matchLines E ps captures lines w).2.1 = true) :
    ∃ texts : List String, lines.map textOfBytes? = texts.map some := by
  induction lines generalizing w with
  | nil => exact ⟨[], rfl⟩
  | cons line lines ih =>
    cases htext : textOfBytes? line with
    | none => simp [matchLines, htext] at h
    | some text =>
      obtain ⟨v, -, -, hv⟩ := matchLines_cons E ps captures htext lines w
      obtain ⟨texts, htexts⟩ := ih (hv ▸ h)
      exact ⟨text :: texts, by simp [htext, htexts]⟩

end Stateless

/-- **Lines are matched one by one.** Over an engine without a state, the report of an input is
that of its lines one after the other, up to a line that is no text; and only then does the match
fail. The report of a line depends on the forms of the patterns, the switch and the text of the
line up to the carriage returns and newlines at its end. -/
theorem lines_matched_alone (E : Engine κ Unit) (ps : List CompiledPattern) (captures : Bool)
    (w : Ledger κ Unit) :
    (∀ input lines, Lines input lines ↔ splitLines input = lines) ∧
      (∀ text, Trimmed text (trimLine text)) ∧
      (∀ (v : Ledger κ Unit) (text text' : String),
        (∀ p ∈ ps, v.form? p.form = w.form? p.form) → trimLine text' = trimLine text →
        lineAnswer E ps captures v text' = lineAnswer E ps captures w text) ∧
      (∀ (input : List UInt8) (lines : List (List UInt8)) (texts : List String),
        Lines input lines → lines.map textOfBytes? = texts.map some →
        (matchReport E ps captures input w).1 = texts.map (lineAnswer E ps captures w) ∧
          (matchReport E ps captures input w).2.1 = true) ∧
      (∀ (input bad : List UInt8) (before after : List (List UInt8)) (texts : List String),
        Lines input (before ++ bad :: after) → before.map textOfBytes? = texts.map some →
        textOfBytes? bad = none →
        (matchReport E ps captures input w).1 = texts.map (lineAnswer E ps captures w) ∧
          (matchReport E ps captures input w).2.1 = false) ∧
      (∀ a b : List UInt8, (matchReport E ps captures (a ++ [10]) w).2.1 = true →
        String.join (matchReport E ps captures (a ++ [10] ++ b) w).1 =
            String.join (matchReport E ps captures (a ++ [10]) w).1 ++
              String.join (matchReport E ps captures b w).1 ∧
          (matchReport E ps captures (a ++ [10] ++ b) w).2.1 =
            (matchReport E ps captures b w).2.1) ∧
      matchReport E ps captures [] w = ([], true, w) := by
  refine ⟨fun input lines => ⟨splitLines_of_lines, fun h => h ▸ lines_splitLines input⟩,
    trimmed_trimLine, ?_, ?_, ?_, ?_, rfl⟩
  · intro v text text' hforms htext
    rw [lineAnswer, htext]
    exact lineReport_congr hforms captures (trimLine text)
  · intro input lines texts hlines htexts
    have h := matchLines_append E ps captures htexts [] w
    rw [List.append_nil] at h
    simpa [matchReport, splitLines_of_lines hlines, matchLines] using h
  · intro input bad before after texts hlines htexts hbad
    have h := matchLines_append E ps captures htexts (bad :: after) w
    simpa [matchReport, splitLines_of_lines hlines, matchLines, hbad] using h
  · intro a b ha
    -- the first part was answered to its end, so all of its lines are texts
    obtain ⟨texts, htexts⟩ := texts_of_complete E ps captures ha
    have hfirst := matchLines_append E ps captures htexts [] w
    have hboth := matchLines_append E ps captures htexts (splitLines b) w
    rw [List.append_nil] at hfirst
    rw [matchReport, matchReport, matchReport, splitLines_append, hboth.1, hboth.2, hfirst.1]
    simp [matchLines, String.join_append]

/-- A ledger with the form of a literal text, after some events. -/
def literalLedger (text : String) (events : Array Event) :
    Ledger (Standard.Form literalMatchers) Unit where
  state := ()
  forms := #[⟨⟨.basic text, text, {}, none⟩, 1⟩]
  events := events

/-- A line that matches, one that does not and lacks its newline, and one that is no text. -/
theorem lines_matched_alone_literal :
    let E := Standard.engine literalMatchers ⟨false, 10, 1000⟩
    let ps : List CompiledPattern := [⟨0, "a", 0, none⟩]
    let run input := matchReport E ps false input (literalLedger "a" #[])
    lineAnswer E ps false (literalLedger "a" #[.released 7]) "ba" = "0\n" ∧
      ((run [98, 97, 13, 10, 98]).1 = ["0\n", "declined\n"] ∧
        (run [98, 97, 13, 10, 98]).2.1 = true) ∧
      ((run [98, 97, 13, 10, 255, 10, 97]).1 = ["0\n"] ∧
        (run [98, 97, 13, 10, 255, 10, 97]).2.1 = false) ∧
      String.join (run [98, 97, 13, 10, 98]).1 =
        String.join (run [98, 97, 13, 10]).1 ++ String.join (run [98]).1 := by
  intro E ps run
  obtain ⟨-, -, hsame, htexts, hbad, happend, -⟩ :=
    lines_matched_alone E ps false (literalLedger "a" #[])
  have hmatched : lineAnswer E ps false (literalLedger "a" #[]) "ba\r\n" = "0\n" := by
    decide +kernel
  have hdeclined : lineAnswer E ps false (literalLedger "a" #[]) "b" = "declined\n" := by
    decide +kernel
  refine ⟨?_, ?_, ?_, ?_⟩
  · rw [hsame (literalLedger "a" #[.released 7]) "ba\r\n" "ba" (fun _ _ => rfl) (by decide),
      hmatched]
  · have h := htexts [98, 97, 13, 10, 98] [[98, 97, 13, 10], [98]] ["ba\r\n", "b"]
      (lines_splitLines _) (by decide)
    simpa only [List.map_cons, List.map_nil, hmatched, hdeclined] using h
  · have h := hbad [98, 97, 13, 10, 255, 10, 97] [255, 10] [[98, 97, 13, 10]] [[97]] ["ba\r\n"]
      (lines_splitLines _) (by decide) (by decide)
    simpa only [List.map_cons, List.map_nil, hmatched] using h
  · exact (happend [98, 97, 13] [98] (by decide +kernel)).1

end PatternSuite
