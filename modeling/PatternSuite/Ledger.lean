import PatternSuite.Engine

/-!
# The ledger of compiled forms

An engine's compiled forms are shared: callers, registries and cleanups hold them, and a form is
released when the last holder lets go. The ledger numbers the forms in the order in which they
were made, counts the holders of each, and writes down in order all that happens: every call to
the engine, every log record, every release.

* `Ledger.adopt`: a new form, with one holder.
* `Ledger.retain`, `Ledger.letGo`: one holder more, one holder less.
* `Ledger.released`: how many forms have been released.
-/

namespace PatternSuite

/-- A call to an engine. -/
inductive EngineCall
  | compile (pattern : Pattern) (options : Options)
  | info (query : InfoQuery) (form : Nat)
  | search (form slots : Nat)
  | jit (form : Nat)
  deriving DecidableEq, Repr

/-- Something that happened. -/
inductive Event
  | called (call : EngineCall)
  | logged (record : LogRecord)
  | released (form : Nat)
  deriving DecidableEq, Repr

/-- A compiled form and the number of its holders; a form that nobody holds has been released. -/
structure Holding (κ : Type) where
  form : κ
  holders : Nat
  deriving Repr

/-- An engine's state, its compiled forms, and the events so far. -/
structure Ledger (κ σ : Type) where
  state : σ
  forms : Array (Holding κ) := #[]
  events : Array Event := #[]

namespace Ledger

variable {κ σ : Type}

/-- Writes down an event. -/
def note (e : Event) (w : Ledger κ σ) : Ledger κ σ := { w with events := w.events.push e }

/-- Writes down a log record. -/
def log (level : LogLevel) (text : String) (w : Ledger κ σ) : Ledger κ σ :=
  w.note (.logged ⟨level, text⟩)

/-- Takes in a new form with one holder; gives its number. -/
def adopt (form : κ) (w : Ledger κ σ) : Nat × Ledger κ σ :=
  (w.forms.size, { w with forms := w.forms.push ⟨form, 1⟩ })

/-- One holder more. -/
def retain (id : Nat) (w : Ledger κ σ) : Ledger κ σ :=
  { w with forms := w.forms.modify id fun h => { h with holders := h.holders + 1 } }

/-- One holder less; the last one releases the form. -/
def letGo (id : Nat) (w : Ledger κ σ) : Ledger κ σ :=
  match w.forms[id]? with
  | none => w
  | some h =>
    let w' := { w with forms := w.forms.modify id fun h => { h with holders := h.holders - 1 } }
    if h.holders = 1 then w'.note (.released id) else w'

/-- One holder more for each form. -/
def retainAll (ids : List Nat) (w : Ledger κ σ) : Ledger κ σ := ids.foldl (fun w id => w.retain id) w

/-- One holder less for each form. -/
def letGoAll (ids : List Nat) (w : Ledger κ σ) : Ledger κ σ := ids.foldl (fun w id => w.letGo id) w

/-- The form of a number. -/
def form? (id : Nat) (w : Ledger κ σ) : Option κ := (w.forms[id]?).map (·.form)

/-- Replaces the form of a number. -/
def setForm (id : Nat) (form : κ) (w : Ledger κ σ) : Ledger κ σ :=
  { w with forms := w.forms.modify id fun h => { h with form := form } }

/-- How many holders the form has. -/
def holders (id : Nat) (w : Ledger κ σ) : Nat := ((w.forms[id]?).map (·.holders)).getD 0

/-- How many forms were made. -/
def compiled (w : Ledger κ σ) : Nat := w.forms.size

/-- How often a form has been released. -/
def releases (id : Nat) (w : Ledger κ σ) : Nat := w.events.toList.count (.released id)

/-- Is the event the release of some form? -/
def isRelease : Event → Bool
  | .released _ => true
  | _ => false

/-- How many releases there were. -/
def released (w : Ledger κ σ) : Nat := w.events.toList.countP isRelease

/-- Puts a question to the engine. -/
def ask {α : Type} (call : EngineCall) (answer : σ → α × σ) (w : Ledger κ σ) : α × Ledger κ σ :=
  let (a, s) := answer w.state
  (a, { w with state := s }.note (.called call))

end Ledger

end PatternSuite
