import PatternSuite.Regular.Automaton
import PatternSuite.Text.Bytes
import PatternSuite.Unicode.Classes

/-!
# Searching with a machine

A search runs all ways through a machine side by side, in order of preference, one character at a
time, so it never goes back. New ways begin at every place until one of them matches; a match ends
all ways that are less preferred.

* `Look.holds`: whether a place meets a condition.
* `Automaton.find`: the slots of the preferred match that begins first.
* `Automaton.findAt`: the slots of the preferred match that begins at a place.
* `Automaton.isMatch`: whether there is a match.
-/

namespace PatternSuite.Regular

open Unicode Text

/-- Whether a place between two characters is at the edge of a word. -/
def WordEdge.holds (edge : WordEdge) (before after : Bool) : Bool :=
  match edge with
  | boundary => before != after
  | inside => before == after
  | start => !before && after
  | stop => before && !after
  | startHalf => !before
  | stopHalf => !after

/-- Whether a place between two characters meets a condition; at either end of the input there is
no character. -/
def Look.holds (l : Look) (before after : Option Char) : Bool :=
  match l with
  | start => before.isNone
  | stop => after.isNone
  | lineStart => before.isNone || before == some '\n'
  | lineStop => after.isNone || after == some '\n'
  | lineStartCrlf =>
    before.isNone || before == some '\n' || (before == some '\r' && after != some '\n')
  | lineStopCrlf =>
    after.isNone || after == some '\r' || (after == some '\n' && before != some '\r')
  | word unicode edge =>
    let isWord := if unicode then isWordChar else isAsciiWordChar
    edge.holds (before.any isWord) (after.any isWord)

/-- Places noted in slots, the last first. -/
abbrev Notes := List (Nat × Nat)

/-- The place noted last in a slot. -/
def Notes.slot? (notes : Notes) (slot : Nat) : Option Nat :=
  (notes.find? fun n => n.1 == slot).map (·.2)

namespace Automaton

/-- A way through a machine: the state it has reached, and what it has noted. -/
structure Way where
  state : Nat
  notes : Notes
  deriving Inhabited

/-- The ways at one place in order of preference, and for each state the stamp of the last place at
which it was visited. -/
structure Front where
  ways : Array Way
  visited : Array Nat

/-- Extends a front by all ways that need no character. A state that was visited at this place
before was reached in a preferred way. -/
def extend (a : Automaton) (before after : Option Char) (offset stamp : Nat) :
    Nat → List Way → Front → Front
  | 0, _, front => front
  | _, [], front => front
  | fuel + 1, way :: todo, front =>
    if front.visited.getD way.state stamp == stamp then
      a.extend before after offset stamp fuel todo front
    else
      let front := { front with visited := front.visited.setIfInBounds way.state stamp }
      match a.states[way.state]? with
      | none => a.extend before after offset stamp fuel todo front
      | some (.pass next) =>
        a.extend before after offset stamp fuel (⟨next, way.notes⟩ :: todo) front
      | some (.check look next) =>
        if look.holds before after then
          a.extend before after offset stamp fuel (⟨next, way.notes⟩ :: todo) front
        else a.extend before after offset stamp fuel todo front
      | some (.split targets) =>
        let todo := targets.foldr (fun t todo => ⟨t, way.notes⟩ :: todo) todo
        a.extend before after offset stamp fuel todo front
      | some (.save slot next) =>
        a.extend before after offset stamp fuel (⟨next, (slot, offset) :: way.notes⟩ :: todo) front
      | some (.read _) | some .accept =>
        a.extend before after offset stamp fuel todo { front with ways := front.ways.push way }

/-- Moves the ways of a front over a character, up to the first that is a match. Gives the notes of
the match, and the front behind the character. -/
def step (a : Automaton) (fuel : Nat) (c : Char) (after : Option Char) (offset stamp : Nat)
    (ways : Array Way) : Nat → Nat → Front → Option Notes × Front
  | 0, _, front => (none, front)
  | todo + 1, i, front =>
    match ways[i]? with
    | none => (none, front)
    | some way =>
      match a.states[way.state]? with
      | some .accept => (some way.notes, front)
      | some (.read edges) =>
        match follow edges c.toNat with
        | some next =>
          a.step fuel c after offset stamp ways todo (i + 1)
            (a.extend (some c) after offset stamp fuel [⟨next, way.notes⟩] front)
        | none => a.step fuel c after offset stamp ways todo (i + 1) front
      | _ => a.step fuel c after offset stamp ways todo (i + 1) front

/-- The notes of the first way that is a match. -/
def accepted? (a : Automaton) (ways : Array Way) : Option Notes :=
  (ways.find? fun w => match a.states[w.state]? with
    | some .accept => true
    | _ => false).map (·.notes)

/-- Begins a new way at a place, unless a match is known. -/
def seed (a : Automaton) (fuel : Nat) (before after : Option Char) (offset : Nat)
    (best : Option Notes) (front : Front) : Front :=
  if best.isSome then front
  else a.extend before after offset (offset + 1) fuel [⟨a.start, []⟩] front

/-- Runs the machine from a place on. `best` is the preferred match so far; with `earliest` any
match will do. Stamps are offsets, counted from one. -/
def run (a : Automaton) (fuel : Nat) (earliest : Bool) (before : Option Char) (offset : Nat)
    (best : Option Notes) (front : Front) : List Char → Option Notes
  | [] => (a.accepted? (a.seed fuel before none offset best front).ways).or best
  | c :: rest =>
    let front := a.seed fuel before (some c) offset best front
    if front.ways.isEmpty && best.isSome then best
    else
      let offset := offset + c.utf8Size
      let (found, next) := a.step fuel c rest.head? offset (offset + 1) front.ways
        front.ways.size 0 ⟨#[], front.visited⟩
      let best := found.or best
      if earliest && best.isSome then best
      else a.run fuel earliest (some c) offset best next rest

/-- Runs the ways that have begun to their end, and begins no others. -/
def runOn (a : Automaton) (fuel : Nat) (offset : Nat) (best : Option Notes) (front : Front) :
    List Char → Option Notes
  | [] => (a.accepted? front.ways).or best
  | c :: rest =>
    if front.ways.isEmpty then best
    else
      let offset := offset + c.utf8Size
      let (found, next) := a.step fuel c rest.head? offset (offset + 1) front.ways
        front.ways.size 0 ⟨#[], front.visited⟩
      a.runOn fuel offset (found.or best) next rest

/-- No ways, and no state visited. -/
def emptyFront (a : Automaton) : Front := ⟨#[], Array.replicate a.states.size 0⟩

/-- The notes of the preferred match that begins at a place; before it stands a character, behind
it the rest of the input. -/
def findAt (a : Automaton) (before : Option Char) (offset : Nat) (rest : List Char) :
    Option Notes :=
  a.runOn a.closureFuel offset none
    (a.seed a.closureFuel before rest.head? offset none a.emptyFront) rest

/-- The notes of the preferred match that begins first. -/
def find (a : Automaton) (earliest : Bool) (input : String) : Option Notes :=
  a.run a.closureFuel earliest none 0 none a.emptyFront input.toList

/-- Is there a match? -/
def isMatch (a : Automaton) (input : String) : Bool := (a.find true input).isSome

/-- The spans of the groups of the preferred match that begins first. -/
def captures (a : Automaton) (groups : Nat) (input : String) : Option (List (Option Span)) :=
  (a.find false input).map fun notes => (List.range groups).map fun i => do
    return ⟨← notes.slot? (2 * i), ← notes.slot? (2 * i + 1)⟩

end Automaton

end PatternSuite.Regular
