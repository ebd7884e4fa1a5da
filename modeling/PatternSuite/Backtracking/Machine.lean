import PatternSuite.Backtracking.Program
import PatternSuite.Text.Turns

/-!
# Running programs for fancy patterns

The machine follows one way through its program. Where it leaves another way for later, that way is
put on a pile as it stands, with all places and counters noted so far; where it fails, it takes the
way on top of the pile. How often it may go back is limited, and so is the height of the pile.

* `Way`: a way through a program.
* `Run.step`: one turn of the machine.
* `Program.search`: the slots of the first match.
-/

namespace PatternSuite.Backtracking

open Text
open Regular (Look Notes)

/-- A place in the input, between the characters before it, the nearest first, and the rest. -/
structure Place where
  before : List Char
  rest : List Char
  /-- The number of bytes before the place. -/
  offset : Nat
  deriving Inhabited

namespace Place

/-- The place behind the next character. -/
def next? (p : Place) : Option (Char × Place) :=
  match p.rest with
  | [] => none
  | c :: cs => some (c, ⟨c :: p.before, cs, p.offset + c.utf8Size⟩)

/-- The place behind some characters, if they come next. -/
def read? (p : Place) : List Char → Option Place
  | [] => some p
  | c :: cs =>
    match p.next? with
    | some (d, q) => if c = d then q.read? cs else none
    | none => none

/-- The place a number of characters further back. -/
def back? (p : Place) : Nat → Option Place
  | 0 => some p
  | n + 1 =>
    match p.before with
    | [] => none
    | c :: cs => Place.back? ⟨cs, c :: p.rest, p.offset - c.utf8Size⟩ n

/-- The place at an offset that is not before the place; `rest` are the characters to go over. -/
def advanceOver (offset : Nat) (before : List Char) (here : Nat) : List Char → Place
  | [] => ⟨before, [], here⟩
  | c :: cs =>
    if offset ≤ here then ⟨before, c :: cs, here⟩
    else advanceOver offset (c :: before) (here + c.utf8Size) cs

/-- The place at an offset that is not before the place. -/
def advanceTo (p : Place) (offset : Nat) : Place :=
  advanceOver offset p.before p.offset p.rest

/-- The characters between the place and an offset that is not before it. -/
def textUpTo (p : Place) (offset : Nat) : List Char := takeBytes (offset - p.offset) p.rest

end Place

/-- What has been noted on a way. -/
structure Memory where
  /-- The place noted in each slot. -/
  slots : Array (Option Place)
  /-- The number of turns of each repetition. -/
  counters : Array Nat
  /-- The height of the pile where each part that matches in one way only began, the latest
  first. -/
  heights : List Nat := []
  deriving Inhabited

/-- A way through a program. -/
structure Way where
  /-- The address of the next instruction. -/
  pc : Nat
  place : Place
  memory : Memory
  deriving Inhabited

/-- How a search for a fancy pattern ends without an answer. -/
inductive Exhaustion
  /-- There are more ways left for later than the pile may hold. -/
  | pile
  /-- The machine has gone back too often. -/
  | failures
  deriving DecidableEq, Repr, Inhabited

/-- How a run ends. -/
inductive Ending
  | found (memory : Memory)
  | notFound
  | exhausted (e : Exhaustion)
  deriving Inhabited

/-- The way at hand, and the ways left for later. -/
structure Run where
  now : Way
  /-- The ways left for later, the latest first. -/
  pile : List Way := []
  /-- The number of ways in the pile. -/
  height : Nat := 0
  /-- How often the machine has gone back. -/
  failures : Nat := 0
  deriving Inhabited

namespace Memory

/-- Notes a place in a slot. -/
def save (m : Memory) (slot : Nat) (p : Option Place) : Memory :=
  { m with slots := m.slots.setIfInBounds slot p }

/-- The place noted in a slot. -/
def slot? (m : Memory) (slot : Nat) : Option Place := (m.slots[slot]?).join

/-- The number of turns of a repetition. -/
def count (m : Memory) (counter : Nat) : Nat := m.counters.getD counter 0

/-- Notes the number of turns of a repetition. -/
def setCount (m : Memory) (counter n : Nat) : Memory :=
  { m with counters := m.counters.setIfInBounds counter n }

/-- The text of a group that has taken part. -/
def groupText? (m : Memory) (group : Nat) : Option (List Char) := do
  let start ← m.slot? (2 * group)
  let stop ← m.slot? (2 * group + 1)
  return start.textUpTo stop.offset

/-- Notes the groups of a part, which has numbered them from one. -/
def saveGroups (m : Memory) (start : Place) (notes : Notes) (first count : Nat) : Memory :=
  (List.range count).foldl
    (fun m i =>
      match notes.slot? (2 * (i + 1)), notes.slot? (2 * (i + 1) + 1) with
      | some lo, some hi =>
        (m.save (2 * (first + i)) (some (start.advanceTo lo))).save (2 * (first + i) + 1)
          (some (start.advanceTo hi))
      | _, _ => (m.save (2 * (first + i)) none).save (2 * (first + i) + 1) none)
    m

/-- The slots when the match is found. A match that would begin behind its end begins there. -/
def finished (m : Memory) : Memory :=
  match m.slot? 0, m.slot? 1 with
  | some start, some stop => if stop.offset < start.offset then m.save 0 (some stop) else m
  | _, _ => m

end Memory

namespace Way

/-- Goes on with the next instruction, at a place. -/
def at' (w : Way) (p : Place) : Way := { w with pc := w.pc + 1, place := p }

/-- Goes on with the next instruction. -/
def on (w : Way) : Way := { w with pc := w.pc + 1 }

/-- Goes on elsewhere. -/
def goto (w : Way) (pc : Nat) : Way := { w with pc := pc }

end Way

namespace Run

/-- How many ways may be left for later. -/
def pileLimit : Nat := 1000000

/-- What a turn leads to. -/
abbrev Step := Turn Run Ending

/-- Goes on with a way. -/
def goOn (r : Run) (w : Way) : Step := .again { r with now := w }

/-- Goes back to the way left for later last. -/
def fail (limit : Nat) (r : Run) : Step :=
  match r.pile with
  | [] => .done .notFound
  | w :: ws =>
    if limit ≤ r.failures then .done (.exhausted .failures)
    else .again ⟨w, ws, r.height - 1, r.failures + 1⟩

/-- Goes on with a way if there is one. -/
def goOnOrFail (limit : Nat) (r : Run) : Option Way → Step
  | some w => r.goOn w
  | none => r.fail limit

/-- Goes on with a way and leaves another for later. -/
def choose (r : Run) (w other : Way) : Step :=
  if pileLimit ≤ r.height then .done (.exhausted .pile)
  else .again { r with now := w, pile := other :: r.pile, height := r.height + 1 }

/-- A turn of a repetition whose counter is below the greatest number of turns. -/
def turn (r : Run) (loop : Loop) : Step :=
  let w := r.now
  let count := w.memory.count loop.counter
  let w := { w with memory := w.memory.setCount loop.counter (count + 1) }
  if count < loop.min then r.goOn w.on
  else if loop.greedy then r.choose w.on (w.goto loop.next)
  else r.choose (w.goto loop.next) w.on

/-- A turn of a repetition that must move: where it has not moved since its last turn, it fails. -/
def movingTurn (limit : Nat) (r : Run) (loop : Loop) (check : Nat) : Step :=
  let w := r.now
  let count := w.memory.count loop.counter
  if 0 < count && (w.memory.slot? check).any (fun p => p.offset == w.place.offset) then
    r.fail limit
  else if count < loop.min then r.turn loop
  else
    Run.turn { r with now := { w with memory := w.memory.save check (some w.place) } } loop

/-- Takes all ways from the pile down to one that goes on at an address, and that one too. -/
def dropDownTo (r : Run) (pc : Nat) : Run :=
  let kept := r.pile.dropWhile fun w => w.pc != pc
  { r with pile := kept.drop 1, height := kept.length - 1 }

/-- Takes all ways from the pile down to a height. -/
def cutTo (r : Run) (height : Nat) : Run :=
  if r.height ≤ height then r
  else { r with pile := r.pile.drop (r.height - height), height := height }

/-- Goes behind what a regular part matches at the place, and notes its groups. -/
def readPart (w : Way) (part : Regular.Regex) (first count : Nat) : Option Way := do
  let notes ← part.machine.findAt w.place.before.head? w.place.offset w.place.rest
  let stop ← notes.slot? 1
  let memory := w.memory.saveGroups w.place notes first count
  return { (w.at' (w.place.advanceTo stop)) with memory := memory }

/-- One turn of the machine. -/
def step (program : Program) (limit : Nat) (r : Run) : Step :=
  let w := r.now
  match program.code[w.pc]? with
  | none => .done .notFound
  | some instr => match instr with
    | .stop => .done (.found w.memory.finished)
    | .any newline =>
      r.goOnOrFail limit <| match w.place.next? with
        | some (c, p) => if newline || c != '\n' then some (w.at' p) else none
        | none => none
    | .text chars => r.goOnOrFail limit ((w.place.read? chars).map w.at')
    | .look l =>
      if l.holds w.place.before.head? w.place.rest.head? then r.goOn w.on else r.fail limit
    | .split first second => r.choose (w.goto first) (w.goto second)
    | .jump target => r.goOn (w.goto target)
    | .save slot => r.goOn { w.on with memory := w.memory.save slot (some w.place) }
    | .restore slot => r.goOnOrFail limit ((w.memory.slot? slot).map w.at')
    | .reset counter => r.goOn { w.on with memory := w.memory.setCount counter 0 }
    | .turn loop =>
      if loop.max == some (w.memory.count loop.counter) then r.goOn (w.goto loop.next)
      else r.turn loop
    | .movingTurn loop check => r.movingTurn limit loop check
    | .back count => r.goOnOrFail limit ((w.place.back? count).map w.at')
    | .failAround => (r.dropDownTo (w.pc + 1)).fail limit
    | .sameAs group =>
      r.goOnOrFail limit do
        let chars ← w.memory.groupText? group
        return w.at' (← w.place.read? chars)
    | .groupSet group =>
      if (w.memory.slot? (2 * group)).isSome then r.goOn w.on else r.fail limit
    | .beginAtomic =>
      r.goOn { w.on with memory := { w.memory with heights := r.height :: w.memory.heights } }
    | .endAtomic =>
      match w.memory.heights with
      | [] => r.goOn w.on
      | h :: hs => (r.cutTo h).goOn { w.on with memory := { w.memory with heights := hs } }
    | .part regex first count => r.goOnOrFail limit (readPart w regex first count)
    | .searchStart => if w.place.offset = 0 then r.goOn w.on else r.fail limit

/-- More turns than any run takes that comes to an end in practice. -/
def fuel : Nat := Nat.pow 2 62

end Run

namespace Program

/-- A run at the beginning of an input. -/
def begin (p : Program) (input : List Char) : Run where
  now :=
    { pc := 0
      place := ⟨[], input, 0⟩
      memory := ⟨Array.replicate p.slots none, Array.replicate p.counters 0, []⟩ }

/-- How the search for the first match ends; the machine may go back at most `limit` times. -/
def search (p : Program) (limit : Nat) (input : String) : Ending :=
  Id.run (takeTurns (Run.step p limit) Run.fuel (p.begin input.toList))

end Program

end PatternSuite.Backtracking
