import PatternSuite.Backtracking.Shape
import PatternSuite.Regular.Regex

/-!
# Programs for fancy patterns

A fancy pattern as a list of instructions for a machine that tries one way at a time and goes back
when it fails. Runs of parts that are not hard are left to the matcher of basic patterns, where
that cannot change what is found: where nothing hard may ask for another way through them, or where
they always take the same number of characters.

* `Program.ofPart`: the program of a pattern.
-/

namespace PatternSuite.Backtracking

open Regular (Look Regex)

/-- A repetition: how often, where to go on afterwards, and the counter of its turns. -/
structure Loop where
  min : Nat
  max : Option Nat
  next : Nat
  counter : Nat
  greedy : Bool
  deriving Inhabited

/-- An instruction. -/
inductive Instr
  /-- The pattern has matched. -/
  | stop
  /-- Reads any character, perhaps except newlines. -/
  | any (newline : Bool)
  /-- Reads some characters. -/
  | text (chars : List Char)
  /-- Goes on where a condition holds. -/
  | look (l : Look)
  /-- Goes on in one way, and in another if that fails. -/
  | split (first second : Nat)
  | jump (target : Nat)
  /-- Notes the place in a slot. -/
  | save (slot : Nat)
  /-- Goes back to the place in a slot. -/
  | restore (slot : Nat)
  /-- Sets a counter to zero. -/
  | reset (counter : Nat)
  /-- A turn of a repetition. -/
  | turn (loop : Loop)
  /-- A turn of a repetition that must not stay where it was; the slot holds the last place. -/
  | movingTurn (loop : Loop) (check : Nat)
  /-- Goes back by a number of characters. -/
  | back (count : Nat)
  /-- Fails what must not be around a place, with all ways through it. -/
  | failAround
  /-- Reads the text of a group. -/
  | sameAs (group : Nat)
  /-- Goes on if a group has taken part. -/
  | groupSet (group : Nat)
  /-- Begins what is matched in one way only. -/
  | beginAtomic
  /-- Forgets all other ways since the beginning. -/
  | endAtomic
  /-- Reads what a regular expression matches here; its groups are `count` groups from `first`. -/
  | part (regex : Regex) (first count : Nat)
  /-- Goes on at the place where the search began. -/
  | searchStart
  deriving Inhabited

/-- A program, and how many slots and counters it uses. -/
structure Program where
  code : Array Instr := #[]
  slots : Nat := 0
  counters : Nat := 0
  deriving Inhabited

namespace Program

/-- Construction of a program. -/
abbrev Build := StateT Program (Except Obstacle)

namespace Build

/-- The address of the next instruction. -/
def here : Build Nat := return (← get).code.size

/-- Adds an instruction. -/
def add (i : Instr) : Build Unit := modify fun p => { p with code := p.code.push i }

/-- Changes an instruction. -/
def patch (address : Nat) (f : Instr → Instr) : Build Unit :=
  modify fun p => { p with code := p.code.modify address f }

/-- A new slot. -/
def newSlot : Build Nat := modifyGet fun p => (p.slots, { p with slots := p.slots + 1 })

/-- A new counter. -/
def newCounter : Build Nat := modifyGet fun p => (p.counters, { p with counters := p.counters + 1 })

/-- Sends one way of a choice to an address: the second way or the first. -/
def aimSplit (second : Bool) (target : Nat) : Instr → Instr
  | .split a b => if second then .split a target else .split target b
  | i => i

/-- Sends a jump or the end of a repetition to an address. -/
def aim (target : Nat) : Instr → Instr
  | .jump _ => .jump target
  | .turn l => .turn { l with next := target }
  | .movingTurn l check => .movingTurn { l with next := target } check
  | i => i

/-- Leaves parts in a row to the matcher of basic patterns; characters alone are compared. -/
def addRegular (ps : List Part) : Build Unit := do
  match ps with
  | [] => return
  | p :: _ =>
    match Expr.plainRow? (ps.map Part.expr) with
    | some chars => add (.text chars)
    | none =>
      let first := p.shape.firstGroup
      let stop := ps.foldl (fun _ q => q.shape.endGroup) first
      match Regex.compile (String.join (ps.map fun q => q.expr.spell 1)) {} with
      | .error (.fault _) => throw .partUnreadable
      | .error .tooLarge => throw .partTooLarge
      | .ok regex => add (.part regex first (stop - first))

/-- How many parts in front of others can be left to the matcher of basic patterns. -/
def leadingRegular (ps : List Part) : Nat :=
  (ps.takeWhile fun p => p.shape.constSize && !p.shape.hard).length

/-- How many parts behind others can be left to it. Where another way may be asked for, they must
have a constant size. -/
def trailingRegular (asked : Bool) (ps : List Part) : Nat :=
  (ps.reverse.takeWhile fun p => (p.shape.constSize || !asked) && !p.shape.hard).length

/-- A repetition of a body that takes at least one character, or any body with a bound. -/
def loop (min : Nat) (max : Option Nat) (greedy nullable : Bool) (body : Build Unit) :
    Build Unit := do
  if min = 0 ∧ max = some 1 then
    let start ← here
    add (.split (start + 1) (start + 1))
    body
    patch start (aimSplit greedy (← here))
  else if max = none ∧ nullable then
    let counter ← newCounter
    let check ← newSlot
    add (.reset counter)
    let start ← here
    add (.movingTurn ⟨min, none, 0, counter, greedy⟩ check)
    body
    add (.jump start)
    patch start (aim (← here))
  else if min = 0 ∧ max = none then
    let start ← here
    add (.split (start + 1) (start + 1))
    body
    add (.jump start)
    patch start (aimSplit greedy (← here))
  else if min = 1 ∧ max = none then
    let start ← here
    body
    let next := (← here) + 1
    add (if greedy then .split start next else .split next start)
  else
    let counter ← newCounter
    add (.reset counter)
    let start ← here
    add (.turn ⟨min, max, 0, counter, greedy⟩)
    body
    add (.jump start)
    patch start (aim (← here))

/-- Goes back in front of what comes before a place; its size must be constant. -/
def goBack (kind : Around) (inner : Shape) : Build Unit := do
  if kind = .behind || kind = .notBehind then
    if !inner.constSize then throw .lookBehindSize
    add (.back inner.minSize)

/-- What must be around a place. -/
def positive (kind : Around) (inner : Shape) (body : Build Unit) : Build Unit := do
  let slot ← newSlot
  add (.save slot)
  goBack kind inner
  body
  add (.restore slot)

/-- What must not be around a place. -/
def negative (kind : Around) (inner : Shape) (body : Build Unit) : Build Unit := do
  let start ← here
  add (.split (start + 1) 0)
  goBack kind inner
  body
  add .failAround
  patch start (aimSplit true (← here))

/-- Looking around a place. -/
def lookAround (kind : Around) (inner : Shape) (body : Build Unit) : Build Unit :=
  if kind = .ahead || kind = .behind then positive kind inner body else negative kind inner body

/-- One of several, each of which jumps behind all of them. -/
def branches (bodies : List (Build Unit)) : Build Unit := do
  let jumps ← go [] bodies
  let stop ← here
  for j in jumps do patch j (aim stop)
where
  /-- The remaining branches; gives the addresses of the jumps. -/
  go (jumps : List Nat) : List (Build Unit) → Build (List Nat)
    | [] => return jumps
    | [body] => do
      body
      return jumps
    | body :: rest => do
      let start ← here
      add (.split (start + 1) 0)
      body
      let jump ← here
      add (.jump 0)
      patch start (aimSplit true (← here))
      go (jump :: jumps) rest

mutual

/-- The instructions of a part. `asked` says that another way through it may be asked for. -/
def part (asked : Bool) : Part → Build Unit
  | .mk expr shape parts =>
    if !asked && !shape.hard then addRegular [.mk expr shape parts]
    else match expr with
      | .empty => return
      | .literal chars caseless =>
        if caseless then addRegular [.mk expr shape parts] else add (.text chars)
      | .any newline => add (.any newline)
      | .look l => add (.look l)
      | .atom .. => addRegular [.mk expr shape parts]
      | .row _ => do
        let leading := leadingRegular parts
        let trailing := trailingRegular asked (parts.drop leading)
        let stop := parts.length - trailing
        addRegular (parts.take leading)
        middle leading (stop - leading) parts
        addRegular (parts.drop stop)
      | .choice _ => branches (alternatives asked parts)
      | .group _ => do
        add (.save (2 * shape.firstGroup))
        inner asked parts
        add (.save (2 * shape.firstGroup + 1))
      | .times min max greedy _ =>
        loop min max greedy (minSizeOf parts == 0)
          (inner (if min = 0 ∧ max = some 1 then asked else asked || shape.hard) parts)
      | .around kind _ => around kind parts
      | .sameAs group => add (.sameAs group)
      | .groupSet group => add (.groupSet group)
      | .atomic _ => do
        add .beginAtomic
        inner false parts
        add .endAtomic
      | .keepOut => add (.save 0)
      | .searchStart => add .searchStart
      | .ifElse .. =>
        match alternatives asked parts with
        | [condition, whenTrue, whenFalse] => do
          add .beginAtomic
          let start ← here
          add (.split (start + 1) 0)
          condition
          add .endAtomic
          whenTrue
          let jump ← here
          add (.jump 0)
          patch start (aimSplit true (← here))
          whenFalse
          patch jump (aim (← here))
        | _ => return

/-- The instructions of the only part of a part. -/
def inner (asked : Bool) : List Part → Build Unit
  | [] => return
  | p :: _ => part asked p

/-- The least size of the only part of a part. -/
def minSizeOf : List Part → Nat
  | [] => 0
  | p :: _ => p.shape.minSize

/-- The instructions of each of several parts. -/
def alternatives (asked : Bool) : List Part → List (Build Unit)
  | [] => []
  | p :: ps => part asked p :: alternatives asked ps

/-- The instructions of some parts of a row. -/
def middle (skip count : Nat) : List Part → Build Unit
  | [] => return
  | p :: ps =>
    match skip, count with
    | skip + 1, count => middle skip count ps
    | 0, 0 => return
    | 0, count + 1 => do
      part true p
      middle 0 count ps

/-- The instructions that look around a place for a part. Looking behind for one of several parts
of different sizes looks behind for each by itself. -/
def around (kind : Around) : List Part → Build Unit
  | [] => return
  | .mk (.choice es) shape ps :: _ =>
    if shape.constSize then
      lookAround kind shape (part false (.mk (.choice es) shape ps))
    else match kind with
      | .behind => branches (lookBehinds .behind ps)
      | .notBehind => do
        for b in lookBehinds .notBehind ps do b
      | kind => lookAround kind shape (part false (.mk (.choice es) shape ps))
  | p :: _ => lookAround kind p.shape (part false p)

/-- The instructions that look behind a place for each of several parts. -/
def lookBehinds (kind : Around) : List Part → List (Build Unit)
  | [] => []
  | p :: ps => lookAround kind p.shape (part false p) :: lookBehinds kind ps

end

/-- A pattern that may begin anywhere: it begins here, or a character is skipped. -/
def whole (p : Part) : Build Unit := do
  add (.split 3 1)
  add (.any true)
  add (.jump 0)
  part true p
  add .stop

end Build

/-- The program of a pattern. -/
def ofPart (p : Part) : Except Obstacle Program :=
  return (← (Build.whole p).run { slots := 2 * p.shape.endGroup }).2

end Program

end PatternSuite.Backtracking
