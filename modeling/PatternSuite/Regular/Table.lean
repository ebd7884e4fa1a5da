import PatternSuite.Regular.Search
import Std.Data.HashMap

/-!
# Tables

The machine of an expression over bytes, worked out in advance: a table gives for every state and
every byte the next state, so a search takes one step for each byte. A state of the table stands
for a list of states of the machine. A match shows one byte late, since a condition at the end of
a match may depend on the byte behind it; the end of the input counts as a byte of its own.

Bytes that no part of the machine tells apart share a column. Words of any letters cannot be told
from single bytes, so a table that asks for them gives up at the first byte that is not ASCII.

* `Table.ofNode?`: the table of an expression, unless it exceeds a limit.
* `Table.search`: whether there is a match, or where the table gave up.
-/

namespace PatternSuite.Regular

open Unicode

/-! ### Sets of conditions -/

/-- The number of a word edge. -/
def WordEdge.number : WordEdge → Nat
  | boundary => 0
  | inside => 1
  | start => 2
  | stop => 3
  | startHalf => 4
  | stopHalf => 5

/-- The number of a condition. -/
def Look.number : Look → Nat
  | start => 0
  | stop => 1
  | lineStart => 2
  | lineStop => 3
  | lineStartCrlf => 4
  | lineStopCrlf => 5
  | word unicode edge => 6 + edge.number + (if unicode then 6 else 0)

/-- A set of conditions, one bit for each. -/
structure LookSet where
  bits : UInt32 := 0
  deriving BEq, DecidableEq, Hashable, Repr, Inhabited

namespace LookSet

/-- Adds a condition. -/
def insert (s : LookSet) (l : Look) : LookSet := ⟨s.bits ||| (1 <<< UInt32.ofNat l.number)⟩

/-- Adds conditions. -/
def insertAll (s : LookSet) (ls : List Look) : LookSet := ls.foldl insert s

/-- Adds an edge of words of either kind. -/
def insertWord (s : LookSet) (edge : WordEdge) : LookSet :=
  (s.insert (.word false edge)).insert (.word true edge)

/-- Is a condition in the set? -/
def contains (s : LookSet) (l : Look) : Bool :=
  s.bits &&& (1 <<< UInt32.ofNat l.number) != 0

/-- Is the set empty? -/
def isEmpty (s : LookSet) : Bool := s.bits == 0

/-- Is there a condition in the first and the third set that is not in the second? -/
def gains (new old need : LookSet) : Bool :=
  new.bits &&& (old.bits ^^^ 0xFFFFFFFF) &&& need.bits != 0

/-- Does the set ask for the start or the end of the input? -/
def hasInputEdge (s : LookSet) : Bool := s.contains .start || s.contains .stop

/-- Does the set ask for a carriage return in line ends? -/
def hasCrlf (s : LookSet) : Bool := s.contains .lineStartCrlf || s.contains .lineStopCrlf

/-- Does the set ask for the start or the end of a line? -/
def hasLine (s : LookSet) : Bool := s.contains .lineStart || s.contains .lineStop || s.hasCrlf

/-- Does the set ask for edges of words? -/
def hasWord (s : LookSet) : Bool := s.bits &&& 0x3FFC0 != 0

/-- Does the set ask for edges of words of any letters? -/
def hasUnicodeWord (s : LookSet) : Bool := s.bits &&& 0x3F000 != 0

end LookSet

/-! ### The machine over bytes -/

/-- A machine over bytes, with what its table depends on. -/
structure ByteMachine where
  machine : Automaton
  /-- Where a search begins that may skip bytes. -/
  anywhere : Nat
  /-- The conditions that occur in the machine. -/
  looks : LookSet
  /-- The conditions that occur before the first byte of a match. -/
  firstLooks : LookSet
  /-- Is there a match without any byte? -/
  nullable : Bool
  fuel : Nat

namespace ByteMachine

/-- The conditions that occur in some states. -/
def looksOf (states : Array State) : LookSet :=
  states.foldl (fun s st => match st with
    | .check l _ => s.insert l
    | _ => s) {}

/-- Visits what is reached without reading, whatever the conditions; gives the conditions met and
whether a match was. -/
def survey (a : Automaton) : Nat → List Nat → Array Bool → LookSet → Bool → LookSet × Bool
  | 0, _, _, looks, nullable => (looks, nullable)
  | _, [], _, looks, nullable => (looks, nullable)
  | fuel + 1, n :: todo, seen, looks, nullable =>
    if seen.getD n true then survey a fuel todo seen looks nullable
    else
      let seen := seen.setIfInBounds n true
      match a.states[n]? with
      | some (.pass next) => survey a fuel (next :: todo) seen looks nullable
      | some (.save _ next) => survey a fuel (next :: todo) seen looks nullable
      | some (.check l next) => survey a fuel (next :: todo) seen (looks.insert l) nullable
      | some (.split targets) => survey a fuel (targets.toList ++ todo) seen looks nullable
      | some .accept => survey a fuel todo seen looks true
      | _ => survey a fuel todo seen looks nullable

/-- The machine of an expression. Unless the expression begins at the start of the input, a search
prefers to begin a match at once and else skips a byte. -/
def ofNode (n : Node) : ByteMachine :=
  let a := Automaton.ofNode .bytes n
  let size := a.states.size
  let (machine, anywhere) : Automaton × Nat :=
    if n.startsAtStart then (a, a.start)
    else
      (⟨(a.states.push (.read #[⟨0, 0xFF, size + 1⟩])).push (.split #[a.start, size]), a.start⟩,
        size + 1)
  let fuel := machine.closureFuel
  let (firstLooks, nullable) :=
    survey machine fuel [machine.start] (Array.replicate machine.states.size false) {} false
  ⟨machine, anywhere, looksOf machine.states, firstLooks, nullable, fuel⟩

/-- Does the table give up at bytes that are not ASCII? -/
def givesUp (m : ByteMachine) : Bool := m.looks.hasUnicodeWord

/-- Is the byte a letter, a digit or an underscore? -/
def isWordByte (b : Nat) : Bool := b < 0x80 && isAsciiWordChar (Char.ofNat b)

/-- The bytes that may differ from the byte behind them. -/
def borders (m : ByteMachine) : Array Bool :=
  let mark (bs : Array Bool) (lo hi : Nat) : Array Bool :=
    let bs := if lo = 0 then bs else bs.setIfInBounds (lo - 1) true
    bs.setIfInBounds hi true
  let bs := m.machine.states.foldl (fun bs st => match st with
    | .read edges => edges.foldl (fun bs e => mark bs e.lo e.hi) bs
    | _ => bs) (Array.replicate 256 false)
  let bs := if m.looks.contains .lineStart || m.looks.contains .lineStop then mark bs 10 10 else bs
  let bs := if m.looks.hasCrlf then mark (mark bs 13 13) 10 10 else bs
  let bs := if m.looks.hasWord then
      (List.range 255).foldl
        (fun bs b => if isWordByte b != isWordByte (b + 1) then bs.setIfInBounds b true else bs) bs
    else bs
  if m.givesUp then mark bs 0x80 0xFF else bs

/-- The column of each byte, and one byte of each column. -/
def columns (m : ByteMachine) : Array Nat × Array Nat :=
  let borders := m.borders
  (List.range 256).foldl
    (fun (st : Array Nat × Array Nat) b =>
      if b = 0 || borders.getD (b - 1) false then (st.1.push st.2.size, st.2.push b)
      else (st.1.push (st.2.size - 1), st.2))
    (#[], #[])

end ByteMachine

/-! ### States of a table -/

/-- A state of a table: whether it shows a match, what is known of the byte before it, and the
states of the machine in order of preference. -/
structure TableState where
  matched : Bool := false
  /-- The byte before belongs to a word. -/
  afterWord : Bool := false
  /-- The byte before is a carriage return that may be half a line end. -/
  afterReturn : Bool := false
  /-- The conditions known to hold. -/
  known : LookSet := {}
  /-- The conditions that matter. -/
  needed : LookSet := {}
  /-- States of the machine that read, check or accept. -/
  members : List Nat := []
  deriving BEq, DecidableEq, Hashable, Repr, Inhabited

/-- What stands before the place where a search begins. -/
inductive Before
  /-- Nothing. -/
  | nothing
  | newline
  | carriageReturn
  /-- The end of a line, spelled in whatever way. -/
  | lineEnd
  | wordByte
  | otherByte
  deriving DecidableEq, Repr

namespace Determine

/-- States of the machine gathered in order, and the stamp of each state's last visit. -/
structure Gathered where
  order : Array Nat
  seen : Array Nat

/-- Gathers what is reached from some states under known conditions. -/
def gather (a : Automaton) (known : LookSet) (stamp : Nat) : Nat → List Nat → Gathered → Gathered
  | 0, _, g => g
  | _, [], g => g
  | fuel + 1, n :: todo, g =>
    if g.seen.getD n stamp == stamp then gather a known stamp fuel todo g
    else
      let g := { g with seen := g.seen.setIfInBounds n stamp }
      match a.states[n]? with
      | none => gather a known stamp fuel todo g
      | some (.pass next) => gather a known stamp fuel (next :: todo) g
      | some (.save _ next) => gather a known stamp fuel (next :: todo) g
      | some (.split targets) => gather a known stamp fuel (targets.foldr (· :: ·) todo) g
      | some (.check l next) =>
        let g := { g with order := g.order.push n }
        if known.contains l then gather a known stamp fuel (next :: todo) g
        else gather a known stamp fuel todo g
      | some (.read edges) =>
        if edges.isEmpty then gather a known stamp fuel todo g
        else gather a known stamp fuel todo { g with order := g.order.push n }
      | some .accept => gather a known stamp fuel todo { g with order := g.order.push n }

/-- A state of the table from what was gathered. Known conditions count only if some matter. -/
def close (a : Automaton) (base : TableState) (order : Array Nat) : TableState :=
  let needed := order.foldl (fun s n => match a.states[n]? with
    | some (.check l _) => s.insert l
    | _ => s) {}
  { base with
    known := if needed.isEmpty then {} else base.known
    needed := needed
    members := order.toList }

/-- What is known where a search begins. -/
def startState (looks : LookSet) : Before → TableState
  | .nothing =>
    let known : LookSet := if looks.hasInputEdge then LookSet.insert {} .start else {}
    let known := if looks.hasLine then known.insertAll [.lineStart, .lineStartCrlf] else known
    { known := if looks.hasWord then known.insertWord .startHalf else known }
  | .newline =>
    let known : LookSet :=
      if looks.hasLine then LookSet.insertAll {} [.lineStartCrlf, .lineStart] else {}
    { known := if looks.hasWord then known.insertWord .startHalf else known }
  | .carriageReturn =>
    { afterReturn := looks.hasCrlf
      known := if looks.hasWord then LookSet.insertWord {} .startHalf else {} }
  | .lineEnd =>
    let known : LookSet := if looks.hasLine then LookSet.insert {} .lineStart else {}
    { known := if looks.hasWord then known.insertWord .startHalf else known }
  | .wordByte => { afterWord := looks.hasWord }
  | .otherByte => { known := if looks.hasWord then LookSet.insertWord {} .startHalf else {} }

/-- The conditions that hold between a state and the byte behind it; no byte is the end of the
input. -/
def knownBefore (s : TableState) (byte : Option Nat) : LookSet :=
  let isNewline := byte == some 10
  let isWord := byte.any ByteMachine.isWordByte
  let known := s.known
  let known := match byte with
    | some 13 => known.insert .lineStopCrlf
    | some 10 => if s.afterReturn then known else known.insert .lineStopCrlf
    | some _ => known
    | none => known.insertAll [.stop, .lineStop, .lineStopCrlf]
  let known := if isNewline then known.insert .lineStop else known
  let known := if s.afterReturn && !isNewline then known.insert .lineStartCrlf else known
  let known := known.insertWord (if s.afterWord == isWord then .inside else .boundary)
  let known := if isWord then known else known.insertWord .stopHalf
  if s.afterWord && !isWord then known.insertWord .stop
  else if !s.afterWord && isWord then known.insertWord .start
  else known

/-- Moves members over a byte, up to the first that accepts. -/
def move (m : ByteMachine) (known : LookSet) (stamp : Nat) (byte : Option Nat) :
    List Nat → Gathered → Bool × Gathered
  | [], g => (false, g)
  | n :: ns, g =>
    match m.machine.states[n]? with
    | some .accept => (true, g)
    | some (.read edges) =>
      match byte.bind (Automaton.follow edges) with
      | some next =>
        move m known stamp byte ns (gather m.machine known stamp m.fuel [next] g)
      | none => move m known stamp byte ns g
    | _ => move m known stamp byte ns g

/-- The state behind a byte. Uses two stamps from `stamp` on. -/
def next (m : ByteMachine) (s : TableState) (byte : Option Nat) (stamp : Nat)
    (seen : Array Nat) : TableState × Array Nat :=
  let before := knownBefore s byte
  let (members, seen) :=
    if !s.needed.isEmpty && before.gains s.known s.needed then
      let g := gather m.machine before stamp (m.fuel + s.members.length) s.members ⟨#[], seen⟩
      (g.order.toList, g.seen)
    else (s.members, seen)
  let known : LookSet :=
    if m.looks.hasLine && byte == some 10 then LookSet.insert {} .lineStart else {}
  let known := if m.looks.hasCrlf && byte == some 10 then known.insert .lineStartCrlf else known
  let isWord := byte.any ByteMachine.isWordByte
  let known := if m.looks.hasWord && !isWord then known.insertWord .startHalf else known
  let (matched, g) := move m known (stamp + 1) byte members ⟨#[], seen⟩
  let alive := !g.order.isEmpty
  let base : TableState :=
    { matched := matched
      afterWord := alive && m.looks.hasWord && isWord
      afterReturn := alive && m.looks.hasCrlf && byte == some 13
      known := known }
  (close m.machine base g.order, g.seen)

end Determine

/-! ### Tables -/

/-- A table. State 0 leads nowhere, state 1 gives up. -/
structure Table where
  /-- The column of each byte; the last column is the end of the input. -/
  columnOf : Array Nat
  rows : Array (Array Nat)
  matched : Array Bool
  /-- The state in which a search begins, by what stands before it. -/
  start : Before → Nat
  /-- Does the table give up at bytes that are not ASCII? -/
  givesUp : Bool
  /-- May a match be empty? -/
  nullable : Bool

namespace Table

/-- A table in the making. -/
structure Draft where
  states : Array TableState
  numbers : Std.HashMap TableState Nat
  rows : Array (Array Nat)
  /-- States whose rows are still empty. -/
  todo : List Nat
  seen : Array Nat
  stamp : Nat

/-- What a table takes besides its rows. -/
def fixedSize : Nat := 52

/-- The size of a row: room for every column and the end, rounded up to a power of two. -/
def rowSize (columns : Nat) : Nat := 4 * (columns + 1).nextPowerOfTwo

/-- The number of a state, which is added if it is new and does not exceed the limit. -/
def number? (row limit : Nat) (s : TableState) (d : Draft) : Option (Nat × Draft) :=
  match d.numbers[s]? with
  | some n => some (n, d)
  | none =>
    let n := d.states.size
    if limit < (n + 1) * row + fixedSize then none
    else some (n, { d with
      states := d.states.push s, numbers := d.numbers.insert s n, rows := d.rows.push #[],
      todo := n :: d.todo })

/-- The states that searches begin in, from anywhere and from one place. -/
def starts? (m : ByteMachine) (row limit : Nat) (d : Draft) :
    Option ((Before → Nat) × Draft) := do
  let first (place : Nat) (before : Before) (d : Draft) : Option (Nat × Draft) :=
    let base := Determine.startState m.looks before
    let g := Determine.gather m.machine base.known d.stamp m.fuel [place] ⟨#[], d.seen⟩
    number? row limit (Determine.close m.machine base g.order)
      { d with seen := g.seen, stamp := d.stamp + 1 }
  let group (place : Nat) (d : Draft) : Option ((Before → Nat) × Draft) := do
    let (other, d) ← first place .otherByte d
    let (word, d) ← if m.firstLooks.hasWord then first place .wordByte d else some (other, d)
    let lines := m.firstLooks.hasInputEdge || m.firstLooks.hasLine
    let (nothing, d) ← if lines then first place .nothing d else some (other, d)
    let (newline, d) ← if lines then first place .newline d else some (other, d)
    let (cr, d) ← if lines then first place .carriageReturn d else some (other, d)
    let (lineEnd, d) ← if lines then first place .lineEnd d else some (other, d)
    return (fun
      | .nothing => nothing
      | .newline => newline
      | .carriageReturn => cr
      | .lineEnd => lineEnd
      | .wordByte => word
      | .otherByte => other, d)
  let (anywhere, d) ← group m.anywhere d
  let (_, d) ← group m.machine.start d
  return (anywhere, d)

/-- Fills the row of a state, column by column. -/
def fillRow (m : ByteMachine) (row limit : Nat) (s : TableState) :
    List (Option Nat) → Array Nat → Draft → Option (Array Nat × Draft)
  | [], cells, d => some (cells, d)
  | byte :: bytes, cells, d =>
    if m.givesUp && byte.any (0x80 ≤ ·) then fillRow m row limit s bytes (cells.push 1) d
    else
      let (t, seen) := Determine.next m s byte d.stamp d.seen
      match number? row limit t { d with seen := seen, stamp := d.stamp + 2 } with
      | none => none
      | some (n, d) => fillRow m row limit s bytes (cells.push n) d

/-- Fills rows until none is empty. The fuel is the number of states that the limit allows. -/
def fill (m : ByteMachine) (row limit : Nat) (bytes : List (Option Nat)) :
    Nat → Draft → Option Draft
  | 0, d => some d
  | fuel + 1, d =>
    match d.todo with
    | [] => some d
    | n :: todo =>
      match fillRow m row limit (d.states.getD n {}) bytes #[] { d with todo := todo } with
      | none => none
      | some (cells, d) =>
        fill m row limit bytes fuel { d with rows := d.rows.setIfInBounds n cells }

/-- The table of an expression, if its size does not exceed the limit. -/
def ofNode? (limit : Nat) (n : Node) : Option Table := do
  let m := ByteMachine.ofNode n
  let (columnOf, samples) := m.columns
  let bytes := samples.toList.map some ++ [none]
  let row := rowSize samples.size
  let dead := Array.replicate bytes.length 0
  let d : Draft :=
    { states := #[{}, {}], numbers := ({} : Std.HashMap TableState Nat).insert {} 0
      rows := #[dead, dead], todo := [], seen := Array.replicate m.machine.states.size 0, stamp := 1 }
  let (start, d) ← starts? m row limit d
  let d ← fill m row limit bytes (limit / row + 1) d
  return ⟨columnOf, d.rows, d.states.map (·.matched), start, m.givesUp, m.nullable⟩

/-- The state behind a state and a column. -/
def step (t : Table) (state column : Nat) : Nat := (t.rows.getD state #[]).getD column 0

/-- How a search by table ends. -/
inductive Answer
  | found (offset : Nat)
  | none
  /-- The table cannot tell, because of this byte at this offset. -/
  | gaveUp (byte : UInt8) (offset : Nat)
  deriving DecidableEq, Repr

/-- The earliest end of a match from a place on, in a state. -/
def scan (t : Table) (state offset : Nat) : List UInt8 → Answer
  | [] =>
    if t.matched.getD (t.step state (t.columnOf.back?.getD 0 + 1)) false then .found offset
    else .none
  | b :: bs =>
    let state := t.step state (t.columnOf.getD b.toNat 0)
    if state = 1 then .gaveUp b offset
    else if state = 0 then .none
    else if t.matched.getD state false then .found offset
    else t.scan state (offset + 1) bs

/-- What a byte before a search is. -/
def beforeByte (b : UInt8) : Before :=
  if b = 10 then .newline
  else if b = 13 then .carriageReturn
  else if ByteMachine.isWordByte b.toNat then .wordByte
  else .otherByte

/-- Does a character begin here, or the input end? -/
def isBoundary : List UInt8 → Bool
  | [] => true
  | b :: _ => b < 0x80 || 0xC0 ≤ b

/-- Searches again from each further byte, until a match does not end inside a character. `ahead`
is the number of bytes from the present start to the end of the last match. -/
def skipSplits (t : Table) (offset : Nat) (stop : Nat) : List UInt8 → Answer
  | [] => .found stop
  | b :: bs =>
    if isBoundary ((b :: bs).drop (stop - offset)) then .found stop
    else if t.givesUp && 0x80 ≤ b then .gaveUp b offset
    else
      match t.scan (t.start (beforeByte b)) (offset + 1) bs with
      | .found stop => t.skipSplits (offset + 1) stop bs
      | answer => answer

/-- Searches an input. An empty match inside a character does not count. -/
def search (t : Table) (input : String) : Answer :=
  let bytes := input.toUTF8.toList
  match t.scan (t.start .nothing) 0 bytes with
  | .found stop => if t.nullable then t.skipSplits 0 stop bytes else .found stop
  | answer => answer

end Table

end PatternSuite.Regular
