import PatternSuite.Regular.LiteralTrie
import PatternSuite.Unicode.Utf8

/-!
# Automata

An expression as a machine with numbered states. The same construction gives a machine that reads
characters, which searches, and one that reads bytes, from which a table is made. Where a machine
has several ways on, the earlier ones are preferred.

* `Automaton.ofNode`: the machine of an expression.
-/

namespace PatternSuite.Regular

open Unicode

/-- The symbols from `lo` to `hi`, and the state they lead to. -/
structure Edge where
  lo : Nat
  hi : Nat
  next : Nat
  deriving Repr, Inhabited

/-- A state of a machine. -/
inductive State
  /-- Goes on. -/
  | pass (next : Nat)
  /-- Reads a symbol; the edges ascend and do not overlap. -/
  | read (edges : Array Edge)
  /-- Goes on where a condition holds. -/
  | check (look : Look) (next : Nat)
  /-- Goes on in any of several ways. -/
  | split (targets : Array Nat)
  /-- Notes the place in a slot. -/
  | save (slot next : Nat)
  /-- A match. -/
  | accept
  deriving Repr, Inhabited

/-- What a machine reads. -/
inductive Alphabet
  | characters
  | bytes
  deriving DecidableEq, Repr

/-- A machine. -/
structure Automaton where
  states : Array State
  /-- Where a search at a place begins. -/
  start : Nat
  deriving Repr, Inhabited

namespace Automaton

/-- A state under construction: the ways on of a lazy choice are kept in reverse. -/
inductive Draft
  | state (s : State)
  | lazySplit (targets : Array Nat)
  deriving Inhabited

/-- Construction of a machine, state by state. -/
abbrev Build := StateM (Array Draft)

/-- A piece of a machine: where it begins, and the state whose ways on are still open. -/
structure Piece where
  start : Nat
  stop : Nat
  deriving Inhabited

namespace Build

/-- Adds a state. -/
def add (d : Draft) : Build Nat := modifyGet fun ds => (ds.size, ds.push d)

/-- Adds a state that goes on to wherever it will be told. -/
def addPass : Build Nat := add (.state (.pass 0))

/-- Adds a choice without ways on. -/
def addSplit (greedy : Bool) : Build Nat :=
  add (if greedy then .state (.split #[]) else .lazySplit #[])

/-- Tells a state where to go on. -/
def link (source target : Nat) : Build Unit := modify fun ds =>
  ds.modify source fun
    | .state (.pass _) => .state (.pass target)
    | .state (.read edges) => .state (.read (edges.map fun e => { e with next := target }))
    | .state (.check l _) => .state (.check l target)
    | .state (.split targets) => .state (.split (targets.push target))
    | .state (.save slot _) => .state (.save slot target)
    | .state .accept => .state .accept
    | .lazySplit targets => .lazySplit (targets.push target)

/-- The piece of a single state. -/
def single (d : Draft) : Build Piece := do
  let n ← add d
  return ⟨n, n⟩

/-- Puts pieces one behind the other. -/
def chain : List Piece → Build Piece
  | [] => single (.state (.pass 0))
  | p :: ps => go p ps
where
  /-- Puts pieces behind a piece. -/
  go (p : Piece) : List Piece → Build Piece
    | [] => return p
    | q :: qs => do
      link p.stop q.start
      go ⟨p.start, q.stop⟩ qs

/-- The symbols of some characters. -/
def symbols (alphabet : Alphabet) (chars : List Char) : List Nat :=
  match alphabet with
  | .characters => chars.map (·.toNat)
  | .bytes => (String.ofList chars).toUTF8.toList.map (·.toNat)

/-- Reads one symbol after the other. -/
def word (symbols : List Nat) : Build Piece := do
  chain (← symbols.mapM fun s => single (.state (.read #[⟨s, s, 0⟩])))

/-- Reads one symbol of some intervals. -/
def ranges (is : List Interval) : Build Piece := do
  let stop ← addPass
  let start ← add (.state (.read (is.map fun i => ⟨i.lo, i.hi, stop⟩).toArray))
  return ⟨start, stop⟩

/-- Reads the bytes of one character of a set. -/
def byteTrie (t : ByteTrie) : Build Piece := do
  let stop ← addPass
  let numbers ← t.nodes.foldlM
    (fun (numbers : Array Nat) branches => do
      let edges := branches.map fun b =>
        (⟨b.range.lo, b.range.hi, (b.next.map fun n => numbers.getD n 0).getD stop⟩ : Edge)
      return numbers.push (← add (.state (.read edges.toArray))))
    #[]
  return ⟨numbers.back?.getD stop, stop⟩

/-- Reads one character of a set. -/
def set (alphabet : Alphabet) (s : CharSet) : Build Piece :=
  if alphabet = .characters || s.isAscii then ranges s.intervals
  else byteTrie (ByteTrie.ofSet s)

mutual

/-- Reads one of the literals of a tree, up to `stop`. -/
def trie (stop : Nat) : LiteralTrie → Build Nat
  | .node ended current => do
    let (before : List Nat) ← trieRuns stop ended
    let last ← trieRun stop #[] current
    add (.state (.split (before ++ last.toList).toArray))

/-- Reads on in one of the runs behind which a literal ends, or ends it. -/
def trieRuns (stop : Nat) : List (List (Nat × LiteralTrie)) → Build (List Nat)
  | [] => return []
  | r :: rs => do
    let n ← trieRun stop #[] r
    return n.toList ++ stop :: (← trieRuns stop rs)

/-- Reads on in a run of branches, the first of which are done. -/
def trieRun (stop : Nat) (edges : Array Edge) : List (Nat × LiteralTrie) → Build (Option Nat)
  | [] => do
    if edges.isEmpty then return none
    return some (← add (.state (.read edges)))
  | b :: bs => do trieRun stop (edges.push (← trieBranch stop b)) bs

/-- Reads on behind the symbol of a branch. -/
def trieBranch (stop : Nat) : Nat × LiteralTrie → Build Edge
  | (symbol, t) => do
    if t.isLeaf then return ⟨symbol, symbol, stop⟩
    return ⟨symbol, symbol, ← trie stop t⟩

end

/-- One of several pieces. -/
def oneOf (pieces : List Piece) : Build Piece := do
  let start ← addSplit true
  let stop ← addPass
  for p in pieces do
    link start p.start
    link p.stop stop
  return ⟨start, stop⟩

/-- A number of copies, one behind the other. -/
def copies (n : Nat) (body : Build Piece) : Build Piece := do
  chain (← (List.replicate n body).mapM id)

/-- At least `min` copies. What may be empty is repeated only behind a first copy, so that the
order of preference is kept. -/
def atLeast (min : Nat) (greedy nullable : Bool) (body : Build Piece) : Build Piece := do
  if min = 0 then
    if nullable then
      let p ← body
      let plus ← addSplit greedy
      link p.stop plus
      link plus p.start
      let question ← addSplit greedy
      let stop ← addPass
      link question p.start
      link question stop
      link plus stop
      return ⟨question, stop⟩
    else
      let split ← addSplit greedy
      let p ← body
      link split p.start
      link p.stop split
      return ⟨split, split⟩
  else
    let before ← if min = 1 then pure none else some <$> copies (min - 1) body
    let p ← body
    let split ← addSplit greedy
    link p.stop split
    link split p.start
    match before with
    | none => return ⟨p.start, split⟩
    | some b =>
      link b.stop p.start
      return ⟨b.start, split⟩

/-- From `min` to `max` copies: behind the copies that must be there, each further one may be
there or lead straight to the end. -/
def between (min max : Nat) (greedy : Bool) (body : Build Piece) : Build Piece := do
  let before ← copies min body
  if max ≤ min then return before
  let stop ← addPass
  let last ← (List.range (max - min)).foldlM
    (fun last _ => do
      let split ← addSplit greedy
      let p ← body
      link last split
      link split p.start
      link split stop
      return p.stop)
    before.stop
  link last stop
  return ⟨before.start, stop⟩

/-- At most one copy. -/
def optional (greedy : Bool) (body : Build Piece) : Build Piece := do
  let split ← addSplit greedy
  let p ← body
  let stop ← addPass
  link split p.start
  link split stop
  link p.stop stop
  return ⟨split, stop⟩

/-- A repetition. -/
def times (min : Nat) (max : Option Nat) (greedy nullable : Bool) (body : Build Piece) :
    Build Piece :=
  match max with
  | none => atLeast min greedy nullable body
  | some max =>
    if min = 0 ∧ max = 1 then optional greedy body else between min max greedy body

/-- A group between the two notes of its place. Only a machine that reads characters takes
notes. -/
def capture (alphabet : Alphabet) (index : Nat) (body : Build Piece) : Build Piece := do
  if alphabet = .bytes then body
  else
    let opening ← add (.state (.save (2 * index) 0))
    let p ← body
    let closing ← add (.state (.save (2 * index + 1) 0))
    link opening p.start
    link p.stop closing
    return ⟨opening, closing⟩

mutual

/-- The piece of an expression. -/
def node (alphabet : Alphabet) : Node → Build Piece
  | .empty => single (.state (.pass 0))
  | .literal chars => word (symbols alphabet chars)
  | .set s => set alphabet s
  | .look l => single (.state (.check l 0))
  | .times min max greedy body =>
    times min max greedy (body.minLength?.getD 0 == 0) (node alphabet body)
  | .capture index _ body => capture alphabet index (node alphabet body)
  | .row parts => do chain (← nodes alphabet parts)
  | .choice branches =>
    match Node.literals? branches with
    | some literals => do
      let stop ← addPass
      let start ← trie stop (.ofLiterals (literals.map (symbols alphabet)))
      return ⟨start, stop⟩
    | none => do oneOf (← nodes alphabet branches)

/-- The pieces of several expressions. -/
def nodes (alphabet : Alphabet) : List Node → Build (List Piece)
  | [] => return []
  | n :: ns => return (← node alphabet n) :: (← nodes alphabet ns)

end

end Build

/-- A finished state. -/
def Draft.finish : Draft → State
  | state s => s
  | lazySplit targets => .split targets.reverse

/-- The machine of an expression; its matches are group 0. -/
def ofNode (alphabet : Alphabet) (n : Node) : Automaton :=
  let whole : Build Nat := do
    let p ← Build.capture alphabet 0 (Build.node alphabet n)
    Build.link p.stop (← Build.add (.state .accept))
    return p.start
  let built : Nat × Array Draft := Id.run (whole.run #[])
  ⟨built.2.map Draft.finish, built.1⟩

/-- The number of turns that suffice to visit all states: each way on is taken at most once. -/
def closureFuel (a : Automaton) : Nat :=
  a.states.foldl (fun n s => match s with
    | .split targets => n + targets.size + 1
    | _ => n + 2) 2

/-- The edge for a symbol among those from index `lo` up to `hi`. -/
def findEdge (edges : Array Edge) (symbol : Nat) : Nat → Nat → Nat → Option Nat
  | 0, _, _ => none
  | fuel + 1, lo, hi =>
    if hi ≤ lo then none
    else
      let mid := (lo + hi) / 2
      match edges[mid]? with
      | none => none
      | some e =>
        if symbol < e.lo then findEdge edges symbol fuel lo mid
        else if e.hi < symbol then findEdge edges symbol fuel (mid + 1) hi
        else some e.next

/-- The state that a symbol leads to. -/
def follow (edges : Array Edge) (symbol : Nat) : Option Nat :=
  findEdge edges symbol edges.size 0 edges.size

end Automaton

end PatternSuite.Regular
