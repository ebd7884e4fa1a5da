import PatternSuite.Regular.LiteralTrie
import PatternSuite.Text.Bytes
import PatternSuite.Unicode.Utf8

/-!
# How much room an expression takes

An expression is run as an automaton over bytes, forwards and backwards, and neither may take more
than a fixed number of bytes. The sizes follow from the expression alone: every state takes a unit,
every way out of a choice and every branch on bytes takes a little more, and a repetition by count
takes its body as often as it counts.

* `Node.storage`: the size of the whole automaton of an expression.
* `Node.fits`: is there room for it in both directions?
-/

namespace PatternSuite.Regular

open Unicode

/-- The direction in which an automaton reads. Groups are kept track of only forwards. -/
inductive Direction
  | forwards
  | backwards
  deriving DecidableEq, Repr

namespace Storage

/-- The size of a state. -/
def state : Nat := 32

/-- What each way out of a choice adds. -/
def target : Nat := 4

/-- What each branch on bytes adds. -/
def edge : Nat := 8

/-- The size of a set: one state if all is ASCII, else the trie of its byte sequences. Backwards
the sequences share their first bytes only. -/
def ofSet (direction : Direction) (s : CharSet) : Nat :=
  if s.isAscii then 2 * state + edge * s.intervals.length
  else match direction with
    | .forwards => (ByteTrie.ofSet s).nodes.foldl (fun n b => n + state + edge * b.length) state
    | .backwards =>
      let sequences := s.byteSequences
      let starts := sequences.foldl
        (fun (seen : Std.HashMap (List ByteRange) Unit) q =>
          (List.range q.length).foldl (fun seen i => seen.insert (q.take (i + 1)) ()) seen)
        ({} : Std.HashMap (List ByteRange) Unit)
      2 * state + target * sequences.length + state * starts.size

mutual

/-- The size of a tree of literals: a state for each run of branches, and one to choose between
the runs and the ends. -/
def ofTrie : LiteralTrie → Nat
  | .node ended current => state + ofRuns ended + ofRun 0 current

/-- The size of the runs behind which a literal ends. -/
def ofRuns : List (List (Nat × LiteralTrie)) → Nat
  | [] => 0
  | r :: rs => ofRun 0 r + target + ofRuns rs

/-- The size of a run, of which some branches have been counted. A run of one branch needs no
edges. -/
def ofRun (count : Nat) : List (Nat × LiteralTrie) → Nat
  | [] =>
    if count = 0 then 0
    else state + target + (if count = 1 then 0 else edge * count)
  | b :: bs => ofBranch b + ofRun (count + 1) bs

/-- The size of what a branch leads to; where nothing follows, it leads to the common end. -/
def ofBranch : Nat × LiteralTrie → Nat
  | (_, t) => if t.isLeaf then 0 else ofTrie t

end

/-- The bytes of some characters, as symbols in a direction. -/
def symbols (direction : Direction) (chars : List Char) : List Nat :=
  let bytes := (String.ofList chars).toUTF8.toList.map (·.toNat)
  match direction with
  | .forwards => bytes
  | .backwards => bytes.reverse

/-- The size of a choice between literals. -/
def ofLiterals (direction : Direction) (literals : List (List Char)) : Nat :=
  state + ofTrie (.ofLiterals (literals.map (symbols direction)))

/-- The size of a repetition, from the size of its body. -/
def ofTimes (min : Nat) (max : Option Nat) (nullable : Bool) (body : Nat) : Nat :=
  match max with
  | some 1 => if min = 0 then 2 * state + 2 * target + body else body
  | none =>
    if min = 0 then
      if nullable then body + 3 * state + 4 * target else body + state + 2 * target
    else min * body + state + 2 * target
  | some max =>
    if max ≤ min then min * body
    else
      (if min = 0 then state else min * body) + state
        + (max - min) * (state + 2 * target + body)

mutual

/-- The size of an expression. -/
def ofNode (direction : Direction) : Node → Nat
  | .empty => state
  | .literal chars => state * Text.byteLength chars
  | .set s => ofSet direction s
  | .look _ => state
  | .times min max _ body =>
    ofTimes min max (body.minLength?.getD 0 == 0) (ofNode direction body)
  | .capture _ _ body =>
    (match direction with
      | .forwards => 2 * state
      | .backwards => 0) + ofNode direction body
  | .row parts => ofNodes direction parts
  | .choice branches =>
    match Node.literals? branches with
    | some literals => ofLiterals direction literals
    | none => 2 * state + target * branches.length + ofNodes direction branches

/-- The size of several expressions. -/
def ofNodes (direction : Direction) : List Node → Nat
  | [] => 0
  | n :: ns => ofNode direction n + ofNodes direction ns

end

end Storage

namespace Node

/-- The size of the automaton of an expression in a direction. It may start anywhere unless the
expression itself says where. -/
def storage (direction : Direction) (n : Node) : Nat :=
  let anchored := match direction with
    | .forwards => n.startsAtStart
    | .backwards => n.stopsAtStop
  let whole := match direction with
    | .forwards => 2 * Storage.state
    | .backwards => 0
  (if anchored then Storage.state
    else 3 * Storage.state + Storage.edge + 2 * Storage.target)
    + whole + Storage.ofNode direction n + Storage.state

/-- The greatest size of an automaton. -/
def storageLimit : Nat := 10485760

/-- Is there room for the expression in both directions? -/
def fits (n : Node) : Bool :=
  n.storage .forwards ≤ storageLimit && n.storage .backwards ≤ storageLimit

end Node

end PatternSuite.Regular
