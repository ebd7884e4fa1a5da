import PatternSuite.Regular.Ast
import PatternSuite.Unicode.CharSet

/-!
# Regular expressions

What a basic pattern means once its flags are resolved: characters, sets of characters, conditions
on places, and their combinations. The functions that build nodes keep them small: nothing empty
stands in a row, rows and choices do not nest, and a choice of single characters is a set.

* `Node.concat`, `Node.choice`, `Node.times`, `Node.ofSet`: the builders.
* `Node.minLength?`, `Node.maxLength?`: bounds on the bytes of a match.
* `Node.startsAtStart`, `Node.stopsAtStop`: whether matches touch an end of the input.
-/

namespace PatternSuite.Regular

open Unicode

/-- A condition on a place in the input. -/
inductive Look
  /-- The start of the input. -/
  | start
  /-- The end of the input. -/
  | stop
  /-- The start of a line. -/
  | lineStart
  /-- The end of a line. -/
  | lineStop
  /-- The start of a line, where a carriage return belongs to the line end. -/
  | lineStartCrlf
  /-- The end of a line, where a carriage return belongs to the line end. -/
  | lineStopCrlf
  /-- The edge of a word, with words of any letters or of ASCII letters. -/
  | word (unicode : Bool) (edge : WordEdge)
  deriving DecidableEq, Repr, Inhabited

/-- A regular expression. -/
inductive Node where
  /-- The empty text. -/
  | empty
  /-- Some characters in a row. -/
  | literal (chars : List Char)
  /-- One character of a set; nothing at all if the set is empty. -/
  | set (s : CharSet)
  /-- A place that meets a condition. -/
  | look (l : Look)
  /-- A repetition, from `min` times up to `max` times. -/
  | times (min : Nat) (max : Option Nat) (greedy : Bool) (body : Node)
  /-- A capturing group. -/
  | capture (index : Nat) (name : Option String) (body : Node)
  /-- One after the other. -/
  | row (parts : List Node)
  /-- One of several; the earlier ones are preferred. -/
  | choice (branches : List Node)
  deriving BEq, Repr, Inhabited

namespace Node

/-- The number of bytes that a code point takes. -/
def codeBytes (c : Nat) : Nat := if c < 0x80 then 1 else if c < 0x800 then 2
  else if c < 0x10000 then 3 else 4

/-- The sum of some bounds, if there are all of them. -/
def addBound (a b : Option Nat) : Option Nat := do return (← a) + (← b)

/-- Combines two bounds, if there are both of them. -/
def combineBound (f : Nat → Nat → Nat) (a b : Option Nat) : Option Nat := do return f (← a) (← b)

mutual

/-- The least number of bytes of a match; none if there is no match. -/
def minLength? : Node → Option Nat
  | empty => some 0
  | literal chars => some (chars.foldl (fun n c => n + c.utf8Size) 0)
  | set s => s.intervals.head?.map fun i => codeBytes i.lo
  | look _ => some 0
  | times min _ _ body => if min = 0 then some 0 else body.minLength?.map (· * min)
  | capture _ _ body => body.minLength?
  | row parts => sumMin? parts
  | choice branches => leastMin? branches

/-- The least number of bytes of several nodes in a row. -/
def sumMin? : List Node → Option Nat
  | [] => some 0
  | n :: ns => addBound n.minLength? (sumMin? ns)

/-- The least number of bytes of one of several nodes. -/
def leastMin? : List Node → Option Nat
  | [] => none
  | [n] => n.minLength?
  | n :: ns => combineBound min n.minLength? (leastMin? ns)

end

mutual

/-- The greatest number of bytes of a match, if there is a bound. -/
def maxLength? : Node → Option Nat
  | empty => some 0
  | literal chars => some (chars.foldl (fun n c => n + c.utf8Size) 0)
  | set s => s.intervals.getLast?.map fun i => codeBytes i.hi
  | look _ => some 0
  | times _ max _ body => combineBound (· * ·) max body.maxLength?
  | capture _ _ body => body.maxLength?
  | row parts => sumMax? parts
  | choice branches => greatestMax? branches

/-- The greatest number of bytes of several nodes in a row. -/
def sumMax? : List Node → Option Nat
  | [] => some 0
  | n :: ns => addBound n.maxLength? (sumMax? ns)

/-- The greatest number of bytes of one of several nodes. -/
def greatestMax? : List Node → Option Nat
  | [] => none
  | [n] => n.maxLength?
  | n :: ns => combineBound max n.maxLength? (greatestMax? ns)

end

/-- One character of a set; a set of one is that character. -/
def ofSet (s : CharSet) : Node :=
  match s.single? with
  | some c => literal [Char.ofNat c]
  | none => set s

/-- A repetition. What is always empty is repeated once at most, and what is repeated exactly once
stands by itself. -/
def repeated (min : Nat) (max : Option Nat) (greedy : Bool) (body : Node) : Node :=
  let onlyEmpty := body.maxLength? == some 0
  let min := if onlyEmpty then Nat.min min 1 else min
  let max := if onlyEmpty then some (Nat.min (max.getD 1) 1) else max
  if min = 0 ∧ max = some 0 then empty
  else if min = 1 ∧ max = some 1 then body
  else times min max greedy body

/-- The parts of a node that stands in a row. -/
def rowParts : Node → List Node
  | empty => []
  | row parts => parts
  | n => [n]

/-- Joins literals that stand side by side. -/
def joinLiterals : List Node → List Node
  | [] => []
  | literal a :: rest =>
    match joinLiterals rest with
    | literal b :: rest => literal (a ++ b) :: rest
    | rest => literal a :: rest
  | n :: rest => n :: joinLiterals rest

/-- One after the other. -/
def concat (nodes : List Node) : Node :=
  match joinLiterals (nodes.flatMap rowParts) with
  | [] => empty
  | [n] => n
  | parts => row parts

/-- The branches of a node that stands in a choice. -/
def branches : Node → List Node
  | choice bs => bs
  | n => [n]

/-- The characters of a node that matches exactly one character. -/
def singleSet? : Node → Option CharSet
  | literal [c] => some (CharSet.singleton c.toNat)
  | set s => some s
  | _ => none

/-- The union of sets, if there are all of them. -/
def unionAll? (sets : List (Option CharSet)) : Option CharSet :=
  (sets.mapM id).map fun ss => CharSet.ofIntervals (ss.flatMap (·.intervals))

/-- The longest common beginning of two lists. -/
def commonStart : List Node → List Node → List Node
  | a :: as, b :: bs => if a == b then a :: commonStart as bs else []
  | _, _ => []

/-- The parts of a row. -/
def asRow? : Node → Option (List Node)
  | row parts => some parts
  | _ => none

/-- The parts with which all of several rows begin. -/
def sharedStart (rows : List (List Node)) : List Node :=
  match rows with
  | [] => []
  | r :: rs => rs.foldl commonStart r

/-- One of several, the earlier ones preferred. Sets and single characters together are a set;
what all branches begin with is taken out in front of the choice, so it is preferred for all of
them alike. The fuel bounds how often something can be taken out. -/
def choose (fuel : Nat) (nodes : List Node) : Node :=
  let bs := nodes.flatMap branches
  match bs with
  | [] => set CharSet.none
  | [n] => n
  | bs =>
    match unionAll? (bs.map singleSet?) with
    | some s => ofSet s
    | none =>
      match fuel, bs.mapM asRow? with
      | fuel + 1, some rows =>
        let shared := sharedStart rows
        if shared.isEmpty then choice bs
        else
          concat (shared ++ [choose fuel (rows.map fun r => concat (r.drop shared.length))])
      | _, _ => choice bs

mutual

/-- The number of nodes of a tree. -/
def size : Node → Nat
  | times _ _ _ body => body.size + 1
  | capture _ _ body => body.size + 1
  | row parts => sizeAll parts + 1
  | choice branches => sizeAll branches + 1
  | _ => 1

/-- The number of nodes of several trees. -/
def sizeAll : List Node → Nat
  | [] => 0
  | n :: ns => n.size + sizeAll ns

end

/-- One of several, the earlier ones preferred. Whatever is taken out of a choice has a node of
its own, so there are nodes enough. -/
def oneOf (nodes : List Node) : Node := choose (sizeAll nodes) nodes

mutual

/-- Does every match begin at the start of the input, as far as the first parts show? -/
def startsAtStart : Node → Bool
  | look .start => true
  | times min _ _ body => min != 0 && body.startsAtStart
  | capture _ _ body => body.startsAtStart
  | row parts => rowStartsAtStart parts
  | choice branches => allStartAtStart branches
  | _ => false

/-- Does a row begin at the start of the input? Parts that may match more than the empty text hide
those behind them. -/
def rowStartsAtStart : List Node → Bool
  | [] => false
  | n :: ns => n.startsAtStart || (n.maxLength? == some 0 && rowStartsAtStart ns)

/-- Do all branches begin at the start of the input? -/
def allStartAtStart : List Node → Bool
  | [] => true
  | n :: ns => n.startsAtStart && allStartAtStart ns

end

mutual

/-- Does every match end at the end of the input, as far as the last parts show? -/
def stopsAtStop : Node → Bool
  | look .stop => true
  | times min _ _ body => min != 0 && body.stopsAtStop
  | capture _ _ body => body.stopsAtStop
  | row parts => rowStopsAtStop parts
  | choice branches => allStopAtStop branches
  | _ => false

/-- Does a row end at the end of the input? -/
def rowStopsAtStop : List Node → Bool
  | [] => false
  | n :: ns =>
    rowStopsAtStop ns || ((Node.row ns).maxLength? == some 0 && n.stopsAtStop)

/-- Do all branches end at the end of the input? -/
def allStopAtStop : List Node → Bool
  | [] => true
  | n :: ns => n.stopsAtStop && allStopAtStop ns

end

mutual

/-- The capturing groups of a node, with their names. -/
def groups : Node → List (Nat × Option String)
  | times _ _ _ body => body.groups
  | capture index name body => (index, name) :: body.groups
  | row parts => groupsAll parts
  | choice branches => groupsAll branches
  | _ => []

/-- The capturing groups of several nodes. -/
def groupsAll : List Node → List (Nat × Option String)
  | [] => []
  | n :: ns => n.groups ++ groupsAll ns

end

/-- The names of the groups by number, from number 0 up to the last group that is left. A number
that is passed over has no name. -/
def groupNames (n : Node) : List (Option String) :=
  let gs := n.groups
  let last := gs.foldl (fun m g => max m g.1) 0
  (List.range (last + 1)).map fun i => (gs.find? fun g => g.1 == i).bind (·.2)

end Node

end PatternSuite.Regular
