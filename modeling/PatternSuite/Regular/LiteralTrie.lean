import PatternSuite.Regular.Node

/-!
# Choices of literals

A choice between literals is a tree that branches on symbols, which are characters or bytes as the
case may be. Literals are preferred in the order in which they were put in, so branches that come
after the end of a literal form a new run.
-/

namespace PatternSuite.Regular

/-- A tree of literals: runs of branches behind each of which a literal ends, and the run that is
still growing. Branches of a run ascend. -/
inductive LiteralTrie where
  | node (ended : List (List (Nat × LiteralTrie))) (current : List (Nat × LiteralTrie))
  deriving Inhabited

namespace LiteralTrie

/-- The tree without literals. -/
def empty : LiteralTrie := node [] []

/-- Does nothing follow? -/
def isLeaf : LiteralTrie → Bool
  | node ended current => current.isEmpty && ended.all (·.isEmpty)

/-- Puts a branch into a run, in place of the one with the same symbol. -/
def putBranch (symbol : Nat) (t : LiteralTrie) : List (Nat × LiteralTrie) → List (Nat × LiteralTrie)
  | [] => [(symbol, t)]
  | b :: bs =>
    if symbol < b.1 then (symbol, t) :: b :: bs
    else if symbol == b.1 then (symbol, t) :: bs
    else b :: putBranch symbol t bs

/-- Adds a literal. -/
def insert : List Nat → LiteralTrie → LiteralTrie
  | [], node ended current =>
    if (node ended current).isLeaf && !ended.isEmpty then node ended current
    else node (ended ++ [current]) []
  | symbol :: rest, node ended current =>
    let child := ((current.find? fun b => b.1 == symbol).map (·.2)).getD empty
    node ended (putBranch symbol (insert rest child) current)

/-- The tree of some literals. -/
def ofLiterals (literals : List (List Nat)) : LiteralTrie :=
  literals.foldl (fun t l => t.insert l) empty

end LiteralTrie

/-- The literals of a choice, if it has nothing else. -/
def Node.literals? (branches : List Node) : Option (List (List Char)) :=
  branches.mapM fun
    | .literal chars => some chars
    | _ => none

end PatternSuite.Regular
