import PatternSuite.Backtracking.Reader

/-!
# What a fancy pattern needs

Every part of a fancy pattern with the groups in it, the number of characters it takes, and whether
it is hard, that is beyond regular expressions.

* `Part.ofTree`: the parts of a pattern, or the obstacle to its matching.
-/

namespace PatternSuite.Backtracking

/-- What is known of a part. -/
structure Shape where
  /-- The first group that is opened in the part, if any is. -/
  firstGroup : Nat
  /-- The group after the last one that is opened in the part. -/
  endGroup : Nat
  /-- The least number of characters it takes. -/
  minSize : Nat
  /-- Does it always take that number? -/
  constSize : Bool
  hard : Bool
  deriving Repr, Inhabited

/-- A part of a pattern with its parts. -/
inductive Part where
  | mk (expr : Expr) (shape : Shape) (parts : List Part)
  deriving Inhabited

namespace Part

/-- The expression of a part. -/
def expr : Part → Expr
  | mk e _ _ => e

/-- What is known of a part. -/
def shape : Part → Shape
  | mk _ s _ => s

/-- The parts of a part. -/
def parts : Part → List Part
  | mk _ _ ps => ps

/-- A part that opens no group and has no parts. -/
def leaf (group : Nat) (e : Expr) (size : Nat) (constSize hard : Bool) : Part :=
  mk e ⟨group, group, size, constSize, hard⟩ []

/-- The size of parts in a row, and whether it is constant. -/
def rowSize (ps : List Part) : Nat × Bool :=
  (ps.foldl (fun n p => n + p.shape.minSize) 0, ps.all fun p => p.shape.constSize)

/-- The size of one of several parts, and whether it is constant. -/
def choiceSize : List Part → Nat × Bool
  | [] => (0, true)
  | p :: ps =>
    ps.foldl
      (fun (size, constSize) q =>
        (min size q.shape.minSize, constSize && q.shape.constSize && size == q.shape.minSize))
      (p.shape.minSize, p.shape.constSize)

mutual

/-- The part of an expression, when the next group to open has the given number. A group that is
referred to is hard, since another way through it may be needed. -/
def ofExpr (referred : List Nat) (group : Nat) : Expr → Except Obstacle Part
  | .empty => return leaf group .empty 0 true false
  | .look l => return leaf group (.look l) 0 true (match l with
    | .word .. => true
    | _ => false)
  | .any newline => return leaf group (.any newline) 1 true false
  | .literal chars caseless => return leaf group (.literal chars caseless) 1 true false
  | .atom source caseless => return leaf group (.atom source caseless) 1 true false
  | .keepOut => return leaf group .keepOut 0 true true
  | .searchStart => return leaf group .searchStart 0 true true
  | .sameAs g => do
    if group ≤ g then throw .unknownGroup
    return leaf group (.sameAs g) 0 false true
  | .groupSet g => do
    if group ≤ g then throw .unknownGroup
    return leaf group (.groupSet g) 0 true true
  | .row es => do
    let (ps, stop) ← ofExprs referred group es
    let (size, constSize) := rowSize ps
    return mk (.row es) ⟨group, stop, size, constSize, ps.any fun p => p.shape.hard⟩ ps
  | .choice es => do
    let (ps, stop) ← ofExprs referred group es
    let (size, constSize) := choiceSize ps
    return mk (.choice es) ⟨group, stop, size, constSize, ps.any fun p => p.shape.hard⟩ ps
  | .group body => do
    let p ← ofExpr referred (group + 1) body
    let hard := p.shape.hard || referred.contains group
    return mk (.group body) ⟨group, p.shape.endGroup, p.shape.minSize, p.shape.constSize, hard⟩ [p]
  | .around kind body => do
    let p ← ofExpr referred group body
    return mk (.around kind body) ⟨group, p.shape.endGroup, 0, true, true⟩ [p]
  | .times min max greedy body => do
    let p ← ofExpr referred group body
    return mk (.times min max greedy body)
      ⟨group, p.shape.endGroup, p.shape.minSize * min, p.shape.constSize && max == some min,
        p.shape.hard⟩ [p]
  | .atomic body => do
    let p ← ofExpr referred group body
    return mk (.atomic body)
      ⟨group, p.shape.endGroup, p.shape.minSize, p.shape.constSize, true⟩ [p]
  | .ifElse condition whenTrue whenFalse => do
    let c ← ofExpr referred group condition
    let t ← ofExpr referred c.shape.endGroup whenTrue
    let f ← ofExpr referred t.shape.endGroup whenFalse
    let size := c.shape.minSize + min t.shape.minSize f.shape.minSize
    let constSize := c.shape.constSize && t.shape.constSize && f.shape.constSize
      && c.shape.minSize + t.shape.minSize == f.shape.minSize
    return mk (.ifElse condition whenTrue whenFalse)
      ⟨group, f.shape.endGroup, size, constSize, true⟩ [c, t, f]

/-- The parts of several expressions, and the next group to open behind them. -/
def ofExprs (referred : List Nat) (group : Nat) : List Expr → Except Obstacle (List Part × Nat)
  | [] => return ([], group)
  | e :: es => do
    let p ← ofExpr referred group e
    let (ps, stop) ← ofExprs referred p.shape.endGroup es
    return (p :: ps, stop)

end

/-- The part of a whole pattern, which is group 0. -/
def ofTree (t : Tree) : Except Obstacle Part := ofExpr t.referred 0 (.group t.expr)

end Part

end PatternSuite.Backtracking
