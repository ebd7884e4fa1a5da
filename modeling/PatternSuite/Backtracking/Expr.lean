import PatternSuite.Regular.Node

/-!
# Fancy patterns

The tree of a fancy pattern. Parts that a regular expression can express may be left to the
matcher of basic patterns; a single character or class is kept as the text that spells it there.
-/

namespace PatternSuite.Backtracking

open Regular (Look)

/-- Looking around a place. -/
inductive Around
  /-- What follows. -/
  | ahead
  /-- What must not follow. -/
  | notAhead
  /-- What comes before. -/
  | behind
  /-- What must not come before. -/
  | notBehind
  deriving DecidableEq, Repr, Inhabited

/-- A fancy pattern. -/
inductive Expr where
  /-- The empty text. -/
  | empty
  /-- Any character, perhaps except newlines. -/
  | any (newline : Bool)
  /-- A place that meets a condition. -/
  | look (l : Look)
  /-- Characters as they stand, perhaps in either case. -/
  | literal (chars : List Char) (caseless : Bool)
  /-- One after the other. -/
  | row (parts : List Expr)
  /-- One of several, the earlier ones preferred. -/
  | choice (branches : List Expr)
  /-- A capturing group. -/
  | group (body : Expr)
  /-- A condition on what is around a place. -/
  | around (kind : Around) (body : Expr)
  /-- A repetition, from `min` times up to `max` times. -/
  | times (min : Nat) (max : Option Nat) (greedy : Bool) (body : Expr)
  /-- One character of a class that is spelled as in a basic pattern. -/
  | atom (source : String) (caseless : Bool)
  /-- The same text as a group. -/
  | sameAs (group : Nat)
  /-- What is matched in one way and no other. -/
  | atomic (body : Expr)
  /-- The match begins here. -/
  | keepOut
  /-- The place where the search began. -/
  | searchStart
  /-- A group that has taken part. -/
  | groupSet (group : Nat)
  /-- One of two, by a condition. -/
  | ifElse (condition whenTrue whenFalse : Expr)
  deriving BEq, Repr, Inhabited

namespace Expr

/-- The characters with a meaning of their own in basic patterns, as far as spelling needs them. -/
def isSpecial (c : Char) : Bool := "\\.+*?()|[]{}^$#".contains c

/-- Characters with a backslash where they need one. -/
def spellChars (chars : List Char) : String :=
  String.ofList (chars.flatMap fun c => if isSpecial c then ['\\', c] else [c])

/-- A text under the flag for either case. -/
def spellCase (caseless : Bool) (s : String) : String :=
  if caseless then "(?i:" ++ s ++ ")" else s

/-- The sign of a repetition. -/
def spellCount (min : Nat) (max : Option Nat) : String :=
  if min = 0 ∧ max = some 1 then "?"
  else if min = 0 ∧ max = none then "*"
  else if min = 1 ∧ max = none then "+"
  else
    "\x7b" ++ toString min ++ (if max = some min then "" else "," ++
      (match max with
        | some m => toString m
        | none => "")) ++ "\x7d"

/-- A text in a group that does not capture, if it needs one. -/
def spellGroup (needed : Bool) (s : String) : String :=
  if needed then "(?:" ++ s ++ ")" else s

/-- A condition as basic patterns spell it. -/
def spellLook : Look → String
  | .start => "^"
  | .stop => "$"
  | .lineStart => "(?m:^)"
  | .lineStop => "(?m:$)"
  | .lineStartCrlf => "(?Rm:^)"
  | .lineStopCrlf => "(?Rm:$)"
  | .word .. => ""

mutual

/-- A tree as a basic pattern. The greater the number `tightness`, the tighter binds what stands
around the tree; what basic patterns lack has no text. -/
def spell (tightness : Nat) : Expr → String
  | any newline => if newline then "(?s:.)" else "."
  | look l => spellLook l
  | literal chars caseless => spellCase caseless (spellChars chars)
  | row parts => spellGroup (1 < tightness) (spellRow parts)
  | choice branches => spellGroup (0 < tightness) (spellChoice branches)
  | group body => "(" ++ body.spell 0 ++ ")"
  | times min max greedy body =>
    spellGroup (2 < tightness)
      (body.spell 3 ++ spellCount min max ++ (if greedy then "" else "?"))
  | atom source caseless => spellCase caseless source
  | _ => ""

/-- Trees in a row as a basic pattern. -/
def spellRow : List Expr → String
  | [] => ""
  | e :: es => e.spell 2 ++ spellRow es

/-- Branches as a basic pattern. -/
def spellChoice : List Expr → String
  | [] => ""
  | [e] => e.spell 1
  | e :: es => e.spell 1 ++ "|" ++ spellChoice es

end

mutual

/-- The characters of a tree that is nothing but characters in their own case. -/
def plain? : Expr → Option (List Char)
  | literal chars caseless => if caseless then none else some chars
  | row parts => plainRow? parts
  | _ => none

/-- The characters of several trees in a row. -/
def plainRow? : List Expr → Option (List Char)
  | [] => some []
  | e :: es => do return (← e.plain?) ++ (← plainRow? es)

end

end Expr

end PatternSuite.Backtracking
