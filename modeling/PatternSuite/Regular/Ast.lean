/-!
# Regular expressions as written

The tree of a pattern of the basic dialect, as its text spells it: flags, spellings of characters
and the byte offsets at which things begin are all kept, because the later reading of the tree
depends on the flags and its failures are reported by offset.
-/

namespace PatternSuite.Regular

/-- A flag of a pattern. -/
inductive Flag
  /-- `i`: letters match in either case. -/
  | caseless
  /-- `m`: line anchors. -/
  | multiline
  /-- `s`: the dot matches newlines. -/
  | dotall
  /-- `U`: greedy and lazy change places. -/
  | ungreedy
  /-- `u`: characters rather than bytes. -/
  | unicode
  /-- `R`: a carriage return is part of a line end. -/
  | crlf
  /-- `x`: blanks and comments are skipped. -/
  | extended
  deriving DecidableEq, Repr, Inhabited

namespace Flag

/-- The flag of a letter. -/
def ofChar? : Char → Option Flag
  | 'i' => some caseless
  | 'm' => some multiline
  | 's' => some dotall
  | 'U' => some ungreedy
  | 'u' => some unicode
  | 'R' => some crlf
  | 'x' => some extended
  | _ => none

end Flag

/-- Flags to set, in the order written, with the value each gets; no flag comes twice. -/
abbrev FlagChanges := List (Flag × Bool)

/-- The value a flag gets, if it is among the changes. -/
def FlagChanges.value? (f : Flag) (changes : FlagChanges) : Option Bool :=
  (changes.find? fun c => c.1 == f).map (·.2)

/-- A literal character. `byte` says that two hexadecimal digits spelled it, so that it can stand
for a byte. -/
structure Literal where
  char : Char
  start : Nat
  byte : Bool := false
  deriving DecidableEq, Repr, Inhabited

/-- The edges of words. -/
inductive WordEdge
  /-- Either edge. -/
  | boundary
  /-- No edge. -/
  | inside
  /-- Where a word starts. -/
  | start
  /-- Where a word ends. -/
  | stop
  /-- Not after a word. -/
  | startHalf
  /-- Not before a word. -/
  | stopHalf
  deriving DecidableEq, Repr, Inhabited

/-- A condition on a place in the input, as written. -/
inductive Anchor
  /-- `^` -/
  | lineStart
  /-- `$` -/
  | lineEnd
  /-- The start of the input. -/
  | textStart
  /-- The end of the input. -/
  | textEnd
  /-- A place at the edge of a word. -/
  | word (edge : WordEdge)
  deriving DecidableEq, Repr, Inhabited

/-- The classes with a letter of their own. -/
inductive PerlClass
  | digit
  | space
  | word
  deriving DecidableEq, Repr, Inhabited

/-- What a property class asks for. -/
inductive PropertyQuery
  /-- A name by itself. -/
  | named (name : String)
  /-- A property and its value. -/
  | valued (name value : String)
  deriving DecidableEq, Repr, Inhabited

/-- The classes with ASCII names. -/
inductive AsciiClass
  | alnum
  | alpha
  | ascii
  | blank
  | cntrl
  | digit
  | graph
  | lower
  | print
  | punct
  | space
  | upper
  | word
  | xdigit
  deriving DecidableEq, Repr, Inhabited

/-- How two classes are combined. -/
inductive ClassOp
  | inter
  | diff
  | symmDiff
  deriving DecidableEq, Repr, Inhabited

/-- A class of characters, or a part of one. -/
inductive ClassTree where
  /-- Nothing. -/
  | empty (start : Nat)
  /-- One character. -/
  | literal (l : Literal)
  /-- All characters between two. -/
  | range (lo hi : Literal)
  /-- A class with an ASCII name. -/
  | ascii (kind : AsciiClass) (negated : Bool) (start : Nat)
  /-- A property class. -/
  | property (query : PropertyQuery) (negated : Bool) (start : Nat)
  /-- A class with a letter. -/
  | perl (kind : PerlClass) (negated : Bool) (start : Nat)
  /-- A class in brackets. -/
  | bracketed (negated : Bool) (start : Nat) (body : ClassTree)
  /-- Several parts together. -/
  | union (start : Nat) (parts : List ClassTree)
  /-- Two parts combined. -/
  | binary (op : ClassOp) (start : Nat) (left right : ClassTree)
  deriving Repr, Inhabited

/-- What a group is for. -/
inductive GroupKind
  /-- Capturing, with a number and perhaps a name. -/
  | capture (index : Nat) (name : Option String)
  /-- Not capturing; it may set flags for its inside. -/
  | plain (changes : FlagChanges)
  deriving DecidableEq, Repr, Inhabited

/-- A pattern as written. -/
inductive Ast where
  /-- The empty pattern. -/
  | empty (start : Nat)
  /-- Flags set for the rest of the group. -/
  | flags (changes : FlagChanges) (start : Nat)
  /-- A character. -/
  | literal (l : Literal)
  /-- Any character, perhaps except newlines. -/
  | dot (start : Nat)
  /-- A condition on the place. -/
  | anchor (a : Anchor) (start : Nat)
  /-- A property class. -/
  | property (query : PropertyQuery) (negated : Bool) (start : Nat)
  /-- A class with a letter. -/
  | perl (kind : PerlClass) (negated : Bool) (start : Nat)
  /-- A class in brackets. -/
  | bracketed (negated : Bool) (start : Nat) (body : ClassTree)
  /-- A repetition, from `min` times up to `max` times. -/
  | repetition (min : Nat) (max : Option Nat) (greedy : Bool) (body : Ast)
  /-- A group. -/
  | group (kind : GroupKind) (start : Nat) (body : Ast)
  /-- One of several. -/
  | alternation (start : Nat) (branches : List Ast)
  /-- One after the other. -/
  | concat (start : Nat) (parts : List Ast)
  deriving Repr, Inhabited

namespace Ast

/-- The offset at which the text of a tree begins. -/
def start : Ast → Nat
  | empty s => s
  | flags _ s => s
  | literal l => l.start
  | dot s => s
  | anchor _ s => s
  | property _ _ s => s
  | perl _ _ s => s
  | bracketed _ s _ => s
  | repetition _ _ _ body => body.start
  | group _ s _ => s
  | alternation s _ => s
  | concat s _ => s

/-- Several parts in a row, with no more structure than they need. -/
def ofParts (start : Nat) : List Ast → Ast
  | [] => empty start
  | [a] => a
  | parts => concat start parts

end Ast

/-- The offset at which the text of a part of a class begins. -/
def ClassTree.start : ClassTree → Nat
  | .empty s => s
  | .literal l => l.start
  | .range lo _ => lo.start
  | .ascii _ _ s => s
  | .property _ _ s => s
  | .perl _ _ s => s
  | .bracketed _ s _ => s
  | .union s _ => s
  | .binary _ s _ _ => s

/-- Several parts of a class, with no more structure than they need. -/
def ClassTree.ofParts (start : Nat) : List ClassTree → ClassTree
  | [] => .empty start
  | [c] => c
  | c :: cs => .union c.start (c :: cs)

end PatternSuite.Regular
