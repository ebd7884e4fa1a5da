import PatternSuite.Regular.Node
import PatternSuite.Regular.SyntaxError
import PatternSuite.Unicode.CaseFold
import PatternSuite.Unicode.Classes
import PatternSuite.Unicode.Query

/-!
# From trees to regular expressions

Flags are resolved where they apply. A flag group sets flags for the rest of its group, later
branches included. Case variants are added to a class before it is negated. Without the `u` flag
letters are ASCII letters, and what could match a part of a character is refused.
-/

namespace PatternSuite.Regular

open Unicode

/-- The flags in force at a place. -/
structure Flags where
  caseless : Bool := false
  multiline : Bool := false
  dotall : Bool := false
  ungreedy : Bool := false
  unicode : Bool := true
  crlf : Bool := false
  deriving DecidableEq, Repr, Inhabited

namespace Flags

/-- Sets one flag. The extended style is no longer of interest. -/
def apply (f : Flags) (change : Flag × Bool) : Flags :=
  match change.1 with
  | .caseless => { f with caseless := change.2 }
  | .multiline => { f with multiline := change.2 }
  | .dotall => { f with dotall := change.2 }
  | .ungreedy => { f with ungreedy := change.2 }
  | .unicode => { f with unicode := change.2 }
  | .crlf => { f with crlf := change.2 }
  | .extended => f

/-- Sets some flags. -/
def applyAll (f : Flags) (changes : FlagChanges) : Flags := changes.foldl apply f

/-- Adds case variants if case does not matter. -/
def fold (f : Flags) (s : CharSet) : CharSet :=
  if !f.caseless then s
  else if f.unicode then s.closeUnderCase
  else s.closeUnderAsciiCase

end Flags

/-- The characters of an ASCII class. -/
def AsciiClass.set : AsciiClass → CharSet
  | alnum => .ofIntervals [⟨0x30, 0x39⟩, ⟨0x41, 0x5A⟩, ⟨0x61, 0x7A⟩]
  | alpha => .ofIntervals [⟨0x41, 0x5A⟩, ⟨0x61, 0x7A⟩]
  | ascii => .range 0 0x7F
  | blank => .ofIntervals [⟨0x09, 0x09⟩, ⟨0x20, 0x20⟩]
  | cntrl => .ofIntervals [⟨0, 0x1F⟩, ⟨0x7F, 0x7F⟩]
  | digit => .range 0x30 0x39
  | graph => .range 0x21 0x7E
  | lower => .range 0x61 0x7A
  | print => .range 0x20 0x7E
  | punct => .ofIntervals [⟨0x21, 0x2F⟩, ⟨0x3A, 0x40⟩, ⟨0x5B, 0x60⟩, ⟨0x7B, 0x7E⟩]
  | space => .ofIntervals [⟨0x09, 0x0D⟩, ⟨0x20, 0x20⟩]
  | upper => .range 0x41 0x5A
  | word => .ofIntervals [⟨0x30, 0x39⟩, ⟨0x41, 0x5A⟩, ⟨0x5F, 0x5F⟩, ⟨0x61, 0x7A⟩]
  | xdigit => .ofIntervals [⟨0x30, 0x39⟩, ⟨0x41, 0x46⟩, ⟨0x61, 0x66⟩]

/-- The characters of a class with a letter. -/
def PerlClass.set (unicode : Bool) : PerlClass → CharSet
  | digit => if unicode then decimalDigits else AsciiClass.digit.set
  | space => if unicode then whiteSpace else AsciiClass.space.set
  | word => if unicode then wordCharacters else AsciiClass.word.set

namespace Resolve

/-- A set as it is or its complement. Without the `u` flag a complement would hold parts of
characters, and is refused. -/
def negate (f : Flags) (negated : Bool) (start : Nat) (s : CharSet) :
    Except SyntaxError CharSet :=
  if !negated then .ok s
  else if f.unicode then .ok s.complement
  else .error ⟨.invalidUtf8, start⟩

/-- The set of a class with a letter. -/
def perl (f : Flags) (kind : PerlClass) (negated : Bool) (start : Nat) :
    Except SyntaxError CharSet :=
  negate f negated start (kind.set f.unicode)

/-- The set of a property class. -/
def property (f : Flags) (query : PropertyQuery) (negated : Bool) (start : Nat) :
    Except SyntaxError CharSet :=
  if !f.unicode then .error ⟨.unicodeNotAllowed, start⟩
  else
    let answer := match query with
      | .named name => findNamed name
      | .valued name value => findValued name value
    match answer with
    | .ok s => negate f negated start (f.fold s)
    | .error .unknownProperty => .error ⟨.propertyNotFound, start⟩
    | .error .unknownValue => .error ⟨.propertyValueNotFound, start⟩

/-- The code point of a literal in a class. -/
def classLiteral (f : Flags) (l : Literal) : Except SyntaxError Nat :=
  if f.unicode || l.char.toNat < 0x80 then .ok l.char.toNat
  else if l.byte then .error ⟨.invalidUtf8, l.start⟩
  else .error ⟨.unicodeNotAllowed, l.start⟩

mutual

/-- The set of a class. -/
def classSet (f : Flags) : ClassTree → Except SyntaxError CharSet
  | .empty _ => .ok CharSet.none
  | .literal l => return CharSet.singleton (← classLiteral f l)
  | .range lo hi => return CharSet.range (← classLiteral f lo) (← classLiteral f hi)
  | .ascii kind negated start => negate f negated start (f.fold kind.set)
  | .property query negated start => property f query negated start
  | .perl kind negated start => perl f kind negated start
  | .bracketed negated start body => do negate f negated start (f.fold (← classSet f body))
  | .union _ parts => do
    let sets ← classSets f parts
    return CharSet.ofIntervals (sets.flatMap (·.intervals))
  | .binary op _ left right => do
    let l := f.fold (← classSet f left)
    let r := f.fold (← classSet f right)
    return match op with
      | .inter => l.inter r
      | .diff => l.diff r
      | .symmDiff => l.symmDiff r

/-- The sets of several classes. -/
def classSets (f : Flags) : List ClassTree → Except SyntaxError (List CharSet)
  | [] => .ok []
  | c :: cs => return (← classSet f c) :: (← classSets f cs)

end

/-- A single character, in either case if case does not matter. -/
def literal (f : Flags) (l : Literal) : Except SyntaxError Node :=
  if !f.unicode && l.byte && 0x7F < l.char.toNat then .error ⟨.invalidUtf8, l.start⟩
  else .ok (Node.ofSet (f.fold (CharSet.singleton l.char.toNat)))

/-- Any character, perhaps except those that end lines. -/
def dot (f : Flags) (start : Nat) : Except SyntaxError Node :=
  if !f.unicode then .error ⟨.invalidUtf8, start⟩
  else if f.dotall then .ok (.set CharSet.all)
  else if f.crlf then
    .ok (.set (.ofIntervals [⟨0, 9⟩, ⟨0x0B, 0x0C⟩, ⟨0x0E, lastCodePoint⟩]))
  else .ok (.set (.ofIntervals [⟨0, 9⟩, ⟨0x0B, lastCodePoint⟩]))

/-- A condition on a place. -/
def anchor (f : Flags) : Anchor → Look
  | .lineStart =>
    if !f.multiline then .start else if f.crlf then .lineStartCrlf else .lineStart
  | .lineEnd => if !f.multiline then .stop else if f.crlf then .lineStopCrlf else .lineStop
  | .textStart => .start
  | .textEnd => .stop
  | .word edge => .word f.unicode edge

mutual

/-- What a tree means, and the flags in force behind it. -/
def node (f : Flags) : Ast → Except SyntaxError (Node × Flags)
  | .empty _ => .ok (.empty, f)
  | .flags changes _ => .ok (.empty, f.applyAll changes)
  | .literal l => return (← literal f l, f)
  | .dot start => return (← dot f start, f)
  | .anchor a _ => .ok (.look (anchor f a), f)
  | .property query negated start => return (Node.ofSet (← property f query negated start), f)
  | .perl kind negated start => return (Node.ofSet (← perl f kind negated start), f)
  | .bracketed negated start body => do
    let s ← negate f negated start (f.fold (← classSet f body))
    return (Node.ofSet s, f)
  | .repetition min max greedy body => do
    let (n, f) ← node f body
    return (Node.repeated min max (greedy != f.ungreedy) n, f)
  | .group (.capture index name) _ body => do
    let (n, _) ← node f body
    return (.capture index name n, f)
  | .group (.plain changes) _ body => do
    let (n, _) ← node (f.applyAll changes) body
    return (n, f)
  | .alternation _ branches => do
    let (ns, f) ← nodes f branches
    return (Node.oneOf ns, f)
  | .concat _ parts => do
    let (ns, f) ← nodes f parts
    return (Node.concat ns, f)

/-- What several trees mean, each under the flags that the one before it left. -/
def nodes (f : Flags) : List Ast → Except SyntaxError (List Node × Flags)
  | [] => .ok ([], f)
  | a :: as => do
    let (n, f) ← node f a
    let (ns, f) ← nodes f as
    return (n :: ns, f)

end

end Resolve

/-- What a tree means under the given flags. -/
def Node.ofAst (flags : Flags) (a : Ast) : Except SyntaxError Node :=
  return (← Resolve.node flags a).1

end PatternSuite.Regular
