import PatternSuite.Backtracking.Regex
import PatternSuite.Engine.Standard
import PatternSuite.Regular.Table

/-!
# The library's own matchers

The standard engine with the matchers of this library.
-/

namespace PatternSuite

open Text

namespace Native

/-- The refusal of a basic pattern. -/
def basicRefusal : Regular.Refusal → BasicRefusal
  | .fault e => .other e.fault.message
  | .tooLarge => .tooLarge Regular.Node.storageLimit

/-- A byte as diagnostics show it. -/
def showByte (b : UInt8) : String :=
  "\\x" ++ (String.ofList (Nat.toDigits 16 b.toNat)).toUpper

/-- The answer of a table. -/
def tableAnswer : Regular.Table.Answer → TableAnswer
  | .found _ => .found
  | .none => .none
  | .gaveUp byte offset =>
    .gaveUp ("quit search after observing byte " ++ showByte byte ++ " at offset "
      ++ toString offset)

/-- The refusal of a fancy pattern. -/
def fancyRefusal : Backtracking.Refusal → FancyRefusal
  | .unreadable fault offset => .unreadable fault.message offset
  | .obstacle o => .other o.message

/-- The failure of a search for a fancy pattern. -/
def searchFailure (e : Backtracking.Exhaustion) : SearchFailure :=
  ⟨match e with
    | .failures => -47
    | .pile => -48, e.message⟩

/-- The matchers. -/
def matchers : Matchers where
  Basic := Regular.Regex
  Fancy := Backtracking.Fancy
  Table := Regular.Table
  compileBasic text flags :=
    match Regular.Regex.compile text flags with
    | .ok r => .ok r
    | .error refusal => .error (basicRefusal refusal)
  basicFault? text flags :=
    match Regular.Node.read text flags with
    | .error e => some ⟨e.fault.message, e.offset⟩
    | .ok _ => none
  basicGroups r := r.groupNames
  basicIsMatch r input := r.isMatch input
  basicCaptures r input := r.captures input
  compileFancy limit text :=
    match Backtracking.Fancy.compile limit text with
    | .ok f => .ok f
    | .error refusal => .error (fancyRefusal refusal)
  fancyGroups f := f.groupNames
  fancyIsMatch f input := (f.isMatch input).mapError searchFailure
  fancyCaptures f input := (f.captures input).mapError searchFailure
  buildTable limit text flags :=
    match Regular.Node.read text flags with
    | .error e => .error e.fault.message
    | .ok n =>
      match Regular.Table.ofNode? limit n with
      | some t => .ok t
      | none =>
        .error ("DFA exceeded size limit of " ++ toString limit ++ " during determinization")
  searchTable t input := tableAnswer (t.search input)

end Native

/-- The standard engine. -/
def standardEngine (s : Standard.Settings) : Engine (Standard.Form Native.matchers) Unit :=
  Standard.engine Native.matchers s

end PatternSuite
