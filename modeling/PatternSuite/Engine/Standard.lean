import PatternSuite.Engine
import PatternSuite.NameTable

/-!
# The standard engine

Basic patterns are compiled by one matcher and fancy ones by another; an adaptive pattern is given
to the basic matcher first. Optimizing a basic pattern means building its table, which then serves
searches without capture slots; where a table gives up, the matcher is asked.

The matchers are a parameter, so what the engine does with their answers can be told from what the
answers are.

* `Matchers`: what the engine asks of its matchers.
* `Standard.basicFlags`, `Standard.faultFlags`, `Standard.tableFlags`: the flags of each request.
* `Standard.engine`: the engine.
-/

namespace PatternSuite

open Text

/-- How a search by table ends. -/
inductive TableAnswer
  | found
  | none
  /-- The table cannot tell, for a reason. -/
  | gaveUp (reason : String)
  deriving DecidableEq, Repr

/-- Why the basic matcher refused a text. -/
inductive BasicRefusal
  /-- The pattern would take more bytes than the limit. -/
  | tooLarge (limit : Nat)
  /-- Another reason. -/
  | other (message : String)
  deriving DecidableEq, Repr

/-- What is said about a refusal that has no place in the text. -/
def BasicRefusal.message : BasicRefusal → String
  | .tooLarge limit => "compiled regex exceeds size limit of " ++ toString limit ++ " bytes"
  | .other message => message

/-- Why the fancy matcher refused a text. -/
inductive FancyRefusal
  /-- The text cannot be read beyond a byte of it. -/
  | unreadable (message : String) (offset : Nat)
  /-- Another reason, which has no place in the text. -/
  | other (message : String)
  deriving DecidableEq, Repr

/-- The matchers of an engine: compilation, groups and searches for both dialects, and tables. -/
structure Matchers where
  Basic : Type
  Fancy : Type
  Table : Type
  /-- Compiles a basic pattern. -/
  compileBasic : String → SyntaxFlags → Except BasicRefusal Basic
  /-- What is wrong with the text of a basic pattern, if it cannot be read. -/
  basicFault? : String → SyntaxFlags → Option CompileFailure
  /-- The names of the groups by number; number 0 is the whole match. -/
  basicGroups : Basic → List (Option String)
  basicIsMatch : Basic → String → Bool
  basicCaptures : Basic → String → Option (List (Option Span))
  /-- Compiles a fancy pattern; its searches go back a limited number of times. -/
  compileFancy : Nat → String → Except FancyRefusal Fancy
  /-- The names of the groups by number; number 0 is the whole match. -/
  fancyGroups : Fancy → List (Option String)
  fancyIsMatch : Fancy → String → Except SearchFailure Bool
  fancyCaptures : Fancy → String → Except SearchFailure (Option (List (Option Span)))
  /-- Builds the table of a basic pattern; its size is limited. -/
  buildTable : Nat → String → SyntaxFlags → Except String Table
  searchTable : Table → String → TableAnswer

namespace Standard

/-- The limit on the size of a table unless told otherwise. -/
def defaultTableLimit : Nat := 2097152

/-- The limit on going back unless told otherwise. -/
def defaultBacktrackLimit : Nat := 1000000

/-- What the engine may do. -/
structure Settings where
  /-- May the engine build tables? -/
  jit : Bool := true
  tableLimit : Nat := defaultTableLimit
  backtrackLimit : Nat := defaultBacktrackLimit
  deriving DecidableEq, Repr, Inhabited

/-- A pattern compiled by one of the matchers. -/
inductive Compiled (M : Matchers)
  | basic (b : M.Basic)
  | fancy (f : M.Fancy)

/-- A compiled form: what it was compiled from, and the table once there is one. -/
structure Form (M : Matchers) where
  compiled : Compiled M
  text : String
  options : Options
  table : Option M.Table := none

variable {M : Matchers}

namespace Form

/-- Was the pattern compiled by the fancy matcher? -/
def isFancy (f : Form M) : Bool := match f.compiled with
  | .basic _ => false
  | .fancy _ => true

/-- Has the form been optimized? -/
def isJit (f : Form M) : Bool := f.table.isSome

/-- The names of the groups by number. -/
def groups (f : Form M) : List (Option String) := match f.compiled with
  | .basic b => M.basicGroups b
  | .fancy c => M.fancyGroups c

/-- The named groups with their numbers. -/
def named (f : Form M) : List (String × Nat) :=
  f.groups.zipIdx.filterMap fun g => g.1.map fun name => (name, g.2)

end Form

/-- The failure for a fancy pattern. The options stood in front of it as inline flags, so offsets
are counted from behind them, and none lies outside of the pattern. -/
def fancyFailure (text inlined : String) : FancyRefusal → CompileFailure
  | .unreadable message offset =>
    ⟨message, min (offset - inlined.utf8ByteSize) text.utf8ByteSize⟩
  | .other message => ⟨message, text.utf8ByteSize⟩

/-- Compiles a fancy pattern with its options in front as inline flags. -/
def compileFancy (M : Matchers) (backtrackLimit : Nat) (text : String) (options : Options) :
    Except CompileFailure (Compiled M) :=
  match M.compileFancy backtrackLimit (options.inlineFlags ++ text) with
  | .ok f => .ok (.fancy f)
  | .error refusal => .error (fancyFailure text options.inlineFlags refusal)

/-- The flags that a basic pattern is compiled with. -/
def basicFlags (o : Options) : SyntaxFlags where
  caseInsensitive := o.caseless
  multiLine := o.multiline
  dotMatchesNewLine := o.dotall
  ignoreWhitespace := o.extended
  swapGreed := o.ungreedy

/-- The flags that a refused pattern is read with to find its fault. -/
def faultFlags (o : Options) : SyntaxFlags where
  caseInsensitive := o.caseless
  multiLine := o.multiline
  dotMatchesNewLine := o.dotall
  ignoreWhitespace := o.extended
  swapGreed := o.ungreedy

/-- The flags that the table of a basic pattern is built with. -/
def tableFlags (o : Options) : SyntaxFlags where
  caseInsensitive := o.caseless
  multiLine := o.multiline
  dotMatchesNewLine := o.dotall
  ignoreWhitespace := o.extended
  swapGreed := o.ungreedy

/-- The failure for a basic pattern: the fault of its text, if there is one. Otherwise the pattern
could be read and the refusal has no place in it. -/
def basicFailure (M : Matchers) (text : String) (options : Options) (refusal : BasicRefusal) :
    CompileFailure :=
  match M.basicFault? text (faultFlags options) with
  | some failure => failure
  | none => ⟨refusal.message, text.utf8ByteSize⟩

/-- Compiles a basic pattern. -/
def compileBasic (M : Matchers) (text : String) (options : Options) :
    Except CompileFailure (Compiled M) :=
  match M.compileBasic text (basicFlags options) with
  | .ok b => .ok (.basic b)
  | .error refusal => .error (basicFailure M text options refusal)

/-- Compiles a pattern; one of unknown dialect is basic if it can be. -/
def compile (M : Matchers) (backtrackLimit : Nat) (p : Pattern) (options : Options) :
    Except CompileFailure (Form M) :=
  let compiled := match p.dialect with
    | .basic => compileBasic M p.text options
    | .fancy => compileFancy M backtrackLimit p.text options
    | .adaptive =>
      match compileBasic M p.text options with
      | .ok c => .ok c
      | .error _ => compileFancy M backtrackLimit p.text options
  compiled.map fun c => ⟨c, p.text, options, none⟩

/-- Is there a match? -/
def isMatch (f : Form M) (input : String) : Except SearchFailure Bool := match f.compiled with
  | .basic b => .ok (M.basicIsMatch b input)
  | .fancy c => M.fancyIsMatch c input

/-- The spans of the groups of the match, if there is one. -/
def captures (f : Form M) (input : String) :
    Except SearchFailure (Option (List (Option Span))) := match f.compiled with
  | .basic b => .ok (M.basicCaptures b input)
  | .fancy c => M.fancyCaptures c input

/-- The matcher's decision, as the answer to a search without slots. -/
def decide (f : Form M) (input : String) : SearchAnswer :=
  { outcome := (isMatch f input).map fun found => if found then some 0 else none }

/-- The answer to a search with slots: as many groups as there are slots for. -/
def fill (f : Form M) (input : String) (slots : Nat) : SearchAnswer :=
  match captures f input with
  | .error e => { outcome := .error e }
  | .ok none => { outcome := .ok none }
  | .ok (some spans) =>
    { outcome := .ok (some (min slots spans.length))
      stores := (spans.take slots).zipIdx.map fun s => (s.2, s.1) }

/-- What is logged when a table gives up. -/
def gaveUpText (reason : String) : String :=
  "DFA search gave up (" ++ reason ++ "); using the regex path"

/-- Searches an input. -/
def search (f : Form M) (input : String) (slots : Nat) : SearchAnswer :=
  if slots ≠ 0 then fill f input slots
  else match f.table with
    | none => decide f input
    | some t =>
      match M.searchTable t input with
      | .found => { outcome := .ok (some 0) }
      | .none => { outcome := .ok none }
      | .gaveUp reason => { decide f input with notes := [⟨.trace, gaveUpText reason⟩] }

/-- Optimizes a form, which may have been done before. -/
def jitCompile (s : Settings) (f : Form M) : Option String × Form M :=
  if !s.jit then (some "engine built without JIT", f)
  else if f.isJit then (none, f)
  else match f.compiled with
    | .fancy _ => (some "pattern requires a backtracking matcher", f)
    | .basic _ =>
      match M.buildTable s.tableLimit f.text (tableFlags f.options) with
      | .ok t => (none, { f with table := some t })
      | .error reason => (some reason, f)

/-- The engine of some matchers. It needs no state. -/
def engine (M : Matchers) (s : Settings) : Engine (Form M) Unit where
  compile p o st := (compile M s.backtrackLimit p o, st)
  captureCount f st := (.ok (f.groups.length - 1), st)
  nameCount f st := (.ok f.named.length, st)
  nameEntrySize f st := (.ok (NameTable.entrySizeFor (f.named.map (·.1))), st)
  nameTable f st :=
    (match NameTable.build f.named with
      | some t => .ok t.bytes
      | none => .error groupOverflowCode, st)
  search f input slots st := (search f input slots, st)
  jitAvailable := s.jit
  jitCompile f st := (jitCompile s f, st)

end Standard

end PatternSuite
