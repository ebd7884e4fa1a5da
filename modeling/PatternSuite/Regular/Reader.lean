import PatternSuite.Regular.Ast
import PatternSuite.Regular.SyntaxError
import PatternSuite.Text.Turns
import PatternSuite.Unicode.Classes

/-!
# Reading basic patterns

From the text of a pattern to its tree, from left to right. What is open at a place (groups with
their branches, classes with their operands) stands on a stack of frames. In the extended style
blanks and comments are passed over between the parts of a pattern.

* `Ast.read`: the whole text.
* `Ast.tooDeep?`: where a tree is nested more deeply than a limit allows.
-/

namespace PatternSuite.Regular

open Unicode Text

/-- A place in a pattern, and what has been learned on the way there. -/
structure Cursor where
  /-- The characters not yet read. -/
  rest : List Char
  /-- The byte offset of the place. -/
  offset : Nat
  /-- Are blanks and comments passed over? -/
  extended : Bool
  /-- How many groups capture so far. -/
  groups : Nat := 0
  /-- The names of groups so far. -/
  names : List String := []

/-- A reader of a part of a pattern. -/
abbrev Read := StateT Cursor (Except SyntaxError)

namespace Read

/-- Gives up because of a fault that begins at an offset. -/
def fail {α : Type} (fault : Fault) (offset : Nat) : Read α :=
  throw ⟨fault, offset⟩

/-- The next character. -/
def peek : Read (Option Char) := return (← get).rest.head?

/-- The offset of the place. -/
def offset : Read Nat := return (← get).offset

/-- Is nothing left? -/
def atEnd : Read Bool := return (← get).rest.isEmpty

/-- Reads one character. -/
def bump : Read Unit := modify fun s =>
  match s.rest with
  | [] => s
  | c :: cs => { s with rest := cs, offset := s.offset + c.utf8Size }

/-- Reads a text, if it comes next. -/
def bumpIf (text : String) : Read Bool := do
  let s ← get
  if text.toList.isPrefixOf s.rest then
    set { s with rest := s.rest.drop text.length, offset := s.offset + text.utf8ByteSize }
    return true
  return false

/-- Passes over blanks and comments; a comment runs to the end of its line. -/
def passBlanks (inComment : Bool) (offset : Nat) : List Char → List Char × Nat
  | [] => ([], offset)
  | c :: cs =>
    if inComment then passBlanks (c != '\n') (offset + c.utf8Size) cs
    else if isWhiteSpace c then passBlanks false (offset + c.utf8Size) cs
    else if c == '#' then passBlanks true (offset + c.utf8Size) cs
    else (c :: cs, offset)

/-- Passes over blanks and comments in the extended style. -/
def skipBlanks : Read Unit := modify fun s =>
  if s.extended then
    let (rest, offset) := passBlanks false s.offset s.rest
    { s with rest := rest, offset := offset }
  else s

/-- Reads one character and the blanks after it; is there more? -/
def bumpAndSkip : Read Bool := do
  bump
  skipBlanks
  return !(← atEnd)

/-- The next character that counts after the present one. A comment sign is passed over like a
blank, but not what stands behind it; if nothing counts, the character right after is given. -/
def peekVisible : Read (Option Char) := do
  let s ← get
  let ahead := s.rest.drop 1
  if s.extended then
    return (visible false ahead).or ahead.head?
  return ahead.head?
where
  /-- The first character that is no blank, nor the first comment sign. -/
  visible (seenSign : Bool) : List Char → Option Char
    | [] => none
    | c :: cs =>
      if isWhiteSpace c then visible seenSign cs
      else if !seenSign && c == '#' then visible true cs
      else some c

/-- Takes turns until one is the last. -/
def repeatedly {α β : Type} [Inhabited β] (step : α → Read (Turn α β)) (a : α) : Read β := do
  takeTurns step ((← get).rest.length + 1) a

end Read

open Read

/-! ### Numbers and escapes -/

/-- Blanks are passed over in any style. -/
def skipAnyBlanks : Read Unit :=
  repeatedly (fun (_ : Unit) => do
    match ← peek with
    | some c => if isWhiteSpace c then bump; return .again () else return .done ()
    | none => return .done ()) ()

/-- The greatest count of a repetition. -/
def greatestCount : Nat := 0xFFFFFFFF

/-- A decimal number with blanks around it, if there are any digits. -/
def readDecimal? : Read (Except SyntaxError Nat) := do
  skipAnyBlanks
  let start ← offset
  let digits : List Char ← repeatedly (fun (ds : List Char) => do
    match ← peek with
    | some c =>
      if c.isDigit then
        let _ ← bumpAndSkip
        return .again (c :: ds)
      else return .done ds.reverse
    | none => return .done ds.reverse) []
  repeatedly (fun (_ : Unit) => do
    match ← peek with
    | some c =>
      if isWhiteSpace c then
        let _ ← bumpAndSkip
        return .again ()
      else return .done ()
    | none => return .done ()) ()
  if digits.isEmpty then return .error ⟨.repetitionCountDecimalEmpty, start⟩
  let n := digits.foldl (fun n d => n * 10 + (d.toNat - '0'.toNat)) 0
  if greatestCount < n then return .error ⟨.decimalInvalid, start⟩
  return .ok n

/-- The value of a hexadecimal digit in either case. -/
def hexValue? (c : Char) : Option Nat :=
  if c.isDigit then some (c.toNat - '0'.toNat)
  else if 'a' ≤ c ∧ c ≤ 'f' then some (c.toNat - 'a'.toNat + 10)
  else if 'A' ≤ c ∧ c ≤ 'F' then some (c.toNat - 'A'.toNat + 10)
  else none

/-- Is the number a character? -/
def isScalar (n : Nat) : Bool := n < 0xD800 || (0xDFFF < n && n < 0x110000)

/-- A character given by exactly `count` hexadecimal digits. -/
def readHexDigits (count : Nat) (escape : Nat) : Read Literal := do
  let start ← offset
  let value ← go count true 0
  let _ ← bumpAndSkip
  if isScalar value then
    return { char := Char.ofNat value, start := escape, byte := count == 2 }
  else fail .escapeHexInvalid start
where
  /-- Reads the remaining digits. -/
  go : Nat → Bool → Nat → Read Nat
    | 0, _, value => return value
    | n + 1, first, value => do
      if !first then
        if !(← bumpAndSkip) then fail .escapeUnexpectedEnd (← offset)
      match ← peek with
      | none => fail .escapeUnexpectedEnd (← offset)
      | some c =>
        match hexValue? c with
        | none => fail .escapeHexInvalidDigit (← offset)
        | some d => go n false (value * 16 + d)

/-- A character given by hexadecimal digits in braces. -/
def readHexBraces (escape : Nat) : Read Literal := do
  let brace ← offset
  let digits : List Nat ← repeatedly (fun (ds : List Nat) => do
    if ← bumpAndSkip then
      match ← peek with
      | some '}' => return .done ds.reverse
      | some c =>
        match hexValue? c with
        | some d => return .again (d :: ds)
        | none => fail .escapeHexInvalidDigit (← offset)
      | none => return .done ds.reverse
    else return .done ds.reverse) []
  if ← atEnd then fail .escapeUnexpectedEnd brace
  let _ ← bumpAndSkip
  if digits.isEmpty then fail .escapeHexEmpty brace
  let value := digits.foldl (fun n d => n * 16 + d) 0
  if isScalar value then return { char := Char.ofNat value, start := escape }
  else fail .escapeHexInvalid (brace + 1)

/-- A character given in hexadecimal, from its letter on. -/
def readHex (letter : Char) (escape : Nat) : Read Literal := do
  if !(← bumpAndSkip) then fail .escapeUnexpectedEnd (← offset)
  if (← peek) == some '{' then readHexBraces escape
  else readHexDigits (if letter == 'x' then 2 else if letter == 'u' then 4 else 8) escape

/-- Splits a text at the first place where another text occurs. -/
def splitAtText (mark : List Char) (before : List Char) : List Char → Option (String × String)
  | [] => none
  | c :: cs =>
    if mark.isPrefixOf (c :: cs) then
      some (String.ofList before.reverse, String.ofList ((c :: cs).drop mark.length))
    else splitAtText mark (c :: before) cs

/-- What the text in the braces of a property class asks for. -/
def propertyQuery (text : List Char) : PropertyQuery :=
  let found := ["!=", ":", "="].findSome? fun mark => splitAtText mark.toList [] text
  match found with
  | some (name, value) => .valued name value
  | none => .named (String.ofList text)

/-- A property class, from its letter on. -/
def readProperty : Read PropertyQuery := do
  if !(← bumpAndSkip) then fail .escapeUnexpectedEnd (← offset)
  match ← peek with
  | some '{' =>
    let text : List Char ← repeatedly (fun (cs : List Char) => do
      if ← bumpAndSkip then
        match ← peek with
        | some '}' => return .done cs.reverse
        | some c => return .again (c :: cs)
        | none => return .done cs.reverse
      else return .done cs.reverse) []
    if ← atEnd then fail .escapeUnexpectedEnd (← offset)
    bump
    return propertyQuery text
  | some c =>
    if c == '\\' then fail .unicodeClassInvalid (← offset)
    let _ ← bumpAndSkip
    return .named (String.singleton c)
  | none => fail .escapeUnexpectedEnd (← offset)

/-- Has the character a meaning of its own in patterns? -/
def isMeta (c : Char) : Bool := "\\.+*?()|[]{}^$#&-~".contains c

/-- Can a backslash stand before the character without giving it a meaning? -/
def isEscapable (c : Char) : Bool :=
  isMeta c || (c.toNat < 0x80 && !c.isAlphanum && c != '<' && c != '>')

/-- A part of a pattern or of a class that is complete in itself. -/
inductive Primitive
  | literal (l : Literal)
  | anchor (a : Anchor) (start : Nat)
  | dot (start : Nat)
  | perl (kind : PerlClass) (negated : Bool) (start : Nat)
  | property (query : PropertyQuery) (negated : Bool) (start : Nat)
  deriving Inhabited

/-- The offset at which a primitive begins. -/
def Primitive.start : Primitive → Nat
  | literal l => l.start
  | anchor _ s => s
  | dot s => s
  | perl _ _ s => s
  | property _ _ s => s

/-- A primitive as a tree. -/
def Primitive.toAst : Primitive → Ast
  | literal l => .literal l
  | anchor a s => .anchor a s
  | dot s => .dot s
  | perl k n s => .perl k n s
  | property q n s => .property q n s

/-- May the character stand in the name of a word edge? -/
def isEdgeChar (c : Char) : Bool := c.isAlpha || c == '-'

/-- The word edge named in braces after an escape that began at `escape`, if the braces hold a
name rather than a count. -/
def readWordEdge? (escape : Nat) : Read (Option WordEdge) := do
  let before ← get
  if !(← bumpAndSkip) then fail .specialWordOrRepetitionUnexpectedEnd escape
  let contents ← offset
  match ← peek with
  | none => fail .specialWordOrRepetitionUnexpectedEnd escape
  | some c =>
    if !isEdgeChar c then
      set before
      return none
    let name : List Char ← repeatedly (fun (cs : List Char) => do
      match ← peek with
      | some c =>
        if isEdgeChar c then
          let _ ← bumpAndSkip
          return .again (c :: cs)
        else return .done cs.reverse
      | none => return .done cs.reverse) []
    if (← peek) != some '}' then fail .specialWordBoundaryUnclosed before.offset
    bump
    match String.ofList name with
    | "start" => return some .start
    | "end" => return some .stop
    | "start-half" => return some .startHalf
    | "end-half" => return some .stopHalf
    | _ => fail .specialWordBoundaryUnrecognized contents

/-- The class of a letter, and whether it is negated. -/
def perlClass? : Char → Option (PerlClass × Bool)
  | 'd' => some (.digit, false)
  | 'D' => some (.digit, true)
  | 's' => some (.space, false)
  | 'S' => some (.space, true)
  | 'w' => some (.word, false)
  | 'W' => some (.word, true)
  | _ => none

/-- The control character of a letter. -/
def controlChar? : Char → Option Char
  | 'a' => some '\x07'
  | 'f' => some '\x0c'
  | 't' => some '\t'
  | 'n' => some '\n'
  | 'r' => some '\r'
  | 'v' => some '\x0b'
  | _ => none

/-- The condition of a letter; for `b` a name may follow. -/
def anchor? : Char → Option Anchor
  | 'A' => some .textStart
  | 'z' => some .textEnd
  | 'b' => some (.word .boundary)
  | 'B' => some (.word .inside)
  | '<' => some (.word .start)
  | '>' => some (.word .stop)
  | _ => none

/-- An escape, from its backslash on. -/
def readEscape : Read Primitive := do
  let start ← offset
  bump
  match ← peek with
  | none => fail .escapeUnexpectedEnd start
  | some c =>
    if c.isDigit then fail .unsupportedBackreference start
    else if c == 'x' || c == 'u' || c == 'U' then return .literal (← readHex c start)
    else if c == 'p' || c == 'P' then return .property (← readProperty) (c == 'P') start
    else
      bump
      if let some (kind, negated) := perlClass? c then return .perl kind negated start
      else if isEscapable c then return .literal { char := c, start := start }
      else if let some control := controlChar? c then
        return .literal { char := control, start := start }
      else if c == 'b' && (← peek) == some '{' then
        return .anchor (.word ((← readWordEdge? start).getD .boundary)) start
      else if let some a := anchor? c then return .anchor a start
      else fail .escapeUnrecognized start

/-- A single character, a dot, an anchor or an escape. -/
def readPrimitive : Read Primitive := do
  let start ← offset
  match ← peek with
  | some '\\' => readEscape
  | some c =>
    bump
    return match c with
      | '.' => .dot start
      | '^' => .anchor .lineStart start
      | '$' => .anchor .lineEnd start
      | c => .literal { char := c, start := start }
  | none => return .literal { char := '\x00', start := start }

/-! ### Classes in brackets -/

/-- What is open inside the outermost bracket. -/
inductive ClassFrame
  /-- A bracket, with the parts around it, last first. -/
  | bracket (outerStart : Nat) (outer : List ClassTree) (negated : Bool) (start : Nat)
  /-- An operand that waits for the one to its right. -/
  | operand (op : ClassOp) (left : ClassTree)

/-- The parts of the innermost bracket so far, last first, inside of what is open. -/
structure OpenClass where
  frames : List ClassFrame := []
  start : Nat := 0
  parts : List ClassTree := []

/-- The offset of the innermost open bracket. -/
def innermostBracket : List ClassFrame → Nat
  | [] => 0
  | .bracket _ _ _ start :: _ => start
  | .operand .. :: frames => innermostBracket frames

/-- Completes the operation that waits for its right operand, if there is one. -/
def applyOperand (frames : List ClassFrame) (right : ClassTree) : List ClassFrame × ClassTree :=
  match frames with
  | .operand op left :: frames => (frames, .binary op left.start left right)
  | frames => (frames, right)

/-- Opens a bracket: a caret negates, then any hyphens and else a closing bracket stand for
themselves. -/
def openBracket (c : OpenClass) : Read OpenClass := do
  let start ← offset
  if !(← bumpAndSkip) then fail .classUnclosed start
  let negated := (← peek) == some '^'
  if negated then
    if !(← bumpAndSkip) then fail .classUnclosed start
  let inside ← offset
  let hyphens : List ClassTree ← repeatedly (fun (parts : List ClassTree) => do
    if (← peek) == some '-' then
      let here ← offset
      if !(← bumpAndSkip) then fail .classUnclosed start
      return .again (.literal { char := '-', start := here } :: parts)
    else return .done parts) []
  let mut parts := hyphens
  if parts.isEmpty && (← peek) == some ']' then
    let here ← offset
    if !(← bumpAndSkip) then fail .classUnclosed start
    parts := [.literal { char := ']', start := here }]
  return ⟨.bracket c.start c.parts negated start :: c.frames, inside, parts⟩

/-- Closes the innermost bracket: the whole class if it was the outermost one. -/
def closeBracket (c : OpenClass) : Read (Turn OpenClass Ast) := do
  let item := ClassTree.ofParts c.start c.parts.reverse
  bump
  match applyOperand c.frames item with
  | (.bracket outerStart outer negated start :: frames, body) =>
    if frames.isEmpty then return .done (.bracketed negated start body)
    else return .again ⟨frames, outerStart, .bracketed negated start body :: outer⟩
  | (_, body) => return .done (.bracketed false c.start body)

/-- Reads an operator; what stands to its left waits for what comes next. -/
def readClassOp (mark : String) (op : ClassOp) (c : OpenClass) : Read OpenClass := do
  let _ ← bumpIf mark
  let (frames, left) := applyOperand c.frames (ClassTree.ofParts c.start c.parts.reverse)
  return ⟨.operand op left :: frames, ← offset, []⟩

/-- The ASCII class of a name. -/
def asciiClass? : String → Option AsciiClass
  | "alnum" => some .alnum
  | "alpha" => some .alpha
  | "ascii" => some .ascii
  | "blank" => some .blank
  | "cntrl" => some .cntrl
  | "digit" => some .digit
  | "graph" => some .graph
  | "lower" => some .lower
  | "print" => some .print
  | "punct" => some .punct
  | "space" => some .space
  | "upper" => some .upper
  | "word" => some .word
  | "xdigit" => some .xdigit
  | _ => none

/-- The ASCII class that some characters spell from their bracket on, with its length. -/
def asciiClassAt? : List Char → Option (AsciiClass × Bool × Nat)
  | '[' :: ':' :: rest =>
    let negated := rest.head? == some '^'
    let named := if negated then rest.drop 1 else rest
    let name := named.takeWhile (· != ':')
    if [':', ']'].isPrefixOf (named.drop name.length) then
      (asciiClass? (String.ofList name)).map fun kind =>
        (kind, negated, name.length + (if negated then 5 else 4))
    else none
  | _ => none

/-- A part of a class that is complete in itself. -/
def readClassItem : Read Primitive := do
  match ← peek with
  | some '\\' => readEscape
  | some c =>
    let start ← offset
    bump
    return .literal { char := c, start := start }
  | none => return .literal { char := '\x00', start := ← offset }

/-- A primitive as a part of a class. -/
def Primitive.toClassItem : Primitive → Read ClassTree
  | .literal l => return .literal l
  | .perl k n s => return .perl k n s
  | .property q n s => return .property q n s
  | p => fail .classEscapeInvalid p.start

/-- A primitive as an end of a range. -/
def Primitive.toRangeEnd : Primitive → Read Literal
  | .literal l => return l
  | p => fail .classRangeLiteral p.start

/-- A part of a class, or a range between two. A hyphen makes no range before a closing bracket
or another hyphen. -/
def readClassRange (c : OpenClass) : Read ClassTree := do
  let unclosed {α : Type} : Read α := fail .classUnclosed (innermostBracket c.frames)
  let first ← readClassItem
  skipBlanks
  if ← atEnd then unclosed
  let ahead ← peekVisible
  if (← peek) != some '-' || ahead == some ']' || ahead == some '-' then first.toClassItem
  else
    if !(← bumpAndSkip) then unclosed
    let second ← readClassItem
    let lo ← first.toRangeEnd
    let hi ← second.toRangeEnd
    if hi.char < lo.char then fail .classRangeInvalid lo.start
    return .range lo hi

/-- One turn inside brackets. -/
def readClassPart (c : OpenClass) : Read (Turn OpenClass Ast) := do
  skipBlanks
  let s ← get
  let twice (x : Char) : Bool := s.rest.take 2 == [x, x]
  match s.rest with
  | [] => fail .classUnclosed (innermostBracket c.frames)
  | '[' :: _ =>
    match asciiClassAt? s.rest with
    | some (kind, negated, length) =>
      set { s with rest := s.rest.drop length, offset := s.offset + length }
      return .again { c with parts := .ascii kind negated s.offset :: c.parts }
    | none => return .again (← openBracket c)
  | ']' :: _ => closeBracket c
  | _ =>
    if twice '&' then return .again (← readClassOp "&&" .inter c)
    else if twice '-' then return .again (← readClassOp "--" .diff c)
    else if twice '~' then return .again (← readClassOp "~~" .symmDiff c)
    else return .again { c with parts := (← readClassRange c) :: c.parts }

/-- A class in brackets. -/
def readClass : Read Ast := do
  repeatedly readClassPart (← openBracket {})

/-! ### Groups -/

/-- What is open around a place. -/
inductive GroupFrame
  /-- A group, with the parts before it, last first, and the style outside. -/
  | group (before : List Ast) (beforeStart : Nat) (kind : GroupKind) (start : Nat)
    (extended : Bool)
  /-- Branches that are complete, last first. -/
  | branches (start : Nat) (done : List Ast)

/-- The parts of the innermost branch so far, last first, inside of what is open. -/
structure OpenGroup where
  frames : List GroupFrame := []
  start : Nat := 0
  parts : List Ast := []

/-- The innermost branch as a tree. -/
def OpenGroup.branch (g : OpenGroup) : Ast := Ast.ofParts g.start g.parts.reverse

/-- May the character stand in the name of a group? -/
def isNameChar (first : Bool) (c : Char) : Bool :=
  if first then c == '_' || isAlphabetic c
  else c == '_' || c == '.' || c == '[' || c == ']' || isAlphanumeric c

/-- The name of a group, up to its closing angle. No two groups have one name. -/
def readGroupName : Read String := do
  if ← atEnd then fail .groupNameUnexpectedEnd (← offset)
  let start ← offset
  let name : List Char ← repeatedly (fun (cs : List Char) => do
    match ← peek with
    | some '>' => return .done cs.reverse
    | some c =>
      if isNameChar cs.isEmpty c then
        bump
        return .again (c :: cs)
      else fail .groupNameInvalid (← offset)
    | none => return .done cs.reverse) []
  if ← atEnd then fail .groupNameUnexpectedEnd (← offset)
  bump
  if name.isEmpty then fail .groupNameEmpty start
  let name := String.ofList name
  if (← get).names.contains name then fail .groupNameDuplicate start
  modify fun s => { s with names := name :: s.names }
  return name

/-- The flags being read, last first, and whether a minus sign has come, and where the last
character was one. -/
structure OpenFlags where
  changes : FlagChanges := []
  negated : Bool := false
  dangling : Option Nat := none

/-- Flags, up to the colon or parenthesis that ends them. Does anything stand there? -/
def readFlags : Read (FlagChanges × Bool) := do
  repeatedly (fun (f : OpenFlags) => do
    let here ← offset
    match ← peek with
    | none => fail .flagUnexpectedEnd here
    | some c =>
      if c == ':' || c == ')' then
        match f.dangling with
        | some start => fail .flagDanglingNegation start
        | none => return .done (f.changes.reverse, !f.changes.isEmpty)
      else
        let next ← if c == '-' then
            if f.negated then fail .flagRepeatedNegation here
            else pure { f with negated := true, dangling := some here }
          else match Flag.ofChar? c with
            | none => fail .flagUnrecognized here
            | some flag =>
              if (FlagChanges.value? flag f.changes).isSome then fail .flagDuplicate here
              else pure { f with changes := (flag, !f.negated) :: f.changes, dangling := none }
        bump
        if ← atEnd then fail .flagUnexpectedEnd (← offset)
        return .again next) {}

/-- A new capturing group. -/
def nextGroup : Read Nat := do
  modify fun s => { s with groups := s.groups + 1 }
  return (← get).groups

/-- Opens a group, or reads flags for the rest of the group. -/
def openGroup (g : OpenGroup) : Read OpenGroup := do
  let start ← offset
  bump
  skipBlanks
  for mark in ["?=", "?!", "?<=", "?<!"] do
    if ← bumpIf mark then fail .unsupportedLookAround start
  let inside ← offset
  let enter (kind : GroupKind) (extended : Bool) : Read OpenGroup := do
    let outside := (← get).extended
    modify fun s => { s with extended := extended }
    return ⟨.group g.parts g.start kind start outside :: g.frames, ← offset, []⟩
  if (← bumpIf "?P<") || (← bumpIf "?<") then
    let index ← nextGroup
    let name ← readGroupName
    enter (.capture index (some name)) (← get).extended
  else if ← bumpIf "?" then
    if ← atEnd then fail .groupUnclosed start
    let (changes, some?) ← readFlags
    let stop ← peek
    bump
    let extended := (FlagChanges.value? .extended changes).getD (← get).extended
    if stop == some ')' then
      if !some? then fail .repetitionMissing inside
      modify fun s => { s with extended := extended }
      return { g with parts := .flags changes start :: g.parts }
    else enter (.plain changes) extended
  else
    enter (.capture (← nextGroup) none) (← get).extended

/-- Closes the innermost group. -/
def closeGroup (g : OpenGroup) : Read OpenGroup := do
  let leave (body : Ast) : List GroupFrame → Read OpenGroup
    | .group before beforeStart kind start extended :: frames => do
      modify fun s => { s with extended := extended }
      bump
      return ⟨frames, beforeStart, .group kind start body :: before⟩
    | _ => do fail .groupUnopened (← offset)
  match g.frames with
  | .branches start done :: frames =>
    leave (.alternation start (g.branch :: done).reverse) frames
  | frames => leave g.branch frames

/-- Ends a branch. -/
def endBranch (g : OpenGroup) : Read OpenGroup := do
  let frames := match g.frames with
    | .branches start done :: frames => .branches start (g.branch :: done) :: frames
    | frames => .branches g.start [g.branch] :: frames
  bump
  return ⟨frames, ← offset, []⟩

/-- Ends the whole pattern; no group may be open. -/
def endPattern (g : OpenGroup) : Read Ast :=
  let finish (body : Ast) : List GroupFrame → Read Ast
    | .group _ _ _ start _ :: _ => fail .groupUnclosed start
    | _ => return body
  match g.frames with
  | .branches start done :: frames =>
    finish (.alternation start (g.branch :: done).reverse) frames
  | frames => finish g.branch frames

/-! ### Repetitions and the whole pattern -/

/-- What a repetition at this place repeats, with the parts before it. -/
def repeatedPart (g : OpenGroup) : Read (Ast × List Ast) := do
  match g.parts with
  | [] => fail .repetitionMissing (← offset)
  | .empty _ :: _ => fail .repetitionMissing (← offset)
  | .flags .. :: _ => fail .repetitionMissing (← offset)
  | body :: before => return (body, before)

/-- A repetition by a sign. -/
def readSignRepetition (min : Nat) (max : Option Nat) (g : OpenGroup) : Read OpenGroup := do
  let (body, before) ← repeatedPart g
  bump
  let greedy := (← peek) != some '?'
  if !greedy then bump
  return { g with parts := .repetition min max greedy body :: before }

/-- A repetition by a count in braces. -/
def readCountRepetition (g : OpenGroup) : Read OpenGroup := do
  let start ← offset
  let (body, before) ← repeatedPart g
  let unclosed {α : Type} : Read α := fail .repetitionCountUnclosed start
  if !(← bumpAndSkip) then unclosed
  let first ← readDecimal?
  if ← atEnd then unclosed
  let (min, max) ← if (← peek) == some ',' then do
      if !(← bumpAndSkip) then unclosed
      if (← peek) == some '}' then pure (← liftExcept first, none)
      else
        let min ← liftExcept first
        pure (min, some (← liftExcept (← readDecimal?)))
    else do
      let n ← liftExcept first
      pure (n, some n)
  if (← peek) != some '}' then unclosed
  let more ← bumpAndSkip
  let greedy := !(more && (← peek) == some '?')
  if !greedy then bump
  match max with
  | some m => if m < min then fail .repetitionCountInvalid start
  | none => pure ()
  return { g with parts := .repetition min max greedy body :: before }
where
  /-- The number, if it was one. -/
  liftExcept : Except SyntaxError Nat → Read Nat
    | .ok n => return n
    | .error e => throw e

/-- One turn of the reader. -/
def readPart (g : OpenGroup) : Read (Turn OpenGroup Ast) := do
  skipBlanks
  match ← peek with
  | none => return .done (← endPattern g)
  | some '(' => return .again (← openGroup g)
  | some ')' => return .again (← closeGroup g)
  | some '|' => return .again (← endBranch g)
  | some '[' => return .again { g with parts := (← readClass) :: g.parts }
  | some '?' => return .again (← readSignRepetition 0 (some 1) g)
  | some '*' => return .again (← readSignRepetition 0 none g)
  | some '+' => return .again (← readSignRepetition 1 none g)
  | some '{' => return .again (← readCountRepetition g)
  | some _ => return .again { g with parts := (← readPrimitive).toAst :: g.parts }

/-! ### Nesting -/

mutual

/-- Where a class is nested more deeply than `room` allows. -/
def ClassTree.tooDeep? (room : Nat) : ClassTree → Option Nat
  | .bracketed _ start body =>
    match room with
    | 0 => some start
    | room + 1 => body.tooDeep? room
  | .union start parts =>
    match room with
    | 0 => some start
    | room + 1 => ClassTree.tooDeepIn? room parts
  | .binary _ start left right =>
    match room with
    | 0 => some start
    | room + 1 => (left.tooDeep? room).or (right.tooDeep? room)
  | _ => none

/-- Where one of several classes is nested too deeply. -/
def ClassTree.tooDeepIn? (room : Nat) : List ClassTree → Option Nat
  | [] => none
  | c :: cs => (c.tooDeep? room).or (ClassTree.tooDeepIn? room cs)

end

mutual

/-- Where a tree is nested more deeply than `room` allows. -/
def Ast.tooDeep? (room : Nat) : Ast → Option Nat
  | .bracketed _ start body =>
    match room with
    | 0 => some start
    | room + 1 => body.tooDeep? room
  | .repetition _ _ _ body =>
    match room with
    | 0 => some body.start
    | room + 1 => body.tooDeep? room
  | .group _ start body =>
    match room with
    | 0 => some start
    | room + 1 => body.tooDeep? room
  | .alternation start branches =>
    match room with
    | 0 => some start
    | room + 1 => Ast.tooDeepIn? room branches
  | .concat start parts =>
    match room with
    | 0 => some start
    | room + 1 => Ast.tooDeepIn? room parts
  | _ => none

/-- Where one of several trees is nested too deeply. -/
def Ast.tooDeepIn? (room : Nat) : List Ast → Option Nat
  | [] => none
  | a :: as => (a.tooDeep? room).or (Ast.tooDeepIn? room as)

end

/-- How deeply a pattern may be nested. -/
def nestLimit : Nat := 250

/-- The tree of a pattern. -/
def Ast.read (text : String) (extended : Bool) : Except SyntaxError Ast := do
  let chars := text.toList
  let (tree, _) ← (repeatedly readPart {}).run { rest := chars, offset := 0, extended := extended }
  match tree.tooDeep? nestLimit with
  | some start => throw ⟨.nestLimitExceeded nestLimit, start⟩
  | none => return tree

end PatternSuite.Regular
