import PatternSuite.Matching

/-!
# Reports

What the commands write: a line for each pattern, or a line for each line of the input.

* `describeLine`: a pattern.
* `lineReport`: the answer of a list of patterns to a line, perhaps with the captures.
* `matchReport`: the answers to the lines of an input, up to a line that is no text.
-/

namespace PatternSuite

open Text

variable {κ σ : Type}

/-- A pattern, its groups, whether it is optimized, and its names. -/
def describeLine (index : Nat) (p : CompiledPattern) (jit : Bool) : String :=
  let names := (p.names.map NameTable.entries).getD []
  toString index ++ "\t" ++ quote p.source ++ "\tcaptures=" ++ toString p.captures ++ "\tnamed="
    ++ toString p.namedCaptures ++ "\tjit=" ++ (if jit then "on" else "off")
    ++ String.join (names.map fun e => "\t" ++ e.1 ++ "=$" ++ toString e.2) ++ "\n"

/-- A group by its name, or by its number if it has none. -/
def groupLabel (names : Array (Option String)) (i : Nat) : String :=
  (names[i]?).join.getD ("$" ++ toString i)

/-- The text of a group in quotes, or a dash if the group took no part. -/
def groupText (input : String) (c : Captures) (i : Nat) : String :=
  match c.text? input i with
  | some t => quote t
  | none => "-"

/-- All captures of a match. -/
def captureFields (p : CompiledPattern) (input : String) (c : Captures) : String :=
  String.join <| (List.range c.filled).map fun i =>
    "\t" ++ groupLabel p.captureNames i ++ "=" ++ groupText input c i

/-- Matches a pattern once more for its captures. -/
def captureReport (E : Engine κ σ) (p : CompiledPattern) (input : String) (w : Ledger κ σ) :
    String × Ledger κ σ :=
  match executeInto E p input p.captureBuffer w with
  | (.ok .matched, c, w) => (captureFields p input c, w)
  | (.ok .notMatched, _, w) => ("", w)
  | (.error e, _, w) => ("\terror: " ++ e.message, w)

/-- The answer of a list of patterns to a line. -/
def lineReport (E : Engine κ σ) (ps : List CompiledPattern) (captures : Bool) (line : String)
    (w : Ledger κ σ) : String × Ledger κ σ :=
  match executeArray E ps line w with
  | (.error e, w) => ("error: " ++ e.message ++ "\n", w)
  | (.ok .declined, w) => ("declined\n", w)
  | (.ok (.matched i), w) =>
    match captures, ps[i]? with
    | true, some p =>
      let (text, w) := captureReport E p line w
      (toString i ++ text ++ "\n", w)
    | _, _ => (toString i ++ "\n", w)

/-- The lines of some bytes, the first of which begins with bytes that were read already; those
stand in reverse. -/
def splitLinesFrom (line : List UInt8) : List UInt8 → List (List UInt8)
  | [] => if line.isEmpty then [] else [line.reverse]
  | b :: bs =>
    if b = 10 then (b :: line).reverse :: splitLinesFrom [] bs else splitLinesFrom (b :: line) bs

/-- The lines of some bytes, each with its newline; the last one may lack it. -/
def splitLines (bytes : List UInt8) : List (List UInt8) := splitLinesFrom [] bytes

/-- A line without the carriage returns and newlines at its end. -/
def trimLine (line : String) : String :=
  String.ofList (line.toList.reverse.dropWhile fun c => c == '\r' || c == '\n').reverse

/-- The answers to lines, in order, up to a line that is no text; and whether all were texts. -/
def matchLines (E : Engine κ σ) (ps : List CompiledPattern) (captures : Bool) :
    List (List UInt8) → Ledger κ σ → List String × Bool × Ledger κ σ
  | [], w => ([], true, w)
  | line :: lines, w =>
    match textOfBytes? line with
    | none => ([], false, w)
    | some text =>
      let (report, w) := lineReport E ps captures (trimLine text) w
      let (reports, complete, w) := matchLines E ps captures lines w
      (report :: reports, complete, w)

/-- The answers to the lines of an input. -/
def matchReport (E : Engine κ σ) (ps : List CompiledPattern) (captures : Bool)
    (input : List UInt8) (w : Ledger κ σ) : List String × Bool × Ledger κ σ :=
  matchLines E ps captures (splitLines input) w

end PatternSuite
