import PatternSuite.ErrorBuffer
import PatternSuite.Ledger
import PatternSuite.Registry

/-!
# Compiling the patterns of a load

A compiler asks its engine for a form, asks what the form captures, and registers the pattern that
comes of it. Only a pattern that went through all of this is registered; a form that did not is
let go.

* `compileError`: a refusal, placed in the pattern.
* `describe`: the questions about captures, in order, each only if it is needed.
* `Compiler.compile`: one pattern, from request to registry.
-/

namespace PatternSuite

open Text

variable {κ σ : Type}

/-- A pattern to be compiled, and where the message goes if it cannot be. -/
structure CompileRequest where
  pattern : Pattern
  options : Options := Options.none
  error : ErrorBuffer := ErrorBuffer.default
  deriving DecidableEq, Repr

/-- The error for a refused pattern. It shows the rest of the pattern from where the engine
stopped, unless it stopped at the end. -/
def compileError (pattern : String) (failure : CompileFailure) : PatternError :=
  .compile failure.message pattern <|
    if pattern.utf8ByteSize ≤ failure.offset then none
    else some (String.ofList (dropBytes failure.offset pattern.toList))

/-- Asks for the captures of a form: the number of groups; if there are any, the number of names;
if there are any, the table of names. The first question that fails ends it. -/
def describe (E : Engine κ σ) (form : κ) (id : Nat) (source : String) (w : Ledger κ σ) :
    Except PatternError (Nat × Option NameTable) × Ledger κ σ :=
  match w.ask (.info .captureCount id) (E.captureCount form) with
  | (.error code, w) => (.error (.patternInfo .captureCount source code), w)
  | (.ok captures, w) =>
    if captures = 0 then (.ok (captures, none), w)
    else
      match w.ask (.info .nameCount id) (E.nameCount form) with
      | (.error code, w) => (.error (.patternInfo .nameCount source code), w)
      | (.ok named, w) =>
        if named = 0 then (.ok (captures, none), w)
        else
          match w.ask (.info .nameEntrySize id) (E.nameEntrySize form) with
          | (.error code, w) => (.error (.patternInfo .nameEntrySize source code), w)
          | (.ok entrySize, w) =>
            match w.ask (.info .nameTable id) (E.nameTable form) with
            | (.error code, w) => (.error (.patternInfo .nameTable source code), w)
            | (.ok bytes, w) => (.ok (captures, some (NameTable.ofBytes entrySize bytes)), w)

/-- The compiler of one load. Its registry is there until the load is finished. -/
structure Compiler where
  registry : Option Registry := some Registry.empty
  deriving DecidableEq, Repr

namespace Compiler

/-- A compiler with nothing compiled. -/
def opened : Compiler := {}

/-- Compiles one pattern. The pattern that comes back is held once by the caller, and once more by
the registry while there is one. Whether the registry has room for it is not for the compiler to
say. -/
def compilePattern (E : Engine κ σ) (pattern : Pattern) (options : Options) (c : Compiler)
    (w : Ledger κ σ) (room : Bool := true) :
    Except PatternError CompiledPattern × Compiler × Ledger κ σ :=
  if pattern.isEmpty then (.error .emptyPattern, c, w)
  else
    match w.ask (.compile pattern options) (E.compile pattern options) with
    | (.error failure, w) => (.error (compileError pattern.text failure), c, w)
    | (.ok form, w) =>
      let (id, w) := w.adopt form
      match describe E form id pattern.text w with
      | (.error e, w) => (.error e, c, w.letGo id)
      | (.ok (captures, names), w) =>
        let p : CompiledPattern := ⟨id, pattern.text, captures, names⟩
        match c.registry with
        | none => (.ok p, c, w)
        | some r =>
          match r.push p room with
          | .error e => (.error e, c, w.letGo id)
          | .ok r => (.ok p, { c with registry := some r }, w.retain id)

/-- Compiles the pattern of a request. A failure also leaves its message, cut to size, in the
request's buffer. -/
def compile (E : Engine κ σ) (request : CompileRequest) (c : Compiler) (w : Ledger κ σ)
    (room : Bool := true) :
    Except PatternError CompiledPattern × CompileRequest × Compiler × Ledger κ σ :=
  match c.compilePattern E request.pattern request.options w room with
  | (.ok p, c, w) => (.ok p, request, c, w)
  | (.error e, c, w) => (.error e, { request with error := request.error.write e.message }, c, w)

/-- The compiler for people. -/
def report (c : Compiler) : String :=
  "RegexCompiler \x7b registry: " ++ (match c.registry with
    | some r => "Some(" ++ r.report ++ ")"
    | none => "None") ++ " \x7d"

end Compiler

end PatternSuite
