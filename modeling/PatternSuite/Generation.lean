import PatternSuite.Optimizer
import PatternSuite.PatternFile

/-!
# Generations

Loading a pattern file makes a generation: its patterns in the order of the file, and the scope
that owns them. A load succeeds as a whole or leaves nothing behind.

* `Generation.load`: from a file to a generation, or the first failure.
* `Generation.dropped`: the end of a generation.
-/

namespace PatternSuite

variable {κ σ : Type}

/-- A loaded generation. -/
structure Generation where
  patterns : List CompiledPattern
  scope : Scope Duty

/-- A load in progress: the patterns so far, in order, and the compiler. -/
structure Load (κ σ : Type) where
  patterns : List CompiledPattern := []
  compiler : Compiler := Compiler.opened
  ledger : Ledger κ σ

namespace Load

/-- Compiles entries in order up to the first that fails. -/
def compile (E : Engine κ σ) : List PatternEntry → Load κ σ → Option PatternError × Load κ σ
  | [], l => (none, l)
  | e :: es, l =>
    match l.compiler.compile E e.request l.ledger with
    | (.ok p, _, c, w) => compile E es ⟨l.patterns ++ [p], c, w⟩
    | (.error failure, _, c, w) => (some failure, { l with compiler := c, ledger := w })

/-- The end of a load that failed: the patterns, the registry and the scope go. -/
def abandoned (scope : Scope Duty) (l : Load κ σ) : Ledger κ σ :=
  ((l.ledger.letGoAll (l.patterns.map (·.form))).letGoRegistry l.compiler.registry).endScope
    (some scope)

end Load

namespace Generation

/-- The configuration of a file under an override, which counts as a directive. -/
def effectiveConfig (file : PatternFile) (override : Option String) :
    Except PatternError Config :=
  match override with
  | some value => file.config.applyDirective jitDirective value
  | none => .ok file.config

/-- What is logged about a loaded generation. -/
def loadedText (number count : Nat) (config : Config) : String :=
  "generation " ++ toString number ++ ": " ++ toString count ++ " patterns loaded (jit: "
    ++ toString config.jitEnabled ++ ")"

/-- Loads a file as the generation of a number. -/
def load (E : Engine κ σ) (file : PatternFile) (override : Option String) (number : Nat)
    (w : Ledger κ σ) : Except PatternError Generation × Ledger κ σ :=
  match effectiveConfig file override with
  | .error e => (.error e, w)
  | .ok config =>
    let (config, records) := config.validate E.jitAvailable
    let config := config.init
    let w := records.foldl (fun w r => w.note (.logged r)) w
    let scope := Scope.opened number
    match Load.compile E file.entries { ledger := w } with
    | (some e, l) => (.error e, l.abandoned scope)
    | (none, l) =>
      let (_, scope, w) := l.compiler.finish E config scope l.ledger
      (.ok ⟨l.patterns, scope⟩, w.log .info (loadedText number l.patterns.length config))

/-- Tears the scope of a generation down. -/
def teardown (g : Generation) (w : Ledger κ σ) : Generation × Ledger κ σ :=
  let (moments, scope) := g.scope.teardown
  ({ g with scope := scope }, w.follow moments)

/-- The end of a generation: its patterns are let go, and its scope ends. -/
def dropped (g : Generation) (w : Ledger κ σ) : Ledger κ σ :=
  (w.letGoAll (g.patterns.map (·.form))).endScope (some g.scope)

end Generation

end PatternSuite
