import PatternSuite.Matching
import PatternSuite.Optimizer
import PatternSuite.Shelf

/-!
# Sessions

A session is one engine with the objects around it: patterns that callers hold by handles, capture
buffers, compilers of loads, registries of the callers' own, scopes of generations, and one
configuration. There may be any number of each, under names. Steps may come in any order. A step
that needs something that is not there changes nothing.

* `Session.step`: one step.
* `Session.run`, `Session.answers`: a whole run, and what it answered.
* `Session.heldForms`: the forms that the session's objects hold. The ledger counts the same.
-/

namespace PatternSuite

variable {κ σ : Type}

/-- The name of the compiler and of the scope that a session begins with. -/
def mainName : String := "main"

/-- An engine's ledger and the objects around the engine. -/
structure Session (κ σ : Type) where
  ledger : Ledger κ σ
  compilers : Shelf Compiler := .single mainName Compiler.opened
  scopes : Shelf (Scope Duty) := .single mainName (Scope.opened 1)
  config : Config := {}
  /-- Registries of the callers' own. -/
  registries : Shelf Registry := {}
  /-- Patterns by handle. -/
  patterns : Shelf CompiledPattern := {}
  /-- Capture buffers by name. -/
  buffers : Shelf Captures := {}

/-- Where the captures of a match go. -/
inductive CaptureTarget
  /-- Nowhere. -/
  | nowhere
  /-- To a new buffer with this many slots. -/
  | fresh (capacity : Nat)
  /-- To a new buffer made for the pattern. -/
  | fitted
  /-- To a buffer of the session. -/
  | held (name : String)
  deriving DecidableEq, Repr

/-- One step of a session. -/
inductive Step
  /-- Compile a pattern; a handle holds it if that succeeds. -/
  | compile (compiler handle : String) (request : CompileRequest) (room : Bool := true)
  /-- Hold a pattern by one more handle. -/
  | share (handle copy : String)
  /-- Look at a pattern. -/
  | describe (handle : String)
  /-- Look up a group's name. -/
  | index (handle name : String)
  /-- Make a capture buffer. -/
  | buffer (name : String) (capacity : Nat)
  /-- Match a pattern. -/
  | exec (handle input : String) (into : CaptureTarget)
  /-- Match a list of patterns. -/
  | array (handles : List String) (input : String)
  /-- Apply a directive to the configuration. -/
  | directive (name value : String)
  /-- Set the flag of the configuration. -/
  | withJit (enabled : Bool)
  /-- Check the configuration against the engine. -/
  | validate
  /-- Settle the configuration. -/
  | init
  /-- End the load of a compiler, for a scope. -/
  | finish (compiler scope : String)
  /-- Optimize one pattern. -/
  | jit (handle : String)
  /-- Look at a compiler's registry. -/
  | registry (compiler : String)
  /-- Make a registry of the caller's own; one of the same name is dropped. -/
  | newRegistry (name : String)
  /-- Register a pattern with it. -/
  | push (registry handle : String) (room : Bool := true)
  /-- Hand it to the batch pass, for a scope. -/
  | optimize (registry scope : String) (enabled : Bool)
  /-- Take the entries out of it, and drop them. -/
  | entries (registry : String)
  /-- Drop it. -/
  | dropRegistry (registry : String)
  /-- Stop holding patterns; a handle that holds nothing is passed over. -/
  | drop (handles : List String)
  /-- Drop a compiler. -/
  | dropCompiler (compiler : String)
  /-- Make a compiler; one of the same name is dropped. -/
  | newCompiler (compiler : String)
  /-- Make a scope; one of the same name is dropped. -/
  | newScope (scope : String) (generation : Nat)
  /-- Drop a scope. -/
  | dropScope (scope : String)
  /-- Tear a scope down. -/
  | teardown (scope : String)
  deriving DecidableEq, Repr

/-- What a step answers. -/
inductive Answer
  /-- Something the step needs is not there. -/
  | unheld
  /-- Done. -/
  | done
  /-- Something the step needs could not be had. -/
  | failed (e : PatternError)
  /-- A compilation, and its request afterwards. -/
  | compiled (outcome : Except PatternError CompiledPattern) (request : CompileRequest)
  /-- A pattern. -/
  | pattern (p : CompiledPattern)
  /-- The number of a group, if it was found. -/
  | group (index : Option Nat)
  /-- A capture buffer. -/
  | buffer (c : Captures)
  /-- A match, and the buffer it used. -/
  | matched (outcome : Except PatternError MatchOutcome) (buffer : Option Captures)
  /-- The match of a list. -/
  | array (outcome : Except PatternError ArrayOutcome)
  /-- What the configuration said. -/
  | config (outcome : Except PatternError Unit)
  /-- A batch pass is over. -/
  | optimized
  /-- A single optimization: why it was refused, if it was, and the pattern. -/
  | jit (refusal : Option String) (p : CompiledPattern)
  /-- The compiler. -/
  | compiler (c : Compiler)
  /-- A registry. -/
  | registry (r : Registry)
  /-- The entries of a registry. -/
  | entries (es : List RegistryEntry)
  /-- The handles that still hold something. -/
  | held
  /-- The scope. -/
  | scope (s : Scope Duty)

namespace Session

/-- A session with nothing done yet. -/
def opened (state : σ) : Session κ σ := { ledger := { state } }

/-- Lets a handle hold a pattern; what it held before is let go. -/
def hold (s : Session κ σ) (handle : String) (p : CompiledPattern) : Session κ σ :=
  { s with
    patterns := s.patterns.set handle p
    ledger := match s.patterns.get? handle with
      | some q => s.ledger.letGo q.form
      | none => s.ledger }

/-- Stops a handle from holding. -/
def release (s : Session κ σ) (handle : String) : Session κ σ :=
  match s.patterns.get? handle with
  | some q => { s with patterns := s.patterns.erase handle, ledger := s.ledger.letGo q.form }
  | none => s

/-- Matches one pattern of the session. -/
def exec (E : Engine κ σ) (p : CompiledPattern) (input : String) (into : CaptureTarget)
    (s : Session κ σ) : Answer × Session κ σ :=
  let fresh (b : Captures) : Answer × Session κ σ :=
    let (outcome, b, w) := executeInto E p input b s.ledger
    (.matched outcome (some b), { s with ledger := w })
  match into with
  | .nowhere =>
    let (outcome, w) := execute E p input s.ledger
    (.matched outcome none, { s with ledger := w })
  | .fresh capacity => fresh (.ofCapacity capacity)
  | .fitted => fresh p.captureBuffer
  | .held name =>
    match s.buffers.get? name with
    | none => (.unheld, s)
    | some b =>
      let (outcome, b, w) := executeInto E p input b s.ledger
      (.matched outcome (some b), { s with ledger := w, buffers := s.buffers.set name b })

/-- One step. -/
def step (E : Engine κ σ) (s : Session κ σ) : Step → Answer × Session κ σ
  | .compile compiler handle request room =>
    match s.compilers.get? compiler with
    | none => (.unheld, s)
    | some c =>
      let (outcome, request, c, w) := c.compile E request s.ledger room
      let s := { s with compilers := s.compilers.set compiler c, ledger := w }
      match outcome with
      | .ok p => (.compiled outcome request, s.hold handle p)
      | .error _ => (.compiled outcome request, s)
  | .share handle copy =>
    match s.patterns.get? handle with
    | none => (.unheld, s)
    | some p => (.pattern p, { s with ledger := s.ledger.retain p.form }.hold copy p)
  | .describe handle =>
    match s.patterns.get? handle with
    | none => (.unheld, s)
    | some p => (.pattern p, s)
  | .index handle name =>
    match s.patterns.get? handle with
    | none => (.unheld, s)
    | some p => (.group (p.captureIndex? name), s)
  | .buffer name capacity =>
    let b := Captures.ofCapacity capacity
    (.buffer b, { s with buffers := s.buffers.set name b })
  | .exec handle input into =>
    match s.patterns.get? handle with
    | none => (.unheld, s)
    | some p => s.exec E p input into
  | .array handles input =>
    match handles.mapM s.patterns.get? with
    | none => (.unheld, s)
    | some ps =>
      let (outcome, w) := executeArray E ps input s.ledger
      (.array outcome, { s with ledger := w })
  | .directive name value =>
    match s.config.applyDirective name value with
    | .ok c => (.config (.ok ()), { s with config := c })
    | .error e => (.config (.error e), s)
  | .withJit enabled => (.config (.ok ()), { s with config := s.config.withJit enabled })
  | .validate =>
    let (c, records) := s.config.validate E.jitAvailable
    (.config (.ok ()),
      { s with config := c, ledger := records.foldl (fun w r => w.note (.logged r)) s.ledger })
  | .init => (.config (.ok ()), { s with config := s.config.init })
  | .finish compiler scope =>
    match s.compilers.get? compiler, s.scopes.get? scope with
    | some c, some sc =>
      let (c, sc, w) := c.finish E s.config sc s.ledger
      (.optimized,
        { s with
          compilers := s.compilers.set compiler c
          scopes := s.scopes.set scope sc
          ledger := w })
    | _, _ => (.unheld, s)
  | .jit handle =>
    match s.patterns.get? handle with
    | none => (.unheld, s)
    | some p =>
      match s.ledger.form? p.form with
      | none => (.unheld, s)
      | some form =>
        let ((refusal, form'), w) := s.ledger.ask (.jit p.form) (E.jitCompile form)
        (.jit refusal p, { s with ledger := w.setForm p.form form' })
  | .registry compiler =>
    match s.compilers.get? compiler with
    | none => (.unheld, s)
    | some c => (.compiler c, s)
  | .newRegistry name =>
    (.registry .empty,
      { s with
        registries := s.registries.set name .empty
        ledger := s.ledger.letGoRegistry (s.registries.get? name) })
  | .push registry handle room =>
    match s.patterns.get? handle, s.registries.get? registry with
    | some p, some r =>
      match r.push p room with
      | .error e => (.failed e, s)
      | .ok r =>
        (.registry r,
          { s with
            registries := s.registries.set registry r
            ledger := s.ledger.retain p.form })
    | _, _ => (.unheld, s)
  | .optimize registry scope enabled =>
    match s.registries.get? registry, s.scopes.get? scope with
    | some r, some sc =>
      let (sc, w) := optimizeAll E r enabled sc s.ledger
      (.optimized,
        { s with
          registries := s.registries.erase registry
          scopes := s.scopes.set scope sc
          ledger := w })
    | _, _ => (.unheld, s)
  | .entries registry =>
    match s.registries.get? registry with
    | none => (.unheld, s)
    | some r =>
      (.entries r.entries,
        { s with
          registries := s.registries.erase registry
          ledger := s.ledger.letGoAll r.forms })
  | .dropRegistry registry =>
    match s.registries.get? registry with
    | none => (.unheld, s)
    | some r =>
      (.done,
        { s with
          registries := s.registries.erase registry
          ledger := s.ledger.letGoAll r.forms })
  | .drop handles => (.held, handles.foldl release s)
  | .dropCompiler compiler =>
    match s.compilers.get? compiler with
    | none => (.unheld, s)
    | some c =>
      (.done,
        { s with
          compilers := s.compilers.erase compiler
          ledger := s.ledger.letGoRegistry c.registry })
  | .newCompiler compiler =>
    (.done,
      { s with
        compilers := s.compilers.set compiler Compiler.opened
        ledger := s.ledger.letGoRegistry ((s.compilers.get? compiler).bind (·.registry)) })
  | .newScope scope generation =>
    (.done,
      { s with
        scopes := s.scopes.set scope (Scope.opened generation)
        ledger := s.ledger.endScope (s.scopes.get? scope) })
  | .dropScope scope =>
    match s.scopes.get? scope with
    | none => (.unheld, s)
    | some sc =>
      (.done, { s with scopes := s.scopes.erase scope, ledger := s.ledger.endScope (some sc) })
  | .teardown scope =>
    match s.scopes.get? scope with
    | none => (.unheld, s)
    | some sc =>
      let (moments, sc) := sc.teardown
      (.scope sc, { s with scopes := s.scopes.set scope sc, ledger := s.ledger.follow moments })

/-- A whole run: the session after some steps. -/
def run (E : Engine κ σ) (s : Session κ σ) (steps : List Step) : Session κ σ :=
  steps.foldl (fun s st => (s.step E st).2) s

/-- What the steps of a run answer. -/
def answers (E : Engine κ σ) (s : Session κ σ) : List Step → List Answer
  | [] => []
  | st :: steps => (s.step E st).1 :: answers E (s.step E st).2 steps

/-- The forms that a duty would let go of. -/
def dutyForms : Duty → List Nat
  | .release _ entries => entries.map (·.pattern.form)
  | .other _ => []

/-- The forms that a scope's waiting cleanups hold. -/
def scopeForms (sc : Scope Duty) : List Nat :=
  (sc.waiting.getD []).flatMap fun c => dutyForms (Scope.duty c)

/-- The forms that a compiler's registry holds. -/
def compilerForms (c : Compiler) : List Nat := (c.registry.map Registry.forms).getD []

/-- The forms that the session's objects hold, one entry for each holding. -/
def heldForms (s : Session κ σ) : List Nat :=
  s.patterns.values.map (·.form)
    ++ s.compilers.values.flatMap compilerForms
    ++ s.registries.values.flatMap Registry.forms
    ++ s.scopes.values.flatMap scopeForms

end Session

end PatternSuite
