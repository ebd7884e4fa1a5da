import PatternSuite.Compiler
import PatternSuite.Config
import PatternSuite.Scope

/-!
# The batch pass

When a load is finished its patterns are optimized in one pass, and from then on belong to the
generation's scope: a cleanup holds them until the scope is torn down. The pass holds them too
while it lasts, so no pattern is released under its hands.
-/

namespace PatternSuite

variable {κ σ : Type}

/-- The duties of a generation's cleanups. -/
inductive Duty
  /-- Let go of the patterns of a generation. -/
  | release (generation : Nat) (entries : List RegistryEntry)
  /-- Something that touches no pattern. -/
  | other (label : String)
  deriving DecidableEq, Repr

namespace Ledger

/-- Performs a duty. -/
def perform (w : Ledger κ σ) : Duty → Ledger κ σ
  | .release generation entries =>
    (w.log .debug ("releasing " ++ toString entries.length ++ " compiled patterns of generation "
      ++ toString generation)).letGoAll (entries.map (·.pattern.form))
  | .other _ => w

/-- Performs what a call on a scope did, moment by moment. -/
def follow (w : Ledger κ σ) (ms : List (Moment Duty)) : Ledger κ σ :=
  ms.foldl (fun w m => match m with
    | .ran d => w.perform d
    | .logged r => w.note (.logged r)
    | _ => w) w

/-- Performs the end of a scope. -/
def endScope (scope : Option (Scope Duty)) (w : Ledger κ σ) : Ledger κ σ :=
  match scope with
  | some sc => w.follow sc.dropped
  | none => w

/-- Lets go of all that a registry holds. -/
def letGoRegistry (r : Option Registry) (w : Ledger κ σ) : Ledger κ σ :=
  match r with
  | some r => w.letGoAll r.forms
  | none => w

end Ledger

/-- Tries to optimize one pattern; a refusal is logged. -/
def optimizeEntry (E : Engine κ σ) (w : Ledger κ σ) (e : RegistryEntry) : Bool × Ledger κ σ :=
  match w.form? e.pattern.form with
  | none => (false, w)
  | some form =>
    let ((refusal, form'), w) := w.ask (.jit e.pattern.form) (E.jitCompile form)
    let w := w.setForm e.pattern.form form'
    match refusal with
    | none => (true, w)
    | some reason =>
      (false, w.log .info ("JIT compiler does not support pattern: \"" ++ e.name ++ "\" ("
        ++ reason ++ ")"))

/-- Tries to optimize every pattern, in order; gives the number that were. -/
def optimizeEntries (E : Engine κ σ) : List RegistryEntry → Nat → Ledger κ σ → Nat × Ledger κ σ
  | [], count, w => (count, w)
  | e :: es, count, w =>
    let (accepted, w) := optimizeEntry E w e
    optimizeEntries E es (if accepted then count + 1 else count) w

/-- Takes the patterns of a registry over into a scope and, if asked and able to, optimizes them.
The cleanup is registered before the pass starts. -/
def optimizeAll (E : Engine κ σ) (registry : Registry) (jitEnabled : Bool) (scope : Scope Duty)
    (w : Ledger κ σ) : Scope Duty × Ledger κ σ :=
  let entries := registry.entries
  let forms := registry.forms
  let (_, moments, scope) := scope.add (.mk (.release scope.generation entries) [])
  let w := (w.retainAll forms).follow moments
  let w :=
    if jitEnabled && E.jitAvailable then
      let w := w.log .debug ("JIT-optimizing " ++ toString entries.length ++ " patterns")
      let (count, w) := optimizeEntries E entries 0 w
      w.log .debug ("JIT-optimized " ++ toString count ++ " of " ++ toString entries.length
        ++ " patterns")
    else w
  (scope, w.letGoAll forms)

/-- Ends the load phase: the registry goes to the batch pass, once. -/
def Compiler.finish (E : Engine κ σ) (config : Config) (scope : Scope Duty) (c : Compiler)
    (w : Ledger κ σ) : Compiler × Scope Duty × Ledger κ σ :=
  match c.registry with
  | none => (c, scope, w.log .debug "regex registry already consumed")
  | some r =>
    let (scope, w) := optimizeAll E r config.jitEnabled scope w
    ({ c with registry := none }, scope, w)

end PatternSuite
