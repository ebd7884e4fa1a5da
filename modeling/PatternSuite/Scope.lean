import PatternSuite.Log

/-!
# Generation scopes

All that belongs to one configuration generation registers a cleanup with the generation's scope;
tearing the scope down runs the cleanups once, the most recent first. A cleanup may use the scope
it runs for: register further cleanups, tear down again, ask whether the scope is torn down.

A lock guards the list of cleanups. It is taken for the list alone and is free again before any
cleanup runs. What a call does is written as a list of moments in order, takings of the lock
included, and `LockFree` says which lists a lock that cannot be taken twice lets through.

* `Scope.add`: registers a cleanup, or runs it at once if the scope is torn down already.
* `Scope.teardown`, `Scope.dropped`: run what is registered, once.
* `Scope.run`: the whole life of a scope, call after call.
-/

namespace PatternSuite

mutual

/-- What runs when a scope ends: a duty of type `ε`, then further calls on the scope. -/
inductive Cleanup (ε : Type) where
  | mk (duty : ε) (calls : List (ScopeCall ε))

/-- A call that a running cleanup makes on its scope. -/
inductive ScopeCall (ε : Type) where
  /-- Tear the scope down. -/
  | teardown
  /-- Ask whether the scope is torn down. -/
  | isTornDown
  /-- Write the scope out for people. -/
  | format
  /-- Register a further cleanup. -/
  | register (cleanup : Cleanup ε)

end

/-- One moment of a call on a scope. -/
inductive Moment (ε : Type)
  /-- The lock was taken. -/
  | locked
  /-- The lock was given back. -/
  | unlocked
  /-- A cleanup was handed over to be registered. -/
  | offered (duty : ε)
  /-- A cleanup started and did its duty. -/
  | ran (duty : ε)
  /-- A cleanup came to its end. -/
  | ended (duty : ε)
  /-- A caller learned whether the scope is torn down. -/
  | sawTornDown (answer : Bool)
  /-- A caller learned whether the cleanup it had handed over was stored. -/
  | sawStored (duty : ε) (answer : Bool)
  /-- A caller got the scope written out. -/
  | shown (text : String)
  /-- Something was logged. -/
  | logged (record : LogRecord)
  deriving DecidableEq, Repr

/-- The lock after some moments, if it was never taken while held and no cleanup ran under it. -/
def lockAfter {ε : Type} : Bool → List (Moment ε) → Option Bool
  | held, [] => some held
  | held, .locked :: rest => if held then none else lockAfter true rest
  | held, .unlocked :: rest => if held then lockAfter false rest else none
  | held, .ran _ :: rest => if held then none else lockAfter held rest
  | held, _ :: rest => lockAfter held rest

/-- The moments start and end with a free lock, never take it twice, and run no cleanup under
it. -/
def LockFree {ε : Type} (ms : List (Moment ε)) : Prop := lockAfter false ms = some false

/-- The scope of one generation. The cleanups that wait stand most recent first; a torn-down scope
has no list. -/
structure Scope (ε : Type) where
  generation : Nat
  waiting : Option (List (Cleanup ε)) := some []

namespace Scope

variable {ε : Type}

/-- The open scope of a generation. -/
def opened (generation : Nat) : Scope ε := { generation }

/-- Has the scope been torn down? -/
def isTornDown (s : Scope ε) : Bool := s.waiting.isNone

/-- The duty of a cleanup. -/
def duty : Cleanup ε → ε
  | .mk d _ => d

/-- What a scope still has to do for the calls in progress. -/
inductive Task (ε : Type) where
  | run (cleanup : Cleanup ε)
  | finish (duty : ε)
  | call (c : ScopeCall ε)
  | report (duty : ε) (stored : Bool)

mutual

/-- The work in a cleanup. -/
def cleanupWork : Cleanup ε → Nat
  | .mk _ calls => 2 + callsWork calls

/-- The work in a call. -/
def callWork : ScopeCall ε → Nat
  | .teardown => 1
  | .isTornDown => 1
  | .format => 1
  | .register c => 2 + cleanupWork c

/-- The work in some calls. -/
def callsWork : List (ScopeCall ε) → Nat
  | [] => 0
  | c :: cs => callWork c + callsWork cs

end

/-- The work in a task. -/
def taskWork : Task ε → Nat
  | .run c => cleanupWork c
  | .finish _ => 1
  | .call c => callWork c
  | .report _ _ => 1

/-- The work in some tasks. -/
def tasksWork : List (Task ε) → Nat
  | [] => 0
  | t :: ts => taskWork t + tasksWork ts

/-- Cleanups to be run, in order. -/
def runTasks (cs : List (Cleanup ε)) : List (Task ε) := cs.map .run

/-- Calls to be made, in order. -/
def callTasks (cs : List (ScopeCall ε)) : List (Task ε) := cs.map .call

/-- The work in the cleanups that wait. -/
def waitingWork : Option (List (Cleanup ε)) → Nat
  | none => 0
  | some cs => tasksWork (runTasks cs)

theorem tasksWork_append (ts us : List (Task ε)) :
    tasksWork (ts ++ us) = tasksWork ts + tasksWork us := by
  induction ts with
  | nil => simp [tasksWork]
  | cons t ts ih => simp [tasksWork, ih, Nat.add_assoc]

theorem tasksWork_callTasks (cs : List (ScopeCall ε)) :
    tasksWork (callTasks cs) = callsWork cs := by
  induction cs with
  | nil => simp [callTasks, tasksWork, callsWork]
  | cons c cs ih => simpa [callTasks, tasksWork, callsWork, taskWork] using ih

theorem tasksWork_runTasks_cons (c : Cleanup ε) (cs : List (Cleanup ε)) :
    tasksWork (runTasks (c :: cs)) = cleanupWork c + tasksWork (runTasks cs) := by
  simp [runTasks, tasksWork, taskWork]

/-- What is logged when a teardown starts. -/
def teardownRecord (generation count : Nat) : LogRecord :=
  ⟨.debug, "tearing down generation " ++ toString generation ++ " (" ++ toString count
    ++ " cleanups)"⟩

/-- What is logged when there is nothing left to tear down. -/
def tornDownRecord (generation : Nat) : LogRecord :=
  ⟨.debug, "generation " ++ toString generation ++ " already torn down"⟩

/-- A scope for people. -/
def reportText (generation : Nat) (tornDown : Bool) : String :=
  "GenerationScope \x7b generation: " ++ toString generation ++ ", is_torn_down: "
    ++ toString tornDown ++ " \x7d"

/-- Works off the tasks, the first one first. A cleanup's calls come before the tasks that waited
for it, so a nested registration is done before its caller goes on. -/
def work (generation : Nat) (waiting : Option (List (Cleanup ε))) (tasks : List (Task ε)) :
    List (Moment ε) × Option (List (Cleanup ε)) :=
  match tasks with
  | [] => ([], waiting)
  | .run (.mk duty calls) :: rest =>
    let (ms, w) := work generation waiting (callTasks calls ++ .finish duty :: rest)
    (.ran duty :: ms, w)
  | .finish duty :: rest =>
    let (ms, w) := work generation waiting rest
    (.ended duty :: ms, w)
  | .report duty stored :: rest =>
    let (ms, w) := work generation waiting rest
    (.sawStored duty stored :: ms, w)
  | .call .isTornDown :: rest =>
    let (ms, w) := work generation waiting rest
    (.locked :: .unlocked :: .sawTornDown waiting.isNone :: ms, w)
  | .call .format :: rest =>
    let (ms, w) := work generation waiting rest
    (.locked :: .unlocked :: .shown (reportText generation waiting.isNone) :: ms, w)
  | .call .teardown :: rest =>
    match waiting with
    | none =>
      let (ms, w) := work generation none rest
      (.locked :: .unlocked :: .logged (tornDownRecord generation) :: ms, w)
    | some cs =>
      let (ms, w) := work generation none (runTasks cs ++ rest)
      (.locked :: .unlocked :: .logged (teardownRecord generation cs.length) :: ms, w)
  | .call (.register c) :: rest =>
    match waiting with
    | none =>
      let (ms, w) := work generation none (.run c :: .report (duty c) false :: rest)
      (.offered (duty c) :: .locked :: .unlocked :: ms, w)
    | some cs =>
      let (ms, w) := work generation (some (c :: cs)) (.report (duty c) true :: rest)
      (.offered (duty c) :: .locked :: .unlocked :: ms, w)
termination_by waitingWork waiting + tasksWork tasks
decreasing_by
  all_goals
    simp only [waitingWork, tasksWork, taskWork, cleanupWork, callWork, tasksWork_append,
      tasksWork_callTasks, tasksWork_runTasks_cons]
    omega

/-- Registers a cleanup. A torn-down scope does not store it: then it runs at once. -/
def add (c : Cleanup ε) (s : Scope ε) : Bool × List (Moment ε) × Scope ε :=
  match s.waiting with
  | some cs => (true, [.locked, .unlocked], { s with waiting := some (c :: cs) })
  | none =>
    let (ms, w) := work s.generation none [.run c]
    (false, .locked :: .unlocked :: ms, { s with waiting := w })

/-- Runs every cleanup that waits, the most recent first; a torn-down scope has none. -/
def teardown (s : Scope ε) : List (Moment ε) × Scope ε :=
  let (ms, w) := work s.generation s.waiting [.call .teardown]
  (ms, { s with waiting := w })

/-- The end of a scope. It tears the scope down; the cleanups can no longer call the scope. -/
def dropped (s : Scope ε) : List (Moment ε) :=
  match s.waiting with
  | none => [.locked, .unlocked, .logged (tornDownRecord s.generation)]
  | some cs =>
    .locked :: .unlocked :: .logged (teardownRecord s.generation cs.length) ::
      cs.flatMap fun c => [.ran (duty c), .ended (duty c)]

/-- The scope for people; asking it takes the lock for a moment. -/
def report (s : Scope ε) : String := reportText s.generation s.isTornDown

/-- A call on a scope from outside of its cleanups. -/
inductive Op (ε : Type)
  /-- Register a cleanup. -/
  | add (cleanup : Cleanup ε)
  /-- Tear the scope down. -/
  | teardown
  /-- Ask whether the scope is torn down. -/
  | isTornDown
  /-- Write the scope out for people. -/
  | format
  /-- Drop the scope. -/
  | drop

/-- One call on a scope; a dropped scope cannot be called. -/
def step (s : Option (Scope ε)) (op : Op ε) : List (Moment ε) × Option (Scope ε) :=
  match s, op with
  | none, _ => ([], none)
  | some s, .add c =>
    let (stored, ms, s) := s.add c
    (.offered (duty c) :: ms ++ [.sawStored (duty c) stored], some s)
  | some s, .teardown =>
    let (ms, s) := s.teardown
    (ms, some s)
  | some s, .isTornDown => ([.locked, .unlocked, .sawTornDown s.isTornDown], some s)
  | some s, .format => ([.locked, .unlocked, .shown s.report], some s)
  | some s, .drop => (s.dropped, none)

/-- Calls in order: all that happens, and what is left of the scope. -/
def run (s : Option (Scope ε)) : List (Op ε) → List (Moment ε) × Option (Scope ε)
  | [] => ([], s)
  | op :: ops =>
    let (ms, s) := step s op
    let (ms', s) := run s ops
    (ms ++ ms', s)

end Scope

end PatternSuite
