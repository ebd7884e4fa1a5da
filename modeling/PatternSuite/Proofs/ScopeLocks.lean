import PatternSuite.Scope

/-!
# The lock of a scope is never waited for

The lock around the cleanups of a scope is not reentrant: a thread that takes it while it holds it
already waits for ever. Here the calls on a scope are written out as code that takes the lock and
gives it back at places of its own, and one thread runs that code, together with the cleanups, which
call the scope again. Nothing in how a thread goes on keeps it from taking the lock twice, or from
running a cleanup under it; the code of the calls does, since it keeps to a discipline.

* `Thread.next`: the next moment of a thread; `Next.blocked` where it waits for the lock.
* `Code.Disciplined`: the lock is taken while it is free and given back before a cleanup runs.
  `Thread.Disciplined.goes`: it lasts; `Thread.Disciplined.not_blocked`: it is enough.
* `blocked_under_lock`: without it, the first call of a cleanup blocks.
* `reaches_work`, `reaches_run`: the thread goes through the moments of `Scope.run`.
* `lock_never_awaited`: what holds wherever a thread comes to.
-/

namespace PatternSuite.Scope

variable {ε : Type}

/-! ## The code of the calls -/

/-- The code of a thread that uses a scope. Between taking the lock and giving it back, the code has
what the lock guards. -/
inductive Code (ε : Type)
  /-- Nothing is left to do. -/
  | done
  /-- Take the lock. -/
  | lock (next : Option (List (Cleanup ε)) → Code ε)
  /-- Give the lock back; from now on it guards `waiting`. -/
  | unlock (waiting : Option (List (Cleanup ε))) (next : Code ε)
  /-- Go through a moment that leaves the lock alone. -/
  | tell (moment : Moment ε) (next : Code ε)
  /-- Run a cleanup. -/
  | run (cleanup : Cleanup ε) (next : Code ε)

namespace Code

/-- Asks whether the scope is torn down. -/
def isTornDown (next : Bool → Code ε) : Code ε :=
  .lock fun waiting => .unlock waiting (next waiting.isNone)

/-- Writes the scope out for people. -/
def format (g : Nat) (next : Code ε) : Code ε :=
  isTornDown fun tornDown => .tell (.shown (reportText g tornDown)) next

/-- Registers a cleanup, or runs it at once. -/
def add (c : Cleanup ε) (next : Bool → Code ε) : Code ε :=
  .lock fun waiting => match waiting with
    | some cs => .unlock (some (c :: cs)) (next true)
    -- the cleanup may call the scope, so the lock goes back before it runs
    | none => .unlock none (.run c (next false))

/-- Runs cleanups in order. -/
def runAll (cs : List (Cleanup ε)) (next : Code ε) : Code ε := cs.foldr .run next

/-- Tears the scope down. The lock is held while the list is taken out, and no longer. -/
def teardown (g : Nat) (next : Code ε) : Code ε :=
  .lock fun waiting => .unlock none <| match waiting with
    | none => .tell (.logged (tornDownRecord g)) next
    | some cs => .tell (.logged (teardownRecord g cs.length)) (runAll cs next)

/-- Makes a call. -/
def call (g : Nat) : ScopeCall ε → Code ε → Code ε
  | .teardown, next => teardown g next
  | .isTornDown, next => isTornDown fun answer => .tell (.sawTornDown answer) next
  | .format, next => format g next
  | .register c, next =>
    .tell (.offered (duty c)) (add c fun stored => .tell (.sawStored (duty c) stored) next)

/-- Makes calls in order. -/
def calls (g : Nat) (cs : List (ScopeCall ε)) (next : Code ε) : Code ε := cs.foldr (call g) next

end Code

/-- What a call from outside does on the scope; a drop tears it down. -/
def Op.call : Op ε → ScopeCall ε
  | .add c => .register c
  | .teardown => .teardown
  | .isTornDown => .isTornDown
  | .format => .format
  | .drop => .teardown

/-! ## Threads -/

/-- A lock, with what it guards while nobody holds it. -/
inductive Lock (ε : Type)
  | free (waiting : Option (List (Cleanup ε)))
  | held

/-- Does somebody hold the lock? -/
def Lock.isHeld : Lock ε → Bool
  | .free _ => false
  | .held => true

/-- One thread that uses the scope of a generation. -/
structure Thread (ε : Type) where
  generation : Nat
  lock : Lock ε
  /-- What is left of the call in progress. -/
  code : Code ε := .done
  /-- The calls from outside that are still to be made. -/
  calls : List (Op ε) := []
  /-- Can the scope be called? A scope that is being dropped cannot. -/
  reachable : Bool := true

/-- What a thread does next. -/
inductive Next (ε : Type)
  /-- Nothing, it has made all calls. -/
  | finished
  /-- Nothing, it waits for ever for a lock that it holds itself. -/
  | blocked
  /-- It goes on, through a moment or through none. -/
  | goes (moment : Option (Moment ε)) (t : Thread ε)

namespace Thread

/-- The thread begins a call from outside. A drop is the last one, and its cleanups can no longer
call the scope. -/
def begin (op : Op ε) (ops : List (Op ε)) (t : Thread ε) : Thread ε :=
  match op with
  | .drop => { t with code := .call t.generation op.call .done, calls := [], reachable := false }
  | _ => { t with code := .call t.generation op.call .done, calls := ops }

/-- What the thread does next. The lock is not reentrant: to take it while it is held blocks. -/
def next (t : Thread ε) : Next ε :=
  match t.code with
  | .done =>
    match t.calls with
    | [] => .finished
    | op :: ops => .goes none (t.begin op ops)
  | .lock next =>
    match t.lock with
    | .free waiting => .goes (some .locked) { t with lock := .held, code := next waiting }
    | .held => .blocked
  | .unlock waiting next => .goes (some .unlocked) { t with lock := .free waiting, code := next }
  | .tell m next => .goes (some m) { t with code := next }
  | .run (.mk d calls) next =>
    let calls := if t.reachable then calls else []
    .goes (some (.ran d)) { t with code := .calls t.generation calls (.tell (.ended d) next) }

/-- The thread between two calls, of what is left of a scope. -/
def between (g : Nat) (ops : List (Op ε)) : Option (Scope ε) → Thread ε
  | some s => { generation := g, lock := .free s.waiting, calls := ops }
  | none => { generation := g, lock := .free none, reachable := false }

theorem isHeld_between (g : Nat) (ops : List (Op ε)) (s : Option (Scope ε)) :
    (between g ops s).lock.isHeld = false := by
  cases s with
  | none => rfl
  | some s => rfl

theorem next_between (g : Nat) (s : Option (Scope ε)) : (between g [] s).next = .finished := by
  cases s with
  | none => rfl
  | some s => rfl

/-- The thread that makes calls on a new scope. -/
def start (g : Nat) (ops : List (Op ε)) : Thread ε := between g ops (some (opened g))

end Thread

/-- A thread comes from one state to another through some moments. -/
inductive Reaches : Thread ε → List (Moment ε) → Thread ε → Prop
  | refl (t : Thread ε) : Reaches t [] t
  | step {t u v : Thread ε} {m : Option (Moment ε)} {ms : List (Moment ε)}
      (h : t.next = .goes m u) (r : Reaches u ms v) : Reaches t (m.toList ++ ms) v

namespace Reaches

variable {t u v : Thread ε} {ms ns : List (Moment ε)}

theorem quietly (h : t.next = .goes none u) (r : Reaches u ms v) : Reaches t ms v := .step h r

theorem through {m : Moment ε} (h : t.next = .goes (some m) u) (r : Reaches u ms v) :
    Reaches t (m :: ms) v := .step h r

/-- The lock is taken and given back at once. -/
theorem briefly {w w' : Option (List (Cleanup ε))} {next : Option (List (Cleanup ε)) → Code ε}
    {code : Code ε} (hfree : t.lock = .free w) (hlock : t.code = .lock next)
    (hunlock : next w = .unlock w' code)
    (r : Reaches { t with lock := .free w', code := code } ms v) :
    Reaches t (.locked :: .unlocked :: ms) v := by
  obtain ⟨g, lock, _, calls, reachable⟩ := t
  obtain rfl : lock = .free w := hfree
  obtain rfl : _ = Code.lock next := hlock
  have hlocked : Reaches ⟨g, .held, next w, calls, reachable⟩ (.unlocked :: ms) v := by
    rw [hunlock]
    exact .through rfl r
  exact .through rfl hlocked

theorem trans (r : Reaches t ms u) (q : Reaches u ns v) : Reaches t (ms ++ ns) v := by
  induction r with
  | refl => exact q
  | step h _ ih =>
    rw [List.append_assoc]
    exact .step h (ih q)

/-- A thread has one way to go: wherever it is, it is on the way to its end. -/
theorem rest (r : Reaches t ms u) (q : Reaches t ns v) (hv : v.next = .finished) :
    ∃ ls, Reaches u ls v ∧ ms ++ ls = ns := by
  induction r generalizing ns with
  | refl => exact ⟨ns, q, rfl⟩
  | step h _ ih =>
    cases q with
    | refl =>
      rw [h] at hv
      cases hv
    | step h' q' =>
      -- the first step of both is the same
      obtain ⟨rfl, rfl⟩ := Next.goes.inj (h.symm.trans h')
      obtain ⟨ls, hls, rfl⟩ := ih q'
      exact ⟨ls, hls, List.append_assoc ..⟩

end Reaches

/-! ## The discipline -/

/-- A moment that leaves the lock alone and starts no cleanup. -/
def isAside : Moment ε → Bool
  | .locked => false
  | .unlocked => false
  | .ran _ => false
  | _ => true

theorem lockAfter_aside {m : Moment ε} (h : isAside m = true) (held : Bool) :
    lockAfter held [m] = some held := by
  cases m with
  | locked => cases h
  | unlocked => cases h
  | ran d => cases h
  | _ => rfl

theorem lockAfter_append (held : Bool) (ms ns : List (Moment ε)) :
    lockAfter held (ms ++ ns) = (lockAfter held ms).bind fun held => lockAfter held ns := by
  fun_induction lockAfter held ms <;> simp_all [lockAfter]

namespace Code

/-- The code, begun with the lock held or free, takes the lock while it is free, gives it back while
it is held, runs cleanups while it is free, and leaves it free in the end. -/
def Disciplined : Bool → Code ε → Prop
  | held, .done => held = false
  | held, .lock next => held = false ∧ ∀ waiting, (next waiting).Disciplined true
  | held, .unlock _ next => held = true ∧ next.Disciplined false
  | held, .tell m next => isAside m = true ∧ next.Disciplined held
  | held, .run _ next => held = false ∧ next.Disciplined false

variable {next : Code ε}

theorem disciplined_isTornDown {next : Bool → Code ε}
    (h : ∀ answer, (next answer).Disciplined false) : (isTornDown next).Disciplined false :=
  ⟨rfl, fun waiting => ⟨rfl, h waiting.isNone⟩⟩

theorem disciplined_add (c : Cleanup ε) {next : Bool → Code ε}
    (h : ∀ stored, (next stored).Disciplined false) : (add c next).Disciplined false := by
  refine ⟨rfl, fun waiting => ?_⟩
  cases waiting with
  | some cs => exact ⟨rfl, h true⟩
  | none => exact ⟨rfl, rfl, h false⟩

theorem disciplined_runAll (cs : List (Cleanup ε)) (h : next.Disciplined false) :
    (runAll cs next).Disciplined false := by
  induction cs with
  | nil => exact h
  | cons c cs ih => exact ⟨rfl, ih⟩

theorem disciplined_teardown (g : Nat) (h : next.Disciplined false) :
    (teardown g next).Disciplined false := by
  refine ⟨rfl, fun waiting => ⟨rfl, ?_⟩⟩
  cases waiting with
  | none => exact ⟨rfl, h⟩
  | some cs => exact ⟨rfl, disciplined_runAll cs h⟩

theorem disciplined_call (g : Nat) (c : ScopeCall ε) (h : next.Disciplined false) :
    (call g c next).Disciplined false := by
  cases c with
  | teardown => exact disciplined_teardown g h
  | isTornDown =>
    have htell : ∀ b, (tell (.sawTornDown b) next).Disciplined false := fun _ => ⟨rfl, h⟩
    exact disciplined_isTornDown htell
  | format =>
    have htell : ∀ b, (tell (.shown (reportText g b)) next).Disciplined false := fun _ => ⟨rfl, h⟩
    exact disciplined_isTornDown htell
  | register c =>
    have htell : ∀ b, (tell (.sawStored (duty c) b) next).Disciplined false := fun _ => ⟨rfl, h⟩
    exact ⟨rfl, disciplined_add c htell⟩

theorem disciplined_calls (g : Nat) (cs : List (ScopeCall ε)) (h : next.Disciplined false) :
    (calls g cs next).Disciplined false := by
  induction cs with
  | nil => exact h
  | cons c cs ih => exact disciplined_call g c ih

/-- No call can begin under the lock. -/
theorem free_of_disciplined_call {g : Nat} {c : ScopeCall ε} {held : Bool}
    (h : (call g c next).Disciplined held) : held = false := by
  cases c with
  | teardown => exact h.1
  | isTornDown => exact h.1
  | format => exact h.1
  | register c => exact h.2.1

end Code

namespace Thread

/-- What is left of the call in progress keeps the discipline. -/
def Disciplined (t : Thread ε) : Prop := t.code.Disciplined t.lock.isHeld

variable {t u : Thread ε}

theorem disciplined_start (g : Nat) (ops : List (Op ε)) : (start g ops).Disciplined := rfl

/-- **The discipline lasts**, and the moments of the thread tell who has the lock. -/
theorem Disciplined.goes (h : t.Disciplined) {m : Option (Moment ε)} (hn : t.next = .goes m u) :
    u.Disciplined ∧ lockAfter t.lock.isHeld m.toList = some u.lock.isHeld := by
  obtain ⟨g, lock, code, calls, reachable⟩ := t
  cases code with
  | done =>
    have hfree : lock.isHeld = false := h
    cases calls with
    | nil => cases hn
    | cons op ops =>
      -- a call from outside begins with the free lock that the last one left
      obtain ⟨rfl, rfl⟩ := Next.goes.inj hn
      have hcall : (Code.call g op.call .done).Disciplined lock.isHeld :=
        hfree ▸ Code.disciplined_call g op.call rfl
      cases op <;> exact ⟨hcall, rfl⟩
  | lock next =>
    cases lock with
    | free waiting =>
      obtain ⟨rfl, rfl⟩ := Next.goes.inj hn
      exact ⟨h.2 waiting, rfl⟩
    | held => cases hn
  | unlock waiting next =>
    obtain ⟨rfl, rfl⟩ := Next.goes.inj hn
    have hheld : lock.isHeld = true := h.1
    refine ⟨h.2, ?_⟩
    show lockAfter lock.isHeld [.unlocked] = some false
    rw [hheld]
    rfl
  | tell m next =>
    obtain ⟨rfl, rfl⟩ := Next.goes.inj hn
    exact ⟨h.2, lockAfter_aside h.1 _⟩
  | run c next =>
    obtain ⟨d, cs⟩ := c
    obtain ⟨rfl, rfl⟩ := Next.goes.inj hn
    have hfree : lock.isHeld = false := h.1
    -- the calls of the cleanup come before the rest, whether it can make them or not
    have hrest : (Code.tell (.ended d) next).Disciplined false := ⟨rfl, h.2⟩
    refine ⟨?_, by simp [lockAfter, hfree]⟩
    rw [Disciplined, hfree]
    exact Code.disciplined_calls g _ hrest

/-- **The discipline is enough.** -/
theorem Disciplined.not_blocked (h : t.Disciplined) : t.next ≠ .blocked := by
  intro hb
  obtain ⟨g, lock, code, calls, reachable⟩ := t
  cases code with
  | done => cases calls <;> cases hb
  | lock next =>
    cases lock with
    | free waiting => cases hb
    | held => cases h.1
  | unlock waiting next => cases hb
  | tell m next => cases hb
  | run c next =>
    obtain ⟨d, cs⟩ := c
    cases hb

theorem Disciplined.reaches {ms : List (Moment ε)} (h : t.Disciplined) (r : Reaches t ms u) :
    u.Disciplined ∧ lockAfter t.lock.isHeld ms = some u.lock.isHeld := by
  induction r with
  | refl => exact ⟨h, rfl⟩
  | step hn _ ih =>
    obtain ⟨hu, hm⟩ := h.goes hn
    obtain ⟨hv, hms⟩ := ih hu
    exact ⟨hv, by rw [lockAfter_append, hm, Option.bind_some, hms]⟩

end Thread

/-- **Under the lock, a cleanup would block at its first call.** -/
theorem blocked_under_lock {t : Thread ε} {d : ε} {c : ScopeCall ε} {cs : List (ScopeCall ε)}
    {next : Code ε} (hlock : t.lock = .held) (hreach : t.reachable = true)
    (hcode : t.code = .run (.mk d (c :: cs)) next) :
    ∃ ms u, Reaches t ms u ∧ u.next = .blocked := by
  obtain ⟨g, lock, code, calls, reachable⟩ := t
  subst hlock hreach hcode
  cases c with
  | teardown => exact ⟨_, _, .through rfl (.refl _), rfl⟩
  | isTornDown => exact ⟨_, _, .through rfl (.refl _), rfl⟩
  | format => exact ⟨_, _, .through rfl (.refl _), rfl⟩
  | register c => exact ⟨_, _, .through rfl (.through rfl (.refl _)), rfl⟩

/-! ## The moments of a thread -/

/-- A thread with a free lock. -/
def Thread.doing (g : Nat) (ops : List (Op ε)) (waiting : Option (List (Cleanup ε)))
    (code : Code ε) : Thread ε :=
  { generation := g, lock := .free waiting, code, calls := ops }

namespace Code

/-- Does a task. -/
def task (g : Nat) : Task ε → Code ε → Code ε
  | .run c, next => .run c next
  | .finish d, next => .tell (.ended d) next
  | .call c, next => call g c next
  | .report d stored, next => .tell (.sawStored d stored) next

/-- Does tasks in order. -/
def tasks (g : Nat) (ts : List (Task ε)) (next : Code ε) : Code ε := ts.foldr (task g) next

theorem tasks_append (g : Nat) (ts us : List (Task ε)) (next : Code ε) :
    tasks g (ts ++ us) next = tasks g ts (tasks g us next) := List.foldr_append

theorem tasks_runTasks (g : Nat) (cs : List (Cleanup ε)) (next : Code ε) :
    tasks g (runTasks cs) next = runAll cs next := List.foldr_map

theorem tasks_callTasks (g : Nat) (cs : List (ScopeCall ε)) (next : Code ε) :
    tasks g (callTasks cs) next = calls g cs next := List.foldr_map

end Code

/-- **A thread works tasks off**, with what cleanups call on the way. -/
theorem reaches_work (g : Nat) (ops : List (Op ε)) (next : Code ε)
    (w : Option (List (Cleanup ε))) (tasks : List (Task ε)) :
    Reaches (.doing g ops w (Code.tasks g tasks next)) (work g w tasks).1
      (.doing g ops (work g w tasks).2 next) := by
  fun_induction work g w tasks with
  | case1 w => exact .refl _
  | case2 w d calls rest ms w' hres ih =>
    -- a cleanup: its calls come before what waits for it
    rw [hres, Code.tasks_append, Code.tasks_callTasks] at ih
    exact .through rfl ih
  | case3 _ _ _ _ _ hres ih | case4 _ _ _ _ _ _ hres ih =>
    rw [hres] at ih
    exact .through rfl ih
  | case8 rest cs ms w' hres ih =>
    rw [hres, Code.tasks_append, Code.tasks_runTasks] at ih
    exact .briefly rfl rfl rfl (.through rfl ih)
  | case5 _ _ _ _ hres ih | case6 _ _ _ _ hres ih | case7 _ _ _ hres ih =>
    rw [hres] at ih
    exact .briefly rfl rfl rfl (.through rfl ih)
  | case9 _ _ _ _ hres ih | case10 _ _ _ _ _ hres ih =>
    rw [hres] at ih
    exact .through rfl (.briefly rfl rfl rfl ih)

/-- The cleanups run by a drop make no calls. -/
theorem reaches_dropped (g : Nat) (w : Option (List (Cleanup ε))) (cs : List (Cleanup ε)) :
    Reaches { generation := g, lock := .free w, code := Code.runAll cs .done, reachable := false }
      (cs.flatMap fun c => [.ran (duty c), .ended (duty c)])
      { generation := g, lock := .free w, reachable := false } := by
  induction cs with
  | nil => exact .refl _
  | cons c cs ih =>
    obtain ⟨d, calls⟩ := c
    exact .through rfl (.through rfl ih)

/-- **A thread makes a call from outside.** -/
theorem reaches_step (s : Scope ε) (op : Op ε) (ops : List (Op ε)) :
    Reaches (.between s.generation (op :: ops) (some s)) (step (some s) op).1
      (.between s.generation ops (step (some s) op).2) := by
  obtain ⟨g, w⟩ := s
  cases op with
  | add c =>
    cases w with
    | some cs =>
      exact .quietly rfl (.through rfl (.briefly rfl rfl rfl (.through rfl (.refl _))))
    | none =>
      -- the cleanup runs inside of the call, between the lock and the answer
      have hran := reaches_work g ops (.tell (.sawStored (duty c) false) .done) none [.run c]
      have hanswer := hran.trans (.through rfl (.refl _))
      exact .quietly rfl (.through rfl (.briefly rfl rfl rfl hanswer))
  | teardown => exact .quietly rfl (reaches_work g ops .done w [.call .teardown])
  | isTornDown => exact .quietly rfl (.briefly rfl rfl rfl (.through rfl (.refl _)))
  | format => exact .quietly rfl (.briefly rfl rfl rfl (.through rfl (.refl _)))
  | drop =>
    cases w with
    | none => exact .quietly rfl (.briefly rfl rfl rfl (.through rfl (.refl _)))
    | some cs =>
      exact .quietly rfl (.briefly rfl rfl rfl (.through rfl (reaches_dropped g none cs)))

theorem generation_step {s s' : Scope ε} {op : Op ε} (h : (step (some s) op).2 = some s') :
    s'.generation = s.generation := by
  cases op with
  | add c =>
    obtain ⟨g, w⟩ := s
    cases w <;> obtain rfl := Option.some.inj h <;> rfl
  | drop => cases h
  | _ =>
    obtain rfl := Option.some.inj h
    rfl

/-- **A thread makes calls from outside**, and comes to where `Scope.run` is after them. -/
theorem reaches_run (g : Nat) (s : Option (Scope ε)) (hs : ∀ s' ∈ s, s'.generation = g)
    (before after : List (Op ε)) :
    Reaches (.between g (before ++ after) s) (run s before).1
      (.between g after (run s before).2) := by
  induction before generalizing s with
  | nil => exact .refl _
  | cons op before ih =>
    cases s with
    | none => exact ih none hs
    | some s =>
      obtain rfl := hs s rfl
      have hgen : ∀ s' ∈ (step (some s) op).2, s'.generation = s.generation := fun s' hs' =>
        generation_step hs'
      exact (reaches_step s op (before ++ after)).trans (ih _ hgen)

/-- A call made with a free lock returns with a free lock, whatever it runs on the way. -/
theorem reaches_call {t : Thread ε} {c : ScopeCall ε} {next : Code ε} (hdisc : t.Disciplined)
    (hreach : t.reachable = true) (hcode : t.code = .call t.generation c next) :
    ∃ ms waiting, Reaches t ms { t with lock := .free waiting, code := next } ∧ LockFree ms := by
  obtain ⟨g, lock, code, ops, reachable⟩ := t
  obtain rfl : reachable = true := hreach
  obtain rfl : code = .call g c next := hcode
  cases lock with
  | free w =>
    have hwork := reaches_work g ops next w [.call c]
    exact ⟨_, _, hwork, (hdisc.reaches hwork).2⟩
  | held => cases Code.free_of_disciplined_call hdisc

/-! ## The contract -/

/-- What holds of the lock wherever a thread comes to that makes the calls `ops` on a new scope of
generation `g`. -/
structure NeverAwaited (g : Nat) (ops : List (Op ε)) : Prop where
  /-- No attempt to take the lock finds it held. -/
  goes_on : ∀ ms t, Reaches (.start g ops) ms t → t.next ≠ .blocked
  /-- No cleanup runs under the lock. -/
  runs_free : ∀ ms t c next, Reaches (.start g ops) ms t → t.code = .run c next →
    t.lock.isHeld = false
  /-- A call that a cleanup makes, at any depth, returns and leaves the lock free. -/
  nested : ∀ ms t c next, Reaches (.start g ops) ms t → t.reachable = true →
    t.code = .call t.generation c next →
    ∃ ns waiting, Reaches t ns { t with lock := .free waiting, code := next } ∧ LockFree ns
  /-- The calls from outside return and leave the lock free. Until then the thread goes through the
  moments of `Scope.run`. -/
  returns : ∀ before after, ops = before ++ after →
    Reaches (.start g ops) (run (some (opened g)) before).1
      (.between g after (run (some (opened g)) before).2) ∧
    LockFree (run (some (opened g)) before).1
  /-- Wherever the thread is, it comes to the end of all calls. -/
  ends : ∀ ms t, Reaches (.start g ops) ms t →
    ∃ ns, Reaches t ns (.between g [] (run (some (opened g)) ops).2) ∧
      ms ++ ns = (run (some (opened g)) ops).1

/-- **The lock of a scope is never waited for.** -/
theorem lock_never_awaited (g : Nat) (ops : List (Op ε)) : NeverAwaited g ops where
  goes_on ms t r := ((Thread.disciplined_start g ops).reaches r).1.not_blocked
  runs_free := by
    intro ms t c next r hcode
    have hdisc := ((Thread.disciplined_start g ops).reaches r).1
    rw [Thread.Disciplined, hcode] at hdisc
    exact hdisc.1
  nested := by
    intro ms t c next r hreach hcode
    exact reaches_call ((Thread.disciplined_start g ops).reaches r).1 hreach hcode
  returns := by
    rintro before after rfl
    have hrun := reaches_run g (some (opened g)) (by simp [opened]) before after
    have hlock := ((Thread.disciplined_start g (before ++ after)).reaches hrun).2
    rw [Thread.isHeld_between] at hlock
    exact ⟨hrun, hlock⟩
  ends := by
    intro ms t r
    have hrun := reaches_run g (some (opened g)) (by simp [opened]) ops []
    rw [List.append_nil] at hrun
    exact r.rest hrun (Thread.next_between g _)

end PatternSuite.Scope
