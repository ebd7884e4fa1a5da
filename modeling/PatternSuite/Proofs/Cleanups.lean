import Mathlib.Data.List.Chain
import PatternSuite.Scope

/-!
# Cleanups run once, in order, and nested

What a scope does over its whole life, for any calls from outside and any calls that its cleanups
make on it while they run.

* `work_of_tornDown`: on a torn-down scope a nested registration is one piece of its caller's run.
* `run_opened`: the moments of a whole life, written out.
* `cleanups_kept`: each cleanup handed over runs once; the stored ones run in the first teardown,
  the latest first; the others run before their registration returns; every answer tells whether
  that teardown has started; no other teardown runs anything.
-/

namespace PatternSuite.Scope

variable {ε : Type}

/-! ## Courses on a torn-down scope -/

mutual

/-- All that a cleanup comes to on a torn-down scope, from its start to its end. -/
def cleanupCourse (g : Nat) : Cleanup ε → List (Moment ε)
  | .mk d calls => .ran d :: (callsCourse g calls ++ [.ended d])

/-- All that a call comes to on a torn-down scope. -/
def callCourse (g : Nat) : ScopeCall ε → List (Moment ε)
  | .teardown => [.locked, .unlocked, .logged (tornDownRecord g)]
  | .isTornDown => [.locked, .unlocked, .sawTornDown true]
  | .format => [.locked, .unlocked, .shown (reportText g true)]
  | .register c =>
    [.offered (duty c), .locked, .unlocked] ++ cleanupCourse g c ++ [.sawStored (duty c) false]

/-- All that some calls come to on a torn-down scope, one after the other. -/
def callsCourse (g : Nat) : List (ScopeCall ε) → List (Moment ε)
  | [] => []
  | c :: cs => callCourse g c ++ callsCourse g cs

end

/-- All that a task comes to on a torn-down scope. -/
def taskCourse (g : Nat) : Task ε → List (Moment ε)
  | .run c => cleanupCourse g c
  | .finish d => [.ended d]
  | .call c => callCourse g c
  | .report d stored => [.sawStored d stored]

theorem flatMap_callTasks (g : Nat) (cs : List (ScopeCall ε)) :
    (callTasks cs).flatMap (taskCourse g) = callsCourse g cs := by
  induction cs with
  | nil => rfl
  | cons c cs ih => rw [callsCourse, ← ih]; rfl

theorem flatMap_runTasks (g : Nat) (cs : List (Cleanup ε)) :
    (runTasks cs).flatMap (taskCourse g) = cs.flatMap (cleanupCourse g) := by
  induction cs with
  | nil => rfl
  | cons c cs ih => rw [List.flatMap_cons, ← ih]; rfl

/-- **Tasks on a torn-down scope.** Each task is done in full before the next one starts, and what
a cleanup registers on the way is done inside of it. -/
theorem work_of_tornDown (g : Nat) (w : Option (List (Cleanup ε))) (tasks : List (Task ε))
    (hw : w = none) : work g w tasks = (tasks.flatMap (taskCourse g), none) := by
  fun_induction work g w tasks with
  | case1 => rw [hw]; rfl
  | case2 w d calls rest ms w' hres ih =>
    obtain ⟨rfl, rfl⟩ := Prod.mk.inj (hres.symm.trans (ih hw))
    simp [taskCourse, cleanupCourse, flatMap_callTasks]
  | case3 w d rest ms w' hres ih =>
    obtain ⟨rfl, rfl⟩ := Prod.mk.inj (hres.symm.trans (ih hw))
    rfl
  | case4 w d stored rest ms w' hres ih =>
    obtain ⟨rfl, rfl⟩ := Prod.mk.inj (hres.symm.trans (ih hw))
    rfl
  | case5 w rest ms w' hres ih =>
    obtain ⟨rfl, rfl⟩ := Prod.mk.inj (hres.symm.trans (ih hw))
    simp [taskCourse, callCourse, hw]
  | case6 w rest ms w' hres ih =>
    obtain ⟨rfl, rfl⟩ := Prod.mk.inj (hres.symm.trans (ih hw))
    simp [taskCourse, callCourse, hw]
  | case7 rest ms w' hres ih =>
    obtain ⟨rfl, rfl⟩ := Prod.mk.inj (hres.symm.trans (ih hw))
    simp [taskCourse, callCourse]
  -- cases 8 and 10 are those of an open scope
  | case8 => cases hw
  | case9 c rest ms w' hres ih =>
    obtain ⟨rfl, rfl⟩ := Prod.mk.inj (hres.symm.trans (ih hw))
    simp [taskCourse, callCourse]
  | case10 => cases hw

/-- The first teardown runs what waits, the most recent first. -/
theorem work_teardown (g : Nat) (cs : List (Cleanup ε)) :
    work g (some cs) [.call .teardown] =
      ([.locked, .unlocked, .logged (teardownRecord g cs.length)] ++ cs.flatMap (cleanupCourse g),
        none) := by
  rw [work, work_of_tornDown g none _ rfl]
  simp [flatMap_runTasks]

/-! ## The moments of a whole life -/

/-- Does the call leave an open scope open? -/
def Op.isEarly : Op ε → Bool
  | .teardown => false
  | .drop => false
  | _ => true

/-- What a call comes to on an open scope that it leaves open. -/
def earlyCourse (g : Nat) : Op ε → List (Moment ε)
  | .add c => [.offered (duty c), .locked, .unlocked, .sawStored (duty c) true]
  | .isTornDown => [.locked, .unlocked, .sawTornDown false]
  | .format => [.locked, .unlocked, .shown (reportText g false)]
  | .teardown => []
  | .drop => []

/-- What a call stores in an open scope. -/
def Op.stores : Op ε → List (Cleanup ε)
  | .add c => [c]
  | _ => []

/-- The calls that reach a torn-down scope, up to its drop. -/
def lateCalls : List (Op ε) → List (ScopeCall ε)
  | [] => []
  | .add c :: ops => .register c :: lateCalls ops
  | .teardown :: ops => .teardown :: lateCalls ops
  | .isTornDown :: ops => .isTornDown :: lateCalls ops
  | .format :: ops => .format :: lateCalls ops
  | .drop :: _ => [.teardown]

/-- How the first teardown begins when `n` cleanups wait. -/
def teardownStart (g n : Nat) : List (Moment ε) :=
  [.locked, .unlocked, .logged (teardownRecord g n)]

/-- All that calls come to from the first teardown on, when the cleanups `cs` wait, the most recent
first. The cleanups run by a drop can no longer call the scope. -/
def historyFrom (g : Nat) (cs : List (Cleanup ε)) : List (Op ε) → List (Moment ε)
  | [] => []
  | .drop :: _ => teardownStart g cs.length ++ cs.flatMap fun c => [.ran (duty c), .ended (duty c)]
  | _ :: ops => teardownStart g cs.length ++ cs.flatMap (cleanupCourse g)
      ++ callsCourse g (lateCalls ops)

/-- All that calls come to on a new scope: the calls before the first teardown, that teardown with
what was stored until then in reverse order, and the calls after it. -/
def history (g : Nat) (ops : List (Op ε)) : List (Moment ε) :=
  let early := ops.takeWhile Op.isEarly
  early.flatMap (earlyCourse g)
    ++ historyFrom g (early.flatMap Op.stores).reverse (ops.dropWhile Op.isEarly)

theorem run_early (g : Nat) {ops : List (Op ε)} (h : ∀ op ∈ ops, op.isEarly = true)
    (cs : List (Cleanup ε)) (rest : List (Op ε)) :
    run (some ⟨g, some cs⟩) (ops ++ rest) =
      (ops.flatMap (earlyCourse g)
          ++ (run (some ⟨g, some ((ops.flatMap Op.stores).reverse ++ cs)⟩) rest).1,
        (run (some ⟨g, some ((ops.flatMap Op.stores).reverse ++ cs)⟩) rest).2) := by
  induction ops generalizing cs with
  | nil => rfl
  | cons op ops ih =>
    have hops := ih fun o ho => h o (List.mem_cons_of_mem _ ho)
    have hop := h op List.mem_cons_self
    cases op with
    | add c => simp [run, step, add, hops, earlyCourse, Op.stores]
    | isTornDown => simp [run, step, isTornDown, hops, earlyCourse, Op.stores]
    | format => simp [run, step, report, isTornDown, hops, earlyCourse, Op.stores]
    | teardown => cases hop
    | drop => cases hop

theorem run_dropped (ops : List (Op ε)) : run none ops = ([], none) := by
  induction ops with
  | nil => rfl
  | cons op ops ih => simp [run, step, ih]

theorem run_late (g : Nat) (ops : List (Op ε)) :
    (run (some ⟨g, none⟩) ops).1 = callsCourse g (lateCalls ops) := by
  induction ops with
  | nil => rfl
  | cons op ops ih =>
    cases op with
    | add c =>
      simp [run, step, add, work_of_tornDown g none _ rfl, ih, lateCalls, callsCourse, callCourse,
        taskCourse]
    | teardown =>
      simp [run, step, teardown, work_of_tornDown g none _ rfl, ih, lateCalls, callsCourse,
        taskCourse]
    | isTornDown => simp [run, step, isTornDown, ih, lateCalls, callsCourse, callCourse]
    | format => simp [run, step, report, isTornDown, ih, lateCalls, callsCourse, callCourse]
    | drop => simp [run, step, dropped, run_dropped, lateCalls, callsCourse, callCourse]

/-- Only a drop is the end of a scope. -/
theorem run_eq_none (s : Option (Scope ε)) (ops : List (Op ε)) (h : .drop ∈ ops) :
    (run s ops).2 = none := by
  induction ops generalizing s with
  | nil => cases h
  | cons op ops ih =>
    rcases List.mem_cons.1 h with rfl | h
    · cases s <;> simp [run, step, run_dropped]
    · simpa [run] using ih _ h

theorem run_from (g : Nat) (cs : List (Cleanup ε)) (ops : List (Op ε))
    (h : ∀ op ∈ ops.head?, op.isEarly = false) :
    (run (some ⟨g, some cs⟩) ops).1 = historyFrom g cs ops := by
  cases ops with
  | nil => rfl
  | cons op ops =>
    have hop := h op rfl
    cases op with
    | teardown => simp [run, step, teardown, work_teardown, run_late, historyFrom, teardownStart]
    | drop => simp [run, step, dropped, run_dropped, historyFrom, teardownStart]
    | add c => cases hop
    | isTornDown => cases hop
    | format => cases hop

/-- **The moments of a whole life.** -/
theorem run_opened (g : Nat) (ops : List (Op ε)) :
    (run (some (opened g)) ops).1 = history g ops := by
  have hearly : ∀ op ∈ ops.takeWhile Op.isEarly, op.isEarly = true := fun op h =>
    List.all_eq_true.1 List.all_takeWhile op h
  have hlate : ∀ op ∈ (ops.dropWhile Op.isEarly).head?, op.isEarly = false := by
    intro op h
    have := List.head?_dropWhile_not Op.isEarly ops
    rw [Option.mem_def.1 h] at this
    exact this
  -- the calls are taken apart at the first that starts a teardown
  have h := congrArg Prod.fst (run_early g hearly [] (ops.dropWhile Op.isEarly))
  rw [List.takeWhile_append_dropWhile] at h
  rw [opened, h, List.append_nil, run_from g _ _ hlate]
  rfl

-- a cleanup that registers another one during the first teardown
example : (run (some (opened 3)) [.add (.mk 1 []), .add (.mk 2 [.register (.mk 3 [])]),
    .teardown]).1 =
      [.offered 1, .locked, .unlocked, .sawStored 1 true,
        .offered 2, .locked, .unlocked, .sawStored 2 true,
        .locked, .unlocked, .logged ⟨.debug, "tearing down generation 3 (2 cleanups)"⟩,
        .ran 2, .offered 3, .locked, .unlocked, .ran 3, .ended 3, .sawStored 3 false, .ended 2,
        .ran 1, .ended 1] := by cbv

/-! ## What the moments show -/

/-- The cleanups handed over in some moments. -/
def offeredIn (ms : List (Moment ε)) : List ε := ms.filterMap fun
  | .offered d => some d
  | _ => none

/-- The cleanups that started in some moments. -/
def ranIn (ms : List (Moment ε)) : List ε := ms.filterMap fun
  | .ran d => some d
  | _ => none

/-- The cleanups that came to their end in some moments. -/
def endedIn (ms : List (Moment ε)) : List ε := ms.filterMap fun
  | .ended d => some d
  | _ => none

/-- The cleanups that wait in what is left of a scope. -/
def left : Option (Scope ε) → List ε
  | some s => (s.waiting.getD []).map duty
  | none => []

@[simp] theorem offeredIn_append (ms ns : List (Moment ε)) :
    offeredIn (ms ++ ns) = offeredIn ms ++ offeredIn ns := List.filterMap_append

@[simp] theorem ranIn_append (ms ns : List (Moment ε)) :
    ranIn (ms ++ ns) = ranIn ms ++ ranIn ns := List.filterMap_append

@[simp] theorem endedIn_append (ms ns : List (Moment ε)) :
    endedIn (ms ++ ns) = endedIn ms ++ endedIn ns := List.filterMap_append

/-- Between a scope where `before` waits and one where `after` waits, the moments run what was
there and what they hand over, once and to the end, except for what waits in the end. -/
structure Accounted (before after : List ε) (ms : List (Moment ε)) : Prop where
  ran : (ranIn ms ++ after).Perm (before ++ offeredIn ms)
  ended : (endedIn ms).Perm (ranIn ms)

namespace Accounted

theorem append {as bs cs : List ε} {ms ns : List (Moment ε)} (h : Accounted as bs ms)
    (k : Accounted bs cs ns) : Accounted as cs (ms ++ ns) where
  ran := by
    classical
    -- what waits between the two lists of moments stands on both sides
    rw [List.perm_iff_count]
    intro d
    have hd := List.perm_iff_count.1 h.ran d
    have kd := List.perm_iff_count.1 k.ran d
    simp only [List.count_append, ranIn_append, offeredIn_append] at hd kd ⊢
    omega
  ended := by
    rw [ranIn_append, endedIn_append]
    exact h.ended.append k.ended

/-- What waits beside does not matter. -/
theorem frame {as bs : List ε} {ms : List (Moment ε)} (h : Accounted as bs ms) (cs : List ε) :
    Accounted (as ++ cs) (bs ++ cs) ms where
  ran := by
    have := h.ran.append_right cs
    simp only [List.append_assoc] at this ⊢
    exact this.trans (List.perm_append_comm.append_left _)
  ended := h.ended

/-- Moments that hand nothing over and run nothing. -/
theorem still (as : List ε) {ms : List (Moment ε)} (ho : offeredIn ms = []) (hr : ranIn ms = [])
    (he : endedIn ms = []) : Accounted as as ms where
  ran := by simp [ho, hr]
  ended := by rw [he, hr]

/-- Each of some cleanups is run in its turn. -/
theorem flatMap {f : Cleanup ε → List (Moment ε)} (hf : ∀ c, Accounted [duty c] [] (f c))
    (cs : List (Cleanup ε)) : Accounted (cs.map duty) [] (cs.flatMap f) := by
  induction cs with
  | nil => exact still [] rfl rfl rfl
  | cons c cs ih => exact ((hf c).frame (cs.map duty)).append ih

end Accounted

mutual

theorem accounted_cleanup (g : Nat) :
    ∀ c : Cleanup ε, Accounted [duty c] [] (cleanupCourse g c)
  | .mk d calls => by
    have h := accounted_calls g calls
    have hcourse : cleanupCourse g (.mk d calls) =
        [.ran d] ++ callsCourse g calls ++ [.ended d] := by simp [cleanupCourse]
    -- the start and the end of `d` settle `d` itself, its calls what they hand over
    have hstart : ranIn [(.ran d : Moment ε)] = [d] := rfl
    have hstop : endedIn [(.ended d : Moment ε)] = [d] := rfl
    rw [hcourse, duty]
    constructor
    · simp only [ranIn_append, offeredIn_append, hstart]
      simpa [ranIn, offeredIn] using h.ran
    · simp only [ranIn_append, endedIn_append, hstart, hstop]
      simpa [ranIn, endedIn] using (List.perm_append_singleton d _).trans (h.ended.cons d)

theorem accounted_call (g : Nat) : ∀ c : ScopeCall ε, Accounted [] [] (callCourse g c)
  | .teardown => .still [] rfl rfl rfl
  | .isTornDown => .still [] rfl rfl rfl
  | .format => .still [] rfl rfl rfl
  | .register c => by
    have hoffer : Accounted [] [duty c] [(.offered (duty c) : Moment ε), .locked, .unlocked] :=
      ⟨.refl _, .refl _⟩
    exact (hoffer.append (accounted_cleanup g c)).append (.still [] rfl rfl rfl)

theorem accounted_calls (g : Nat) : ∀ cs : List (ScopeCall ε), Accounted [] [] (callsCourse g cs)
  | [] => .still [] rfl rfl rfl
  | c :: cs => (accounted_call g c).append (accounted_calls g cs)

end

/-- What one call from outside runs. -/
theorem accounted_step (s : Option (Scope ε)) (op : Op ε) :
    Accounted (left s) (left (step s op).2) (step s op).1 := by
  rcases s with _ | ⟨g, _ | cs⟩
  · exact .still _ rfl rfl rfl
  · -- torn down: as a cleanup would call it
    cases op with
    | add c =>
      have h := accounted_call g (.register c)
      simpa [step, add, work_of_tornDown g none _ rfl, left, taskCourse, callCourse] using h
    | teardown =>
      have h := accounted_call (ε := ε) g .teardown
      simpa [step, teardown, work_of_tornDown g none _ rfl, left, taskCourse] using h
    | isTornDown => exact .still _ rfl rfl rfl
    | format => exact .still _ rfl rfl rfl
    | drop => exact .still _ rfl rfl rfl
  · have hstart : Accounted (cs.map duty) (cs.map duty) (teardownStart g cs.length) :=
      .still _ rfl rfl rfl
    cases op with
    | add c => exact ⟨(List.perm_append_singleton (duty c) (cs.map duty)).symm, .refl _⟩
    | teardown =>
      simpa [step, teardown, work_teardown, left, teardownStart] using
        hstart.append (.flatMap (accounted_cleanup g) cs)
    | isTornDown => exact .still _ rfl rfl rfl
    | format => exact .still _ rfl rfl rfl
    | drop => exact hstart.append (.flatMap (fun c => ⟨.refl _, .refl _⟩) cs)

theorem accounted_run (s : Option (Scope ε)) (ops : List (Op ε)) :
    Accounted (left s) (left (run s ops).2) (run s ops).1 := by
  induction ops generalizing s with
  | nil => exact .still _ rfl rfl rfl
  | cons op ops ih => exact (accounted_step s op).append (ih _)

/-! ## Answers and nesting -/

theorem tornDownRecord_ne (g n : Nat) : tornDownRecord g ≠ teardownRecord g n := by
  intro h
  have htext := congrArg (fun r => r.text.toList.head?) h
  simp [tornDownRecord, teardownRecord] at htext

/-- The first teardown has started in some moments. -/
def Started (g : Nat) (ms : List (Moment ε)) : Prop := ∃ n, .logged (teardownRecord g n) ∈ ms

/-- A moment that may stand before the first teardown (`tornDown = false`) or after its start
(`tornDown = true`). -/
def Fits (g : Nat) (tornDown : Bool) : Moment ε → Prop
  | .sawTornDown answer => answer = tornDown
  | .sawStored _ answer => answer = !tornDown
  | .logged r => ∀ n, r ≠ teardownRecord g n
  | _ => True

theorem not_started_of_fits {g : Nat} {b : Bool} {ms : List (Moment ε)}
    (h : ∀ m ∈ ms, Fits g b m) : ¬ Started g ms :=
  fun ⟨n, hn⟩ => h _ hn n rfl

mutual

theorem fits_cleanup (g : Nat) : ∀ c : Cleanup ε, ∀ m ∈ cleanupCourse g c, Fits g true m
  | .mk d calls => by
    intro m hm
    simp only [cleanupCourse, List.mem_cons, List.mem_append, List.not_mem_nil, or_false] at hm
    rcases hm with rfl | hm | rfl
    · trivial
    · exact fits_calls g calls m hm
    · trivial

theorem fits_call (g : Nat) : ∀ c : ScopeCall ε, ∀ m ∈ callCourse g c, Fits g true m
  | .teardown => by
    simpa [callCourse, Fits] using tornDownRecord_ne g
  | .isTornDown => by simp [callCourse, Fits]
  | .format => by simp [callCourse, Fits]
  | .register c => by
    intro m hm
    simp only [callCourse, List.mem_append, List.mem_cons, List.not_mem_nil, or_false] at hm
    rcases hm with ((rfl | rfl | rfl) | hm) | rfl
    · trivial
    · trivial
    · trivial
    · exact fits_cleanup g c m hm
    · rfl

theorem fits_calls (g : Nat) : ∀ cs : List (ScopeCall ε), ∀ m ∈ callsCourse g cs, Fits g true m
  | [] => by simp [callsCourse]
  | c :: cs => by
    intro m hm
    rcases List.mem_append.1 hm with hm | hm
    · exact fits_call g c m hm
    · exact fits_calls g cs m hm

end

theorem fits_early (g : Nat) (op : Op ε) : ∀ m ∈ earlyCourse g op, Fits g false m := by
  cases op <;> simp [earlyCourse, Fits]

theorem fits_flatMap {g : Nat} {b : Bool} {α : Type} {f : α → List (Moment ε)}
    (hf : ∀ a, ∀ m ∈ f a, Fits g b m) (as : List α) : ∀ m ∈ as.flatMap f, Fits g b m := by
  intro m hm
  obtain ⟨a, -, hm⟩ := List.mem_flatMap.1 hm
  exact hf a m hm

theorem historyFrom_split (g : Nat) (cs : List (Cleanup ε)) (ops : List (Op ε)) :
    historyFrom g cs ops = [] ∨
      ∃ n ls, historyFrom g cs ops = teardownStart g n ++ ls ∧ ∀ m ∈ ls, Fits g true m := by
  unfold historyFrom
  split
  · exact .inl rfl
  · refine .inr ⟨_, _, rfl, fits_flatMap (fun c m hm => ?_) cs⟩
    simp only [List.mem_cons, List.not_mem_nil, or_false] at hm
    rcases hm with rfl | rfl <;> trivial
  · refine .inr ⟨_, _, List.append_assoc .., fun m hm => ?_⟩
    exact (List.mem_append.1 hm).elim (fits_flatMap (fits_cleanup g) cs m) (fits_calls g _ m)

/-- A whole life is calls on an open scope, then, if the scope is torn down at all, the start of
one teardown and what comes after it. -/
theorem history_split (g : Nat) (ops : List (Op ε)) :
    ∃ es, (∀ m ∈ es, Fits g false m) ∧
      (history g ops = es ∨
        ∃ n ls, history g ops = es ++ (teardownStart g n ++ ls) ∧ ∀ m ∈ ls, Fits g true m) := by
  refine ⟨(ops.takeWhile Op.isEarly).flatMap (earlyCourse g), fits_flatMap (fits_early g) _, ?_⟩
  simp only [history]
  rcases historyFrom_split g ((ops.takeWhile Op.isEarly).flatMap Op.stores).reverse
    (ops.dropWhile Op.isEarly) with h | ⟨n, ls, h, hls⟩
  · exact .inl (by rw [h, List.append_nil])
  · exact .inr ⟨n, ls, by rw [h], hls⟩

theorem split_append {α : Type} {as bs xs ys : List α} {a : α} (h : as ++ bs = xs ++ a :: ys) :
    (∃ zs, as = xs ++ a :: zs) ∨ ∃ zs, xs = as ++ zs ∧ bs = zs ++ a :: ys := by
  rcases List.append_eq_append_iff.1 h with ⟨zs, hxs, hbs⟩ | ⟨zs, has, hys⟩
  · exact .inr ⟨zs, hxs, hbs⟩
  · cases zs with
    | nil => exact .inr ⟨[], by simpa using has.symm, by simpa using hys.symm⟩
    | cons z zs =>
      obtain ⟨rfl, -⟩ := List.cons.inj hys
      exact .inl ⟨zs, has⟩

theorem split_teardownStart {g n : Nat} {xs ys : List (Moment ε)} {m : Moment ε}
    (h : teardownStart g n = xs ++ m :: ys) :
    (∀ x ∈ xs, Fits g false x) ∧ (m = .logged (teardownRecord g n) ∨ Fits g false m) := by
  rcases xs with _ | ⟨x, _ | ⟨y, _ | ⟨z, xs⟩⟩⟩
  · obtain ⟨rfl, -⟩ := List.cons.inj h
    exact ⟨by simp, .inr trivial⟩
  · simp only [teardownStart, List.cons_append, List.nil_append, List.cons.injEq] at h
    obtain ⟨rfl, rfl, -⟩ := h
    exact ⟨by simp [Fits], .inr trivial⟩
  · simp only [teardownStart, List.cons_append, List.nil_append, List.cons.injEq] at h
    obtain ⟨rfl, rfl, rfl, -⟩ := h
    exact ⟨by simp [Fits], .inl rfl⟩
  · simp [teardownStart] at h

/-- Each moment of a whole life is the start of the first teardown, or it fits to whether that has
started before. -/
theorem fits_history {g : Nat} {ops : List (Op ε)} {xs ys : List (Moment ε)} {m : Moment ε}
    (h : history g ops = xs ++ m :: ys) :
    ((∃ n, m = .logged (teardownRecord g n)) ∧ ¬ Started g xs) ∨
      ∃ b, (b = true ↔ Started g xs) ∧ Fits g b m := by
  have hopen {zs : List (Moment ε)} (hz : ∀ z ∈ zs, Fits g false z) (hm : Fits g false m)
      (hx : xs = zs) : ∃ b, (b = true ↔ Started g xs) ∧ Fits g b m :=
    ⟨false, by simpa [hx] using not_started_of_fits hz, hm⟩
  have hbefore {es zs : List (Moment ε)} (hes : ∀ e ∈ es, Fits g false e)
      (he : es = xs ++ m :: zs) : ∃ b, (b = true ↔ Started g xs) ∧ Fits g b m :=
    hopen (fun x hx => hes x (by simp [he, hx])) (hes m (by simp [he])) rfl
  obtain ⟨es, hes, hes' | ⟨n, ls, hls, hfits⟩⟩ := history_split g ops
  · -- the scope was never torn down
    exact .inr (hbefore hes (hes'.symm.trans h))
  · rcases split_append (hls.symm.trans h) with ⟨zs, hzs⟩ | ⟨zs, hxs, hzs⟩
    · -- `m` comes before the teardown
      exact .inr (hbefore hes hzs)
    · rcases split_append hzs with ⟨ws, hws⟩ | ⟨ws, hws, hls'⟩
      · -- `m` is in the start of the teardown
        obtain ⟨hfit, hm⟩ := split_teardownStart hws
        have hfit' : ∀ x ∈ es ++ zs, Fits g false x :=
          fun x hx => (List.mem_append.1 hx).elim (hes x) (hfit x)
        rcases hm with hm | hm
        · exact .inl ⟨⟨n, hm⟩, by simpa [hxs] using not_started_of_fits hfit'⟩
        · exact .inr (hopen hfit' hm hxs)
      · -- `m` comes after the start of the teardown, which is in `xs`
        have hstarted : Started g xs := ⟨n, by simp [hxs, hws, teardownStart]⟩
        exact .inr ⟨true, by simp [hstarted], hfits m (by simp [hls'])⟩

/-- Wherever a caller learns that its cleanup was not stored, that cleanup has just run, from its
start to its end, since it was handed over. -/
def Nested (g : Nat) (ms : List (Moment ε)) : Prop :=
  ∀ xs d ys, ms = xs ++ .sawStored d false :: ys →
    ∃ zs c, duty c = d ∧
      xs = zs ++ ([.offered d, .locked, .unlocked] ++ cleanupCourse g c)

theorem Nested.append {g : Nat} {ms ns : List (Moment ε)} (h : Nested g ms) (k : Nested g ns) :
    Nested g (ms ++ ns) := by
  intro xs d ys hs
  rcases split_append hs with ⟨zs, hzs⟩ | ⟨zs, rfl, hzs⟩
  · exact h xs d zs hzs
  · obtain ⟨ws, c, hd, rfl⟩ := k zs d ys hzs
    exact ⟨ms ++ ws, c, hd, by simp⟩

theorem Nested.of_notMem {g : Nat} {ms : List (Moment ε)} (h : ∀ d, .sawStored d false ∉ ms) :
    Nested g ms := by
  rintro xs d ys rfl
  exact absurd (by simp) (h d)

theorem Nested.flatMap {g : Nat} {α : Type} {f : α → List (Moment ε)}
    (hf : ∀ a, Nested g (f a)) (as : List α) : Nested g (as.flatMap f) := by
  induction as with
  | nil => exact .of_notMem (by simp)
  | cons a as ih => exact (hf a).append ih

mutual

theorem nested_cleanup (g : Nat) : ∀ c : Cleanup ε, Nested g (cleanupCourse g c)
  | .mk d calls => by
    have hstart : Nested g [(.ran d : Moment ε)] := .of_notMem (by simp)
    have hstop : Nested g [(.ended d : Moment ε)] := .of_notMem (by simp)
    exact hstart.append ((nested_calls g calls).append hstop)

theorem nested_call (g : Nat) : ∀ c : ScopeCall ε, Nested g (callCourse g c)
  | .teardown => .of_notMem (by simp [callCourse])
  | .isTornDown => .of_notMem (by simp [callCourse])
  | .format => .of_notMem (by simp [callCourse])
  | .register c => by
    intro xs d ys hs
    rcases split_append hs with ⟨zs, hzs⟩ | ⟨zs, rfl, hzs⟩
    · -- a report inside of the course of `c`
      have hoffer : Nested g [(.offered (duty c) : Moment ε), .locked, .unlocked] :=
        .of_notMem (by simp)
      exact hoffer.append (nested_cleanup g c) xs d zs hzs
    · -- the report itself
      obtain ⟨rfl, h⟩ | ⟨ws, -, h⟩ := List.cons_eq_append_iff.1 hzs
      · obtain ⟨⟨rfl, -⟩, -⟩ := by simpa using h
        exact ⟨[], c, rfl, by simp⟩
      · simp at h

theorem nested_calls (g : Nat) : ∀ cs : List (ScopeCall ε), Nested g (callsCourse g cs)
  | [] => .of_notMem (by simp [callsCourse])
  | c :: cs => (nested_call g c).append (nested_calls g cs)

end

theorem nested_from (g : Nat) (cs : List (Cleanup ε)) (ops : List (Op ε)) :
    Nested g (historyFrom g cs ops) := by
  have hstart : Nested g (teardownStart (ε := ε) g cs.length) :=
    .of_notMem (by simp [teardownStart])
  unfold historyFrom
  split
  · exact .of_notMem (by simp)
  · exact hstart.append (.flatMap (fun c => .of_notMem (by simp)) cs)
  · exact (hstart.append (.flatMap (nested_cleanup g) cs)).append (nested_calls g _)

theorem nested_history (g : Nat) (ops : List (Op ε)) : Nested g (history g ops) := by
  refine Nested.append (.flatMap (fun op => ?_) _) (nested_from g _ _)
  cases op <;> exact .of_notMem (by simp [earlyCourse])

/-! ## Other teardowns -/

/-- What may come next: no cleanup starts where a scope was found torn down already. -/
def Follows (g : Nat) (m n : Moment ε) : Prop :=
  m = .logged (tornDownRecord g) → ∀ d, n ≠ .ran d

/-- Moments in which no cleanup starts where a scope was found torn down, and which themselves can
stand behind that. -/
structure Idle (g : Nat) (ms : List (Moment ε)) : Prop where
  chain : ms.IsChain (Follows g)
  first : ∀ d, .ran d ∉ ms.head?

theorem Idle.cons {g : Nat} {m : Moment ε} {ns : List (Moment ε)} (h : ns.IsChain (Follows g))
    (hm : m ≠ .logged (tornDownRecord g)) (hr : ∀ d, m ≠ .ran d) : Idle g (m :: ns) where
  chain := List.isChain_cons.2 ⟨fun _ _ hm' => absurd hm' hm, h⟩
  first := fun d hd => hr d (Option.some.inj hd)

/-- Moments without the start of a cleanup can stand before any such moments. -/
theorem Idle.prepend {g : Nat} {ms ns : List (Moment ε)} (h : Idle g ns)
    (hr : ∀ d, .ran d ∉ ms) : Idle g (ms ++ ns) := by
  induction ms with
  | nil => exact h
  | cons m ms ih =>
    have htail := ih fun d hd => hr d (List.mem_cons_of_mem _ hd)
    constructor
    · exact List.isChain_cons.2 ⟨fun n hn _ d hnd => htail.first d (hnd ▸ hn), htail.chain⟩
    · intro d hd
      exact hr d (Option.some.inj hd ▸ List.mem_cons_self)

theorem chain_ran {g : Nat} (d : ε) {ns : List (Moment ε)} (h : ns.IsChain (Follows g)) :
    (.ran d :: ns).IsChain (Follows g) :=
  List.isChain_cons.2 ⟨fun _ _ hm => (nomatch hm), h⟩

mutual

theorem chain_cleanup (g : Nat) : ∀ (c : Cleanup ε) {ns : List (Moment ε)},
    ns.IsChain (Follows g) → (cleanupCourse g c ++ ns).IsChain (Follows g)
  | .mk d calls, ns, h => by
    -- the last call may find the scope torn down, but what follows it is the end of `d`
    have hstop : Idle g (.ended d :: ns) := .cons h (by simp) (by simp)
    have hcalls := (idle_calls g calls hstop).chain
    simpa [cleanupCourse] using chain_ran d hcalls

theorem idle_call (g : Nat) : ∀ (c : ScopeCall ε) {ns : List (Moment ε)},
    Idle g ns → Idle g (callCourse g c ++ ns)
  | .teardown, _, h => h.prepend (by simp [callCourse])
  | .isTornDown, _, h => h.prepend (by simp [callCourse])
  | .format, _, h => h.prepend (by simp [callCourse])
  | .register c, ns, h => by
    have hstop : Idle g ([.sawStored (duty c) false] ++ ns) := h.prepend (by simp)
    have hrun := chain_cleanup g c hstop.chain
    have hunlocked := Idle.cons (m := .unlocked) hrun (by simp) (by simp)
    have hoffer : Idle g ([.offered (duty c), .locked] ++ .unlocked :: _) :=
      hunlocked.prepend (by simp)
    simpa [callCourse] using hoffer

theorem idle_calls (g : Nat) : ∀ (cs : List (ScopeCall ε)) {ns : List (Moment ε)},
    Idle g ns → Idle g (callsCourse g cs ++ ns)
  | [], _, h => h
  | c :: cs, _, h => by
    rw [callsCourse, List.append_assoc]
    exact idle_call g c (idle_calls g cs h)

end

theorem chain_flatMap {g : Nat} {f : Cleanup ε → List (Moment ε)}
    (hf : ∀ c {ns}, ns.IsChain (Follows g) → (f c ++ ns).IsChain (Follows g))
    (cs : List (Cleanup ε)) {ns : List (Moment ε)} (h : ns.IsChain (Follows g)) :
    (cs.flatMap f ++ ns).IsChain (Follows g) := by
  induction cs with
  | nil => exact h
  | cons c cs ih =>
    rw [List.flatMap_cons, List.append_assoc]
    exact hf c ih

theorem idle_start (g n : Nat) {ns : List (Moment ε)} (h : ns.IsChain (Follows g)) :
    Idle g (teardownStart g n ++ ns) := by
  have hlogged : Idle g (.logged (teardownRecord g n) :: ns) :=
    .cons h (by simpa using (tornDownRecord_ne g n).symm) (by simp)
  have hlocked : Idle g ([.locked, .unlocked] ++ .logged (teardownRecord g n) :: ns) :=
    hlogged.prepend (by simp)
  exact hlocked

theorem idle_from (g : Nat) (cs : List (Cleanup ε)) (ops : List (Op ε)) :
    Idle g (historyFrom g cs ops) := by
  have hnil : Idle g ([] : List (Moment ε)) := ⟨.nil, by simp⟩
  unfold historyFrom
  split
  · exact hnil
  · refine idle_start g _ ?_
    -- the cleanups run by a drop make no calls, so none of them finds the scope torn down
    rw [← List.append_nil (cs.flatMap _)]
    refine chain_flatMap (fun c ns h => ?_) cs hnil.chain
    have hstop : Idle g (.ended (duty c) :: ns) := .cons h (by simp) (by simp)
    exact chain_ran _ hstop.chain
  · rw [List.append_assoc]
    refine idle_start g _ (chain_flatMap (chain_cleanup g) cs ?_)
    rw [← List.append_nil (callsCourse g _)]
    exact (idle_calls g _ hnil).chain

theorem chain_history (g : Nat) (ops : List (Op ε)) : (history g ops).IsChain (Follows g) := by
  refine ((idle_from g _ _).prepend fun d hd => ?_).chain
  obtain ⟨op, -, hd⟩ := List.mem_flatMap.1 hd
  cases op <;> simp [earlyCourse] at hd

/-! ## The contract -/

/-- What holds of the moments `ms` of a scope of generation `g` and of what is left of it, after
the calls `ops` from outside. -/
structure Kept (g : Nat) (ops : List (Op ε)) (ms : List (Moment ε)) (s : Option (Scope ε)) :
    Prop where
  /-- Each cleanup handed over ran once or still waits. -/
  once : (ranIn ms ++ left s).Perm (offeredIn ms)
  /-- Each cleanup that started came to its end. -/
  ended : (endedIn ms).Perm (ranIn ms)
  /-- After a drop nothing waits. -/
  dropped : .drop ∈ ops → left s = []
  /-- The stored cleanups run in the first teardown, in reverse order. -/
  order : ms = history g ops
  /-- A cleanup is stored just if the first teardown has not started. -/
  stored : ∀ xs d answer ys, ms = xs ++ .sawStored d answer :: ys →
    (answer = false ↔ Started g xs)
  /-- A cleanup that is not stored has run to its end before its registration returns. -/
  nested : Nested g ms
  /-- A caller learns that the scope is torn down just if the first teardown has started. -/
  answered : ∀ xs answer ys, ms = xs ++ .sawTornDown answer :: ys →
    (answer = true ↔ Started g xs)
  /-- One teardown runs cleanups. -/
  single : ∀ xs n ys, ms = xs ++ .logged (teardownRecord g n) :: ys → ¬ Started g xs
  /-- No other teardown does. -/
  idle : ms.IsChain (Follows g)

/-- **Cleanups run once, in order, and nested.** -/
theorem cleanups_kept (g : Nat) (ops : List (Op ε)) :
    Kept g ops (run (some (opened g)) ops).1 (run (some (opened g)) ops).2 where
  once := (accounted_run (some (opened g)) ops).ran
  ended := (accounted_run (some (opened g)) ops).ended
  dropped h := by rw [run_eq_none _ ops h, left]
  order := run_opened g ops
  stored := by
    intro xs d answer ys h
    rw [run_opened] at h
    rcases fits_history h with ⟨⟨n, hn⟩, -⟩ | ⟨b, hb, rfl⟩
    · cases hn
    · simpa using hb
  nested := run_opened g ops ▸ nested_history g ops
  answered := by
    intro xs answer ys h
    rw [run_opened] at h
    rcases fits_history h with ⟨⟨n, hn⟩, -⟩ | ⟨b, hb, rfl⟩
    · cases hn
    · exact hb
  single := by
    intro xs n ys h
    rw [run_opened] at h
    rcases fits_history h with ⟨-, hs⟩ | ⟨b, -, hfits⟩
    · exact hs
    · exact absurd rfl (hfits n)
  idle := run_opened g ops ▸ chain_history g ops

end PatternSuite.Scope
