import BalancerSync.Cloud.World
import Mathlib.Data.List.Basic

/-!
# Waiting for an action

`watch` tells at once what an observer of an action sees, and `await` what comes of it.  Here the
observer is taken step by step.  It asks for one item after the other; the first item is about the
action that it has got, and for every other it lets an interval pass and polls the action that it
saw last.  It waits by asking for items until there is none or one is an error.

Whether an item is the last one is settled by the outcome that it is about: the observer goes on
after a running action and after nothing else.  So the induction is on the answers, with the outcome
that is looked at next in front of them.

## Main Definitions

* `Observer` — where an observer stands; `Observer.next?` is its next item
* `Observer.course` — what happens until there are no more items
* `Observer.wait` — what happens until waiting has a result
* `FirstSettled` — the running actions before the first outcome that is none, and that outcome
* `Verdict` — what an outcome means for who waits

## Main Results

* `Observer.wait_eq` — who waits sees all items
* `watch_eq`, `await_eq` — `watch` and `await` tell what the observer sees
* `World.await_eq` — a wait in a world takes as long as its pauses and logs its polls
* `waits_for_first_settled` — waiting ends with the first outcome that is no running action
-/

namespace BalancerSync.Cloud

/-- What an observer does and sees. -/
inductive Beat where
  | pause (d : Duration)
  | poll (id : Int)
  | item (p : Progress)
  deriving DecidableEq, Repr

namespace Beat

def polled? : Beat → Option Int
  | poll id => some id
  | pause _ | item _ => none

def item? : Beat → Option Progress
  | item p => some p
  | pause _ | poll _ => none

end Beat

/-! ### One step -/

/-- Where an observer stands. -/
inductive Observer where
  /-- It has an action and has not looked at it yet. -/
  | fresh (a : Action)
  /-- It has seen the action running. -/
  | seen (a : Action)
  | ended
  deriving DecidableEq, Repr

namespace Observer

/-- The item about an outcome, and where the observer stands after it. -/
def look : Except Error Action → Progress × Observer
  | .error e => (.failed e, ended)
  | .ok a =>
    match a.settled? with
    | none => (.percent a.progress, seen a)
    | some outcome => (.last outcome, ended)

/-- The answer to a poll when there are no others left. -/
def missing (id : Int) : Except Error Action := .error (.notFound ("action " ++ toString id))

/-- The next outcome that an observer looks at, with the requests that it takes and the answers that
are left. -/
structure Step where
  requests : List Beat
  outcome : Except Error Action
  polls : List (Except Error Action)

/-- The next step, unless there has been the last item. -/
def next? (interval : Duration) : Observer → List (Except Error Action) → Option Step
  | fresh a, polls => some ⟨[], .ok a, polls⟩
  | seen a, polls =>
    some ⟨[.pause interval, .poll a.id], polls.headD (missing a.id), polls.tail⟩
  | ended, _ => none

/-- How many steps there can be. -/
def bound : Observer → List (Except Error Action) → Nat
  | fresh _, polls => polls.length + 2
  | seen _, polls => polls.length + 1
  | ended, _ => 0

/-- After a look there can be at most one step more than there are answers left.  The last one is
that of an observer who polls and gets none. -/
theorem bound_look_le (outcome : Except Error Action) (polls : List (Except Error Action)) :
    (look outcome).2.bound polls ≤ polls.length + 1 := by
  cases outcome with
  | error e => exact Nat.zero_le _
  | ok a =>
    rw [look]
    cases a.settled? with
    | none => exact Nat.le_refl _
    | some outcome => exact Nat.zero_le _

/-- Each step uses up an answer, but for the first and the last. -/
theorem bound_lt {interval : Duration} {s : Observer} {polls : List (Except Error Action)}
    {step : Step} (h : s.next? interval polls = some step) :
    (look step.outcome).2.bound step.polls < s.bound polls := by
  cases s with
  | fresh a =>
    cases h
    exact Nat.lt_succ_of_le (bound_look_le _ _)
  | seen a =>
    cases h
    cases polls with
    | nil => exact Nat.zero_lt_one
    | cons outcome polls => exact Nat.lt_succ_of_le (bound_look_le _ _)
  | ended => cases h

/-! ### All steps -/

/-- What happens until there are no more items. -/
def course (interval : Duration) (s : Observer) (polls : List (Except Error Action)) : List Beat :=
  match _ : s.next? interval polls with
  | none => []
  | some step =>
    step.requests ++ .item (look step.outcome).1 ::
      (look step.outcome).2.course interval step.polls
termination_by s.bound polls
decreasing_by exact bound_lt ‹_›

/-- What happens from the look at an outcome on. -/
def courseFrom (interval : Duration) (outcome : Except Error Action)
    (polls : List (Except Error Action)) : List Beat :=
  .item (look outcome).1 :: (look outcome).2.course interval polls

/-- What waiting results in, and what happens until then.  An item that is an error ends it. -/
def wait (interval : Duration) (s : Observer) (polls : List (Except Error Action)) :
    Except Error Unit × List Beat :=
  match _ : s.next? interval polls with
  | none => (.ok (), [])
  | some step =>
    match (look step.outcome).1 with
    | .failed e => (.error e, step.requests ++ [.item (.failed e)])
    | .percent n =>
      let (result, later) := (look step.outcome).2.wait interval step.polls
      (result, step.requests ++ .item (.percent n) :: later)
termination_by s.bound polls
decreasing_by exact bound_lt ‹_›

section Laws

variable {interval : Duration} {a : Action} {s : Observer} {polls : List (Except Error Action)}
  {step : Step}

/-- Without a next step the course is over. -/
theorem course_of_next?_eq_none (h : s.next? interval polls = none) :
    s.course interval polls = [] := by
  rw [course]
  split
  · rfl
  · rename_i hsome
    rw [h] at hsome
    cases hsome

/-- A course is its next step, and then the rest of it.  These two equations stand for the
definition, which is by recursion on a measure and is not unfolded elsewhere. -/
theorem course_of_next? (h : s.next? interval polls = some step) :
    s.course interval polls = step.requests ++ courseFrom interval step.outcome step.polls := by
  rw [course]
  split
  · rename_i hnone
    rw [h] at hnone
    cases hnone
  · rename_i hsome
    rw [h] at hsome
    cases hsome
    rfl

@[simp] theorem course_ended : ended.course interval polls = [] := course_of_next?_eq_none rfl

/-- An observer who has an action looks at it before polling anything. -/
theorem course_fresh : (fresh a).course interval polls = courseFrom interval (.ok a) polls :=
  course_of_next? (show (fresh a).next? interval polls = some ⟨[], .ok a, polls⟩ from rfl)

/-- An observer who saw an action running pauses first and polls then. -/
theorem course_seen : (seen a).course interval polls = .pause interval :: .poll a.id ::
    courseFrom interval (polls.headD (missing a.id)) polls.tail :=
  course_of_next? (show (seen a).next? interval polls =
    some ⟨[.pause interval, .poll a.id], polls.headD (missing a.id), polls.tail⟩ from rfl)

theorem filterMap_item?_requests (h : s.next? interval polls = some step) :
    step.requests.filterMap Beat.item? = [] := by
  cases s <;> cases h <;> rfl

/-- An error is the last item. -/
theorem look_of_failed {outcome : Except Error Action} {e : Error}
    (h : (look outcome).1 = .failed e) : (look outcome).2 = ended := by
  cases outcome with
  | error e => rfl
  | ok a =>
    rw [look] at h ⊢
    cases hsettled : a.settled? with
    | none =>
      rw [hsettled] at h
      cases h
    | some outcome => rfl

/-- Who waits sees all items, and the result is what they say. -/
theorem wait_eq (interval : Duration) (s : Observer) (polls : List (Except Error Action)) :
    s.wait interval polls =
      (outcome ((s.course interval polls).filterMap Beat.item?), s.course interval polls) := by
  fun_induction wait interval s polls with
  | case1 s polls h =>
    rw [course_of_next?_eq_none h]
    rfl
  | case2 s polls step h e hitem =>
    rw [course_of_next? h, courseFrom, look_of_failed hitem, hitem, course_ended,
      List.filterMap_append, filterMap_item?_requests h]
    rfl
  | case3 s polls step h n hitem result later hlater ih =>
    obtain ⟨rfl, rfl⟩ := Prod.mk.inj (hlater.symm.trans ih)
    rw [course_of_next? h, courseFrom, hitem, List.filterMap_append, filterMap_item?_requests h]
    rfl

end Laws

end Observer

/-! ### The first outcome that is no running action -/

/-- Of these outcomes, `running` are the actions before the first one that is no running action, and
`last` is that one.  If there is none, it is the answer that the action is missing. -/
structure FirstSettled (outcomes : List (Except Error Action)) (running : List Action)
    (last : Except Error Action) : Prop where
  isRunning : ∀ r ∈ running, r.status = .running
  isSettled : ∀ r, last = .ok r → r.status ≠ .running
  first : running.map .ok ++ [last] <+: outcomes ∨
    running.map .ok = outcomes ∧ ∃ r ∈ running.getLast?, last = Observer.missing r.id

/-- What an outcome that is no running action means for who waits. -/
inductive Verdict : Except Error Action → Except Error Unit → Prop where
  | refused (e : Error) : Verdict (.error e) (.error e)
  | success {r : Action} (h : r.status = .success) : Verdict (.ok r) (.ok ())
  | failure {r : Action} {e : ActionError} (h : r.status = .error) (he : r.error = some e) :
    Verdict (.ok r) (.error (.actionFailed r.id e.code e.message))
  /-- The cloud does not say why it gave up on the action. -/
  | unexplained {r : Action} (h : r.status = .error) (he : r.error = none) :
    Verdict (.ok r) (.error (.actionFailed r.id "unknown" "action failed"))

/-- What happens about a running action. -/
def beats (interval : Duration) (r : Action) : List Beat :=
  [.item (.percent r.progress), .pause interval, .poll r.id]

section Waiting

variable {interval : Duration} {a : Action} {polls outcomes : List (Except Error Action)}
  {running : List Action} {last outcome : Except Error Action} {result : Except Error Unit}

theorem FirstSettled.cons (h : FirstSettled outcomes running last) (ha : a.status = .running) :
    FirstSettled (.ok a :: outcomes) (a :: running) last where
  isRunning := List.forall_mem_cons.2 ⟨ha, h.isRunning⟩
  isSettled := h.isSettled
  first := by
    rcases h.first with hfirst | ⟨rfl, r, hr, hlast⟩
    · exact .inl (List.cons_prefix_cons.2 ⟨rfl, hfirst⟩)
    · refine .inr ⟨rfl, r, ?_, hlast⟩
      rw [List.getLast?_cons, Option.mem_def.1 hr]
      rfl

/-- Waiting ends well exactly if the action has succeeded. -/
theorem Verdict.eq_ok_iff (h : Verdict last result) :
    result = .ok () ↔ ∃ r, last = .ok r ∧ r.status = .success := by
  cases h with
  | refused e => simp
  | success h => simp [h]
  | failure h he => simp [h]
  | unexplained h he => simp [h]

/-- What an observer sees of an outcome depends on whether it is a running action. -/
theorem look_cases (outcome : Except Error Action) :
    (∃ r, outcome = .ok r ∧ r.status = .running ∧
        Observer.look outcome = (.percent r.progress, .seen r)) ∨
      (∀ r, outcome = .ok r → r.status ≠ .running) ∧
        ∃ result, Verdict outcome result ∧ Observer.look outcome = (.last result, .ended) := by
  cases outcome with
  | error e => exact .inr ⟨nofun, _, .refused e, rfl⟩
  | ok r =>
    cases hstatus : r.status with
    | running => exact .inl ⟨r, rfl, hstatus, by simp [Observer.look, Action.settled?, hstatus]⟩
    | success =>
      refine .inr ⟨fun r' h => ?_, _, .success hstatus, ?_⟩
      · cases h
        simp [hstatus]
      · simp [Observer.look, Action.settled?, hstatus]
    | error =>
      refine .inr ⟨fun r' h => ?_, .error r.failure, ?_, ?_⟩
      · cases h
        simp [hstatus]
      · rw [Action.failure]
        cases he : r.error with
        | some e => exact .failure hstatus he
        | none => exact .unexplained hstatus he
      · simp [Observer.look, Action.settled?, hstatus]

/-- After an outcome that is no running action there is one item, and nothing more is asked for. -/
theorem courseFrom_of_ended (h : Observer.look outcome = (.last result, .ended)) :
    Observer.courseFrom interval outcome polls = [.item (.last result)] := by
  rw [Observer.courseFrom, h, Observer.course_ended]

/-- The observer goes on as long as it sees the action running. -/
theorem exists_firstSettled (interval : Duration) (outcome : Except Error Action)
    (polls : List (Except Error Action)) :
    ∃ running last result, FirstSettled (outcome :: polls) running last ∧ Verdict last result ∧
      Observer.courseFrom interval outcome polls =
        running.flatMap (beats interval) ++ [.item (.last result)] := by
  induction polls generalizing outcome with
  | nil =>
    rcases look_cases outcome with ⟨r, rfl, hr, hlook⟩ | ⟨hsettled, result, hverdict, hlook⟩
    · have hmissing : Observer.look (Observer.missing r.id) =
          (.last (.error (.notFound ("action " ++ toString r.id))), .ended) := rfl
      refine ⟨[r], Observer.missing r.id, _, ⟨?_, nofun, .inr ⟨rfl, r, rfl, rfl⟩⟩, .refused _, ?_⟩
      · exact List.forall_mem_singleton.2 hr
      · rw [Observer.courseFrom, hlook, Observer.course_seen, List.headD_nil,
          courseFrom_of_ended hmissing]
        rfl
    · exact ⟨[], outcome, result, ⟨nofun, hsettled, .inl ⟨[], rfl⟩⟩, hverdict,
        courseFrom_of_ended hlook⟩
  | cons next rest ih =>
    rcases look_cases outcome with ⟨r, rfl, hr, hlook⟩ | ⟨hsettled, result, hverdict, hlook⟩
    · obtain ⟨running, last, result, hfirst, hverdict, hcourse⟩ := ih next
      refine ⟨r :: running, last, result, hfirst.cons hr, hverdict, ?_⟩
      rw [Observer.courseFrom, hlook, Observer.course_seen]
      exact congrArg (beats interval r ++ ·) hcourse
    · exact ⟨[], outcome, result, ⟨nofun, hsettled, .inl ⟨next :: rest, rfl⟩⟩, hverdict,
        courseFrom_of_ended hlook⟩

/-! ### What is seen at once -/

/-- `watch` tells the items and the polls of the observer. -/
theorem watch_eq (interval : Duration) (a : Action) (polls : List (Except Error Action)) :
    watch a polls = ⟨((Observer.fresh a).course interval polls).filterMap Beat.item?,
      ((Observer.fresh a).course interval polls).filterMap Beat.polled?⟩ := by
  induction polls generalizing a with
  | nil =>
    rw [watch.eq_def, Observer.course_fresh, Observer.courseFrom, Observer.look]
    cases a.settled? with
    | some outcome =>
      simp only [Observer.course_ended]
      rfl
    | none =>
      simp only [Observer.course_seen, List.headD_nil, Observer.courseFrom, Observer.missing,
        Observer.look, Observer.course_ended]
      rfl
  | cons next rest ih =>
    rw [watch.eq_def, Observer.course_fresh, Observer.courseFrom, Observer.look]
    cases a.settled? with
    | some outcome =>
      simp only [Observer.course_ended]
      rfl
    | none =>
      simp only [Observer.course_seen, List.headD_cons, List.tail_cons]
      cases next with
      | error e =>
        simp only [Observer.courseFrom, Observer.look, Observer.course_ended]
        rfl
      | ok next =>
        simp only [ih next, Observer.course_fresh]
        rfl

/-- `await` tells what waiting results in. -/
theorem await_eq (interval : Duration) (a : Action) (polls : List (Except Error Action)) :
    await a polls = ((Observer.fresh a).wait interval polls).1 := by
  rw [await, watch_eq interval, Observer.wait_eq]

/-- What is seen of running actions is their progress. -/
theorem filterMap_item?_flatMap (interval : Duration) (running : List Action) :
    (running.flatMap (beats interval)).filterMap Beat.item? =
      running.map fun r => .percent r.progress := by
  rw [List.filterMap_flatMap]
  exact List.map_eq_flatMap.symm

theorem filterMap_polled?_flatMap (interval : Duration) (running : List Action) :
    (running.flatMap (beats interval)).filterMap Beat.polled? = running.map Action.id := by
  rw [List.filterMap_flatMap]
  exact List.map_eq_flatMap.symm

/-- Progress does not count for the result; the last item does. -/
theorem outcome_append (running : List Action) (result : Except Error Unit) :
    Cloud.outcome (running.map (fun r => .percent r.progress) ++ [.last result]) = result := by
  induction running with
  | nil => cases result <;> rfl
  | cons r rest ih => exact ih

end Waiting

/-! ### Waiting in a world -/

namespace World

variable {w : World} {a : Action} {running : List Action} {last : Except Error Action}

/-- The world after something that an observer does or sees in it. -/
def undergo (w : World) : Beat → World
  | .pause d => { w with clock := w.clock + d }
  | .poll id =>
    { w with
      log := w.log ++ [.getAction id]
      script := match takeNamed? "get_action" w.script.failures with
        | some (_, failures) => { w.script with failures := failures }
        | none => { w.script with polls := w.script.polls.tail } }
  | .item _ => w

theorem afterPolls_nil (w : World) : w.afterPolls [] = w := by
  have hclock : w.clock + Duration.times 0 w.pollInterval = w.clock :=
    congrArg Duration.mk (by simp [Duration.times])
  simp only [afterPolls, List.map_nil, List.append_nil, List.length_nil, hclock]

/-- The first poll, and the interval before it, can be set apart. -/
theorem afterPolls_cons (h : takeNamed? "get_action" w.script.failures = none) (id : Int)
    (ids : List Int) : w.afterPolls (id :: ids) =
      ((w.undergo (.pause w.pollInterval)).undergo (.poll id)).afterPolls ids := by
  have hclock : w.clock + Duration.times (ids.length + 1) w.pollInterval =
      w.clock + w.pollInterval + Duration.times ids.length w.pollInterval :=
    congrArg Duration.mk (by simp only [Duration.times, Duration.nanos_add, Nat.succ_mul]; omega)
  cases ids with
  | nil => simpa [afterPolls, undergo, h] using hclock
  | cons next rest => simpa [afterPolls, undergo, h] using hclock

/-- The pauses and polls about running actions, as a world undergoes them: only the clock and the
log can tell how many there were. -/
theorem foldl_undergo_beats (h : takeNamed? "get_action" w.script.failures = none) :
    (running.flatMap (beats w.pollInterval)).foldl undergo w =
      w.afterPolls (running.map Action.id) := by
  induction running generalizing w with
  | nil => exact (afterPolls_nil w).symm
  | cons r rest ih =>
    rw [List.flatMap_cons, List.foldl_append, List.map_cons, afterPolls_cons h]
    refine ih (w := (w.undergo (.pause w.pollInterval)).undergo (.poll r.id)) ?_
    simp [undergo, h]

theorem afterPolls_singleton (w : World) (id : Int) :
    w.afterPolls [id] = (w.undergo (.pause w.pollInterval)).undergo (.poll id) := by
  have hclock : Duration.times 1 w.pollInterval = w.pollInterval :=
    congrArg Duration.mk (Nat.one_mul _)
  cases h : takeNamed? "get_action" w.script.failures with
  | none => simp [afterPolls, undergo, h, hclock]
  | some entry => simp [afterPolls, undergo, h, hclock]

/-- A script that lets a poll fail leaves one running action to be seen at most. -/
theorem running_of_failures {entry : ErrorCode × List (String × ErrorCode)}
    (h : takeNamed? "get_action" w.script.failures = some entry)
    (hfirst : FirstSettled (.ok a :: w.answers a.id) running last) :
    running = [] ∨ ∃ r, running = [r] := by
  have hanswers : ∃ e, w.answers a.id = [.error e] := by
    rw [answers, h]
    exact ⟨_, rfl⟩
  obtain ⟨e, hanswers⟩ := hanswers
  rw [hanswers] at hfirst
  match running, hfirst.first with
  | [], _ => exact .inl rfl
  | [r], _ => exact .inr ⟨r, rfl⟩
  | r :: next :: rest, .inl hprefix =>
    have := hprefix.length_le
    simp at this
  | r :: next :: rest, .inr ⟨heq, _⟩ => simp at heq

/-- A wait is what its observer does, one thing after the other. -/
theorem await_eq (w : World) (a : Action) :
    w.await a =
      (((Observer.fresh a).wait w.pollInterval (w.answers a.id)).1,
        ((Observer.fresh a).wait w.pollInterval (w.answers a.id)).2.foldl undergo w) := by
  obtain ⟨running, last, result, hfirst, -, hcourse⟩ :=
    exists_firstSettled w.pollInterval (.ok a) (w.answers a.id)
  rw [← Observer.course_fresh] at hcourse
  rw [await, watch_eq w.pollInterval, Observer.wait_eq, hcourse, List.foldl_append,
    List.filterMap_append, List.filterMap_append, filterMap_polled?_flatMap]
  refine Prod.ext rfl ?_
  show w.afterPolls (running.map Action.id ++ []) =
    (running.flatMap (beats w.pollInterval)).foldl undergo w
  rw [List.append_nil]
  cases h : takeNamed? "get_action" w.script.failures with
  | none => exact (foldl_undergo_beats h).symm
  | some entry =>
    rcases running_of_failures h hfirst with rfl | ⟨r, rfl⟩
    · exact afterPolls_nil w
    · exact afterPolls_singleton w r.id

end World

/-! ### How waiting ends -/

/-- Waiting ends with the first outcome that is no running action.  Each running action before it is
reported, an interval passes, and the poll asks for that action; then comes one last item, and
nothing after it.  The result is good exactly if the last outcome is an action that has succeeded;
otherwise it is the error of the poll, or that the action has failed.  A wait in a world takes its
time and logs its polls in just this way. -/
theorem waits_for_first_settled (interval : Duration) (a : Action)
    (polls : List (Except Error Action)) :
    ∃ running last result, FirstSettled (.ok a :: polls) running last ∧ Verdict last result ∧
      (result = .ok () ↔ ∃ r, last = .ok r ∧ r.status = .success) ∧
      (Observer.fresh a).course interval polls =
        running.flatMap (beats interval) ++ [.item (.last result)] ∧
      (Observer.fresh a).wait interval polls =
        (result, running.flatMap (beats interval) ++ [.item (.last result)]) ∧
      watch a polls =
        ⟨running.map (fun r => .percent r.progress) ++ [.last result], running.map Action.id⟩ ∧
      await a polls = result ∧
      ∀ w : World, w.pollInterval = interval → w.answers a.id = polls →
        w.await a = (result, (running.flatMap (beats interval)).foldl World.undergo w) := by
  obtain ⟨running, last, result, hfirst, hverdict, hcourse⟩ :=
    exists_firstSettled interval (.ok a) polls
  rw [← Observer.course_fresh] at hcourse
  -- All the rest can be read off the course: its items, its polls, and the last item for the
  -- result.
  have hitems : ((Observer.fresh a).course interval polls).filterMap Beat.item? =
      running.map (fun r => .percent r.progress) ++ [.last result] := by
    rw [hcourse, List.filterMap_append, filterMap_item?_flatMap]
    rfl
  have hpolled : ((Observer.fresh a).course interval polls).filterMap Beat.polled? =
      running.map Action.id := by
    rw [hcourse, List.filterMap_append, filterMap_polled?_flatMap]
    exact List.append_nil _
  have hwait : (Observer.fresh a).wait interval polls =
      (result, (Observer.fresh a).course interval polls) := by
    rw [Observer.wait_eq, hitems, outcome_append]
  refine ⟨running, last, result, hfirst, hverdict, hverdict.eq_ok_iff, hcourse, ?_, ?_, ?_, ?_⟩
  · rw [hwait, hcourse]
  · rw [watch_eq interval, hitems, hpolled]
  · rw [await_eq interval, hwait]
  · rintro w rfl rfl
    rw [World.await_eq, hwait, hcourse, List.foldl_append]
    rfl

end BalancerSync.Cloud
