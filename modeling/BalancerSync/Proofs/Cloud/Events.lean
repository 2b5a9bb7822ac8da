import BalancerSync.Proofs.Cloud.Run
import BalancerSync.Proofs.Program.Moments

/-!
# What the cloud was asked and what it answered

The events of a run are its calls and its polls with the answers to them, in their order.  A wait
shows up as the polls that it takes.  The log holds the same calls without the answers
(`World.log_run`).

## Main Definitions

* `Event` — a call, a poll or a lookup that was given up
* `Event.failure?` — the failure that an event tells of
* `World.events` — the events of a run

## Main Results

* `World.events_bind` — the events of two operations in a row
* `World.log_run` — the log is the calls of the events
-/

namespace BalancerSync.Cloud

/-- Something the cloud was asked, and its answer. -/
inductive Event where
  | called (c : Call) (answer : Except Error c.Reply)
  | polled (id : Int) (answer : Except Error Action)
  /-- A call that was given up before it was received. -/
  | lapsed (c : Call)

namespace Event

/-- The call as it was received. -/
def received? : Event → Option Call
  | called c _ => some c
  | polled id _ => some (.getAction id)
  | lapsed _ => none

/-- The failure that an event tells of: a call or a poll was refused, or the cloud gave up on an
action. -/
def failure? : Event → Option Error
  | called _ (.error e) | polled _ (.error e) => some e
  | called c (.ok reply) => (c.action? reply).bind fun a =>
      if a.status = .error then some a.failure else none
  | polled _ (.ok a) => if a.status = .error then some a.failure else none
  | lapsed _ => none

end Event

/-! ### Waiting -/

/-- The polls of a wait that are answered by `answers`. -/
def polls (a : Action) (answers : List (Except Error Action)) : List Event :=
  match a.settled? with
  | some _ => []
  | none =>
    match answers with
    | [] => [.polled a.id (.error (.notFound ("action " ++ toString a.id)))]
    | .error e :: _ => [.polled a.id (.error e)]
    | .ok next :: rest => .polled a.id (.ok next) :: polls next rest

/-- The polls that a wait consists of are those that are logged. -/
theorem received?_polls (a : Action) (answers : List (Except Error Action)) :
    (polls a answers).filterMap Event.received? = (watch a answers).polled.map .getAction := by
  induction answers generalizing a with
  | nil =>
    rw [polls.eq_def, watch.eq_def]
    cases a.settled? <;> rfl
  | cons answer rest ih =>
    rw [polls.eq_def, watch.eq_def]
    cases a.settled? with
    | some outcome => rfl
    | none =>
      cases answer with
      | error e => rfl
      | ok next => exact congrArg (Call.getAction a.id :: ·) (ih next)

/-! ### Runs -/

namespace World

variable {α β : Type}

/-- The events of one request. -/
def observe (w : World) : Request → List Event
  | .call c => [.called c (w.perform c).1]
  | .callWithin _ c => if w.isSilent c then [.lapsed c] else [.called c (w.perform c).1]
  | .await a => polls a (w.answers a.id)
  | .pause _ => []

/-- The events of a run. -/
def events (w : World) (p : Operation α) : List Event :=
  (Program.moments handle p w).flatMap fun m => m.before.observe m.request

@[simp] theorem events_done (w : World) (outcome : Except Error α) :
    w.events (.done outcome : Operation α) = [] := rfl

@[simp] theorem events_ofExcept (w : World) (outcome : Except Error α) :
    w.events (Program.ofExcept outcome : Operation α) = [] := rfl

@[simp] theorem events_call (w : World) (c : Call) :
    w.events (call c) = [.called c (w.perform c).1] := rfl

@[simp] theorem events_callWithin (w : World) (limit : Duration) (c : Call) :
    w.events (callWithin limit c) =
      if w.isSilent c then [.lapsed c] else [.called c (w.perform c).1] :=
  List.append_nil _

@[simp] theorem events_awaitAction (w : World) (a : Action) :
    w.events (awaitAction a) = polls a (w.answers a.id) :=
  List.append_nil _

@[simp] theorem events_pause (w : World) (d : Duration) : w.events (pause d) = [] := rfl

@[simp] theorem events_within (w : World) (operation : String) (p : Operation α) :
    w.events (p.within operation) = w.events p := by
  rw [events, Program.moments_within, events]

@[simp] theorem events_attempt (w : World) (p : Operation α) : w.events p.attempt = w.events p := by
  rw [events, Program.moments_attempt, events]

@[simp] theorem events_ifFound (w : World) (p : Operation α) : w.events p.ifFound = w.events p := by
  rw [events, Program.moments_ifFound, events]

/-- The second of two operations goes on from where the first ends, unless the first fails. -/
theorem events_bind (w : World) (p : Operation α) (f : α → Operation β) :
    w.events (p.bind f) = w.events p ++
      match w.run p with
      | (.ok a, t) => t.events (f a)
      | (.error _, _) => [] := by
  rw [events, Program.moments_bind, List.flatMap_append, events, run]
  rcases Program.run handle p w with ⟨_ | a, t⟩ <;> rfl

/-- A request adds the calls of its events to the log. -/
theorem log_handle (w : World) (q : Request) :
    (handle q w).2.log = w.log ++ (w.observe q).filterMap Event.received? := by
  have hperform : ∀ c : Call, (w.perform c).2.log = w.log ++ [c] := by
    intro c
    rcases perform_cases w c with ⟨code, rest, -, ht⟩ | ⟨-, ⟨e, -, ht⟩ | ⟨reply, inv, -, ht⟩⟩
    · rw [ht]
      rfl
    · rw [ht]
      rfl
    · rw [ht, amended]
      split <;> rfl
  cases q with
  | call c => exact hperform c
  | callWithin limit c =>
    by_cases hsilent : w.isSilent c
    · simp [handle, observe, hsilent, Event.received?]
    · simp only [handle, observe, hsilent]
      exact hperform c
  | await a =>
    rw [observe, received?_polls]
    rfl
  | pause d => exact (List.append_nil _).symm

/-- The log is the calls of the events. -/
theorem log_run (w : World) (p : Operation α) :
    (w.run p).2.log = w.log ++ (w.events p).filterMap Event.received? := by
  induction p generalizing w with
  | done outcome => exact (List.append_nil _).symm
  | ask q next ih =>
    have hrest := ih (handle q w).1 (handle q w).2
    calc
      (w.run (.ask q next)).2.log
        = (handle q w).2.log ++ ((handle q w).2.events (next (handle q w).1)).filterMap
            Event.received? := hrest
      _ = w.log ++ (w.events (.ask q next)).filterMap Event.received? := by
          rw [log_handle, List.append_assoc, ← List.filterMap_append]
          rfl

end World

end BalancerSync.Cloud
