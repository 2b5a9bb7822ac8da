import BalancerSync.Cloud.World
import BalancerSync.Program
import BalancerSync.Proofs.Cloud.Revision

/-!
# Runs against the scripted cloud

The requests of an operation one at a time: what a call, a wait and a pause do to a world, whatever
the script holds, and what they do when it holds nothing.

A script can refuse a call and delay or fail an action, but it cannot change what a call that is
carried out does to the inventory.  So every statement comes in two halves: one for all worlds,
where an error is always possible, and one for calm worlds.

## Main Definitions

* `World.Calm` — the script is empty
* `World.Adds` — what a calm stretch of a run adds to the log
* `World.Answers` — the result of an operation that changes nothing
* `World.calmed` — the world with an empty script

## Main Results

* `World.perform_cases` — a call is refused by the script, refused by the cloud, or carried out
* `World.perform_of_lookup` — a lookup is refused by the script or answered
* `World.inventory_await` — waiting leaves the inventory as it is
-/

namespace BalancerSync.Cloud

/-- Nothing goes wrong. -/
def World.Calm (w : World) : Prop := w.script = .none

/-- The world in which nothing goes wrong any more. -/
def World.calmed (w : World) : World := { w with script := .none }

namespace World

variable {α β : Type} {w after last : World} {c : Call} {changes more : List Call}

@[simp] theorem calm_calmed (w : World) : w.calmed.Calm := rfl

/-! ### Running -/

/-- After an operation that ends well the next one goes on in the world that is left; after an error
nothing does. -/
theorem run_bind (w : World) (p : Operation α) (f : α → Operation β) :
    w.run (p.bind f) =
      match w.run p with
      | (.ok a, t) => t.run (f a)
      | (.error e, t) => (.error e, t) := by
  rw [run, Program.run_bind, run]
  rcases Program.run handle p w with ⟨_ | _, _⟩ <;> rfl

/-- Naming an operation changes errors, and nothing that happens. -/
theorem run_within (w : World) (operation : String) (p : Operation α) :
    w.run (p.within operation) = ((w.run p).1.mapError (.within operation), (w.run p).2) :=
  Program.run_mapError handle _ p w

/-- Two operations in a row end with a result only if each of them does. -/
theorem of_run_bind_eq_ok {p : Operation α} {f : α → Operation β} {b : β}
    (h : w.run (p.bind f) = (.ok b, after)) :
    ∃ a t, w.run p = (.ok a, t) ∧ t.run (f a) = (.ok b, after) := by
  rw [run_bind] at h
  generalize w.run p = result at h
  obtain ⟨r, t⟩ := result
  cases r with
  | ok a => exact ⟨a, t, rfl, h⟩
  | error e => cases h

theorem of_run_within_eq_ok {operation : String} {p : Operation α} {a : α}
    (h : w.run (p.within operation) = (.ok a, after)) : w.run p = (.ok a, after) := by
  rw [run_within] at h
  generalize w.run p = result at h
  obtain ⟨r, t⟩ := result
  cases r with
  | ok a => exact h
  | error e => cases h

@[simp] theorem run_done (w : World) (outcome : Except Error α) :
    w.run (.done outcome) = (outcome, w) := rfl

@[simp] theorem run_ofExcept (w : World) (outcome : Except Error α) :
    w.run (Program.ofExcept outcome) = (outcome, w) := rfl

theorem run_bind_ofExcept_ok (w : World) (p : Operation α) (f : α → β) :
    w.run (p.bind fun a => Program.ofExcept (.ok (f a))) = ((w.run p).1.map f, (w.run p).2) := by
  rw [run_bind]
  rcases w.run p with ⟨_ | _, _⟩ <;> rfl

@[simp] theorem run_call (w : World) (c : Call) : w.run (call c) = w.perform c := rfl

@[simp] theorem run_awaitAction (w : World) (a : Action) : w.run (awaitAction a) = w.await a := rfl

@[simp] theorem run_pause (w : World) (d : Duration) :
    w.run (pause d) = (.ok (), { w with clock := w.clock + d }) := rfl

@[simp] theorem run_attempt (w : World) (p : Operation α) :
    w.run p.attempt = (.ok (w.run p).1, (w.run p).2) :=
  Program.run_attempt handle p w

/-- An error that says that something is not there becomes a result; the world is the same. -/
theorem run_ifFound (w : World) (p : Operation α) :
    w.run p.ifFound =
      match w.run p with
      | (.ok a, t) => (.ok (some a), t)
      | (.error e, t) => (if e.isNotFound then .ok none else .error e, t) := by
  rw [run, Program.run_ifFound, run]
  rcases Program.run handle p w with ⟨_ | _, _⟩ <;> rfl

/-- What is found was the result. -/
theorem of_run_ifFound_eq_some {p : Operation α} {a : α}
    (h : w.run p.ifFound = (.ok (some a), after)) : w.run p = (.ok a, after) :=
  Program.of_run_ifFound_eq_some h

/-- An operation is run again only after an error that may pass, and in the world that the first
attempt and the pause have left. -/
theorem run_retryOnce (w : World) (p : Operation α) (wait : Operation Unit) :
    w.run (p.retryOnce wait) =
      match w.run p with
      | (.ok a, t) => (.ok a, t)
      | (.error e, t) =>
        if e.isTransient then t.run (wait.bind fun _ => p) else (.error e, t) := by
  rw [run, Program.run_retryOnce, run]
  rcases Program.run handle p w with ⟨_ | _, _⟩ <;> rfl

/-! ### Calls -/

/-- The world in which a call has been received. -/
def logged (w : World) (c : Call) : World := { w with log := w.log ++ [c] }

/-- A reply keeps everything but the state of its action. -/
theorem amended_of_action?_eq_none {reply : c.Reply} (h : c.action? reply = none) :
    amended w c reply = (reply, w) := by
  simp [amended, h]

/-- A script can have an action reported in another state, but it changes nothing that is stored. -/
theorem inventory_amended (w : World) (c : Call) (reply : c.Reply) :
    (amended w c reply).2.inventory = w.inventory := by
  rw [amended]
  split <;> rfl

/-- A script can report another state of the action, but no other load balancer. -/
theorem fst_amended_create (w : World) (options : NewLoadBalancer)
    (reply : (Call.create options).Reply) :
    (amended w (.create options) reply).1.1 = reply.1 := by
  rw [amended]
  split <;> rfl

/-- A call is refused by the script, refused by the cloud, or carried out. -/
theorem perform_cases (w : World) (c : Call) :
    (∃ code rest, takeNamed? c.name w.script.failures = some (code, rest) ∧
        w.perform c = (.error (injected code c.name),
          { w.logged c with script := { w.script with failures := rest } })) ∨
      takeNamed? c.name w.script.failures = none ∧
        ((∃ e, w.inventory.perform c = .error e ∧ w.perform c = (.error e, w.logged c)) ∨
          ∃ reply inv, w.inventory.perform c = .ok (reply, inv) ∧
            w.perform c = (.ok (amended { w.logged c with inventory := inv } c reply).1,
              (amended { w.logged c with inventory := inv } c reply).2)) := by
  cases hf : takeNamed? c.name w.script.failures with
  | some entry =>
    refine .inl ⟨entry.1, entry.2, rfl, ?_⟩
    simp only [perform, hf]
    rfl
  | none =>
    refine .inr ⟨rfl, ?_⟩
    cases hp : w.inventory.perform c with
    | error e => exact .inl ⟨e, rfl, by simp only [perform, hf, hp]; rfl⟩
    | ok result => exact .inr ⟨result.1, result.2, rfl, by simp only [perform, hf, hp]; rfl⟩

/-- In a calm world the cloud alone decides about a call. -/
theorem perform_of_calm (h : w.Calm) (c : Call) :
    w.perform c = match w.inventory.perform c with
      | .error e => (.error e, w.logged c)
      | .ok (reply, inv) => (.ok reply, { w.logged c with inventory := inv }) := by
  obtain ⟨inventory, script, log, clock, pollInterval⟩ := w
  obtain rfl : script = .none := h
  have hnone : ∀ {α : Type}, takeNamed? (α := α) c.name [] = none := rfl
  simp only [perform, Script.none, hnone]
  cases hp : inventory.perform c with
  | error e => rfl
  | ok result =>
    simp only [amended, hnone]
    split
    · rename_i hsome
      cases hsome
    · rfl

/-! ### Waiting -/

/-- Waiting leaves the inventory as it is. -/
theorem inventory_await (w : World) (a : Action) : (w.await a).2.inventory = w.inventory := rfl

/-- Nothing is waited for when an action is done already. -/
theorem await_of_success {a : Action} (h : a.status = .success) : w.await a = (.ok (), w) := by
  have hwatch : ∀ polls, watch a polls = ⟨[.last (.ok ())], []⟩ := by
    intro polls
    unfold watch
    simp [Action.settled?, h]
  obtain ⟨inventory, script, log, clock, pollInterval⟩ := w
  simp only [await, hwatch, outcome, Progress.last, afterPolls, List.map_nil, List.append_nil,
    List.length_nil]
  have hclock : clock + pollInterval.times 0 = clock := by
    simp only [Duration.times, Nat.zero_mul]
    rfl
  rw [hclock]

/-- In a calm world a running action is found finished by the first poll. -/
theorem await_of_running {a : Action} (hw : w.Calm) (h : a.status = .running) :
    (w.await a).1 = .ok () ∧ (w.await a).2.Calm ∧ (w.await a).2.log = w.log ++ [.getAction a.id] := by
  obtain ⟨inventory, script, log, clock, pollInterval⟩ := w
  obtain rfl : script = .none := hw
  have hwatch : watch a [.ok (Inventory.finished a.id "poll")] =
      ⟨[.percent a.progress, .last (.ok ())], [a.id]⟩ := by
    simp [watch, Action.settled?, h, Inventory.finished]
  simp only [await, answers, Script.none, takeNamed?, List.map_nil, List.nil_append, hwatch]
  exact ⟨rfl, rfl, rfl⟩

/-- In a calm world nothing goes wrong later either. -/
theorem Calm.handle (hw : w.Calm) (q : Request) : (World.handle q w).2.Calm := by
  have hcall : ∀ c, (w.perform c).2.Calm := by
    intro c
    rw [perform_of_calm hw]
    split
    · exact hw
    · exact hw
  cases q with
  | call c => exact hcall c
  | callWithin limit c =>
    rw [World.handle]
    split
    · exact hw
    · exact hcall c
  | await a =>
    obtain ⟨inventory, script, log, clock, pollInterval⟩ := w
    obtain rfl : script = .none := hw
    change (afterPolls _ (watch a (answers _ a.id)).polled).script = .none
    generalize (watch a (answers _ a.id)).polled = polled
    cases polled <;> rfl
  | pause d => exact hw

/-! ### What a calm stretch adds to the log -/

/-- A calm stretch of a run makes these changes in this order.  Beyond that it makes lookups only,
and none by identifier. -/
structure Adds (before after : World) (changes : List Call) : Prop where
  calm : after.Calm
  log : ∃ calls, after.log = before.log ++ calls ∧ calls.filter Call.isMutation = changes ∧
    ∀ id, .getById id ∉ calls

namespace Adds

theorem refl (h : w.Calm) : w.Adds w [] :=
  ⟨h, [], by simp⟩

theorem trans (h : w.Adds after changes) (h' : after.Adds last more) :
    w.Adds last (changes ++ more) := by
  obtain ⟨-, calls, hlog, hchanges, hid⟩ := h
  obtain ⟨hcalm, calls', hlog', hmore, hid'⟩ := h'
  refine ⟨hcalm, calls ++ calls', ?_, ?_, ?_⟩
  · rw [hlog', hlog, List.append_assoc]
  · rw [List.filter_append, hchanges, hmore]
  · intro id
    rw [List.mem_append, not_or]
    exact ⟨hid id, hid' id⟩

/-- A stretch that consists of one call. -/
theorem single (hcalm : after.Calm) (hlog : after.log = w.log ++ [c])
    (hid : ∀ id, c ≠ .getById id) :
    w.Adds after (if c.isMutation then [c] else []) := by
  refine ⟨hcalm, [c], hlog, ?_, fun id h => hid id (List.mem_singleton.1 h).symm⟩
  by_cases h : c.isMutation <;> simp [h]

end Adds

/-! ### Lookups -/

/-- The result of an operation that changes nothing: what is expected, or an error where something
went wrong. -/
def Answers (w : World) (x : Except Error α) (result : Except Error α × World) : Prop :=
  result.2.inventory = w.inventory ∧
    (result.1 = x ∨ ¬ w.Calm ∧ ∃ e, result.1 = .error e) ∧ (w.Calm → w.Adds result.2 [])

/-- The script lets a call fail. -/
def refused (w : World) (c : Call) (rest : List (String × ErrorCode)) : World :=
  { w.logged c with script := { w.script with failures := rest } }

/-- A lookup is refused by the script or answered from the inventory. -/
theorem perform_of_lookup {reply : c.Reply} (hp : w.inventory.perform c = .ok (reply, w.inventory))
    (ha : c.action? reply = none) :
    w.perform c = match takeNamed? c.name w.script.failures with
      | some (code, rest) => (.error (injected code c.name), w.refused c rest)
      | none => (.ok reply, w.logged c) := by
  rcases perform_cases w c with ⟨code, rest, hnamed, ht⟩ | ⟨hnamed, ⟨e, he, -⟩ | ⟨r, inv, hr, ht⟩⟩
  · rw [ht, hnamed]
    rfl
  · rw [hp] at he
    cases he
  · rw [hp] at hr
    cases hr
    rw [ht, hnamed, amended_of_action?_eq_none ha]
    rfl

/-- A lookup with a check of its reply, as a part of the named operation. -/
theorem run_lookup {reply : c.Reply} (operation : String) (check : c.Reply → Except Error α)
    (hp : w.inventory.perform c = .ok (reply, w.inventory)) (ha : c.action? reply = none) :
    w.run (((call c).bind fun r => Program.ofExcept (check r)).within operation) =
      match takeNamed? c.name w.script.failures with
      | some (code, rest) => (.error (.within operation (injected code c.name)), w.refused c rest)
      | none => ((check reply).mapError (.within operation), w.logged c) := by
  rw [run_within, run_bind, run_call, perform_of_lookup hp ha]
  cases takeNamed? c.name w.script.failures <;> rfl

theorem takeNamed?_of_calm (h : w.Calm) (name : String) :
    takeNamed? name w.script.failures = none := by
  rw [show w.script = .none from h]
  rfl

/-- A script with an entry for a call is not empty. -/
theorem not_calm_of_takeNamed? {name : String} {entry : ErrorCode × List (String × ErrorCode)}
    (h : takeNamed? name w.script.failures = some entry) : ¬ w.Calm := by
  intro hcalm
  rw [takeNamed?_of_calm hcalm] at h
  cases h

end World

end BalancerSync.Cloud
