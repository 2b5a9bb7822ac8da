import BalancerSync.Error

/-!
# Actions

A change to a load balancer takes time. The cloud answers with an action, which is polled until it
is no longer running.

Waiting is described on the list of answers that the polls will get. The items of `watch` are what
an observer sees: the progress of each running action, then one last item.

## Main Definitions

* `Cloud.Action` : a change under way
* `Cloud.Action.settled?` : the outcome of an action that is no longer running
* `Cloud.watch` : the items that an observer sees, and the actions polled
* `Cloud.await` : the outcome alone
-/

namespace BalancerSync.Cloud

inductive ActionStatus where
  | running
  | success
  | error
  deriving DecidableEq, Repr, Inhabited

/-- Why the cloud gave up on an action. -/
structure ActionError where
  code : String
  message : String
  deriving DecidableEq, Repr

/-- A change under way. -/
structure Action where
  id : Int
  command : String
  status : ActionStatus
  /-- How much is done, in percent. -/
  progress : Nat
  error : Option ActionError
  deriving DecidableEq, Repr

namespace Action

/-- The error of an action that the cloud gave up on. -/
def failure (a : Action) : Error :=
  match a.error with
  | some e => .actionFailed a.id e.code e.message
  | none => .actionFailed a.id "unknown" "action failed"

/-- The outcome of an action that is no longer running. -/
def settled? (a : Action) : Option (Except Error Unit) :=
  match a.status with
  | .running => none
  | .success => some (.ok ())
  | .error => some (.error a.failure)

end Action

/-- What an observer of a change sees. -/
inductive Progress where
  | percent (n : Nat)
  | failed (e : Error)
  deriving DecidableEq, Repr

/-- The items seen while waiting, and the identifiers polled. -/
structure Watch where
  items : List Progress
  polled : List Int
  deriving DecidableEq, Repr

/-- The last item for an outcome. -/
def Progress.last : Except Error Unit → Progress
  | .ok () => .percent 100
  | .error e => .failed e

/-- What an observer of an action sees when the polls are answered by `polls` and, once these are
used up, by the error of a missing action. Each poll asks for the action before it. -/
def watch (a : Action) (polls : List (Except Error Action)) : Watch :=
  match a.settled? with
  | some outcome => ⟨[.last outcome], []⟩
  | none =>
    match polls with
    | [] => ⟨[.percent a.progress, .failed (.notFound ("action " ++ toString a.id))], [a.id]⟩
    | .error e :: _ => ⟨[.percent a.progress, .failed e], [a.id]⟩
    | .ok next :: rest =>
      let w := watch next rest
      ⟨.percent a.progress :: w.items, a.id :: w.polled⟩

/-- The outcome of waiting: that of the items seen. -/
def outcome : List Progress → Except Error Unit
  | [] => .ok ()
  | .percent _ :: rest => outcome rest
  | .failed e :: _ => .error e

/-- The outcome of waiting for an action. -/
def await (a : Action) (polls : List (Except Error Action)) : Except Error Unit :=
  outcome (watch a polls).items

end BalancerSync.Cloud
