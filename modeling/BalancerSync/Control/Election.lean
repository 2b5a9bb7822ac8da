import BalancerSync.Cluster.Request
import BalancerSync.Cluster.World

/-!
# The election

Of several replicas only the one that holds the lease works. It renews the lease while it is up; the
others look at it and take it over once its time is past. Two replicas that take it over at once
cannot both succeed, because the change names the version of the lease that was read.

A replica tries to acquire the lease again and again for as long as it runs: sooner while it does
not lead, later while it does. Whatever error an attempt meets, the replica does not lead after it.

## Main Definitions

* `Control.acquire` : one attempt to acquire or renew the lease
* `Control.renewInterval`, `Control.retryInterval` : the time until the next attempt
* `Control.Attempt` : an attempt and how it ended
* `Control.Election.attempts` : the attempts up to a moment
* `Control.Election.leadsAt` : whether the replica leads at a moment
-/

namespace BalancerSync.Control

open Cluster (Lease Time)

/-! ### Leadership -/

/-- The time between renewals. -/
def renewInterval : Duration := .ofSeconds 10

/-- The time after which a replica without the lease looks again. -/
def retryInterval : Duration := .ofSeconds 5

/-- The result, or something else if the cluster refused with a code. -/
def unlessRefused {α : Type} (code : Nat) (p : Cluster.Operation α)
    (otherwise : Cluster.Operation α) : Cluster.Operation α := do
  match ← p.attempt with
  | .ok a => return a
  | .error (.kube f) => if f.code? = some code then otherwise else .fail (.kube f)
  | .error e => .fail e

/-- Renews the lease, which stays with its holder. -/
def renew («namespace» : String) (now : Time) : Cluster.Operation Bool := do
  Cluster.ask (.patchLease «namespace» (.renew now))
  return true

/-- Takes the lease over from its holder, unless another replica was faster. -/
def takeOver («namespace» identity : String) (now : Time) (lease : Lease) :
    Cluster.Operation Bool :=
  unlessRefused 409
    (do
      Cluster.ask (.patchLease «namespace» (.takeOver lease.resourceVersion identity now))
      return true)
    (return false)

/-- Creates the lease. -/
def createLease («namespace» identity : String) (now : Time) : Cluster.Operation Bool := do
  Cluster.ask (.createLease «namespace» identity now)
  return true

/-- The lease, if there is one. -/
def findLease («namespace» : String) : Cluster.Operation (Option Lease) :=
  unlessRefused 404
    (do return some (← Cluster.ask (.getLease «namespace»)))
    (return none)

/-- One attempt to acquire or renew the lease at the moment `now`. Tells whether the replica
leads. -/
def acquire («namespace» identity : String) (now : Time) : Cluster.Operation Bool := do
  match ← findLease «namespace» with
  | none => createLease «namespace» identity now
  | some lease =>
    if lease.holder = some identity then renew «namespace» now
    else if lease.isExpired now then takeOver «namespace» identity now lease
    else return false

/-- Whether a replica leads after an attempt. -/
def leadsAfter : Except Error Bool → Bool
  | .ok leads => leads
  | .error _ => false

/-- The time until the next attempt. -/
def attemptInterval (leads : Bool) : Duration := if leads then renewInterval else retryInterval

/-! ### The attempts of a replica -/

/-- An attempt at a time and whether the replica leads after it. -/
structure Attempt where
  time : Duration
  leads : Bool
  deriving DecidableEq, Repr

namespace Election

/-- The attempts from a time up to a moment, and the cluster after them. Times count from `start`.
The number of attempts is bounded. -/
def attempts (text : Cluster.Time → String) («namespace» identity : String)
    (start : Cluster.Time) (stop : Duration) :
    Nat → Duration → Cluster.World → List Attempt × Cluster.World
  | 0, _, w => ([], w)
  | steps + 1, time, w =>
    if time.nanos < stop.nanos then
      let now := start.add time
      let (outcome, w) :=
        (acquire «namespace» identity now).run (Cluster.World.handle text) { w with now := now }
      let leads := leadsAfter outcome
      let (rest, w) :=
        attempts text «namespace» identity start stop steps (time + attemptInterval leads) w
      (⟨time, leads⟩ :: rest, w)
    else ([], w)

/-- Whether the replica leads at a moment: as the last attempt before it left things, or as it was
at first. -/
def leadsAt (atFirst : Bool) (attempts : List Attempt) (moment : Duration) : Bool :=
  attempts.foldl (fun leads a => if a.time.nanos ≤ moment.nanos then a.leads else leads) atFirst

/-- A bound on the number of attempts up to a moment. -/
def attemptBound (stop : Duration) : Nat := stop.wholeSeconds + 1

end Election

end BalancerSync.Control
