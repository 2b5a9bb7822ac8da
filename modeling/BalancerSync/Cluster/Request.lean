import BalancerSync.Cluster.Object
import BalancerSync.Cluster.Time
import BalancerSync.Program

/-!
# Asking the cluster

The requests that the controller makes of the cluster. Some are about Services and nodes. The others
are about the lease, an object that names its holder and the time until which it holds, by which the
replicas of the controller agree on one leader.

## Main Definitions

* `Cluster.Lease`, `Cluster.Lease.isExpired` : the lease as it is stored, and whether it can be
  taken
  over
* `Cluster.LeaseChange` : a conditional or unconditional change to it
* `Cluster.Event` : a note about a Service for people to read
* `Cluster.ServicePatch` : a change to the finalizers of a Service
* `Cluster.Request`, `Cluster.effect` : the requests and their replies
-/

namespace BalancerSync.Cluster

/-! ### The lease -/

/-- Who holds the lease, and for how long. -/
structure LeaseSpec where
  holder : Option String
  /-- The seconds for which the lease holds after it was renewed. -/
  durationSeconds : Option Int
  renewTime : Option Time
  deriving DecidableEq, Repr

/-- The lease as it is stored. -/
structure Lease where
  resourceVersion : Option String
  spec : Option LeaseSpec
  deriving DecidableEq, Repr

namespace Lease

/-- The name of the lease. -/
def name : String := "hcloud-lb-controller-leader"

/-- The seconds for which the lease holds unless it says otherwise. -/
def defaultSeconds : Int := 15

/-- Who holds the lease. -/
def holder (l : Lease) : Option String := l.spec.bind (·.holder)

/-- Whether the lease can be taken over: its time is past, or it was never renewed. -/
def isExpired (l : Lease) (now : Time) : Bool :=
  match l.spec with
  | none => true
  | some spec =>
    match spec.renewTime with
    | none => true
    | some renewed =>
      decide ((renewed.addSeconds (spec.durationSeconds.getD defaultSeconds)).nanos < now.nanos)

end Lease

/-- A change to the lease. -/
inductive LeaseChange where
  /-- The holder stays and the lease is renewed. -/
  | renew (now : Time)
  /-- The lease passes to another holder, provided it is still the version that was read. -/
  | takeOver (resourceVersion : Option String) (holder : String) (now : Time)
  deriving DecidableEq, Repr

/-! ### Requests -/

/-- A note about a Service for people to read. -/
structure Event where
  about : Metadata
  type : String
  reason : String
  message : String
  deriving DecidableEq, Repr

/-- A change to the finalizers of a Service. Each names what it expects to find, and fails if the
Service has changed in the meantime. -/
inductive ServicePatch where
  /-- Adds the finalizer to these, which are all there are. -/
  | addFinalizer (others : List String)
  /-- Removes the finalizer, which is at this position. -/
  | removeFinalizer (index : Nat)
  /-- Leaves these finalizers on this version of the Service. -/
  | keepFinalizers (resourceVersion : Option String) (finalizers : List String)
  deriving DecidableEq, Repr

/-- A request to the cluster. -/
inductive Request where
  | listNodes
  | postEvent (e : Event)
  | patchService («namespace» name : String) (patch : ServicePatch)
  /-- Publishes the addresses of a Service, or clears them. -/
  | patchIngress («namespace» name : String) (ingress : Option (List Ingress))
  | getLease («namespace» : String)
  | patchLease («namespace» : String) (change : LeaseChange)
  | createLease («namespace» holder : String) (now : Time)
  deriving DecidableEq, Repr

/-- The requests with their replies. -/
@[reducible] def effect : Effect where
  Request := Request
  Reply := fun
    | .listNodes => List Node
    | .getLease _ => Lease
    | .postEvent _ | .patchService _ _ _ | .patchIngress _ _ _ | .patchLease _ _
    | .createLease _ _ _ => Unit

/-- A program of requests to the cluster. -/
abbrev Operation (α : Type) : Type := Program effect α

/-- A request as a program. -/
def ask (q : Request) : Operation (effect.Reply q) := Program.ask q .done

end BalancerSync.Cluster
