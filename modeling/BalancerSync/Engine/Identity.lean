import BalancerSync.Cloud.Request
import BalancerSync.Desired.Balancer
import BalancerSync.Program

/-!
# Identity

Which load balancer belongs to a Service. It carries the identity of the Service in a label; a load
balancer without it is taken over if it has the right name.

## Main Definitions

* `Engine` : what is the same for all Services
* `Engine.byUid`, `Engine.byName`, `Engine.byId` : one load balancer, or an error if there is none
* `Engine.find` : the load balancer of a Service
-/

namespace BalancerSync

/-- What is the same for all Services. -/
structure Engine where
  /-- The private network that every load balancer is attached to. -/
  network : Option Int
  defaults : Config.Defaults
  /-- The time before a load balancer that was busy is attached again. -/
  retryDelay : Duration
  deriving DecidableEq, Repr

namespace Engine

/-- The identity of a Service. -/
def uid (service : Cluster.Service) : Except Error String :=
  match service.metadata.uid with
  | some uid => .ok uid
  | none => .error (.validation ("service " ++ service.anyName ++ " has no UID"))

/-- The label of the load balancer of a Service, as it is written. -/
def uidSelector (uid : String) : String := Desired.uidLabel ++ "=" ++ uid

/-- The only one of some load balancers. -/
def single (selector : String) : List Cloud.LoadBalancer → Except Error Cloud.LoadBalancer
  | [lb] => .ok lb
  | [] => .error (.notFound ("load balancer with label " ++ selector))
  | lbs =>
    .error (.nonUnique (toString lbs.length ++ " load balancers with label " ++ selector))

/-- The load balancer that was looked for, described by `what`. -/
def present (what : String) : Option Cloud.LoadBalancer → Except Error Cloud.LoadBalancer
  | some lb => .ok lb
  | none => .error (.notFound ("load balancer " ++ what))

/-- The load balancer that carries the identity of a Service. -/
def byUid (service : Cluster.Service) : Cloud.Operation Cloud.LoadBalancer :=
  Program.within "lb_ops::get_by_k8s_service_uid" do
    let uid ← Program.ofExcept (uid service)
    let found ← Cloud.call (.listByLabel (uidSelector uid))
    Program.ofExcept (single (uidSelector uid) found)

/-- The load balancer with a name. -/
def byName (name : String) : Cloud.Operation Cloud.LoadBalancer :=
  Program.within "lb_ops::get_by_name" do
    Program.ofExcept (present name (← Cloud.call (.getByName name)))

/-- The load balancer with an identifier. -/
def byId (id : Int) : Cloud.Operation Cloud.LoadBalancer :=
  Program.within "lb_ops::get_by_id" do
    Program.ofExcept (present (toString id) (← Cloud.call (.getById id)))

/-- The load balancer of a Service: the one that carries its identity, or else the one with the
name. -/
def find (service : Cluster.Service) (name : String) : Cloud.Operation Cloud.LoadBalancer := do
  match ← (byUid service).ifFound with
  | some lb => return lb
  | none => byName name

end Engine

end BalancerSync
