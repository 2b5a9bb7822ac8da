import BalancerSync.Cluster.Request
import BalancerSync.Engine.Operations

/-!
# Reconciling a Service

One pass over a Service: it makes sure that the Service has its load balancer and publishes the
addresses, or, when the Service goes away or is no longer of the type that asks for one, deletes the
load balancer. A finalizer on the Service keeps it until its load balancer is gone.

## Main Definitions

* `Control.Next` : when to look at a Service again
* `Control.retryDelay` : the same after an error
* `Control.Helper`, `Control.withFinalizer` : the order in which finalizer and load balancer come
  and
  go
* `Control.applyBalancer`, `Control.cleanUpBalancer` : the work on the load balancer
* `Control.reconcile` : a pass
-/

namespace BalancerSync.Control

open Cluster (Service)

/-- The requests of a pass: to the cloud and to the cluster. -/
@[reducible] def effect : Effect := Cloud.effect.sum Cluster.effect

abbrev Operation (α : Type) : Type := Program effect α

/-- A program for the cloud as a part of a pass. -/
def onCloud {α : Type} (p : Cloud.Operation α) : Operation α := p.left

/-- A request to the cluster as a part of a pass. -/
def onCluster (q : Cluster.Request) : Operation (Cluster.effect.Reply q) := (Cluster.ask q).right

/-- When to look at a Service again. -/
inductive Next where
  | after (d : Duration)
  /-- When it changes. -/
  | onChange
  deriving DecidableEq, Repr

/-- The time after which a Service is looked at again although nothing happened. -/
def resyncInterval : Duration := .ofSeconds 300

/-- The time after which a replica that does not lead looks again. -/
def standbyInterval : Duration := .ofSeconds 15

/-- The time after which a pass is repeated that ended with an error. -/
def retryDelay (e : Error) : Duration := if e.isRetriable then .ofSeconds 15 else .ofSeconds 60

/-! ### Requests -/

/-- Posts an event about a Service. That it cannot be posted stops nothing. -/
def note (service : Service) (type reason message : String) : Operation Unit := do
  let _ ← (onCluster (.postEvent ⟨service.metadata, type, reason, message⟩)).attempt
  return ()

/-- Publishes the addresses of a Service, or clears them. -/
def publish (service : Service) (ingress : Option (List Cluster.Ingress)) : Operation Unit :=
  onCluster (.patchIngress service.anyNamespace service.anyName ingress)

/-- Takes the finalizer off a Service, provided it is still the version that was seen. -/
def releaseService (service : Service) : Operation Unit :=
  let others := service.metadata.finalizers.filter (· ≠ Service.finalizer)
  onCluster (.patchService service.anyNamespace service.anyName
    (.keepFinalizers service.metadata.resourceVersion others))

/-! ### The load balancer -/

/-- Notes an error and ends with it. -/
def noteFailure {α : Type} (service : Service) (what : String) (e : Error) : Operation α := do
  note service "Warning" "SyncLoadBalancerFailed"
    ("Error " ++ what ++ " load balancer: " ++ e.message)
  .fail e

/-- Ensures the load balancer of a Service and publishes its addresses. -/
def applyBalancer (engine : Engine) (service : Service) : Operation Next := do
  if service.ingress.isEmpty then
    note service "Normal" "EnsuringLoadBalancer" "Ensuring load balancer"
  let nodes ← onCluster .listNodes
  match ← (onCloud (engine.ensure service nodes)).attempt with
  | .error e => noteFailure service "syncing" e
  | .ok ingress =>
    if ingress ≠ service.ingress then
      publish service (some ingress)
      note service "Normal" "EnsuredLoadBalancer" "Ensured load balancer"
    return .after resyncInterval

/-- Deletes the load balancer of a Service and clears its addresses. A Service that is being deleted
has no status left to clear. -/
def cleanUpBalancer (engine : Engine) (service : Service) : Operation Next := do
  note service "Normal" "DeletingLoadBalancer" "Deleting load balancer"
  match ← (onCloud (engine.ensureDeleted service)).attempt with
  | .error e => noteFailure service "deleting" e
  | .ok () =>
    if !service.metadata.isDeleting && !service.ingress.isEmpty then
      publish service none
    note service "Normal" "DeletedLoadBalancer" "Deleted load balancer"
    return .onChange

/-! ### The finalizer -/

/-- The name of a Service, which a change to its finalizers needs. -/
def requireName (service : Service) : Operation String :=
  match service.metadata.name with
  | some name => pure name
  | none => .fail (.finalizer "object has no name")

/-- A change to the finalizers; its error tells which it was. -/
def patchFinalizers (service : Service) (name : String) (patch : Cluster.ServicePatch)
    (complaint : String) : Operation Unit :=
  (onCluster (.patchService service.anyNamespace name patch)).mapError fun
    | .kube f => .finalizer (complaint ++ ": " ++ f.message)
    | e => e

/-- What makes a pass of the work on the load balancer of a Service that is wanted and of the work
on that of a Service that goes away. -/
abbrev Helper : Type := (service : Service) → (onApply onCleanUp : Operation Next) → Operation Next

/-- The order in which finalizer and load balancer come and go. The load balancer is worked on only
while the finalizer is on the Service: it is added in a pass of its own, and removed only after the
load balancer has been cleaned up.

This is the helper that comes with the client of the cluster, in the requests it makes and in the
wording of its errors. That the finalizer guards the load balancer does not hang on these details:
any helper does that is careful with the finalizer (`Careful`). -/
def withFinalizer (service : Service) (onApply onCleanUp : Operation Next) : Operation Next :=
  let finalizers := service.metadata.finalizers
  match finalizers.idxOf? Service.finalizer, service.metadata.isDeleting with
  | some _, false => onApply
  | some index, true => do
    let name ← requireName service
    let next ← onCleanUp
    patchFinalizers service name (.removeFinalizer index) "failed to remove finalizer"
    return next
  | none, false => do
    let name ← requireName service
    patchFinalizers service name (.addFinalizer finalizers) "failed to add finalizer"
    return .onChange
  | none, true => return .onChange

/-! ### A pass -/

/-- A pass over a Service, in which a helper looks after the finalizer of a Service that asks for a
load balancer. A replica that does not lead does nothing. -/
def reconcileWith (helper : Helper) (engine : Engine) (isLeader : Bool) (service : Service) :
    Operation Next :=
  if !isLeader then return .after standbyInterval
  else if service.isLoadBalancer then
    helper service (applyBalancer engine service) (cleanUpBalancer engine service)
  else if service.hasFinalizer then do
    let _ ← cleanUpBalancer engine service
    releaseService service
    return .onChange
  else return .onChange

/-- A pass over a Service. -/
def reconcile (engine : Engine) (isLeader : Bool) (service : Service) : Operation Next :=
  reconcileWith withFinalizer engine isLeader service

/-- When to look at a Service again after a pass. -/
def nextAfter : Except Error Next → Next
  | .ok next => next
  | .error e => .after (retryDelay e)

end BalancerSync.Control
