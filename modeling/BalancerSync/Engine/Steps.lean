import BalancerSync.Cloud.Change
import BalancerSync.Desired.Ports
import BalancerSync.Desired.Targets
import BalancerSync.Engine.Identity

/-!
# The steps of a pass

A pass compares a load balancer with what its Service wants, one aspect after the other, and makes
the calls that remove the difference. Each call is waited for before the next. The comparison is
always with the load balancer as it was at the start of the pass.

For most aspects the calls are known in advance: they are a list that depends on the load balancer
and the wishes only. Ports are different, because the wishes for a port can take lookups.

## Main Definitions

* `Engine.infoCalls`, `Engine.detachCalls`, … : the calls for each aspect
* `Engine.carryOut` : making calls one after the other
* `Engine.reconcileInfo`, …, `Engine.reconcileServices` : the steps; each tells whether it changed
  anything
* `Engine.reconcile` : all steps in their order
-/

namespace BalancerSync.Engine

open Cloud (Call LoadBalancer Operation)
open Cluster (Service ServicePort Node)
open Desired (Balancer)

/-- Makes calls one after the other, each waited for. Tells whether there was any. -/
def carryOut : List Call → Operation Bool
  | [] => pure false
  | c :: cs => do
    Cloud.callAndAwait c
    let _ ← carryOut cs
    return true

/-! ### Identity and name -/

/-- The change that gives a load balancer the identity label and the name that is set. -/
def infoChange (lb : LoadBalancer) (uid : String) (name : Option String) :
    Cloud.LoadBalancerChange where
  name := (name.filter (· ≠ "")).filter (· ≠ lb.name)
  labels :=
    if lb.labels.get? Desired.uidLabel = some uid then none
    else some (lb.labels.insert Desired.uidLabel uid)

def infoCalls (lb : LoadBalancer) (uid : String) (name : Option String) : List Call :=
  let change := infoChange lb uid name
  if change = ⟨none, none⟩ then [] else [.update lb.id change]

/-- Identity label and name, in one call. -/
def reconcileInfo (lb : LoadBalancer) (service : Service) : Operation Bool :=
  Program.within "lb_ops::reconcile_info" do
    let uid ← Program.ofExcept (uid service)
    let name ← Program.ofExcept (Setting.name.text service)
    carryOut (infoCalls lb uid name)

/-! ### Algorithm and type -/

def algorithmCalls (lb : LoadBalancer) (wishes : Balancer) : List Call :=
  match wishes.algorithm with
  | none => []
  | some a => if a = lb.algorithm then [] else [.changeAlgorithm lb.id a]

def reconcileAlgorithm (lb : LoadBalancer) (wishes : Balancer) : Operation Bool :=
  Program.within "lb_ops::reconcile_algorithm" (carryOut (algorithmCalls lb wishes))

def typeCalls (lb : LoadBalancer) (wishes : Balancer) : List Call :=
  match wishes.type with
  | none => []
  | some t => if t = lb.type then [] else [.changeType lb.id t]

def reconcileType (lb : LoadBalancer) (wishes : Balancer) : Operation Bool :=
  Program.within "lb_ops::reconcile_type" (carryOut (typeCalls lb wishes))

/-! ### Networks -/

/-- A detachment for each attachment to another network than the configured one. -/
def detachCalls (engine : Engine) (lb : LoadBalancer) : List Call :=
  (lb.attachments.filter fun a => some a.networkId ≠ engine.network).map fun a =>
    .detachFromNetwork lb.id a.networkId

def reconcileNetworkDetach (engine : Engine) (lb : LoadBalancer) : Operation Bool :=
  Program.within "lb_ops::reconcile_network_detach" (carryOut (detachCalls engine lb))

/-- The network that a load balancer has to be attached to yet. -/
def missingNetwork (engine : Engine) (lb : LoadBalancer) : Option Int :=
  engine.network.filter fun n => !lb.isAttachedTo n

/-- Attaches the configured network; a load balancer that is busy is tried once more. -/
def reconcileNetworkAttach (engine : Engine) (lb : LoadBalancer) (wishes : Balancer) :
    Operation Bool :=
  Program.within "lb_ops::reconcile_network_attach" do
    match missingNetwork engine lb with
    | none => return false
    | some network =>
      let attach := Cloud.call (.attachToNetwork lb.id network wishes.privateIpv4)
      let action ← attach.retryOnce (Cloud.pause engine.retryDelay)
      Cloud.awaitAction action
      return true

/-- The call that switches the public interface, if a wish says so. -/
def publicInterfaceCalls (lb : LoadBalancer) (wishes : Balancer) : List Call :=
  match wishes.publicInterface with
  | none => []
  | some want =>
    if want = lb.publicInterface.enabled then []
    else if want then [.enablePublicInterface lb.id]
    else [.disablePublicInterface lb.id]

def reconcilePublicInterface (lb : LoadBalancer) (wishes : Balancer) : Operation Bool :=
  Program.within "lb_ops::reconcile_public_interface" (carryOut (publicInterfaceCalls lb wishes))

/-! ### Targets -/

/-- Whether a target can stay: its server is wanted and reached by the right address. -/
def isInPlace (desired : List Int) (usePrivateIp : Bool) (t : Cloud.Target) : Bool :=
  desired.contains t.serverId && t.usePrivateIp == usePrivateIp

/-- Removals of the targets that cannot stay, then additions of the servers that are missing. A
target with the wrong address is removed and added, since the cloud cannot change it in place. -/
def targetCalls (lb : LoadBalancer) (desired : List Int) (usePrivateIp : Bool) : List Call :=
  let stay := lb.targets.filter (isInPlace desired usePrivateIp)
  let leave := lb.targets.filter fun t => !isInPlace desired usePrivateIp t
  let missing := desired.filter fun id => !stay.any fun t => t.serverId == id
  (leave.map fun t => .removeTarget lb.id t.serverId) ++
    missing.map fun id => .addTarget lb.id id usePrivateIp

/-- The servers that a load balancer is to have. Private addresses take a network. -/
def desiredTargets (engine : Engine) (wishes : Balancer) (nodes : List Node) :
    Except Error (List Int) :=
  if wishes.usePrivateIp && engine.network.isNone then
    .error (.config (Setting.usePrivateIp.key ++ " requires a configured network"))
  else Desired.serverIds nodes wishes.nodeSelector

def reconcileTargets (engine : Engine) (lb : LoadBalancer) (wishes : Balancer)
    (nodes : List Node) : Operation Bool :=
  Program.within "lb_ops::reconcile_targets" do
    let desired ← Program.ofExcept (desiredTargets engine wishes nodes)
    carryOut (targetCalls lb desired wishes.usePrivateIp)

/-! ### Backend services -/

/-- The calls that give a listen port what is wanted: a change if there is a service that differs,
an addition if there is none. -/
def portCalls (lb : LoadBalancer) (reader : Desired.PortReader) : Operation (List Call) :=
  match lb.service? reader.listenPort with
  | some current => do
    let (outcome, _) ← reader.change
    let change ← Program.ofExcept outcome
    return if change.differs current then [.updateService lb.id reader.listenPort change] else []
  | none => do
    let (outcome, _) ← reader.newService
    let options ← Program.ofExcept outcome
    return [.addService lb.id options]

/-- Gives the listen ports what is wanted, in their order. A port number that was met before is
passed over. The result tells whether anything changed, and lists the port numbers met. -/
def reconcilePorts (lb : LoadBalancer) (service : Service) (met : List Nat) :
    List ServicePort → Operation (Bool × List Nat)
  | [] => pure (false, met)
  | port :: ports => do
    let reader ← Program.ofExcept (Desired.PortReader.ofPort service port)
    if met.contains reader.listenPort then
      reconcilePorts lb service met ports
    else
      let changed ← carryOut (← portCalls lb reader)
      let (others, met) ← reconcilePorts lb service (met ++ [reader.listenPort]) ports
      return (changed || others, met)

/-- A deletion for each service on a port that is not wanted. -/
def surplusCalls (lb : LoadBalancer) (wanted : List Nat) : List Call :=
  (lb.services.filter fun s => !wanted.contains s.listenPort).map fun s =>
    .deleteService lb.id s.listenPort

/-- Makes the backend services those of the Service's ports. -/
def reconcileServices (lb : LoadBalancer) (service : Service) : Operation Bool :=
  Program.within "lb_ops::reconcile_services" do
    let (changed, wanted) ← reconcilePorts lb service [] service.ports
    let deleted ← carryOut (surplusCalls lb wanted)
    return changed || deleted

/-! ### All steps -/

/-- The steps of a pass in their order. -/
def steps (engine : Engine) (lb : LoadBalancer) (service : Service) (wishes : Balancer)
    (nodes : List Node) : List (Operation Bool) :=
  [reconcileInfo lb service,
    reconcileAlgorithm lb wishes,
    reconcileType lb wishes,
    reconcileNetworkDetach engine lb,
    reconcileNetworkAttach engine lb wishes,
    reconcilePublicInterface lb wishes,
    reconcileTargets engine lb wishes nodes,
    reconcileServices lb service]

/-- Takes steps one after the other. Tells whether any changed anything. -/
def takeSteps : List (Operation Bool) → Operation Bool
  | [] => pure false
  | step :: rest => do
    let changed ← step
    let others ← takeSteps rest
    return changed || others

/-- Takes all steps. Tells whether any changed anything. -/
def reconcile (engine : Engine) (lb : LoadBalancer) (service : Service) (wishes : Balancer)
    (nodes : List Node) : Operation Bool :=
  takeSteps (steps engine lb service wishes nodes)

end BalancerSync.Engine
