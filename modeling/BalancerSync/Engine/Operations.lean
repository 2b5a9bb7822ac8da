import BalancerSync.Cloud.LoadBalancer
import BalancerSync.Desired.Balancer
import BalancerSync.Engine.Steps

/-!
# Operations for a Service

What the control loop asks for, once per Service and pass. The steps of an operation run one after
the other; a step that fails ends the operation and leaves the earlier ones done, and the next pass
goes on from there. An operation that ends well tells the addresses at which the Service is reached.

## Main Definitions

* `Engine.ingress` : the addresses to publish
* `Engine.ensure` : creates the load balancer of a Service or brings it up to date
* `Engine.update` : brings it up to date if there is one
* `Engine.ensureDeleted` : deletes it unless it is protected
* `Engine.status` : its addresses, and whether there is one
-/

namespace BalancerSync.Engine

open Cloud (LoadBalancer Operation)
open Cluster (Service Node)
open Desired (Balancer)

/-! ### Ingress -/

/-- The public addresses of a load balancer. -/
def publicAddresses (lb : Cloud.LoadBalancer) (wishes : Desired.Balancer) : List String :=
  let p := lb.publicInterface
  if p.enabled then
    (p.ipv4.map Net.IPv4.text).toList ++
      (if wishes.disableIpv6 then [] else (p.ipv6.map Net.IPv6.text).toList)
  else []

/-- The addresses of a load balancer in its private networks. -/
def privateAddresses (lb : Cloud.LoadBalancer) (wishes : Desired.Balancer) : List String :=
  if wishes.disablePrivateIngress then [] else lb.attachments.map fun a => a.ip.text

/-- The addresses to publish. A host name that is set takes the place of all IP addresses. -/
def ingress (lb : Cloud.LoadBalancer) (wishes : Desired.Balancer) : List Cluster.Ingress :=
  match wishes.hostname with
  | some hostname => [.ofHostname hostname]
  | none => (publicAddresses lb wishes ++ privateAddresses lb wishes).map .ofIp

/-! ### Operations -/

/-- Creates the load balancer of a Service. A private address that is asked for can only be given by
attaching the network later. -/
def create (engine : Engine) (service : Service) (wishes : Balancer) : Operation LoadBalancer :=
  Program.within "lb_ops::create" do
    let uid ← Program.ofExcept (uid service)
    let network := engine.network.filter fun _ => wishes.privateIpv4.isNone
    let options ← Program.ofExcept (wishes.creation uid network)
    let (lb, action) ← Cloud.call (.create options)
    Cloud.awaitAction action
    return lb

/-- Takes all steps, and looks at the load balancer again if any changed anything. -/
def converge (engine : Engine) (lb : LoadBalancer) (service : Service) (wishes : Balancer)
    (nodes : List Node) : Operation LoadBalancer := do
  if ← reconcile engine lb service wishes nodes then byId lb.id else return lb

/-- The name of the load balancer of a Service. -/
def balancerName (engine : Engine) (service : Service) : Except Error String :=
  (Desired.name service engine.defaults).mapError
    (.within "load_balancers::get_load_balancer_name")

/-- The wishes of a Service. -/
def wishes (engine : Engine) (service : Service) : Except Error Balancer :=
  Balancer.ofService service engine.defaults

/-- Creates the load balancer of a Service or brings it up to date. Answers its addresses. -/
def ensure (engine : Engine) (service : Service) (nodes : List Node) :
    Operation (List Cluster.Ingress) :=
  Program.within "load_balancers::ensure" do
    let wishes ← Program.ofExcept (wishes engine service)
    let lb ← match ← (find service wishes.name).ifFound with
      | some lb => pure lb
      | none => create engine service wishes
    let lb ← converge engine lb service wishes nodes
    return ingress lb wishes

/-- Brings the load balancer of a Service up to date; without one there is nothing to do. -/
def update (engine : Engine) (service : Service) (nodes : List Node) : Operation Unit :=
  Program.within "load_balancers::update" do
    let wishes ← Program.ofExcept (wishes engine service)
    match ← (find service wishes.name).ifFound with
    | none => return ()
    | some lb =>
      let _ ← converge engine lb service wishes nodes
      return ()

/-- Deletes the load balancer of a Service unless it is protected. One that is gone is fine. -/
def ensureDeleted (engine : Engine) (service : Service) : Operation Unit :=
  Program.within "load_balancers::ensure_deleted" do
    let name ← Program.ofExcept (balancerName engine service)
    match ← (find service name).ifFound with
    | none => return ()
    | some lb =>
      if lb.deleteProtection then return ()
      else
        let _ ← (Cloud.call (.delete lb.id)).ifFound
        return ()

/-- The addresses of the load balancer of a Service, and whether there is one. -/
def status (engine : Engine) (service : Service) : Operation (List Cluster.Ingress × Bool) :=
  Program.within "load_balancers::get_status" do
    let wishes ← Program.ofExcept (wishes engine service)
    match ← (find service wishes.name).ifFound with
    | some lb => return (ingress lb wishes, true)
    | none => return ([], false)

end BalancerSync.Engine
