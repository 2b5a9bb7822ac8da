import BalancerSync.Cloud.Call
import BalancerSync.Cloud.Change
import BalancerSync.Text.Lines

/-!
# The inventory of a cloud

A cloud that keeps its resources in memory. Every call is an ordinary function from one inventory to
the next; a call that is refused leaves the inventory as it is.

Identifiers count upwards, and load balancers share them with actions. A new load balancer gets
public addresses derived from its identifier.

## Main Definitions

* `Cloud.Inventory` : the resources of a cloud
* `Cloud.Inventory.perform` : the reply to a call and the inventory after it
* `Cloud.Inventory.WellFormed` : what every call keeps
-/

namespace BalancerSync.Cloud

/-- The resources of a cloud. The load balancers are in ascending order of their identifiers. -/
structure Inventory where
  loadBalancers : List LoadBalancer
  certificates : List Certificate
  networks : List Network
  /-- The last identifier given away. Identifiers are signed numbers of 64 bits, and a cloud has
  given away so few of them that the next ones stay below `2 ^ 63`: the count is not bounded
  here. -/
  lastId : Int
  deriving DecidableEq, Repr

namespace Inventory

def empty : Inventory := ⟨[], [], [], 0⟩

instance : Inhabited Inventory := ⟨empty⟩

/-- The load balancer with an identifier. -/
def find? (inv : Inventory) (id : Int) : Option LoadBalancer :=
  inv.loadBalancers.find? fun lb => lb.id == id

/-- The list with a load balancer at its place in the order, instead of one with its identifier. -/
def place (lb : LoadBalancer) : List LoadBalancer → List LoadBalancer
  | [] => [lb]
  | x :: rest =>
    if lb.id < x.id then lb :: x :: rest
    else if lb.id = x.id then lb :: rest
    else x :: place lb rest

/-- The inventory with a load balancer added under its own identifier. -/
def insert (inv : Inventory) (lb : LoadBalancer) : Inventory :=
  { inv with loadBalancers := place lb inv.loadBalancers, lastId := max inv.lastId lb.id }

/-- The inventory with `f` applied to the load balancer with an identifier. -/
def modify (inv : Inventory) (id : Int) (f : LoadBalancer → LoadBalancer) : Inventory :=
  { inv with
    loadBalancers := inv.loadBalancers.map fun lb => if lb.id = id then f lb else lb }

/-- The inventory without the load balancer with an identifier. -/
def remove (inv : Inventory) (id : Int) : Inventory :=
  { inv with loadBalancers := inv.loadBalancers.filter fun lb => lb.id ≠ id }

/-- What every call keeps: identifiers are ascending and have been given away, and a load balancer
has each server and each listen port once. -/
structure WellFormed (inv : Inventory) : Prop where
  ascending : inv.loadBalancers.Pairwise fun a b => a.id < b.id
  known : ∀ lb ∈ inv.loadBalancers, 1 ≤ lb.id ∧ lb.id ≤ inv.lastId
  targets : ∀ lb ∈ inv.loadBalancers, (lb.targets.map (·.serverId)).Nodup
  listenPorts : ∀ lb ∈ inv.loadBalancers, (lb.services.map (·.listenPort)).Nodup

/-! ### Addresses -/

/-- The last octet of addresses derived from an identifier. -/
def hostOctet (id : Int) : UInt8 := UInt8.ofInt (id.tmod 250)

/-- The address in a private network when none is asked for. -/
def privateAddress (id : Int) : Net.IPv4 := ⟨10, 0, 0, hostOctet id + 2⟩

/-- The public IPv4 address of a new load balancer. -/
def publicAddress (id : Int) : Net.IPv4 := ⟨203, 0, 113, hostOctet id⟩

/-- The public IPv6 address of a new load balancer. -/
def publicAddress6 (id : Int) : Net.IPv6 :=
  ⟨#v[0x2001, 0xdb8, 0, 0, 0, 0, 0, UInt16.ofInt id]⟩

/-! ### Calls -/

/-- The load balancer that creating makes under an identifier. -/
def created (id : Int) (o : NewLoadBalancer) : LoadBalancer where
  id := id
  name := o.name
  labels := o.labels
  algorithm := o.algorithm
  type := o.type
  location := o.location.getD ""
  networkZone := o.networkZone.getD "eu-central"
  publicInterface := ⟨o.publicInterface, some (publicAddress id), some (publicAddress6 id)⟩
  attachments := match o.network with
    | none => []
    | some network => [⟨network, privateAddress id⟩]
  services := []
  targets := []
  deleteProtection := false

/-- A change that has been carried out. -/
def finished (id : Int) (command : String) : Action := ⟨id, command, .success, 100, none⟩

def refusal (code text : String) : Error := .cloudApi (.ofText code) text

def noLoadBalancer (id : Int) : Error :=
  refusal "not_found" ("load balancer " ++ toString id ++ " not found")

/-- A change to one load balancer that is carried out at once under the next identifier. The change
can refuse. -/
def act (inv : Inventory) (id : Int) (command : String)
    (f : LoadBalancer → Except Error LoadBalancer) : Except Error (Action × Inventory) :=
  match inv.find? id with
  | none => .error (noLoadBalancer id)
  | some lb =>
    match f lb with
    | .error e => .error e
    | .ok changed =>
      .ok (finished (inv.lastId + 1) command,
        { inv.modify id (fun _ => changed) with lastId := inv.lastId + 1 })

/-- The key and the value of a written label; without `=` the value is empty. -/
def splitLabel (label : String) : String × String :=
  match Text.cutAt ['='] label.toList with
  | some (key, value) => (String.ofList key, String.ofList value)
  | none => (label, "")

/-- The load balancers with a label. -/
def labelled (inv : Inventory) (key value : String) : List LoadBalancer :=
  inv.loadBalancers.filter fun lb => lb.labels.get? key == some value

/-- The load balancer with a target more, unless the server is one already. -/
def withTarget (server : Int) (usePrivateIp : Bool) (lb : LoadBalancer) :
    Except Error LoadBalancer :=
  if lb.targets.any fun t => t.serverId == server then
    .error (refusal "target_already_defined"
      ("server " ++ toString server ++ " is already a target"))
  else .ok { lb with targets := lb.targets ++ [⟨server, usePrivateIp⟩] }

/-- The load balancer with a service more, unless its listen port is taken. -/
def withService (o : NewService) (lb : LoadBalancer) : Except Error LoadBalancer :=
  if (lb.service? o.listenPort).isSome then
    .error (refusal "source_port_already_used"
      ("port " ++ toString o.listenPort ++ " is already used"))
  else .ok { lb with services := lb.services ++ [o.create] }

/-- The list with `f` applied to the first service on a listen port. -/
def changeFirst (listenPort : Nat) (f : BackendService → BackendService) :
    List BackendService → List BackendService
  | [] => []
  | s :: rest => if s.listenPort = listenPort then f s :: rest else s :: changeFirst listenPort f rest

/-- The load balancer with a change to the service on a listen port. -/
def withServiceChange (listenPort : Nat) (change : ServiceChange) (lb : LoadBalancer) :
    Except Error LoadBalancer :=
  if (lb.service? listenPort).isSome then
    .ok { lb with services := changeFirst listenPort change.apply lb.services }
  else
    .error (refusal "not_found" ("service on port " ++ toString listenPort ++ " not found"))

/-- The load balancer with its public interface on or off. -/
def withPublicInterface (enabled : Bool) (lb : LoadBalancer) : LoadBalancer :=
  { lb with publicInterface := { lb.publicInterface with enabled := enabled } }

/-- The load balancer with a new name and new labels, where they are given. -/
def withChange (change : LoadBalancerChange) (lb : LoadBalancer) : LoadBalancer :=
  { lb with name := change.name.getD lb.name, labels := change.labels.getD lb.labels }

/-- Creates a load balancer, unless its name is taken. It is there at once; the action that goes
with it is still running. -/
def create (inv : Inventory) (o : NewLoadBalancer) :
    Except Error ((LoadBalancer × Action) × Inventory) :=
  if inv.loadBalancers.any fun lb => lb.name == o.name then
    .error (.alreadyExists ("load balancer " ++ o.name))
  else
    let lb := created (inv.lastId + 1) o
    .ok ((lb, ⟨inv.lastId + 2, "create_load_balancer", .running, 0, none⟩),
      { inv.insert lb with lastId := inv.lastId + 2 })

/-- Changes the name and the labels of a load balancer. -/
def update (inv : Inventory) (id : Int) (change : LoadBalancerChange) :
    Except Error (LoadBalancer × Inventory) :=
  match inv.find? id with
  | none => .error (noLoadBalancer id)
  | some lb => .ok (withChange change lb, inv.modify id (withChange change))

/-- Deletes a load balancer. -/
def delete (inv : Inventory) (id : Int) : Except Error (Unit × Inventory) :=
  match inv.find? id with
  | none => .error (noLoadBalancer id)
  | some _ => .ok ((), inv.remove id)

/-- The reply to a call and the inventory after it. A refused call changes nothing. -/
def perform (inv : Inventory) : (c : Call) → Except Error (c.Reply × Inventory)
  | .getById id => .ok (inv.find? id, inv)
  | .getByName name => .ok (inv.loadBalancers.find? fun lb => lb.name == name, inv)
  | .listByLabel label =>
    .ok (inv.labelled (splitLabel label).1 (splitLabel label).2, inv)
  | .create options => inv.create options
  | .update id change => inv.update id change
  | .delete id => inv.delete id
  | .changeAlgorithm id a =>
    inv.act id "change_algorithm" fun lb => .ok { lb with algorithm := a }
  | .changeType id type => inv.act id "change_type" fun lb => .ok { lb with type := type }
  | .attachToNetwork id network ip =>
    inv.act id "attach_to_network" fun lb =>
      .ok { lb with attachments := lb.attachments ++ [⟨network, ip.getD (privateAddress id)⟩] }
  | .detachFromNetwork id network =>
    inv.act id "detach_from_network" fun lb =>
      .ok { lb with attachments := lb.attachments.filter fun a => a.networkId ≠ network }
  | .enablePublicInterface id =>
    inv.act id "enable_public_interface" fun lb => .ok (withPublicInterface true lb)
  | .disablePublicInterface id =>
    inv.act id "disable_public_interface" fun lb => .ok (withPublicInterface false lb)
  | .addTarget id server usePrivateIp => inv.act id "add_target" (withTarget server usePrivateIp)
  | .removeTarget id server =>
    inv.act id "remove_target" fun lb =>
      .ok { lb with targets := lb.targets.filter fun t => t.serverId ≠ server }
  | .addService id options => inv.act id "add_service" (withService options)
  | .updateService id listenPort change =>
    inv.act id "update_service" (withServiceChange listenPort change)
  | .deleteService id listenPort =>
    inv.act id "delete_service" fun lb =>
      .ok { lb with services := lb.services.filter fun s => s.listenPort ≠ listenPort }
  | .getCertificate name => .ok (inv.certificates.find? fun c => c.name == name, inv)
  | .getNetworkById id => .ok (inv.networks.find? fun n => n.id == id, inv)
  | .getNetworkByName name => .ok (inv.networks.find? fun n => n.name == name, inv)
  | .getAction id => .ok (finished id "poll", inv)

end Inventory

end BalancerSync.Cloud
