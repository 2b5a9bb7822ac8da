import BalancerSync.Cloud.Action
import BalancerSync.Cloud.Options

/-!
# Calls

The calls that the cloud answers. Each has a type of reply of its own; a call that changes a load
balancer over time replies with the action to wait for.

## Main Definitions

* `Cloud.Call` : a call with its arguments
* `Cloud.Call.Reply` : what a successful call answers
* `Cloud.Call.isMutation` : whether a call changes anything
* `Cloud.Call.action?` : the action in a reply
-/

namespace BalancerSync.Cloud

/-- A call with its arguments. -/
inductive Call where
  | getById (id : Int)
  | getByName (name : String)
  /-- The load balancers with a label, written `key=value`. -/
  | listByLabel (label : String)
  | create (options : NewLoadBalancer)
  | update (id : Int) (change : LoadBalancerChange)
  | delete (id : Int)
  | changeAlgorithm (id : Int) (algorithm : Algorithm)
  | changeType (id : Int) (type : String)
  | attachToNetwork (id network : Int) (ip : Option Net.IPv4)
  | detachFromNetwork (id network : Int)
  | enablePublicInterface (id : Int)
  | disablePublicInterface (id : Int)
  | addTarget (id server : Int) (usePrivateIp : Bool)
  | removeTarget (id server : Int)
  | addService (id : Int) (options : NewService)
  | updateService (id : Int) (listenPort : Nat) (change : ServiceChange)
  | deleteService (id : Int) (listenPort : Nat)
  | getCertificate (name : String)
  | getNetworkById (id : Int)
  | getNetworkByName (name : String)
  | getAction (id : Int)
  deriving DecidableEq, Repr

namespace Call

/-- What a successful call answers. A lookup of one thing answers nothing if there is none. -/
@[reducible] def Reply : Call → Type
  | getById _ | getByName _ => Option LoadBalancer
  | listByLabel _ => List LoadBalancer
  | create _ => LoadBalancer × Action
  | update _ _ => LoadBalancer
  | delete _ => Unit
  | getCertificate _ => Option Certificate
  | getNetworkById _ | getNetworkByName _ => Option Network
  | changeAlgorithm _ _ | changeType _ _ | attachToNetwork _ _ _ | detachFromNetwork _ _
  | enablePublicInterface _ | disablePublicInterface _ | addTarget _ _ _ | removeTarget _ _
  | addService _ _ | updateService _ _ _ | deleteService _ _ | getAction _ => Action

/-- The name of a call. Both lookups of networks have the same. -/
def name : Call → String
  | getById _ => "get_by_id"
  | getByName _ => "get_by_name"
  | listByLabel _ => "list_by_label"
  | create _ => "create"
  | update _ _ => "update"
  | delete _ => "delete"
  | changeAlgorithm _ _ => "change_algorithm"
  | changeType _ _ => "change_type"
  | attachToNetwork _ _ _ => "attach_to_network"
  | detachFromNetwork _ _ => "detach_from_network"
  | enablePublicInterface _ => "enable_public_interface"
  | disablePublicInterface _ => "disable_public_interface"
  | addTarget _ _ _ => "add_target"
  | removeTarget _ _ => "remove_target"
  | addService _ _ => "add_service"
  | updateService _ _ _ => "update_service"
  | deleteService _ _ => "delete_service"
  | getCertificate _ => "get_certificate"
  | getNetworkById _ | getNetworkByName _ => "get_network"
  | getAction _ => "get_action"

/-- Whether a call changes anything. -/
def isMutation : Call → Bool
  | getById _ | getByName _ | listByLabel _ | getCertificate _ | getNetworkById _
  | getNetworkByName _ | getAction _ => false
  | create _ | update _ _ | delete _ | changeAlgorithm _ _ | changeType _ _
  | attachToNetwork _ _ _ | detachFromNetwork _ _ | enablePublicInterface _
  | disablePublicInterface _ | addTarget _ _ _ | removeTarget _ _ | addService _ _
  | updateService _ _ _ | deleteService _ _ => true

/-- The action in a reply. -/
def action? : (c : Call) → c.Reply → Option Action
  | create _, r => some r.2
  | changeAlgorithm _ _, a | changeType _ _, a | attachToNetwork _ _ _, a
  | detachFromNetwork _ _, a | enablePublicInterface _, a | disablePublicInterface _, a
  | addTarget _ _ _, a | removeTarget _ _, a | addService _ _, a | updateService _ _ _, a
  | deleteService _ _, a | getAction _, a => some a
  | getById _, _ | getByName _, _ | listByLabel _, _ | update _ _, _ | delete _, _
  | getCertificate _, _ | getNetworkById _, _ | getNetworkByName _, _ => none

/-- The reply with `f` applied to its action. -/
def mapAction (f : Action → Action) : (c : Call) → c.Reply → c.Reply
  | create _, r => (r.1, f r.2)
  | changeAlgorithm _ _, a | changeType _ _, a | attachToNetwork _ _ _, a
  | detachFromNetwork _ _, a | enablePublicInterface _, a | disablePublicInterface _, a
  | addTarget _ _ _, a | removeTarget _ _, a | addService _ _, a | updateService _ _ _, a
  | deleteService _ _, a | getAction _, a => f a
  | getById _, r | getByName _, r | listByLabel _, r | update _ _, r | delete _, r
  | getCertificate _, r | getNetworkById _, r | getNetworkByName _, r => r

end Call

end BalancerSync.Cloud
