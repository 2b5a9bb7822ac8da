import BalancerSync.Cloud.Call
import BalancerSync.Cloud.Wire.Resource
import BalancerSync.Http
import BalancerSync.Json.Reader

/-!
# Answers on the wire

How the answer to each call is read. A refusal carries an error code of the cloud; an answer of
another kind is told with its status. An answer that was asked for and cannot be read is an error of
the connection, not of the cloud.

## Main Definitions

* `Wire.Answer` : a status with a body
* `Wire.Answer.refusal` : the error that an answer without success tells
* `Wire.Answer.reply` : the reply to a call that an answer gives
-/

namespace BalancerSync.Cloud.Wire

open Json

/-- A status with a body. -/
structure Answer where
  status : Nat
  body : String
  deriving DecidableEq, Repr

namespace Answer

/-- The answer without a body if its status has none. -/
def ofStatus (status : Nat) (body : String) : Answer :=
  ⟨status, if status = 204 || status = 304 then "" else body⟩

/-- The error of an answer that cannot be read. -/
def unreadable : Error := .http "error decoding response body"

/-- The value that the body writes. -/
def content {α : Type} (a : Answer) (read : Json → Option α) : Except Error α :=
  match (Json.parse? a.body).bind read with
  | some value => .ok value
  | none => .error unreadable

/-- The value that the body writes, whose words may be unknown. -/
def checked {α : Type} (a : Answer) (read : Json → Option (Except Error α)) : Except Error α := do
  (← a.content read)

/-- The code and the text of an error. -/
def errorParts? (j : Json) : Option (String × String) := do
  let r ← record? ["code", "message"] j
  return (← r.required "code" text?, ← r.required "message" text?)

/-- The body as a text, without a byte order mark. -/
def text (a : Answer) : String :=
  match a.body.toList with
  | '\ufeff' :: rest => String.ofList rest
  | _ => a.body

/-- The error that an answer without success tells. -/
def refusal (a : Answer) : Error :=
  match (Json.parse? a.text).bind (envelope? "error" errorParts?) with
  | some (code, message) => .cloudApi (.ofText code) message
  | none =>
    .cloudApi (.other (toString a.status)) ("HTTP " ++ Http.statusText a.status ++ ": " ++ a.text)

/-- The answer, if it tells success. -/
def success (a : Answer) : Except Error Answer :=
  if Http.isSuccess a.status then .ok a else .error a.refusal

/-- The refusal to create a load balancer. A name that is taken is told by name. -/
def creationError (o : NewLoadBalancer) (e : Error) : Error :=
  if e.hasCode [.uniquenessError] then .alreadyExists ("load balancer " ++ o.name) else e

/-- A new load balancer and the action that makes it. -/
def creation? (j : Json) : Option (Except Error (LoadBalancer × Action)) := do
  let r ← record? ["load_balancer", "action"] j
  let lb ← r.required "load_balancer" loadBalancer?
  let action ← r.required "action" action?
  return lb.map (·, action)

/-- A lookup of one resource, which may be missing. -/
def found {α : Type} (a : Answer) (read : Answer → Except Error α) : Except Error (Option α) :=
  if a.status = 404 then .ok none else do return some (← read (← a.success))

/-- A load balancer in an envelope. -/
def loadBalancer (a : Answer) : Except Error LoadBalancer :=
  a.checked (envelope? "load_balancer" loadBalancer?)

/-- The load balancers of a list, each of which may have unknown words. -/
def loadBalancers (a : Answer) : Except Error (List (Except Error LoadBalancer)) :=
  a.content (envelope? "load_balancers" (list? loadBalancer?))

/-- The action in an answer that tells success. -/
def action (a : Answer) : Except Error Action := do
  (← a.success).content (envelope? "action" action?)

/-- The first of the resources in an answer that tells success. -/
def first {α : Type} (a : Answer) (name : String) (read : Json → Option α) :
    Except Error (Option α) := do
  return (← (← a.success).content (envelope? name (list? read))).head?

/-- The reply to a call that an answer gives. -/
def reply (a : Answer) : (c : Call) → Except Error c.Reply
  | .getById _ => a.found loadBalancer
  | .getByName _ => do
    match ← (← a.success).loadBalancers with
    | [] => return none
    | lb :: _ => return some (← lb)
  | .listByLabel _ => do (← (← a.success).loadBalancers).mapM fun lb => lb
  | .create o => do (← a.success.mapError (creationError o)).checked creation?
  | .update _ _ => do (← a.success).loadBalancer
  | .delete _ => do let _ ← a.success
  | .getCertificate _ => a.first "certificates" certificate?
  | .getNetworkById _ => a.found fun a => a.content (envelope? "network" network?)
  | .getNetworkByName _ => a.first "networks" network?
  | .changeAlgorithm _ _ | .changeType _ _ | .attachToNetwork _ _ _ | .detachFromNetwork _ _
  | .enablePublicInterface _ | .disablePublicInterface _ | .addTarget _ _ _ | .removeTarget _ _
  | .addService _ _ | .updateService _ _ _ | .deleteService _ _ | .getAction _ => a.action

end Answer

end BalancerSync.Cloud.Wire
