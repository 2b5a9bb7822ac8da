import BalancerSync.Cluster.Wire
import BalancerSync.Json.Printer
import BalancerSync.Text.Lines

/-!
# A scripted cluster

A cluster that answers every request well, except for those that its script singles out by method
and path. It keeps the requests that it has seen.

## Main Definitions

* `Cluster.ScriptedAnswer` : an answer to one coming request
* `Cluster.World` : the cluster
* `Cluster.World.handle` : the replies to requests
-/

namespace BalancerSync.Cluster

/-- An answer to the next request with a method and with a text in its path. Without a body of its
own, it carries an error status. -/
structure ScriptedAnswer where
  method : String
  inPath : String
  status : Nat
  body : Option String
  deriving DecidableEq, Repr

/-- The body of an answer. -/
def ScriptedAnswer.text (a : ScriptedAnswer) : String :=
  match a.body with
  | some text => text
  | none => (Json.obj [("status", .str "Failure"), ("message", .str "scripted"),
      ("reason", .str "Scripted"), ("code", .int a.status)]).compact

/-- What an answer comes to. -/
def ScriptedAnswer.outcome (a : ScriptedAnswer) (q : Request) : Except Failure (effect.Reply q) :=
  Cluster.outcome q a.status a.text

/-- A cluster with its script. -/
structure World where
  script : List ScriptedAnswer
  nodes : List Node
  /-- The leases that the next lookups find, with renewal times relative to the lookup. The last one
  stays. -/
  leases : List (Option Lease)
  log : List Http.Request
  now : Time
  deriving Repr

namespace World

/-- A cluster with some nodes and no lease. -/
def ofNodes (nodes : List Node) : World := ⟨[], nodes, [], [], ⟨0⟩⟩

/-- The first scripted answer for a request, and the others. -/
def takeAnswer? (r : Http.Request) :
    List ScriptedAnswer → Option (ScriptedAnswer × List ScriptedAnswer)
  | [] => none
  | a :: rest =>
    if a.method = r.method ∧ (Text.cutAt a.inPath.toList r.target.path.toList).isSome then
      some (a, rest)
    else (takeAnswer? r rest).map fun (b, others) => (b, a :: others)

/-- The lease as it is found now. -/
def leaseNow (w : World) : Option Lease :=
  (w.leases.head?).join.map fun l =>
    { l with spec := l.spec.map fun s =>
      { s with renewTime := s.renewTime.map fun t => ⟨t.nanos + w.now.nanos⟩ } }

/-- The error of a missing lease. -/
def noLease : Failure := .refused "Failure" "not found" "NotFound" 404

/-- The good answer to a request. -/
def goodReply (w : World) : (q : Request) → Except Failure (effect.Reply q)
  | .listNodes => .ok w.nodes
  | .getLease _ =>
    match w.leaseNow with
    | some l => .ok l
    | none => .error noLease
  | .postEvent _ | .patchService _ _ _ | .patchIngress _ _ _ | .patchLease _ _
  | .createLease _ _ _ => .ok ()

/-- The cluster after a lookup of the lease. -/
def afterLookup (w : World) : Request → World
  | .getLease _ =>
    match w.leases with
    | _ :: l :: rest => { w with leases := l :: rest }
    | _ => w
  | _ => w

/-- The replies to requests. A request that cannot be sent is not seen. -/
def handle (text : Time → String) : Program.Handler effect World
  | q, w =>
    match q.encode text w.now with
    | .error f => (.error (.kube f), w)
    | .ok r =>
      let w := { w with log := w.log ++ [r] }
      match takeAnswer? r w.script with
      | some (a, script) =>
        ((a.outcome q).mapError .kube, { w.afterLookup q with script := script })
      | none => ((w.goodReply q).mapError .kube, w.afterLookup q)

end World

end BalancerSync.Cluster
