import BalancerSync.Config
import BalancerSync.Http
import BalancerSync.Json.Printer
import BalancerSync.Monitoring.Exposition

/-!
# The monitoring endpoint

What the controller answers to the cluster's probes: `/health` tells that the process is alive and
whether it leads, and `/metrics` has the metrics. Both can only be read.

## Main Definitions

* `Endpoint.Answer` : an answer
* `Endpoint.answer` : the answer to a method and a target
-/

namespace BalancerSync.Monitoring.Endpoint

/-- An answer. Refusals have no body and so no content type. -/
structure Answer where
  status : Nat
  contentType : Option String
  body : String
  deriving DecidableEq, Repr

namespace Answer

def notFound : Answer := ⟨404, none, ""⟩

def methodNotAllowed : Answer := ⟨405, none, ""⟩

/-- The answer without its body. -/
def headOnly (a : Answer) : Answer := { a with body := "" }

end Answer

/-- The state of the process. -/
def health (leader : Bool) : Json :=
  .obj [("status", .str "healthy"), ("version", .str Version.number), ("leader", .bool leader)]

/-- What can be read at a path. -/
def resource? (leader : Bool) (observed : List Observation) (path : String) : Option Answer :=
  if path = "/health" then some ⟨200, some "application/json", (health leader).compact⟩
  else if path = "/metrics" then
    some ⟨200, some "text/plain; charset=utf-8", Exposition.text observed⟩
  else none

/-- The answer to a method and a target, whose query has no meaning. -/
def answer (leader : Bool) (observed : List Observation) (method target : String) : Answer :=
  match (Http.Target.parse? target).bind fun t => resource? leader observed t.path with
  | none => .notFound
  | some found =>
    if method = "GET" then found
    else if method = "HEAD" then found.headOnly
    else .methodNotAllowed

end BalancerSync.Monitoring.Endpoint
