import BalancerSync.Cluster.Manifest
import BalancerSync.Cluster.Request
import BalancerSync.Cluster.Schema
import BalancerSync.Http
import BalancerSync.Json.Record

/-!
# Cluster requests on the wire

How each request to the cluster is sent, and how an answer to it is read.

## Main Definitions

* `Cluster.Request.encode` : the HTTP request
* `Cluster.Request.decode` : the reply in the body of an answer
* `Cluster.outcome` : what an answer with a status comes to
-/

namespace BalancerSync.Cluster

/-- Who the cluster is told makes the changes to the status of Services. -/
def fieldManager : String := "hcloud-lb-controller"

def servicePath («namespace» name : String) : String :=
  "/api/v1/namespaces/" ++ «namespace» ++ "/services/" ++ name

def leasesPath («namespace» : String) : String :=
  "/apis/coordination.k8s.io/v1/namespaces/" ++ «namespace» ++ "/leases"

def mergePatch : String := "application/merge-patch+json"
def jsonPatch : String := "application/json-patch+json"
def plainJson : String := "application/json"

/-- One operation of a JSON patch. -/
def patchOperation (op path : String) (value : Option Json) : Json :=
  .obj ([("op", .str op), ("path", .str path)] ++ Json.optional "value" value)

/-- The content type and the body of a change to the finalizers. -/
def ServicePatch.encode : ServicePatch → String × Json
  | addFinalizer [] =>
    (jsonPatch, .arr
      [patchOperation "test" "/metadata/finalizers" (some .null),
        patchOperation "add" "/metadata/finalizers" (some (Json.texts [Service.finalizer]))])
  | addFinalizer others =>
    (jsonPatch, .arr
      [patchOperation "test" "/metadata/finalizers" (some (Json.texts others)),
        patchOperation "add" "/metadata/finalizers/-" (some (.str Service.finalizer))])
  | removeFinalizer index =>
    let path := "/metadata/finalizers/" ++ toString index
    (jsonPatch, .arr
      [patchOperation "test" path (some (.str Service.finalizer)),
        patchOperation "remove" path none])
  | keepFinalizers resourceVersion finalizers =>
    (mergePatch, .obj [("metadata", .obj
      [("resourceVersion", Json.orNull (resourceVersion.map .str)),
        ("finalizers", Json.texts finalizers)])])

/-- The manifest of an event that happened at `time`. -/
def Event.toJson (e : Event) (time : String) : Json :=
  let about := [("apiVersion", .str "v1"), ("kind", .str "Service")] ++
    Json.optional "name" (e.about.name.map .str) ++
    Json.optional "namespace" (e.about.namespace.map .str) ++
    Json.optional "uid" (e.about.uid.map .str)
  .obj
    [("apiVersion", .str "v1"), ("kind", .str "Event"), ("count", .int 1),
      ("firstTimestamp", .str time), ("lastTimestamp", .str time),
      ("involvedObject", .obj about), ("message", .str e.message),
      ("metadata", .obj [("generateName", .str (e.about.anyName ++ "-"))]),
      ("reason", .str e.reason), ("type", .str e.type)]

/-- The change to the lease; `text` writes moments. -/
def LeaseChange.toJson (text : Time → String) : LeaseChange → Json
  | renew now =>
    .obj [("spec", .obj [("renewTime", .str (text now)),
      ("leaseDurationSeconds", .int Lease.defaultSeconds)])]
  | takeOver resourceVersion holder now =>
    .obj [("metadata", .obj [("resourceVersion", Json.orNull (resourceVersion.map .str))]),
      ("spec", .obj [("holderIdentity", .str holder), ("acquireTime", .str (text now)),
        ("renewTime", .str (text now)), ("leaseDurationSeconds", .int Lease.defaultSeconds)])]

/-- The manifest of a new lease. -/
def newLease (text : Time → String) («namespace» holder : String) (now : Time) : Json :=
  .obj [("apiVersion", .str "coordination.k8s.io/v1"), ("kind", .str "Lease"),
    ("metadata", .obj [("name", .str Lease.name), ("namespace", .str «namespace»)]),
    ("spec", .obj [("acquireTime", .str (text now)), ("holderIdentity", .str holder),
      ("leaseDurationSeconds", .int Lease.defaultSeconds), ("renewTime", .str (text now))])]

/-- A request to a target, if that can be written. -/
def toTarget (method target : String) (contentType : Option String) (body : Option Json) :
    Except Failure Http.Request :=
  match Http.Target.parse? target with
  | some t => .ok ⟨method, t, contentType, body⟩
  | none => .error .malformedTarget

/-- A change to a Service, which must have a name. -/
def toService («namespace» name suffix contentType : String) (body : Json) :
    Except Failure Http.Request :=
  if name = "" then .error .unnamed
  else toTarget "PATCH" (servicePath «namespace» name ++ suffix) (some contentType) (some body)

/-- The request as it is sent at `now`; `text` writes moments. -/
def Request.encode (text : Time → String) (now : Time) : Request → Except Failure Http.Request
  | listNodes => toTarget "GET" "/api/v1/nodes?" none none
  | postEvent e =>
    toTarget "POST" ("/api/v1/namespaces/" ++ e.about.anyNamespace ++ "/events?") (some plainJson)
      (some (e.toJson (text now)))
  | patchService ns name patch => toService ns name "?" patch.encode.1 patch.encode.2
  | patchIngress ns name ingress =>
    toService ns name ("/status?&fieldManager=" ++ fieldManager) mergePatch
      (.obj [("status", .obj [("loadBalancer", .obj
        [("ingress", Json.orNull (ingress.map fun i => .arr (i.map Ingress.toJson)))])])])
  | getLease ns => toTarget "GET" (leasesPath ns ++ "/" ++ Lease.name) none none
  | patchLease ns change =>
    toTarget "PATCH" (leasesPath ns ++ "/" ++ Lease.name ++ "?") (some mergePatch)
      (some (change.toJson text))
  | createLease ns holder now =>
    toTarget "POST" (leasesPath ns ++ "?") (some plainJson) (some (newLease text ns holder now))

/-! ### Answers -/

/-- The body of an error status, where it has the expected form. -/
def failureOfJson? (j : Json) : Option Failure := do
  let r ← Json.record? ["status", "message", "reason", "code"] j
  let status ← r.required "status" Json.text?
  let message ← r.withDefault "message" "" Json.text?
  let reason ← r.withDefault "reason" "" Json.text?
  return .refused status message reason (← r.required "code" (Json.natural? 65536))

/-- What an error status with a body comes to. A body of another form is told as it is. -/
def refusal (code : Nat) (body : String) : Failure :=
  ((Json.parse? body).bind failureOfJson?).getD
    (.refused (Http.statusText code) (Text.quoted body) "Failed to parse error data" code)

/-- The lease in a manifest. -/
def Lease.ofJson (j : Json) : Lease where
  resourceVersion := textMember "resourceVersion" (objectMember "metadata" j)
  spec := (j.member? "spec").map fun s =>
    { holder := textMember "holderIdentity" s
      durationSeconds := (s.member? "leaseDurationSeconds").bind Json.int?
      renewTime := (textMember "renewTime" s).bind Time.parse? }

/-- What a good answer to a request looks like. -/
def Request.answerShape : Request → Json.Shape
  | listNodes => Schema.listOf (Schema.node 2)
  | postEvent _ => Schema.event 0
  | patchService _ _ _ | patchIngress _ _ _ => Schema.service 0
  | getLease _ | patchLease _ _ | createLease _ _ _ => Schema.lease 0

/-- The reply that an answer of the right shape makes. -/
def Request.replyOfJson (j : Json) : (q : Request) → effect.Reply q
  | listNodes => (itemsMember "items" j).map Node.ofJson
  | getLease _ => Lease.ofJson j
  | postEvent _ | patchService _ _ _ | patchIngress _ _ _ | patchLease _ _ | createLease _ _ _ => ()

/-- The reply in the body of a good answer. -/
def Request.decode (body : String) (q : Request) : Except Failure (effect.Reply q) :=
  match (Json.parse? body).filter q.answerShape with
  | some j => .ok (q.replyOfJson j)
  | none => .error .malformedAnswer

/-- What an answer with a status and a body comes to. -/
def outcome (q : Request) (code : Nat) (body : String) : Except Failure (effect.Reply q) :=
  if Http.isFailure code then .error (refusal code body) else q.decode body

end BalancerSync.Cluster
