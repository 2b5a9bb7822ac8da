import BalancerSync.Cluster.Object
import BalancerSync.Json.Basic

/-!
# Manifests

The JSON form of cluster objects. Reading ignores what the controller does not use and treats
missing parts as empty.

## Main Definitions

* `Cluster.Service.ofJson`, `Cluster.Node.ofJson` : the object that a manifest describes
* `Cluster.Ingress.toJson` : an address as it is published
-/

namespace BalancerSync.Cluster

/-- A text under a name. -/
def textMember (name : String) (j : Json) : Option String := (j.member? name).bind Json.text?

/-- The texts under the keys of an object. -/
def labelsMember (name : String) (j : Json) : Labels :=
  match j.member? name with
  | some (.obj members) =>
    .ofList (members.filterMap fun m => m.2.text?.map (m.1, ·))
  | _ => .empty

/-- The items of a list under a name; a missing list is empty. -/
def itemsMember (name : String) (j : Json) : List Json :=
  ((j.member? name).bind Json.items?).getD []

/-- An object under a name; a missing object is empty. -/
def objectMember (name : String) (j : Json) : Json := (j.member? name).getD (.obj [])

def Metadata.ofJson (j : Json) : Metadata where
  name := textMember "name" j
  generateName := textMember "generateName" j
  «namespace» := textMember "namespace" j
  uid := textMember "uid" j
  resourceVersion := textMember "resourceVersion" j
  annotations := labelsMember "annotations" j
  labels := labelsMember "labels" j
  finalizers := (itemsMember "finalizers" j).filterMap Json.text?
  isDeleting := (j.member? "deletionTimestamp").isSome

def ServicePort.ofJson (j : Json) : ServicePort where
  port := ((j.member? "port").bind Json.int?).getD 0
  nodePort := (j.member? "nodePort").bind Json.int?

def PortStatus.ofJson (j : Json) : PortStatus where
  port := ((j.member? "port").bind Json.int?).getD 0
  protocol := (textMember "protocol" j).getD ""
  error := textMember "error" j

def Ingress.ofJson (j : Json) : Ingress where
  ip := textMember "ip" j
  hostname := textMember "hostname" j
  ipMode := textMember "ipMode" j
  ports := ((j.member? "ports").bind Json.items?).map fun items => items.map PortStatus.ofJson

def Service.ofJson (j : Json) : Service :=
  let spec := objectMember "spec" j
  let balancer := objectMember "loadBalancer" (objectMember "status" j)
  { metadata := .ofJson (objectMember "metadata" j)
    type := textMember "type" spec
    ports := (itemsMember "ports" spec).map ServicePort.ofJson
    ingress := (itemsMember "ingress" balancer).map Ingress.ofJson }

def Node.ofJson (j : Json) : Node where
  metadata := .ofJson (objectMember "metadata" j)
  providerID := textMember "providerID" (objectMember "spec" j)

def PortStatus.toJson (p : PortStatus) : Json :=
  .obj (Json.optional "error" (p.error.map .str) ++
    [("port", .int p.port), ("protocol", .str p.protocol)])

/-- An address as it is published. -/
def Ingress.toJson (i : Ingress) : Json :=
  .obj (Json.optional "hostname" (i.hostname.map .str) ++
    Json.optional "ip" (i.ip.map .str) ++
    Json.optional "ipMode" (i.ipMode.map .str) ++
    Json.optional "ports" (i.ports.map fun ps => .arr (ps.map PortStatus.toJson)))

end BalancerSync.Cluster
