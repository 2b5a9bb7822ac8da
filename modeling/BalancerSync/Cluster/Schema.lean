import BalancerSync.Cluster.Time
import BalancerSync.Json.Record

/-!
# The schema of cluster objects

An answer of the cluster is read only if every field in it has its declared type, also the fields
that the controller does not use. A field that is missing or null is as good as empty.

## Main Definitions

* `Schema.service`, `Schema.node`, `Schema.lease`, `Schema.event` : the objects
* `Schema.listOf` : a list of objects
-/

namespace BalancerSync.Cluster.Schema

open BalancerSync.Json (Shape)
open BalancerSync.Json.Shape

/-! ### Values -/

/-- A written moment. -/
def time : Shape := fun j => (j.text?.bind Time.parse?).isSome

/-- A port by number or by name. -/
def portReference : Shape := fun j => int32 j || text j

/-- A table of texts. -/
def labels : Shape := table text

/-- A record whose fields are texts. -/
def texts (names : List String) : Shape := record (names.map (·, text))

/-! ### Metadata -/

/-- How many lists and objects can be inside each other. -/
def maxDepth : Nat := 127

/-- The reference to the owner of an object. -/
def owner : Shape := record
  [("apiVersion", text), ("blockOwnerDeletion", flag), ("controller", flag), ("kind", text),
    ("name", text), ("uid", text)]

/-- Who set which fields of an object. The fields are kept as they are, inside so many lists and
objects. -/
def managedFields (depth : Nat) : Shape := record
  [("apiVersion", text), ("fieldsType", text), ("fieldsV1", kept (maxDepth - depth)),
    ("manager", text), ("operation", text), ("subresource", text), ("time", time)]

/-- The metadata of an object that is inside so many lists and objects. -/
def metadata (depth : Nat) : Shape := record
  [("annotations", labels), ("creationTimestamp", time), ("deletionGracePeriodSeconds", int64),
    ("deletionTimestamp", time), ("finalizers", list text), ("generateName", text),
    ("generation", int64), ("labels", labels), ("managedFields", list (managedFields (depth + 4))),
    ("name", text), ("namespace", text), ("ownerReferences", list owner),
    ("resourceVersion", text), ("selfLink", text), ("uid", text)]

/-- An object of a kind. If it tells what it is, that has to be right. -/
def object (apiVersion kind : String) (depth : Nat) (fields : List (String × Shape)) : Shape :=
  fun j =>
    record (("metadata", metadata depth) :: fields) j &&
      j.members?.any fun ms =>
        everywhere "apiVersion" (fun v => v.text? == some apiVersion) ms &&
          everywhere "kind" (fun v => v.text? == some kind) ms

/-! ### Services -/

def servicePort : Shape := record
  [("appProtocol", text), ("name", text), ("nodePort", int32), ("port", int32),
    ("protocol", text), ("targetPort", portReference)]

def serviceSpec : Shape := record
  [("allocateLoadBalancerNodePorts", flag), ("clusterIP", text), ("clusterIPs", list text),
    ("externalIPs", list text), ("externalName", text), ("externalTrafficPolicy", text),
    ("healthCheckNodePort", int32), ("internalTrafficPolicy", text), ("ipFamilies", list text),
    ("ipFamilyPolicy", text), ("loadBalancerClass", text), ("loadBalancerIP", text),
    ("loadBalancerSourceRanges", list text), ("ports", list servicePort),
    ("publishNotReadyAddresses", flag), ("selector", labels), ("sessionAffinity", text),
    ("sessionAffinityConfig", record [("clientIP", record [("timeoutSeconds", int32)])]),
    ("trafficDistribution", text), ("type", text)]

def condition : Shape := record
  [("lastTransitionTime", time), ("message", text), ("observedGeneration", int64),
    ("reason", text), ("status", text), ("type", text)]

def ingress : Shape := record
  [("hostname", text), ("ip", text), ("ipMode", text),
    ("ports", list (record [("error", text), ("port", int32), ("protocol", text)]))]

def serviceStatus : Shape := record
  [("conditions", list condition), ("loadBalancer", record [("ingress", list ingress)])]

def service (depth : Nat) : Shape :=
  object "v1" "Service" depth [("spec", serviceSpec), ("status", serviceStatus)]

/-! ### Nodes -/

/-- Where the configuration of a node comes from. -/
def configSource : Shape := record
  [("configMap", texts ["kubeletConfigKey", "name", "namespace", "resourceVersion", "uid"])]

def taint : Shape := record
  [("effect", text), ("key", text), ("timeAdded", time), ("value", text)]

def nodeSpec : Shape := record
  [("configSource", configSource), ("externalID", text), ("podCIDR", text),
    ("podCIDRs", list text), ("providerID", text), ("taints", list taint),
    ("unschedulable", flag)]

def nodeCondition : Shape := record
  [("lastHeartbeatTime", time), ("lastTransitionTime", time), ("message", text),
    ("reason", text), ("status", text), ("type", text)]

def nodeConfig : Shape := record
  [("active", configSource), ("assigned", configSource), ("error", text),
    ("lastKnownGood", configSource)]

def nodeInfo : Shape := texts
  ["architecture", "bootID", "containerRuntimeVersion", "kernelVersion", "kubeProxyVersion",
    "kubeletVersion", "machineID", "operatingSystem", "osImage", "systemUUID"]

def runtimeHandler : Shape := record
  [("features", record [("recursiveReadOnlyMounts", flag)]), ("name", text)]

def nodeStatus : Shape := record
  [("addresses", list (texts ["address", "type"])), ("allocatable", labels), ("capacity", labels),
    ("conditions", list nodeCondition), ("config", nodeConfig),
    ("daemonEndpoints", record [("kubeletEndpoint", record [("Port", int32)])]),
    ("images", list (record [("names", list text), ("sizeBytes", int64)])),
    ("nodeInfo", nodeInfo), ("phase", text), ("runtimeHandlers", list runtimeHandler),
    ("volumesAttached", list (texts ["devicePath", "name"])), ("volumesInUse", list text)]

def node (depth : Nat) : Shape :=
  object "v1" "Node" depth [("spec", nodeSpec), ("status", nodeStatus)]

/-! ### Leases and events -/

def lease (depth : Nat) : Shape :=
  object "coordination.k8s.io/v1" "Lease" depth
    [("spec", record
      [("acquireTime", time), ("holderIdentity", text), ("leaseDurationSeconds", int32),
        ("leaseTransitions", int32), ("renewTime", time)])]

/-- The reference to an object. -/
def reference : Shape := texts
  ["apiVersion", "fieldPath", "kind", "name", "namespace", "resourceVersion", "uid"]

def event (depth : Nat) : Shape :=
  object "v1" "Event" depth
    [("action", text), ("count", int32), ("eventTime", time), ("firstTimestamp", time),
      ("involvedObject", reference), ("lastTimestamp", time), ("message", text),
      ("reason", text), ("related", reference), ("reportingComponent", text),
      ("reportingInstance", text),
      ("series", record [("count", int32), ("lastObservedTime", time)]),
      ("source", texts ["component", "host"]), ("type", text)]

/-! ### Lists -/

def listMetadata : Shape := record
  [("continue", text), ("remainingItemCount", int64), ("resourceVersion", text),
    ("selfLink", text)]

/-- Whether a name has so many members at most. -/
def occursAtMost (n : Nat) (name : String) (members : List (String × Json)) : Bool :=
  (members.countP fun m => m.1 == name) ≤ n

/-- A list of objects. Its items must be there, if only as null, and its own metadata must not be
null. What else it has is kept. -/
def listOf (item : Shape) : Shape := fun j =>
  j.members?.any fun ms =>
    ms.any (·.1 == "items") && occursAtMost 1 "items" ms && occursAtMost 1 "metadata" ms &&
      everywhere "items" (list item).orNull ms && everywhere "metadata" listMetadata ms &&
      ms.all fun m => m.1 == "items" || m.1 == "metadata" || kept (maxDepth - 1) m.2

end BalancerSync.Cluster.Schema
