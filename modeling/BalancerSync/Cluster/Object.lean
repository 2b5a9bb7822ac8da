import BalancerSync.Labels

/-!
# Cluster objects

The objects of the cluster that the controller reads, with the fields that it reads: Services, which
ask for load balancers, and nodes, which become their targets.

## Main Definitions

* `Cluster.Metadata` : what every object has
* `Cluster.Service`, `Cluster.ServicePort` : a Service and its ports
* `Cluster.Ingress` : an address at which a Service is reached
* `Cluster.Node` : a machine of the cluster
-/

namespace BalancerSync.Cluster

/-- What every object has. -/
structure Metadata where
  name : Option String
  /-- The start of the name that the cluster makes up when none is given. -/
  generateName : Option String
  «namespace» : Option String
  uid : Option String
  resourceVersion : Option String
  annotations : Labels
  labels : Labels
  finalizers : List String
  /-- Whether the object is being deleted. -/
  isDeleting : Bool
  deriving DecidableEq, Repr

/-- The metadata of an object of which nothing is known. -/
def Metadata.empty : Metadata := ⟨none, none, none, none, none, .empty, .empty, [], false⟩

/-- The name, or what will become of it. -/
def Metadata.anyName (m : Metadata) : String := (m.name.or m.generateName).getD ""

/-- The namespace, or the one that is meant when none is given. -/
def Metadata.anyNamespace (m : Metadata) : String := m.namespace.getD "default"

/-- A port of a Service, and the port on every node that leads to it. -/
structure ServicePort where
  port : Int
  nodePort : Option Int
  deriving DecidableEq, Repr

/-- The state of one port of an address. -/
structure PortStatus where
  port : Int
  protocol : String
  error : Option String
  deriving DecidableEq, Repr

/-- An address at which a Service is reached. -/
structure Ingress where
  ip : Option String
  hostname : Option String
  ipMode : Option String
  ports : Option (List PortStatus)
  deriving DecidableEq, Repr

namespace Ingress

def ofIp (ip : String) : Ingress := ⟨some ip, none, none, none⟩

def ofHostname (hostname : String) : Ingress := ⟨none, some hostname, none, none⟩

end Ingress

/-- A Service. -/
structure Service where
  metadata : Metadata
  type : Option String
  ports : List ServicePort
  /-- The addresses published in its status. -/
  ingress : List Ingress
  deriving DecidableEq, Repr

namespace Service

/-- The finalizer that keeps a Service until its load balancer is gone. -/
def finalizer : String := "service.kubernetes.io/load-balancer-cleanup"

/-- Whether the Service asks for a load balancer. -/
def isLoadBalancer (s : Service) : Bool := s.type == some "LoadBalancer"

/-- Whether the Service is kept until its load balancer is gone. -/
def hasFinalizer (s : Service) : Bool := s.metadata.finalizers.contains finalizer

def anyName (s : Service) : String := s.metadata.anyName

def anyNamespace (s : Service) : String := s.metadata.anyNamespace

end Service

/-- A machine of the cluster. -/
structure Node where
  metadata : Metadata
  /-- The cloud's name for the machine, once it has one. -/
  providerID : Option String
  deriving DecidableEq, Repr

end BalancerSync.Cluster
