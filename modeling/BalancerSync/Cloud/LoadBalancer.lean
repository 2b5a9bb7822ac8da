import BalancerSync.Duration.Basic
import BalancerSync.Labels
import BalancerSync.Net

/-!
# Load balancers

A load balancer as the cloud reports it: its identity, its networks, one backend service per listen
port and the servers that receive the traffic. What a backend service speaks and how load is spread
come from the closed vocabularies of the cloud.

## Main Definitions

* `Cloud.Protocol`, `Cloud.Algorithm` : the words, with `text` and `ofText?` as their written forms
* `Cloud.LoadBalancer` : a load balancer
* `Cloud.BackendService`, `Cloud.HealthCheck` : what happens on one listen port
* `Cloud.Target` : a server behind the load balancer
* `Cloud.Certificate`, `Cloud.Network` : the other resources that are looked up
-/

namespace BalancerSync.Cloud

/-! ### Protocols and algorithms -/

/-- What a backend service or a health check speaks. -/
inductive Protocol where
  | tcp
  | http
  | https
  deriving DecidableEq, Repr, Inhabited

namespace Protocol

def text : Protocol → String
  | tcp => "tcp"
  | http => "http"
  | https => "https"

def ofText? (s : String) : Option Protocol :=
  if s = "tcp" then some tcp
  else if s = "http" then some http
  else if s = "https" then some https
  else none

/-- Whether HTTP options have a meaning for the protocol. -/
def isHttp : Protocol → Bool
  | tcp => false
  | http | https => true

@[simp] theorem ofText?_text (p : Protocol) : ofText? p.text = some p := by
  cases p <;> decide

end Protocol

/-- How load is spread over the targets. -/
inductive Algorithm where
  | roundRobin
  | leastConnections
  deriving DecidableEq, Repr, Inhabited

namespace Algorithm

def text : Algorithm → String
  | roundRobin => "round_robin"
  | leastConnections => "least_connections"

def ofText? (s : String) : Option Algorithm :=
  if s = "round_robin" then some roundRobin
  else if s = "least_connections" then some leastConnections
  else none

@[simp] theorem ofText?_text (a : Algorithm) : ofText? a.text = some a := by
  cases a <;> decide

end Algorithm

/-! ### Load balancers -/

/-- The HTTP part of a health check. -/
structure HealthCheckHttp where
  domain : String
  path : String
  response : String
  statusCodes : List String
  tls : Bool
  deriving DecidableEq, Repr

/-- The HTTP part of a health check before anything is set. -/
def HealthCheckHttp.unset : HealthCheckHttp := ⟨"", "", "", [], false⟩

/-- How the cloud finds out whether a target is up. -/
structure HealthCheck where
  protocol : Protocol
  port : Nat
  interval : Duration
  timeout : Duration
  retries : Nat
  http : Option HealthCheckHttp
  deriving DecidableEq, Repr

/-- The health check that the cloud gives a service without one: a TCP connection to `port` every
15 seconds, with a patience of 10 seconds and three attempts. -/
def HealthCheck.implicit (port : Nat) : HealthCheck :=
  ⟨.tcp, port, .ofSeconds 15, .ofSeconds 10, 3, none⟩

/-- The HTTP part of a backend service. -/
structure ServiceHttp where
  cookieName : String
  cookieLifetime : Duration
  certificates : List Int
  redirectHttp : Bool
  stickySessions : Bool
  deriving DecidableEq, Repr

/-- The HTTP part of a backend service before anything is set. -/
def ServiceHttp.unset : ServiceHttp := ⟨"", .zero, [], false, false⟩

/-- What a load balancer does on one listen port. -/
structure BackendService where
  protocol : Protocol
  listenPort : Nat
  destinationPort : Nat
  proxyProtocol : Bool
  http : Option ServiceHttp
  healthCheck : HealthCheck
  deriving DecidableEq, Repr

/-- A server behind a load balancer, and whether it is reached by its private address. -/
structure Target where
  serverId : Int
  usePrivateIp : Bool
  deriving DecidableEq, Repr

/-- The attachment of a load balancer to a private network. -/
structure Attachment where
  networkId : Int
  ip : Net.IPv4
  deriving DecidableEq, Repr

/-- The public interface of a load balancer. -/
structure PublicInterface where
  enabled : Bool
  ipv4 : Option Net.IPv4
  ipv6 : Option Net.IPv6
  deriving DecidableEq, Repr

/-- A load balancer. -/
structure LoadBalancer where
  id : Int
  name : String
  labels : Labels
  algorithm : Algorithm
  type : String
  location : String
  networkZone : String
  publicInterface : PublicInterface
  attachments : List Attachment
  services : List BackendService
  targets : List Target
  deleteProtection : Bool
  deriving DecidableEq, Repr

namespace LoadBalancer

/-- The smallest type, used when no other is asked for. -/
def defaultType : String := "lb11"

/-- The service on a listen port. -/
def service? (lb : LoadBalancer) (listenPort : Nat) : Option BackendService :=
  lb.services.find? fun s => s.listenPort == listenPort

/-- Whether the load balancer is in a private network. -/
def isAttachedTo (lb : LoadBalancer) (networkId : Int) : Bool :=
  lb.attachments.any fun a => a.networkId == networkId

end LoadBalancer

/-- A certificate that the cloud knows. -/
structure Certificate where
  id : Int
  name : String
  deriving DecidableEq, Repr

/-- A private network that the cloud knows. -/
structure Network where
  id : Int
  name : String
  deriving DecidableEq, Repr

end BalancerSync.Cloud
