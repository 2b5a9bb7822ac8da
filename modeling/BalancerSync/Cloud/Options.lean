import BalancerSync.Cloud.LoadBalancer

/-!
# Options

What a caller asks the cloud for. A field without a value is left to the cloud: its default on
creation, what is there already on a change.

## Main Definitions

* `Cloud.NewLoadBalancer`, `Cloud.LoadBalancerChange` : creating and changing a load balancer
* `Cloud.NewService`, `Cloud.ServiceChange` : adding and changing a backend service
* `Cloud.HttpOptions`, `Cloud.HealthCheckOptions` : the parts of both
-/

namespace BalancerSync.Cloud

/-- What to create. The place is given by a location or by a network zone. -/
structure NewLoadBalancer where
  name : String
  type : String
  algorithm : Algorithm
  location : Option String
  networkZone : Option String
  labels : Labels
  network : Option Int
  publicInterface : Bool
  deriving DecidableEq, Repr

/-- A new name or new labels for a load balancer. -/
structure LoadBalancerChange where
  name : Option String
  labels : Option Labels
  deriving DecidableEq, Repr

/-- The HTTP part of a backend service. -/
structure HttpOptions where
  cookieName : Option String
  cookieLifetime : Option Duration
  certificates : Option (List Int)
  redirectHttp : Option Bool
  stickySessions : Option Bool
  deriving DecidableEq, Repr

/-- The HTTP part of a health check. -/
structure HealthCheckHttpOptions where
  domain : Option String
  path : Option String
  statusCodes : Option (List String)
  tls : Option Bool
  deriving DecidableEq, Repr

/-- A health check. -/
structure HealthCheckOptions where
  protocol : Option Protocol
  port : Option Nat
  interval : Option Duration
  timeout : Option Duration
  retries : Option Nat
  http : Option HealthCheckHttpOptions
  deriving DecidableEq, Repr

/-- A backend service to add. Without a health check the cloud uses its implicit one. -/
structure NewService where
  protocol : Protocol
  listenPort : Nat
  destinationPort : Nat
  proxyProtocol : Bool
  http : Option HttpOptions
  healthCheck : Option HealthCheckOptions
  deriving DecidableEq, Repr

/-- A change to a backend service. -/
structure ServiceChange where
  protocol : Option Protocol
  destinationPort : Option Nat
  proxyProtocol : Option Bool
  http : Option HttpOptions
  healthCheck : Option HealthCheckOptions
  deriving DecidableEq, Repr

end BalancerSync.Cloud
