import BalancerSync.Cloud.Options
import BalancerSync.Json.Basic

/-!
# Options on the wire

The bodies that carry options. A field is in the body exactly when it is set, and none is null;
durations are sent as whole seconds.

## Main Definitions

* `NewLoadBalancer.toJson`, `LoadBalancerChange.toJson` : creating and changing a load balancer
* `NewService.toJson`, `ServiceChange.toJson` : adding and changing a backend service
-/

namespace BalancerSync.Cloud

/-- The labels as an object. -/
def labelsToJson (labels : Labels) : Json :=
  .obj (labels.entries.map fun e => (e.1, .str e.2))

def algorithmToJson (a : Algorithm) : Json := .obj [("type", .str a.text)]

/-- The body that creates a load balancer. A location makes the network zone superfluous. -/
def NewLoadBalancer.toJson (o : NewLoadBalancer) : Json :=
  .obj ([("name", .str o.name), ("load_balancer_type", .str o.type),
      ("algorithm", algorithmToJson o.algorithm), ("labels", labelsToJson o.labels),
      ("public_interface", .bool o.publicInterface)] ++
    Json.optional "location" (o.location.map .str) ++
    Json.optional "network_zone" (if o.location.isSome then none else o.networkZone.map .str) ++
    Json.optional "network" (o.network.map .int))

/-- The body that changes a load balancer. -/
def LoadBalancerChange.toJson (o : LoadBalancerChange) : Json :=
  .obj (Json.optional "name" (o.name.map .str) ++
    Json.optional "labels" (o.labels.map labelsToJson))

/-- A duration in whole seconds. -/
def secondsToJson (d : Duration) : Json := .ofNat d.wholeSeconds

def HttpOptions.toJson (o : HttpOptions) : Json :=
  .obj (Json.optional "cookie_name" (o.cookieName.map .str) ++
    Json.optional "cookie_lifetime" (o.cookieLifetime.map secondsToJson) ++
    Json.optional "certificates" (o.certificates.map fun ids => .arr (ids.map .int)) ++
    Json.optional "redirect_http" (o.redirectHttp.map .bool) ++
    Json.optional "sticky_sessions" (o.stickySessions.map .bool))

def HealthCheckHttpOptions.toJson (o : HealthCheckHttpOptions) : Json :=
  .obj (Json.optional "domain" (o.domain.map .str) ++
    Json.optional "path" (o.path.map .str) ++
    Json.optional "status_codes" (o.statusCodes.map Json.texts) ++
    Json.optional "tls" (o.tls.map .bool))

def HealthCheckOptions.toJson (o : HealthCheckOptions) : Json :=
  .obj (Json.optional "protocol" (o.protocol.map fun p => .str p.text) ++
    Json.optional "port" (o.port.map .ofNat) ++
    Json.optional "interval" (o.interval.map secondsToJson) ++
    Json.optional "timeout" (o.timeout.map secondsToJson) ++
    Json.optional "retries" (o.retries.map .ofNat) ++
    Json.optional "http" (o.http.map HealthCheckHttpOptions.toJson))

/-- The body that changes the service on a listen port. -/
def ServiceChange.toJson (listenPort : Nat) (o : ServiceChange) : Json :=
  .obj (Json.optional "protocol" (o.protocol.map fun p => .str p.text) ++
    [("listen_port", .ofNat listenPort)] ++
    Json.optional "destination_port" (o.destinationPort.map .ofNat) ++
    Json.optional "proxyprotocol" (o.proxyProtocol.map .bool) ++
    Json.optional "http" (o.http.map HttpOptions.toJson) ++
    Json.optional "health_check" (o.healthCheck.map HealthCheckOptions.toJson))

/-- The same options as a change. -/
def NewService.toChange (o : NewService) : ServiceChange where
  protocol := some o.protocol
  destinationPort := some o.destinationPort
  proxyProtocol := some o.proxyProtocol
  http := o.http
  healthCheck := o.healthCheck

/-- The body that adds a service. -/
def NewService.toJson (o : NewService) : Json := o.toChange.toJson o.listenPort

end BalancerSync.Cloud
