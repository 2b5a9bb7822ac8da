import BalancerSync.Cloud.Action
import BalancerSync.Cloud.LoadBalancer
import BalancerSync.Json.Record
import BalancerSync.Setting

/-!
# Resources on the wire

How the resources in the cloud's answers are read. A value of another form than expected cannot be
read at all. A load balancer of the right form may still use a protocol or an algorithm that the
controller does not know.

## Main Definitions

* `Wire.action?`, `Wire.certificate?`, `Wire.network?` : the resources that need no second look
* `Wire.loadBalancer?` : a load balancer
-/

namespace BalancerSync.Cloud.Wire

open Json

/-- A port number. -/
def port? : Json → Option Nat := natural? 65536

/-- A number of seconds. -/
def seconds? (j : Json) : Option Duration := (natural? 18446744073709551616 j).map .ofSeconds

def ipv4? (j : Json) : Option Net.IPv4 := j.text?.bind Net.IPv4.parse?

def ipv6? (j : Json) : Option Net.IPv6 := j.text?.bind Net.IPv6.parse?

/-! ### Actions -/

def actionError? (j : Json) : Option ActionError := do
  let r ← record? ["code", "message"] j
  return ⟨← r.required "code" text?, ← r.required "message" text?⟩

/-- The status that a word stands for. A word that is not known means that nothing is settled. -/
def actionStatus (s : String) : ActionStatus :=
  if s = "success" then .success else if s = "error" then .error else .running

def action? (j : Json) : Option Action := do
  let r ← record? ["id", "command", "status", "progress", "error"] j
  return {
    id := ← r.required "id" integer?
    command := ← r.required "command" text?
    status := actionStatus (← r.required "status" text?)
    progress := ← r.required "progress" (natural? 256)
    error := ← r.optional "error" actionError? }

/-! ### Named resources -/

/-- The identifier and the name of a resource. -/
def idAndName? (j : Json) : Option (Int × String) := do
  let r ← record? ["id", "name"] j
  return (← r.required "id" integer?, ← r.required "name" text?)

def certificate? (j : Json) : Option Certificate := (idAndName? j).map fun p => ⟨p.1, p.2⟩

def network? (j : Json) : Option Network := (idAndName? j).map fun p => ⟨p.1, p.2⟩

/-! ### Backend services -/

def serviceHttp? (j : Json) : Option ServiceHttp := do
  let r ← record? ["cookie_name", "cookie_lifetime", "certificates", "redirect_http",
    "sticky_sessions"] j
  return {
    cookieName := ← r.withDefault "cookie_name" "" text?
    cookieLifetime := ← r.withDefault "cookie_lifetime" .zero seconds?
    certificates := ← r.withDefault "certificates" [] (list? integer?)
    redirectHttp := ← r.withDefault "redirect_http" false bool?
    stickySessions := ← r.withDefault "sticky_sessions" false bool? }

def healthCheckHttp? (j : Json) : Option HealthCheckHttp := do
  let r ← record? ["domain", "path", "response", "status_codes", "tls"] j
  return {
    domain := (← r.withDefault "domain" none (nullable? text?)).getD ""
    path := ← r.withDefault "path" "" text?
    response := (← r.withDefault "response" none (nullable? text?)).getD ""
    statusCodes := ← r.withDefault "status_codes" [] (list? text?)
    tls := ← r.withDefault "tls" false bool? }

/-- The protocol that a word names. -/
def protocol (word : String) : Except Error Protocol :=
  (Setting.parseProtocol word).mapError .validation

/-- The algorithm that a word names. -/
def algorithm (word : String) : Except Error Algorithm :=
  (Setting.parseAlgorithm word).mapError .validation

def healthCheck? (j : Json) : Option (Except Error HealthCheck) := do
  let r ← record? ["protocol", "port", "interval", "timeout", "retries", "http"] j
  let word ← r.required "protocol" text?
  let port ← r.required "port" port?
  let interval ← r.required "interval" seconds?
  let timeout ← r.required "timeout" seconds?
  let retries ← r.required "retries" (natural? 4294967296)
  let http ← r.optional "http" healthCheckHttp?
  return (protocol word).map fun p => ⟨p, port, interval, timeout, retries, http⟩

def backendService? (j : Json) : Option (Except Error BackendService) := do
  let r ← record? ["protocol", "listen_port", "destination_port", "proxyprotocol", "http",
    "health_check"] j
  let word ← r.required "protocol" text?
  let listenPort ← r.required "listen_port" port?
  let destinationPort ← r.required "destination_port" port?
  let proxyProtocol ← r.required "proxyprotocol" bool?
  let http ← r.optional "http" serviceHttp?
  let check ← r.required "health_check" healthCheck?
  return do
    let p ← protocol word
    return ⟨p, listenPort, destinationPort, proxyProtocol, http, ← check⟩

/-! ### Load balancers -/

/-- A target, unless it is of a kind that the controller leaves alone. -/
def target? (j : Json) : Option (Option Target) := do
  let r ← record? ["type", "server", "use_private_ip"] j
  let type ← r.required "type" text?
  let server ← r.optional "server" (envelope? "id" integer?)
  let usePrivateIp ← r.withDefault "use_private_ip" false bool?
  return if type = "server" then server.map (⟨·, usePrivateIp⟩) else none

/-- An address that may be missing in either of two ways. -/
def address? {α : Type} (read : Json → Option α) (j : Json) : Option (Option α) := do
  (← record? ["ip"] j).optional "ip" read

def publicInterface? (j : Json) : Option PublicInterface := do
  let r ← record? ["enabled", "ipv4", "ipv6"] j
  return {
    enabled := ← r.required "enabled" bool?
    ipv4 := (← r.optional "ipv4" (address? ipv4?)).join
    ipv6 := (← r.optional "ipv6" (address? ipv6?)).join }

def attachment? (j : Json) : Option Attachment := do
  let r ← record? ["network", "ip"] j
  return ⟨← r.required "network" integer?, ← r.required "ip" ipv4?⟩

/-- The name and the network zone of a location. -/
def location? (j : Json) : Option (String × String) := do
  let r ← record? ["name", "network_zone"] j
  return (← r.required "name" text?, ← r.required "network_zone" text?)

/-- A load balancer. Its form is looked at before its words. -/
def loadBalancer? (j : Json) : Option (Except Error LoadBalancer) := do
  let r ← record? ["id", "name", "labels", "algorithm", "load_balancer_type", "location",
    "public_net", "private_net", "services", "targets", "protection"] j
  let id ← r.required "id" integer?
  let name ← r.required "name" text?
  let labels ← r.withDefault "labels" .empty labels?
  let word ← r.required "algorithm" (envelope? "type" text?)
  let type ← r.required "load_balancer_type" (envelope? "name" text?)
  let (location, networkZone) ← r.required "location" location?
  let publicInterface ← r.required "public_net" publicInterface?
  let attachments ← r.withDefault "private_net" [] (list? attachment?)
  let services ← r.withDefault "services" [] (list? backendService?)
  let targets ← r.withDefault "targets" [] (list? target?)
  let deleteProtection ← r.required "protection" (envelope? "delete" bool?)
  return do
    let algorithm ← algorithm word
    let services ← services.mapM fun s => s
    return { id, name, labels, algorithm, type, location, networkZone, publicInterface, attachments,
             services, targets := targets.filterMap fun t => t, deleteProtection }

end BalancerSync.Cloud.Wire
