import BalancerSync.Cloud.Request
import BalancerSync.Setting

/-!
# Desired backend services

What a Service wants of one of its listen ports. The settings are the same for all ports; they are
read once per port, in a fixed order, and reading stops at the first malformed one. Certificates
can be given by name, which takes a lookup in the cloud.

## Main Definitions

* `Desired.PortOptions` : the wishes for one port
* `Desired.PortOptions.extract` : reading them from the settings
* `Desired.PortReader` : reads the wishes when they are first asked for, and remembers the outcome
* `Desired.PortReader.newService`, `Desired.PortReader.change` : the wishes as options for adding
  and
  for changing a backend service
-/

namespace BalancerSync.Desired

/-- The time after which a lookup of a certificate is given up. -/
def certificateTimeout : Duration := .ofSeconds 5

/-- The wishes for one listen port. -/
structure PortOptions where
  destinationPort : Nat
  protocol : Cloud.Protocol
  proxyProtocol : Bool
  http : Option Cloud.HttpOptions
  healthCheck : Option Cloud.HealthCheckOptions
  deriving DecidableEq, Repr

/-- A port between 1 and 65535. -/
def validPort (n : Int) (what : String) : Except Error Nat :=
  if 0 < n ∧ n ≤ 65535 then .ok n.toNat
  else .error (.validation ("invalid " ++ what ++ " " ++ toString n))

/-- The port on the nodes that traffic for a listen port goes to. -/
def destinationPort (port : Cluster.ServicePort) (listenPort : Nat) : Except Error Nat :=
  match port.nodePort with
  | some n => validPort n "node port"
  | none => .error (.validation ("port " ++ toString listenPort ++ " has no node port"))

/-! ### Certificates -/

/-- The identifier of the certificate that a reference names: itself, if it is a number, or that of
the certificate with this name. -/
def resolveCertificate (reference : String) : Cloud.Operation Int :=
  match Text.int64? reference with
  | some id => pure id
  | none => do
    match ← Cloud.callWithin certificateTimeout (.getCertificate reference) with
    | none => .fail (.timeout ("resolving certificate " ++ Text.quoted reference))
    | some none => .fail (.notFound ("certificate " ++ Text.quoted reference))
    | some (some certificate) => pure certificate.id

/-- The identifiers of the certificates that references name, in their order. -/
def resolveCertificates : List String → Cloud.Operation (List Int)
  | [] => pure []
  | r :: rs => do
    let id ← resolveCertificate r
    let ids ← resolveCertificates rs
    return id :: ids

/-! ### Reading the settings -/

/-- The HTTP options, unless none is set. -/
def httpUnlessEmpty (o : Cloud.HttpOptions) : Option Cloud.HttpOptions :=
  if o = ⟨none, none, none, none, none⟩ then none else some o

/-- The HTTP options of a health check, unless none is set. -/
def checkHttpUnlessEmpty (o : Cloud.HealthCheckHttpOptions) :
    Option Cloud.HealthCheckHttpOptions :=
  if o = ⟨none, none, none, none⟩ then none else some o

/-- The health check, if at least one of its settings is present. What is not set follows the
service; HTTP options count only where the check speaks HTTP. -/
def readHealthCheck (service : Cluster.Service) (protocol : Cloud.Protocol) (destination : Nat) :
    Except Error (Option Cloud.HealthCheckOptions) :=
  if Setting.healthCheck.any fun s => s.isSet service then do
    let checkProtocol ← Setting.healthCheckProtocol.protocolValue service
    let port ← Setting.healthCheckPort.natural 65535 service
    let interval ← Setting.healthCheckInterval.seconds service
    let timeout ← Setting.healthCheckTimeout.seconds service
    let retries ← Setting.healthCheckRetries.natural 4294967295 service
    let domain ← Setting.healthCheckHttpDomain.text service
    let path ← Setting.healthCheckHttpPath.text service
    let tls ← Setting.healthCheckHttpValidateCertificate.bool service
    let statusCodes ← Setting.healthCheckHttpStatusCodes.list service
    let checkProtocol := checkProtocol.getD protocol
    let http := checkHttpUnlessEmpty ⟨domain, path, statusCodes, tls⟩
    return some
      { protocol := some checkProtocol
        port := some (port.getD destination)
        interval := interval
        timeout := timeout
        retries := retries
        http := if checkProtocol.isHttp then http else none }
  else .ok none

/-- The certificates that the settings name. -/
def readCertificates (service : Cluster.Service) : Cloud.Operation (Option (List Int)) := do
  match ← Program.ofExcept (Setting.httpCertificates.list service) with
  | none => return none
  | some references =>
    let ids ← (resolveCertificates references).within "service_opts::resolve_certificates"
    return some ids

/-- The wishes for a listen port. -/
def PortOptions.extract (service : Cluster.Service) (port : Cluster.ServicePort)
    (listenPort : Nat) : Cloud.Operation PortOptions := do
  let destination ← Program.ofExcept (Desired.destinationPort port listenPort)
  let proxyProtocol ← Program.ofExcept (Setting.usesProxyProtocol.bool service)
  let protocol ← Program.ofExcept (Setting.protocol.protocolValue service)
  let cookieName ← Program.ofExcept (Setting.httpCookieName.text service)
  let cookieLifetime ← Program.ofExcept (Setting.httpCookieLifetime.seconds service)
  let certificates ← readCertificates service
  let redirectHttp ← Program.ofExcept (Setting.httpRedirectHttp.bool service)
  let stickySessions ← Program.ofExcept (Setting.httpStickySessions.bool service)
  let protocol := protocol.getD .tcp
  let check ← Program.ofExcept (readHealthCheck service protocol destination)
  return {
    destinationPort := destination
    protocol := protocol
    proxyProtocol := proxyProtocol.getD false
    http := httpUnlessEmpty
      ⟨cookieName, cookieLifetime, certificates, redirectHttp, stickySessions⟩
    healthCheck := check }

/-- The wishes as options for adding a backend service. -/
def PortOptions.newService (o : PortOptions) (listenPort : Nat) : Cloud.NewService where
  protocol := o.protocol
  listenPort := listenPort
  destinationPort := o.destinationPort
  proxyProtocol := o.proxyProtocol
  http := o.http
  healthCheck := o.healthCheck

/-- The wishes as options for changing a backend service. -/
def PortOptions.change (o : PortOptions) : Cloud.ServiceChange where
  protocol := some o.protocol
  destinationPort := some o.destinationPort
  proxyProtocol := some o.proxyProtocol
  http := o.http
  healthCheck := o.healthCheck

/-! ### Reading once -/

/-- How far reading has come. -/
inductive Extraction where
  | pending
  | done (options : PortOptions)
  | failed (reason : String)
  deriving DecidableEq, Repr

/-- Reads the wishes for one port when they are first asked for, and remembers the outcome. -/
structure PortReader where
  service : Cluster.Service
  port : Cluster.ServicePort
  listenPort : Nat
  extraction : Extraction
  deriving DecidableEq, Repr

namespace PortReader

/-- A reader for a port, whose number has to be valid. -/
def ofPort (service : Cluster.Service) (port : Cluster.ServicePort) : Except Error PortReader := do
  let listenPort ← validPort port.port "port"
  return ⟨service, port, listenPort, .pending⟩

/-- The error of asking again after reading has failed. -/
def remembered (r : PortReader) (reason : String) : Error :=
  .validation ("port " ++ toString r.listenPort ++ ": " ++ reason)

/-- The wishes, and the reader that remembers them. -/
def extract (r : PortReader) : Cloud.Operation (Except Error PortOptions × PortReader) :=
  match r.extraction with
  | .done options => pure (.ok options, r)
  | .failed reason => pure (.error (r.remembered reason), r)
  | .pending => do
    match ← (PortOptions.extract r.service r.port r.listenPort).attempt with
    | .ok options => return (.ok options, { r with extraction := .done options })
    | .error e => return (.error e, { r with extraction := .failed e.message })

/-- The wishes as options for adding a backend service. -/
def newService (r : PortReader) : Cloud.Operation (Except Error Cloud.NewService × PortReader) := do
  let (outcome, reader) ← r.extract
  return (outcome.map fun o => o.newService r.listenPort, reader)

/-- The wishes as options for changing a backend service. -/
def change (r : PortReader) :
    Cloud.Operation (Except Error Cloud.ServiceChange × PortReader) := do
  let (outcome, reader) ← r.extract
  return (outcome.map PortOptions.change, reader)

end PortReader

end BalancerSync.Desired
