import BalancerSync.Cloud.Options

/-!
# Changing a backend service

Two readings of the same options: what they make of a service, and whether they would make anything
else of it than what it is. The second decides whether a call to the cloud is worth making.

## Main Definitions

* `ServiceChange.apply` : the service with the options applied
* `NewService.create` : the service that adding makes
* `ServiceChange.differs` : whether an option that is set has another value in the service

Certificates and status codes are compared without regard to their order.
-/

namespace BalancerSync.Cloud

/-! ### Applying -/

def HttpOptions.apply (o : HttpOptions) (http : ServiceHttp) : ServiceHttp where
  cookieName := o.cookieName.getD http.cookieName
  cookieLifetime := o.cookieLifetime.getD http.cookieLifetime
  certificates := o.certificates.getD http.certificates
  redirectHttp := o.redirectHttp.getD http.redirectHttp
  stickySessions := o.stickySessions.getD http.stickySessions

def HealthCheckHttpOptions.apply (o : HealthCheckHttpOptions) (http : HealthCheckHttp) :
    HealthCheckHttp where
  domain := o.domain.getD http.domain
  path := o.path.getD http.path
  response := http.response
  statusCodes := o.statusCodes.getD http.statusCodes
  tls := o.tls.getD http.tls

def HealthCheckOptions.apply (o : HealthCheckOptions) (check : HealthCheck) : HealthCheck where
  protocol := o.protocol.getD check.protocol
  port := o.port.getD check.port
  interval := o.interval.getD check.interval
  timeout := o.timeout.getD check.timeout
  retries := o.retries.getD check.retries
  http := match o.http with
    | none => check.http
    | some h => some (h.apply (check.http.getD .unset))

/-- The HTTP part with optional options applied. Options on a missing part make one. -/
def applyHttp (o : Option HttpOptions) (http : Option ServiceHttp) : Option ServiceHttp :=
  match o with
  | none => http
  | some h => some (h.apply (http.getD .unset))

/-- The health check with optional options applied. -/
def applyHealthCheck (o : Option HealthCheckOptions) (check : HealthCheck) : HealthCheck :=
  match o with
  | none => check
  | some h => h.apply check

/-- The service with the options applied. -/
def ServiceChange.apply (o : ServiceChange) (s : BackendService) : BackendService where
  protocol := o.protocol.getD s.protocol
  listenPort := s.listenPort
  destinationPort := o.destinationPort.getD s.destinationPort
  proxyProtocol := o.proxyProtocol.getD s.proxyProtocol
  http := applyHttp o.http s.http
  healthCheck := applyHealthCheck o.healthCheck s.healthCheck

/-- The service that adding makes. -/
def NewService.create (o : NewService) : BackendService where
  protocol := o.protocol
  listenPort := o.listenPort
  destinationPort := o.destinationPort
  proxyProtocol := o.proxyProtocol
  http := applyHttp o.http none
  healthCheck := applyHealthCheck o.healthCheck (.implicit o.destinationPort)

/-! ### Differences -/

/-- Whether a value is set and another than what is there. -/
def differsFrom {α : Type} [DecidableEq α] (want : Option α) (have_ : α) : Bool :=
  match want with
  | none => false
  | some w => decide (w ≠ have_)

/-- The certificates in ascending order. -/
def sortedIds (ids : List Int) : List Int := ids.mergeSort fun a b => decide (a ≤ b)

/-- The texts in ascending order. -/
def sortedTexts (texts : List String) : List String := texts.mergeSort fun a b => decide (a ≤ b)

def HttpOptions.differs (o : HttpOptions) (current : Option ServiceHttp) : Bool :=
  let http := current.getD .unset
  differsFrom o.cookieName http.cookieName ||
  differsFrom o.cookieLifetime http.cookieLifetime ||
  differsFrom (o.certificates.map sortedIds) (sortedIds http.certificates) ||
  differsFrom o.redirectHttp http.redirectHttp ||
  differsFrom o.stickySessions http.stickySessions

def HealthCheckHttpOptions.differs (o : HealthCheckHttpOptions)
    (current : Option HealthCheckHttp) : Bool :=
  let http := current.getD .unset
  differsFrom o.domain http.domain ||
  differsFrom o.path http.path ||
  differsFrom (o.statusCodes.map sortedTexts) (sortedTexts http.statusCodes) ||
  differsFrom o.tls http.tls

def HealthCheckOptions.differs (o : HealthCheckOptions) (check : HealthCheck) : Bool :=
  differsFrom o.protocol check.protocol ||
  differsFrom o.port check.port ||
  differsFrom o.interval check.interval ||
  differsFrom o.timeout check.timeout ||
  differsFrom o.retries check.retries ||
  o.http.any fun h => h.differs check.http

/-- Whether an option that is set has another value in the service. -/
def ServiceChange.differs (o : ServiceChange) (s : BackendService) : Bool :=
  differsFrom o.protocol s.protocol ||
  differsFrom o.destinationPort s.destinationPort ||
  differsFrom o.proxyProtocol s.proxyProtocol ||
  (o.http.any fun h => h.differs s.http) ||
  o.healthCheck.any fun h => h.differs s.healthCheck

end BalancerSync.Cloud
