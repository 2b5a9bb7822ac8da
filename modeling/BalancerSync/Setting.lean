import BalancerSync.Cloud.LoadBalancer
import BalancerSync.Cluster.Object
import BalancerSync.Duration.Parser
import BalancerSync.Error
import BalancerSync.Net
import BalancerSync.Text.Lines
import BalancerSync.Text.Numeral

/-!
# Settings of a Service

A Service carries the wishes for its load balancer as settings, which are texts under keys of one
domain. A setting that is absent reads as nothing; one that is present but malformed is an error.
Values are trimmed before they are read.

## Main Definitions

* `Setting` : the settings that the controller understands
* `Setting.key` : the key of a setting
* `Setting.raw?`, `Setting.read` : the value of a setting on a Service
* `Setting.bool`, `Setting.natural`, `Setting.seconds`, … : typed readers
-/

namespace BalancerSync

/-- The settings that the controller understands. -/
inductive Setting where
  | name
  | location
  | networkZone
  | hostname
  | type
  | algorithm
  | usePrivateIp
  | privateIpv4
  | disablePublicNetwork
  | disablePrivateIngress
  | ipv6Disabled
  | protocol
  | usesProxyProtocol
  | httpCookieName
  | httpCookieLifetime
  | httpCertificates
  | httpRedirectHttp
  | httpStickySessions
  | healthCheckProtocol
  | healthCheckPort
  | healthCheckInterval
  | healthCheckTimeout
  | healthCheckRetries
  | healthCheckHttpDomain
  | healthCheckHttpPath
  | healthCheckHttpValidateCertificate
  | healthCheckHttpStatusCodes
  | nodeSelector
  deriving DecidableEq, Repr

namespace Setting

/-- The part of the key after the domain. -/
def label : Setting → String
  | name => "name"
  | location => "location"
  | networkZone => "network-zone"
  | hostname => "hostname"
  | type => "type"
  | algorithm => "algorithm-type"
  | usePrivateIp => "use-private-ip"
  | privateIpv4 => "private-ipv4"
  | disablePublicNetwork => "disable-public-network"
  | disablePrivateIngress => "disable-private-ingress"
  | ipv6Disabled => "ipv6-disabled"
  | protocol => "protocol"
  | usesProxyProtocol => "uses-proxyprotocol"
  | httpCookieName => "http-cookie-name"
  | httpCookieLifetime => "http-cookie-lifetime"
  | httpCertificates => "http-certificates"
  | httpRedirectHttp => "http-redirect-http"
  | httpStickySessions => "http-sticky-sessions"
  | healthCheckProtocol => "health-check-protocol"
  | healthCheckPort => "health-check-port"
  | healthCheckInterval => "health-check-interval"
  | healthCheckTimeout => "health-check-timeout"
  | healthCheckRetries => "health-check-retries"
  | healthCheckHttpDomain => "health-check-http-domain"
  | healthCheckHttpPath => "health-check-http-path"
  | healthCheckHttpValidateCertificate => "health-check-http-validate-certificate"
  | healthCheckHttpStatusCodes => "health-check-http-status-codes"
  | nodeSelector => "node-selector"

/-- The key of a setting. -/
def key (s : Setting) : String := "load-balancer.hetzner.cloud/" ++ s.label

/-- All the settings. -/
def all : List Setting :=
  [name, location, networkZone, hostname, type, algorithm, usePrivateIp, privateIpv4,
    disablePublicNetwork, disablePrivateIngress, ipv6Disabled, protocol, usesProxyProtocol,
    httpCookieName, httpCookieLifetime, httpCertificates, httpRedirectHttp, httpStickySessions,
    healthCheckProtocol, healthCheckPort, healthCheckInterval, healthCheckTimeout,
    healthCheckRetries, healthCheckHttpDomain, healthCheckHttpPath,
    healthCheckHttpValidateCertificate, healthCheckHttpStatusCodes, nodeSelector]

/-- The settings that make a health check an explicit one. -/
def healthCheck : List Setting :=
  [healthCheckProtocol, healthCheckPort, healthCheckInterval, healthCheckTimeout,
    healthCheckRetries, healthCheckHttpDomain, healthCheckHttpPath,
    healthCheckHttpValidateCertificate, healthCheckHttpStatusCodes]

/-- The value of a setting as it was written. -/
def raw? (s : Setting) (service : Cluster.Service) : Option String :=
  service.metadata.annotations.get? s.key

/-- Whether a setting is present, even with an empty value. -/
def isSet (s : Setting) (service : Cluster.Service) : Bool := (s.raw? service).isSome

/-- The value of a setting, read by `parse` after trimming; its complaint becomes the reason. -/
def read {α : Type} (s : Setting) (parse : String → Except String α)
    (service : Cluster.Service) : Except Error (Option α) :=
  match s.raw? service with
  | none => .ok none
  | some value =>
    match parse (Text.trimmed value) with
    | .ok a => .ok (some a)
    | .error reason => .error (.setting s.key reason)

/-! ### Values -/

/-- The truth value of a word; several words stand for each. -/
def parseBool (s : String) : Except String Bool :=
  if ["1", "t", "T", "true", "TRUE", "True"].contains s then .ok true
  else if ["0", "f", "F", "false", "FALSE", "False"].contains s then .ok false
  else .error ("invalid boolean " ++ Text.quoted s)

/-- The duration that a text writes. -/
def parseDuration (s : String) : Except String Duration :=
  (Duration.parse s).mapError (Duration.ParseError.message s)

/-- The number that `read?` finds in a text. -/
def parseInteger (read? : String → Option Int) (s : String) : Except String Int :=
  match read? s with
  | some n => .ok n
  | none => .error ("invalid integer " ++ Text.quoted s)

/-- The number without sign of at most `max` that a text writes. -/
def parseNatural (max : Nat) (s : String) : Except String Nat :=
  match Text.natural? max s with
  | some n => .ok n
  | none => .error ("invalid integer " ++ Text.quoted s)

/-- The protocol that a word names. -/
def parseProtocol (s : String) : Except String Cloud.Protocol :=
  match Cloud.Protocol.ofText? s with
  | some p => .ok p
  | none => .error ("unsupported protocol: " ++ s)

/-- The algorithm that a word names. -/
def parseAlgorithm (s : String) : Except String Cloud.Algorithm :=
  match Cloud.Algorithm.ofText? s with
  | some a => .ok a
  | none => .error ("unsupported algorithm: " ++ s)

/-- The address that a text writes. -/
def parseIPv4 (s : String) : Except String Net.IPv4 :=
  match Net.IPv4.parse? s with
  | some ip => .ok ip
  | none => .error ("invalid IPv4 address " ++ Text.quoted s)

/-! ### Typed readers -/

def text (s : Setting) : Cluster.Service → Except Error (Option String) := s.read .ok

def bool (s : Setting) : Cluster.Service → Except Error (Option Bool) := s.read parseBool

/-- A number without sign of at most `max`. -/
def natural (s : Setting) (max : Nat) : Cluster.Service → Except Error (Option Nat) :=
  s.read (parseNatural max)

/-- A signed number of 64 bits. -/
def integer (s : Setting) : Cluster.Service → Except Error (Option Int) :=
  s.read (parseInteger Text.int64?)

/-- A duration in whole seconds, since the cloud keeps no fractions. -/
def seconds (s : Setting) : Cluster.Service → Except Error (Option Duration) :=
  s.read fun v => (parseDuration v).map Duration.truncated

/-- The items of a comma-separated list. -/
def list (s : Setting) : Cluster.Service → Except Error (Option (List String)) :=
  s.read fun v => .ok (Text.listItems v)

/-- A protocol, with ASCII letters in either case. -/
def protocolValue (s : Setting) : Cluster.Service → Except Error (Option Cloud.Protocol) :=
  s.read fun v => parseProtocol v.toLower

/-- An algorithm, with ASCII letters in either case. -/
def algorithmValue (s : Setting) : Cluster.Service → Except Error (Option Cloud.Algorithm) :=
  s.read fun v => parseAlgorithm v.toLower

def ipv4 (s : Setting) : Cluster.Service → Except Error (Option Net.IPv4) := s.read parseIPv4

end Setting

end BalancerSync
