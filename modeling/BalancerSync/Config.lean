import BalancerSync.Setting

/-!
# Configuration

The controller is configured by environment variables. Values are trimmed, and a blank value counts
as absent. Unlike the settings of a Service, of which the first malformed one is reported, all
variables are looked at before loading fails, so an operator sees every problem at once. A variable
that cannot be read counts with its default in the checks that involve two variables.

## Main Definitions

* `Version.name`, `Version.number` : what the controller reports about itself
* `Config`, `Config.Defaults` : the configuration, and its part that the settings of a Service can
  override
* `Config.Reading` : a value with the problems met while reading it
* `Config.load` : the configuration that an environment describes
* `Config.summary` : the text for the log, without the token
-/

namespace BalancerSync.Version

/-! ### The program -/

def name : String := "hcloud-lb-controller"

def number : String := "0.1.0"

end BalancerSync.Version

namespace BalancerSync

/-! ### The configuration -/

/-- What holds for a load balancer unless its Service says otherwise. -/
structure Config.Defaults where
  location : Option String
  networkZone : Option String
  usePrivateIp : Bool
  disablePrivateIngress : Bool
  disablePublicNetwork : Bool
  disableIpv6 : Bool
  /-- The start of names that are made up, usually the name of the cluster. -/
  namePrefix : Option String
  deriving DecidableEq, Repr

/-- The configuration of the controller. -/
structure Config where
  token : String
  endpoint : String
  /-- The private network, by its identifier or name. -/
  network : Option String
  enabled : Bool
  /-- The time between two polls of an action. -/
  actionPollInterval : Duration
  /-- The time before a load balancer that was busy is attached again. -/
  attachRetryDelay : Duration
  defaults : Config.Defaults
  deriving DecidableEq, Repr

namespace Config

/-- The variables of an environment. -/
abbrev Environment : Type := String → Option String

/-! ### Names and defaults -/

def tokenVar : String := "HCLOUD_TOKEN"
def endpointVar : String := "HCLOUD_ENDPOINT"
def networkVar : String := "HCLOUD_NETWORK"
def actionPollIntervalVar : String := "HCLOUD_ACTION_POLL_INTERVAL"
def enabledVar : String := "HCLOUD_LOAD_BALANCERS_ENABLED"
def locationVar : String := "HCLOUD_LOAD_BALANCERS_LOCATION"
def networkZoneVar : String := "HCLOUD_LOAD_BALANCERS_NETWORK_ZONE"
def usePrivateIpVar : String := "HCLOUD_LOAD_BALANCERS_USE_PRIVATE_IP"
def disablePrivateIngressVar : String := "HCLOUD_LOAD_BALANCERS_DISABLE_PRIVATE_INGRESS"
def disablePublicNetworkVar : String := "HCLOUD_LOAD_BALANCERS_DISABLE_PUBLIC_NETWORK"
def disableIpv6Var : String := "HCLOUD_LOAD_BALANCERS_DISABLE_IPV6"
def attachRetryDelayVar : String := "HCLOUD_LOAD_BALANCERS_ATTACH_RETRY_DELAY"
def namePrefixVar : String := "HCLOUD_LOAD_BALANCERS_NAME_PREFIX"

/-- The length of a token in bytes. -/
def tokenLength : Nat := 64

def defaultEndpoint : String := "https://api.hetzner.cloud/v1"

def defaultPollInterval : Duration := .ofMillis 500

def defaultRetryDelay : Duration := .ofSeconds 1

/-- The defaults in an environment that says nothing about them. -/
def Defaults.none : Defaults := ⟨.none, .none, false, false, false, false, .none⟩

/-! ### Reading -/

/-- A value with the problems met while reading it. -/
structure Reading (α : Type) where
  value : α
  problems : List String

/-- The trimmed value of a variable that is present and not blank. -/
def text? (env : Environment) (var : String) : Option String :=
  ((env var).map Text.trimmed).filter (· ≠ "")

/-- The value of a variable, or the default if it is absent or cannot be read. -/
def read {α : Type} (env : Environment) (var : String) (default : α)
    (parse : String → Except String α) : Reading α :=
  match text? env var with
  | none => ⟨default, []⟩
  | some v =>
    match parse v with
    | .ok a => ⟨a, []⟩
    | .error reason => ⟨default, [var ++ ": " ++ reason]⟩

def readBool (env : Environment) (var : String) (default : Bool) : Reading Bool :=
  read env var default Setting.parseBool

def readDuration (env : Environment) (var : String) (default : Duration) : Reading Duration :=
  read env var default Setting.parseDuration

/-- The token. It has to be there and to have the right length. -/
def readToken (env : Environment) : Reading String :=
  match text? env tokenVar with
  | none => ⟨"", [tokenVar ++ ": required"]⟩
  | some token =>
    if token.utf8ByteSize = tokenLength then ⟨token, []⟩
    else ⟨token, [tokenVar ++ ": must be " ++ toString tokenLength ++ " characters"]⟩

/-- The problems that show only when the values are taken together. -/
def crossProblems (c : Config) : List String :=
  (if c.actionPollInterval = .zero then [actionPollIntervalVar ++ ": must be greater than zero"]
    else []) ++
  (if c.defaults.usePrivateIp && c.network.isNone then
    [usePrivateIpVar ++ ": requires " ++ networkVar ++ " to be set"] else [])

/-- The configuration that an environment describes, and everything that is wrong with it. -/
def read? (env : Environment) : Reading Config :=
  let token := readToken env
  let enabled := readBool env enabledVar true
  let pollInterval := readDuration env actionPollIntervalVar defaultPollInterval
  let retryDelay := readDuration env attachRetryDelayVar defaultRetryDelay
  let usePrivateIp := readBool env usePrivateIpVar false
  let disablePrivateIngress := readBool env disablePrivateIngressVar false
  let disablePublicNetwork := readBool env disablePublicNetworkVar false
  let disableIpv6 := readBool env disableIpv6Var false
  let config : Config :=
    { token := token.value
      endpoint := (text? env endpointVar).getD defaultEndpoint
      network := text? env networkVar
      enabled := enabled.value
      actionPollInterval := pollInterval.value
      attachRetryDelay := retryDelay.value
      defaults :=
        { location := text? env locationVar
          networkZone := text? env networkZoneVar
          usePrivateIp := usePrivateIp.value
          disablePrivateIngress := disablePrivateIngress.value
          disablePublicNetwork := disablePublicNetwork.value
          disableIpv6 := disableIpv6.value
          namePrefix := text? env namePrefixVar } }
  ⟨config, token.problems ++ enabled.problems ++ pollInterval.problems ++ retryDelay.problems ++
    usePrivateIp.problems ++ disablePrivateIngress.problems ++ disablePublicNetwork.problems ++
    disableIpv6.problems ++ crossProblems config⟩

/-- The configuration that an environment describes, unless there is anything wrong with it. -/
def load (env : Environment) : Except Error Config :=
  let reading := read? env
  if reading.problems.isEmpty then .ok reading.value
  else .error (.config ("; ".intercalate reading.problems))

/-! ### The text for the log -/

def showOptional (s : Option String) : String :=
  match s with
  | some s => "Some(" ++ Text.quoted s ++ ")"
  | none => "None"

def showBool (b : Bool) : String := if b then "true" else "false"

/-- A name with the texts of its fields. -/
def showFields (name : String) (fields : List (String × String)) : String :=
  name ++ " \x7b " ++ ", ".intercalate (fields.map fun f => f.1 ++ ": " ++ f.2) ++ " \x7d"

def Defaults.summary (d : Defaults) : String :=
  showFields "LoadBalancerDefaults"
    [("location", showOptional d.location),
      ("network_zone", showOptional d.networkZone),
      ("use_private_ip", showBool d.usePrivateIp),
      ("disable_private_ingress", showBool d.disablePrivateIngress),
      ("disable_public_network", showBool d.disablePublicNetwork),
      ("disable_ipv6", showBool d.disableIpv6),
      ("name_prefix", showOptional d.namePrefix)]

/-- The text for the log, in which the token is left out. -/
def summary (c : Config) : String :=
  showFields "ControllerConfig"
    [("token", Text.quoted "<redacted>"),
      ("endpoint", Text.quoted c.endpoint),
      ("network", showOptional c.network),
      ("enabled", showBool c.enabled),
      ("action_poll_interval", c.actionPollInterval.text),
      ("attach_retry_delay", c.attachRetryDelay.text),
      ("load_balancer", c.defaults.summary)]

end Config

end BalancerSync
