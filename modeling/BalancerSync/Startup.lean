import BalancerSync.Cloud.Wire.Connection
import BalancerSync.CommandLine
import BalancerSync.Config
import BalancerSync.Engine.Identity

/-!
# Starting the controller

The command line is read first, then the configuration, and then the private network is looked up,
so that a name that the cloud does not know stops the controller before it touches anything. What
follows needs a cluster.

## Main Definitions

* `Startup.engine` : what the configuration and the cloud say about every Service
* `Startup.Outcome` : how the program ends
* `Startup.start` : the end of the program where there is no cluster
-/

namespace BalancerSync.Startup

/-- The network that a configuration names. It has to exist. -/
def network (c : Config) : Cloud.Operation (Option Int) :=
  match c.network with
  | none => pure none
  | some text => do
    match ← Cloud.resolveNetwork text with
    | some n => return some n.id
    | none => Program.fail (.config ("network " ++ text ++ " not found"))

/-- What the configuration and the cloud say about every Service. -/
def engine (c : Config) : Cloud.Operation Engine := do
  return ⟨← network c, c.defaults, c.attachRetryDelay⟩

/-- How the program ends. -/
inductive Outcome where
  | printed (line : String)
  | stopped (stop : CommandLine.Stop)
  | failed (e : Error)
  deriving DecidableEq, Repr

namespace Outcome

def exitCode : Outcome → Nat
  | printed _ => 0
  | stopped stop => stop.exitCode
  | failed _ => 1

/-- The category of an error as it is told when the program ends. The text of a configuration error
follows it. -/
def label : Error → String
  | .kube _ => "KubeError"
  | .http _ => "HttpError"
  | .serialization _ => "SerializationError"
  | .config text => "ConfigError(" ++ Text.quoted text ++ ")"
  | .validation _ => "ValidationError"
  | .setting _ _ => "Annotation"
  | .notFound _ => "NotFound"
  | .nonUnique _ => "NonUniqueResult"
  | .alreadyExists _ => "AlreadyExists"
  | .cloudApi _ _ => "CloudApi"
  | .actionFailed _ _ _ => "ActionFailed"
  | .timeout _ => "Timeout"
  | .within _ _ => "Operation"
  | .finalizer _ => "FinalizerError"

end Outcome

/-- The line that tells the version. -/
def versionLine : String := Version.name ++ " v" ++ Version.number

/-- The variables that are looked at. -/
def variableNames : List String :=
  [CommandLine.Draft.namespaceVar, CommandLine.Draft.bindAddressVar, CommandLine.Draft.logJsonVar,
    Config.tokenVar, Config.endpointVar, Config.networkVar, Config.actionPollIntervalVar,
    Config.enabledVar, Config.locationVar, Config.networkZoneVar, Config.usePrivateIpVar,
    Config.disablePrivateIngressVar, Config.disablePublicNetworkVar, Config.disableIpv6Var,
    Config.attachRetryDelayVar, Config.namePrefixVar]

/-- The connection to the cloud of a configuration. -/
def connect (c : Config) (answers : List (Option Cloud.Wire.Answer)) : Cloud.Wire.Connection :=
  .ofClient (.ofEndpoint c.endpoint c.token) answers c.actionPollInterval

/-- The end of the controller where the cloud gives these answers and there is no cluster, and the
messages that the cloud received. -/
def run (env : Config.Environment) (answers : List (Option Cloud.Wire.Answer)) :
    Error × List Cloud.Wire.Message :=
  match Config.load env with
  | .error e => (e, [])
  | .ok c =>
    match (connect c answers).run (engine c) with
    | (.error e, s) => (e, s.received)
    | (.ok _, s) => (.kube .noCluster, s.received)

/-- The end of the program where the cloud gives these answers and there is no cluster, and the
messages that the cloud received. -/
def start (env : Config.Environment) (answers : List (Option Cloud.Wire.Answer))
    (arguments : List String) : Outcome × List Cloud.Wire.Message :=
  match CommandLine.Command.ofArguments env arguments with
  | .error stop => (.stopped stop, [])
  | .ok .version => (.printed versionLine, [])
  | .ok (.run _) =>
    let (e, received) := run env answers
    (.failed e, received)

end BalancerSync.Startup
