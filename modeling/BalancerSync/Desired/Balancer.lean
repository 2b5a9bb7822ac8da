import BalancerSync.Cloud.Options
import BalancerSync.Config
import BalancerSync.Selector.Basic
import BalancerSync.Selector.Parser

/-!
# The desired load balancer

What a Service wants of its load balancer as a whole: name, place, shape, networks, public interface
and the addresses to publish. The settings of the Service override the defaults. Wishes without a
default stay open if there is no setting, and what is open is never changed.

A load balancer is named by a setting of its Service or else after the Service. A name that is made
up consists of lower-case ASCII letters, digits and hyphens, is at most 63 characters long and does
not end in a hyphen.

## Main Definitions

* `Desired.sanitize` : a text as an acceptable name
* `Desired.defaultName`, `Desired.name` : the name made up for a Service, and that of its load
  balancer
* `Desired.Balancer` : the wishes
* `Desired.Balancer.ofService` : the wishes of a Service; the first malformed setting is an error
* `Desired.Balancer.creation` : what to create when there is no load balancer yet
* `Desired.uidLabel` : the label that ties a load balancer to its Service
-/

namespace BalancerSync.Desired

/-! ### Names -/

/-- The length that the cloud accepts. -/
def maxNameLength : Nat := 63

/-- The lower-case form of a character as far as it matters for names. Of the characters outside
ASCII only the dotted capital I and the Kelvin sign have one with an ASCII letter in it; the dot of
the former stays behind as a character of its own. -/
def lowercase (c : Char) : List Char :=
  if c = '\u0130' then ['i', '\u0307']
  else if c = '\u212a' then ['k']
  else [c.toLower]

/-- The characters of names. -/
def isNameChar (c : Char) : Bool := c.isLower || c.isDigit || c == '-'

/-- The character in a name, where a hyphen stands for every unacceptable one. -/
def nameChar (c : Char) : Char := if isNameChar c then c else '-'

/-- The text without the hyphens at its end. -/
def dropHyphens (cs : List Char) : List Char := (cs.reverse.dropWhile (· == '-')).reverse

/-- A text as an acceptable name. The hyphens at the end go last, since cutting can bring new ones
there. -/
def sanitizeChars (cs : List Char) : List Char :=
  dropHyphens (((cs.flatMap lowercase).map nameChar).take maxNameLength)

/-- A text as an acceptable name. -/
def sanitize (s : String) : String := String.ofList (sanitizeChars s.toList)

/-- The name made up for a Service from the prefix, the namespace and the name. -/
def defaultName (service : Cluster.Service) (namePrefix : Option String) : String :=
  let parts := [service.anyNamespace, service.anyName]
  sanitize ("-".intercalate (match namePrefix with
    | some p => p :: parts
    | none => parts))

/-- The name of the load balancer of a Service: the one that is set, or one made up. -/
def name (service : Cluster.Service) (defaults : Config.Defaults) : Except Error String := do
  match ← Setting.name.text service with
  | some "" | none => return defaultName service defaults.namePrefix
  | some name => return name

/-! ### Wishes -/

/-- The label that ties a load balancer to its Service. -/
def uidLabel : String := "hcloud-ccm/service-uid"

/-- What a Service wants of its load balancer as a whole. -/
structure Balancer where
  name : String
  type : Option String
  algorithm : Option Cloud.Algorithm
  location : Option String
  networkZone : Option String
  usePrivateIp : Bool
  privateIpv4 : Option Net.IPv4
  /-- Whether the public interface is on; open if not set. -/
  publicInterface : Option Bool
  /-- Whether the public interface is on at first. -/
  createPublicInterface : Bool
  disablePrivateIngress : Bool
  disableIpv6 : Bool
  hostname : Option String
  nodeSelector : Selector
  deriving DecidableEq, Repr

/-- The selector of a Service for its nodes; all nodes if not set. -/
def nodeSelector (service : Cluster.Service) : Except Error Selector := do
  match ← Setting.nodeSelector.text service with
  | none => return .all
  | some text =>
    (Selector.parse text).mapError fun e => .setting Setting.nodeSelector.key e.message

namespace Balancer

/-- The wishes of a Service. The settings are read in this order, and the first malformed one is the
error. -/
def ofService (service : Cluster.Service) (defaults : Config.Defaults) :
    Except Error Balancer := do
  let name ← Desired.name service defaults
  let location ← Setting.location.text service
  let networkZone ← Setting.networkZone.text service
  let type ← Setting.type.text service
  let algorithm ← Setting.algorithm.algorithmValue service
  let usePrivateIp ← Setting.usePrivateIp.bool service
  let privateIpv4 ← Setting.privateIpv4.ipv4 service
  let disablePublic ← Setting.disablePublicNetwork.bool service
  let disablePrivateIngress ← Setting.disablePrivateIngress.bool service
  let disableIpv6 ← Setting.ipv6Disabled.bool service
  let hostname ← Setting.hostname.text service
  let nodeSelector ← Desired.nodeSelector service
  return {
    name := name
    type := type
    algorithm := algorithm
    location := location.or defaults.location
    networkZone := networkZone.or defaults.networkZone
    usePrivateIp := usePrivateIp.getD defaults.usePrivateIp
    privateIpv4 := privateIpv4
    publicInterface := disablePublic.map (!·)
    createPublicInterface := !disablePublic.getD defaults.disablePublicNetwork
    disablePrivateIngress := disablePrivateIngress.getD defaults.disablePrivateIngress
    disableIpv6 := disableIpv6.getD defaults.disableIpv6
    hostname := hostname.filter (· ≠ "")
    nodeSelector := nodeSelector }

/-- The error of a load balancer that has no place. -/
def noPlace (name : String) : Error :=
  .config ("load balancer " ++ name ++ ": neither " ++ Setting.location.key ++ " nor " ++
    Setting.networkZone.key ++ " is set")

/-- What to create for the Service with this identity. A location wins over a network zone, and
without either there is no place for the load balancer. -/
def creation (b : Balancer) (uid : String) (network : Option Int) :
    Except Error Cloud.NewLoadBalancer :=
  let at_ (location networkZone : Option String) : Cloud.NewLoadBalancer :=
    { name := b.name
      type := b.type.getD Cloud.LoadBalancer.defaultType
      algorithm := b.algorithm.getD .roundRobin
      location := location
      networkZone := networkZone
      labels := Labels.empty.insert uidLabel uid
      network := network
      publicInterface := b.createPublicInterface }
  match b.location, b.networkZone with
  | some location, _ => .ok (at_ (some location) none)
  | none, some zone => .ok (at_ none (some zone))
  | none, none => .error (noPlace b.name)

end Balancer

end BalancerSync.Desired
