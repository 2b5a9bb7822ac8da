import BalancerSync.Proofs.Desired.Wishes

/-!
# Settings and defaults

The settings of a Service go before the defaults of the controller.  That is a statement about two
controllers at once: if their defaults agree wherever a Service is silent, the Service gets the same
load balancer from both.

Reading does not look at the defaults at all.  It ends well or badly by itself, and only afterwards
the defaults complete what the settings leave open (`ofService_eq`), each field from its own
setting.  So the only thing to look at is the place, which comes from two settings: a location or
else a network zone.  They are completed one by one before one of them is chosen.  A Service that
names a network zone and no location is therefore not safe from the defaults: a default location
goes before its zone.

## Main Definitions

* `Settings` — what the settings of a Service say, before any defaults
* `Settings.Decide` — two defaults agree wherever the settings are silent
* `creationFor` — what a controller with these defaults creates for a Service

## Main Results

* `ofService_eq` — the defaults only complete what was read
* `creationFor_eq_iff` — the settings decide what is created, except for the place of a Service that
  names a zone and no location, and there exactly if the default locations are the same
* `zone_yields_to_default` — such a Service is put elsewhere by a default location
-/

namespace BalancerSync.Desired

open Cluster (Service)

variable {service : Service} {a b : Config.Defaults} {uid : String} {network : Option Int}

/-- What the settings of a Service say of its load balancer as a whole. -/
structure Settings where
  name : Option String
  location : Option String
  networkZone : Option String
  type : Option String
  algorithm : Option Cloud.Algorithm
  usePrivateIp : Option Bool
  privateIpv4 : Option Net.IPv4
  disablePublicNetwork : Option Bool
  disablePrivateIngress : Option Bool
  disableIpv6 : Option Bool
  hostname : Option String
  nodeSelector : Selector
  deriving DecidableEq, Repr

/-- A text that is not empty. -/
def spoken (text : Option String) : Option String := text.filter (· ≠ "")

namespace Settings

/-- The settings of a Service, of which the first malformed one is an error. -/
def ofService (service : Service) : Except Error Settings := do
  let name ← Setting.name.text service
  let location ← Setting.location.text service
  let networkZone ← Setting.networkZone.text service
  let type ← Setting.type.text service
  let algorithm ← Setting.algorithm.algorithmValue service
  let usePrivateIp ← Setting.usePrivateIp.bool service
  let privateIpv4 ← Setting.privateIpv4.ipv4 service
  let disablePublicNetwork ← Setting.disablePublicNetwork.bool service
  let disablePrivateIngress ← Setting.disablePrivateIngress.bool service
  let disableIpv6 ← Setting.ipv6Disabled.bool service
  let hostname ← Setting.hostname.text service
  let nodeSelector ← Desired.nodeSelector service
  return ⟨name, location, networkZone, type, algorithm, usePrivateIp, privateIpv4,
    disablePublicNetwork, disablePrivateIngress, disableIpv6, hostname, nodeSelector⟩

/-- The wishes, with the defaults for what the settings leave open. -/
def complete (s : Settings) (service : Service) (defaults : Config.Defaults) : Balancer where
  name := (spoken s.name).getD (defaultName service defaults.namePrefix)
  type := s.type
  algorithm := s.algorithm
  location := s.location.or defaults.location
  networkZone := s.networkZone.or defaults.networkZone
  usePrivateIp := s.usePrivateIp.getD defaults.usePrivateIp
  privateIpv4 := s.privateIpv4
  publicInterface := s.disablePublicNetwork.map (!·)
  createPublicInterface := !s.disablePublicNetwork.getD defaults.disablePublicNetwork
  disablePrivateIngress := s.disablePrivateIngress.getD defaults.disablePrivateIngress
  disableIpv6 := s.disableIpv6.getD defaults.disableIpv6
  hostname := spoken s.hostname
  nodeSelector := s.nodeSelector

/-- The settings decide between two defaults: these agree wherever the settings are silent.  A place
is spoken of by a location and by a network zone. -/
structure Decide (s : Settings) (a b : Config.Defaults) : Prop where
  place : spoken s.location = none → spoken s.networkZone = none →
    a.location = b.location ∧ a.networkZone = b.networkZone
  usePrivateIp : s.usePrivateIp = none → a.usePrivateIp = b.usePrivateIp
  publicNetwork : s.disablePublicNetwork = none → a.disablePublicNetwork = b.disablePublicNetwork
  privateIngress : s.disablePrivateIngress = none →
    a.disablePrivateIngress = b.disablePrivateIngress
  ipv6 : s.disableIpv6 = none → a.disableIpv6 = b.disableIpv6
  name : spoken s.name = none → a.namePrefix = b.namePrefix

end Settings

theorem name_eq (service : Service) (defaults : Config.Defaults) :
    Desired.name service defaults = (Setting.name.text service).map fun name =>
      (spoken name).getD (defaultName service defaults.namePrefix) := by
  unfold Desired.name
  cases Setting.name.text service with
  | error e => rfl
  | ok name =>
    cases name with
    | none => rfl
    | some name =>
      by_cases hempty : name = ""
      · subst hempty
        rfl
      · have hspoken : spoken (some name) = some name := by simpa [spoken] using hempty
        simp [bind, pure, Except.bind, Except.map, Except.pure, hspoken]

/-- Reading the settings does not look at the defaults, which only complete what was read. -/
theorem ofService_eq (service : Service) (defaults : Config.Defaults) :
    Balancer.ofService service defaults =
      (Settings.ofService service).map (·.complete service defaults) := by
  have hmap : ∀ {α β : Type} (f : α → β) (x : Except Error α), x.map f = f <$> x := fun _ _ => rfl
  unfold Balancer.ofService Settings.ofService
  rw [name_eq, hmap, hmap]
  simp only [bind_map_left, map_bind, map_pure]
  rfl

/-- What a controller with these defaults creates for a Service that has no load balancer yet. -/
def creationFor (service : Service) (defaults : Config.Defaults) (uid : String)
    (network : Option Int) : Except Error Cloud.NewLoadBalancer := do
  let wishes ← Balancer.ofService service defaults
  wishes.creation uid network

theorem creationFor_of_ofService {settings : Settings}
    (h : Settings.ofService service = .ok settings) (defaults : Config.Defaults) :
    creationFor service defaults uid network =
      (settings.complete service defaults).creation uid network := by
  rw [creationFor, ofService_eq, h]
  rfl

/-- Where a load balancer is to be, as a location or a network zone. -/
def Balancer.place (b : Balancer) : Option String × Option String :=
  (b.location, if b.location.isSome then none else b.networkZone)

/-- Of wishes that are alike but for the place, the same is created exactly if the place is the
same. -/
theorem Balancer.creation_eq_iff {x y : Balancer} (hname : x.name = y.name) (htype : x.type = y.type)
    (halgorithm : x.algorithm = y.algorithm)
    (hpublic : x.createPublicInterface = y.createPublicInterface) :
    x.creation uid network = y.creation uid network ↔ x.place = y.place := by
  unfold creation place
  rw [hname, htype, halgorithm, hpublic]
  cases x.location <;> cases y.location <;> cases x.networkZone <;> cases y.networkZone <;> simp

/-- The settings of a Service decide what is created for it, whatever the defaults say about what
they speak of.  There is one exception: a network zone without a location leaves it to the default
location whether the zone counts. -/
theorem creationFor_eq_iff {settings : Settings} (h : Settings.ofService service = .ok settings)
    (hdecide : settings.Decide a b) (uid : String) (network : Option Int) :
    creationFor service a uid network = creationFor service b uid network ↔
      settings.location.isSome ∨ spoken settings.networkZone = none ∨ a.location = b.location := by
  have hname : (settings.complete service a).name = (settings.complete service b).name := by
    unfold Settings.complete
    cases hspoken : spoken settings.name with
    | some name => simp
    | none => simp [hdecide.name hspoken]
  have hpublic : (settings.complete service a).createPublicInterface =
      (settings.complete service b).createPublicInterface := by
    unfold Settings.complete
    cases hset : settings.disablePublicNetwork with
    | some off => simp
    | none => simp [hdecide.publicNetwork hset]
  rw [creationFor_of_ofService h, creationFor_of_ofService h,
    Balancer.creation_eq_iff hname rfl rfl hpublic]
  unfold Balancer.place Settings.complete
  cases hlocation : settings.location with
  | some location => simp
  | none =>
    cases hzone : spoken settings.networkZone with
    | none =>
      obtain ⟨hl, hz⟩ := hdecide.place (by rw [hlocation]; rfl) hzone
      exact iff_of_true (by rw [hl, hz]) (.inr (.inl rfl))
    | some zone =>
      -- Here the defaults need not agree: the zone speaks of the place.
      have hset : settings.networkZone = some zone := (Option.filter_eq_some_iff.1 hzone).1
      simp only [hset, Option.none_or, Option.some_or, Option.isSome_none, Bool.false_eq_true,
        reduceCtorEq, false_or, Prod.mk.injEq, and_iff_left_iff_imp]
      intro heq
      rw [heq]

namespace Sample

/-- A Service with a name, a network zone and, if there is one, a location. -/
def zoned (location : Option String) : Service where
  metadata := { Cluster.Metadata.empty with
    annotations := .ofList
      ([(Setting.name.key, "web"), (Setting.networkZone.key, "us-east")] ++
        location.toList.map (Setting.location.key, ·)) }
  type := some "LoadBalancer"
  ports := []
  ingress := []

/-- What it says. -/
def said (location : Option String) : Settings where
  name := some "web"
  location := location
  networkZone := some "us-east"
  type := none
  algorithm := none
  usePrivateIp := none
  privateIpv4 := none
  disablePublicNetwork := none
  disablePrivateIngress := none
  disableIpv6 := none
  hostname := none
  nodeSelector := .all

/-- Defaults with a location and a prefix for names. -/
def nuremberg : Config.Defaults :=
  { Config.Defaults.none with location := some "nbg1", namePrefix := some "prod" }

theorem decide_said (location : Option String) : (said location).Decide .none nuremberg where
  place := by simp [said, spoken]
  usePrivateIp := fun _ => rfl
  publicNetwork := fun _ => rfl
  privateIngress := fun _ => rfl
  ipv6 := fun _ => rfl
  name := by simp [said, spoken]

end Sample

theorem creationFor_eq_iff_sample :
    Settings.ofService (Sample.zoned (some "ash")) = .ok (Sample.said (some "ash")) ∧
      (Sample.said (some "ash")).Decide .none Sample.nuremberg ∧
      creationFor (Sample.zoned (some "ash")) .none "u1" none =
        creationFor (Sample.zoned (some "ash")) Sample.nuremberg "u1" none := by
  have h : Settings.ofService (Sample.zoned (some "ash")) = .ok (Sample.said (some "ash")) :=
    rfl
  exact ⟨h, Sample.decide_said _,
    (creationFor_eq_iff h (Sample.decide_said _) "u1" none).2 (.inl rfl)⟩

/-- A default location puts a Service elsewhere that names a network zone, although the defaults
agree wherever the Service is silent. -/
theorem zone_yields_to_default :
    Settings.ofService (Sample.zoned none) = .ok (Sample.said none) ∧
      (Sample.said none).Decide .none Sample.nuremberg ∧
      (creationFor (Sample.zoned none) .none "u1" none).map
        (fun o => (o.location, o.networkZone)) = .ok (none, some "us-east") ∧
      (creationFor (Sample.zoned none) Sample.nuremberg "u1" none).map
        (fun o => (o.location, o.networkZone)) = .ok (some "nbg1", none) ∧
      creationFor (Sample.zoned none) .none "u1" none ≠
        creationFor (Sample.zoned none) Sample.nuremberg "u1" none := by
  have h : Settings.ofService (Sample.zoned none) = .ok (Sample.said none) := rfl
  have hzone : (creationFor (Sample.zoned none) .none "u1" none).map
      (fun o => (o.location, o.networkZone)) = .ok (none, some "us-east") := by
    rw [creationFor_of_ofService h]
    rfl
  have hlocation : (creationFor (Sample.zoned none) Sample.nuremberg "u1" none).map
      (fun o => (o.location, o.networkZone)) = .ok (some "nbg1", none) := by
    rw [creationFor_of_ofService h]
    rfl
  refine ⟨h, Sample.decide_said none, hzone, hlocation, fun heq => ?_⟩
  rw [heq, hlocation] at hzone
  cases hzone

end BalancerSync.Desired
