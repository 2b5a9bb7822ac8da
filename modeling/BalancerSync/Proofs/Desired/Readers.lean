import BalancerSync.Proofs.Cloud.Exactness
import BalancerSync.Proofs.Cloud.Run
import BalancerSync.Proofs.Desired.Reading
import BalancerSync.Proofs.Desired.Wishes
import Mathlib.Control.Monad.Basic

/-!
# Adding and changing agree

A reader hands out the wishes for its port in two forms, for adding a service and for changing one
that is there.  The cloud treats the two by ways of its own: what is added is built on the defaults,
a change is merged into what it finds.  Both ways lead to the same service.  A service that is added
is the one that results when a plain TCP service is added on the same ports and then changed.

The step that makes this work is that the plain service is exactly what adding starts from:
its health check is the implicit one of the same destination port, and it has no HTTP part.

## Main Definitions

* `NewService.plain` — a TCP service without options
* `Inventory.performAll` — the inventory after several calls

## Main Results

* `PortOptions.create_eq_apply_plain` — adding is changing a plain service
* `PortReader.stored_alike` — the two forms of the wishes of one reader store the same service, and
  the second does not differ from what is stored
-/

namespace BalancerSync.Cloud

/-- A TCP service without options. -/
def NewService.plain (listenPort destinationPort : Nat) : NewService where
  protocol := .tcp
  listenPort := listenPort
  destinationPort := destinationPort
  proxyProtocol := false
  http := none
  healthCheck := none

namespace Inventory

variable {inv : Inventory} {lb : LoadBalancer}

/-- The inventory after several calls, all of which have to be carried out. -/
def performAll (inv : Inventory) : List Call → Except Error Inventory
  | [] => .ok inv
  | c :: cs => (inv.perform c).bind fun done => done.2.performAll cs

/-- A service that is changed right after it was added is found as the change has made it. -/
theorem exists_performAll_add_update (o : NewService) (change : ServiceChange)
    (h : inv.find? lb.id = some lb) (hfree : lb.service? o.listenPort = none) :
    ∃ after, inv.performAll [.addService lb.id o, .updateService lb.id o.listenPort change] =
        .ok after ∧
      after.find? lb.id = some { lb with services := lb.services ++ [change.apply o.create] } := by
  obtain ⟨_, mid, hadded, hmid⟩ := perform_addService h hfree
  have hfound : LoadBalancer.service? { lb with services := lb.services ++ [o.create] }
      o.listenPort = some o.create := find?_append_self (s := o.create) hfree
  obtain ⟨_, after, hchanged, hafter⟩ :=
    perform_updateService change hmid (by rw [hfound, Option.isSome_some])
  refine ⟨after, ?_, ?_⟩
  · show (inv.perform (.addService lb.id o)).bind _ = .ok after
    rw [hadded]
    show (mid.perform (.updateService lb.id o.listenPort change)).bind _ = .ok after
    rw [hchanged]
    rfl
  · rw [hafter]
    show some { lb with
      services := changeFirst o.create.listenPort change.apply (lb.services ++ [o.create]) } = _
    rw [changeFirst_append_self (s := o.create) change.apply hfree]

end Inventory

end BalancerSync.Cloud

namespace BalancerSync.Desired

open Cloud (World Inventory LoadBalancer NewService)
open Cluster (Service ServicePort)

/-- Adding is changing a plain service. -/
theorem PortOptions.create_eq_apply_plain (o : PortOptions) (listenPort : Nat) :
    (o.newService listenPort).create =
      o.change.apply (NewService.plain listenPort o.destinationPort).create := rfl

namespace PortReader

variable {service : Service} {port : ServicePort} {reader later : PortReader}
  {options : PortOptions} {w t : World}

/-- A reader that finds the wishes remembers them, and nothing else about it changes. -/
theorem eq_of_run_extract (h : w.run reader.extract = (.ok (.ok options, later), t)) :
    later = { reader with extraction := .done options } := by
  obtain ⟨service, port, listenPort, extraction⟩ := reader
  cases extraction with
  | done found =>
    change (Except.ok (Except.ok found, _), w) = _ at h
    cases h
    rfl
  | failed reason => cases h
  | pending =>
    obtain ⟨outcome, u, -, h⟩ := World.of_run_bind_eq_ok h
    cases outcome with
    | error e => cases h
    | ok found =>
      change (Except.ok (Except.ok found, _), u) = _ at h
      cases h
      rfl

/-- What has been found once is handed out again without a request. -/
theorem run_extract_again (h : w.run reader.extract = (.ok (.ok options, later), t)) (u : World) :
    u.run later.extract = (.ok (.ok options, later), u) := by
  rw [eq_of_run_extract h]
  rfl

theorem run_newService (h : w.run reader.extract = (.ok (.ok options, later), t)) :
    w.run reader.newService = (.ok (.ok (options.newService reader.listenPort), later), t) := by
  rw [newService, Program.bind_eq, World.run_bind, h]
  rfl

theorem run_change (h : w.run reader.extract = (.ok (.ok options, later), t)) :
    w.run reader.change = (.ok (.ok options.change, later), t) := by
  rw [change, Program.bind_eq, World.run_bind, h]
  rfl

/-- Wherever reading succeeds, the reader hands the wishes out in both forms, now and, without any
request, ever after.  On every load balancer whose listen port is free, adding with the one form
stores what adding a plain service and changing it with the other form stores, and the other form
does not differ from that. -/
theorem stored_alike (hreader : PortReader.ofPort service port = .ok reader)
    (hextract : w.run reader.extract = (.ok (.ok options, later), t)) :
    ∃ added changed,
      (w.run reader.newService = (.ok (.ok added, later), t) ∧
        w.run reader.change = (.ok (.ok changed, later), t)) ∧
      (∀ u : World, u.run later.newService = (.ok (.ok added, later), u) ∧
        u.run later.change = (.ok (.ok changed, later), u)) ∧
      port.port = added.listenPort ∧
      ∀ (inv : Inventory) (lb : LoadBalancer), inv.find? lb.id = some lb →
        lb.service? added.listenPort = none →
        ∃ direct detour new stored,
          inv.performAll [.addService lb.id added] = .ok direct ∧
          inv.performAll [.addService lb.id (.plain added.listenPort added.destinationPort),
            .updateService lb.id added.listenPort changed] = .ok detour ∧
          direct.find? lb.id = some new ∧ detour.find? lb.id = some new ∧
          new.service? added.listenPort = some stored ∧ changed.differs stored = false := by
  have hlater : later.listenPort = reader.listenPort := by rw [eq_of_run_extract hextract]
  refine ⟨options.newService reader.listenPort, options.change,
    ⟨run_newService hextract, run_change hextract⟩, fun u => ⟨?_, ?_⟩, ?_,
    fun inv lb hlb hfree => ?_⟩
  · rw [← hlater]
    exact run_newService (run_extract_again hextract u)
  · exact run_change (run_extract_again hextract u)
  · obtain ⟨n, hn, hreader⟩ := bind_eq_ok.1 hreader
    cases hreader
    exact validPort_eq_ok hn
  -- On a free port both ways end with the service in the same place, behind the others.
  · obtain ⟨action, direct, hadded, hdirect⟩ := Inventory.perform_addService hlb hfree
    obtain ⟨detour, hchanged, hdetour⟩ :=
      Inventory.exists_performAll_add_update (.plain reader.listenPort options.destinationPort)
        options.change hlb hfree
    refine ⟨direct, detour, _, (options.newService reader.listenPort).create, ?_, hchanged, hdirect,
      ?_, Cloud.find?_append_self (s := (options.newService reader.listenPort).create) hfree,
      options.not_differs_create _⟩
    · show (inv.perform _).bind _ = _
      rw [hadded]
      rfl
    · rw [hdetour, options.create_eq_apply_plain]

namespace Sample

/-- A Service that wants HTTPS, with one certificate by its name and one by its number, and a health
check on a path. -/
def secure : Service where
  metadata := { Cluster.Metadata.empty with
    annotations := .ofList
      [(Setting.protocol.key, "https"), (Setting.httpCertificates.key, "main, 7"),
        (Setting.httpStickySessions.key, "true"), (Setting.healthCheckHttpPath.key, "/up")] }
  type := some "LoadBalancer"
  ports := [⟨443, some 30443⟩]
  ingress := []

/-- What it wants of its port. -/
def wanted : PortOptions where
  destinationPort := 30443
  protocol := .https
  proxyProtocol := false
  http := some ⟨none, none, some [5, 7], none, some true⟩
  healthCheck := some
    ⟨some .https, some 30443, none, none, none, some ⟨none, some "/up", none, none⟩⟩

/-- A load balancer without services. -/
def bare : LoadBalancer :=
  ⟨1, "web", .empty, .roundRobin, "lb11", "fsn1", "eu-central", ⟨true, none, none⟩, [], [], [], false⟩

def world : World := .ofInventory ⟨[bare], [⟨5, "main"⟩], [], 5⟩ .zero

end Sample

theorem stored_alike_sample :
    PortReader.ofPort Sample.secure ⟨443, some 30443⟩ =
        .ok ⟨Sample.secure, ⟨443, some 30443⟩, 443, .pending⟩ ∧
      ∃ later t, Sample.world.run (PortReader.extract
          ⟨Sample.secure, ⟨443, some 30443⟩, 443, .pending⟩) = (.ok (.ok Sample.wanted, later), t) ∧
        ∃ added changed direct detour new stored,
          t.run later.newService = (.ok (.ok added, later), t) ∧
          t.run later.change = (.ok (.ok changed, later), t) ∧
          Sample.world.inventory.performAll [.addService 1 added] = .ok direct ∧
          Sample.world.inventory.performAll
            [.addService 1 (.plain added.listenPort added.destinationPort),
              .updateService 1 added.listenPort changed] = .ok detour ∧
          direct.find? 1 = some new ∧ detour.find? 1 = some new ∧
          new.service? added.listenPort = some stored ∧ changed.differs stored = false := by
  have hreader : PortReader.ofPort Sample.secure ⟨443, some 30443⟩ =
      .ok ⟨Sample.secure, ⟨443, some 30443⟩, 443, .pending⟩ := rfl
  have hfound : (Sample.world.run (PortReader.extract
      ⟨Sample.secure, ⟨443, some 30443⟩, 443, .pending⟩)).1 =
      .ok (.ok Sample.wanted, ⟨Sample.secure, ⟨443, some 30443⟩, 443, .done Sample.wanted⟩) := by
    decide +kernel
  obtain ⟨added, changed, -, hagain, -, hstored⟩ := stored_alike hreader (Prod.ext hfound rfl)
  obtain ⟨direct, detour, new, stored, h⟩ := hstored Sample.world.inventory Sample.bare rfl rfl
  exact ⟨hreader, _, _, Prod.ext hfound rfl, added, changed, direct, detour, new, stored,
    (hagain _).1, (hagain _).2, h⟩

end PortReader

end BalancerSync.Desired
