import BalancerSync.Proofs.Desired.Wishes
import BalancerSync.Proofs.Engine.Pass

/-!
# Settled load balancers

A load balancer is settled for a Service if it is what the Service wants in every respect that a
pass looks at.  Each of these is said here without the steps of a pass; that a plan without changes
means the same is the result of this module.

## Main Definitions

* `Settled` — a load balancer that is what its Service wants

## Main Results

* `settled_of_passPlan_eq` — where a pass has nothing to do, the load balancer is settled
-/

namespace BalancerSync.Engine

open Cloud (LoadBalancer Plan Certificate World)
open Cluster (Service Node)
open Desired (Balancer PortReader)

variable {certificates : List Certificate} {engine : Engine} {lb : LoadBalancer}
  {service : Service} {wishes : Balancer} {nodes : List Node} {w : World}

/-- A load balancer that is what its Service wants, in a cloud that can be asked for
certificates. -/
structure Settled (engine : Engine) (service : Service) (nodes : List Node) (w : World)
    (lb : LoadBalancer) : Prop where
  /-- The listen ports are the ports of the Service, one backend service each. -/
  listenPorts : (lb.services.map (·.listenPort)).Nodup ∧
    ∀ n : Nat, n ∈ lb.services.map (·.listenPort) ↔ ∃ port ∈ service.ports, port.port = n
  /-- The options read for the first port with its number do not differ from a backend service. -/
  services : ∀ s ∈ lb.services, ∃ port reader change readerAfter,
    service.ports.find? (fun port => port.port == (s.listenPort : Int)) = some port ∧
      PortReader.ofPort service port = .ok reader ∧
      (w.run reader.change).1 = .ok (.ok change, readerAfter) ∧ change.differs s = false
  /-- The targets are the servers of the selected nodes, each once and by the wanted address. -/
  targets : lb.targets.Nodup ∧ ∃ wishes ids, engine.wishes service = .ok wishes ∧
    Desired.serverIds nodes wishes.nodeSelector = .ok ids ∧
    ∀ t, t ∈ lb.targets ↔ ∃ id ∈ ids, t = ⟨id, wishes.usePrivateIp⟩
  /-- The network is the configured one, or there is none. -/
  networks : ∀ n, (∃ a ∈ lb.attachments, a.networkId = n) ↔ engine.network = some n
  name : ∀ name, Setting.name.text service = .ok (some name) → name ≠ "" → lb.name = name
  algorithm : ∀ a, Setting.algorithm.algorithmValue service = .ok (some a) → lb.algorithm = a
  type : ∀ t, Setting.type.text service = .ok (some t) → lb.type = t
  publicInterface : ∀ off, Setting.disablePublicNetwork.bool service = .ok (some off) →
    lb.publicInterface.enabled = !off

/-- A part of a pass with nothing to do. -/
theorem part_eq (h : passPlan certificates engine lb service wishes nodes = ⟨[], .ok ()⟩)
    {p : Cloud.Aspect × (LoadBalancer → Plan Unit)}
    (hp : p ∈ passParts certificates engine service wishes nodes) : p.2 lb = ⟨[], .ok ()⟩ := by
  rw [passPlan_eq] at h
  exact Plan.eq_of_sequence_eq h _ (List.mem_map_of_mem hp)

/-- Where a pass has nothing to do, the load balancer carries the identity and the name. -/
theorem identity_of_passPlan_eq
    (h : passPlan certificates engine lb service wishes nodes = ⟨[], .ok ()⟩) :
    ∃ id, uid service = .ok id ∧ lb.labels.get? Desired.uidLabel = some id ∧
      ∀ name, Setting.name.text service = .ok (some name) → name ≠ "" → lb.name = name := by
  have hpart := part_eq h (p := (.identity, fun lb => identityPlan lb service)) (by simp [passParts])
  obtain ⟨id, hid, hrest⟩ := Plan.eq_of_ofExcept_bind_eq (Plan.eq_of_within_eq hpart)
  obtain ⟨name, hname, hcalls⟩ := Plan.eq_of_ofExcept_bind_eq hrest
  obtain ⟨hlabel, hnamed⟩ := identity_of_infoCalls_eq_nil (congrArg Plan.calls hcalls)
  refine ⟨id, hid, hlabel, fun n hn hne => hnamed n ?_ hne⟩
  exact Except.ok.inj (hname.symm.trans hn)

/-- Where a pass has nothing to do, the load balancer is settled. -/
theorem settled_of_passPlan_eq (hd : lb.Distinct) (hw : w.Calm)
    (hwishes : engine.wishes service = .ok wishes)
    (h : passPlan w.inventory.certificates engine lb service wishes nodes = ⟨[], .ok ()⟩) :
    Settled engine service nodes w lb := by
  have hread := Balancer.readFrom_of_ofService hwishes
  have hservices := Plan.eq_of_within_eq (part_eq h (p := (.services, fun lb =>
    servicesPlan w.inventory.certificates lb service)) (by simp [passParts, laterParts]))
  have hports : ∀ n : Nat, (∃ port ∈ service.ports, port.port = n) →
      ∃ first s options, service.ports.find? (fun port => port.port == (n : Int)) = some first ∧
        Desired.validPort first.port "port" = .ok n ∧ lb.service? n = some s ∧
        Desired.PortOptions.readFrom w.inventory.certificates service first n = .ok options ∧
        options.change.differs s = false :=
    fun n hn => exists_service_of_servicesFrom_eq hservices (by simp) hn
  have hlistenPorts : ∀ s ∈ lb.services, ∃ port ∈ service.ports, port.port = s.listenPort :=
    fun s hs => (listenPort_of_servicesFrom_eq hservices hs).resolve_left (by simp)
  obtain ⟨id, -, -, hname⟩ := identity_of_passPlan_eq h
  refine ⟨⟨hd.listenPorts, fun n => ⟨?_, fun hn => ?_⟩⟩, fun s hs => ?_, ⟨?_, ?_⟩, ?_, hname, ?_, ?_,
    ?_⟩
  · intro hn
    obtain ⟨s, hs, rfl⟩ := List.mem_map.1 hn
    exact hlistenPorts s hs
  · obtain ⟨first, s, options, -, -, hs, -⟩ := hports n hn
    by_contra hnone
    rw [Cloud.service?_eq_none.2 hnone] at hs
    cases hs
  · obtain ⟨first, t, options, hfirst, hvalid, ht, hoptions, hsame⟩ :=
      hports s.listenPort (hlistenPorts s hs)
    -- The service that the port finds is the one it belongs to, for there is no other.
    obtain rfl : t = s := List.inj_on_of_nodup_map hd.listenPorts (List.mem_of_find?_eq_some ht) hs
      (by simpa using List.find?_some ht)
    obtain ⟨reader, hreader⟩ := PortReader.exists_run_change hw hoptions
    refine ⟨first, _, options.change, reader, hfirst, ?_, hreader, hsame⟩
    rw [PortReader.ofPort, hvalid]
    rfl
  · exact List.Nodup.of_map _ hd.servers
  · have htargets := Plan.eq_of_within_eq (part_eq h (p := (.targets, fun lb =>
      targetsPlan engine lb wishes nodes)) (by simp [passParts, laterParts]))
    obtain ⟨ids, hids, hcalls⟩ := Plan.eq_of_ofExcept_bind_eq htargets
    exact ⟨wishes, ids, hwishes, serverIds_of_desiredTargets hids,
      mem_targets_of_targetCalls_eq_nil (congrArg Plan.calls hcalls)⟩
  · have hnetworks := part_eq h (p := (.network, fun lb => networkPlan engine lb wishes))
      (by simp [passParts, laterParts])
    exact isAttachedTo_of_networkCalls_eq_nil (congrArg Plan.calls hnetworks)
  · intro a ha
    have hpart := Plan.eq_of_within_eq (part_eq h (p := (.algorithm, fun lb =>
      algorithmPlan lb wishes)) (by simp [passParts, laterParts]))
    refine eq_of_wishCalls_eq_nil ((algorithmCalls_eq lb wishes).symm.trans
      (congrArg Plan.calls hpart)) ?_
    exact Except.ok.inj (hread.algorithm.symm.trans ha)
  · intro t ht
    have hpart := Plan.eq_of_within_eq (part_eq h (p := (.type, fun lb => typePlan lb wishes))
      (by simp [passParts, laterParts]))
    refine eq_of_wishCalls_eq_nil ((typeCalls_eq lb wishes).symm.trans
      (congrArg Plan.calls hpart)) ?_
    exact Except.ok.inj (hread.type.symm.trans ht)
  · intro off hoff
    have hpart := Plan.eq_of_within_eq (part_eq h (p := (.publicInterface, fun lb =>
      publicInterfacePlan lb wishes)) (by simp [passParts, laterParts]))
    refine eq_of_wishCalls_eq_nil ((publicInterfaceCalls_eq lb wishes).symm.trans
      (congrArg Plan.calls hpart)) ?_
    obtain ⟨read, hreadOff, hwish⟩ := hread.publicInterface
    rw [hwish, Except.ok.inj (hreadOff.symm.trans hoff)]
    rfl

end BalancerSync.Engine
