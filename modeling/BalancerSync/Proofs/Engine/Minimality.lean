import BalancerSync.Proofs.Engine.Pass
import BalancerSync.Proofs.Engine.Passes
import BalancerSync.Proofs.Engine.Ports
import Mathlib.Data.List.Count

/-!
# Nothing too much and nothing twice

A pass that ends well and in which nothing failed has made its changes turn by turn, and they are
exactly the difference between the load balancer and the wishes: each change removes a difference
that is there, and each difference has one change, or two where a target is reached by the wrong
address.

The proof reads the changes off the plan.  What the plan says about one thing, such as a server or a
listen port, is found in the turns that concern it; within them it comes down to counting in lists
whose keys are distinct.

## Main Definitions

* `turns` — the changes of a pass, turn by turn
* `Minimal` — changes that are exactly the difference, in order

## Main Results

* `minimal_of_run_reconcile` — the changes of a pass are exactly the difference, in order
-/

namespace BalancerSync.Engine

open Cloud (Call LoadBalancer Plan Certificate World InTurn LoadBalancerChange Target)
open Cluster (Service Node)
open Desired (Balancer)

variable {certificates : List Certificate} {engine : Engine} {lb : LoadBalancer}
  {service : Service} {wishes : Balancer} {nodes : List Node} {id : String} {name : Option String}
  {desired : List Int} {wanted : List Nat}

/-! ### Turns -/

/-- The removals of the targets that cannot stay. -/
def removalCalls (lb : LoadBalancer) (desired : List Int) (usePrivateIp : Bool) : List Call :=
  (lb.targets.filter fun t => !isInPlace desired usePrivateIp t).map fun t =>
    .removeTarget lb.id t.serverId

/-- The additions of the servers that are missing. -/
def additionCalls (lb : LoadBalancer) (desired : List Int) (usePrivateIp : Bool) : List Call :=
  (desired.filter fun id =>
    !(lb.targets.filter (isInPlace desired usePrivateIp)).any fun t => t.serverId == id).map
      fun id => .addTarget lb.id id usePrivateIp

/-- Targets are removed before others are added: a server whose address is to change cannot be a
target twice. -/
theorem targetCalls_eq (lb : LoadBalancer) (desired : List Int) (usePrivateIp : Bool) :
    targetCalls lb desired usePrivateIp =
      removalCalls lb desired usePrivateIp ++ additionCalls lb desired usePrivateIp := rfl

/-- The changes of a pass, turn by turn. -/
def turns (engine : Engine) (lb : LoadBalancer) (wishes : Balancer) (id : String)
    (name : Option String) (desired : List Int) (forPorts : List Call) (wanted : List Nat) :
    List (Nat × List Call) :=
  [(0, infoCalls lb id name),
    (1, algorithmCalls lb wishes),
    (2, typeCalls lb wishes),
    (3, detachCalls engine lb),
    (4, attachCalls engine lb wishes),
    (5, publicInterfaceCalls lb wishes),
    (6, removalCalls lb desired wishes.usePrivateIp),
    (7, additionCalls lb desired wishes.usePrivateIp),
    (8, forPorts),
    (9, surplusCalls lb wanted)]

/-- A pass whose plan ends well has the turns. -/
theorem exists_turns_of_outcome
    (h : (passPlan certificates engine lb service wishes nodes).outcome = .ok ()) :
    ∃ id name desired wanted, uid service = .ok id ∧ Setting.name.text service = .ok name ∧
      Desired.serverIds nodes wishes.nodeSelector = .ok desired ∧
      (portsPlan certificates lb service [] service.ports).outcome = .ok wanted ∧
      (passPlan certificates engine lb service wishes nodes).calls =
        (turns engine lb wishes id name desired
          (portsPlan certificates lb service [] service.ports).calls wanted).flatMap Prod.snd := by
  obtain ⟨hparts, hcalls⟩ := Plan.of_sequence_eq_ok h
  obtain ⟨id, hid, hinfo, hidentity⟩ := Plan.of_ofExcept_bind_eq_ok
    (Plan.of_within_eq_ok (hparts (identityPlan lb service) (by simp)))
  obtain ⟨name, hname, -, hinfo⟩ := Plan.of_ofExcept_bind_eq_ok hinfo
  obtain ⟨desired, hdesired, -, htargets⟩ := Plan.of_ofExcept_bind_eq_ok
    (Plan.of_within_eq_ok (hparts (targetsPlan engine lb wishes nodes) (by simp)))
  obtain ⟨wanted, hwanted, -, hservices⟩ := Plan.of_bind_eq_ok
    (Plan.of_within_eq_ok (hparts (servicesPlan certificates lb service) (by simp)))
  refine ⟨id, name, desired, wanted, hid, hname, serverIds_of_desiredTargets hdesired, hwanted,
    hcalls.trans ?_⟩
  have hidentity : (identityPlan lb service).calls = infoCalls lb id name :=
    congrArg Plan.calls (hidentity.trans hinfo)
  have htargets : (targetsPlan engine lb wishes nodes).calls =
      targetCalls lb desired wishes.usePrivateIp := congrArg Plan.calls htargets
  have hservices : (servicesPlan certificates lb service).calls =
      (portsPlan certificates lb service [] service.ports).calls ++ surplusCalls lb wanted :=
    hservices
  simp only [turns, List.flatMap_cons, List.flatMap_nil, List.append_nil, hidentity, htargets,
    hservices, targetCalls_eq, List.append_assoc]
  rfl

/-! ### Wishes that may be left open -/

section Wish

variable {β : Type} [DecidableEq β] {wish : Option β} {now b : β} {call : β → Call} {c : Call}

/-- There is a call exactly if there is a wish and it is not fulfilled. -/
theorem mem_wishCalls :
    c ∈ wishCalls wish now call ↔ ∃ b, wish = some b ∧ b ≠ now ∧ c = call b := by
  cases wish with
  | none => simp [wishCalls]
  | some b => by_cases h : b = now <;> simp [wishCalls, h]

/-- A wish takes a call exactly if it is not fulfilled. -/
theorem call_mem_wishCalls (hcall : Function.Injective call) :
    call b ∈ wishCalls wish now call ↔ wish = some b ∧ b ≠ now := by
  rw [mem_wishCalls]
  constructor
  · rintro ⟨b', hwish, hne, heq⟩
    obtain rfl := hcall heq
    exact ⟨hwish, hne⟩
  · rintro ⟨hwish, hne⟩
    exact ⟨b, hwish, hne, rfl⟩

theorem turn?_of_mem_wishCalls {k : Nat} (hcall : ∀ b, (call b).turn? = some k) :
    ∀ c ∈ wishCalls wish now call, c.turn? = some k := by
  intro c hc
  obtain ⟨b, -, -, rfl⟩ := mem_wishCalls.1 hc
  exact hcall b

/-- One wish leads to one call at most. -/
theorem length_wishCalls_le : (wishCalls wish now call).length ≤ 1 := by
  cases wish with
  | none => exact Nat.zero_le 1
  | some b => by_cases h : b = now <;> simp [wishCalls, h]

end Wish

/-- Switching on and switching off are different calls. -/
theorem switchPublicInterface_injective (id : Int) :
    Function.Injective (switchPublicInterface id) := by
  intro on on' h
  cases on <;> cases on' <;> first | rfl | cases h

/-! ### Name and labels -/

/-- Nothing is changed exactly if the label and the name that is set are there. -/
theorem infoChange_eq_iff : infoChange lb id name = ⟨none, none⟩ ↔
    lb.labels.get? Desired.uidLabel = some id ∧ ∀ n, name = some n → n ≠ "" → lb.name = n := by
  refine ⟨fun h => identity_of_infoCalls_eq_nil (if_pos h), ?_⟩
  rintro ⟨hlabel, hname⟩
  rw [infoChange, if_pos hlabel]
  refine congrArg (LoadBalancerChange.mk · none) ?_
  rw [Option.filter_filter, Option.filter_eq_none_iff]
  intro n hn
  by_cases hempty : n = ""
  · simp [hempty]
  · simp [hname n hn hempty]

/-- Name and label are brought up to date exactly if one of them is not. -/
theorem mem_infoCalls {change : LoadBalancerChange} :
    Call.update lb.id change ∈ infoCalls lb id name ↔ change = infoChange lb id name ∧
      (lb.labels.get? Desired.uidLabel ≠ some id ∨ ∃ n, name = some n ∧ n ≠ "" ∧ n ≠ lb.name) := by
  have hchange : infoChange lb id name ≠ ⟨none, none⟩ ↔
      lb.labels.get? Desired.uidLabel ≠ some id ∨ ∃ n, name = some n ∧ n ≠ "" ∧ n ≠ lb.name := by
    rw [Ne, infoChange_eq_iff, not_and_or]
    push Not
    simp only [ne_comm]
  rw [← hchange, infoCalls]
  by_cases h : infoChange lb id name = ⟨none, none⟩ <;> simp [h]

theorem length_infoCalls_le : (infoCalls lb id name).length ≤ 1 := by
  rw [infoCalls]
  split <;> simp

/-! ### Networks -/

/-- A network is detached as often as it is attached, unless it is the one that is wanted. -/
theorem count_detachCalls (engine : Engine) (lb : LoadBalancer) (network : Int) :
    (detachCalls engine lb).count (.detachFromNetwork lb.id network) =
      if some network = engine.network then 0
      else (lb.attachments.map (·.networkId)).count network := by
  have hforeign : foreignNetworks engine lb =
      (lb.attachments.map (·.networkId)).filter fun n => some n ≠ engine.network := by
    rw [foreignNetworks, List.filter_map]
    rfl
  rw [detachCalls_eq, List.count_map_of_injective _ _ fun a b h => (Call.detachFromNetwork.inj h).2,
    hforeign]
  split
  · rename_i hours
    rw [List.count_eq_zero]
    intro hmem
    simp [hours] at hmem
  · rename_i hother
    exact List.count_filter (by simpa using hother)

/-- The network is attached exactly if one is wanted and the load balancer is not in it. -/
theorem mem_attachCalls {network : Int} {ip : Option Net.IPv4} :
    .attachToNetwork lb.id network ip ∈ attachCalls engine lb wishes ↔
      engine.network = some network ∧ lb.isAttachedTo network = false ∧
        ip = wishes.privateIpv4 := by
  rw [attachCalls, missingNetwork]
  cases engine.network with
  | none => simp
  | some n =>
    by_cases hattached : lb.isAttachedTo n
    · simp only [Option.filter, hattached, Bool.not_true, Bool.false_eq_true, if_false,
        List.not_mem_nil, Option.some.injEq, false_iff, not_and]
      rintro rfl hfree
      rw [hattached] at hfree
      cases hfree
    · grind

theorem length_attachCalls_le : (attachCalls engine lb wishes).length ≤ 1 := by
  rw [attachCalls]
  split <;> simp

/-! ### Targets -/

/-- A target is in place if its server is selected and it is reached at the right address. -/
theorem isInPlace_iff {usePrivateIp : Bool} {t : Target} :
    isInPlace desired usePrivateIp t = true ↔
      t.serverId ∈ desired ∧ t.usePrivateIp = usePrivateIp := by
  simp [isInPlace]

/-- A target that is not in place is removed exactly once.  That no server is a target twice is
needed here: a removal goes by the server alone. -/
theorem count_removalCalls (hd : lb.Distinct) {usePrivateIp : Bool} {t : Target}
    (ht : t ∈ lb.targets) :
    (removalCalls lb desired usePrivateIp).count (.removeTarget lb.id t.serverId) =
      if t.serverId ∈ desired ∧ t.usePrivateIp = usePrivateIp then 0 else 1 := by
  have hremovals : removalCalls lb desired usePrivateIp =
      ((lb.targets.filter fun t => !isInPlace desired usePrivateIp t).map (·.serverId)).map
        (.removeTarget lb.id ·) := by
    rw [List.map_map]
    rfl
  -- No two targets have the same server, so counting comes down to whether it is there.
  have hnodup := hd.servers.sublist
    ((List.filter_sublist (p := fun t => !isInPlace desired usePrivateIp t)).map _)
  have hmem : t.serverId ∈
      (lb.targets.filter fun t => !isInPlace desired usePrivateIp t).map (·.serverId) ↔
        ¬ isInPlace desired usePrivateIp t = true := by
    constructor
    · intro h
      obtain ⟨s, hs, hserver⟩ := List.mem_map.1 h
      obtain ⟨hs, hleave⟩ := List.mem_filter.1 hs
      obtain rfl := List.inj_on_of_nodup_map hd.servers hs ht hserver
      simpa using hleave
    · intro h
      exact List.mem_map_of_mem (List.mem_filter.2 ⟨ht, by simpa using h⟩)
  rw [hremovals, List.count_map_of_injective _ _ fun a b h => (Call.removeTarget.inj h).2,
    hnodup.count]
  simp only [hmem, isInPlace_iff, ite_not]

/-- A selected server is added exactly once, unless it is a target in the right way already. -/
theorem count_additionCalls (hdesired : desired.Nodup) (usePrivateIp : Bool) (t : Target) :
    (additionCalls lb desired usePrivateIp).count (.addTarget lb.id t.serverId t.usePrivateIp) =
      if t.serverId ∈ desired ∧ t.usePrivateIp = usePrivateIp ∧ t ∉ lb.targets then 1 else 0 := by
  obtain ⟨server, address⟩ := t
  by_cases haddress : address = usePrivateIp
  · subst haddress
    have hmem : server ∈ desired.filter (fun id =>
        !(lb.targets.filter (isInPlace desired address)).any fun t => t.serverId == id) ↔
          server ∈ desired ∧ (⟨server, address⟩ : Target) ∉ lb.targets := by
      rw [List.mem_filter, Bool.not_eq_true', ← Bool.not_eq_true, List.any_eq_true]
      refine and_congr_right fun hserver => not_congr ⟨?_, fun hmem => ?_⟩
      · rintro ⟨t, ht, hserver⟩
        obtain ⟨hmem, hstays⟩ := List.mem_filter.1 ht
        rwa [← beq_iff_eq.1 hserver, ← (isInPlace_iff.1 hstays).2]
      · exact ⟨_, List.mem_filter.2 ⟨hmem, isInPlace_iff.2 ⟨hserver, rfl⟩⟩, beq_self_eq_true server⟩
    rw [additionCalls, List.count_map_of_injective _ _ fun a b h => (Call.addTarget.inj h).2.1,
      (hdesired.sublist List.filter_sublist).count]
    simp only [hmem, true_and]
  · rw [if_neg fun h => haddress h.2.1, List.count_eq_zero]
    intro hmem
    obtain ⟨id, -, heq⟩ := List.mem_map.1 hmem
    exact haddress (Call.addTarget.inj heq).2.2.symm

/-! ### All turns -/

theorem inTurn_turns
    (h : (portsPlan certificates lb service [] service.ports).outcome = .ok wanted) :
    InTurn (turns engine lb wishes id name desired
      (portsPlan certificates lb service [] service.ports).calls wanted) := by
  refine ⟨by simp [turns], ?_⟩
  simp only [turns, List.forall_mem_cons, List.not_mem_nil, false_implies, implies_true, and_true]
  refine ⟨?info, ?algorithm, ?type, ?detach, ?attach, ?publicInterface, ?removals, ?additions,
    turn?_of_mem_portsPlan h, ?surplus⟩
  case info =>
    intro c hc
    rw [infoCalls] at hc
    split at hc
    · cases hc
    · rw [List.mem_singleton.1 hc]
      rfl
  case algorithm =>
    rw [algorithmCalls_eq]
    exact turn?_of_mem_wishCalls fun _ => rfl
  case type =>
    rw [typeCalls_eq]
    exact turn?_of_mem_wishCalls fun _ => rfl
  case detach => exact List.forall_mem_map.2 fun _ _ => rfl
  case attach =>
    intro c hc
    rw [attachCalls] at hc
    split at hc
    · cases hc
    · rw [List.mem_singleton.1 hc]
      rfl
  case publicInterface =>
    rw [publicInterfaceCalls_eq]
    exact turn?_of_mem_wishCalls fun on => by cases on <;> rfl
  case removals => exact List.forall_mem_map.2 fun _ _ => rfl
  case additions => exact List.forall_mem_map.2 fun _ _ => rfl
  case surplus => exact List.forall_mem_map.2 fun _ _ => rfl

/-! ### Exactly the difference -/

/-- Changes that are exactly the difference between a load balancer and what is wanted, in order.
Wanted are an identity, perhaps a name, the wishes and the servers. -/
structure Minimal (certificates : List Certificate) (engine : Engine) (lb : LoadBalancer)
    (service : Service) (wishes : Balancer) (id : String) (name : Option String)
    (desired : List Int) (changes : List Call) : Prop where
  /-- All changes are of the kinds that have a turn, and for this load balancer. -/
  own : ∀ c ∈ changes, c.turn?.isSome ∧ c.subject? = some lb.id
  ordered : changes.Pairwise Call.MayPrecede
  /-- Name and labels, algorithm, type, attachment and public interface take one change at most. -/
  single : ∀ k ∈ [0, 1, 2, 4, 5], (changes.filter fun c => c.turn? = some k).length ≤ 1
  update : ∀ change, .update lb.id change ∈ changes ↔ change = infoChange lb id name ∧
    (lb.labels.get? Desired.uidLabel ≠ some id ∨ ∃ n, name = some n ∧ n ≠ "" ∧ n ≠ lb.name)
  algorithm : ∀ a, .changeAlgorithm lb.id a ∈ changes ↔
    wishes.algorithm = some a ∧ a ≠ lb.algorithm
  type : ∀ t, .changeType lb.id t ∈ changes ↔ wishes.type = some t ∧ t ≠ lb.type
  /-- Each attachment to a network that is not the configured one takes one detachment. -/
  detachments : ∀ network, changes.count (.detachFromNetwork lb.id network) =
    if some network = engine.network then 0 else (lb.attachments.map (·.networkId)).count network
  attachment : ∀ network ip, .attachToNetwork lb.id network ip ∈ changes ↔
    engine.network = some network ∧ lb.isAttachedTo network = false ∧ ip = wishes.privateIpv4
  publicInterface : ∀ on, switchPublicInterface lb.id on ∈ changes ↔
    wishes.publicInterface = some on ∧ on ≠ lb.publicInterface.enabled
  /-- A target that is wanted and reached by the right address stays; every other one is removed
  once. -/
  removals : ∀ t ∈ lb.targets, changes.count (.removeTarget lb.id t.serverId) =
    if t.serverId ∈ desired ∧ t.usePrivateIp = wishes.usePrivateIp then 0 else 1
  /-- Nothing is removed that is not there. -/
  removed : ∀ server, .removeTarget lb.id server ∈ changes → ∃ t ∈ lb.targets, t.serverId = server
  /-- A server that is wanted is added once, unless it is there and reached by the right address. -/
  additions : ∀ t : Target, changes.count (.addTarget lb.id t.serverId t.usePrivateIp) =
    if t.serverId ∈ desired ∧ t.usePrivateIp = wishes.usePrivateIp ∧ t ∉ lb.targets then 1 else 0
  /-- A listen port takes what there is to do for it, … -/
  ports : ∀ n, PortWork certificates lb service n (changes.filter fun c => c.listenPort? = some n)
  /-- … which is one change at most. -/
  portSingle : ∀ n, (changes.filter fun c => c.listenPort? = some n).length ≤ 1

/-- The changes of a pass whose plan ends well are exactly the difference. -/
theorem minimal_passPlan (hd : lb.Distinct)
    (h : (passPlan certificates engine lb service wishes nodes).outcome = .ok ()) :
    ∃ id name desired, uid service = .ok id ∧ Setting.name.text service = .ok name ∧
      Desired.serverIds nodes wishes.nodeSelector = .ok desired ∧
      Minimal certificates engine lb service wishes id name desired
        (passPlan certificates engine lb service wishes nodes).calls := by
  obtain ⟨id, name, desired, wanted, hid, hname, hdesired, hwanted, hcalls⟩ :=
    exists_turns_of_outcome h
  have hturns : InTurn (turns engine lb wishes id name desired
      (portsPlan certificates lb service [] service.ports).calls wanted) := inTurn_turns hwanted
  obtain ⟨fin, hfin, -⟩ := convergent_passPlan.carries hd
  have hown := Cloud.subject?_of_revised? hfin
  refine ⟨id, name, desired, hid, hname, hdesired, ?_⟩
  rw [hcalls] at hown ⊢
  -- From here on only that each turn is one of the parts matters, not how they were found.
  generalize hparts : turns engine lb wishes id name desired
    (portsPlan certificates lb service [] service.ports).calls wanted = parts at hturns hown ⊢
  have hmem : ∀ p ∈ turns engine lb wishes id name desired
      (portsPlan certificates lb service [] service.ports).calls wanted, p ∈ parts :=
    fun p hp => hparts ▸ hp
  simp only [turns, List.forall_mem_cons] at hmem
  obtain ⟨hinfo, halgorithm, htype, hdetach, hattach, hpublic, hremovals, hadditions, -⟩ := hmem
  -- The services are the exception: for a listen port the last two turns count together.
  have hlast : parts.filter (fun p => 8 ≤ p.1) =
      [(8, (portsPlan certificates lb service [] service.ports).calls),
        (9, surplusCalls lb wanted)] := by simp [← hparts, turns]
  have hports : ∀ n, PortWork certificates lb service n
      ((parts.flatMap Prod.snd).filter fun c => c.listenPort? = some n) := by
    intro n
    rw [hturns.filter_listenPort, hlast]
    simpa using portWork_of_portsPlan hd hwanted n
  refine ⟨fun c hc => ⟨?own, hown c hc⟩, hturns.pairwise, ?single, ?update, ?algorithm, ?type,
    ?detachments, ?attachment, ?publicInterface, ?removals, ?removed, ?additions, hports,
    fun n => (hports n).length_le⟩
  case own =>
    obtain ⟨p, hp, hc⟩ := List.mem_flatMap.1 hc
    rw [hturns.turn p hp c hc]
    rfl
  case single =>
    simp only [List.forall_mem_cons, List.not_mem_nil, false_implies, implies_true, and_true,
      hturns.filter_turn hinfo, hturns.filter_turn halgorithm, hturns.filter_turn htype,
      hturns.filter_turn hattach, hturns.filter_turn hpublic]
    rw [algorithmCalls_eq, typeCalls_eq, publicInterfaceCalls_eq]
    exact ⟨length_infoCalls_le, length_wishCalls_le, length_wishCalls_le, length_attachCalls_le,
      length_wishCalls_le⟩
  case update =>
    intro change
    rw [hturns.mem_iff hinfo rfl, mem_infoCalls]
  case algorithm =>
    intro a
    rw [hturns.mem_iff halgorithm rfl, algorithmCalls_eq]
    exact call_mem_wishCalls fun _ _ h => (Call.changeAlgorithm.inj h).2
  case type =>
    intro t
    rw [hturns.mem_iff htype rfl, typeCalls_eq]
    exact call_mem_wishCalls fun _ _ h => (Call.changeType.inj h).2
  case detachments =>
    intro network
    rw [hturns.count hdetach rfl, count_detachCalls]
  case attachment =>
    intro network ip
    rw [hturns.mem_iff hattach rfl, mem_attachCalls]
  case publicInterface =>
    intro on
    rw [hturns.mem_iff hpublic (by cases on <;> rfl), publicInterfaceCalls_eq]
    exact call_mem_wishCalls (switchPublicInterface_injective lb.id)
  case removals =>
    intro t ht
    rw [hturns.count hremovals rfl, count_removalCalls hd ht]
  case removed =>
    intro server hserver
    rw [hturns.mem_iff hremovals rfl] at hserver
    obtain ⟨t, ht, heq⟩ := List.mem_map.1 hserver
    exact ⟨t, List.mem_of_mem_filter ht, (Call.removeTarget.inj heq).2⟩
  case additions =>
    intro t
    rw [hturns.count hadditions rfl, count_additionCalls (Desired.nodup_serverIds hdesired)]

/-- A pass that ends well, and in which nothing failed, has made its changes in the order of the
turns, and they are exactly the difference between the load balancer and what is wanted.  The load
balancer only has to have distinct servers and listen ports: whether it is up to date makes no
difference to what the pass does. -/
theorem minimal_of_run_reconcile {w after : World} {changed : Bool} (hd : lb.Distinct)
    (hunfailed : ∀ e ∈ w.events (reconcile engine lb service wishes nodes), e.failure? = none)
    (hrun : w.run (reconcile engine lb service wishes nodes) = (.ok changed, after)) :
    ∃ calls id name desired, after.log = w.log ++ calls ∧ uid service = .ok id ∧
      Setting.name.text service = .ok name ∧
      Desired.serverIds nodes wishes.nodeSelector = .ok desired ∧
      Minimal w.inventory.certificates engine lb service wishes id name desired
        (calls.filter Call.isMutation) := by
  obtain ⟨houtcome, hmade, -⟩ := planned_reconcile.fulfils rfl hrun
  obtain ⟨houtcome, -⟩ := Plan.outcome_of_telling_ok houtcome
  obtain ⟨id, name, desired, hid, hname, hdesired, hminimal⟩ := minimal_passPlan hd houtcome
  have hlog := World.log_run w (reconcile engine lb service wishes nodes)
  rw [hrun] at hlog
  refine ⟨_, id, name, desired, hlog, hid, hname, hdesired, ?_⟩
  have hchanges : ((w.events (reconcile engine lb service wishes nodes)).filterMap
      Cloud.Event.received?).filter Call.isMutation =
        (passPlan w.inventory.certificates engine lb service wishes nodes).calls :=
    calc
      _ = _ := Cloud.filter_received_of_unfailed hunfailed
      _ = _ := hmade
      _ = _ := List.filter_eq_self.2 isMutation_of_mem_passPlan
  rwa [hchanges]

/-- What the Service of the small cloud wants of its load balancer. -/
def Sample.balancer : Balancer where
  name := "shop-web"
  type := none
  algorithm := none
  location := some "nbg1"
  networkZone := none
  usePrivateIp := false
  privateIpv4 := none
  publicInterface := none
  createPublicInterface := true
  disablePrivateIngress := false
  disableIpv6 := false
  hostname := none
  nodeSelector := .all

/-- A load balancer that was made by hand, with a world in which nothing goes wrong. -/
theorem minimal_of_run_reconcile_sample :
    Sample.engine.wishes Sample.service = .ok Sample.balancer ∧
    Sample.handmade ∈ Sample.world.inventory.loadBalancers ∧ Sample.handmade.Distinct ∧
    (∀ e ∈ Sample.world.events
      (reconcile Sample.engine Sample.handmade Sample.service Sample.balancer Sample.nodes),
        e.failure? = none) ∧
    ∃ after calls id name desired,
      Sample.world.run
        (reconcile Sample.engine Sample.handmade Sample.service Sample.balancer Sample.nodes) =
          (.ok true, after) ∧
      after.log = Sample.world.log ++ calls ∧
      Minimal Sample.world.inventory.certificates Sample.engine Sample.handmade Sample.service
        Sample.balancer id name desired (calls.filter Call.isMutation) := by
  have hd : Sample.handmade.Distinct := ⟨by decide, by decide⟩
  have hunfailed : ∀ e ∈ Sample.world.events
      (reconcile Sample.engine Sample.handmade Sample.service Sample.balancer Sample.nodes),
        e.failure? = none := by decide +kernel
  have hresult : (Sample.world.run
      (reconcile Sample.engine Sample.handmade Sample.service Sample.balancer Sample.nodes)).1 =
        .ok true := by decide +kernel
  obtain ⟨calls, id, name, desired, hlog, -, -, -, hminimal⟩ :=
    minimal_of_run_reconcile hd hunfailed (Prod.ext hresult rfl)
  exact ⟨by decide +kernel, List.mem_singleton_self _, hd, hunfailed, _, calls, id, name, desired,
    Prod.ext hresult rfl, hlog, hminimal⟩

end BalancerSync.Engine
