import BalancerSync.Proofs.Cloud.Convergence
import BalancerSync.Proofs.Engine.Plan

/-!
# The steps for networks

The two steps for networks are looked at together, since they concern the same aspect.  Their plan
is not stepwise: two attachments to one foreign network take two detachments, and the first of them
removes both attachments.  What holds instead is that no detachment changes where the steps lead to
(`settledAttachments_detached`).

## Main Definitions

* `settledAttachments` — the attachments that the steps lead to

## Main Results

* `revised?_networkCalls` — they do lead there
* `convergent_networkPlan`
* `isAttachedTo_of_networkCalls_eq_nil` — what is the case when there is nothing to do
-/

namespace BalancerSync.Engine

open Cloud (Call LoadBalancer Plan Convergent Concerns Attachment revised?)
open Desired (Balancer)

variable {engine : Engine} {wishes : Balancer}

/-- Both steps for networks. -/
def networkPlan (engine : Engine) (lb : LoadBalancer) (wishes : Balancer) : Plan Unit :=
  (detachPlan engine lb).bind fun _ => attachPlan engine lb wishes

def networkCalls (engine : Engine) (lb : LoadBalancer) (wishes : Balancer) : List Call :=
  detachCalls engine lb ++ attachCalls engine lb wishes

theorem networkPlan_eq (engine : Engine) (lb : LoadBalancer) (wishes : Balancer) :
    networkPlan engine lb wishes = .make (networkCalls engine lb wishes) := rfl

/-- The attachments to the configured network that are there, and one more if there are none. -/
def settledAttachments (engine : Engine) (lb : LoadBalancer) (wishes : Balancer) :
    List Attachment :=
  (lb.attachments.filter fun a => some a.networkId = engine.network) ++
    ((missingNetwork engine lb).map fun n =>
      (⟨n, wishes.privateIpv4.getD (Cloud.Inventory.privateAddress lb.id)⟩ : Attachment)).toList

/-- The load balancer without its attachments to some networks. -/
def detached (lb : LoadBalancer) (networks : List Int) : LoadBalancer :=
  { lb with attachments := lb.attachments.filter fun a => a.networkId ∉ networks }

theorem revised?_detach (lb : LoadBalancer) (networks : List Int) :
    revised? (networks.map fun n => .detachFromNetwork lb.id n) lb = some (detached lb networks) := by
  induction networks generalizing lb with
  | nil => simp [detached]
  | cons n networks ih =>
    have hfirst : (Call.detachFromNetwork lb.id n).revise? lb = some (detached lb [n]) := by
      rw [Cloud.revise?_of_subject? rfl]
      simp [Call.alter?, detached]
    rw [List.map_cons, Cloud.revised?_cons, hfirst]
    refine (ih (detached lb [n])).trans (congrArg some ?_)
    simp [detached, List.filter_filter, Bool.and_comm]

/-- The networks that a load balancer is to be detached from. -/
def foreignNetworks (engine : Engine) (lb : LoadBalancer) : List Int :=
  (lb.attachments.filter fun a => some a.networkId ≠ engine.network).map (·.networkId)

theorem detachCalls_eq (engine : Engine) (lb : LoadBalancer) :
    detachCalls engine lb =
      (foreignNetworks engine lb).map fun n => .detachFromNetwork lb.id n := by
  rw [foreignNetworks, List.map_map]
  rfl

theorem ne_of_mem_foreignNetworks {lb : LoadBalancer} {n : Int}
    (h : n ∈ foreignNetworks engine lb) : some n ≠ engine.network := by
  obtain ⟨a, ha, rfl⟩ := List.mem_map.1 h
  simpa using (List.mem_filter.1 ha).2

theorem attachments_detached_foreignNetworks (engine : Engine) (lb : LoadBalancer) :
    (detached lb (foreignNetworks engine lb)).attachments =
      lb.attachments.filter fun a => some a.networkId = engine.network := by
  refine List.filter_congr fun a ha => decide_eq_decide.2 ⟨fun h => ?_, fun h hmem => ?_⟩
  · by_contra hne
    exact h (List.mem_map_of_mem (List.mem_filter.2 ⟨ha, by simpa using hne⟩))
  · exact ne_of_mem_foreignNetworks hmem h

/-- Detaching from foreign networks does not change whether the configured one is missing. -/
theorem missingNetwork_detached {lb : LoadBalancer} {networks : List Int}
    (h : ∀ n ∈ networks, some n ≠ engine.network) :
    missingNetwork engine (detached lb networks) = missingNetwork engine lb := by
  rw [missingNetwork, missingNetwork]
  cases hnetwork : engine.network with
  | none => rfl
  | some n =>
    have hn : n ∉ networks := fun hmem => h n hmem hnetwork.symm
    have hattached : (detached lb networks).isAttachedTo n = lb.isAttachedTo n := by
      rw [Bool.eq_iff_iff]
      simp only [LoadBalancer.isAttachedTo, detached, List.any_eq_true, List.mem_filter, beq_iff_eq,
        decide_eq_true_eq]
      constructor
      · rintro ⟨a, ⟨ha, -⟩, hid⟩
        exact ⟨a, ha, hid⟩
      · rintro ⟨a, ha, rfl⟩
        exact ⟨a, ⟨ha, hn⟩, rfl⟩
    simp only [Option.filter, hattached]

/-- Detaching from foreign networks does not change where the steps lead to. -/
theorem settledAttachments_detached {lb : LoadBalancer} {networks : List Int}
    (h : ∀ n ∈ networks, some n ≠ engine.network) :
    settledAttachments engine (detached lb networks) wishes =
      settledAttachments engine lb wishes := by
  rw [settledAttachments, missingNetwork_detached h, settledAttachments]
  refine congrArg (· ++ _) ?_
  rw [detached, List.filter_filter]
  refine List.filter_congr fun a _ => ?_
  by_cases hours : some a.networkId = engine.network
  · simp only [hours, decide_true, Bool.true_and, decide_eq_true_eq]
    exact fun hmem => h _ hmem hours
  · simp [hours]

theorem revised?_networkCalls (engine : Engine) (lb : LoadBalancer) (wishes : Balancer) :
    revised? (networkCalls engine lb wishes) lb =
      some { lb with attachments := settledAttachments engine lb wishes } := by
  rw [networkCalls, Cloud.revised?_append, detachCalls_eq, revised?_detach, Option.bind_some,
    attachCalls, settledAttachments, ← attachments_detached_foreignNetworks]
  cases missingNetwork engine lb with
  | none => simp [detached]
  | some n =>
    rw [Cloud.revised?_cons, Cloud.revise?_of_subject? rfl]
    rfl

/-- After the steps nothing is left to attach or to detach. -/
theorem networkCalls_settled (engine : Engine) (lb : LoadBalancer) (wishes : Balancer) :
    networkCalls engine { lb with attachments := settledAttachments engine lb wishes } wishes = [] := by
  have hours : ∀ a ∈ settledAttachments engine lb wishes, some a.networkId = engine.network := by
    intro a ha
    rcases List.mem_append.1 ha with ha | ha
    · simpa using (List.mem_filter.1 ha).2
    · simp only [Option.mem_toList, Option.map_eq_some_iff, missingNetwork] at ha
      obtain ⟨n, hn, rfl⟩ := ha
      exact (Option.filter_eq_some_iff.1 hn).1.symm
  have hdetach : detachCalls engine
      { lb with attachments := settledAttachments engine lb wishes } = [] := by
    rw [detachCalls, List.map_eq_nil_iff, List.filter_eq_nil_iff]
    exact fun a ha => by simpa using hours a ha
  have hattach : missingNetwork engine
      { lb with attachments := settledAttachments engine lb wishes } = none := by
    rw [missingNetwork, Option.filter_eq_none_iff]
    intro n hn
    simp only [Bool.not_eq_true', Bool.not_eq_false, LoadBalancer.isAttachedTo, List.any_eq_true,
      beq_iff_eq]
    -- A network that was attached is still there, and one that was missing has been added.
    cases hattached : lb.isAttachedTo n with
    | true =>
      obtain ⟨a, ha, hid⟩ := List.any_eq_true.1 hattached
      refine ⟨a, List.mem_append_left _ (List.mem_filter.2 ⟨ha, ?_⟩), by simpa using hid⟩
      simp [hn, beq_iff_eq.1 hid]
    | false =>
      have hmissing : missingNetwork engine lb = some n := by
        simp [missingNetwork, Option.filter, hn, hattached]
      refine ⟨⟨n, wishes.privateIpv4.getD (Cloud.Inventory.privateAddress lb.id)⟩,
        List.mem_append_right _ ?_, rfl⟩
      rw [hmissing]
      exact List.mem_singleton_self _
  rw [networkCalls, hdetach, attachCalls, hattach]
  rfl

theorem convergent_networkPlan : Convergent fun lb => networkPlan engine lb wishes := by
  simp only [networkPlan_eq]
  refine ⟨fun {lb} _ => ⟨_, revised?_networkCalls engine lb wishes,
    networkCalls_settled engine lb wishes⟩, fun {lb mid made left} _ hcs hmade => ⟨?_, rfl⟩⟩
  change networkCalls engine lb wishes = made ++ left at hcs
  change revised? (networkCalls engine mid wishes) mid = revised? (networkCalls engine lb wishes) lb
  -- A cut among the detachments leaves foreign attachments only to be removed.
  have hcut : ∀ networks, (∀ n ∈ networks, some n ≠ engine.network) → mid = detached lb networks →
      revised? (networkCalls engine mid wishes) mid =
        revised? (networkCalls engine lb wishes) lb := by
    rintro networks hnetworks rfl
    rw [revised?_networkCalls, revised?_networkCalls, settledAttachments_detached hnetworks]
    rfl
  rcases List.append_eq_append_iff.1 hcs with ⟨made', rfl, hattach⟩ | ⟨left', hdetach, -⟩
  · cases made' with
    | nil =>
      rw [List.append_nil, detachCalls_eq, revised?_detach] at hmade
      exact hcut _ (fun n hn => ne_of_mem_foreignNetworks hn) (Option.some.inj hmade).symm
    | cons c made' =>
      have hall : left = [] := by
        rw [attachCalls] at hattach
        cases hmissing : missingNetwork engine lb with
        | none => simp [hmissing] at hattach
        | some n =>
          rw [hmissing] at hattach
          exact (List.append_eq_nil_iff.1 (List.cons.inj hattach).2.symm).2
      rw [hall, List.append_nil] at hattach
      rw [← hattach] at hmade
      have hmid : mid = { lb with attachments := settledAttachments engine lb wishes } :=
        Option.some.inj (hmade.symm.trans (revised?_networkCalls engine lb wishes))
      rw [hmid, networkCalls_settled, revised?_networkCalls]
      rfl
  · rw [detachCalls_eq] at hdetach
    obtain ⟨first, rest, hsplit, rfl, -⟩ := List.map_eq_append_iff.1 hdetach
    rw [revised?_detach] at hmade
    refine hcut first (fun n hn => ?_) (Option.some.inj hmade).symm
    have hforeign : n ∈ foreignNetworks engine lb := by
      rw [hsplit]
      exact List.mem_append_left rest hn
    exact ne_of_mem_foreignNetworks hforeign

theorem concerns_networkPlan : Concerns [.network] fun lb => networkPlan engine lb wishes := by
  simp only [networkPlan_eq]
  refine ⟨fun {x y} h => ?_, fun {lb} c hc => ⟨.network, List.mem_cons_self, ?_⟩⟩
  · obtain ⟨hid, hsame⟩ := h _ List.mem_cons_self
    have hmissing : missingNetwork engine x = missingNetwork engine y := by
      simp only [missingNetwork, LoadBalancer.isAttachedTo, hsame]
    simp only [networkCalls, detachCalls, attachCalls, hmissing, hid, hsame]
  · change c ∈ detachCalls engine lb ++ attachCalls engine lb wishes at hc
    rcases List.mem_append.1 hc with hc | hc
    · obtain ⟨a, -, rfl⟩ := List.mem_map.1 hc
      rfl
    · rw [attachCalls] at hc
      cases hmissing : missingNetwork engine lb with
      | none =>
        rw [hmissing] at hc
        cases hc
      | some n =>
        rw [hmissing] at hc
        rw [List.mem_singleton.1 hc]
        rfl

/-- Where there is nothing to do, the load balancer is in the configured network and in no other. -/
theorem isAttachedTo_of_networkCalls_eq_nil {lb : LoadBalancer}
    (h : networkCalls engine lb wishes = []) (n : Int) :
    (∃ a ∈ lb.attachments, a.networkId = n) ↔ engine.network = some n := by
  obtain ⟨hdetach, hattach⟩ := List.append_eq_nil_iff.1 h
  rw [detachCalls, List.map_eq_nil_iff, List.filter_eq_nil_iff] at hdetach
  constructor
  · rintro ⟨a, ha, rfl⟩
    have hours : some a.networkId = engine.network := by simpa using hdetach a ha
    exact hours.symm
  · intro hn
    rw [attachCalls] at hattach
    cases hmissing : missingNetwork engine lb with
    | some m => simp [hmissing] at hattach
    | none =>
      rw [missingNetwork, Option.filter_eq_none_iff] at hmissing
      simpa [LoadBalancer.isAttachedTo] using hmissing n hn

end BalancerSync.Engine
