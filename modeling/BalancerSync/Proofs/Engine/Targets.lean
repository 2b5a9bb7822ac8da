import BalancerSync.Proofs.Cloud.Convergence
import BalancerSync.Proofs.Desired.Targets
import BalancerSync.Proofs.Engine.Plan
import Mathlib.Data.List.Nodup

/-!
# The step for targets

Removals come first, so a server that is reached by the wrong address is gone before it is added
again.  Each call takes itself off the plan: a removal because no other target has the server, an
addition because no server is wanted twice.

## Main Results

* `convergent_targetsPlan`
* `mem_targets_of_targetCalls_eq_nil` — what is the case when there is nothing to do
-/

namespace BalancerSync.Engine

open Cloud (Call LoadBalancer Plan Stepwise Convergent Concerns Target)
open Cluster (Node)
open Desired (Balancer)

variable {engine : Engine} {wishes : Balancer} {nodes : List Node}

/-! ### Taking out one element -/

section Keys

variable {α κ : Type} [DecidableEq κ] (key : α → κ) {x : α} {xs : List α}

theorem filter_key_ne (h : ∀ y ∈ xs, key y ≠ key x) : xs.filter (fun y => key y ≠ key x) = xs :=
  List.filter_eq_self.2 fun y hy => decide_eq_true (h y hy)

/-- Without the key of the first element the others stay. -/
theorem filter_key_ne_cons (h : ((x :: xs).map key).Nodup) :
    (x :: xs).filter (fun y => key y ≠ key x) = xs := by
  rw [List.map_cons, List.nodup_cons] at h
  rw [List.filter_cons_of_neg (by simp)]
  exact filter_key_ne key fun y hy heq => h.1 (heq ▸ List.mem_map_of_mem hy)

/-- With distinct keys, what has a key is what is found by it. -/
theorem filter_key_eq_find? (h : (xs.map key).Nodup) (k : κ) :
    xs.filter (fun x => key x == k) = (xs.find? fun x => key x == k).toList := by
  induction xs with
  | nil => rfl
  | cons x xs ih =>
    rw [List.map_cons, List.nodup_cons] at h
    by_cases hx : key x = k
    · subst hx
      rw [List.filter_cons_of_pos (by simp), List.find?_cons_of_pos (by simp)]
      refine congrArg (x :: ·) (List.filter_eq_nil_iff.2 fun y hy heq => h.1 ?_)
      rw [← beq_iff_eq.1 heq]
      exact List.mem_map_of_mem hy
    · rw [List.filter_cons_of_neg (by simpa using hx), List.find?_cons_of_neg (by simpa using hx)]
      exact ih h.2

end Keys

/-! ### Targets -/

/-- Removing a target that cannot stay takes that one off the list of removals. -/
theorem filter_targets_of_leave {lb : LoadBalancer} (hd : lb.Distinct) {p : Target → Bool}
    {t : Target} {rest : List Target} (hleave : (lb.targets.filter fun t => !p t) = t :: rest) :
    ((lb.targets.filter fun s => s.serverId ≠ t.serverId).filter p = lb.targets.filter p) ∧
      ((lb.targets.filter fun s => s.serverId ≠ t.serverId).filter fun s => !p s) = rest := by
  have ht : t ∈ lb.targets.filter fun t => !p t := hleave ▸ List.mem_cons_self
  obtain ⟨hmem, hp⟩ := List.mem_filter.1 ht
  refine ⟨?_, ?_⟩
  · rw [List.filter_comm]
    refine filter_key_ne Target.serverId fun s hs heq => ?_
    obtain ⟨hs, hps⟩ := List.mem_filter.1 hs
    obtain rfl := List.inj_on_of_nodup_map hd.servers hs hmem heq
    rw [hps] at hp
    cases hp
  · rw [List.filter_comm, hleave]
    refine filter_key_ne_cons Target.serverId ?_
    rw [← hleave]
    exact hd.servers.sublist (List.filter_sublist.map _)

/-- Adding the first server that is missing takes that one off the list of additions. -/
theorem filter_missing_append {desired missing : List Int} (hdesired : desired.Nodup)
    {targets : List Target} {id : Int} (usePrivateIp : Bool)
    (h : (desired.filter fun x => !targets.any fun t => t.serverId == x) = id :: missing) :
    (desired.filter fun x =>
      !(targets ++ [(⟨id, usePrivateIp⟩ : Target)]).any fun t => t.serverId == x) = missing := by
  have hnodup : (id :: missing).Nodup := h ▸ hdesired.sublist List.filter_sublist
  calc
    _ = (desired.filter fun x => !targets.any fun t => t.serverId == x).filter (· ≠ id) := by
      rw [List.filter_filter]
      refine List.filter_congr fun x _ => ?_
      simp only [List.any_append, List.any_cons, List.any_nil, Bool.or_false, Bool.not_or]
      rw [Bool.and_comm, beq_eq_decide, ← decide_not]
      exact congrArg (· && _) (decide_eq_decide.2 ⟨Ne.symm, Ne.symm⟩)
    _ = missing := by
      rw [h]
      exact filter_key_ne_cons (fun x : Int => x) (by simpa using hnodup)

theorem stepwise_targetCalls {desired : List Int} (hdesired : desired.Nodup) (usePrivateIp : Bool) :
    Stepwise fun lb => Plan.make (targetCalls lb desired usePrivateIp) := by
  intro lb c cs hd hcs
  change targetCalls lb desired usePrivateIp = c :: cs at hcs
  change ∃ new, c.revise? lb = some new ∧ Plan.make (targetCalls new desired usePrivateIp) = .make cs
  rw [targetCalls] at hcs
  -- Removals come first: the next call is an addition only when all targets are in place.
  cases hleave : lb.targets.filter fun t => !isInPlace desired usePrivateIp t with
  | cons t rest =>
    obtain ⟨hstay, hrest⟩ := filter_targets_of_leave hd hleave
    rw [hleave] at hcs
    obtain ⟨rfl, rfl⟩ := List.cons.inj hcs
    refine ⟨_, Cloud.revise?_of_subject? rfl, congrArg Plan.make ?_⟩
    simp only [targetCalls]
    rw [hstay, hrest]
    rfl
  | nil =>
    rw [hleave, List.map_nil, List.nil_append] at hcs
    obtain ⟨id, missing, hmissing, rfl, rfl⟩ := List.map_eq_cons_iff.1 hcs
    have hall : ∀ t ∈ lb.targets, isInPlace desired usePrivateIp t = true := by
      simpa using List.filter_eq_nil_iff.1 hleave
    rw [List.filter_eq_self.2 hall] at hmissing
    have hid : id ∈ desired.filter fun id => !lb.targets.any fun t => t.serverId == id :=
      hmissing ▸ List.mem_cons_self
    obtain ⟨hwanted, hfree⟩ := List.mem_filter.1 hid
    have hfree : ∀ t ∈ lb.targets, t.serverId ≠ id := by simpa using hfree
    have hadd : (Call.addTarget lb.id id usePrivateIp).revise? lb =
        some { lb with targets := lb.targets ++ [⟨id, usePrivateIp⟩] } := by
      rw [Cloud.revise?_of_subject? rfl, Call.alter?, Cloud.withTarget_eq_ok.2 ⟨hfree, rfl⟩]
      rfl
    refine ⟨_, hadd, congrArg Plan.make ?_⟩
    have hnew : isInPlace desired usePrivateIp ⟨id, usePrivateIp⟩ = true := by
      simpa [isInPlace] using hwanted
    have hall' : ∀ t ∈ lb.targets ++ [(⟨id, usePrivateIp⟩ : Target)],
        isInPlace desired usePrivateIp t = true := by
      intro t ht
      rcases List.mem_append.1 ht with ht | ht
      · exact hall t ht
      · rw [List.mem_singleton.1 ht]
        exact hnew
    have hmissing' := filter_missing_append hdesired usePrivateIp hmissing
    simp only [targetCalls]
    rw [List.filter_eq_self.2 hall', hmissing',
      List.filter_eq_nil_iff.2 fun t ht => by simp [hall' t ht]]
    rfl

/-- The servers are those of the selected nodes; that private addresses take a network can only be
an error. -/
theorem serverIds_of_desiredTargets {desired : List Int}
    (h : desiredTargets engine wishes nodes = .ok desired) :
    Desired.serverIds nodes wishes.nodeSelector = .ok desired := by
  rw [desiredTargets] at h
  split at h
  · cases h
  · exact h

theorem convergent_targetsPlan : Convergent fun lb => targetsPlan engine lb wishes nodes := by
  refine Convergent.within (Convergent.ofExcept_bind _ fun desired hdesired => ?_) _
  have hids := serverIds_of_desiredTargets hdesired
  exact (stepwise_targetCalls (Desired.nodup_serverIds hids) _).convergent

theorem concerns_targetsPlan : Concerns [.targets] fun lb => targetsPlan engine lb wishes nodes := by
  refine Concerns.within (Concerns.ofExcept_bind _ fun desired _ =>
    ⟨fun {x y} h => ?_, fun {lb} c hc => ⟨.targets, List.mem_cons_self, ?_⟩⟩) _
  · obtain ⟨hid, hsame⟩ := h _ List.mem_cons_self
    simp only [targetCalls, hid, hsame]
  · rcases List.mem_append.1 hc with hc | hc
    · obtain ⟨t, -, rfl⟩ := List.mem_map.1 hc
      rfl
    · obtain ⟨id, -, rfl⟩ := List.mem_map.1 hc
      rfl

/-- Where there is nothing to do, the targets are the servers that are wanted, each reached by the
wanted address. -/
theorem mem_targets_of_targetCalls_eq_nil {lb : LoadBalancer} {desired : List Int}
    {usePrivateIp : Bool} (h : targetCalls lb desired usePrivateIp = []) (t : Target) :
    t ∈ lb.targets ↔ ∃ id ∈ desired, t = ⟨id, usePrivateIp⟩ := by
  obtain ⟨hleave, hmissing⟩ := List.append_eq_nil_iff.1 h
  rw [List.map_eq_nil_iff, List.filter_eq_nil_iff] at hleave hmissing
  have hall : ∀ t ∈ lb.targets, t.serverId ∈ desired ∧ t.usePrivateIp = usePrivateIp := by
    simpa [isInPlace] using hleave
  refine ⟨fun ht => ?_, ?_⟩
  · obtain ⟨hid, haddress⟩ := hall t ht
    exact ⟨t.serverId, hid, by rw [← haddress]⟩
  · rintro ⟨id, hid, rfl⟩
    obtain ⟨t, ht, -, hserver⟩ : ∃ t ∈ lb.targets,
        isInPlace desired usePrivateIp t = true ∧ t.serverId = id := by
      simpa using hmissing id hid
    obtain ⟨-, haddress⟩ := hall t ht
    rwa [← hserver, ← haddress]

end BalancerSync.Engine
