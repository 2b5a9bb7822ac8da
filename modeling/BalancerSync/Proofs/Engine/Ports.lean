import BalancerSync.Proofs.Cloud.Turns
import BalancerSync.Proofs.Engine.Requests
import BalancerSync.Proofs.Engine.Services

/-!
# What a pass does for one listen port

The plan for the services goes through the ports of the Service and then through the services that
are left over.  Seen from one listen port nearly all of this is about others.  What remains is one
change at most: the first port with this number says what is wanted, and what is there decides
whether that takes a change.

## Main Definitions

* `PortWork` — what a pass does for one listen port

## Main Results

* `filter_portsPlan` — the changes for one listen port, by induction on the ports
* `portWork_of_portsPlan` — the plan for the services does this for every listen port
-/

namespace BalancerSync.Engine

open Cloud (Call LoadBalancer Plan Certificate)
open Cluster (Service ServicePort)
open Desired (PortOptions)

variable {certificates : List Certificate} {lb : LoadBalancer} {service : Service}
  {met wanted : List Nat} {ports : List ServicePort} {n : Nat}

/-! ### Ports in a row -/

/-- Each change for a port names that port. -/
theorem listenPort?_of_mem_portChanges {options : PortOptions} {c : Call}
    (hc : c ∈ portChanges lb n options) : c.listenPort? = some n ∧ c.turn? = some 8 := by
  rcases eq_of_mem_portChanges hc with rfl | ⟨-, rfl⟩
  · exact ⟨rfl, rfl⟩
  · exact ⟨rfl, rfl⟩

/-- What a plan that ends well says about the first port, and that it ends well for the others. -/
theorem portsPlan_cons_eq_ok {port : ServicePort}
    (h : (portsPlan certificates lb service met (port :: ports)).outcome = .ok wanted) :
    ∃ n, Desired.validPort port.port "port" = .ok n ∧
      ((n ∈ met ∧ portsPlan certificates lb service met (port :: ports) =
          portsPlan certificates lb service met ports) ∨
        (n ∉ met ∧ ∃ options, PortOptions.readFrom certificates service port n = .ok options ∧
          (portsPlan certificates lb service (met ++ [n]) ports).outcome = .ok wanted ∧
          (portsPlan certificates lb service met (port :: ports)).calls =
            portChanges lb n options ++
              (portsPlan certificates lb service (met ++ [n]) ports).calls)) := by
  rw [portsPlan] at h ⊢
  obtain ⟨n, hvalid, h, heq⟩ := Plan.of_ofExcept_bind_eq_ok h
  refine ⟨n, hvalid, ?_⟩
  rw [heq]
  by_cases hmet : met.contains n
  · rw [if_pos hmet]
    exact .inl ⟨by simpa using hmet, rfl⟩
  · rw [if_neg hmet] at h ⊢
    obtain ⟨options, hread, h, heq⟩ := Plan.of_ofExcept_bind_eq_ok h
    rw [heq]
    obtain ⟨⟨⟩, -, hrest, hcalls⟩ := Plan.of_bind_eq_ok h
    exact .inr ⟨by simpa using hmet, options, hread, hrest, hcalls⟩

theorem turn?_of_mem_portsPlan
    (h : (portsPlan certificates lb service met ports).outcome = .ok wanted) :
    ∀ c ∈ (portsPlan certificates lb service met ports).calls, c.turn? = some 8 := by
  induction ports generalizing met with
  | nil => exact fun c hc => absurd hc List.not_mem_nil
  | cons port ports ih =>
    intro c hc
    obtain ⟨m, -, ⟨-, heq⟩ | ⟨-, options, -, hrest, hcalls⟩⟩ := portsPlan_cons_eq_ok h
    · rw [heq] at h hc
      exact ih h c hc
    · rw [hcalls] at hc
      rcases List.mem_append.1 hc with hc | hc
      · exact (listenPort?_of_mem_portChanges hc).2
      · exact ih hrest c hc

/-- A port that was met before is wanted, and nothing more is done for it. -/
theorem filter_portsPlan_of_met
    (h : (portsPlan certificates lb service met ports).outcome = .ok wanted) (hn : n ∈ met) :
    n ∈ wanted ∧ ∀ c ∈ (portsPlan certificates lb service met ports).calls,
      c.listenPort? ≠ some n := by
  induction ports generalizing met with
  | nil =>
    obtain rfl := Except.ok.inj h
    exact ⟨hn, fun c hc => absurd hc List.not_mem_nil⟩
  | cons port ports ih =>
    obtain ⟨m, -, ⟨-, heq⟩ | ⟨hm, options, -, hrest, hcalls⟩⟩ := portsPlan_cons_eq_ok h
    · rw [heq] at h ⊢
      exact ih h hn
    · obtain ⟨hwanted, hnone⟩ := ih hrest (List.mem_append_left _ hn)
      refine ⟨hwanted, fun c hc => ?_⟩
      rw [hcalls] at hc
      rcases List.mem_append.1 hc with hc | hc
      · rw [(listenPort?_of_mem_portChanges hc).1]
        intro heq
        obtain rfl := Option.some.inj heq
        exact hm hn
      · exact hnone c hc

/-- What is done for a listen port that was not met yet is decided by the first port with that
number. -/
theorem filter_portsPlan
    (h : (portsPlan certificates lb service met ports).outcome = .ok wanted) (hn : n ∉ met) :
    (∃ port options, ports.find? (fun port => port.port == (n : Int)) = some port ∧
        PortOptions.readFrom certificates service port n = .ok options ∧ n ∈ wanted ∧
        (portsPlan certificates lb service met ports).calls.filter
          (fun c => c.listenPort? = some n) = portChanges lb n options) ∨
      (ports.find? (fun port => port.port == (n : Int)) = none ∧ n ∉ wanted ∧
        (portsPlan certificates lb service met ports).calls.filter
          (fun c => c.listenPort? = some n) = []) := by
  induction ports generalizing met with
  | nil =>
    obtain rfl := Except.ok.inj h
    exact .inr ⟨rfl, hn, rfl⟩
  | cons port ports ih =>
    obtain ⟨m, hvalid, hcases⟩ := portsPlan_cons_eq_ok h
    have hm := Desired.validPort_eq_ok hvalid
    by_cases hmn : m = n
    · subst hmn
      obtain ⟨hmet, -⟩ | ⟨-, options, hread, hrest, hcalls⟩ := hcases
      · exact absurd hmet hn
      · -- This is the port that decides.  From now on the number is met.
        obtain ⟨hwanted, hnone⟩ := filter_portsPlan_of_met hrest
          (List.mem_append_right met (List.mem_singleton_self m))
        refine .inl ⟨port, options, List.find?_cons_of_pos (by simpa using hm), hread, hwanted, ?_⟩
        rw [hcalls, List.filter_append, List.filter_eq_self.2 fun c hc => ?_,
          List.filter_eq_nil_iff.2 fun c hc => ?_, List.append_nil]
        · simpa using hnone c hc
        · exact decide_eq_true (listenPort?_of_mem_portChanges hc).1
    · have hother : port.port ≠ n := by omega
      rw [List.find?_cons_of_neg (by simpa using hother)]
      obtain ⟨-, heq⟩ | ⟨-, options, -, hrest, hcalls⟩ := hcases
      · rw [heq] at h ⊢
        exact ih h hn
      -- What this port leads to has another number, so the rest decides.
      · have hfirst : (portChanges lb m options).filter (fun c => c.listenPort? = some n) = [] := by
          rw [List.filter_eq_nil_iff]
          intro c hc
          rw [(listenPort?_of_mem_portChanges hc).1]
          simpa using hmn
        rw [hcalls, List.filter_append, hfirst, List.nil_append]
        exact ih hrest (by simp [hn, Ne.symm hmn])

/-- A service is deleted exactly if its port is not wanted. -/
theorem filter_surplusCalls (hd : lb.Distinct) :
    (surplusCalls lb wanted).filter (fun c => c.listenPort? = some n) =
      if n ∈ wanted then [] else
        ((lb.service? n).map fun _ => Call.deleteService lb.id n).toList := by
  have hport : (surplusCalls lb wanted).filter (fun c => c.listenPort? = some n) =
      ((lb.service? n).toList.filter fun s => !wanted.contains s.listenPort).map fun s =>
        .deleteService lb.id s.listenPort := by
    rw [LoadBalancer.service?, ← filter_key_eq_find? _ hd.listenPorts, List.filter_comm,
      surplusCalls, List.filter_map]
    refine congrArg _ (List.filter_congr fun s _ => ?_)
    simp [Call.listenPort?, beq_eq_decide]
  rw [hport]
  cases hs : lb.service? n with
  | none => simp
  | some s =>
    have hn : s.listenPort = n := by simpa using List.find?_some hs
    by_cases hwanted : n ∈ wanted <;> simp [hn, hwanted]

/-! ### Every port -/

/-- What a pass does for one listen port.  The first port of the Service with this number says what
is wanted. -/
inductive PortWork (certificates : List Certificate) (lb : LoadBalancer) (service : Service)
    (n : Nat) : List Call → Prop where
  /-- The port is neither wanted nor there. -/
  | absent : firstPort? service n = none → lb.service? n = none →
    PortWork certificates lb service n []
  /-- The port is there and not wanted. -/
  | surplus {s} : firstPort? service n = none → lb.service? n = some s →
    PortWork certificates lb service n [.deleteService lb.id n]
  /-- The port is wanted and not there. -/
  | missing {port options} : firstPort? service n = some port →
    PortOptions.readFrom certificates service port n = .ok options → lb.service? n = none →
    PortWork certificates lb service n [.addService lb.id (options.newService n)]
  /-- The port is there as it is wanted. -/
  | settled {port options s} : firstPort? service n = some port →
    PortOptions.readFrom certificates service port n = .ok options → lb.service? n = some s →
    options.change.differs s = false → PortWork certificates lb service n []
  /-- The port is there, but not as it is wanted. -/
  | differing {port options s} : firstPort? service n = some port →
    PortOptions.readFrom certificates service port n = .ok options → lb.service? n = some s →
    options.change.differs s = true →
    PortWork certificates lb service n [.updateService lb.id n options.change]

/-- No port takes more than one change. -/
theorem PortWork.length_le {calls : List Call} (h : PortWork certificates lb service n calls) :
    calls.length ≤ 1 := by
  cases h <;> simp

/-- The plan for the services does for every listen port what there is to do. -/
theorem portWork_of_portsPlan (hd : lb.Distinct)
    (h : (portsPlan certificates lb service [] service.ports).outcome = .ok wanted) (n : Nat) :
    PortWork certificates lb service n
      (((portsPlan certificates lb service [] service.ports).calls ++
        surplusCalls lb wanted).filter fun c => c.listenPort? = some n) := by
  rw [List.filter_append, filter_surplusCalls hd]
  obtain ⟨port, options, hport, hread, hwanted, hcalls⟩ | ⟨hport, hwanted, hcalls⟩ :=
    filter_portsPlan h (List.not_mem_nil (a := n))
  · rw [hcalls, if_pos hwanted, List.append_nil, portChanges]
    cases hs : lb.service? n with
    | none => exact .missing hport hread hs
    | some s =>
      by_cases hdiffers : options.change.differs s
      · simp only [if_pos hdiffers]
        exact .differing hport hread hs hdiffers
      · simp only [if_neg hdiffers]
        exact .settled hport hread hs (by simpa using hdiffers)
  · rw [hcalls, if_neg hwanted, List.nil_append]
    cases hs : lb.service? n with
    | none => exact .absent hport hs
    | some s => exact .surplus hport hs

end BalancerSync.Engine
