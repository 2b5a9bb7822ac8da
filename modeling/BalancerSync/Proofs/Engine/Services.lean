import BalancerSync.Proofs.Cloud.Convergence
import BalancerSync.Proofs.Cloud.Exactness
import BalancerSync.Proofs.Engine.Targets

/-!
# The step for backend services

The plan goes through the listen ports in their order and then through the services that are left
over.  It is stepwise, by induction on the ports.  The induction needs to know in addition that the
first call leaves the services alone that the plan has passed already: what came before has
nothing to do, and that must stay so.

## Main Definitions

* `unmet` — the services on the listen ports that the plan has not come to yet

## Main Results

* `convergent_servicesPlan`
* `exists_service_of_servicesFrom_eq`, `listenPort_of_servicesFrom_eq` — what is the case when there
  is nothing to do
-/

namespace BalancerSync.Engine

open Cloud (Call LoadBalancer Plan Stepwise Convergent Concerns Certificate BackendService
  ServiceChange)
open Cluster (Service ServicePort)
open Desired (PortOptions)

variable {certificates : List Certificate} {service : Service} {lb new : LoadBalancer}
  {met : List Nat} {ports : List ServicePort} {n m : Nat}

/-! ### Changing one service -/

section ChangeFirst

open Cloud.Inventory (changeFirst)

variable {services : List BackendService}

/-- A list of services that leaves the port out does not show the change. -/
theorem filter_changeFirst (change : ServiceChange) {p : Nat → Bool} (hp : p n = false) :
    (changeFirst n change.apply services).filter (fun s => p s.listenPort) =
      services.filter fun s => p s.listenPort := by
  induction services with
  | nil => rfl
  | cons t rest ih =>
    rw [changeFirst]
    by_cases ht : t.listenPort = n
    · rw [if_pos ht, List.filter_cons_of_neg (by simp [ServiceChange.apply, ht, hp]),
        List.filter_cons_of_neg (by simp [ht, hp])]
    · rw [if_neg ht, List.filter_cons, List.filter_cons, ih]

end ChangeFirst

/-! ### The services that are still to come -/

/-- The services on listen ports that were not met. -/
def unmet (lb : LoadBalancer) (met : List Nat) : List BackendService :=
  lb.services.filter fun s => !met.contains s.listenPort

theorem service?_eq_find?_unmet (hn : n ∉ met) :
    lb.service? n = (unmet lb met).find? fun s => s.listenPort == n := by
  rw [LoadBalancer.service?, unmet, List.find?_filter]
  congr 1
  funext s
  by_cases h : s.listenPort = n
  · simp [h, hn]
  · simp [h]

/-- Load balancers with the same services to come have the same service on every port to come. -/
theorem service?_congr {x y : LoadBalancer} (h : unmet x met = unmet y met) (hn : n ∉ met) :
    x.service? n = y.service? n := by
  rw [service?_eq_find?_unmet hn, service?_eq_find?_unmet hn, h]

theorem unmet_append (lb : LoadBalancer) (met : List Nat) (n : Nat) :
    unmet lb (met ++ [n]) = (unmet lb met).filter fun s => !s.listenPort == n := by
  rw [unmet, unmet, List.filter_filter]
  refine List.filter_congr fun s _ => ?_
  simp [Bool.and_comm, beq_eq_decide]

/-! ### The plan port by port -/

theorem servicesFrom_nil : servicesFrom certificates lb service met [] =
    .make ((unmet lb met).map fun s => .deleteService lb.id s.listenPort) := rfl

theorem servicesFrom_cons (certificates : List Certificate) (lb : LoadBalancer) (service : Service)
    (met : List Nat) (port : ServicePort) (ports : List ServicePort) :
    servicesFrom certificates lb service met (port :: ports) =
      (Plan.ofExcept (Desired.validPort port.port "port")).bind fun n =>
        if met.contains n then servicesFrom certificates lb service met ports
        else
          (Plan.ofExcept (PortOptions.readFrom certificates service port n)).bind fun options =>
            (Plan.make (portChanges lb n options)).bind fun _ =>
              servicesFrom certificates lb service (met ++ [n]) ports := by
  rw [servicesFrom, portsPlan, Plan.bind_assoc]
  congr 1
  funext n
  by_cases h : met.contains n
  · rw [if_pos h, if_pos h]
    rfl
  · rw [if_neg h, if_neg h, Plan.bind_assoc]
    congr 1
    funext options
    rw [Plan.bind_assoc]
    rfl

theorem portChanges_congr {x y : LoadBalancer} (hid : x.id = y.id)
    (h : x.service? n = y.service? n) (options : PortOptions) :
    portChanges x n options = portChanges y n options := by
  rw [portChanges, portChanges, h, hid]

/-- The plan depends on the services that are still to come only. -/
theorem servicesFrom_congr {x y : LoadBalancer} (hid : x.id = y.id)
    (h : unmet x met = unmet y met) :
    servicesFrom certificates x service met ports =
      servicesFrom certificates y service met ports := by
  induction ports generalizing met with
  | nil => rw [servicesFrom_nil, servicesFrom_nil, h, hid]
  | cons port ports ih =>
    rw [servicesFrom_cons, servicesFrom_cons]
    congr 1
    funext n
    by_cases hmet : met.contains n
    · rw [if_pos hmet, if_pos hmet, ih h]
    · rw [if_neg hmet, if_neg hmet]
      have hn : n ∉ met := by simpa using hmet
      congr 1
      funext options
      rw [portChanges_congr hid (service?_congr h hn), ih (by rw [unmet_append, unmet_append, h])]

/-! ### One port -/

/-- A port takes one call at most, which gives it what is wanted and is seen on no other port. -/
theorem portChanges_cases (lb : LoadBalancer) (n : Nat) (options : PortOptions) :
    portChanges lb n options = [] ∨
      ∃ c new, portChanges lb n options = [c] ∧ c.revise? lb = some new ∧
        portChanges new n options = [] ∧ ∀ met, n ∈ met → unmet new met = unmet lb met := by
  cases hs : lb.service? n with
  | some s =>
    by_cases hdiffers : options.change.differs s
    · refine .inr ⟨.updateService lb.id n options.change, { lb with
          services := Cloud.Inventory.changeFirst n options.change.apply lb.services },
        ?_, ?_, ?_, fun met hn => ?_⟩
      · simp only [portChanges, hs, if_pos hdiffers]
      · rw [Cloud.revise?_of_subject? rfl, Call.alter?,
          Cloud.withServiceChange_eq_ok.2 ⟨by rw [hs]; rfl, rfl⟩]
        rfl
      · have hnew := Cloud.find?_changeFirst_self options.change hs
        simp only [portChanges, LoadBalancer.service?, hnew, ServiceChange.not_differs_apply]
        rfl
      · exact filter_changeFirst options.change (p := fun m => !met.contains m) (by simpa using hn)
    · exact .inl (by simp only [portChanges, hs, if_neg hdiffers])
  | none =>
    refine .inr ⟨.addService lb.id (options.newService n), { lb with
        services := lb.services ++ [(options.newService n).create] }, ?_, ?_, ?_, fun met hn => ?_⟩
    · simp only [portChanges, hs]
    · rw [Cloud.revise?_of_subject? rfl, Call.alter?, Cloud.withService_eq_ok.2 ⟨hs, rfl⟩]
      rfl
    · have hnew : (lb.services ++ [(options.newService n).create]).find?
          (fun s => s.listenPort == n) = some (options.newService n).create :=
        Cloud.find?_append_self (s := (options.newService n).create) hs
      simp only [portChanges, LoadBalancer.service?, hnew, PortOptions.not_differs_create]
      rfl
    · simp [unmet, List.filter_append, Cloud.NewService.create, PortOptions.newService, hn]

/-- Each call takes itself off the plan, and none is seen on a port that was met before. -/
theorem servicesFrom_of_cons {c : Call} {cs : List Call} (hd : lb.Distinct)
    (h : (servicesFrom certificates lb service met ports).calls = c :: cs) :
    ∃ new, c.revise? lb = some new ∧
      servicesFrom certificates new service met ports =
        ⟨cs, (servicesFrom certificates lb service met ports).outcome⟩ ∧
      ∀ n ∈ met, new.service? n = lb.service? n := by
  induction ports generalizing met c cs with
  | nil =>
    rw [servicesFrom_nil] at h
    obtain ⟨s, rest, hunmet, rfl, rfl⟩ := List.map_eq_cons_iff.1 h
    have hs : s ∈ unmet lb met := hunmet ▸ List.mem_cons_self
    have hfree : s.listenPort ∉ met := by simpa using (List.mem_filter.1 hs).2
    refine ⟨_, Cloud.revise?_of_subject? rfl, ?_, fun n hn => ?_⟩
    · rw [servicesFrom_nil]
      refine congrArg (fun xs : List BackendService => Plan.make (xs.map _)) ?_
      rw [unmet, List.filter_comm]
      change ((unmet lb met).filter fun t => t.listenPort ≠ s.listenPort) = rest
      rw [hunmet]
      refine filter_key_ne_cons BackendService.listenPort ?_
      rw [← hunmet]
      exact hd.listenPorts.sublist (List.filter_sublist.map _)
    · have hne : n ≠ s.listenPort := fun heq => hfree (heq ▸ hn)
      simp only [LoadBalancer.service?, List.find?_filter]
      congr 1
      funext t
      by_cases ht : t.listenPort = n
      · simp [ht, hne]
      · simp [ht]
  | cons port ports ih =>
    -- The plan up to this port is the same for every load balancer.
    have hplan := fun x : LoadBalancer => servicesFrom_cons certificates x service met port ports
    cases hvalid : Desired.validPort port.port "port" with
    | error e =>
      rw [hplan, hvalid] at h
      cases h
    | ok n =>
      simp only [hvalid, Plan.bind_ofExcept_ok] at hplan
      by_cases hmet : met.contains n
      · simp only [if_pos hmet] at hplan
        simp only [hplan] at h ⊢
        exact ih h
      · simp only [if_neg hmet] at hplan
        cases hread : PortOptions.readFrom certificates service port n with
        | error e =>
          rw [hplan, hread] at h
          cases h
        | ok options =>
          simp only [hread, Plan.bind_ofExcept_ok] at hplan
          simp only [hplan] at h ⊢
          rcases portChanges_cases lb n options with hnone | ⟨d, new, hone, hnew, hnone, hsame⟩
          · -- The port has what is wanted, and the call for a later one does not change that.
            rw [hnone] at h ⊢
            obtain ⟨new, hnew, hrest, hsame⟩ := ih h
            refine ⟨new, hnew, ?_, fun m hm => hsame m (List.mem_append_left _ hm)⟩
            rw [portChanges_congr (Cloud.id_of_revise? hnew) (hsame n (by simp)), hnone]
            exact hrest
          · rw [hone] at h ⊢
            obtain ⟨rfl, rfl⟩ := List.cons.inj h
            refine ⟨new, hnew, ?_, fun m hm => ?_⟩
            · rw [hnone, servicesFrom_congr (Cloud.id_of_revise? hnew) (hsame _ (by simp))]
              rfl
            · have hne : m ∉ [n] := by
                simp only [List.mem_singleton]
                rintro rfl
                exact hmet (by simpa using hm)
              exact service?_congr (hsame [n] (by simp)) hne

theorem convergent_servicesPlan : Convergent fun lb => servicesPlan certificates lb service := by
  refine Convergent.within (Stepwise.convergent fun lb c cs hd h => ?_) _
  obtain ⟨new, hnew, hrest, -⟩ := servicesFrom_of_cons hd h
  exact ⟨new, hnew, hrest⟩

theorem aspect?_of_mem_portChanges {c : Call} {options : PortOptions}
    (hc : c ∈ portChanges lb n options) : c.aspect? = some .services := by
  rw [portChanges] at hc
  split at hc
  · split at hc
    · rw [List.mem_singleton.1 hc]
      rfl
    · cases hc
  · rw [List.mem_singleton.1 hc]
    rfl

theorem aspect?_of_mem_servicesFrom {c : Call}
    (hc : c ∈ (servicesFrom certificates lb service met ports).calls) :
    c.aspect? = some .services := by
  induction ports generalizing met with
  | nil =>
    obtain ⟨s, -, rfl⟩ := List.mem_map.1 hc
    rfl
  | cons port ports ih =>
    rw [servicesFrom_cons] at hc
    cases hvalid : Desired.validPort port.port "port" with
    | error e =>
      rw [hvalid] at hc
      cases hc
    | ok n =>
      rw [hvalid, Plan.bind_ofExcept_ok] at hc
      by_cases hmet : met.contains n
      · rw [if_pos hmet] at hc
        exact ih hc
      · rw [if_neg hmet] at hc
        cases hread : PortOptions.readFrom certificates service port n with
        | error e =>
          rw [hread] at hc
          cases hc
        | ok options =>
          rw [hread, Plan.bind_ofExcept_ok, Plan.bind_of_ok rfl] at hc
          rcases List.mem_append.1 hc with hc | hc
          · exact aspect?_of_mem_portChanges hc
          · exact ih hc

theorem concerns_servicesPlan :
    Concerns [.services] fun lb => servicesPlan certificates lb service := by
  refine Concerns.within ⟨fun {x y} h => ?_, fun {lb} c hc =>
    ⟨.services, List.mem_cons_self, aspect?_of_mem_servicesFrom hc⟩⟩ _
  obtain ⟨hid, hsame⟩ := h _ List.mem_cons_self
  refine servicesFrom_congr hid ?_
  rw [unmet, unmet, hsame]

/-! ### When there is nothing to do -/

/-- What the plan being empty says about the first port, and that it is empty for the others. -/
theorem servicesFrom_cons_eq_nil {port : ServicePort}
    (h : servicesFrom certificates lb service met (port :: ports) = ⟨[], .ok ()⟩) :
    ∃ n, Desired.validPort port.port "port" = .ok n ∧
      ((n ∈ met ∧ servicesFrom certificates lb service met ports = ⟨[], .ok ()⟩) ∨
        (n ∉ met ∧ servicesFrom certificates lb service (met ++ [n]) ports = ⟨[], .ok ()⟩ ∧
          ∃ s options, lb.service? n = some s ∧
            PortOptions.readFrom certificates service port n = .ok options ∧
            options.change.differs s = false)) := by
  rw [servicesFrom_cons] at h
  cases hvalid : Desired.validPort port.port "port" with
  | error e =>
    rw [hvalid] at h
    cases h
  | ok n =>
    rw [hvalid, Plan.bind_ofExcept_ok] at h
    refine ⟨n, rfl, ?_⟩
    by_cases hmet : met.contains n
    · rw [if_pos hmet] at h
      exact .inl ⟨by simpa using hmet, h⟩
    · rw [if_neg hmet] at h
      cases hread : PortOptions.readFrom certificates service port n with
      | error e =>
        rw [hread] at h
        cases h
      | ok options =>
        rw [hread, Plan.bind_ofExcept_ok, Plan.bind_of_ok rfl] at h
        -- An empty plan has no call for this port and none for the others.
        obtain ⟨hcalls, houtcome⟩ := Plan.mk.inj h
        obtain ⟨hport, hrest⟩ := List.append_eq_nil_iff.1 hcalls
        have hrest : servicesFrom certificates lb service (met ++ [n]) ports = ⟨[], .ok ()⟩ := by
          rw [← hrest, ← houtcome]
        refine .inr ⟨by simpa using hmet, hrest, ?_⟩
        change portChanges lb n options = [] at hport
        rw [portChanges] at hport
        cases hs : lb.service? n with
        | none => simp [hs] at hport
        | some s =>
          refine ⟨s, options, rfl, rfl, ?_⟩
          simpa [hs] using hport

/-- Every listen port of the load balancer is one of the Service. -/
theorem listenPort_of_servicesFrom_eq
    (h : servicesFrom certificates lb service met ports = ⟨[], .ok ()⟩) {s : BackendService}
    (hs : s ∈ lb.services) :
    s.listenPort ∈ met ∨ ∃ port ∈ ports, port.port = s.listenPort := by
  induction ports generalizing met with
  | nil =>
    rw [servicesFrom_nil] at h
    have hnil := List.filter_eq_nil_iff.1 (List.map_eq_nil_iff.1 (congrArg Plan.calls h)) s hs
    exact .inl (by simpa using hnil)
  | cons port ports ih =>
    obtain ⟨n, hn, ⟨hmet, hrest⟩ | ⟨hmet, hrest, -⟩⟩ := servicesFrom_cons_eq_nil h
    · exact (ih hrest).imp_right fun ⟨p, hp, heq⟩ => ⟨p, List.mem_cons_of_mem _ hp, heq⟩
    · rcases ih hrest with hmem | ⟨p, hp, heq⟩
      · rcases List.mem_append.1 hmem with hmem | hmem
        · exact .inl hmem
        · rw [List.mem_singleton.1 hmem]
          exact .inr ⟨port, List.mem_cons_self, Desired.validPort_eq_ok hn⟩
      · exact .inr ⟨p, List.mem_cons_of_mem _ hp, heq⟩

/-- Every port of the Service has a service, from which the wishes for the first port with that
number do not differ. -/
theorem exists_service_of_servicesFrom_eq
    (h : servicesFrom certificates lb service met ports = ⟨[], .ok ()⟩) (hn : n ∉ met)
    (hport : ∃ port ∈ ports, port.port = n) :
    ∃ first s options, ports.find? (fun port => port.port == (n : Int)) = some first ∧
      Desired.validPort first.port "port" = .ok n ∧ lb.service? n = some s ∧
      PortOptions.readFrom certificates service first n = .ok options ∧
      options.change.differs s = false := by
  induction ports generalizing met with
  | nil =>
    obtain ⟨port, hport, -⟩ := hport
    cases hport
  | cons port ports ih =>
    obtain ⟨n', hvalid, hcases⟩ := servicesFrom_cons_eq_nil h
    have hn' := Desired.validPort_eq_ok hvalid
    by_cases heq : n = n'
    · subst heq
      rcases hcases with ⟨hmet, -⟩ | ⟨-, -, s, options, hs, hread, hsame⟩
      · exact absurd hmet hn
      · exact ⟨port, s, options, List.find?_cons_of_pos (by simp [hn']), hvalid, hs, hread, hsame⟩
    · have hne : port.port ≠ n := by omega
      have hrest : ∃ port ∈ ports, port.port = n := by
        obtain ⟨p, hp, hpn⟩ := hport
        rcases List.mem_cons.1 hp with rfl | hp
        · exact absurd hpn hne
        · exact ⟨p, hp, hpn⟩
      rw [List.find?_cons_of_neg (by simpa using hne)]
      rcases hcases with ⟨-, h⟩ | ⟨-, h, -⟩
      · exact ih h hn hrest
      · exact ih h (by simp [hn, heq]) hrest

end BalancerSync.Engine
