import BalancerSync.Proofs.Engine.Isolation

/-!
# The health checks of backend services

A Service that says nothing about health checks gets the one that the cloud gives on its own.  The
cloud gives it once, when a backend service is added, for the port on the nodes that the traffic
goes to at that moment.  A later pass that finds another port there changes the service, but its
options leave the health check out: the check stays on the port of the first moment.

So the check is always on some port that the traffic of its listen port has gone to, and on the one
that it goes to now as long as that has not changed.

## Main Definitions

* `Unchecked` — a Service that says nothing about health checks
* `Routes` — where a Service sends the traffic of a listen port
* `TaskCall` — the calls of a task
* `Descends` — where the backend services after a call come from

## Main Results

* `inherits_task` — a task keeps the health checks that there are, and new ones are on the right
  port
* `healthCheck_of_reachable` — which ports the health checks are on
* `stale_healthCheck` — a health check that stays behind
-/

namespace BalancerSync.Engine

open Cloud (Call LoadBalancer BackendService HealthCheck Inventory World)
open Cloud.Inventory (Done)
open Cluster (Service ServicePort Node)
open Desired (Balancer PortOptions)
open Program (Asks)

/-- A Service that says nothing about health checks. -/
def Unchecked (service : Service) : Prop := ∀ s ∈ Setting.healthCheck, s.isSet service = false

/-- A Service sends the traffic of a listen port to a port on the nodes. -/
def Routes (service : Service) (n destination : Nat) : Prop :=
  ∃ port, firstPort? service n = some port ∧ Desired.destinationPort port n = .ok destination

theorem Routes.unique {service : Service} {n d d' : Nat} (h : Routes service n d)
    (h' : Routes service n d') : d = d' := by
  obtain ⟨port, hport, hd⟩ := h
  obtain ⟨port', hport', hd'⟩ := h'
  obtain rfl := Option.some.inj (hport.symm.trans hport')
  exact Except.ok.inj (hd.symm.trans hd')

section

variable {engine : Engine} {service : Service} {services : Set Service} {wishes : Balancer}
  {port : ServicePort} {options : PortOptions} {lb new : LoadBalancer} {s t : BackendService}
  {inv mid after : Inventory} {w : World} {c : Call} {n destination : Nat}

/-! ### Reading -/

theorem readHealthCheck_of_unchecked (h : Unchecked service) (protocol : Cloud.Protocol) :
    Desired.readHealthCheck service protocol destination = .ok none := by
  have hnone : (Setting.healthCheck.any fun s => s.isSet service) = false := by
    simpa [Unchecked] using h
  rw [Desired.readHealthCheck, hnone]
  rfl

/-- The wishes for a port of such a Service leave the health check open. -/
theorem of_wanted (hservice : Unchecked service) (h : Wanted service n options) :
    Routes service n options.destinationPort ∧ options.healthCheck = none := by
  obtain ⟨port, hport, hoptions⟩ := h
  have hfound := PortOptions.found_of_yields hoptions
  have hcheck := hfound.healthCheck
  rw [readHealthCheck_of_unchecked hservice] at hcheck
  exact ⟨⟨port, hport, hfound.destinationPort⟩, (Except.ok.inj hcheck).symm⟩

/-! ### The calls of a task -/

/-- The calls that can be made for a Service. -/
inductive TaskCall (service : Service) : Call → Prop where
  | lookup {c : Call} : c.isMutation = false → TaskCall service c
  | creation (o : Cloud.NewLoadBalancer) : TaskCall service (.create o)
  | pass {wishes : Balancer} {lb : LoadBalancer} {c : Call} : PassCall service wishes lb c →
    TaskCall service c
  | deletion (id : Int) : TaskCall service (.delete id)

/-- What the calls for its Service keep, a task keeps. -/
theorem Task.keeps {I : World → Prop} (task : Task)
    (hkeep : ∀ q v, Calls (TaskCall task.service) q → I v → I (World.handle q v).2) (hw : I w) :
    I (task.after engine w) := by
  cases task with
  | ensure service nodes =>
    exact (asks_ensure .lookup .pass .creation engine nodes).run hkeep hw
  | update service nodes => exact (asks_update .lookup .pass engine nodes).run hkeep hw
  | delete service => exact (asks_ensureDeleted .lookup .deletion engine service).run hkeep hw

/-! ### One call -/

/-- Where a backend service of the load balancer with an identifier comes from.  One that was there
has the same health check as before, whatever became of its destination; one that was added has the
check on its destination. -/
inductive Descends (service : Service) (inv : Inventory) (id : Int) (t : BackendService) : Prop where
  | kept {lb : LoadBalancer} {s : BackendService} : lb ∈ inv.loadBalancers → lb.id = id →
    s ∈ lb.services → s.listenPort = t.listenPort → s.healthCheck = t.healthCheck →
    (s.destinationPort = t.destinationPort ∨ Routes service t.listenPort t.destinationPort) →
    Descends service inv id t
  | added : t.healthCheck = .implicit t.destinationPort →
    Routes service t.listenPort t.destinationPort → Descends service inv id t

/-- All backend services after a call, or after several, come from somewhere. -/
def Inherits (service : Service) (inv after : Inventory) : Prop :=
  ∀ new ∈ after.loadBalancers, ∀ t ∈ new.services, Descends service inv new.id t

theorem Descends.of_mem (hlb : lb ∈ inv.loadBalancers) (ht : t ∈ lb.services) :
    Descends service inv lb.id t := .kept hlb rfl ht rfl rfl (.inl rfl)

theorem Inherits.refl (service : Service) (inv : Inventory) : Inherits service inv inv :=
  fun _ hlb _ ht => .of_mem hlb ht

/-- A service that was added and then changed is still one that was added, since a Service sends the
traffic of a listen port to a single port. -/
theorem Inherits.trans (h : Inherits service inv mid) (h' : Inherits service mid after) :
    Inherits service inv after := by
  intro new hnew t ht
  cases h' new hnew t ht with
  | added hcheck hroutes => exact .added hcheck hroutes
  | @kept lb s hlb hid hs hport hcheck hdestination =>
    have hs := h lb hlb s hs
    rw [hid] at hs
    cases hs with
    | @kept older r holder hid' hr hport' hcheck' hdestination' =>
      refine .kept holder hid' hr (hport'.trans hport) (hcheck'.trans hcheck) ?_
      rcases hdestination with hsame | hroutes
      · rwa [← hsame, ← hport]
      · exact .inr hroutes
    | added hcheck' hroutes' =>
      rw [hport] at hroutes'
      have hsame : s.destinationPort = t.destinationPort :=
        hdestination.elim id fun hroutes => hroutes'.unique hroutes
      rw [hsame] at hcheck' hroutes'
      exact .added (hcheck.symm.trans hcheck') hroutes'

/-- What the calls of a pass make of a load balancer. -/
theorem descends_revise? (hservice : Unchecked service) {own : LoadBalancer}
    (hc : PassCall service wishes own c) (hlb : lb ∈ inv.loadBalancers)
    (h : c.revise? lb = some new) (ht : t ∈ new.services) : Descends service inv new.id t := by
  rw [Cloud.id_of_revise? h]
  cases hc.revised h with
  | identity | algorithm | type | attachments | publicInterface | targets =>
    exact .of_mem hlb ht
  | services hmaintains =>
    rcases hmaintains t ht with ht | ⟨n, options, -, hwanted, rfl⟩ | ⟨s, hs, options, hwanted, rfl⟩
    · exact .of_mem hlb ht
    · obtain ⟨hroutes, hcheck⟩ := of_wanted hservice hwanted
      refine .added ?_ hroutes
      simp [Cloud.NewService.create, PortOptions.newService, hcheck, Cloud.applyHealthCheck]
    · obtain ⟨hroutes, hcheck⟩ := of_wanted hservice hwanted
      refine .kept hlb rfl hs rfl ?_ (.inr hroutes)
      simp [Cloud.ServiceChange.apply, PortOptions.change, hcheck, Cloud.applyHealthCheck]

/-- Where the backend services after a call come from. -/
theorem inherits_done (hservice : Unchecked service) (hinv : inv.Sound) (hc : TaskCall service c)
    (hd : Done inv c after) : Inherits service inv after := by
  intro new hnew t ht
  cases hd with
  | lookup h => exact .of_mem (h ▸ hnew) ht
  | @revision lb replaced n hlb hrevise _ h =>
    subst h
    have hmem := Inventory.mem_of_find? hlb
    rcases (Inventory.mem_replace hinv.ordered (by rw [Cloud.id_of_revise? hrevise, hlb])).1 hnew
      with rfl | ⟨hold, -⟩
    · cases hc with
      | lookup hlookup =>
        rw [revise?_of_lookup hlookup] at hrevise
        cases hrevise
      | pass hpass => exact descends_revise? hservice hpass hmem hrevise ht
      | creation o => cases Cloud.alter?_of_revise? hrevise
      | deletion id => cases Cloud.alter?_of_revise? hrevise
    · exact .of_mem hold ht
  | deletion _ h =>
    subst h
    exact .of_mem (List.mem_filter.1 hnew).1 ht
  | @creation o hcreate h =>
    subst h
    rcases Inventory.mem_place hnew with rfl | hold
    · cases ht
    · exact .of_mem hold ht

/-! ### Runs -/

/-- A task keeps the health checks that there are, and gives new services one on their
destination. -/
theorem inherits_task {task : Task} (hservice : Unchecked task.service) (hw : w.inventory.Sound) :
    Inherits task.service w.inventory (task.after engine w).inventory := by
  let I (v : World) : Prop := v.inventory.Sound ∧ Inherits task.service w.inventory v.inventory
  refine (task.keeps (I := I) (fun q v hq hv => ?_) ⟨hw, .refl _ _⟩).2
  have hhandled := World.handled v q
  refine ⟨hhandled.sound hv.1, ?_⟩
  rcases hhandled.inventory with hsame | ⟨c, reply, hc, hok⟩
  · rw [hsame]
    exact hv.2
  · have hdone := Inventory.perform_inversion hv.1.ordered hok
    exact hv.2.trans (inherits_done hservice hv.1 (hq c hc) hdone)

/-- Where the ports of a backend service come from: traffic goes to a port that one of the Services
gives, and the check is the implicit one on such a port. -/
structure Traced (services : Set Service) (s : BackendService) : Prop where
  destination : ∃ service ∈ services, Routes service s.listenPort s.destinationPort
  check : ∃ d, s.healthCheck = .implicit d ∧ ∃ service ∈ services, Routes service s.listenPort d

theorem Descends.traced {id : Int} (h : Descends service inv id t) (hservice : service ∈ services)
    (hinv : ∀ lb ∈ inv.loadBalancers, ∀ s ∈ lb.services, Traced services s) :
    Traced services t := by
  cases h with
  | @kept lb s hlb _ hs hport hcheck hdestination =>
    obtain ⟨hold, hchecked⟩ := hinv lb hlb s hs
    rw [hport, hcheck] at hchecked
    refine ⟨?_, hchecked⟩
    rcases hdestination with hsame | hroutes
    · rw [← hsame, ← hport]
      exact hold
    · exact ⟨service, hservice, hroutes⟩
  | added hcheck hroutes => exact ⟨⟨service, hservice, hroutes⟩, _, hcheck, service, hservice, hroutes⟩

/-- In every world that tasks lead to, ports and checks come from the Services. -/
theorem Reachable.traced (hw : Reachable engine services w)
    (hservices : ∀ service ∈ services, Unchecked service) :
    ∀ lb ∈ w.inventory.loadBalancers, ∀ s ∈ lb.services, Traced services s := by
  induction hw with
  | empty hempty => simp [hempty]
  | task hw htask ih =>
    intro lb hlb s hs
    exact (inherits_task (hservices _ htask) hw.sound lb hlb s hs).traced htask ih
  | scripted _ _ ih => exact ih

/-- After every task a backend service has the health check that it had before, or it was added and
has the check on its destination.

So the check is on the destination as long as the traffic of the listen port has always gone to the
same port on the nodes. -/
theorem healthCheck_of_reachable {task : Task} (hw : Reachable engine services w)
    (hservices : ∀ service ∈ services, Unchecked service) (htask : task.service ∈ services)
    (hlb : lb ∈ (task.after engine w).inventory.loadBalancers) (hs : s ∈ lb.services) :
    Descends task.service w.inventory lb.id s ∧
      ((∀ first ∈ services, ∀ second ∈ services, ∀ d d', Routes first s.listenPort d →
        Routes second s.listenPort d' → d = d') →
        s.healthCheck = .implicit s.destinationPort) := by
  have hdescends := inherits_task (hservices _ htask) hw.sound lb hlb s hs
  refine ⟨hdescends, fun hsingle => ?_⟩
  obtain ⟨⟨now, hnow, hdestination⟩, d, hcheck, before, hbefore, hroutes⟩ :=
    hdescends.traced htask (hw.traced hservices)
  rw [hcheck, hsingle before hbefore now hnow d _ hroutes hdestination]

end

namespace Sample

/-- A Service with these ports. -/
def exposing (ports : List ServicePort) : Service := { service with ports := ports }

theorem unchecked_exposing (ports : List ServicePort) : Unchecked (exposing ports) := by
  change ∀ s ∈ Setting.healthCheck, s.isSet service = false
  decide

/-- The Service with one port. -/
def narrow : Service := exposing [⟨80, some 30080⟩]

/-- It gets a port more. -/
def wide : Service := exposing [⟨80, some 30080⟩, ⟨443, some 30443⟩]

/-- The traffic of its port goes to another port on the nodes. -/
def moved : Service := exposing [⟨80, some 30081⟩]

/-- The cloud once the Service has a load balancer. -/
def listening : World :=
  Task.after engine (.ofInventory ⟨[], [], [⟨9, "private"⟩], 0⟩ (.ofMillis 500)) (.ensure narrow nodes)

theorem reachable_listening {services : Set Service} (h : narrow ∈ services) :
    Reachable engine services listening :=
  .task (.empty rfl) h

/-- The node ports are 30000 higher than the listen ports. -/
theorem eq_of_routes {service : Service} (h : service ∈ ({narrow, wide} : Set Service)) {n d : Nat}
    (hroutes : Routes service n d) : d = 30000 + n := by
  obtain ⟨port, hport, hd⟩ := hroutes
  have hmem := List.mem_of_find?_eq_some hport
  have hn := List.find?_some hport
  have hports : port = ⟨80, some 30080⟩ ∨ port = ⟨443, some 30443⟩ := by
    rcases h with rfl | rfl <;> simp_all [narrow, wide, exposing]
  rcases hports with rfl | rfl
  · have hd : (30080 : Int) = d := Desired.validPort_eq_ok hd
    simp only [beq_iff_eq] at hn
    omega
  · have hd : (30443 : Int) = d := Desired.validPort_eq_ok hd
    simp only [beq_iff_eq] at hn
    omega

end Sample

theorem healthCheck_of_reachable_sample :
    Reachable Sample.engine {Sample.narrow, Sample.wide} Sample.listening ∧
    ((Task.update Sample.wide Sample.nodes).after Sample.engine
      Sample.listening).inventory.loadBalancers.map (·.services.length) = [2] ∧
    ∀ lb ∈ ((Task.update Sample.wide Sample.nodes).after Sample.engine
      Sample.listening).inventory.loadBalancers,
      ∀ s ∈ lb.services, s.healthCheck = .implicit s.destinationPort := by
  have hreachable : Reachable Sample.engine {Sample.narrow, Sample.wide} Sample.listening :=
    Sample.reachable_listening (Set.mem_insert _ _)
  have hunchecked : ∀ service ∈ ({Sample.narrow, Sample.wide} : Set Service), Unchecked service := by
    rintro service (rfl | rfl)
    · exact Sample.unchecked_exposing _
    · exact Sample.unchecked_exposing _
  have htask : (Task.update Sample.wide Sample.nodes).service ∈
      ({Sample.narrow, Sample.wide} : Set Service) := Set.mem_insert_of_mem _ rfl
  refine ⟨hreachable, by decide +kernel, fun lb hlb s hs => ?_⟩
  refine (healthCheck_of_reachable hreachable hunchecked htask hlb hs).2 ?_
  intro first hfirst second hsecond d d' hd hd'
  rw [Sample.eq_of_routes hfirst hd, Sample.eq_of_routes hsecond hd']

/-- If the traffic moves to another port on the nodes, the health check stays behind. -/
theorem stale_healthCheck :
    Reachable Sample.engine {Sample.narrow, Sample.moved} Sample.listening ∧
    Unchecked Sample.narrow ∧ Unchecked Sample.moved ∧
    (Sample.listening.run (Sample.engine.ensure Sample.moved Sample.nodes)).1.isOk = true ∧
    ((Task.ensure Sample.moved Sample.nodes).after Sample.engine
      Sample.listening).inventory.loadBalancers.map
        (·.services.map fun s => (s.listenPort, s.destinationPort, s.healthCheck.port)) =
      [[(80, 30081, 30080)]] := by
  refine ⟨Sample.reachable_listening (Set.mem_insert _ _), Sample.unchecked_exposing _,
    Sample.unchecked_exposing _, ?_, ?_⟩
  · decide +kernel
  · decide +kernel

end BalancerSync.Engine
