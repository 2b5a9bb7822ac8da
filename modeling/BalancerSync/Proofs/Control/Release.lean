import BalancerSync.Proofs.Control.Finalizer

/-!
# Releasing a Service

A Service that no longer asks for a load balancer is released: the load balancer is deleted, its
addresses are cleared, and the finalizer is taken off.  The last two are writes to the same object,
and the second one is tied to the version that the pass began with.  Every write makes a new
version.  So a pass that has addresses to clear stands in its own way: it ends with a conflict, with
the load balancer gone and the finalizer still there.  The pass after it has nothing to clear, and
releases the Service.

The cluster is `Cluster.serve` here, in which nothing fails but what has to; the versions that it
makes up only have to be new.

## Main Definitions

* `surrounding` — a cloud and a cluster to run against
* `cleared`, `released` — the Service without its addresses, and without the finalizer
* `passOver`, `Deletes` — a pass, and what it does to the cloud

## Main Results

* `passOver_unwanted` — a pass ends as its last write does
* `released_of_unwanted` — one pass is enough, or two
* `unreleased_conflict` — one is not always enough
-/

namespace BalancerSync.Control

open Cloud (Inventory World)
open Cluster (Service Node Stored serve)
open Engine (deleted sought)
open Program (Handler)

variable {α : Type} {engine : Engine} {service : Service} {id name : String} {w t : World}
  {object : Option Service} {next : Service → String} {nodes : List Node}

/-! ### Running against both -/

/-- What runs against the cloud leaves the cluster alone. -/
theorem run_left {E F : Effect} {σ τ : Type} (f : Handler E σ) (g : Handler F τ) (p : Program E α)
    (s : σ) (x : τ) :
    (p.left : Program (E.sum F) α).run (Handler.both f g) (s, x) =
      ((p.run f s).1, ((p.run f s).2, x)) := by
  induction p generalizing s with
  | done outcome => rfl
  | ask q next ih => exact ih _ _

/-- The cloud, and a cluster that keeps a Service. -/
def surrounding (next : Service → String) (nodes : List Node) :
    Handler effect (World × Option Service) :=
  Handler.both World.handle (serve next nodes)

theorem run_onCloud (p : Cloud.Operation α) (w : World) (object : Option Service) :
    (onCloud p).run (surrounding next nodes) (w, object) =
      ((w.run p).1, ((w.run p).2, object)) :=
  run_left _ _ p w object

/-- A write that is carried out. -/
theorem run_patchIngress {ns : String} {ingress : Option (List Cluster.Ingress)}
    {after : Option Service}
    (h : Cluster.write next (.patchIngress ns name ingress) object = .ok after) :
    (onCluster (.patchIngress ns name ingress)).run (surrounding next nodes) (w, object) =
      (.ok (), (w, after)) := by
  change (((serve next nodes (.patchIngress ns name ingress) object).1,
    (w, (serve next nodes (.patchIngress ns name ingress) object).2)) : _ × _) = _
  simp only [serve, h]

theorem run_patchService {ns : String} {patch : Cluster.ServicePatch}
    {outcome : Except Cluster.Failure (Option Service)}
    (h : Cluster.write next (.patchService ns name patch) object = outcome) :
    (onCluster (.patchService ns name patch)).run (surrounding next nodes) (w, object) =
      match outcome with
      | .ok after => (.ok (), (w, after))
      | .error f => (.error (.kube f), (w, object)) := by
  change (((serve next nodes (.patchService ns name patch) object).1,
    (w, (serve next nodes (.patchService ns name patch) object).2)) : _ × _) = _
  simp only [serve, h]
  cases outcome <;> rfl

theorem run_note (type reason message : String) (w : World) (object : Option Service) :
    (note service type reason message).run (surrounding next nodes) (w, object) =
      (.ok (), (w, object)) :=
  rfl

/-! ### Cleaning up -/

/-- The Service once its addresses are cleared. -/
def cleared (next : Service → String) (s : Service) : Service :=
  if !s.metadata.isDeleting && !s.ingress.isEmpty then
    { s with ingress := [] }.versioned (some (next s))
  else s

theorem cleared_eq_self (h : service.metadata.isDeleting = true ∨ service.ingress = []) :
    cleared next service = service := by
  rw [cleared, if_neg]
  rcases h with h | h <;> simp [h]

/-- Addresses are cleared under a version of their own. -/
theorem cleared_eq (hstays : service.metadata.isDeleting = false) (h : service.ingress ≠ []) :
    cleared next service = { service with ingress := [] }.versioned (some (next service)) := by
  rw [cleared, if_pos]
  simp [hstays, h]

theorem run_withdraw (w : World) :
    (withdraw service).run (surrounding next nodes) (w, some service) =
      (.ok .onChange, (w, some (cleared next service))) := by
  unfold withdraw cleared
  by_cases hpublished : (!service.metadata.isDeleting && !service.ingress.isEmpty) = true
  · have hstays : service.metadata.isDeleting = false := by
      simp only [Bool.and_eq_true, Bool.not_eq_true'] at hpublished
      exact hpublished.1
    have hne : ({ service with ingress := [] } : Service) ≠ service := by
      intro heq
      rw [← heq] at hpublished
      simp at hpublished
    have hpublish : (publish service none).run (surrounding next nodes) (w, some service) =
        (.ok (), (w, some ({ service with ingress := [] }.versioned (some (next service))))) := by
      have hchange : (Cluster.Request.patchIngress service.anyNamespace service.anyName none).change
          service = .ok { service with ingress := [] } := by
        simp [Cluster.Request.change]
      have hwrite := Cluster.write_of_change next hchange hne
      rw [Service.settled, if_neg (by simp [Service.versioned, hstays])] at hwrite
      exact run_patchIngress hwrite
    simp only [hpublished, if_true]
    rw [Program.bind_eq, Program.run_bind, hpublish]
    rfl
  · simp only [hpublished]
    rfl

/-- Every Service has a name for its load balancer. -/
theorem exists_balancerName (engine : Engine) (service : Service) :
    ∃ name, engine.balancerName service = .ok name := by
  obtain ⟨value, hvalue⟩ : ∃ value, Setting.name.text service = .ok value := by
    unfold Setting.text Setting.read
    split
    · exact ⟨none, rfl⟩
    · exact ⟨_, rfl⟩
  rw [Engine.balancerName, Desired.name, hvalue]
  rcases value with _ | value
  · exact ⟨_, rfl⟩
  · simp only [bind, Except.bind]
    split <;> exact ⟨_, rfl⟩

/-- Cleaning up deletes the load balancer and clears the addresses. -/
theorem run_cleanUpBalancer (next : Service → String) (nodes : List Node)
    {found : Option Cloud.LoadBalancer} (hw : w.Calm)
    (hid : Engine.uid service = .ok id) (hname : engine.balancerName service = .ok name)
    (hsought : sought w.inventory id name = .ok found) :
    ∃ t, t.Calm ∧ t.inventory = deleted w.inventory found ∧
      (cleanUpBalancer engine service).run (surrounding next nodes) (w, some service) =
        (.ok .onChange, (t, some (cleared next service))) := by
  obtain ⟨t, hrun, hadds, hinv⟩ := Engine.run_ensureDeleted hw hid hname hsought
  refine ⟨t, hadds.calm, hinv, ?_⟩
  rw [cleanUpBalancer_eq, Program.run_bind, run_note]
  simp only
  rw [Program.run_bind, Program.run_attempt, run_onCloud, hrun]
  exact run_withdraw t

/-- The Service without the finalizer, unless it is gone. -/
def released (next : Service → String) (s : Service) : Option Service :=
  ((s.withFinalizers (s.metadata.finalizers.filter (· ≠ Service.finalizer))).versioned
    (some (next s))).settled

/-- The finalizer can be taken off the version that was seen. -/
theorem run_releaseService (hfinalizer : service.hasFinalizer = true) (w : World) :
    (releaseService service).run (surrounding next nodes) (w, some service) =
      (.ok (), (w, released next service)) := by
  have hchange : (Cluster.Request.patchService service.anyNamespace service.anyName
      (.keepFinalizers service.metadata.resourceVersion
        (service.metadata.finalizers.filter (· ≠ Service.finalizer)))).change service =
      .ok (service.withFinalizers
        (service.metadata.finalizers.filter (· ≠ Service.finalizer))) := by
    simp [Cluster.Request.change, Cluster.ServicePatch.finalizers, Except.map]
  have hne : service.withFinalizers
      (service.metadata.finalizers.filter (· ≠ Service.finalizer)) ≠ service := by
    intro heq
    rw [← heq] at hfinalizer
    simp [Service.hasFinalizer, Service.withFinalizers] at hfinalizer
  exact run_patchService (Cluster.write_of_change next hchange hne)

/-- It cannot be taken off another version. -/
theorem run_releaseService_of_ne {current : Service} {version : String} (w : World)
    (hversion : service.metadata.resourceVersion = some version)
    (hcurrent : current.metadata.resourceVersion ≠ some version)
    (hspace : current.anyNamespace = service.anyNamespace)
    (hname : current.anyName = service.anyName) :
    (releaseService service).run (surrounding next nodes) (w, some current) =
      (.error (.kube Stored.conflict), (w, some current)) := by
  have hstale : ¬ (some version = none ∨ some version = current.metadata.resourceVersion) := by
    simpa [eq_comm] using hcurrent
  have hrefused : Cluster.write next (.patchService service.anyNamespace service.anyName
      (.keepFinalizers service.metadata.resourceVersion
        (service.metadata.finalizers.filter (· ≠ Service.finalizer)))) (some current) =
      .error Stored.conflict := by
    simp only [Cluster.write, Cluster.Request.change, hspace, hname, and_self, if_true,
      Cluster.ServicePatch.finalizers, hversion, if_neg hstale, Except.map]
  exact run_patchService hrefused

/-! ### Passes -/

/-- A pass over a Service as the cluster has it. -/
def passOver (engine : Engine) (next : Service → String) (nodes : List Node) (w : World)
    (s : Service) : Except Error Next × World × Option Service :=
  (reconcile engine true s).run (surrounding next nodes) (w, some s)

/-- Between two worlds, the load balancer of a Service is deleted unless it is protected. -/
def Deletes (engine : Engine) (s : Service) (w t : World) : Prop :=
  ∃ id name found, Engine.uid s = .ok id ∧ engine.balancerName s = .ok name ∧
    sought w.inventory id name = .ok found ∧ t.Calm ∧ t.inventory = deleted w.inventory found

/-- A search that finds one load balancer at most does not fail. -/
theorem exists_sought {inv : Inventory} (h : (inv.labelled Desired.uidLabel id).length ≤ 1)
    (name : String) : ∃ found, sought inv id name = .ok found := by
  unfold sought Engine.labelBearer
  match hcarriers : inv.labelled Desired.uidLabel id with
  | [] => exact ⟨_, rfl⟩
  | [lb] => exact ⟨_, rfl⟩
  | _ :: _ :: _ =>
    rw [hcarriers] at h
    simp at h

/-- Deleting brings no identity back. -/
theorem labelled_deleted_sublist {inv : Inventory} (found : Option Cloud.LoadBalancer) :
    ((deleted inv found).labelled Desired.uidLabel id).Sublist
      (inv.labelled Desired.uidLabel id) := by
  unfold deleted
  split
  · exact List.Sublist.refl _
  · split
    · exact List.Sublist.refl _
    · exact List.filter_sublist.filter _

/-- A pass over a Service that no longer asks for a load balancer deletes that first, and then takes
the finalizer off the version that the pass began with. -/
theorem passOver_unwanted (engine : Engine) (next : Service → String) (nodes : List Node)
    (hw : w.Calm) (htype : service.isLoadBalancer = false)
    (hfinalizer : service.hasFinalizer = true) (hid : Engine.uid service = .ok id)
    (hone : (w.inventory.labelled Desired.uidLabel id).length ≤ 1) :
    ∃ t, Deletes engine service w t ∧
      (t.inventory.labelled Desired.uidLabel id).length ≤ 1 ∧
      ∀ outcome after, (releaseService service).run (surrounding next nodes)
          (t, some (cleared next service)) = (outcome, after) →
        passOver engine next nodes w service = (outcome.map fun _ => .onChange, after) := by
  obtain ⟨name, hname⟩ := exists_balancerName engine service
  obtain ⟨found, hsought⟩ := exists_sought hone name
  obtain ⟨t, ht, hinv, hrun⟩ := run_cleanUpBalancer next nodes hw hid hname hsought
  refine ⟨t, ⟨id, name, found, hid, hname, hsought, ht, hinv⟩, ?_, fun outcome after hrelease => ?_⟩
  · rw [hinv]
    exact (labelled_deleted_sublist found).length_le.trans hone
  · have hpass : reconcile engine true service =
        (cleanUpBalancer engine service).bind fun _ =>
          (releaseService service).bind fun _ => .done (.ok .onChange) := by
      simp [reconcile, reconcileWith, htype, hfinalizer]
    rw [passOver, hpass, Program.run_bind, hrun]
    simp only
    rw [Program.run_bind, hrelease]
    cases outcome <;> rfl

/-- A Service that no longer asks for a load balancer is released in one pass, unless that has
addresses to clear.  Clearing them makes another version of the Service than the one that the
finalizer was to be taken off; so the pass ends with a conflict, and it takes a second one. -/
theorem released_of_unwanted (engine : Engine) (next : Service → String) (nodes : List Node)
    {version : String}
    (hnext : ∀ s : Service, s.metadata.resourceVersion ≠ some (next s)) (hw : w.Calm)
    (htype : service.isLoadBalancer = false) (hfinalizer : service.hasFinalizer = true)
    (hid : Engine.uid service = .ok id)
    (hversion : service.metadata.resourceVersion = some version)
    (hone : (w.inventory.labelled Desired.uidLabel id).length ≤ 1) :
    ∃ t, Deletes engine service w t ∧
      (service.metadata.isDeleting = true ∨ service.ingress = [] →
        passOver engine next nodes w service = (.ok .onChange, t, released next service)) ∧
      (service.metadata.isDeleting = false → service.ingress ≠ [] →
        passOver engine next nodes w service =
          (.error (.kube Stored.conflict), t, some (cleared next service)) ∧
        ∃ u, Deletes engine (cleared next service) t u ∧
          passOver engine next nodes t (cleared next service) =
            (.ok .onChange, u, released next (cleared next service))) := by
  obtain ⟨t, hdeletes, hone', hpass⟩ :=
    passOver_unwanted engine next nodes hw htype hfinalizer hid hone
  have ht : t.Calm := by
    obtain ⟨_, _, _, _, _, _, ht, _⟩ := hdeletes
    exact ht
  refine ⟨t, hdeletes, fun hquiet => ?_, fun hstays hpublished => ⟨?_, ?_⟩⟩
  · -- Nothing is cleared, so the version is still the one that was seen.
    refine hpass (.ok ()) _ ?_
    rw [cleared_eq_self hquiet]
    exact run_releaseService hfinalizer t
  -- Clearing the addresses has made a new version, and the patch still names the old one.
  · refine hpass (.error (.kube Stored.conflict)) _ ?_
    rw [cleared_eq hstays hpublished]
    refine run_releaseService_of_ne t hversion ?_ rfl rfl
    rw [← hversion]
    exact (hnext service).symm
  · -- The next pass finds nothing to clear.
    have hagain : (cleared next service).isLoadBalancer = false ∧
        (cleared next service).hasFinalizer = true ∧
        Engine.uid (cleared next service) = .ok id ∧ (cleared next service).ingress = [] := by
      rw [cleared_eq hstays hpublished]
      exact ⟨htype, hfinalizer, hid, rfl⟩
    obtain ⟨htype', hfinalizer', hid', hempty⟩ := hagain
    obtain ⟨u, hdeletes', -, hpass'⟩ :=
      passOver_unwanted engine next nodes ht htype' hfinalizer' hid' hone'
    refine ⟨u, hdeletes', hpass' (.ok ()) _ ?_⟩
    rw [cleared_eq_self (.inr hempty)]
    exact run_releaseService hfinalizer' u

namespace Sample

/-- A Service that had a load balancer with an address, and asks for one no longer. -/
def unwanted : Service :=
  { Engine.Sample.service with
    metadata := { Engine.Sample.service.metadata with
      resourceVersion := some "5"
      finalizers := ["example.com/other", Service.finalizer] }
    type := some "ClusterIP"
    ingress := [.ofIp "203.0.113.4"] }

/-- Its load balancer. -/
def remaining : World :=
  .ofInventory ⟨[{ Engine.Sample.handmade with
    labels := Labels.empty.insert Desired.uidLabel "u1" }], [], [⟨9, "private"⟩], 4⟩ (.ofMillis 500)

theorem next_fresh (s : Service) : s.metadata.resourceVersion ≠ some (Sample.next s) := by
  unfold Sample.next
  cases s.metadata.resourceVersion with
  | none => exact nofun
  | some version =>
    intro h
    have hlength := congrArg String.length (Option.some.inj h)
    simp [String.length_append] at hlength

end Sample

theorem released_of_unwanted_sample :
    Sample.remaining.Calm ∧ Sample.unwanted.isLoadBalancer = false ∧
    Sample.unwanted.hasFinalizer = true ∧ Sample.unwanted.ingress ≠ [] ∧
    ∃ t u, (passOver Engine.Sample.engine Sample.next [] t
      (cleared Sample.next Sample.unwanted)) =
        (.ok .onChange, u, released Sample.next (cleared Sample.next Sample.unwanted)) ∧
      (released Sample.next (cleared Sample.next Sample.unwanted)).map (·.metadata.finalizers) =
        some ["example.com/other"] := by
  have htype : Sample.unwanted.isLoadBalancer = false := by decide
  have hfinalizer : Sample.unwanted.hasFinalizer = true := by decide
  have hone : (Sample.remaining.inventory.labelled Desired.uidLabel "u1").length ≤ 1 := by
    decide +kernel
  have hpublished : Sample.unwanted.ingress ≠ [] := by decide
  have hcalm : Sample.remaining.Calm := rfl
  obtain ⟨t, -, -, hconflict⟩ := released_of_unwanted Engine.Sample.engine Sample.next []
    Sample.next_fresh hcalm htype hfinalizer rfl rfl hone
  obtain ⟨-, u, -, hsecond⟩ := hconflict rfl hpublished
  exact ⟨hcalm, htype, hfinalizer, hpublished, t, u, hsecond, by decide +kernel⟩

/-- The pass over a Service that had published addresses ends with a conflict: the load balancer is
gone, the addresses are cleared, and the finalizer is still there. -/
theorem unreleased_conflict :
    let result := passOver Engine.Sample.engine Sample.next [] Sample.remaining Sample.unwanted
    Sample.unwanted.isLoadBalancer = false ∧ Sample.unwanted.hasFinalizer = true ∧
    (Sample.remaining.inventory.labelled Desired.uidLabel "u1").length = 1 ∧
    result.1 = .error (.kube Stored.conflict) ∧ result.2.1.inventory.loadBalancers = [] ∧
    result.2.2 = some (cleared Sample.next Sample.unwanted) ∧
    (cleared Sample.next Sample.unwanted).hasFinalizer = true := by
  refine ⟨by decide, by decide, by decide +kernel, rfl, by decide +kernel, ?_, ?_⟩
  · decide +kernel
  · decide +kernel

end BalancerSync.Control
