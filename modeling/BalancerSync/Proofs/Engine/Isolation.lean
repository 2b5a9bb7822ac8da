import BalancerSync.Proofs.Engine.Deletion
import BalancerSync.Proofs.Engine.Passes
import BalancerSync.Proofs.Engine.Requests
import Mathlib.Data.Set.Function

/-!
# One Service and the load balancers of others

A load balancer that carries the identity of one Service is left alone by what is done for another
one, with a single exception: if nothing is found to carry the identity of the other Service, and
the load balancer happens to have the name that the other Service asks for, it is taken for that of
the other Service and changed or deleted (`Adopts`).  Names are made up from namespace and name with
a hyphen between them, so two Services can ask for the same one without either being at fault.

## Main Definitions

* `Task`, `Reachable` — what the control loop asks for, and the worlds that this leads to
* `Adopts` — a load balancer is taken for that of a Service by its name

## Main Results

* `leaves_task` — what a task leaves alone
* `removed_of_adopts` — a load balancer that a Service adopts is deleted along with the Service
* `isolated_of_reachable` — Services leave the load balancers of others alone unless they adopt them
* `not_isolated` — they can adopt one that carries the identity of another Service
-/

namespace BalancerSync.Engine

open Cloud (LoadBalancer Inventory World Call Operation Script takeNamed?)
open Cloud.World (Leaves Names leaves_run leaves_bind)
open Cluster (Service Node)
open Desired (Balancer)

/-! ### Tasks -/

/-- What the control loop asks for, for one Service at a time. -/
inductive Task where
  | ensure (service : Service) (nodes : List Node)
  | update (service : Service) (nodes : List Node)
  | delete (service : Service)

namespace Task

/-- The Service that a task is for. -/
def service : Task → Service
  | ensure service _ | update service _ | delete service => service

/-- The world after a task. -/
def after (engine : Engine) (w : World) : Task → World
  | ensure service nodes => (w.run (engine.ensure service nodes)).2
  | update service nodes => (w.run (engine.update service nodes)).2
  | delete service => (w.run (engine.ensureDeleted service)).2

end Task

/-- The worlds that tasks for some Services lead to from a cloud without load balancers, whatever is
scripted to go wrong between them. -/
inductive Reachable (engine : Engine) (services : Set Service) : World → Prop where
  | empty {w : World} : w.inventory.loadBalancers = [] → Reachable engine services w
  | task {w : World} {task : Task} : Reachable engine services w → task.service ∈ services →
    Reachable engine services (task.after engine w)
  | scripted {w : World} (script : Script) : Reachable engine services w →
    Reachable engine services { w with script := script }

theorem Reachable.sound {engine : Engine} {services : Set Service} {w : World}
    (h : Reachable engine services w) : w.inventory.Sound := by
  induction h with
  | @empty w hempty =>
    refine ⟨?_, ?_, ?_⟩
    · rw [Inventory.Ordered, hempty]
      exact .nil
    · simp [hempty]
    · simp [hempty]
  | @task w task _ _ ih => cases task <;> exact World.sound_run _ _ ih
  | scripted _ _ ih => exact ih

/-! ### Adoption -/

/-- A load balancer is taken for that of a Service by its name: none is found to carry the identity
of the Service, and this is the first one with the name. -/
structure Adopts (engine : Engine) (service : Service) (w : World) (lb : LoadBalancer) : Prop where
  named : ∃ name, engine.balancerName service = .ok name ∧
    w.inventory.loadBalancers.find? (fun x => x.name == name) = some lb
  unlabelled : ∃ id, uid service = .ok id ∧ (w.inventory.labelled Desired.uidLabel id = [] ∨
    ∃ rest, takeNamed? "list_by_label" w.script.failures = some (.notFound, rest))

section

variable {engine : Engine} {service : Service} {wishes : Balancer} {nodes : List Node}
  {name : String} {lb own : LoadBalancer} {w t : World}

/-- What a search finds is not the load balancer of another Service, unless that is adopted. -/
theorem id_ne_of_run_find (hsound : w.inventory.Sound) (hlb : lb ∈ w.inventory.loadBalancers)
    (hlabel : ∀ id, uid service = .ok id → lb.labels.get? Desired.uidLabel ≠ some id)
    (hadopts : ¬ Adopts engine service w lb) (hname : engine.balancerName service = .ok name)
    (h : w.run (find service name).ifFound = (.ok (some own), t)) : own.id ≠ lb.id := by
  obtain ⟨-, id, hid, horigin⟩ := of_run_find (World.of_run_ifFound_eq_some h)
  intro hsame
  rcases horigin with hlabelled | ⟨hnamed, hnone⟩
  · obtain ⟨hown, hcarries⟩ := Inventory.mem_of_labelled_eq hlabelled
    obtain rfl := Inventory.eq_of_id_eq hsound.ordered hown hlb hsame
    exact hlabel id hid hcarries
  · have hown := List.mem_of_find?_eq_some hnamed
    obtain rfl := Inventory.eq_of_id_eq hsound.ordered hown hlb hsame
    exact hadopts ⟨⟨name, hname, hnamed⟩, id, hid, hnone⟩

/-- A search, and what is then done to the load balancer that it has found. -/
theorem leaves_search {α : Type} {f : Option LoadBalancer → Operation α}
    (hsound : w.inventory.Sound) (hlb : lb ∈ w.inventory.loadBalancers)
    (hlabel : ∀ id, uid service = .ok id → lb.labels.get? Desired.uidLabel ≠ some id)
    (hadopts : ¬ Adopts engine service w lb) (hname : engine.balancerName service = .ok name)
    (hnone : (f none).Asks (Names none))
    (hsome : ∀ own, (f (some own)).Asks (Names (some own.id))) :
    Leaves lb w (w.run ((find service name).ifFound.bind f)).2 := by
  have hsearch : Leaves lb w (w.run (find service name).ifFound).2 :=
    leaves_run hsound hlb (by simp) (names_find service name)
  refine leaves_bind hsearch fun found t h => ?_
  rw [h] at hsearch
  cases found with
  | none => exact leaves_run hsearch.sound hsearch.stays (by simp) hnone
  | some own =>
    have hne := id_ne_of_run_find hsound hlb hlabel hadopts hname h
    exact leaves_run hsearch.sound hsearch.stays (by simpa using hne) (hsome own)

/-- A pass begins with a load balancer that was found, or with a new one. -/
theorem leaves_start (hsound : w.inventory.Sound) (hlb : lb ∈ w.inventory.loadBalancers)
    (hlabel : ∀ id, uid service = .ok id → lb.labels.get? Desired.uidLabel ≠ some id)
    (hadopts : ¬ Adopts engine service w lb) (hwishes : engine.wishes service = .ok wishes) :
    Leaves lb w (w.run (start engine service wishes)).2 ∧
      ∀ own t, w.run (start engine service wishes) = (.ok own, t) → own.id ≠ lb.id := by
  have hname := balancerName_of_wishes hwishes
  have hcreate : (create engine service wishes).Asks (Names none) :=
    asks_create fun _ => .inl rfl
  refine ⟨leaves_search hsound hlb hlabel hadopts hname hcreate fun own => .done _, ?_⟩
  intro own t h
  obtain ⟨found, u, hfound, h⟩ := World.of_run_bind_eq_ok h
  cases found with
  | some found =>
    obtain rfl : found = own := Except.ok.inj (Prod.mk.inj h).1
    exact id_ne_of_run_find hsound hlb hlabel hadopts hname hfound
  | none =>
    have hsearch : Leaves lb w (w.run (find service wishes.name).ifFound).2 :=
      leaves_run hsound hlb (by simp) (names_find service wishes.name)
    rw [hfound] at hsearch
    -- The identifier of a new load balancer is higher than all that were given away.
    have hknown := hsearch.sound.known lb hsearch.stays
    have hid := id_of_run_create h
    simp only at hknown
    omega

/-! ### Isolation -/

/-- A task leaves the load balancers alone that carry the identity of another Service, unless it
adopts them. -/
theorem leaves_task {task : Task} (hsound : w.inventory.Sound)
    (hlb : lb ∈ w.inventory.loadBalancers)
    (hlabel : ∀ id, uid task.service = .ok id → lb.labels.get? Desired.uidLabel ≠ some id)
    (hadopts : ¬ Adopts engine task.service w lb) : Leaves lb w (task.after engine w) := by
  have hrefl : Leaves lb w w := .refl hsound hlb
  cases task with
  | ensure service nodes =>
    change Leaves lb w (w.run (engine.ensure service nodes)).2
    simp only [Task.service] at hlabel hadopts
    rw [ensure_eq, World.run_within]
    refine leaves_bind hrefl fun wishes t h => ?_
    obtain ⟨hwishes, rfl⟩ := Prod.mk.inj h
    obtain ⟨hstart, hother⟩ := leaves_start hsound hlb hlabel hadopts hwishes
    refine leaves_bind hstart fun own t h => ?_
    rw [h] at hstart
    -- The pass is over another load balancer, so it names this one in no call.
    have hpass : Leaves lb t (t.run (converge engine own service wishes nodes)).2 :=
      leaves_run hstart.sound hstart.stays (by simpa using hother own t h) asks_converge
    exact leaves_bind hpass fun last u h => .refl (h ▸ hpass).sound (h ▸ hpass).stays
  | update service nodes =>
    change Leaves lb w (w.run (engine.update service nodes)).2
    rw [update, World.run_within]
    refine leaves_bind hrefl fun wishes t h => ?_
    obtain ⟨hwishes, rfl⟩ := Prod.mk.inj h
    refine leaves_search hsound hlb hlabel hadopts (balancerName_of_wishes hwishes) (.done _) ?_
    exact fun own => asks_converge.bind fun _ => .done _
  | delete service =>
    change Leaves lb w (w.run (engine.ensureDeleted service)).2
    rw [ensureDeleted, World.run_within]
    refine leaves_bind hrefl fun name t h => ?_
    obtain ⟨hname, rfl⟩ := Prod.mk.inj h
    refine leaves_search hsound hlb hlabel hadopts hname (.done _) fun own => ?_
    simp only
    split
    · exact .done _
    · have hdelete : (Cloud.call (.delete own.id)).Asks (Names (some own.id)) :=
        asks_call (.inr rfl)
      exact hdelete.ifFound.bind fun _ => .done _

/-- Services leave the load balancers alone that carry the identities of others, unless they adopt
them.  Nothing is said about the names of the Services or about what goes wrong meanwhile. -/
theorem isolated_of_reachable {services : Set Service} {task : Task} {other : Service} {id : String}
    (hdistinct : services.InjOn (·.metadata.uid)) (hw : Reachable engine services w)
    (htask : task.service ∈ services) (hother : other ∈ services) (hne : other ≠ task.service)
    (hid : uid other = .ok id) (hlb : lb ∈ w.inventory.labelled Desired.uidLabel id) :
    Adopts engine task.service w lb ∨
      lb ∈ (task.after engine w).inventory.loadBalancers ∧
        ∃ calls, (task.after engine w).log = w.log ++ calls ∧
          ∀ c ∈ calls, c.subject? ≠ some lb.id := by
  obtain ⟨hmem, hcarries⟩ := Inventory.mem_labelled.1 hlb
  by_cases hadopts : Adopts engine task.service w lb
  · exact .inl hadopts
  · refine .inr ?_
    have hlabel : ∀ own, uid task.service = .ok own →
        lb.labels.get? Desired.uidLabel ≠ some own := by
      intro own hown hsame
      obtain rfl := Option.some.inj (hcarries.symm.trans hsame)
      exact hne (hdistinct hother htask ((uid_eq_ok.1 hid).trans (uid_eq_ok.1 hown).symm))
    obtain ⟨-, hstays, hunnamed⟩ := leaves_task hw.sound hmem hlabel hadopts
    exact ⟨hstays, hunnamed⟩

/-! ### What adoption comes to -/

/-- The load balancer that is adopted is what is sought. -/
theorem sought_of_adopts (hw : w.Calm) (h : Adopts engine service w lb)
    (hname : engine.balancerName service = .ok name) :
    ∃ id, uid service = .ok id ∧ sought w.inventory id name = .ok (some lb) := by
  obtain ⟨⟨name', hname', hnamed⟩, id, hid, hnone⟩ := h
  obtain rfl := Except.ok.inj (hname.symm.trans hname')
  have hlabelled : w.inventory.labelled Desired.uidLabel id = [] := by
    refine hnone.resolve_right fun ⟨rest, hrest⟩ => ?_
    exact World.not_calm_of_takeNamed? hrest hw
  exact ⟨id, hid, by rw [sought_of_unlabelled hlabelled, hnamed]⟩

/-- Unless it is protected, a load balancer that a Service adopts is deleted along with the Service,
whosever identity it carries. -/
theorem removed_of_adopts (hw : w.Calm) (h : Adopts engine service w lb)
    (hprotection : lb.deleteProtection = false) :
    lb ∉ (Task.after engine w (.delete service)).inventory.loadBalancers := by
  obtain ⟨name, hname, -⟩ := h.named
  obtain ⟨id, hid, hsought⟩ := sought_of_adopts hw h hname
  obtain ⟨t, hrun, -, hinv⟩ := run_ensureDeleted hw hid hname hsought
  change lb ∉ (w.run (engine.ensureDeleted service)).2.inventory.loadBalancers
  rw [hrun, hinv, deleted, if_neg (by simp [hprotection])]
  intro hmem
  simpa using (List.mem_filter.1 hmem).2

end

namespace Sample

/-- Two Services with the same name made up from their namespaces and names, and a third one. -/
def first : Service := serviceNamed "a-b" "c" "u1"

def second : Service := serviceNamed "a" "b-c" "u2"

def third : Service := serviceNamed "a" "c" "u3"

/-- The cloud once the first Service has a load balancer. -/
def begun : World :=
  Task.after engine (.ofInventory ⟨[], [], [⟨9, "private"⟩], 0⟩ (.ofMillis 500))
    (.ensure first nodes)

theorem reachable_begun {services : Set Service} (h : first ∈ services) :
    Reachable engine services begun :=
  .task (.empty rfl) h

end Sample

theorem isolated_of_reachable_sample :
    ({Sample.first, Sample.third} : Set Service).InjOn (·.metadata.uid) ∧
    Reachable Sample.engine {Sample.first, Sample.third} Sample.begun ∧
    ∃ lb ∈ Sample.begun.inventory.labelled Desired.uidLabel "u1", lb ∈
      (Task.after Sample.engine Sample.begun (.delete Sample.third)).inventory.loadBalancers := by
  have hdistinct : ({Sample.first, Sample.third} : Set Service).InjOn (·.metadata.uid) :=
    Set.injOn_pair.2 fun h => absurd h (by decide)
  have hreachable : Reachable Sample.engine {Sample.first, Sample.third} Sample.begun :=
    Sample.reachable_begun (Set.mem_insert _ _)
  have hlabelled : (Sample.begun.inventory.labelled Desired.uidLabel "u1").length = 1 := by
    decide +kernel
  obtain ⟨lb, hlb⟩ := List.length_eq_one_iff.1 hlabelled
  have hmem : lb ∈ Sample.begun.inventory.labelled Desired.uidLabel "u1" :=
    Inventory.mem_labelled.2 (Inventory.mem_of_labelled_eq hlb)
  have hfree : Sample.begun.inventory.loadBalancers.find? (fun x => x.name == "a-c") = none := by
    decide +kernel
  refine ⟨hdistinct, hreachable, lb, hmem, ?_⟩
  have hisolated : Adopts Sample.engine (Task.delete Sample.third).service Sample.begun lb ∨ _ :=
    isolated_of_reachable hdistinct hreachable (Set.mem_insert_of_mem _ rfl)
      (Set.mem_insert _ _) (by decide) rfl hmem
  rcases hisolated with ⟨⟨name, hname, hfound⟩, -⟩ | ⟨hstays, -⟩
  · have hnamed : Sample.engine.balancerName Sample.third = .ok "a-c" := by decide +kernel
    obtain rfl := Except.ok.inj (hname.symm.trans hnamed)
    rw [hfree] at hfound
    cases hfound
  · exact hstays

/-- A Service can delete the load balancer of another one with the same name made up. -/
theorem not_isolated :
    ({Sample.first, Sample.second} : Set Service).InjOn (·.metadata.uid) ∧
      Reachable Sample.engine {Sample.first, Sample.second} Sample.begun ∧
      uid Sample.first = .ok "u1" ∧ uid Sample.second = .ok "u2" ∧
      (Sample.begun.inventory.labelled Desired.uidLabel "u1").map (·.id) = [1] ∧
      (Task.after Sample.engine Sample.begun (.delete Sample.second)).inventory.loadBalancers =
        [] := by
  refine ⟨Set.injOn_pair.2 fun h => absurd h (by decide),
    Sample.reachable_begun (Set.mem_insert _ _), rfl, rfl, ?_, ?_⟩
  · decide +kernel
  · decide +kernel

end BalancerSync.Engine
