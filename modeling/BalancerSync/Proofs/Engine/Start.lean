import BalancerSync.Engine.Operations
import BalancerSync.Proofs.Desired.Wishes
import BalancerSync.Proofs.Engine.Lookup

/-!
# How a pass begins

A pass looks for the load balancer of its Service and creates one if there is none.  Which load
balancer it then works on, and what the cloud holds by then, is a function of what the cloud held
before: `begun`.  A script can only stop the pass, before or after the creation.

## Main Definitions

* `start` — the part of `ensure` that comes before the steps
* `begun` — the load balancer that a pass works on, and the inventory in which it is there
* `Started` — the ways in which the beginning of a pass can end

## Main Results

* `started` — there are no other ways
* `held_of_begun` — the load balancer is there, and no other one carries the identity
* `labelled_of_alike` — a later pass will find the same load balancer by its identity
-/

namespace BalancerSync.Engine

open Cloud (LoadBalancer Inventory World NewLoadBalancer Operation)
open Cluster (Service Node)
open Desired (Balancer)

variable {engine : Engine} {service : Service} {wishes : Balancer} {nodes : List Node}
  {id : String} {lb mid : LoadBalancer} {inv : Inventory} {w : World} {options : NewLoadBalancer}

/-- Whoever knows the wishes knows the name, which is worked out alone for a deletion. -/
theorem balancerName_of_wishes (h : engine.wishes service = .ok wishes) :
    engine.balancerName service = .ok wishes.name := by
  have hread := Balancer.readFrom_of_ofService h
  rw [balancerName, hread.name]
  rfl

/-! ### Creating -/

/-- The network that a load balancer is created in. -/
def creationNetwork (engine : Engine) (wishes : Balancer) : Option Int :=
  engine.network.filter fun _ => wishes.privateIpv4.isNone

/-- The load balancer that creating makes. -/
def newcomer (inv : Inventory) (options : NewLoadBalancer) : LoadBalancer :=
  Inventory.created (inv.lastId + 1) options

/-- The inventory with it; one identifier goes to the action. -/
def withNewcomer (inv : Inventory) (options : NewLoadBalancer) : Inventory :=
  { inv.insert (newcomer inv options) with lastId := inv.lastId + 2 }

/-- The beginning of a pass, cut short. -/
def Stopped (w : World) (inv : Inventory) {α : Type} (result : Except Error α × World) : Prop :=
  ¬ w.Calm ∧ (∃ e, result.1 = .error e) ∧
    (result.2.inventory = w.inventory ∨ result.2.inventory = inv)

/-- The call that creates a load balancer is refused by the script, or makes the newcomer. -/
theorem perform_create
    (hfree : w.inventory.loadBalancers.find? (fun lb => lb.name == options.name) = none) :
    (¬ w.Calm ∧ ∃ e v, w.perform (.create options) = (.error e, v) ∧ v.inventory = w.inventory) ∨
      ∃ action v, w.perform (.create options) = (.ok (newcomer w.inventory options, action), v) ∧
        v.inventory = withNewcomer w.inventory options ∧
        (w.Calm → v.Calm ∧ action.status = .running) := by
  have hany : ¬ (w.inventory.loadBalancers.any fun lb => lb.name == options.name) = true := by
    simpa using hfree
  have hperform : w.inventory.perform (.create options) =
      .ok ((newcomer w.inventory options,
        ⟨w.inventory.lastId + 2, "create_load_balancer", .running, 0, none⟩),
        withNewcomer w.inventory options) := by
    simp only [Inventory.perform, Inventory.create, if_neg hany]
    rfl
  -- A script has a say in the action that is reported, but in nothing else.
  by_cases hcalm : w.Calm
  · have hrun := World.perform_of_calm hcalm (.create options)
    rw [hperform] at hrun
    exact .inr ⟨_, _, hrun, rfl, fun _ => ⟨hcalm, rfl⟩⟩
  · rcases World.perform_cases w (.create options) with
      ⟨code, rest, -, ht⟩ | ⟨-, ⟨e, he, -⟩ | ⟨reply, inv, hok, ht⟩⟩
    · exact .inl ⟨hcalm, _, _, ht, rfl⟩
    · rw [hperform] at he
      cases he
    · rw [hperform] at hok
      obtain ⟨rfl, rfl⟩ := Prod.mk.inj (Except.ok.inj hok)
      generalize hr : World.amended _ (.create options) _ = r at ht
      have hfst : _ = r.1.1 := congrArg (fun r => r.1.1) hr
      have hinv := congrArg (fun r => r.2.inventory) hr
      rw [World.fst_amended_create] at hfst
      rw [World.inventory_amended] at hinv
      refine .inr ⟨r.1.2, r.2, ?_, hinv.symm, fun h => absurd h hcalm⟩
      rw [ht, show newcomer w.inventory options = r.1.1 from hfst]

/-- Creating when all that it takes can be worked out: one call, and the wait for its action. -/
theorem create_eq (hid : uid service = .ok id)
    (hoptions : wishes.creation id (creationNetwork engine wishes) = .ok options) :
    create engine service wishes = Program.within "lb_ops::create"
      ((Cloud.call (.create options)).bind fun r =>
        (Cloud.awaitAction r.2).bind fun _ => Program.ofExcept (.ok r.1)) := by
  rw [create, hid]
  change Program.within _ ((Program.ofExcept
    (wishes.creation id (creationNetwork engine wishes))).bind _) = _
  rw [hoptions]
  rfl

/-- Creating makes the newcomer, or is stopped by the script, before the call has had an effect or
after it. -/
theorem run_create (hid : uid service = .ok id)
    (hoptions : wishes.creation id (creationNetwork engine wishes) = .ok options)
    (hfree : w.inventory.loadBalancers.find? (fun lb => lb.name == options.name) = none) :
    Stopped w (withNewcomer w.inventory options) (w.run (create engine service wishes)) ∨
      (w.run (create engine service wishes)).1 = .ok (newcomer w.inventory options) ∧
        (w.run (create engine service wishes)).2.inventory = withNewcomer w.inventory options ∧
        (w.Calm → (w.run (create engine service wishes)).2.Calm) := by
  rw [create_eq hid hoptions, World.run_within, World.run_bind, World.run_call]
  rcases perform_create hfree with ⟨hcalm, e, v, hrun, hinv⟩ | ⟨action, v, hrun, hinv, hwhen⟩
  · rw [hrun]
    exact .inl ⟨hcalm, ⟨_, rfl⟩, .inl hinv⟩
  · rw [hrun]
    simp only [World.run_bind, World.run_awaitAction]
    have hwaited := World.inventory_await v action
    cases hawait : v.await action with
    | mk r t =>
      rw [hawait] at hwaited
      cases r with
      | ok u =>
        refine .inr ⟨rfl, hwaited.trans hinv, fun hcalm => ?_⟩
        obtain ⟨hv, hrunning⟩ := hwhen hcalm
        obtain ⟨-, hcalm', -⟩ := World.await_of_running hv hrunning
        rwa [hawait] at hcalm'
      | error e =>
        refine .inl ⟨fun hcalm => ?_, ⟨_, rfl⟩, .inr (hwaited.trans hinv)⟩
        obtain ⟨hv, hrunning⟩ := hwhen hcalm
        obtain ⟨hok, -, -⟩ := World.await_of_running hv hrunning
        rw [hawait] at hok
        cases hok

/-- A load balancer that is created gets an identifier of its own. -/
theorem id_of_run_create {t : World} (h : w.run (create engine service wishes) = (.ok lb, t)) :
    lb.id = w.inventory.lastId + 1 := by
  obtain ⟨id, u, hid, h⟩ := World.of_run_bind_eq_ok (World.of_run_within_eq_ok h)
  obtain ⟨-, rfl⟩ := Prod.mk.inj hid
  obtain ⟨options, u, hoptions, h⟩ := World.of_run_bind_eq_ok h
  obtain ⟨-, rfl⟩ := Prod.mk.inj hoptions
  obtain ⟨⟨new, action⟩, u, hcall, h⟩ := World.of_run_bind_eq_ok h
  obtain ⟨⟨⟩, v, -, h⟩ := World.of_run_bind_eq_ok h
  obtain rfl : new = lb := Except.ok.inj (Prod.mk.inj h).1
  rw [World.run_call] at hcall
  rcases World.perform_cases w (.create options) with
    ⟨code, rest, -, ht⟩ | ⟨-, ⟨e, -, ht⟩ | ⟨reply, inv, hok, ht⟩⟩
  · rw [ht] at hcall
    cases hcall
  · rw [ht] at hcall
    cases hcall
  · rw [ht] at hcall
    have hreply := congrArg Prod.fst (Except.ok.inj (Prod.mk.inj hcall).1)
    rw [World.fst_amended_create] at hreply
    rw [← show reply.1 = new from hreply]
    simp only [Inventory.perform, Inventory.create] at hok
    split at hok
    · cases hok
    · rw [← (Prod.mk.inj (Except.ok.inj hok)).1]
      rfl

/-- Creating when something cannot be worked out asks for nothing. -/
theorem create_eq_of_error {e : Error} (hid : uid service = .ok id)
    (he : wishes.creation id (creationNetwork engine wishes) = .error e) :
    create engine service wishes = .done (.error (.within "lb_ops::create" e)) := by
  rw [create, hid]
  change Program.within _ ((Program.ofExcept
    (wishes.creation id (creationNetwork engine wishes))).bind _) = _
  rw [he]
  rfl

/-- The failure does not depend on the world, and leaves it alone. -/
theorem run_create_of_error {e : Error} (hid : uid service = .ok id)
    (he : wishes.creation id (creationNetwork engine wishes) = .error e) :
    w.run (create engine service wishes) = (.error (.within "lb_ops::create" e), w) := by
  rw [create_eq_of_error hid he, World.run_done]

/-! ### Beginning -/

/-- The part of a pass that comes before the steps. -/
def start (engine : Engine) (service : Service) (wishes : Balancer) : Operation LoadBalancer :=
  (find service wishes.name).ifFound.bind fun
    | some lb => Program.ofExcept (.ok lb)
    | none => create engine service wishes

/-- Ensuring in three parts: reading the wishes, finding or creating the load balancer, and the pass
over it. -/
theorem ensure_eq (engine : Engine) (service : Service) (nodes : List Node) :
    ensure engine service nodes = Program.within "load_balancers::ensure"
      ((Program.ofExcept (engine.wishes service)).bind fun wishes =>
        (start engine service wishes).bind fun lb =>
          (converge engine lb service wishes nodes).bind fun lb =>
            Program.ofExcept (.ok (ingress lb wishes))) := by
  simp only [ensure, start, Program.bind_eq, Program.bind_assoc]
  refine congrArg _ (congrArg _ (funext fun wishes => congrArg _ (funext fun found => ?_)))
  cases found <;> rfl

/-- The load balancer that a pass works on, and the inventory in which it is there. -/
def begun (engine : Engine) (service : Service) (wishes : Balancer) (inv : Inventory) :
    Except Error (LoadBalancer × Inventory) :=
  match uid service with
  | .error e => .error (.within "lb_ops::get_by_k8s_service_uid" e)
  | .ok id => match sought inv id wishes.name with
    | .error e => .error e
    | .ok (some lb) => .ok (lb, inv)
    | .ok none => match wishes.creation id (creationNetwork engine wishes) with
      | .error e => .error (.within "lb_ops::create" e)
      | .ok options => .ok (newcomer inv options, withNewcomer inv options)

/-- The ways in which the beginning of a pass can end, where it should end with `x`. -/
inductive Started (w : World) (x : Except Error (LoadBalancer × Inventory)) :
    Except Error LoadBalancer × World → Prop where
  /-- There is a load balancer to work on. -/
  | begun {lb : LoadBalancer} {inv : Inventory} {t : World} : x = .ok (lb, inv) →
    t.inventory = inv → (w.Calm → t.Calm) → Started w x (.ok lb, t)
  /-- There is none, and there cannot be one. -/
  | failed {e : Error} {t : World} : x = .error e → t.inventory = w.inventory → (w.Calm → t.Calm) →
    Started w x (.error e, t)
  /-- Something went wrong, perhaps only after the creation. -/
  | stopped {e : Error} {t : World} : ¬ w.Calm →
    (t.inventory = w.inventory ∨ ∃ lb, x = .ok (lb, t.inventory)) → Started w x (.error e, t)

/-- A newcomer has both of the marks by which a search finds a load balancer again, wherever it is
to be placed: the name that was wished for, and the identity as its only label. -/
theorem marks_of_creation {network : Option Int} (h : wishes.creation id network = .ok options) :
    options.name = wishes.name ∧ options.labels = Labels.empty.insert Desired.uidLabel id := by
  rw [Balancer.creation] at h
  split at h
  · rw [← Except.ok.inj h]
    exact ⟨rfl, rfl⟩
  · rw [← Except.ok.inj h]
    exact ⟨rfl, rfl⟩
  · cases h

/-- If nothing is found, no load balancer has the name and none carries the identity.  So a creation
is not refused for its name, and its label is the only one. -/
theorem find?_eq_none_of_sought {name : String} (h : sought inv id name = .ok none) :
    inv.loadBalancers.find? (fun lb => lb.name == name) = none ∧
      inv.labelled Desired.uidLabel id = [] := by
  rw [sought] at h
  cases hbearer : labelBearer inv id with
  | error e =>
    rw [hbearer] at h
    cases h
  | ok found =>
    rw [hbearer] at h
    obtain ⟨rfl, hname⟩ := Option.or_eq_none_iff.1 (Except.ok.inj h)
    refine ⟨hname, ?_⟩
    rw [labelBearer] at hbearer
    split at hbearer
    · cases hbearer
    · rename_i e hsingle
      split at hbearer
      · rename_i he
        exact eq_nil_of_single_eq_error hsingle he
      · cases hbearer

/-- The beginning of a pass can end in no other way. -/
theorem started (hw : Honest w) :
    Started w (begun engine service wishes w.inventory) (w.run (start engine service wishes)) := by
  rw [start, World.run_bind, begun]
  cases hid : uid service with
  | error e =>
    rw [run_find_of_uid_error _ hid]
    exact .failed rfl rfl fun h => h
  | ok id =>
    obtain ⟨hinv, hout, hadds⟩ := answers_find wishes.name hid hw
    generalize w.run (find service wishes.name).ifFound = result at hinv hout hadds
    obtain ⟨r, t⟩ := result
    simp only at hinv hout hadds ⊢
    have hcalm : w.Calm → t.Calm := fun hcalm => (hadds hcalm).calm
    rcases hout with rfl | ⟨hdisturbed, e, rfl⟩
    · cases hsought : sought w.inventory id wishes.name with
      | error e => exact .failed rfl hinv hcalm
      | ok found =>
        cases found with
        | some lb => exact .begun rfl hinv hcalm
        | none =>
          simp only
          cases hcreation : wishes.creation id (creationNetwork engine wishes) with
          | error e =>
            rw [run_create_of_error hid hcreation]
            exact .failed rfl hinv hcalm
          | ok options =>
            -- The search has found nothing, so the name is free.
            have hfree : t.inventory.loadBalancers.find? (fun lb => lb.name == options.name) =
                none := by
              rw [hinv, (marks_of_creation hcreation).1]
              exact (find?_eq_none_of_sought hsought).1
            have hcreated := run_create hid hcreation hfree
            generalize t.run (create engine service wishes) = result at hcreated
            obtain ⟨r, u⟩ := result
            rw [hinv] at hcreated
            rcases hcreated with ⟨hdisturbed, ⟨e, rfl⟩, hstop⟩ | ⟨rfl, hafter, hcalm'⟩
            · refine .stopped (fun h => hdisturbed (hcalm h)) ?_
              rcases hstop with hbefore | hafter
              · exact .inl (hbefore.trans hinv)
              · exact .inr ⟨_, by rw [show u.inventory = _ from hafter]⟩
            · exact .begun rfl hafter fun h => hcalm' (hcalm h)
    · exact .stopped hdisturbed (.inl hinv)

/-- With a load balancer to work on, the beginning of a calm pass makes lookups only. -/
theorem adds_start (hw : w.Calm) (hid : uid service = .ok id)
    (h : sought w.inventory id wishes.name = .ok (some lb)) :
    w.Adds (w.run (start engine service wishes)).2 [] := by
  obtain ⟨-, hout, hadds⟩ := answers_find wishes.name hid (honest_of_calm hw)
  rw [start, World.run_bind]
  generalize w.run (find service wishes.name).ifFound = result at hout hadds
  obtain ⟨r, t⟩ := result
  obtain rfl : r = .ok (some lb) := (hout.resolve_right fun hd => hd.1 hw).trans h
  exact hadds hw

/-! ### What a pass begins with -/

/-- The inventory holds a load balancer, and no other one carries the identity. -/
structure Held (inv : Inventory) (id : String) (lb : LoadBalancer) : Prop where
  ordered : inv.Ordered
  found : inv.find? lb.id = some lb
  distinct : lb.Distinct
  alone : ∀ x ∈ inv.labelled Desired.uidLabel id, x.id = lb.id

/-- A search by identity that does not fail has found all that carry it: there was one or none. -/
theorem labelled_eq_of_labelBearer {found : Option LoadBalancer}
    (h : labelBearer inv id = .ok found) :
    inv.labelled Desired.uidLabel id = found.toList := by
  rw [labelBearer] at h
  split at h
  · rename_i lb hsingle
    rw [← Except.ok.inj h]
    exact eq_of_single_eq_ok hsingle
  · rename_i e hsingle
    split at h
    · rename_i he
      rw [← Except.ok.inj h]
      exact eq_nil_of_single_eq_error hsingle he
    · cases h

/-- What the search finds is there, and no other load balancer carries the identity. -/
theorem alone_of_sought {name : String} (h : sought inv id name = .ok (some lb)) :
    lb ∈ inv.loadBalancers ∧ ∀ x ∈ inv.labelled Desired.uidLabel id, x = lb := by
  rw [sought] at h
  cases hbearer : labelBearer inv id with
  | error e =>
    rw [hbearer] at h
    cases h
  | ok found =>
    rw [hbearer] at h
    have hlabelled := labelled_eq_of_labelBearer hbearer
    refine ⟨?_, fun x hx => ?_⟩
    · rcases Option.or_eq_some_iff.1 (Except.ok.inj h) with rfl | ⟨-, hname⟩
      · exact (Inventory.mem_of_labelled_eq hlabelled).1
      · exact List.mem_of_find?_eq_some hname
    · rw [hlabelled] at hx
      cases found with
      | none => cases hx
      | some other =>
        obtain rfl := List.mem_singleton.1 hx
        exact Option.some.inj (Except.ok.inj h)

theorem held_of_sought {name : String} (hinv : inv.Sound)
    (h : sought inv id name = .ok (some lb)) : Held inv id lb := by
  obtain ⟨hmem, halone⟩ := alone_of_sought h
  have hfound := Inventory.find?_of_mem hinv.ordered hmem
  exact ⟨hinv.ordered, hfound, hinv.distinct lb hmem, fun x hx => halone x hx ▸ rfl⟩

/-- A load balancer that was created is there, carries the identity, and is the only one to. -/
theorem held_newcomer (hinv : inv.Sound) (hnone : inv.labelled Desired.uidLabel id = [])
    (hlabels : options.labels = Labels.empty.insert Desired.uidLabel id) :
    Held (withNewcomer inv options) id (newcomer inv options) ∧
      (newcomer inv options).labels.get? Desired.uidLabel = some id := by
  have hplace : (withNewcomer inv options).loadBalancers =
      inv.loadBalancers ++ [newcomer inv options] := by
    -- No identifier above the last one was given away, so the newcomer comes last.
    refine Inventory.place_of_lt fun x hx => ?_
    have hknown := hinv.known x hx
    change x.id < inv.lastId + 1
    omega
  have hordered : (withNewcomer inv options).Ordered := Inventory.pairwise_place hinv.ordered
  have hlabel : (newcomer inv options).labels.get? Desired.uidLabel = some id := by
    change options.labels.get? Desired.uidLabel = some id
    rw [hlabels, Labels.get?_insert_self]
  refine ⟨⟨hordered, Inventory.find?_of_mem hordered (by simp [hplace]), ⟨.nil, .nil⟩,
    fun x hx => ?_⟩, hlabel⟩
  obtain ⟨hmem, hx⟩ := Inventory.mem_labelled.1 hx
  rw [hplace, List.mem_append] at hmem
  rcases hmem with hmem | hmem
  · have hmem : x ∈ inv.labelled Desired.uidLabel id := Inventory.mem_labelled.2 ⟨hmem, hx⟩
    rw [hnone] at hmem
    cases hmem
  · rw [List.mem_singleton.1 hmem]

/-- The load balancer that a pass begins with is there, and it carries the identity unless it was
there before and was found by its name. -/
theorem held_of_begun {before : Inventory} (hbefore : before.Sound)
    (h : begun engine service wishes before = .ok (lb, inv)) :
    ∃ id, uid service = .ok id ∧ Held inv id lb ∧ inv.certificates = before.certificates ∧
      (lb.labels.get? Desired.uidLabel = some id ∨
        inv = before ∧ sought before id wishes.name = .ok (some lb)) := by
  rw [begun] at h
  cases hid : uid service with
  | error e =>
    rw [hid] at h
    cases h
  | ok id =>
    rw [hid] at h
    refine ⟨id, rfl, ?_⟩
    simp only at h
    cases hsought : sought before id wishes.name with
    | error e =>
      rw [hsought] at h
      cases h
    | ok found =>
      rw [hsought] at h
      cases found with
      | some found =>
        obtain ⟨rfl, rfl⟩ := Prod.mk.inj (Except.ok.inj h)
        exact ⟨held_of_sought hbefore hsought, rfl, .inr ⟨rfl, rfl⟩⟩
      | none =>
        simp only at h
        cases hcreation : wishes.creation id (creationNetwork engine wishes) with
        | error e =>
          rw [hcreation] at h
          cases h
        | ok options =>
          rw [hcreation] at h
          obtain ⟨rfl, rfl⟩ := Prod.mk.inj (Except.ok.inj h)
          -- Nobody carried the identity before the creation, so the newcomer is alone.
          obtain ⟨hheld, hlabel⟩ := held_newcomer hbefore (find?_eq_none_of_sought hsought).2
            (marks_of_creation hcreation).2
          exact ⟨hheld, rfl, .inl hlabel⟩

/-! ### Beginning again -/

/-- If a search finds a load balancer, the pass begins with it, and the inventory is as it was. -/
theorem begun_of_sought (hid : uid service = .ok id)
    (h : sought inv id wishes.name = .ok (some lb)) :
    begun engine service wishes inv = .ok (lb, inv) := by
  rw [begun, hid]
  simp only [h]

/-- The search looks at load balancers only. -/
theorem sought_congr {other : Inventory} (h : inv.loadBalancers = other.loadBalancers)
    (id name : String) : sought inv id name = sought other id name := by
  rw [sought, sought, labelBearer, labelBearer, Inventory.labelled, Inventory.labelled, h]

/-- A load balancer that carries the identity alone is found by it. -/
theorem sought_of_labelled {name : String} (h : inv.labelled Desired.uidLabel id = [lb]) :
    sought inv id name = .ok (some lb) := by
  rw [sought, labelBearer, h]
  rfl

/-- While nobody carries the identity, the name decides. -/
theorem sought_of_unlabelled {name : String} (h : inv.labelled Desired.uidLabel id = []) :
    sought inv id name = .ok (inv.loadBalancers.find? fun lb => lb.name == name) := by
  have hbearer : labelBearer inv id = .ok none := by
    rw [labelBearer, h]
    rfl
  rw [sought, hbearer]
  rfl

/-- Once the load balancer carries the identity, it is the only one to, whatever else has become of
it. -/
theorem labelled_of_alike {after : Inventory} (hheld : Held inv id lb)
    (h : after.Alike (inv.replace mid)) (hmid : mid.id = lb.id)
    (hlabel : mid.labels.get? Desired.uidLabel = some id) :
    after.labelled Desired.uidLabel id = [mid] := by
  have hfound : inv.find? mid.id = some lb := by rw [hmid, hheld.found]
  have halone : ∀ x ∈ inv.labelled Desired.uidLabel id, x.id = mid.id := by
    rw [hmid]
    exact hheld.alone
  rw [h.labelled, Inventory.labelled_replace hheld.ordered hfound halone hlabel]

end BalancerSync.Engine
