import BalancerSync.Proofs.Cloud.Preservation
import BalancerSync.Proofs.Engine.Settled
import BalancerSync.Proofs.Engine.Start

/-!
# A pass from beginning to end

What a pass comes to if nothing goes wrong is a function of the inventory, `passEnd`.  Where a pass
was cut short, the inventory it leaves has the same `passEnd` as the one it began with; so whatever
became of a pass, the next undisturbed one makes up for it.

## Main Definitions

* `passEnd` — the result of an undisturbed pass, and the load balancers that it leaves
* `Partway` — the inventories that a pass can leave
* `Resting` — an inventory in which a pass has nothing to do

## Main Results

* `passed` — a pass always leaves an inventory that is partway, and comes to `passEnd` unless it
  fails
* `Partway.passEnd_eq` — an inventory that is partway has the same `passEnd`
* `resting_of_run_ensure` — after a pass with a result there is nothing to do
-/

namespace BalancerSync.Engine

open Cloud (LoadBalancer Inventory World Call Plan revised?)
open Cluster (Service Node)
open Desired (Balancer)

variable {engine : Engine} {service : Service} {wishes : Balancer} {nodes : List Node}
  {lb : LoadBalancer} {before after inv : Inventory} {w t : World}

/-! ### Steps and second look -/

theorem converge_eq (engine : Engine) (lb : LoadBalancer) (service : Service) (wishes : Balancer)
    (nodes : List Node) :
    converge engine lb service wishes nodes =
      (reconcile engine lb service wishes nodes).bind fun changed =>
        if changed then byId lb.id else Program.ofExcept (.ok lb) := rfl

/-- How far the steps have come with the plan, and what the second look has found. -/
structure Converged (w : World) (lb : LoadBalancer) (plan : Plan Unit)
    (result : Except Error LoadBalancer × World) : Prop where
  partway : ∃ made left mid, plan.calls = made ++ left ∧ revised? made lb = some mid ∧
    result.2.inventory.Alike (w.inventory.replace mid) ∧
    (left = [] ∧ result.1 = plan.outcome.map (fun _ => mid) ∨ ¬ w.Calm ∧ ∃ e, result.1 = .error e)
  calm : w.Calm → result.2.Calm
  /-- Without changes there is no second look. -/
  quiet : w.Calm → plan.calls = [] → w.Adds result.2 []

/-- The steps keep to their plan, and the second look finds what they have made. -/
theorem converged (ho : w.inventory.Ordered) (hf : w.inventory.find? lb.id = some lb)
    (hd : lb.Distinct) :
    Converged w lb (passPlan w.inventory.certificates engine lb service wishes nodes)
      (w.run (converge engine lb service wishes nodes)) := by
  obtain ⟨fin, hfin, -⟩ : ∃ fin, revised?
      (passPlan w.inventory.certificates engine lb service wishes nodes).calls lb = some fin ∧ _ :=
    convergent_passPlan.carries hd
  obtain ⟨⟨made, left, mid, hcalls, hmade, halike, hout⟩, hadds⟩ :=
    follows_reconcile w lb fin ho hf rfl hfin
  generalize passPlan w.inventory.certificates engine lb service wishes nodes = plan
    at hcalls hout hadds ⊢
  change plan.calls = made ++ left at hcalls
  change w.Calm → w.Adds _ plan.calls at hadds
  rw [converge_eq, World.run_bind]
  generalize w.run (reconcile engine lb service wishes nodes) = result at halike hout hadds
  obtain ⟨r, t⟩ := result
  have hcalm : w.Calm → t.Calm := fun hw => (hadds hw).calm
  have hquiet : w.Calm → plan.calls = [] → w.Adds t [] := fun hw hnone => hnone ▸ hadds hw
  cases r with
  | error e =>
    refine ⟨⟨made, left, mid, hcalls, hmade, halike, ?_⟩, hcalm, hquiet⟩
    rcases hout with ⟨hleft, houtcome⟩ | hcut
    · exact .inl ⟨hleft, by rw [Plan.outcome_of_telling_error houtcome.symm]; rfl⟩
    · exact .inr ⟨hcut.1, e, rfl⟩
  | ok changed =>
    obtain ⟨rfl, houtcome⟩ : left = [] ∧ Except.ok changed = plan.telling.outcome := by
      rcases hout with h | ⟨-, e, h⟩
      · exact h
      · cases h
    obtain ⟨hplan, rfl⟩ := Plan.outcome_of_telling_ok houtcome.symm
    -- The load balancer is looked at again only if there was any change.
    by_cases hnone : plan.calls = []
    · obtain rfl : made = [] := by
        rw [hnone, List.append_nil] at hcalls
        exact hcalls.symm
      obtain rfl := Option.some.inj hmade
      simp only [hnone, List.isEmpty_nil, Bool.not_true]
      exact ⟨⟨[], [], lb, hnone, rfl, halike, .inl ⟨rfl, by rw [hplan]; rfl⟩⟩, hcalm, hquiet⟩
    · have hlook : t.inventory.find? lb.id = some mid := by
        rw [halike.find?, Inventory.find?_replace hf (Cloud.id_of_revised? hmade)]
      obtain ⟨hsame, hanswer, hcalm'⟩ := run_byId_of_find? hlook
      simp only [List.isEmpty_eq_false_iff.2 hnone, Bool.not_false, if_true]
      refine ⟨⟨made, [], mid, hcalls, hmade, by rwa [hsame], ?_⟩, fun hw => hcalm' (hcalm hw),
        fun _ h => absurd h hnone⟩
      rcases hanswer with hanswer | ⟨hdisturbed, herror⟩
      · exact .inl ⟨rfl, by rw [hplan, hanswer]; rfl⟩
      · exact .inr ⟨fun hw => hdisturbed (hcalm hw), herror⟩

/-! ### What a pass comes to -/

/-- The result of an undisturbed pass, and the load balancers that it leaves. -/
def passEnd (engine : Engine) (service : Service) (nodes : List Node) (before : Inventory) :
    Except Error (List Cluster.Ingress) × List LoadBalancer :=
  match engine.wishes service with
  | .error e => (.error (.within "load_balancers::ensure" e), before.loadBalancers)
  | .ok wishes => match begun engine service wishes before with
    | .error e => (.error (.within "load_balancers::ensure" e), before.loadBalancers)
    | .ok (lb, inv) =>
      let plan := passPlan inv.certificates engine lb service wishes nodes
      let fin := (revised? plan.calls lb).getD lb
      ((plan.outcome.map fun _ => ingress fin wishes).mapError (.within "load_balancers::ensure"),
        (inv.replace fin).loadBalancers)

theorem passEnd_of_wishes_error {e : Error} (h : engine.wishes service = .error e) :
    passEnd engine service nodes before =
      (.error (.within "load_balancers::ensure" e), before.loadBalancers) := by
  simp only [passEnd, h]

theorem passEnd_of_begun_error {e : Error} (hwishes : engine.wishes service = .ok wishes)
    (h : begun engine service wishes before = .error e) :
    passEnd engine service nodes before =
      (.error (.within "load_balancers::ensure" e), before.loadBalancers) := by
  simp only [passEnd, hwishes, h]

theorem passEnd_of_begun {fin : LoadBalancer} (hwishes : engine.wishes service = .ok wishes)
    (h : begun engine service wishes before = .ok (lb, inv))
    (hfin : revised? (passPlan inv.certificates engine lb service wishes nodes).calls lb =
      some fin) :
    passEnd engine service nodes before =
      (((passPlan inv.certificates engine lb service wishes nodes).outcome.map fun _ =>
        ingress fin wishes).mapError (.within "load_balancers::ensure"),
        (inv.replace fin).loadBalancers) := by
  simp only [passEnd, hwishes, h, hfin, Option.getD_some]

/-- The inventories that a pass can leave: it has not begun, or it has come some way with its
plan. -/
inductive Partway (engine : Engine) (service : Service) (nodes : List Node) (before : Inventory) :
    Inventory → Prop where
  | unbegun {after : Inventory} : after = before → Partway engine service nodes before after
  | begun {wishes : Balancer} {lb mid : LoadBalancer} {inv after : Inventory}
    {made left : List Call} : engine.wishes service = .ok wishes →
    begun engine service wishes before = .ok (lb, inv) →
    (passPlan inv.certificates engine lb service wishes nodes).calls = made ++ left →
    revised? made lb = some mid → after.Alike (inv.replace mid) →
    Partway engine service nodes before after

/-- The next pass begins with the load balancer as the first one has left it. -/
theorem begun_of_partway {mid : LoadBalancer} {made left : List Call} (hsound : before.Sound)
    (hbegun : begun engine service wishes before = .ok (lb, inv))
    (hcalls : (passPlan inv.certificates engine lb service wishes nodes).calls = made ++ left)
    (hmade : revised? made lb = some mid) (halike : after.Alike (inv.replace mid)) :
    begun engine service wishes after = .ok (mid, after) := by
  obtain ⟨id, hid, hheld, -, horigin⟩ := held_of_begun hsound hbegun
  refine begun_of_sought hid ?_
  by_cases hlabelled : lb.labels.get? Desired.uidLabel = some id ∨ made ≠ []
  · exact sought_of_labelled (labelled_of_alike hheld halike (Cloud.id_of_revised? hmade)
      (label_of_made hid hcalls hmade hlabelled))
  · -- It was found by its name, and nothing was done to it.
    obtain ⟨hunlabelled, rfl⟩ : ¬ lb.labels.get? Desired.uidLabel = some id ∧ made = [] := by
      simpa using hlabelled
    obtain ⟨rfl, hsought⟩ := horigin.resolve_left hunlabelled
    obtain rfl := Option.some.inj hmade
    rw [Inventory.replace_self hheld.ordered hheld.found] at halike
    rwa [sought_congr halike.loadBalancers]

/-- From an inventory that is partway, a pass comes to the same as from the first one. -/
theorem Partway.passEnd_eq (hsound : before.Sound)
    (h : Partway engine service nodes before after) :
    passEnd engine service nodes after = passEnd engine service nodes before := by
  cases h with
  | unbegun h => rw [h]
  | @begun wishes lb mid inv _ made left hwishes hbegun hcalls hmade halike =>
    obtain ⟨id, -, hheld, -, -⟩ := held_of_begun hsound hbegun
    obtain ⟨fin, hfin, -⟩ : ∃ fin,
        revised? (passPlan inv.certificates engine lb service wishes nodes).calls lb = some fin ∧
          _ :=
      convergent_passPlan.carries hheld.distinct
    -- What is planned from the cut leads to the same load balancer.
    obtain ⟨hresumed, houtcome⟩ :=
      convergent_passPlan.resumes hheld.distinct hcalls hmade
    have hcertificates : after.certificates = inv.certificates := by
      rw [halike.certificates, Inventory.certificates_replace]
    have hid : fin.id = mid.id :=
      (Cloud.id_of_revised? hfin).trans (Cloud.id_of_revised? hmade).symm
    have hfin' : revised? (passPlan after.certificates engine mid service wishes nodes).calls mid =
        some fin := by
      rw [hcertificates, hresumed, hfin]
    have hagain := begun_of_partway hsound hbegun hcalls hmade halike
    rw [passEnd_of_begun hwishes hagain hfin', passEnd_of_begun hwishes hbegun hfin, hcertificates,
      houtcome,
      (halike.replace fin).loadBalancers, Inventory.replace_replace hid.symm]

theorem Partway.certificates (hsound : before.Sound)
    (h : Partway engine service nodes before after) : after.certificates = before.certificates := by
  cases h with
  | unbegun h => rw [h]
  | begun _ hbegun _ _ halike =>
    obtain ⟨id, -, -, hsame, -⟩ := held_of_begun hsound hbegun
    rw [halike.certificates, Inventory.certificates_replace, hsame]

/-! ### Any pass -/

theorem run_ensure_of_wishes_error {e : Error} (h : engine.wishes service = .error e) :
    w.run (ensure engine service nodes) = (.error (.within "load_balancers::ensure" e), w) := by
  rw [ensure_eq, h]
  rfl

/-- A pass with wishes looks for its load balancer and then takes its steps. -/
theorem run_ensure_of_wishes (h : engine.wishes service = .ok wishes) :
    w.run (ensure engine service nodes) = match w.run (start engine service wishes) with
      | (.ok lb, t) =>
        ((((t.run (converge engine lb service wishes nodes)).1.map fun lb =>
          ingress lb wishes).mapError (.within "load_balancers::ensure")),
          (t.run (converge engine lb service wishes nodes)).2)
      | (.error e, t) => (.error (.within "load_balancers::ensure" e), t) := by
  rw [ensure_eq, h, World.run_within, World.run_bind, World.run_ofExcept]
  simp only
  rw [World.run_bind]
  rcases w.run (start engine service wishes) with ⟨e | lb, t⟩
  · rfl
  · simp only [World.run_bind_ofExcept_ok]

/-- What any pass does. -/
structure Passed (engine : Engine) (service : Service) (nodes : List Node) (w : World)
    (result : Except Error (List Cluster.Ingress) × World) : Prop where
  partway : Partway engine service nodes w.inventory result.2.inventory
  calm : w.Calm → result.2.Calm
  ended : (result.1, result.2.inventory.loadBalancers) =
    passEnd engine service nodes w.inventory ∨ ¬ w.Calm ∧ ∃ e, result.1 = .error e
  /-- A pass that finds its load balancer and has nothing to do to it makes lookups only. -/
  quiet : ∀ {wishes : Balancer} {id : String} {lb : LoadBalancer}, w.Calm →
    engine.wishes service = .ok wishes → uid service = .ok id →
    sought w.inventory id wishes.name = .ok (some lb) →
    (passPlan w.inventory.certificates engine lb service wishes nodes).calls = [] →
    w.Adds result.2 []

theorem passed (hw : Honest w) (hsound : w.inventory.Sound) :
    Passed engine service nodes w (w.run (ensure engine service nodes)) := by
  cases hwishes : engine.wishes service with
  | error e =>
    rw [run_ensure_of_wishes_error hwishes]
    refine ⟨.unbegun rfl, fun h => h, .inl (passEnd_of_wishes_error hwishes).symm, ?_⟩
    intro wishes id lb _ h
    cases hwishes.symm.trans h
  | ok wishes =>
    rw [run_ensure_of_wishes hwishes]
    have hquiet : ∀ {id : String} {lb : LoadBalancer}, w.Calm → uid service = .ok id →
        sought w.inventory id wishes.name = .ok (some lb) →
        w.Adds (w.run (start engine service wishes)).2 [] :=
      fun hcalm hid hsought => adds_start hcalm hid hsought
    have hstarted : Started w (begun engine service wishes w.inventory) _ := started hw
    generalize w.run (start engine service wishes) = result at hquiet hstarted
    cases hstarted with
    | @failed e t hbegun hsame hcalm =>
      refine ⟨.unbegun hsame, hcalm, .inl ?_, fun hw hwishes' hid hsought _ => ?_⟩
      · rw [passEnd_of_begun_error hwishes hbegun, ← hsame]
      · obtain rfl := Except.ok.inj (hwishes.symm.trans hwishes')
        exact hquiet hw hid hsought
    -- Something may have been created all the same.
    | @stopped e t hdisturbed hleft =>
      refine ⟨?_, fun h => absurd h hdisturbed, .inr ⟨hdisturbed, _, rfl⟩,
        fun h => absurd h hdisturbed⟩
      rcases hleft with hsame | ⟨lb, hbegun⟩
      · exact .unbegun hsame
      · obtain ⟨id, -, hheld, -, -⟩ := held_of_begun hsound hbegun
        refine .begun hwishes hbegun (List.nil_append _).symm rfl ?_
        rw [Inventory.replace_self hheld.ordered hheld.found]
    | @begun lb inv t hbegun hinv hcalm =>
      subst hinv
      obtain ⟨id, hid, hheld, hsame, -⟩ := held_of_begun hsound hbegun
      have hconverged : Converged t lb
          (passPlan t.inventory.certificates engine lb service wishes nodes)
          (t.run (converge engine lb service wishes nodes)) :=
        converged hheld.ordered hheld.found hheld.distinct
      simp only
      generalize t.run (converge engine lb service wishes nodes) = result at hconverged
      obtain ⟨r, u⟩ := result
      obtain ⟨⟨made, left, mid, hcalls, hmade, halike, hout⟩, hcalm', hquiet'⟩ := hconverged
      refine ⟨.begun hwishes hbegun hcalls hmade halike, fun hw => hcalm' (hcalm hw), ?_,
        fun hw hwishes' hid' hsought hnone => ?_⟩
      · rcases hout with ⟨rfl, rfl⟩ | ⟨hdisturbed, e, rfl⟩
        · left
          rw [List.append_nil] at hcalls
          rw [passEnd_of_begun hwishes hbegun (hcalls ▸ hmade), halike.loadBalancers]
          cases (passPlan t.inventory.certificates engine lb service wishes nodes).outcome <;> rfl
        · exact .inr ⟨fun hw => hdisturbed (hcalm hw), _, rfl⟩
      · obtain rfl := Except.ok.inj (hwishes.symm.trans hwishes')
        obtain ⟨rfl, hinv⟩ := Prod.mk.inj
          (Except.ok.inj (hbegun.symm.trans (begun_of_sought hid' hsought)))
        rw [← hinv] at hnone
        exact (hquiet hw hid' hsought).trans (hquiet' (hcalm hw) hnone)

/-- An undisturbed pass comes to `passEnd`. -/
theorem run_ensure_of_calm (hw : w.Calm) (hsound : w.inventory.Sound) :
    ((w.run (ensure engine service nodes)).1,
        (w.run (ensure engine service nodes)).2.inventory.loadBalancers) =
      passEnd engine service nodes w.inventory :=
  (passed (honest_of_calm hw) hsound).ended.resolve_right fun h => h.1 hw

/-! ### After a pass -/

/-- An inventory in which a pass for a Service has nothing to do but to find this load balancer. -/
structure Resting (engine : Engine) (service : Service) (nodes : List Node) (wishes : Balancer)
    (id : String) (lb : LoadBalancer) (inv : Inventory) : Prop where
  sound : inv.Sound
  wanted : engine.wishes service = .ok wishes
  identity : uid service = .ok id
  labelled : inv.labelled Desired.uidLabel id = [lb]
  nothing : passPlan inv.certificates engine lb service wishes nodes = ⟨[], .ok ()⟩

/-- After a pass with a result there is nothing to do, and the result is that of the load balancer
as it is then. -/
theorem resting_of_run_ensure {addresses : List Cluster.Ingress} (hsound : w.inventory.Sound)
    (hw : Honest w) (h : w.run (ensure engine service nodes) = (.ok addresses, t)) :
    ∃ wishes id lb, Resting engine service nodes wishes id lb t.inventory ∧
      addresses = ingress lb wishes := by
  have hsound' := World.sound_run w (ensure engine service nodes) hsound
  obtain ⟨hpartway, -, hended, -⟩ :
    Passed engine service nodes w (w.run (ensure engine service nodes)) := passed hw hsound
  rw [h] at hsound' hpartway hended
  have hcertificates := hpartway.certificates hsound
  have hend := hended.resolve_right fun ⟨_, e, he⟩ => by cases he
  cases hwishes : engine.wishes service with
  | error e =>
    rw [passEnd_of_wishes_error hwishes] at hend
    cases hend
  | ok wishes =>
    cases hbegun : begun engine service wishes w.inventory with
    | error e =>
      rw [passEnd_of_begun_error hwishes hbegun] at hend
      cases hend
    | ok began =>
      obtain ⟨lb, inv⟩ := began
      obtain ⟨id, hid, hheld, hsame, -⟩ := held_of_begun hsound hbegun
      -- There is a result, so the whole plan was carried out.
      obtain ⟨fin, hfin, hdone⟩ : ∃ fin,
          revised? (passPlan inv.certificates engine lb service wishes nodes).calls lb = some fin ∧
            passPlan inv.certificates engine fin service wishes nodes = ⟨[], _⟩ :=
        convergent_passPlan.exists_end hheld.distinct
      rw [passEnd_of_begun hwishes hbegun hfin] at hend
      obtain ⟨hresult, hloadBalancers⟩ := Prod.mk.inj hend
      cases houtcome : (passPlan inv.certificates engine lb service wishes nodes).outcome with
      | error e =>
        rw [houtcome] at hresult
        cases hresult
      | ok u =>
        rw [houtcome] at hresult hdone
        have hafter : t.inventory.certificates = inv.certificates := hcertificates.trans hsame.symm
        have halike : t.inventory.Alike (inv.replace fin) := ⟨hloadBalancers, hafter⟩
        obtain ⟨id', hid', hlabel, -⟩ := identity_of_passPlan_eq hdone
        obtain rfl := Except.ok.inj (hid.symm.trans hid')
        refine ⟨wishes, id, fin, ⟨hsound', hwishes, hid, ?_, ?_⟩, ?_⟩
        · exact labelled_of_alike hheld halike (Cloud.id_of_revised? hfin) hlabel
        · rw [hafter, hdone]
        · exact Except.ok.inj hresult

namespace Resting

variable {id : String}

theorem sought_eq (h : Resting engine service nodes wishes id lb inv) :
    sought inv id wishes.name = .ok (some lb) := sought_of_labelled h.labelled

theorem mem (h : Resting engine service nodes wishes id lb inv) : lb ∈ inv.loadBalancers :=
  (Inventory.mem_of_labelled_eq h.labelled).1

/-- The load balancer is what the Service wants. -/
theorem settled (h : Resting engine service nodes wishes id lb w.inventory) (hw : w.Calm) :
    Settled engine service nodes w lb :=
  settled_of_passPlan_eq (h.sound.distinct lb h.mem) hw h.wanted h.nothing

/-- Another pass has the same result and leaves the load balancers as they are. -/
theorem passEnd_eq (h : Resting engine service nodes wishes id lb inv) :
    passEnd engine service nodes inv = (.ok (ingress lb wishes), inv.loadBalancers) := by
  have hfin : revised? (passPlan inv.certificates engine lb service wishes nodes).calls lb =
      some lb := by
    rw [h.nothing]
    rfl
  rw [passEnd_of_begun h.wanted (begun_of_sought h.identity h.sought_eq) hfin, h.nothing,
    Inventory.replace_self h.sound.ordered (Inventory.find?_of_mem h.sound.ordered h.mem)]
  rfl

/-- Another pass makes lookups only. -/
theorem adds_run_ensure (h : Resting engine service nodes wishes id lb w.inventory)
    (hw : w.Calm) : w.Adds (w.run (ensure engine service nodes)).2 [] := by
  refine (passed (honest_of_calm hw) h.sound).quiet hw h.wanted h.identity h.sought_eq ?_
  rw [h.nothing]

/-- The status is that of the load balancer. -/
theorem run_status (h : Resting engine service nodes wishes id lb w.inventory) (hw : w.Calm) :
    (w.run (status engine service)).1 = .ok (ingress lb wishes, true) := by
  obtain ⟨-, hanswer, -⟩ :=
    answers_find (w := w) wishes.name h.identity (honest_of_calm hw)
  have hfound := hanswer.resolve_right fun hd => hd.1 hw
  rw [h.sought_eq] at hfound
  rw [status, World.run_within, Program.bind_eq, World.run_bind, h.wanted, World.run_ofExcept]
  simp only [Program.bind_eq, World.run_bind]
  generalize w.run (find service wishes.name).ifFound = result at hfound
  obtain ⟨r, t⟩ := result
  obtain rfl : r = .ok (some lb) := hfound
  rfl

end Resting

end BalancerSync.Engine
