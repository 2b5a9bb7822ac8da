import BalancerSync.Proofs.Engine.Passes

/-!
# Passes of different Services

Two passes read the same load balancers and count up the same identifiers.  Nevertheless it does not
matter which of them comes first, as long as each has a load balancer that carries its identity:
what a pass comes to depends on that load balancer and the certificates only, `ownPass`, and that
load balancer is all that it changes.

This does not take a pass to succeed.  A pass that fails by itself stops somewhere in its plan, but
it stops at the same place whatever else has changed meanwhile.

## Main Definitions

* `ownPass` — what a pass comes to for the load balancer that carries the identity

## Main Results

* `run_ensure_of_labelled` — a pass comes to nothing else
* `ensure_comm` — passes of different Services can be swapped
-/

namespace BalancerSync.Engine

open Cloud (Certificate LoadBalancer Inventory World revised?)
open Cluster (Service Node)

section

variable {engine : Engine} {service other : Service} {nodes nodes' : List Node} {id id' : String}
  {lb lb' : LoadBalancer} {w : World}

/-! ### One pass -/

/-- A load balancer that alone carries the identity of a Service. -/
structure Owned (inv : Inventory) (service : Service) (id : String) (lb : LoadBalancer) : Prop where
  identity : uid service = .ok id
  labelled : inv.labelled Desired.uidLabel id = [lb]
  distinct : lb.Distinct

/-- The result of an undisturbed pass for the load balancer that carries the identity, and what
becomes of that load balancer. -/
def ownPass (certificates : List Certificate) (engine : Engine) (service : Service)
    (nodes : List Node) (lb : LoadBalancer) : Except Error (List Cluster.Ingress) × LoadBalancer :=
  match engine.wishes service with
  | .error e => (.error (.within "load_balancers::ensure" e), lb)
  | .ok wishes =>
    let plan := passPlan certificates engine lb service wishes nodes
    let fin := (revised? plan.calls lb).getD lb
    ((plan.outcome.map fun _ => ingress fin wishes).mapError (.within "load_balancers::ensure"), fin)

/-- Neither the identifier nor the identity is lost. -/
theorem Owned.kept (h : Owned w.inventory service id lb) (certificates : List Certificate)
    (engine : Engine) (nodes : List Node) :
    (ownPass certificates engine service nodes lb).2.id = lb.id ∧
      (ownPass certificates engine service nodes lb).2.labels.get? Desired.uidLabel = some id := by
  have hlabel := (Inventory.mem_of_labelled_eq h.labelled).2
  rw [ownPass]
  cases engine.wishes service with
  | error e => exact ⟨rfl, hlabel⟩
  | ok wishes =>
    obtain ⟨fin, hfin, -⟩ : ∃ fin,
        revised? (passPlan certificates engine lb service wishes nodes).calls lb = some fin ∧ _ :=
      convergent_passPlan.carries h.distinct
    simp only [hfin, Option.getD_some]
    exact ⟨Cloud.id_of_revised? hfin,
      label_of_made h.identity (List.append_nil _).symm hfin (.inl hlabel)⟩

/-- A pass that goes by such an account of it. -/
structure GoesBy (w : World) (own : Except Error (List Cluster.Ingress) × LoadBalancer)
    (result : Except Error (List Cluster.Ingress) × World) : Prop where
  outcome : result.1 = own.1
  inventory : result.2.inventory.Alike (w.inventory.replace own.2)
  calm : result.2.Calm

/-- An undisturbed pass of a Service whose identity is carried comes to nothing else. -/
theorem Owned.run_ensure (h : Owned w.inventory service id lb) (hw : w.Calm)
    (ho : w.inventory.Ordered) :
    GoesBy w (ownPass w.inventory.certificates engine service nodes lb)
      (w.run (ensure engine service nodes)) := by
  have hfound := Inventory.find?_of_mem ho (Inventory.mem_of_labelled_eq h.labelled).1
  rw [ownPass]
  cases hwishes : engine.wishes service with
  | error e =>
    rw [run_ensure_of_wishes_error hwishes]
    exact ⟨rfl, by rw [Inventory.replace_self ho hfound], hw⟩
  | ok wishes =>
    have hbegun : begun engine service wishes w.inventory = .ok (lb, w.inventory) :=
      begun_of_sought h.identity (sought_of_labelled h.labelled)
    have hstarted : Started w (begun engine service wishes w.inventory) _ :=
      started (honest_of_calm hw)
    -- The identity is carried, so nothing is created and the pass begins with that load balancer.
    rw [run_ensure_of_wishes hwishes]
    rw [hbegun] at hstarted
    generalize w.run (start engine service wishes) = result at hstarted
    cases hstarted with
    | failed h => cases h
    | stopped hdisturbed => exact absurd hw hdisturbed
    | @begun own inv t hbegun hinv hcalm =>
      obtain ⟨rfl, rfl⟩ := Prod.mk.inj (Except.ok.inj hbegun)
      rw [← hinv] at ho hfound
      obtain ⟨⟨made, left, mid, hcalls, hmade, halike, hout⟩, hcalm', -⟩ : Converged t lb
          (passPlan t.inventory.certificates engine lb service wishes nodes)
          (t.run (converge engine lb service wishes nodes)) := converged ho hfound h.distinct
      obtain ⟨rfl, houtcome⟩ := hout.resolve_right fun h => h.1 (hcalm hw)
      rw [List.append_nil] at hcalls
      rw [hinv] at hcalls halike houtcome
      simp only [hcalls, hmade, Option.getD_some, houtcome]
      refine ⟨?_, halike, hcalm' (hcalm hw)⟩
      cases (passPlan w.inventory.certificates engine lb service wishes nodes).outcome <;> rfl

/-! ### Two passes -/

/-- A pass of one Service leaves to another what the other needs. -/
theorem Owned.run_ensure_after (h : Owned w.inventory service id lb)
    (h' : Owned w.inventory other id' lb') (hne : id ≠ id') (hw : w.Calm)
    (ho : w.inventory.Ordered) :
    GoesBy (w.run (ensure engine service nodes)).2
      (ownPass w.inventory.certificates engine other nodes' lb')
      ((w.run (ensure engine service nodes)).2.run (ensure engine other nodes')) := by
  obtain ⟨-, hinv, hcalm⟩ : GoesBy w _ (w.run (ensure engine service nodes)) := h.run_ensure hw ho
  obtain ⟨hmem, hlabel⟩ := Inventory.mem_of_labelled_eq h.labelled
  obtain ⟨hsame, hkept⟩ := h.kept w.inventory.certificates engine nodes
  generalize ownPass w.inventory.certificates engine service nodes lb = own at hinv hsame hkept
  generalize (w.run (ensure engine service nodes)).2 = t at hinv hcalm ⊢
  have hfound : w.inventory.find? own.2.id = some lb := by
    rw [hsame, Inventory.find?_of_mem ho hmem]
  have hcertificates : t.inventory.certificates = w.inventory.certificates := hinv.certificates
  -- What was written carries the one identity before and after, so the other is carried as before.
  have hstill : Owned t.inventory other id' lb' := by
    refine ⟨h'.identity, ?_, h'.distinct⟩
    rw [hinv.labelled, Inventory.labelled_replace_of_not ho hfound, h'.labelled]
    · simpa [hlabel] using hne
    · simpa [hkept] using hne
  rw [← hcertificates]
  exact hstill.run_ensure hcalm (hinv.ordered (Inventory.ordered_replace ho))

/-- Two passes in a row put both load balancers in their places. -/
theorem Owned.alike_run_ensure_after (h : Owned w.inventory service id lb)
    (h' : Owned w.inventory other id' lb') (hne : id ≠ id') (hw : w.Calm)
    (ho : w.inventory.Ordered) :
    ((w.run (ensure engine service nodes)).2.run (ensure engine other nodes')).2.inventory.Alike
      ((w.inventory.replace (ownPass w.inventory.certificates engine service nodes lb).2).replace
        (ownPass w.inventory.certificates engine other nodes' lb').2) :=
  (h.run_ensure_after h' hne hw ho).inventory.trans ((h.run_ensure hw ho).inventory.replace _)

/-- Undisturbed passes of Services with different identities, each carried by one load balancer, can
be swapped: the load balancers in the end and both results are the same, errors included. -/
theorem ensure_comm (engine : Engine) (service other : Service) (nodes nodes' : List Node)
    {id id' : String} {w : World} (hw : w.Calm) (ho : w.inventory.Ordered)
    (hd : ∀ lb ∈ w.inventory.loadBalancers, lb.Distinct)
    (hid : uid service = .ok id) (hid' : uid other = .ok id') (hne : id ≠ id')
    (hone : (w.inventory.labelled Desired.uidLabel id).length = 1)
    (hone' : (w.inventory.labelled Desired.uidLabel id').length = 1) :
    let first := w.run (ensure engine service nodes)
    let second := first.2.run (ensure engine other nodes')
    let first' := w.run (ensure engine other nodes')
    let second' := first'.2.run (ensure engine service nodes)
    second.2.inventory.loadBalancers = second'.2.inventory.loadBalancers ∧
      first.1 = second'.1 ∧ second.1 = first'.1 := by
  intro first second first' second'
  obtain ⟨lb, hlabelled⟩ := List.length_eq_one_iff.1 hone
  obtain ⟨lb', hlabelled'⟩ := List.length_eq_one_iff.1 hone'
  obtain ⟨hmem, hlabel⟩ := Inventory.mem_of_labelled_eq hlabelled
  obtain ⟨hmem', hlabel'⟩ := Inventory.mem_of_labelled_eq hlabelled'
  have h : Owned w.inventory service id lb := ⟨hid, hlabelled, hd lb hmem⟩
  have h' : Owned w.inventory other id' lb' := ⟨hid', hlabelled', hd lb' hmem'⟩
  refine ⟨?_, ?_, ?_⟩
  · -- No load balancer carries both identities, so the two are written in different places.
    have hdiffer : lb.id ≠ lb'.id := by
      intro hsame
      rw [Inventory.eq_of_id_eq ho hmem hmem' hsame, hlabel'] at hlabel
      exact hne (Option.some.inj hlabel).symm
    obtain ⟨hsame, -⟩ := h.kept w.inventory.certificates engine nodes
    obtain ⟨hsame', -⟩ := h'.kept w.inventory.certificates engine nodes'
    have halike : second.2.inventory.Alike _ := h.alike_run_ensure_after h' hne hw ho
    have halike' : second'.2.inventory.Alike _ := h'.alike_run_ensure_after h hne.symm hw ho
    rw [halike.loadBalancers, halike'.loadBalancers,
      Inventory.replace_comm (by rwa [hsame, hsame'])]
  · exact (h.run_ensure hw ho).outcome.trans
      (h'.run_ensure_after h hne.symm hw ho).outcome.symm
  · exact (h.run_ensure_after h' hne hw ho).outcome.trans (h'.run_ensure hw ho).outcome.symm

end

namespace Sample

/-- A load balancer that carries an identity. -/
def owned (n : Int) (name uid : String) : LoadBalancer :=
  { handmade with id := n, name := name, labels := Labels.empty.insert Desired.uidLabel uid }

/-- A cloud that two Services share. -/
def shared : World :=
  .ofInventory ⟨[owned 3 "shop-web" "u1", owned 4 "shop-api" "u2"], [], [], 4⟩ (.ofMillis 500)

/-- A Service that has one of the load balancers. -/
def api : Service := serviceNamed "shop" "api" "u2"

/-- A node of another provider. -/
def strayNodes : List Node :=
  [⟨{ Cluster.Metadata.empty with name := some "stray" }, some "aws://101"⟩]

theorem ordered_shared : shared.inventory.Ordered := by
  unfold Inventory.Ordered
  decide

theorem distinct_of_mem_shared {lb : LoadBalancer} (h : lb ∈ shared.inventory.loadBalancers) :
    lb.Distinct := by
  simp only [shared, World.ofInventory, List.mem_cons, List.not_mem_nil, or_false] at h
  rcases h with rfl | rfl <;> exact ⟨by decide, by decide⟩

end Sample

/-- One of the passes may fail on its way. -/
theorem ensure_comm_sample :
    let mine := Sample.shared.run (ensure Sample.engine Sample.service Sample.nodes)
    let theirs := Sample.shared.run (ensure Sample.engine Sample.api Sample.strayNodes)
    theirs.1.isOk = false ∧
      theirs.2.inventory.loadBalancers ≠ Sample.shared.inventory.loadBalancers ∧
      (mine.2.run (ensure Sample.engine Sample.api Sample.strayNodes)).2.inventory.loadBalancers =
        (theirs.2.run (ensure Sample.engine Sample.service Sample.nodes)).2.inventory.loadBalancers ∧
      mine.1 = (theirs.2.run (ensure Sample.engine Sample.service Sample.nodes)).1 ∧
      (mine.2.run (ensure Sample.engine Sample.api Sample.strayNodes)).1 = theirs.1 := by
  refine ⟨by decide +kernel, by decide +kernel, ?_⟩
  exact ensure_comm Sample.engine Sample.service Sample.api Sample.nodes Sample.strayNodes rfl
    Sample.ordered_shared (fun lb => Sample.distinct_of_mem_shared) rfl rfl (by decide)
    (by decide +kernel) (by decide +kernel)

end BalancerSync.Engine
