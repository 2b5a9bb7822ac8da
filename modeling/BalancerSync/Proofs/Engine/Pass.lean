import BalancerSync.Proofs.Engine.Networks
import BalancerSync.Proofs.Engine.Services
import BalancerSync.Proofs.Engine.Steps

/-!
# Passes are convergent

The plans of the steps concern different aspects of a load balancer, so the plan of a pass is
convergent because they are.  A pass that was cut short anywhere is made up for by the next one.

The next pass also has to find the load balancer again.  The first thing a pass does is to give it
the identity of its Service, so as soon as anything at all was done it is found by that.

## Main Definitions

* `passParts` — the plan of a pass, aspect by aspect

## Main Results

* `convergent_passPlan`
* `label_of_made` — a load balancer that a pass has begun with carries the identity
-/

namespace BalancerSync.Engine

open Cloud (Call LoadBalancer Plan Aspect Certificate Convergent Concerns revised?)
open Cluster (Service Node)
open Desired (Balancer)

variable {certificates : List Certificate} {engine : Engine} {lb mid : LoadBalancer}
  {service : Service} {wishes : Balancer} {nodes : List Node}

/-- The plans for the aspects after the first. -/
def laterParts (certificates : List Certificate) (engine : Engine) (service : Service)
    (wishes : Balancer) (nodes : List Node) : List (Aspect × (LoadBalancer → Plan Unit)) :=
  [(.algorithm, fun lb => algorithmPlan lb wishes),
    (.type, fun lb => typePlan lb wishes),
    (.network, fun lb => networkPlan engine lb wishes),
    (.publicInterface, fun lb => publicInterfacePlan lb wishes),
    (.targets, fun lb => targetsPlan engine lb wishes nodes),
    (.services, fun lb => servicesPlan certificates lb service)]

/-- The plan of a pass, aspect by aspect.  Both steps for networks are one part. -/
def passParts (certificates : List Certificate) (engine : Engine) (service : Service)
    (wishes : Balancer) (nodes : List Node) : List (Aspect × (LoadBalancer → Plan Unit)) :=
  (.identity, fun lb => identityPlan lb service) ::
    laterParts certificates engine service wishes nodes

theorem passPlan_eq (lb : LoadBalancer) :
    passPlan certificates engine lb service wishes nodes =
      .sequence ((passParts certificates engine service wishes nodes).map fun p => p.2 lb) := by
  simp only [passPlan, passParts, laterParts, Plan.sequence, networkPlan, Plan.bind_assoc,
    List.map_cons, List.map_nil]

theorem convergent_laterParts (certificates : List Certificate) (engine : Engine)
    (service : Service) (wishes : Balancer) (nodes : List Node) :
    ∀ p ∈ laterParts certificates engine service wishes nodes,
      Convergent p.2 ∧ Concerns [p.1] p.2 := by
  simp only [laterParts, List.forall_mem_cons, List.not_mem_nil, false_implies, implies_true,
    and_true]
  exact ⟨⟨convergent_algorithmPlan, concerns_algorithmPlan⟩,
    ⟨convergent_typePlan, concerns_typePlan⟩, ⟨convergent_networkPlan, concerns_networkPlan⟩,
    ⟨convergent_publicInterfacePlan, concerns_publicInterfacePlan⟩,
    ⟨convergent_targetsPlan, concerns_targetsPlan⟩, convergent_servicesPlan, concerns_servicesPlan⟩

theorem convergent_passParts (certificates : List Certificate) (engine : Engine)
    (service : Service) (wishes : Balancer) (nodes : List Node) :
    (Convergent fun lb => passPlan certificates engine lb service wishes nodes) ∧
      Concerns ((passParts certificates engine service wishes nodes).map (·.1))
        fun lb => passPlan certificates engine lb service wishes nodes := by
  simp only [passPlan_eq]
  refine Convergent.sequence (List.forall_mem_cons.2 ⟨?_, convergent_laterParts _ _ _ _ _⟩) ?_
  · exact ⟨convergent_identityPlan, concerns_identityPlan⟩
  · simp [passParts, laterParts]

/-- Passes are convergent. -/
theorem convergent_passPlan :
    Convergent fun lb => passPlan certificates engine lb service wishes nodes :=
  (convergent_passParts certificates engine service wishes nodes).1

/-- A pass plans changes only. -/
theorem isMutation_of_mem_passPlan :
    ∀ c ∈ (passPlan certificates engine lb service wishes nodes).calls, c.isMutation = true :=
  (convergent_passParts certificates engine service wishes nodes).2.isMutation

/-! ### The identity comes first -/

/-- What a pass does after it has seen to the identity. -/
def laterPlan (certificates : List Certificate) (engine : Engine) (lb : LoadBalancer)
    (service : Service) (wishes : Balancer) (nodes : List Node) : Plan Unit :=
  .sequence ((laterParts certificates engine service wishes nodes).map fun p => p.2 lb)

theorem passPlan_eq_bind (lb : LoadBalancer) :
    passPlan certificates engine lb service wishes nodes =
      (identityPlan lb service).bind fun _ =>
        laterPlan certificates engine lb service wishes nodes :=
  passPlan_eq lb

theorem aspect?_of_mem_laterPlan {c : Call}
    (hc : c ∈ (laterPlan certificates engine lb service wishes nodes).calls) :
    c.aspect? ≠ some .identity := by
  obtain ⟨-, hconcerns⟩ := Convergent.sequence
    (convergent_laterParts certificates engine service wishes nodes) (by simp [laterParts])
  have hdisjoint : ∀ a ∈ (laterParts certificates engine service wishes nodes).map (·.1),
      a ∉ [Aspect.identity] := by
    simp [laterParts]
  exact hconcerns.aspect?_ne hdisjoint hc _ List.mem_cons_self

theorem label_of_revised? {id : String} {name : Option String} {made : List Call}
    (h : infoCalls lb id name = []) (hmade : revised? made lb = some mid)
    (hlater : ∀ c ∈ made, c.aspect? ≠ some .identity) :
    mid.labels.get? Desired.uidLabel = some id := by
  obtain ⟨-, -, hlabels⟩ := Cloud.sameIn_revised? hmade hlater
  rw [← hlabels]
  exact (identity_of_infoCalls_eq_nil h).1

/-- Once a pass has changed anything, the load balancer carries the identity. -/
theorem label_of_made {id : String} {made left : List Call} (hid : uid service = .ok id)
    (hcs : (passPlan certificates engine lb service wishes nodes).calls = made ++ left)
    (hmade : revised? made lb = some mid)
    (hbegun : lb.labels.get? Desired.uidLabel = some id ∨ made ≠ []) :
    mid.labels.get? Desired.uidLabel = some id := by
  cases made with
  | nil =>
    obtain rfl := Option.some.inj hmade
    rcases hbegun with hlabel | hne
    · exact hlabel
    · exact absurd rfl hne
  | cons c made =>
    rw [passPlan_eq_bind, identityPlan, hid, Plan.bind_ofExcept_ok] at hcs
    cases hname : Setting.name.text service with
    | error e =>
      rw [hname] at hcs
      cases hcs
    | ok name =>
      rw [hname] at hcs
      have hlater : ∀ d ∈ (laterPlan certificates engine lb service wishes nodes).calls,
          d.aspect? ≠ some .identity := fun d hd => aspect?_of_mem_laterPlan hd
      change infoCalls lb id name ++ (laterPlan certificates engine lb service wishes nodes).calls =
        c :: (made ++ left) at hcs
      -- Either the label was there from the beginning, or the first call that was made has set it;
      -- the later steps do not touch it.
      by_cases hchange : infoChange lb id name = ⟨none, none⟩
      · have hnone : infoCalls lb id name = [] := if_pos hchange
        rw [hnone, List.nil_append] at hcs
        refine label_of_revised? hnone hmade fun d hd => hlater d ?_
        rw [hcs]
        exact List.mem_append_left left hd
      · have hone : infoCalls lb id name = [.update lb.id (infoChange lb id name)] := if_neg hchange
        rw [hone, List.singleton_append] at hcs
        obtain ⟨rfl, hrest⟩ := List.cons.inj hcs
        rw [Cloud.revised?_cons, Cloud.revise?_of_subject? rfl] at hmade
        have hnone : infoCalls (Cloud.Inventory.withChange (infoChange lb id name) lb) id name = [] :=
          if_pos (infoChange_withChange lb id name)
        refine label_of_revised? hnone hmade fun d hd => hlater d ?_
        rw [hrest]
        exact List.mem_append_left left hd

end BalancerSync.Engine
