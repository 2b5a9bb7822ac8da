import BalancerSync.Proofs.Cloud.Convergence
import BalancerSync.Proofs.Engine.Plan

/-!
# The steps of a single call

Identity, algorithm, type and public interface take one call at most, and the call removes the
difference it was made for.  Their plans are convergent.

## Main Definitions

* `wishCalls` — the call that fulfills a wish which may be left open

## Main Results

* `convergent_identityPlan`, `convergent_algorithmPlan`, `convergent_typePlan`,
  `convergent_publicInterfacePlan`
-/

namespace BalancerSync.Engine

open Cloud (Call LoadBalancer Plan Aspect Stepwise Convergent Concerns)
open Cluster (Service)
open Desired (Balancer)

variable {service : Service} {wishes : Balancer}

/-- A plan that consists of one call at most, which leaves nothing to do. -/
theorem stepwise_of_single {calls : LoadBalancer → List Call}
    (h : ∀ lb, calls lb = [] ∨
      ∃ c new, calls lb = [c] ∧ c.revise? lb = some new ∧ calls new = []) :
    Stepwise fun lb => Plan.make (calls lb) := by
  intro lb c cs _ hcs
  change calls lb = c :: cs at hcs
  rcases h lb with hnone | ⟨d, new, hone, hnew, hnone⟩
  · rw [hnone] at hcs
    cases hcs
  · rw [hone] at hcs
    obtain ⟨rfl, rfl⟩ := List.cons.inj hcs
    refine ⟨new, hnew, ?_⟩
    simp only [hnone]
    rfl

/-! ### Identity and name -/

/-- A wish that was fulfilled is not a wish any more. -/
theorem filter_ne_getD_filter_ne (wish : Option String) (current : String) :
    wish.filter (· ≠ (wish.filter (· ≠ current)).getD current) = none := by
  cases wish with
  | none => rfl
  | some name => by_cases h : name = current <;> simp [Option.filter, h]

/-- After its change a load balancer needs no other one. -/
theorem infoChange_withChange (lb : LoadBalancer) (uid : String) (name : Option String) :
    infoChange (Cloud.Inventory.withChange (infoChange lb uid name) lb) uid name = ⟨none, none⟩ := by
  refine congrArg₂ Cloud.LoadBalancerChange.mk (filter_ne_getD_filter_ne _ lb.name) ?_
  by_cases h : lb.labels.get? Desired.uidLabel = some uid
  · simp [Cloud.Inventory.withChange, infoChange, h]
  · simp [Cloud.Inventory.withChange, infoChange, h]

/-- Bringing name and label up to date leaves nothing to do. -/
theorem convergent_identityPlan : Convergent fun lb => identityPlan lb service := by
  refine Convergent.within (Convergent.ofExcept_bind _ fun uid _ =>
    Convergent.ofExcept_bind _ fun name _ => (stepwise_of_single fun lb => ?_).convergent) _
  by_cases h : infoChange lb uid name = ⟨none, none⟩
  · exact .inl (if_pos h)
  · refine .inr ⟨_, _, if_neg h, Cloud.revise?_of_subject? rfl, if_pos ?_⟩
    exact infoChange_withChange lb uid name

/-- It reads nothing but name and label, and changes nothing else. -/
theorem concerns_identityPlan : Concerns [.identity] fun lb => identityPlan lb service := by
  refine Concerns.within (Concerns.ofExcept_bind _ fun uid _ =>
    Concerns.ofExcept_bind _ fun name _ => ⟨fun {x y} h => ?_, fun {lb} c hc => ?_⟩) _
  · obtain ⟨hid, hname, hlabels⟩ := h _ List.mem_cons_self
    have hchange : infoChange x uid name = infoChange y uid name := by
      rw [infoChange, infoChange, hname, hlabels]
    simp only [infoCalls, hchange, hid]
  · change c ∈ infoCalls lb uid name at hc
    rw [infoCalls] at hc
    split at hc
    · cases hc
    · rw [List.mem_singleton.1 hc]
      exact ⟨.identity, List.mem_cons_self, rfl⟩

/-- Where there is nothing to do, the load balancer carries the identity and the name that is
set. -/
theorem identity_of_infoCalls_eq_nil {lb : LoadBalancer} {uid : String} {name : Option String}
    (h : infoCalls lb uid name = []) :
    lb.labels.get? Desired.uidLabel = some uid ∧ ∀ n, name = some n → n ≠ "" → lb.name = n := by
  rw [infoCalls] at h
  split at h
  · rename_i hchange
    obtain ⟨hname, hlabels⟩ := Cloud.LoadBalancerChange.mk.inj hchange
    refine ⟨?_, fun n hn hne => ?_⟩
    · by_contra hlabel
      rw [if_neg hlabel] at hlabels
      cases hlabels
    · by_contra hother
      simp [Option.filter, hn, hne, Ne.symm hother] at hname
  · cases h

/-! ### Algorithm, type and public interface -/

/-- The call that fulfills a wish which may be left open, unless it is fulfilled already. -/
def wishCalls {β : Type} [DecidableEq β] (wish : Option β) (current : β) (call : β → Call) :
    List Call :=
  match wish with
  | none => []
  | some b => if b = current then [] else [call b]

section Wish

variable {β : Type} [DecidableEq β] {wish : Option β} (current : LoadBalancer → β)
  (call : Int → β → Call) {a : Aspect}

/-- Fulfilling a wish leaves nothing to do.  All that is asked of its call is that it sets what the
wish is compared with. -/
theorem convergent_wishCalls
    (hcall : ∀ lb b, ∃ new, (call lb.id b).revise? lb = some new ∧ current new = b) :
    Convergent fun lb => Plan.make (wishCalls wish (current lb) (call lb.id)) := by
  refine (stepwise_of_single fun lb => ?_).convergent
  cases wish with
  | none => exact .inl rfl
  | some b =>
    obtain ⟨new, hnew, hb⟩ := hcall lb b
    by_cases h : b = current lb
    · exact .inl (if_pos h)
    · exact .inr ⟨_, new, if_neg h, hnew, if_pos hb.symm⟩

/-- Fulfilling a wish concerns the one aspect that its call changes, provided that the comparison
reads this aspect only. -/
theorem concerns_wishCalls (hcurrent : ∀ {x y : LoadBalancer}, x.SameIn a y → current x = current y)
    (haspect : ∀ id b, (call id b).aspect? = some a) :
    Concerns [a] fun lb => Plan.make (wishCalls wish (current lb) (call lb.id)) := by
  refine ⟨fun {x y} h => ?_, fun {lb} c hc => ⟨a, List.mem_cons_self, ?_⟩⟩
  · have hsame := h a List.mem_cons_self
    rw [hcurrent hsame, hsame.1]
  · change c ∈ wishCalls wish (current lb) (call lb.id) at hc
    cases wish with
    | none => cases hc
    | some b =>
      simp only [wishCalls] at hc
      split at hc
      · cases hc
      · rw [List.mem_singleton.1 hc]
        exact haspect _ _

/-- Where there is nothing to do, the wish is fulfilled. -/
theorem eq_of_wishCalls_eq_nil {now : β} {call : β → Call} (h : wishCalls wish now call = [])
    {b : β} (hwish : wish = some b) : now = b := by
  subst hwish
  simp only [wishCalls] at h
  split at h
  · rename_i heq
    exact heq.symm
  · cases h

end Wish

/-- The algorithm is a single wish. -/
theorem algorithmCalls_eq (lb : LoadBalancer) (wishes : Balancer) :
    algorithmCalls lb wishes =
      wishCalls wishes.algorithm lb.algorithm fun a => .changeAlgorithm lb.id a := by
  simp only [algorithmCalls, wishCalls]
  cases wishes.algorithm <;> rfl

theorem convergent_algorithmPlan : Convergent fun lb => algorithmPlan lb wishes := by
  simp only [algorithmPlan, algorithmCalls_eq]
  refine Convergent.within (convergent_wishCalls (·.algorithm)
    (fun id a => .changeAlgorithm id a) fun lb a => ?_) _
  exact ⟨{ lb with algorithm := a }, Cloud.revise?_of_subject? rfl, rfl⟩

theorem concerns_algorithmPlan : Concerns [.algorithm] fun lb => algorithmPlan lb wishes := by
  simp only [algorithmPlan, algorithmCalls_eq]
  exact Concerns.within (concerns_wishCalls (·.algorithm)
    (fun id a => .changeAlgorithm id a) (fun h => h.2) fun _ _ => rfl) _

/-- The type is a single wish as well. -/
theorem typeCalls_eq (lb : LoadBalancer) (wishes : Balancer) :
    typeCalls lb wishes = wishCalls wishes.type lb.type fun t => .changeType lb.id t := by
  simp only [typeCalls, wishCalls]
  cases wishes.type <;> rfl

theorem convergent_typePlan : Convergent fun lb => typePlan lb wishes := by
  simp only [typePlan, typeCalls_eq]
  refine Convergent.within (convergent_wishCalls (·.type)
    (fun id t => .changeType id t) fun lb t => ?_) _
  exact ⟨{ lb with type := t }, Cloud.revise?_of_subject? rfl, rfl⟩

theorem concerns_typePlan : Concerns [.type] fun lb => typePlan lb wishes := by
  simp only [typePlan, typeCalls_eq]
  exact Concerns.within (concerns_wishCalls (·.type)
    (fun id t => .changeType id t) (fun h => h.2) fun _ _ => rfl) _

/-- The call that switches the public interface. -/
def switchPublicInterface (id : Int) (on : Bool) : Call :=
  if on then .enablePublicInterface id else .disablePublicInterface id

/-- So is the public interface, with one call for switching it on and another for switching it
off. -/
theorem publicInterfaceCalls_eq (lb : LoadBalancer) (wishes : Balancer) :
    publicInterfaceCalls lb wishes =
      wishCalls wishes.publicInterface lb.publicInterface.enabled (switchPublicInterface lb.id) := by
  simp only [publicInterfaceCalls, wishCalls]
  cases wishes.publicInterface with
  | none => rfl
  | some want => cases want <;> rfl

/-- Both calls come to one revision, which takes the state wished for. -/
theorem revise?_switchPublicInterface (lb : LoadBalancer) (on : Bool) :
    (switchPublicInterface lb.id on).revise? lb =
      some (Cloud.Inventory.withPublicInterface on lb) := by
  cases on with
  | true => exact Cloud.revise?_of_subject? rfl
  | false => exact Cloud.revise?_of_subject? rfl

theorem convergent_publicInterfacePlan : Convergent fun lb => publicInterfacePlan lb wishes := by
  simp only [publicInterfacePlan, publicInterfaceCalls_eq]
  refine Convergent.within (convergent_wishCalls (·.publicInterface.enabled)
    switchPublicInterface fun lb on => ?_) _
  exact ⟨_, revise?_switchPublicInterface lb on, rfl⟩

theorem concerns_publicInterfacePlan :
    Concerns [.publicInterface] fun lb => publicInterfacePlan lb wishes := by
  simp only [publicInterfacePlan, publicInterfaceCalls_eq]
  refine Concerns.within (concerns_wishCalls (·.publicInterface.enabled)
    switchPublicInterface (fun h => ?_) fun id on => ?_) _
  · exact congrArg (·.enabled) h.2
  · cases on <;> rfl

end BalancerSync.Engine
