import BalancerSync.Proofs.Engine.Requests
import BalancerSync.Proofs.Engine.Start

/-!
# Identities

The label that ties a load balancer to its Service is written in two places: when the load balancer
is created, and by the first step of a pass.  An inventory in which no identity is carried twice
stays one, if the load balancer that is worked on is the only one to carry the identity, and if one
is created only for an identity that nobody carries.

## Main Definitions

* `Unambiguous` — no identity is carried by two load balancers
* `Tended` — what holds while a load balancer is worked on

## Main Results

* `Tended.done` — the calls of a pass keep identities apart
* `tended_withNewcomer` — and so does creating a load balancer
-/

namespace BalancerSync.Engine

open Cloud (Call LoadBalancer Inventory NewLoadBalancer)
open Cloud.Inventory (Placed Done)
open Cluster (Service)

variable {service : Service} {inv after : Inventory} {lb new own : LoadBalancer} {id : String}
  {wishes : Desired.Balancer} {n : Int} {c : Call}

/-! ### Inventories -/

/-- No identity is carried by two load balancers. -/
def Unambiguous (inv : Inventory) : Prop :=
  ∀ id, (inv.labelled Desired.uidLabel id).length ≤ 1

theorem unambiguous_iff (ho : inv.Ordered) : Unambiguous inv ↔
    ∀ id, ∀ x ∈ inv.labelled Desired.uidLabel id, ∀ y ∈ inv.labelled Desired.uidLabel id,
      x.id = y.id := by
  refine forall_congr' fun id => ?_
  have hpairwise : (inv.labelled Desired.uidLabel id).Pairwise fun a b => a.id < b.id :=
    ho.filter _
  match hxs : inv.labelled Desired.uidLabel id with
  | [] => simp
  | [x] => simp
  | x :: y :: rest =>
    rw [hxs] at hpairwise
    have hlt := (List.pairwise_cons.1 hpairwise).1 y List.mem_cons_self
    refine iff_of_false (by simp) fun hsame => ?_
    have heq := hsame x List.mem_cons_self y (List.mem_cons_of_mem _ List.mem_cons_self)
    omega

/-- Load balancers in order, and no identity carried by two. -/
structure Clear (inv : Inventory) : Prop where
  placed : inv.Placed
  unambiguous : Unambiguous inv

/-- The same, and nobody but the load balancer with one identifier carries this identity. -/
structure Tended (id : String) (own : Int) (inv : Inventory) : Prop extends Clear inv where
  alone : ∀ x ∈ inv.labelled Desired.uidLabel id, x.id = own

theorem labelled_remove {n : Int} {key value : String} {x : LoadBalancer}
    (hx : x ∈ (inv.remove n).labelled key value) : x ∈ inv.labelled key value := by
  rw [Inventory.mem_labelled] at hx ⊢
  exact ⟨(List.mem_filter.1 hx.1).1, hx.2⟩

/-- Taking a load balancer away keeps identities apart. -/
theorem Unambiguous.remove (h : Unambiguous inv) (n : Int) : Unambiguous (inv.remove n) := by
  intro id
  have hsublist : ((inv.remove n).labelled Desired.uidLabel id).Sublist
      (inv.labelled Desired.uidLabel id) := List.filter_sublist.filter _
  exact Nat.le_trans hsublist.length_le (h id)

/-- Who carries an identity after a load balancer was replaced. -/
theorem of_mem_labelled_replace {key value : String} {x old : LoadBalancer} (ho : inv.Ordered)
    (hold : inv.find? new.id = some old)
    (hx : x ∈ ({ inv.replace new with lastId := n } : Inventory).labelled key value) :
    x = new ∧ new.labels.get? key = some value ∨
      x.id ≠ new.id ∧ x ∈ inv.labelled key value := by
  obtain ⟨hmem, hlabel⟩ := Inventory.mem_labelled.1 hx
  rcases (Inventory.mem_replace ho hold).1 hmem with rfl | ⟨hmem, hne⟩
  · exact .inl ⟨rfl, hlabel⟩
  · exact .inr ⟨hne, Inventory.mem_labelled.2 ⟨hmem, hlabel⟩⟩

/-- A load balancer may be replaced by one with the same labels, and the one that is worked on by
one that carries the identity. -/
theorem Tended.replace {own : Int} {old : LoadBalancer} (h : Tended id own inv)
    (hold : inv.find? new.id = some old)
    (hlabels : new.labels = old.labels ∨
      new.id = own ∧ new.labels.get? Desired.uidLabel = some id)
    (hplaced : Placed { inv.replace new with lastId := n }) :
    Tended id own { inv.replace new with lastId := n } := by
  obtain ⟨⟨hbefore, hunambiguous⟩, halone⟩ := h
  have ho := hbefore.ordered
  have hsame := (unambiguous_iff ho).1 hunambiguous
  have hid : old.id = new.id := Inventory.id_of_find? hold
  have hbearer : ∀ {v}, new.labels = old.labels → new.labels.get? Desired.uidLabel = some v →
      old ∈ inv.labelled Desired.uidLabel v := by
    intro v heq hv
    exact Inventory.mem_labelled.2 ⟨Inventory.mem_of_find? hold, heq ▸ hv⟩
  -- Whoever carries an identity of the new load balancer is the old one, as the identities were
  -- apart before, or is the one that is worked on.
  have hshared : ∀ {v}, new.labels.get? Desired.uidLabel = some v →
      ∀ y ∈ inv.labelled Desired.uidLabel v, y.id = new.id := by
    intro v hv y hy
    rcases hlabels with heq | ⟨hown, hgiven⟩
    · rw [← hid]
      exact hsame v y hy old (hbearer heq hv)
    · obtain rfl := Option.some.inj (hv.symm.trans hgiven)
      rw [hown]
      exact halone y hy
  refine ⟨⟨hplaced, (unambiguous_iff hplaced.ordered).2 fun v x hx y hy => ?_⟩, fun x hx => ?_⟩
  · rcases of_mem_labelled_replace ho hold hx with ⟨hxnew, hv⟩ | ⟨-, hxold⟩
    · rcases of_mem_labelled_replace ho hold hy with ⟨hynew, -⟩ | ⟨-, hyold⟩
      · rw [hxnew, hynew]
      · rw [hxnew, hshared hv y hyold]
    · rcases of_mem_labelled_replace ho hold hy with ⟨hynew, hv⟩ | ⟨-, hyold⟩
      · rw [hynew, hshared hv x hxold]
      · exact hsame v x hxold y hyold
  · rcases of_mem_labelled_replace ho hold hx with ⟨hxnew, hv⟩ | ⟨-, hxold⟩
    · rw [hxnew]
      rcases hlabels with heq | ⟨hown, -⟩
      · rw [← hid]
        exact halone old (hbearer heq hv)
      · exact hown
    · exact halone x hxold

/-! ### The calls of a pass -/

/-- Of the calls of a pass only the first step's touches the labels, and it gives the load balancer
the identity. -/
theorem PassCall.labels_or (hid : uid service = .ok id) (hc : PassCall service wishes own c)
    (hnew : c.revise? lb = some new) : new.labels = lb.labels ∨
      new.id = own.id ∧ new.labels.get? Desired.uidLabel = some id := by
  cases hc.revised hnew with
  | @identity uid name huid hname =>
    obtain rfl := Except.ok.inj (hid.symm.trans huid)
    have hlb : lb.id = own.id := by
      rcases hc.subject?_eq with hnone | hown
      · cases hnone.symm.trans (Cloud.subject?_of_revise? hnew)
      · exact Option.some.inj ((Cloud.subject?_of_revise? hnew).symm.trans hown)
    by_cases hlabel : own.labels.get? Desired.uidLabel = some id
    · left
      simp [Inventory.withChange, infoChange, hlabel]
    · right
      simp [Inventory.withChange, infoChange, hlabel, hlb]
  | algorithm | type | attachments | publicInterface | targets | services => exact .inl rfl

theorem PassCall.ne_create (h : PassCall service wishes own c) (o : NewLoadBalancer) :
    c ≠ .create o := by
  intro heq
  cases h with
  | attachment => cases heq
  | step h =>
    cases h with
    | @publicInterface on => cases on <;> cases heq
    | _ => cases heq

/-- The calls of a pass keep identities apart. -/
theorem Tended.done (hid : uid service = .ok id) (h : Tended id own.id inv)
    (hc : PassCall service wishes own c) (hd : Done inv c after) : Tended id own.id after := by
  have hplaced := h.placed.done hd
  cases hd with
  | lookup heq => exact heq ▸ h
  | @revision lb new n hlb hnew _ heq =>
    subst heq
    have hfound : inv.find? new.id = some lb := by rw [Cloud.id_of_revise? hnew, hlb]
    exact h.replace hfound (hc.labels_or hid hnew) hplaced
  | deletion _ heq =>
    subst heq
    exact ⟨⟨hplaced, h.unambiguous.remove _⟩, fun x hx => h.alone x (labelled_remove hx)⟩
  | creation hcreate _ => exact absurd hcreate (hc.ne_create _)

/-! ### Creating -/

/-- A load balancer is created for an identity that nobody carries. -/
theorem tended_withNewcomer {options : NewLoadBalancer} (h : Clear inv)
    (hnone : inv.labelled Desired.uidLabel id = [])
    (hlabels : options.labels = Labels.empty.insert Desired.uidLabel id) :
    Tended id (inv.lastId + 1) (withNewcomer inv options) := by
  have hcreation : Done inv (.create options) (withNewcomer inv options) := .creation rfl rfl
  have hplaced := h.placed.done hcreation
  have hsame := (unambiguous_iff h.placed.ordered).1 h.unambiguous
  have hcases : ∀ {v}, ∀ x ∈ (withNewcomer inv options).labelled Desired.uidLabel v,
      x.id = inv.lastId + 1 ∧ v = id ∨ x ∈ inv.labelled Desired.uidLabel v := by
    intro v x hx
    obtain ⟨hmem, hv⟩ := Inventory.mem_labelled.1 hx
    rcases Inventory.mem_place hmem with rfl | hmem
    · left
      change options.labels.get? Desired.uidLabel = some v at hv
      rw [hlabels, Labels.get?_insert_self] at hv
      exact ⟨rfl, (Option.some.inj hv).symm⟩
    · exact .inr (Inventory.mem_labelled.2 ⟨hmem, hv⟩)
  refine ⟨⟨hplaced, (unambiguous_iff hplaced.ordered).2 fun v x hx y hy => ?_⟩, fun x hx => ?_⟩
  · rcases hcases x hx with ⟨hxid, hv⟩ | hxold
    · rcases hcases y hy with ⟨hyid, -⟩ | hyold
      · rw [hxid, hyid]
      · rw [hv, hnone] at hyold
        cases hyold
    · rcases hcases y hy with ⟨-, hv⟩ | hyold
      · rw [hv, hnone] at hxold
        cases hxold
      · exact hsame v x hxold y hyold
  · rcases hcases x hx with ⟨hxid, -⟩ | hxold
    · exact hxid
    · rw [hnone] at hxold
      cases hxold

end BalancerSync.Engine
