import BalancerSync.Proofs.Engine.Deletion
import BalancerSync.Proofs.Engine.Uniqueness

/-!
# What is deleted, and what that leaves

Two things can go wrong with a deletion: it takes too much, or it leaves something behind and says
nothing.

That it never takes too much does not depend on the cloud.  It can be read off the commands: only
one of them deletes, it does so once, and it names what its search was answered with.  So that half
is stated for all handlers, whatever state they keep and however they answer.

That nothing is left behind does depend on the cloud, for a deletion passes over three answers that
say that something is not there.  Where none of them is a lie, the end of a deletion is decided by
what was there.  Nothing has to be assumed about how often the identity is carried: where it is
carried twice, the search fails.

## Main Definitions

* `deletions` — the moments of a run at which something is deleted
* `Deletes` — what a command may delete

## Main Results

* `deletes_command` — no command deletes more than that
* `left_of_run` — what a deletion that ends well leaves
* `guarded_deletion` — both halves
-/

namespace BalancerSync.Cloud

/-- Whether a call deletes a load balancer. -/
def Call.isDeletion : Call → Bool
  | .delete _ => true
  | _ => false

theorem Call.isDeletion_of_lookup {c : Call} (h : c.isMutation = false) : c.isDeletion = false := by
  cases c with
  | delete => cases h
  | _ => rfl

end BalancerSync.Cloud

namespace BalancerSync.Engine

open Cloud (Call LoadBalancer World Operation)
open Cluster (Service Node)
open Desired (Balancer)
open Program (Asks Handler Moment)

section

variable {σ α β : Type} {handle : Handler Cloud.effect σ} {s : σ} {engine : Engine}
  {service : Service} {own : LoadBalancer} {w t : World}

/-! ### Deletions -/

/-- The moments of a run at which something is deleted. -/
def deletions (handle : Handler Cloud.effect σ) (p : Operation α) (s : σ) :
    List (Moment Cloud.effect σ) :=
  (p.moments handle s).filter fun m => m.request.call?.any Call.isDeletion

/-- What asks for no deletion deletes nothing. -/
theorem deletions_eq_nil {p : Operation α} (h : p.Asks (Calls fun c => c.isDeletion = false)) :
    deletions handle p s = [] := by
  refine List.filter_eq_nil_iff.2 fun m hm hdeletes => ?_
  obtain ⟨hq, -, -⟩ := h.moments (I := fun _ => True) (fun _ _ _ _ => trivial) trivial m hm
  cases hc : m.request.call? with
  | none => simp [hc] at hdeletes
  | some c => simp [hc, hq c hc] at hdeletes

theorem deletions_within (handle : Handler Cloud.effect σ) (operation : String) (p : Operation α)
    (s : σ) : deletions handle (p.within operation) s = deletions handle p s := by
  rw [deletions, Program.moments_within, deletions]

/-- After a part that deletes nothing the deletions are those of the rest. -/
theorem deletions_bind {p : Operation α} {f : α → Operation β}
    (h : p.Asks (Calls fun c => c.isDeletion = false)) :
    deletions handle (p.bind f) s = match p.run handle s with
      | (.ok a, t) => deletions handle (f a) t
      | (.error _, _) => [] := by
  rw [deletions, Program.moments_bind, List.filter_append, ← deletions, deletions_eq_nil h,
    List.nil_append]
  rcases p.run handle s with ⟨_ | _, _⟩ <;> rfl

/-- Before a part that deletes nothing they are those of what comes before. -/
theorem deletions_bind_of_rest {p : Operation α} {f : α → Operation β}
    (h : ∀ a, (f a).Asks (Calls fun c => c.isDeletion = false)) :
    deletions handle (p.bind f) s = deletions handle p s := by
  rw [deletions, Program.moments_bind, List.filter_append, ← deletions]
  rcases p.run handle s with ⟨e | a, t⟩
  · exact List.append_nil _
  · rw [← deletions, deletions_eq_nil (h a), List.append_nil]

theorem PassCall.isDeletion_eq_false {wishes : Balancer} {c : Call}
    (h : PassCall service wishes own c) : c.isDeletion = false := by
  cases h with
  | attachment => rfl
  | step h =>
    cases h with
    | @publicInterface on => cases on <;> rfl
    | _ => rfl

/-! ### Commands -/

/-- What a command deletes: nothing, or what the search of a deletion was answered with, unless that
is protected. -/
inductive Deletes (engine : Engine) (handle : Handler Cloud.effect σ) (s : σ) :
    Command → List (Moment Cloud.effect σ) → Prop where
  | nothing (command : Command) : Deletes engine handle s command []
  | found {service : Service} {name : String} {own : LoadBalancer} {t : σ} :
    engine.balancerName service = .ok name → (find service name).run handle s = (.ok own, t) →
    own.deleteProtection = false →
    Deletes engine handle s (.delete service) [⟨t, .call (.delete own.id)⟩]

/-- What is found is deleted once, unless it is protected. -/
theorem deletions_deleteFound (own : LoadBalancer) : deletions handle (deleteFound (some own)) s =
    if own.deleteProtection then [] else [⟨s, .call (.delete own.id)⟩] := by
  rw [deleteFound]
  by_cases hprotection : own.deleteProtection = true
  · rw [if_pos hprotection, if_pos hprotection]
    rfl
  · have hrest : ∀ _ : Option Unit,
        (pure () : Operation Unit).Asks (Calls fun c => c.isDeletion = false) :=
      fun _ => Asks.done _
    rw [if_neg hprotection, if_neg hprotection, Program.bind_eq, deletions_bind_of_rest hrest,
      deletions, Program.moments_ifFound]
    rfl

theorem deletes_delete (service : Service) :
    Deletes engine handle s (.delete service)
      (deletions handle (engine.ensureDeleted service) s) := by
  cases hname : engine.balancerName service with
  | error e =>
    rw [ensureDeleted, hname]
    exact .nothing _
  | ok name =>
    -- Searching deletes nothing, so what is deleted is decided by what was found.
    rw [ensureDeleted_eq hname, deletions_within,
      deletions_bind (asks_search Call.isDeletion_of_lookup service name)]
    cases hfind : (find service name).ifFound.run handle s with
    | mk r t =>
      rcases r with e | _ | own
      · exact .nothing _
      · exact .nothing _
      · simp only [deletions_deleteFound]
        by_cases hprotection : own.deleteProtection = true
        · rw [if_pos hprotection]
          exact .nothing _
        · rw [if_neg hprotection]
          exact .found hname (Program.of_run_ifFound_eq_some hfind) (by simpa using hprotection)

/-- No command deletes more than that. -/
theorem deletes_command (command : Command) :
    Deletes engine handle s command (deletions handle (command.program engine) s) := by
  have hnothing : ∀ command : Command,
      (command.program engine).Asks (Calls fun c => c.isDeletion = false) →
      Deletes engine handle s command (deletions handle (command.program engine) s) := by
    intro command hasks
    rw [deletions_eq_nil hasks]
    exact .nothing command
  cases command with
  | ensure service nodes =>
    exact hnothing (.ensure service nodes) (asks_ensure Call.isDeletion_of_lookup
      PassCall.isDeletion_eq_false (fun _ => rfl) engine nodes)
  | update service nodes =>
    exact hnothing (.update service nodes) (asks_update Call.isDeletion_of_lookup
      PassCall.isDeletion_eq_false engine nodes)
  | delete service => exact deletes_delete service
  | status service =>
    exact hnothing (.status service) (asks_status Call.isDeletion_of_lookup engine service)

/-! ### What is left -/

/-- A deletion that ends well and was denied nothing has deleted what its search has found, unless
that is protected. -/
theorem left_of_run (hcandid : w.Candid (engine.ensureDeleted service))
    (hrun : w.run (engine.ensureDeleted service) = (.ok (), t)) :
    ∃ id name found, uid service = .ok id ∧ engine.balancerName service = .ok name ∧
      (w.run (find service name).ifFound).1 = .ok found ∧
      sought w.inventory id name = .ok found ∧ t.inventory = deleted w.inventory found := by
  cases hname : engine.balancerName service with
  | error e =>
    rw [ensureDeleted, hname] at hrun
    cases hrun
  | ok name =>
    cases hid : uid service with
    | error e =>
      rw [ensureDeleted_eq hname, World.run_within, World.run_bind,
        run_find_of_uid_error name hid] at hrun
      cases hrun
    | ok id =>
      obtain ⟨found, hsought, hinv⟩ :=
        hcandid.run (safe_deletion hid hname) (congrArg Prod.fst hrun)
      rw [hrun] at hinv
      refine ⟨id, name, found, rfl, rfl, ?_, hsought, hinv⟩
      -- The search is a part of the deletion, so it was denied nothing either.
      rw [ensureDeleted_eq hname] at hcandid hrun
      obtain ⟨found', u, hfind, -⟩ := World.of_run_bind_eq_ok (World.of_run_within_eq_ok hrun)
      obtain ⟨-, hfound | ⟨e, he, -⟩⟩ := hcandid.of_within.of_bind.run (safe_find hid name)
      · exact hfound.trans hsought
      · rw [hfind] at he
        cases he

end

/-- No command deletes more than what the search of a deletion has found, whatever goes wrong; and a
deletion that ends well and was denied nothing leaves the identity of the Service to no load
balancer that could have been deleted, and all other load balancers as they were. -/
theorem guarded_deletion (engine : Engine) :
    (∀ {σ : Type} (handle : Handler Cloud.effect σ) (s : σ) (command : Command),
      Deletes engine handle s command (deletions handle (command.program engine) s)) ∧
    ∀ (service : Service) (w t : World), w.Candid (engine.ensureDeleted service) →
      w.run (engine.ensureDeleted service) = (.ok (), t) →
      ∃ id name found, uid service = .ok id ∧ engine.balancerName service = .ok name ∧
        (w.run (find service name).ifFound).1 = .ok found ∧
        (∀ lb ∈ t.inventory.labelled Desired.uidLabel id, lb.deleteProtection = true) ∧
        ∀ lb, (∀ own, found = some own → lb.id ≠ own.id) →
          (lb ∈ t.inventory.loadBalancers ↔ lb ∈ w.inventory.loadBalancers) := by
  refine ⟨fun _ _ command => deletes_command command, fun service w t hcandid hrun => ?_⟩
  obtain ⟨id, name, found, hid, hname, hfound, hsought, hinv⟩ := left_of_run hcandid hrun
  refine ⟨id, name, found, hid, hname, hfound, ?_, ?_⟩
  · rw [hinv]
    exact fun lb => protected_of_labelled_deleted hsought
  · rw [hinv]
    exact fun lb hother => mem_deleted_of_other hother

namespace Sample

/-- The load balancer of the Service under another name. -/
def edge : LoadBalancer :=
  { handmade with id := 3, name := "edge", labels := Labels.empty.insert Desired.uidLabel "u1" }

/-- A cloud in which the Service has a load balancer, and somebody has made another one with the
name that the Service asks for. -/
def shadowed : World := .ofInventory ⟨[edge, handmade], [], [], 4⟩ (.ofMillis 500)

end Sample

theorem guarded_deletion_sample : ∃ t,
    Sample.shadowed.Candid (Sample.engine.ensureDeleted Sample.service) ∧
    Sample.shadowed.run (Sample.engine.ensureDeleted Sample.service) = (.ok (), t) ∧
    Deletes Sample.engine World.handle Sample.shadowed (.delete Sample.service)
      (deletions World.handle (Sample.engine.ensureDeleted Sample.service) Sample.shadowed) ∧
    (∀ lb ∈ t.inventory.labelled Desired.uidLabel "u1", lb.deleteProtection = true) ∧
    Sample.handmade ∈ t.inventory.loadBalancers := by
  have hcalm : Sample.shadowed.Calm := rfl
  have hcandid := World.candid_of_calm hcalm (Sample.engine.ensureDeleted Sample.service)
  cases hrun : Sample.shadowed.run (Sample.engine.ensureDeleted Sample.service) with
  | mk r t =>
    have hr : (Sample.shadowed.run (Sample.engine.ensureDeleted Sample.service)).1 = .ok () := by
      decide +kernel
    obtain rfl : r = .ok () := by rw [← hr, hrun]
    obtain ⟨hdeletes, hleft⟩ := guarded_deletion Sample.engine
    obtain ⟨id, name, found, hid, hname, hfound, hprotected, hothers⟩ :=
      hleft Sample.service Sample.shadowed t hcandid hrun
    obtain rfl : "u1" = id := Except.ok.inj hid
    refine ⟨t, hcandid, rfl, hdeletes World.handle _ (.delete Sample.service), hprotected, ?_⟩
    have hedge : (Sample.shadowed.run (find Sample.service "shop-web").ifFound).1 =
        .ok (some Sample.edge) := by
      decide +kernel
    have hshop : Sample.engine.balancerName Sample.service = .ok "shop-web" := by decide +kernel
    obtain rfl : "shop-web" = name := Except.ok.inj (hshop.symm.trans hname)
    obtain rfl : some Sample.edge = found := Except.ok.inj (hedge.symm.trans hfound)
    refine (hothers Sample.handmade fun own hown => ?_).2 (by simp [Sample.shadowed, World.ofInventory])
    rw [← Option.some.inj hown]
    decide

end BalancerSync.Engine
