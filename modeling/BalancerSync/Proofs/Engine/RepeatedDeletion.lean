import BalancerSync.Proofs.Cloud.Events
import BalancerSync.Proofs.Engine.GuardedDeletion

/-!
# Deleting once more

A deletion is repeated whenever what comes after it fails.  By then the load balancer that carried
the identity is gone, and the search goes on to the name.  So the second deletion is not about the
load balancer of the first one any more, and what it does depends on the load balancers that are
left: if one of them has the name of the Service, it is taken for the Service's own.

## Main Results

* `unlabelled_of_run` — after a deletion nobody carries the identity
* `repeated_deletion` — what a repeated deletion does
* `repeated_deletion_takes_namesake` — it can delete a second load balancer
-/

namespace BalancerSync.Cloud.World

variable {α : Type} {p : Operation α} {w : World} {calls : List Call} {c : Call}

/-- What a run adds to the log it has asked for, or polled for while it waited. -/
theorem exists_moment_of_mem_log (hlog : (w.run p).2.log = w.log ++ calls) (hc : c ∈ calls) :
    (∃ m ∈ p.moments handle w, m.request.call? = some c) ∨ ∃ id, c = .getAction id := by
  obtain rfl := List.append_cancel_left ((log_run w p).symm.trans hlog)
  obtain ⟨event, hevent, hreceived⟩ := List.mem_filterMap.1 hc
  obtain ⟨m, hm, hobserved⟩ := List.mem_flatMap.1 hevent
  obtain ⟨added, hadded, hcalls⟩ := (handled m.before m.request).log
  obtain rfl := List.append_cancel_left ((log_handle m.before m.request).symm.trans hadded)
  exact (hcalls c (List.mem_filterMap.2 ⟨event, hobserved, hreceived⟩)).imp_left
    fun hrequest => ⟨m, hm, hrequest⟩

end BalancerSync.Cloud.World

namespace BalancerSync.Engine

open Cloud (Call LoadBalancer World)
open Cluster (Service)

section

variable {engine : Engine} {service : Service} {w t : World} {calls : List Call} {n : Int}

/-- A deletion that has asked for one has found a load balancer that is not protected. -/
theorem found_of_delete_mem (hrun : (w.run (engine.ensureDeleted service)).2 = t)
    (hlog : t.log = w.log ++ calls) (hdelete : .delete n ∈ calls) :
    ∃ name own u, engine.balancerName service = .ok name ∧
      w.run (find service name) = (.ok own, u) ∧ own.deleteProtection = false := by
  rw [← hrun] at hlog
  -- A wait leaves nothing but polls in the log, so the deletion was asked for.
  obtain ⟨m, hm, hrequest⟩ := (World.exists_moment_of_mem_log hlog hdelete).resolve_right nofun
  have hmem : m ∈ deletions World.handle (engine.ensureDeleted service) w :=
    List.mem_filter.2 ⟨hm, by simp [hrequest, Call.isDeletion]⟩
  have hdeletes : Deletes engine World.handle w (.delete service)
      (deletions World.handle (engine.ensureDeleted service) w) := deletes_delete service
  generalize deletions World.handle (engine.ensureDeleted service) w = moments at hmem hdeletes
  cases hdeletes with
  | nothing => cases hmem
  | @found _ name own u hname hfind hfree => exact ⟨name, own, u, hname, hfind, hfree⟩

/-- After a deletion that has deleted something, nobody carries the identity. -/
theorem unlabelled_of_run (hcandid : w.Candid (engine.ensureDeleted service))
    (hrun : w.run (engine.ensureDeleted service) = (.ok (), t))
    (hlog : t.log = w.log ++ calls) (hdelete : .delete n ∈ calls) :
    ∃ id, uid service = .ok id ∧ t.inventory.labelled Desired.uidLabel id = [] := by
  obtain ⟨name, own, u, hname, hfind, hfree⟩ :=
    found_of_delete_mem (congrArg Prod.snd hrun) hlog hdelete
  obtain ⟨id, name', found, hid, hname', hfound, hsought, hinv⟩ := left_of_run hcandid hrun
  obtain rfl := Except.ok.inj (hname.symm.trans hname')
  rw [World.run_ifFound, hfind] at hfound
  obtain rfl : some own = found := Except.ok.inj hfound
  refine ⟨id, hid, ?_⟩
  rw [hinv, deleted, if_neg (by simp [hfree])]
  exact unlabelled_remove hsought

/-- A deletion that ended well after it had deleted something ends well again, and changes nothing
unless a load balancer is left that has the name of the Service.  Then it deletes the first of
these, if that is not protected, and nothing else. -/
theorem repeated_deletion (hcandid : w.Candid (engine.ensureDeleted service))
    (hrun : w.run (engine.ensureDeleted service) = (.ok (), t))
    (hlog : t.log = w.log ++ calls) (hdelete : .delete n ∈ calls) :
    ∃ name u again, engine.balancerName service = .ok name ∧
      t.calmed.run (engine.ensureDeleted service) = (.ok (), u) ∧ u.log = t.log ++ again ∧
      again.filter Call.isMutation =
        deletionCalls (t.inventory.loadBalancers.find? fun lb => lb.name == name) := by
  obtain ⟨id, hid, hunlabelled⟩ := unlabelled_of_run hcandid hrun hlog hdelete
  obtain ⟨-, name, -, -, hname, -⟩ := left_of_run hcandid hrun
  -- With nobody carrying the identity, what is sought is what has the name.
  obtain ⟨u, hagain, ⟨-, again, hlog', hchanges, -⟩, -⟩ := run_ensureDeleted (w := t.calmed)
    (World.calm_calmed t) hid hname (sought_of_unlabelled hunlabelled)
  exact ⟨name, u, again, hname, hagain, hlog', hchanges⟩

end

namespace Sample

/-- The cloud once the load balancer of the Service is deleted. -/
def cleared : World := (shadowed.run (engine.ensureDeleted service)).2

end Sample

theorem repeated_deletion_sample :
    Sample.shadowed.run (Sample.engine.ensureDeleted Sample.service) = (.ok (), Sample.cleared) ∧
    ∃ u again, Sample.cleared.calmed.run (Sample.engine.ensureDeleted Sample.service) =
      (.ok (), u) ∧ u.log = Sample.cleared.log ++ again ∧
      again.filter Call.isMutation = [.delete 4] := by
  have hcandid := World.candid_of_calm (w := Sample.shadowed) rfl
    (Sample.engine.ensureDeleted Sample.service)
  have hresult : (Sample.shadowed.run (Sample.engine.ensureDeleted Sample.service)).1 = .ok () := by
    decide +kernel
  have hrun : Sample.shadowed.run (Sample.engine.ensureDeleted Sample.service) =
      (.ok (), Sample.cleared) := Prod.ext hresult rfl
  have hlog : Sample.cleared.log =
      Sample.shadowed.log ++ [.listByLabel (uidSelector "u1"), .delete 3] := by decide +kernel
  obtain ⟨name, u, again, hname, hagain, hlog', hchanges⟩ :=
    repeated_deletion (n := 3) hcandid hrun hlog (by simp)
  have hshop : Sample.engine.balancerName Sample.service = .ok "shop-web" := by decide +kernel
  obtain rfl : "shop-web" = name := Except.ok.inj (hshop.symm.trans hname)
  have hleft : (Sample.cleared.inventory.loadBalancers.find? fun lb => lb.name == "shop-web") =
      some Sample.handmade := by decide +kernel
  rw [hleft] at hchanges
  exact ⟨hrun, u, again, hagain, hlog', hchanges⟩

/-- A repeated deletion can delete a load balancer that the Service has nothing to do with. -/
theorem repeated_deletion_takes_namesake :
    Sample.shadowed.Calm ∧
    Sample.shadowed.run (Sample.engine.ensureDeleted Sample.service) = (.ok (), Sample.cleared) ∧
    Sample.cleared.log = [.listByLabel (uidSelector "u1"), .delete 3] ∧
    (Sample.cleared.run (Sample.engine.ensureDeleted Sample.service)).2.log = Sample.cleared.log ++
      [.listByLabel (uidSelector "u1"), .getByName "shop-web", .delete 4] := by
  refine ⟨rfl, Prod.ext ?_ rfl, ?_, ?_⟩ <;> decide +kernel

end BalancerSync.Engine
