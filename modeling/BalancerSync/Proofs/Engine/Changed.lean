import BalancerSync.Proofs.Engine.Pass
import BalancerSync.Proofs.Engine.Passes
import BalancerSync.Proofs.Engine.Requests

/-!
# Telling whether anything changed

Each step of a pass tells whether it changed anything, and so does the pass.  What they tell is
true: a step that ends well has asked for a change exactly if it says so.  This needs neither a load
balancer that is up to date nor a cloud without faults, for a step that ends well has carried out
its plan, and its result is whether that plan has any changes.

The result decides whether the load balancer is looked at again before its addresses are worked out.
So an operation that ends well looks once, after its last change, if the pass has asked for any
change, and not at all if it has not.

## Main Definitions

* `Concludes` — a pass and what is asked after it

## Main Results

* `planned_of_mem_steps` — the steps are put together from plans of changes
* `changed_iff_of_run` — the results of the steps and of a pass are true, and whole operations look
  at the load balancer again exactly if there was a change
-/

namespace BalancerSync.Engine

open Cloud (Call LoadBalancer Operation Plan Planned World Certificate)
open Cluster (Service Node)
open Desired (Balancer)

variable {certificates : List Certificate} {engine : Engine} {lb : LoadBalancer}
  {service : Service} {wishes : Balancer} {nodes : List Node} {w t after : World}

/-! ### Steps -/

/-- Each step is put together from a plan of changes. -/
theorem planned_of_mem_steps {step : Operation Bool}
    (h : step ∈ steps engine lb service wishes nodes) :
    ∃ plan, Planned certificates step (Plan.telling plan) ∧
      ∀ c ∈ plan.calls, c.isMutation = true := by
  have hnetwork : ∀ c ∈ detachCalls engine lb ++ attachCalls engine lb wishes,
      c.isMutation = true := concerns_networkPlan.isMutation
  obtain ⟨hdetach, hattach⟩ := List.forall_mem_append.1 hnetwork
  simp only [steps, List.mem_cons, List.not_mem_nil, or_false] at h
  rcases h with rfl | rfl | rfl | rfl | rfl | rfl | rfl | rfl
  · exact ⟨_, planned_reconcileInfo, concerns_identityPlan.isMutation⟩
  · exact ⟨_, planned_within_carryOut _ _, concerns_algorithmPlan.isMutation⟩
  · exact ⟨_, planned_within_carryOut _ _, concerns_typePlan.isMutation⟩
  · exact ⟨_, planned_within_carryOut _ _, hdetach⟩
  · exact ⟨_, planned_reconcileNetworkAttach, hattach⟩
  · exact ⟨_, planned_within_carryOut _ _, concerns_publicInterfacePlan.isMutation⟩
  · exact ⟨_, planned_reconcileTargets, concerns_targetsPlan.isMutation⟩
  · exact ⟨_, planned_reconcileServices, concerns_servicesPlan.isMutation⟩

/-- A pass tells whether it has asked for a change, and looks at no load balancer. -/
theorem exists_calls_of_run_reconcile {changed : Bool}
    (h : w.run (reconcile engine lb service wishes nodes) = (.ok changed, after)) :
    ∃ calls, after.log = w.log ++ calls ∧ (changed = true ↔ ∃ c ∈ calls, c.isMutation = true) ∧
      ∀ id, .getById id ∉ calls :=
  planned_reconcile.tells isMutation_of_mem_passPlan rfl h

/-! ### Looking again -/

theorem log_byId (w : World) (id : Int) : (w.run (byId id)).2.log = w.log ++ [.getById id] := by
  have hevents : w.events (byId id) = [.called (.getById id) (w.perform (.getById id)).1] := by
    rw [byId, World.events_within, Program.bind_eq, World.events_bind, World.events_call]
    split <;> rfl
  rw [World.log_run, hevents]
  rfl

/-- What is asked from `w` on, if a pass begins at `t` and ends well.  Before the pass and in it
nothing looks at a load balancer by its identifier.  After it there is one such look, at its own
load balancer, if the pass has asked for a change, and nothing otherwise. -/
def Concludes (engine : Engine) (lb : LoadBalancer) (service : Service) (wishes : Balancer)
    (nodes : List Node) (w t after : World) : Prop :=
  ∃ changed u before made, t.run (reconcile engine lb service wishes nodes) = (.ok changed, u) ∧
    t.log = w.log ++ before ∧ u.log = t.log ++ made ∧
    after.log = u.log ++ (if made.any Call.isMutation then [.getById lb.id] else []) ∧
    ∀ id, .getById id ∉ before ++ made

theorem concludes_of_run_converge {before : List Call} {final : LoadBalancer}
    (hbefore : t.log = w.log ++ before) (hnone : ∀ id, .getById id ∉ before)
    (h : t.run (converge engine lb service wishes nodes) = (.ok final, after)) :
    Concludes engine lb service wishes nodes w t after := by
  obtain ⟨changed, u, hpass, h⟩ := World.of_run_bind_eq_ok h
  obtain ⟨made, hmade, hchanged, hnone'⟩ := exists_calls_of_run_reconcile hpass
  refine ⟨changed, u, before, made, hpass, hbefore, hmade, ?_, fun id hid => ?_⟩
  · have hany : changed = made.any Call.isMutation := by
      rw [Bool.eq_iff_iff, hchanged, List.any_eq_true]
    rw [← hany]
    cases changed with
    | true =>
      have hlog := log_byId u lb.id
      rwa [show u.run (byId lb.id) = (.ok final, after) from h] at hlog
    | false =>
      obtain ⟨-, rfl⟩ := Prod.mk.inj h
      exact (List.append_nil _).symm
  · rcases List.mem_append.1 hid with hid | hid
    · exact hnone id hid
    · exact hnone' id hid

/-- Looking for a load balancer takes lookups only, and none of them by an identifier. -/
theorem consults_search (service : Service) (name : String) (w : World) :
    ∃ calls, (w.run (find service name).ifFound).2.log = w.log ++ calls ∧
      ∀ c ∈ calls, c.Consults := by
  have hasks : (find service name).Asks (Calls Call.Consults) :=
    asks_find_of service (fun _ => ⟨rfl, fun _ h => by cases h⟩) ⟨rfl, fun _ h => by cases h⟩
  exact World.exists_log_of_asks hasks.ifFound Cloud.consults_getAction w

/-- The beginning of a pass looks at no load balancer by its identifier. -/
theorem exists_log_start (engine : Engine) (service : Service) (wishes : Balancer) (w : World) :
    ∃ calls, (w.run (start engine service wishes)).2.log = w.log ++ calls ∧
      ∀ id, .getById id ∉ calls := by
  have hasks : (start engine service wishes).Asks (Calls fun c => ∀ id, c ≠ .getById id) := by
    have hfind : (find service wishes.name).Asks (Calls fun c => ∀ id, c ≠ .getById id) :=
      asks_find_of service (fun _ _ h => by cases h) fun _ h => by cases h
    refine hfind.ifFound.bind fun found => ?_
    cases found with
    | some lb => exact .ofExcept _
    | none => exact asks_create fun _ _ h => by cases h
  obtain ⟨calls, hlog, hcalls⟩ := World.exists_log_of_asks hasks (fun _ _ h => by cases h) w
  exact ⟨calls, hlog, fun id hid => hcalls _ hid id rfl⟩

/-! ### Whole operations -/

/-- A step or a pass that ends well tells whether it has asked for a change, whatever the load
balancer is that it goes by and whatever goes wrong.  Therefore, if bringing a load balancer into
being or up to date ends well, the load balancer is looked at once more after the last change if the
pass has asked for any, and not looked at if it has not. -/
theorem changed_iff_of_run (engine : Engine) (service : Service) (nodes : List Node) (w : World) :
    (∀ (lb : LoadBalancer) (wishes : Balancer),
      ∀ step ∈ reconcile engine lb service wishes nodes :: steps engine lb service wishes nodes,
        ∀ changed after, w.run step = (.ok changed, after) →
          ∃ calls, after.log = w.log ++ calls ∧
            (changed = true ↔ ∃ c ∈ calls, c.isMutation = true)) ∧
    (∀ addresses after, w.run (ensure engine service nodes) = (.ok addresses, after) →
      ∃ wishes lb t, engine.wishes service = .ok wishes ∧
        w.run (start engine service wishes) = (.ok lb, t) ∧
        Concludes engine lb service wishes nodes w t after) ∧
    ∀ after, w.run (update engine service nodes) = (.ok (), after) →
      ∃ wishes found t, engine.wishes service = .ok wishes ∧
        w.run (find service wishes.name).ifFound = (.ok found, t) ∧
        match found with
        | some lb => Concludes engine lb service wishes nodes w t after
        | none => ∃ calls, after.log = w.log ++ calls ∧ ∀ c ∈ calls, c.Consults := by
  refine ⟨fun lb wishes step hstep changed after h => ?_, fun addresses after h => ?_,
    fun after h => ?_⟩
  -- A step tells of the changes in its plan, and so does the pass that consists of them.
  · have hplanned : ∃ plan, Planned w.inventory.certificates step (Plan.telling plan) ∧
        ∀ c ∈ plan.calls, c.isMutation = true := by
      rcases List.mem_cons.1 hstep with rfl | hstep
      · exact ⟨_, planned_reconcile, isMutation_of_mem_passPlan⟩
      · exact planned_of_mem_steps hstep
    obtain ⟨plan, hplan, hchanges⟩ := hplanned
    obtain ⟨calls, hlog, htold, -⟩ := hplan.tells hchanges rfl h
    exact ⟨calls, hlog, htold⟩
  · rw [ensure_eq] at h
    obtain ⟨wishes, u, hread, h⟩ := World.of_run_bind_eq_ok (World.of_run_within_eq_ok h)
    obtain ⟨hwishes, rfl⟩ := Prod.mk.inj hread
    obtain ⟨lb, t, hstart, h⟩ := World.of_run_bind_eq_ok h
    obtain ⟨final, v, hconverge, h⟩ := World.of_run_bind_eq_ok h
    obtain ⟨-, rfl⟩ := Prod.mk.inj h
    -- Whatever comes before the pass reloads nothing, so all reloads in the log are those of the
    -- pass.
    obtain ⟨before, hbefore, hnone⟩ := exists_log_start engine service wishes w
    rw [hstart] at hbefore
    exact ⟨wishes, lb, t, hwishes, hstart, concludes_of_run_converge hbefore hnone hconverge⟩
  · obtain ⟨wishes, u, hread, h⟩ := World.of_run_bind_eq_ok (World.of_run_within_eq_ok h)
    obtain ⟨hwishes, rfl⟩ := Prod.mk.inj hread
    obtain ⟨found, t, hfound, h⟩ := World.of_run_bind_eq_ok h
    obtain ⟨calls, hlog, hcalls⟩ := consults_search service wishes.name w
    rw [hfound] at hlog
    refine ⟨wishes, found, t, hwishes, hfound, ?_⟩
    cases found with
    | none =>
      obtain ⟨-, rfl⟩ := Prod.mk.inj h
      exact ⟨calls, hlog, hcalls⟩
    | some lb =>
      obtain ⟨final, v, hconverge, h⟩ := World.of_run_bind_eq_ok h
      obtain ⟨-, rfl⟩ := Prod.mk.inj h
      exact concludes_of_run_converge hlog (fun id hid => (hcalls _ hid).2 id rfl) hconverge

theorem changed_iff_of_run_sample :
    (∃ after calls, Sample.world.run (reconcileServices Sample.handmade Sample.service) =
        (.ok true, after) ∧
      after.log = Sample.world.log ++ calls ∧ ∃ c ∈ calls, c.isMutation = true) ∧
    (∃ addresses after wishes lb t, Sample.world.run
          (ensure Sample.engine Sample.service Sample.nodes) = (.ok addresses, after) ∧
        Concludes Sample.engine lb Sample.service wishes Sample.nodes Sample.world t after) ∧
    ∃ (after : World) (wishes : Balancer) (found : Option LoadBalancer) (t : World),
      Sample.world.run (update Sample.engine Sample.service Sample.nodes) = (.ok (), after) ∧
        Sample.world.run (find Sample.service wishes.name).ifFound = (.ok found, t) ∧
        match found with
        | some lb => Concludes Sample.engine lb Sample.service wishes Sample.nodes Sample.world t after
        | none => ∃ calls, after.log = Sample.world.log ++ calls ∧ ∀ c ∈ calls, c.Consults := by
  obtain ⟨hsteps, hensure, hupdate⟩ :=
    changed_iff_of_run Sample.engine Sample.service Sample.nodes Sample.world
  have hensured : (Sample.world.run (ensure Sample.engine Sample.service Sample.nodes)).1 =
      .ok [.ofIp "203.0.113.4", .ofIp "10.0.0.6"] := by decide +kernel
  have hupdated : (Sample.world.run (update Sample.engine Sample.service Sample.nodes)).1 =
      .ok () := by decide +kernel
  have hstep : (Sample.world.run (reconcileServices Sample.handmade Sample.service)).1 =
      .ok true := by decide +kernel
  obtain ⟨wishes, lb, t, -, -, hconcludes⟩ := hensure _ _ (Prod.ext hensured rfl)
  obtain ⟨wishes', found, u, -, hfound⟩ := hupdate _ (Prod.ext hupdated rfl)
  obtain ⟨calls, hlog, htold⟩ := hsteps Sample.handmade wishes
    (reconcileServices Sample.handmade Sample.service) (by simp [steps]) _ _ (Prod.ext hstep rfl)
  exact ⟨⟨_, calls, Prod.ext hstep rfl, hlog, htold.1 rfl⟩,
    ⟨_, _, wishes, lb, t, Prod.ext hensured rfl, hconcludes⟩,
    _, wishes', found, u, Prod.ext hupdated rfl, hfound⟩

end BalancerSync.Engine
