import BalancerSync.Proofs.Engine.Ensure

/-!
# What passes achieve

The control loop gives a Service one pass after the other.  A pass that ends with a result has made
the load balancer what the Service wants; another pass then finds nothing to do; and a pass that was
cut short, however, is made up for by the next one.

None of this depends on where the load balancer comes from: it is found by its label, taken over by
its name, or created.  The one thing that a script must not do is to deny what is there
(`Honest`), for then a second load balancer would be created or taken over.

## Main Results

* `settled_of_run_ensure` — a pass with a result leaves a settled load balancer, and only one
* `run_ensure_again` — another pass makes lookups only and has the same result
* `run_ensure_heals` — a disturbed pass and an undisturbed one come to the same as the latter alone
-/

namespace BalancerSync.Engine

open Cloud (LoadBalancer Inventory World)
open Cluster (Service Node)

/-! ### A small cloud -/

namespace Sample

def engine : Engine := ⟨some 9, { Config.Defaults.none with location := some "nbg1" }, .ofSeconds 1⟩

/-- A Service with one port. -/
def serviceNamed (space name uid : String) : Service where
  metadata := { Cluster.Metadata.empty with
    name := some name, «namespace» := some space, uid := some uid }
  type := some "LoadBalancer"
  ports := [⟨80, some 30080⟩]
  ingress := []

def service : Service := serviceNamed "shop" "web" "u1"

def nodes : List Node :=
  [⟨{ Cluster.Metadata.empty with name := some "worker" }, some "hcloud://101"⟩]

/-- A load balancer that somebody made by hand, with the name that the Service asks for. -/
def handmade : LoadBalancer where
  id := 4
  name := "shop-web"
  labels := .empty
  algorithm := .roundRobin
  type := "lb11"
  location := "nbg1"
  networkZone := "eu-central"
  publicInterface := ⟨true, some ⟨203, 0, 113, 4⟩, none⟩
  attachments := [⟨7, ⟨10, 1, 0, 2⟩⟩]
  services := [⟨.tcp, 443, 30443, false, none, .implicit 30443⟩]
  targets := [⟨55, false⟩]
  deleteProtection := false

def world : World := .ofInventory ⟨[handmade], [], [⟨9, "private"⟩], 4⟩ (.ofMillis 500)

theorem wellFormed_world : world.inventory.WellFormed where
  ascending := .cons (fun _ h => by cases h) .nil
  known lb h := by
    rw [List.mem_singleton.1 h]
    decide
  targets lb h := by
    rw [List.mem_singleton.1 h]
    decide
  listenPorts lb h := by
    rw [List.mem_singleton.1 h]
    decide

/-- The addition of a port takes its time, and asking for it fails. -/
def disturbed : World :=
  { world with script :=
    ⟨[], [("add_service", ⟨.running, 0, none⟩)], [.refuse .rateLimitExceeded], []⟩ }

end Sample

variable {engine : Engine} {service : Service} {nodes : List Node} {w after : World}
  {addresses : List Cluster.Ingress}

/-! ### Convergence -/

/-- A pass with a result leaves exactly one load balancer that carries the identity of the Service,
and it is what the Service wants. -/
theorem settled_of_run_ensure (hinv : w.inventory.WellFormed) (hw : Honest w)
    (h : w.run (ensure engine service nodes) = (.ok addresses, after)) :
    ∃ id lb, uid service = .ok id ∧ after.inventory.labelled Desired.uidLabel id = [lb] ∧
      Settled engine service nodes after.calmed lb := by
  obtain ⟨wishes, id, lb, hresting, -⟩ := resting_of_run_ensure hinv.sound hw h
  have hrest : Resting engine service nodes wishes id lb after.calmed.inventory := hresting
  exact ⟨id, lb, hresting.identity, hresting.labelled, hrest.settled after.calm_calmed⟩

theorem settled_of_run_ensure_sample :
    Sample.world.inventory.WellFormed ∧ Honest Sample.world ∧
    ∃ after, Sample.world.run (ensure Sample.engine Sample.service Sample.nodes) =
        (.ok [.ofIp "203.0.113.4", .ofIp "10.0.0.6"], after) ∧
      ∃ id lb, uid Sample.service = .ok id ∧
        after.inventory.labelled Desired.uidLabel id = [lb] ∧
        Settled Sample.engine Sample.service Sample.nodes after.calmed lb := by
  have hhonest : Honest Sample.world := honest_of_calm rfl
  have hresult : (Sample.world.run (ensure Sample.engine Sample.service Sample.nodes)).1 =
      .ok [.ofIp "203.0.113.4", .ofIp "10.0.0.6"] := by decide +kernel
  refine ⟨Sample.wellFormed_world, hhonest, _, Prod.ext hresult rfl, ?_⟩
  exact settled_of_run_ensure Sample.wellFormed_world hhonest (Prod.ext hresult rfl)

/-! ### Idempotence -/

/-- After a pass with a result another pass has the same result and leaves the load balancers as
they are.  It makes no changes and does not look its load balancer up a second time.  The status is
the same too, for the addresses are those of the load balancer as it is stored. -/
theorem run_ensure_again (hinv : w.inventory.WellFormed) (hw : Honest w)
    (h : w.run (ensure engine service nodes) = (.ok addresses, after)) :
    ∃ again, after.calmed.run (ensure engine service nodes) = (.ok addresses, again) ∧
      again.inventory.loadBalancers = after.inventory.loadBalancers ∧
      (∃ calls, again.log = after.log ++ calls ∧
        ∀ c ∈ calls, c.isMutation = false ∧ ∀ id, c ≠ .getById id) ∧
      (after.calmed.run (status engine service)).1 = .ok (addresses, true) ∧
      ∃ wishes, engine.wishes service = .ok wishes ∧
        ∃ lb ∈ after.inventory.loadBalancers, addresses = ingress lb wishes := by
  obtain ⟨wishes, id, lb, hresting, rfl⟩ := resting_of_run_ensure hinv.sound hw h
  have hrest : Resting engine service nodes wishes id lb after.calmed.inventory := hresting
  have hcalm : after.calmed.Calm := after.calm_calmed
  have hend : (_, _) = passEnd engine service nodes after.calmed.inventory :=
    run_ensure_of_calm hcalm hrest.sound
  rw [hrest.passEnd_eq] at hend
  obtain ⟨hresult, hloadBalancers⟩ := Prod.mk.inj hend
  obtain ⟨-, calls, hlog, hchanges, hlookups⟩ := hrest.adds_run_ensure hcalm
  refine ⟨_, Prod.ext hresult rfl, hloadBalancers, ⟨calls, hlog, fun c hc => ⟨?_, ?_⟩⟩,
    hrest.run_status hcalm, wishes, hrest.wanted, lb, hrest.mem, rfl⟩
  · simpa using List.filter_eq_nil_iff.1 hchanges c hc
  · rintro n rfl
    exact hlookups n hc

theorem run_ensure_again_sample :
    Sample.world.inventory.WellFormed ∧ Honest Sample.world ∧
    ∃ after again, Sample.world.run (ensure Sample.engine Sample.service Sample.nodes) =
        (.ok [.ofIp "203.0.113.4", .ofIp "10.0.0.6"], after) ∧
      after.calmed.run (ensure Sample.engine Sample.service Sample.nodes) =
        (.ok [.ofIp "203.0.113.4", .ofIp "10.0.0.6"], again) ∧
      again.inventory.loadBalancers = after.inventory.loadBalancers := by
  have hhonest : Honest Sample.world := honest_of_calm rfl
  have hresult : (Sample.world.run (ensure Sample.engine Sample.service Sample.nodes)).1 =
      .ok [.ofIp "203.0.113.4", .ofIp "10.0.0.6"] := by decide +kernel
  obtain ⟨again, hagain, hloadBalancers, -⟩ :=
    run_ensure_again Sample.wellFormed_world hhonest (Prod.ext hresult rfl)
  exact ⟨Sample.wellFormed_world, hhonest, _, again, Prod.ext hresult rfl, hagain, hloadBalancers⟩

/-! ### Recovery -/

/-- Whatever became of a pass, the next undisturbed one has the result and leaves the load balancers
that a single undisturbed pass would have. -/
theorem run_ensure_heals (hinv : w.inventory.WellFormed) (hw : Honest w) :
    ((w.run (ensure engine service nodes)).2.calmed.run (ensure engine service nodes)).1 =
        (w.calmed.run (ensure engine service nodes)).1 ∧
      ((w.run (ensure engine service nodes)).2.calmed.run
          (ensure engine service nodes)).2.inventory.loadBalancers =
        (w.calmed.run (ensure engine service nodes)).2.inventory.loadBalancers := by
  obtain ⟨hpartway, -⟩ : Passed engine service nodes w (w.run (ensure engine service nodes)) :=
    passed hw hinv.sound
  have hsound := World.sound_run w (ensure engine service nodes) hinv.sound
  generalize (w.run (ensure engine service nodes)).2 = after at hpartway hsound
  -- Both undisturbed passes come to `passEnd`, and the disturbed one has not changed that.
  have hlater : (_, _) = passEnd engine service nodes after.calmed.inventory :=
    run_ensure_of_calm after.calm_calmed hsound
  have hsingle : (_, _) = passEnd engine service nodes w.calmed.inventory :=
    run_ensure_of_calm w.calm_calmed hinv.sound
  have hsame : passEnd engine service nodes after.calmed.inventory =
      passEnd engine service nodes w.calmed.inventory := hpartway.passEnd_eq hinv.sound
  exact Prod.mk.inj (hlater.trans (hsame.trans hsingle.symm))

theorem run_ensure_heals_sample :
    Sample.disturbed.inventory.WellFormed ∧ Honest Sample.disturbed ∧
    ∃ after again single, Sample.disturbed.run (ensure Sample.engine Sample.service Sample.nodes) =
        (.error (.within "load_balancers::ensure" (.within "lb_ops::reconcile_services"
          (.cloudApi .rateLimitExceeded "poll 9"))), after) ∧
      after.calmed.run (ensure Sample.engine Sample.service Sample.nodes) =
        (.ok [.ofIp "203.0.113.4", .ofIp "10.0.0.6"], again) ∧
      Sample.disturbed.calmed.run (ensure Sample.engine Sample.service Sample.nodes) =
        (.ok [.ofIp "203.0.113.4", .ofIp "10.0.0.6"], single) ∧
      again.inventory.loadBalancers = single.inventory.loadBalancers := by
  have hinv : Sample.disturbed.inventory.WellFormed := Sample.wellFormed_world
  have hhonest : Honest Sample.disturbed := fun call _ rest h => by cases h
  have hfailed : (Sample.disturbed.run (ensure Sample.engine Sample.service Sample.nodes)).1 =
      .error (.within "load_balancers::ensure" (.within "lb_ops::reconcile_services"
        (.cloudApi .rateLimitExceeded "poll 9"))) := by decide +kernel
  have hsingle : (Sample.disturbed.calmed.run
      (ensure Sample.engine Sample.service Sample.nodes)).1 =
      .ok [.ofIp "203.0.113.4", .ofIp "10.0.0.6"] := by decide +kernel
  obtain ⟨hresult, hloadBalancers⟩ := run_ensure_heals hinv hhonest
  exact ⟨hinv, hhonest, _, _, _, Prod.ext hfailed rfl, Prod.ext (hresult.trans hsingle) rfl,
    Prod.ext hsingle rfl, hloadBalancers⟩

end BalancerSync.Engine
