import BalancerSync.Proofs.Cloud.Run
import BalancerSync.Proofs.Program.Requests

/-!
# What every run keeps

Whatever an operation asks for and however the script answers, an inventory stays sound, and a load
balancer that no call names stays as it is.  Both follow from what a single call can do
(`Inventory.perform_inversion`) and what a single request adds to the log (`World.handled`).

## Main Definitions

* `Call.about?` — the load balancer that a change is about
* `Inventory.Done` — what a call has done
* `Inventory.Placed` — load balancers in order, under identifiers that have been given away
* `World.Names` — a request that changes one load balancer at most
* `World.Leaves` — what happens to a load balancer that is left alone

## Main Results

* `Inventory.perform_inversion` — what a call that is carried out has done
* `World.sound_run` — inventories stay sound
* `World.leaves_run` — an operation leaves the load balancers alone that it does not name
-/

namespace BalancerSync.Cloud

variable {c : Call} {lb new old : LoadBalancer} {inv after : Inventory} {id : Int}

/-! ### One call -/

/-- The load balancer that a change is about: the one that it names, or the one that it creates. -/
def Call.about? (inv : Inventory) : Call → Option Int
  | create _ => some (inv.lastId + 1)
  | c => c.subject?

/-- A call that names a load balancer is about that one.  Only a creation is about one that it
cannot name. -/
theorem about?_of_subject? (h : c.subject? = some id) : c.about? inv = some id := by
  cases c with
  | create => cases h
  | _ => exact h

namespace Inventory

/-- A change by an action replaces the load balancer that it finds by what the change makes of it,
and the action takes the next identifier. -/
theorem act_eq_ok {command : String} {f : LoadBalancer → Except Error LoadBalancer} {a : Action}
    (h : inv.act id command f = .ok (a, after)) :
    ∃ lb changed, inv.find? id = some lb ∧ f lb = .ok changed ∧
      after = { inv.modify id (fun _ => changed) with lastId := inv.lastId + 1 } := by
  rw [act] at h
  cases hf : inv.find? id with
  | none =>
    rw [hf] at h
    cases h
  | some lb =>
    rw [hf] at h
    simp only at h
    cases hchanged : f lb with
    | error e =>
      rw [hchanged] at h
      cases h
    | ok changed =>
      rw [hchanged] at h
      obtain ⟨-, rfl⟩ := Prod.mk.inj (Except.ok.inj h)
      exact ⟨lb, changed, rfl, hchanged, rfl⟩

/-- What a call has done: nothing, a revision, a deletion or a creation. -/
inductive Done (inv : Inventory) (c : Call) (after : Inventory) : Prop where
  | lookup : after = inv → Done inv c after
  | revision {lb new : LoadBalancer} {n : Int} : inv.find? lb.id = some lb →
    c.revise? lb = some new → inv.lastId ≤ n → after = { inv.replace new with lastId := n } →
    Done inv c after
  | deletion {id : Int} : c.subject? = some id → after = inv.remove id → Done inv c after
  | creation {o : NewLoadBalancer} : c = .create o →
    after = { inv.insert (created (inv.lastId + 1) o) with lastId := inv.lastId + 2 } →
    Done inv c after

/-- All changes by an action are revisions, if what they do is what `Call.revise?` says.  So each of
them has to be looked at in this respect only. -/
theorem done_of_act (ho : inv.Ordered) {command : String}
    {f : LoadBalancer → Except Error LoadBalancer} {a : Action}
    (h : inv.act id command f = .ok (a, after))
    (hf : ∀ lb new, lb.id = id → f lb = .ok new → c.revise? lb = some new) : Done inv c after := by
  obtain ⟨lb, new, hlb, hnew, rfl⟩ := act_eq_ok h
  have hrevise := hf lb new (id_of_find? hlb) hnew
  have hid : new.id = id := (id_of_revise? hrevise).trans (id_of_find? hlb)
  refine .revision (by rw [id_of_find? hlb, hlb]) hrevise (n := inv.lastId + 1) (by omega) ?_
  rw [modify_eq_replace ho hlb hid]

/-- What a call that is carried out has done. -/
theorem perform_inversion (ho : inv.Ordered) {reply : c.Reply}
    (h : inv.perform c = .ok (reply, after)) : Done inv c after := by
  cases c with
  | update id change =>
    simp only [perform, update] at h
    cases hlb : inv.find? id with
    | none =>
      rw [hlb] at h
      cases h
    | some lb =>
      rw [hlb] at h
      obtain ⟨-, rfl⟩ := Prod.mk.inj (Except.ok.inj h)
      obtain rfl := id_of_find? hlb
      refine .revision hlb (revise?_of_subject? rfl) (Int.le_refl inv.lastId) ?_
      rw [modify_eq_replace ho hlb rfl]
      rfl
  | delete id =>
    simp only [perform, delete] at h
    cases hlb : inv.find? id with
    | none =>
      rw [hlb] at h
      cases h
    | some lb =>
      rw [hlb] at h
      obtain ⟨-, rfl⟩ := Prod.mk.inj (Except.ok.inj h)
      exact .deletion rfl rfl
  | create o =>
    simp only [perform, create] at h
    split at h
    · cases h
    · obtain ⟨-, rfl⟩ := Prod.mk.inj (Except.ok.inj h)
      exact .creation rfl rfl
  -- These are never refused; those after them can be.
  | changeAlgorithm id | changeType id | attachToNetwork id | detachFromNetwork id
  | enablePublicInterface id | disablePublicInterface id | removeTarget id | deleteService id =>
    unfold perform at h
    refine done_of_act ho h ?_
    rintro lb new rfl hnew
    obtain rfl := Except.ok.inj hnew
    exact revise?_of_subject? rfl
  | addTarget id | addService id | updateService id =>
    unfold perform at h
    refine done_of_act ho h ?_
    rintro lb new rfl hnew
    rw [revise?_of_subject? rfl, Call.alter?, hnew]
    rfl
  | _ =>
    obtain ⟨-, rfl⟩ := Prod.mk.inj (Except.ok.inj h)
    exact .lookup rfl

/-- The load balancers are in order, and their identifiers have been given away. -/
structure Placed (inv : Inventory) : Prop where
  ordered : inv.Ordered
  known : ∀ lb ∈ inv.loadBalancers, lb.id ≤ inv.lastId

/-- Of soundness this is the part that says nothing about the load balancers themselves. -/
theorem Sound.placed (h : inv.Sound) : inv.Placed := ⟨h.ordered, h.known⟩

/-- Every call keeps the load balancers in order. -/
theorem Placed.done (hinv : inv.Placed) (h : Done inv c after) : after.Placed := by
  cases h with
  | lookup h => exact h ▸ hinv
  | @revision lb new n hlb hnew hn h =>
    subst h
    have hid := id_of_revise? hnew
    refine ⟨ordered_replace hinv.ordered, fun x hx => ?_⟩
    change x.id ≤ n
    rcases (mem_replace hinv.ordered (by rw [hid, hlb])).1 hx with rfl | ⟨hx, -⟩
    · have := hinv.known lb (mem_of_find? hlb)
      omega
    · have := hinv.known x hx
      omega
  | deletion _ h =>
    subst h
    exact ⟨hinv.ordered.filter _, fun x hx => hinv.known x ((List.mem_filter.1 hx).1)⟩
  | creation _ h =>
    subst h
    refine ⟨pairwise_place hinv.ordered, fun x hx => ?_⟩
    change x.id ≤ inv.lastId + 2
    rcases mem_place hx with rfl | hx
    · change inv.lastId + 1 ≤ inv.lastId + 2
      omega
    · have := hinv.known x hx
      omega

/-- Every call keeps an inventory sound. -/
theorem Sound.done (hinv : inv.Sound) (h : Done inv c after) : after.Sound := by
  obtain ⟨hordered, hknown⟩ := hinv.placed.done h
  refine ⟨hordered, hknown, fun x hx => ?_⟩
  cases h with
  | lookup h => exact hinv.distinct x (h ▸ hx)
  | revision hlb hnew hn h =>
    subst h
    have hd := distinct_revise? (hinv.distinct _ (mem_of_find? hlb)) hnew
    rcases (mem_replace hinv.ordered (by rw [id_of_revise? hnew, hlb])).1 hx with rfl | ⟨hx, -⟩
    · exact hd
    · exact hinv.distinct x hx
  | deletion _ h =>
    subst h
    exact hinv.distinct x ((List.mem_filter.1 hx).1)
  | creation _ h =>
    subst h
    rcases mem_place hx with rfl | hx
    · exact ⟨.nil, .nil⟩
    · exact hinv.distinct x hx

/-- No call protects a load balancer. -/
theorem deleteProtection_of_done (ho : inv.Ordered)
    (hinv : ∀ lb ∈ inv.loadBalancers, lb.deleteProtection = false) (h : Done inv c after) :
    ∀ lb ∈ after.loadBalancers, lb.deleteProtection = false := by
  intro x hx
  cases h with
  | lookup h => exact hinv x (h ▸ hx)
  | revision hlb hnew hn h =>
    subst h
    rcases (mem_replace ho (by rw [id_of_revise? hnew, hlb])).1 hx with rfl | ⟨hx, -⟩
    · rw [← (sameBase_revise? hnew).deleteProtection]
      exact hinv _ (mem_of_find? hlb)
    · exact hinv x hx
  | deletion _ h =>
    subst h
    exact hinv x (List.mem_filter.1 hx).1
  | creation _ h =>
    subst h
    rcases mem_place hx with rfl | hx
    · rfl
    · exact hinv x hx

/-- Putting a load balancer in its place displaces none with another identifier. -/
theorem mem_place_of_mem {x : LoadBalancer} {lbs : List LoadBalancer} (hx : x ∈ lbs)
    (hne : x.id ≠ lb.id) : x ∈ place lb lbs := by
  induction lbs with
  | nil => cases hx
  | cons y rest ih =>
    rw [place]
    split
    · exact List.mem_cons_of_mem _ hx
    · split
      · rename_i heq
        rcases List.mem_cons.1 hx with rfl | hx
        · exact absurd heq.symm hne
        · exact List.mem_cons_of_mem _ hx
      · rcases List.mem_cons.1 hx with rfl | hx
        · exact List.mem_cons_self
        · exact List.mem_cons_of_mem _ (ih hx)

/-- A call leaves the load balancers alone that it is not about, and makes none but the one that it
is about. -/
theorem mem_iff_of_done (ho : inv.Ordered) (h : Done inv c after) {x : LoadBalancer}
    (hx : c.about? inv ≠ some x.id) : x ∈ after.loadBalancers ↔ x ∈ inv.loadBalancers := by
  cases h with
  | lookup h => rw [h]
  | @revision lb new n hlb hnew _ h =>
    subst h
    have hid := id_of_revise? hnew
    have hne : x.id ≠ new.id := by
      rw [hid]
      exact fun heq => hx (heq ▸ about?_of_subject? (subject?_of_revise? hnew))
    refine (mem_replace ho (by rw [hid, hlb])).trans ⟨?_, fun hold => .inr ⟨hold, hne⟩⟩
    rintro (rfl | ⟨hold, -⟩)
    · exact absurd rfl hne
    · exact hold
  | @deletion id hid h =>
    subst h
    have hne : x.id ≠ id := fun heq => hx (heq ▸ about?_of_subject? hid)
    exact List.mem_filter.trans (and_iff_left (by simpa using hne))
  | creation hc h =>
    subst hc h
    have hne : x.id ≠ inv.lastId + 1 := fun heq => hx (heq ▸ rfl)
    refine ⟨fun hmem => ?_, fun hold => mem_place_of_mem hold hne⟩
    rcases mem_place hmem with rfl | hold
    · exact absurd rfl hne
    · exact hold

/-- A call leaves the load balancers alone that it does not name. -/
theorem mem_of_done (hinv : inv.Sound) (h : Done inv c after) {x : LoadBalancer}
    (hx : x ∈ inv.loadBalancers) (hc : c.subject? ≠ some x.id) : x ∈ after.loadBalancers := by
  refine (mem_iff_of_done hinv.ordered h fun habout => ?_).2 hx
  cases c with
  | create o =>
    -- The new identifier was not given away before.
    have hknown := hinv.known x hx
    have hid : inv.lastId + 1 = x.id := Option.some.inj habout
    omega
  | _ => exact hc habout

end Inventory

/-! ### One request -/

/-- The call that a request makes. -/
def Request.call? : Request → Option Call
  | .call c | .callWithin _ c => some c
  | .await _ | .pause _ => none

namespace World

/-- What a single request does to the inventory and adds to the log. -/
structure Handled (w : World) (q : Request) (after : World) : Prop where
  inventory : after.inventory = w.inventory ∨
    ∃ c reply, q.call? = some c ∧ w.inventory.perform c = .ok (reply, after.inventory)
  log : ∃ calls, after.log = w.log ++ calls ∧
    ∀ c ∈ calls, q.call? = some c ∨ ∃ id, c = .getAction id

/-- A call that is received is logged, and does what the inventory says, or nothing. -/
theorem handled_call (w : World) (c : Call) {q : Request} (hq : q.call? = some c) :
    w.Handled q (w.perform c).2 := by
  rcases perform_cases w c with ⟨code, rest, -, ht⟩ | ⟨-, ⟨e, -, ht⟩ | ⟨reply, inv, hok, ht⟩⟩
  · rw [ht]
    exact ⟨.inl rfl, [c], rfl, fun d hd => .inl (by rw [hq, List.mem_singleton.1 hd])⟩
  · rw [ht]
    exact ⟨.inl rfl, [c], rfl, fun d hd => .inl (by rw [hq, List.mem_singleton.1 hd])⟩
  · rw [ht]
    refine ⟨.inr ⟨c, reply, hq, ?_⟩, [c], ?_, fun d hd => .inl (by
      rw [hq, List.mem_singleton.1 hd])⟩
    · rw [inventory_amended, hok]
    · rw [amended]
      split <;> rfl

/-- What a single request does. -/
theorem handled (w : World) (q : Request) : w.Handled q (handle q w).2 := by
  cases q with
  | call c => exact handled_call w c rfl
  | callWithin limit c =>
    by_cases hsilent : w.isSilent c
    · simp only [handle, hsilent, if_true]
      exact ⟨.inl rfl, [], (List.append_nil _).symm, fun c hc => by cases hc⟩
    · simp only [handle, hsilent]
      exact handled_call w c rfl
  | await a =>
    -- The polls appear in the log, though nothing calls for them.
    refine ⟨.inl (inventory_await w a), _, rfl, fun c hc => .inr ?_⟩
    obtain ⟨id, -, rfl⟩ := List.mem_map.1 hc
    exact ⟨id, rfl⟩
  | pause d => exact ⟨.inl rfl, [], (List.append_nil _).symm, fun c hc => by cases hc⟩

/-! ### Runs -/

/-- A request makes one call at most, and does what that call does. -/
theorem Handled.done {w after : World} {q : Request} (h : w.Handled q after)
    (ho : w.inventory.Ordered) : ∃ c, Inventory.Done w.inventory c after.inventory := by
  rcases h.inventory with hsame | ⟨c, reply, -, hok⟩
  · exact ⟨.getAction 0, .lookup hsame⟩
  · exact ⟨c, Inventory.perform_inversion ho hok⟩

theorem Handled.sound {w after : World} {q : Request} (h : w.Handled q after)
    (hw : w.inventory.Sound) : after.inventory.Sound := by
  rcases h.inventory with hsame | ⟨c, reply, -, hok⟩
  · rwa [hsame]
  · exact hw.done (Inventory.perform_inversion hw.ordered hok)

/-- Every run keeps an inventory sound. -/
theorem sound_run {α : Type} (w : World) (p : Operation α) (hw : w.inventory.Sound) :
    (w.run p).2.inventory.Sound := by
  have hasks : p.Asks fun _ => True := Program.Asks.of_forall (fun _ => trivial) p
  exact hasks.run (I := fun w : World => w.inventory.Sound) (fun q s _ hs => (handled s q).sound hs) hw

/-- A request whose call changes this load balancer if it changes any. -/
def Names (o : Option Int) (q : effect.Request) : Prop :=
  ∀ c, q.call? = some c → c.subject? = none ∨ c.subject? = o

/-- A stretch of a run that leaves a load balancer as it is, and names it in no call. -/
structure Leaves (lb : LoadBalancer) (w after : World) : Prop where
  sound : after.inventory.Sound
  stays : lb ∈ after.inventory.loadBalancers
  unnamed : ∃ calls, after.log = w.log ++ calls ∧ ∀ c ∈ calls, c.subject? ≠ some lb.id

theorem Leaves.refl {w : World} {lb : LoadBalancer} (hw : w.inventory.Sound)
    (hlb : lb ∈ w.inventory.loadBalancers) : Leaves lb w w :=
  ⟨hw, hlb, [], (List.append_nil _).symm, fun _ h => absurd h List.not_mem_nil⟩

theorem Leaves.trans {w t after : World} {lb : LoadBalancer} (h : Leaves lb w t)
    (h' : Leaves lb t after) : Leaves lb w after := by
  obtain ⟨calls, hlog, hcalls⟩ := h.unnamed
  obtain ⟨more, hlog', hmore⟩ := h'.unnamed
  refine ⟨h'.sound, h'.stays, calls ++ more, by rw [hlog', hlog, List.append_assoc], fun c hc => ?_⟩
  rcases List.mem_append.1 hc with hc | hc
  · exact hcalls c hc
  · exact hmore c hc

/-- A request that names no load balancer, or another one, leaves this one alone.  Polls are logged
too, but they name actions. -/
theorem leaves_handle {w : World} {lb : LoadBalancer} {o : Option Int} {q : effect.Request}
    (hw : w.inventory.Sound) (hlb : lb ∈ w.inventory.loadBalancers) (ho : o ≠ some lb.id)
    (hq : Names o q) : Leaves lb w (handle q w).2 := by
  have hspared : ∀ c, q.call? = some c → c.subject? ≠ some lb.id := by
    intro c hc
    rcases hq c hc with hnone | hother
    · simp [hnone]
    · rwa [hother]
  have hhandled := handled w q
  refine ⟨hhandled.sound hw, ?_, ?_⟩
  · rcases hhandled.inventory with hsame | ⟨c, reply, hc, hok⟩
    · rwa [hsame]
    · exact Inventory.mem_of_done hw (Inventory.perform_inversion hw.ordered hok) hlb (hspared c hc)
  · obtain ⟨calls, hlog, hcalls⟩ := hhandled.log
    refine ⟨calls, hlog, fun c hc => ?_⟩
    rcases hcalls c hc with hcall | ⟨id, rfl⟩
    · exact hspared c hcall
    · exact fun h => by cases h

/-- An operation leaves the load balancers alone that it does not name. -/
theorem leaves_run {α : Type} {w : World} {p : Operation α} {lb : LoadBalancer} {o : Option Int}
    (hw : w.inventory.Sound) (hlb : lb ∈ w.inventory.loadBalancers) (ho : o ≠ some lb.id)
    (hp : p.Asks (Names o)) : Leaves lb w (w.run p).2 := by
  refine hp.run (I := Leaves lb w) (fun q t hq ht => ?_) (Leaves.refl hw hlb)
  exact ht.trans (leaves_handle ht.sound ht.stays ho hq)

/-- For operations in a row, where the second one may name something that only the first has
found. -/
theorem leaves_bind {α β : Type} {w : World} {p : Operation α} {f : α → Operation β}
    {lb : LoadBalancer} (hp : Leaves lb w (w.run p).2)
    (hf : ∀ a t, w.run p = (.ok a, t) → Leaves lb t (t.run (f a)).2) :
    Leaves lb w (w.run (p.bind f)).2 := by
  rw [run_bind]
  generalize w.run p = result at hp hf
  obtain ⟨r, t⟩ := result
  cases r with
  | ok a => exact hp.trans (hf a t rfl)
  | error e => exact hp

end World

end BalancerSync.Cloud
