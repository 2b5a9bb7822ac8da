import BalancerSync.Proofs.Engine.Requests
import BalancerSync.Proofs.Engine.Start
import BalancerSync.Proofs.Program.Safety

/-!
# Deleting for good

Whatever goes wrong meanwhile, a deletion that ends well has left no load balancer behind that
carries the identity of the Service.  That takes two things from the cloud.  It must not say that
something is not there when it is, for a deletion takes such an answer for its end.  And no load
balancer may be protected: a deletion passes over those without an error.

Here a request can fail in any way, after it was carried out as well as before, and each request can
meet with another script.  A run in a world with a single script is a special case.

## Main Definitions

* `World.Denies` — a script that denies what is there
* `World.Answered`, `World.unreliable` — a cloud in which everything else can go wrong
* `World.Candid` — an operation in a world that denies it nothing
* `deleted` — what deleting leaves of an inventory
* `deletionCalls` — the calls that this takes

## Main Results

* `safe_deletion` — a deletion that ends well has deleted what is sought
* `safe_ensureDeleted` — after it the identity is gone
* `run_ensureDeleted` — a deletion in a calm world
-/

namespace BalancerSync.Cloud.World

variable {w t : World} {c : Call} {id : Int}

/-- The calls whose failure can be taken for the answer that something is not there. -/
def deniable : List String := ["list_by_label", "get_by_name", "delete"]

/-- A request that asks for something that may not be there. -/
def Deniable (q : effect.Request) : Prop := ∃ c, q.call? = some c ∧ c.name ∈ deniable

/-- The script lets a request fail as if what it asks for was not there. -/
def Denies (w : World) (q : effect.Request) : Prop :=
  ∃ c rest, q.call? = some c ∧ c.name ∈ deniable ∧
    takeNamed? c.name w.script.failures = some (.notFound, rest)

/-- What a request can be answered, and the world after it: what some script makes of it, or an
error where the answer was lost. -/
inductive Answered (w : World) (q : effect.Request) :
    Except Error (effect.Reply q) → World → Prop where
  | told (script : Script) : ¬ Denies { w with script := script } q →
    Answered w q (handle q { w with script := script }).1 (handle q { w with script := script }).2
  | lost (script : Script) {e : Error} : (Deniable q → e.isNotFound = false) →
    Answered w q (.error e) (handle q { w with script := script }).2

/-- A cloud in which anything can go wrong, except that it denies what is there. -/
def unreliable : Program.Environment effect World where
  allows _ _ := True
  answers q w r t := Answered w q r t

/-- Whatever the answer, what has happened is what some script can make of the request. -/
theorem Answered.handled {q : effect.Request} {r : Except Error (effect.Reply q)}
    (h : Answered w q r t) : w.Handled q t := by
  cases h with
  | told script _ | lost script _ =>
    obtain ⟨hinv, hlog⟩ := World.handled { w with script := script } q
    exact ⟨hinv, hlog⟩

/-- A world that denies an operation nothing that is there. -/
def Candid {α : Type} (w : World) (p : Operation α) : Prop :=
  ∀ m ∈ p.moments handle w, ¬ m.before.Denies m.request

/-- What is safe in a cloud in which everything else can go wrong is right where nothing is
denied. -/
theorem Candid.run {α : Type} {p : Operation α} {post : Except Error α → World → Prop}
    (h : w.Candid p) (hp : p.Safe unreliable post w) : post (w.run p).1 (w.run p).2 :=
  hp.run fun m hm => .told m.before.script (h m hm)

/-- What is not denied to two operations in a row is not denied to the first of them. -/
theorem Candid.of_bind {α β : Type} {p : Operation α} {f : α → Operation β}
    (h : w.Candid (p.bind f)) : w.Candid p := by
  intro m hm
  refine h m ?_
  rw [Program.moments_bind]
  exact List.mem_append_left _ hm

theorem Candid.of_within {α : Type} {operation : String} {p : Operation α}
    (h : w.Candid (p.within operation)) : w.Candid p := by
  rwa [Candid, Program.moments_within] at h

/-- A calm world denies nothing. -/
theorem candid_of_calm {α : Type} (hw : w.Calm) (p : Operation α) : w.Candid p := by
  rintro m hm ⟨c, rest, -, -, hnamed⟩
  obtain ⟨-, hcalm, -⟩ := (Program.Asks.of_forall (P := fun _ => True) (fun _ => trivial) p).moments
    (I := Calm) (fun q s _ hs => hs.handle q) hw m hm
  exact not_calm_of_takeNamed? hnamed hcalm

/-- What an operation ends with that changes nothing: what is expected, or an error that is not
taken for an answer. -/
def Reports {α : Type} (w : World) (x o : Except Error α) (t : World) : Prop :=
  t.inventory = w.inventory ∧ (o = x ∨ ∃ e, o = .error e ∧ e.isNotFound = false)

/-- A lookup is answered truly, or fails, but not as if there was nothing. -/
theorem Answered.lookup {r : Except Error (effect.Reply (.call c))} {reply : c.Reply}
    (h : Answered w (.call c) r t) (hc : c.name ∈ deniable)
    (hp : w.inventory.perform c = .ok (reply, w.inventory)) (ha : c.action? reply = none) :
    Reports w (.ok reply) r t := by
  have hperform := fun script => perform_of_lookup (w := { w with script := script }) hp ha
  cases h with
  | @lost script e he =>
    refine ⟨?_, .inr ⟨e, rfl, he ⟨c, rfl, hc⟩⟩⟩
    rw [handle, hperform]
    cases takeNamed? c.name script.failures <;> rfl
  | told script hdenies =>
    rw [handle, hperform]
    cases hnamed : takeNamed? c.name script.failures with
    | none => exact ⟨rfl, .inl rfl⟩
    | some entry =>
      obtain ⟨code, rest⟩ := entry
      have hcode : code ≠ .notFound := by
        rintro rfl
        exact hdenies ⟨c, rest, rfl, hc, hnamed⟩
      refine ⟨rfl, .inr ⟨_, rfl, ?_⟩⟩
      simpa [injected, Error.isNotFound, Error.root] using hcode

/-- A deletion that succeeds is carried out; if it is answered that there is nothing to delete, then
that is so. -/
theorem Answered.delete {r : Except Error (effect.Reply (.call (.delete id)))}
    (h : Answered w (.call (.delete id)) r t) :
    (∀ u, r = .ok u → t.inventory = w.inventory.remove id) ∧
      ∀ e, r = .error e → e.isNotFound = true → w.inventory.find? id = none := by
  have hname : Call.name (.delete id) ∈ deniable := by simp [Call.name, deniable]
  cases h with
  | @lost script e he =>
    refine ⟨fun _ h => (by cases h), ?_⟩
    rintro _ ⟨⟩ hnotFound
    -- A lost answer is not taken for the answer that there is nothing.
    rw [he ⟨_, rfl, hname⟩] at hnotFound
    cases hnotFound
  | told script hdenies =>
    rw [handle]
    rcases perform_cases { w with script := script } (.delete id) with
      ⟨code, rest, hnamed, hrun⟩ | ⟨-, ⟨e, he, hrun⟩ | ⟨reply, inv, hok, hrun⟩⟩
    · rw [hrun]
      refine ⟨fun _ h => (by cases h), ?_⟩
      rintro _ ⟨⟩ hnotFound
      -- Only a script that denies the load balancer could say so, and this one does not.
      have hcode : code = .notFound := by
        simpa [injected, Error.isNotFound, Error.root] using hnotFound
      exact absurd ⟨_, rest, rfl, hname, hcode ▸ hnamed⟩ hdenies
    · rw [hrun]
      refine ⟨fun _ h => (by cases h), fun _ _ _ => ?_⟩
      simp only [Inventory.perform, Inventory.delete] at he
      split at he
      · assumption
      · cases he
    · rw [hrun]
      refine ⟨fun _ _ => ?_, fun _ h => by cases h⟩
      rw [inventory_amended]
      simp only [Inventory.perform, Inventory.delete] at hok
      split at hok
      · cases hok
      · obtain ⟨-, rfl⟩ := Prod.mk.inj (Except.ok.inj hok)
        rfl

/-- A lookup with a check of its reply, as a part of the named operation. -/
theorem safe_lookup {α : Type} {reply : c.Reply} (operation : String)
    (check : c.Reply → Except Error α) (hc : c.name ∈ deniable)
    (hp : w.inventory.perform c = .ok (reply, w.inventory)) (ha : c.action? reply = none) :
    (((call c).bind fun r => Program.ofExcept (check r)).within operation).Safe unreliable
      (Reports w ((check reply).mapError (.within operation))) w := by
  have hcall : (call c).Safe unreliable (Reports w (.ok reply)) w :=
    Program.safe_request trivial fun r t ht => ht.lookup hc hp ha
  refine Program.Safe.within (hcall.bind ?_ ?_)
  · rintro r t ⟨hinv, hr | ⟨_, ⟨⟩, -⟩⟩
    obtain rfl := Except.ok.inj hr
    exact ⟨hinv, .inl rfl⟩
  · rintro e t ⟨hinv, h | ⟨_, ⟨⟩, he⟩⟩
    · cases h
    · exact ⟨hinv, .inr ⟨_, rfl, he⟩⟩

/-- A result that may be missing. -/
def orNothing {α : Type} (x : Except Error α) : Except Error (Option α) :=
  match x with
  | .ok a => .ok (some a)
  | .error e => if e.isNotFound then .ok none else .error e

/-- What is missing is reported as nothing. -/
theorem safe_ifFound {α : Type} {p : Operation α} {x : Except Error α}
    (h : p.Safe unreliable (Reports w x) t) :
    p.ifFound.Safe unreliable (Reports w (orNothing x)) t := by
  refine h.ifFound ?_ ?_ ?_
  · rintro a u ⟨hinv, rfl | ⟨_, ⟨⟩, -⟩⟩
    exact ⟨hinv, .inl rfl⟩
  · rintro e u ⟨hinv, rfl | ⟨_, ⟨⟩, hother⟩⟩ he
    · exact ⟨hinv, .inl (by simp [orNothing, he])⟩
    · rw [hother] at he
      cases he
  · rintro e u ⟨hinv, -⟩ he
    exact ⟨hinv, .inr ⟨e, rfl, he⟩⟩

end BalancerSync.Cloud.World

namespace BalancerSync.Engine

open Cloud (Call LoadBalancer Inventory World)
open Cloud.World (Reports unreliable)
open Cluster (Service)
open Program (Safe)

variable {engine : Engine} {service : Service} {w t : World} {id name : String}
  {lb : LoadBalancer}

/-- What is there is found under its identifier. -/
theorem find?_ne_none {inv : Inventory} (h : lb ∈ inv.loadBalancers) : inv.find? lb.id ≠ none := by
  intro hnone
  exact absurd (List.find?_eq_none.1 hnone lb h) (by simp)

/-! ### Anything can go wrong -/

/-- The search by identity reports the one load balancer that carries it, or that there is none, or
fails. -/
theorem safe_byUid (hid : uid service = .ok id) : (byUid service).ifFound.Safe unreliable
    (Reports w (labelBearer w.inventory id)) w := by
  have hperform : w.inventory.perform (.listByLabel (uidSelector id)) =
      .ok (w.inventory.labelled Desired.uidLabel id, w.inventory) := by
    simp only [Inventory.perform, splitLabel_uidSelector]
  have hlist := World.safe_ifFound (World.safe_lookup "lb_ops::get_by_k8s_service_uid"
    (single (uidSelector id)) (.head _) hperform rfl)
  have hbearer : labelBearer w.inventory id = World.orNothing
      ((single (uidSelector id) (w.inventory.labelled Desired.uidLabel id)).mapError
        (.within "lb_ops::get_by_k8s_service_uid")) := by
    rw [labelBearer]
    cases single (uidSelector id) (w.inventory.labelled Desired.uidLabel id) <;> rfl
  rw [byUid, hid, hbearer]
  exact hlist

/-- The search by name reports the load balancer with that name, or the error that there is none. -/
theorem safe_byName (name : String) : (byName name).Safe unreliable
    (Reports w ((present name (w.inventory.loadBalancers.find? fun lb => lb.name == name)).mapError
      (.within "lb_ops::get_by_name"))) w :=
  World.safe_lookup (c := .getByName name) _ (present name) (.tail _ (.head _)) rfl rfl

/-- How the search ends: with what is sought, or with the error that there is none. -/
def searched (inv : Inventory) (id name : String) : Except Error LoadBalancer :=
  (labelBearer inv id).bind fun bearer =>
    bearer.elim
      ((present name (inv.loadBalancers.find? fun lb => lb.name == name)).mapError
        (.within "lb_ops::get_by_name"))
      .ok

/-- What is sought is what the search ends with, where the error that there is none counts as
nothing. -/
theorem sought_eq_orNothing (inv : Inventory) (id name : String) :
    sought inv id name = World.orNothing (searched inv id name) := by
  rw [sought, searched]
  cases hbearer : labelBearer inv id with
  | error e =>
    simp only [Except.map, Except.bind, World.orNothing, isNotFound_of_labelBearer hbearer]
    rfl
  | ok found =>
    cases found with
    | some lb => rfl
    | none => cases inv.loadBalancers.find? fun lb => lb.name == name <;> rfl

/-- The search finds what is sought, or fails. -/
theorem safe_find (hid : uid service = .ok id) (name : String) :
    (find service name).ifFound.Safe unreliable (Reports w (sought w.inventory id name)) w := by
  rw [sought_eq_orNothing]
  refine World.safe_ifFound (Safe.bind (safe_byUid hid) ?_ ?_)
  · rintro found t ⟨hinv, hfound | ⟨_, ⟨⟩, -⟩⟩
    rw [searched, ← hfound]
    cases found with
    | some lb => exact ⟨hinv, .inl rfl⟩
    | none =>
      have hname := safe_byName (w := t) name
      rw [hinv] at hname
      exact hname.mono fun o u hu => ⟨hu.1.trans hinv, hu.2⟩
  · rintro e t ⟨hinv, he | ⟨_, ⟨⟩, he⟩⟩
    · rw [searched, ← he]
      exact ⟨hinv, .inl rfl⟩
    · exact ⟨hinv, .inr ⟨e, rfl, he⟩⟩

/-- What a deletion does with what the search has found. -/
def deleteFound : Option LoadBalancer → Cloud.Operation Unit
  | none => pure ()
  | some lb =>
    if lb.deleteProtection then pure ()
    else do
      let _ ← (Cloud.call (.delete lb.id)).ifFound
      pure ()

/-- Deleting is a search, and then the deletion of what it has found. -/
theorem ensureDeleted_eq (hname : engine.balancerName service = .ok name) :
    engine.ensureDeleted service =
      ((find service name).ifFound.bind deleteFound).within "load_balancers::ensure_deleted" := by
  rw [ensureDeleted, hname]
  rfl

/-- What deleting the load balancer that is sought leaves of an inventory. -/
def deleted (inv : Inventory) : Option LoadBalancer → Inventory
  | none => inv
  | some lb => if lb.deleteProtection then inv else inv.remove lb.id

theorem mem_of_mem_deleted {inv : Inventory} {found : Option LoadBalancer}
    (h : lb ∈ (deleted inv found).loadBalancers) : lb ∈ inv.loadBalancers := by
  cases found with
  | none => exact h
  | some own =>
    rw [deleted] at h
    split at h
    · exact h
    · exact (List.mem_filter.1 h).1

/-- Deleting changes nothing about other load balancers. -/
theorem mem_deleted_of_other {inv : Inventory} {found : Option LoadBalancer}
    (h : ∀ own, found = some own → lb.id ≠ own.id) :
    lb ∈ (deleted inv found).loadBalancers ↔ lb ∈ inv.loadBalancers := by
  refine ⟨mem_of_mem_deleted, fun hmem => ?_⟩
  cases found with
  | none => exact hmem
  | some own =>
    rw [deleted]
    split
    · exact hmem
    · exact List.mem_filter.2 ⟨hmem, by simpa using h own rfl⟩

/-- Nobody carries the identity once the load balancer that is sought is gone. -/
theorem unlabelled_remove {inv : Inventory} (hsought : sought inv id name = .ok (some lb)) :
    (inv.remove lb.id).labelled Desired.uidLabel id = [] := by
  refine List.filter_eq_nil_iff.2 fun x hx hlabel => ?_
  obtain ⟨hx, hne⟩ := List.mem_filter.1 hx
  obtain rfl :=
    (alone_of_sought hsought).2 x (Inventory.mem_labelled.2 ⟨hx, by simpa using hlabel⟩)
  simp at hne

/-- Deleting what is sought leaves the identity to nobody, unless to a load balancer that is
protected. -/
theorem protected_of_labelled_deleted {inv : Inventory} {found : Option LoadBalancer}
    (hsought : sought inv id name = .ok found)
    (h : lb ∈ (deleted inv found).labelled Desired.uidLabel id) : lb.deleteProtection = true := by
  cases found with
  | none =>
    rw [deleted, (find?_eq_none_of_sought hsought).2] at h
    cases h
  | some own =>
    rw [deleted] at h
    split at h
    · rename_i hprotection
      rwa [(alone_of_sought hsought).2 lb h]
    · rw [unlabelled_remove hsought] at h
      cases h

/-- A deletion that ends well has deleted what was found, if that is not protected.  An answer that
it is not there any more counts as well, for the cloud does not deny what is there. -/
theorem safe_deleteFound {found : Option LoadBalancer}
    (hsought : sought t.inventory id name = .ok found) :
    (deleteFound found).Safe unreliable (fun o u => o = .ok () →
      u.inventory = deleted t.inventory found) t := by
  cases found with
  | none => exact fun _ => rfl
  | some lb =>
    by_cases hprotection : lb.deleteProtection = true
    · rw [deleteFound, deleted, if_pos hprotection, if_pos hprotection]
      exact fun _ => rfl
    · rw [deleteFound, deleted, if_neg hprotection, if_neg hprotection]
      have hdelete : (Cloud.call (.delete lb.id)).ifFound.Safe unreliable
          (fun o u => ∀ x, o = .ok x → u.inventory = t.inventory.remove lb.id) t := by
        refine Safe.ifFound (Program.safe_request trivial fun r u hu => hu.delete) ?_ ?_ ?_
        · intro a u hu _ _
          exact hu.1 a rfl
        · intro e u hu he
          exact absurd (hu.2 e rfl he) (find?_ne_none (alone_of_sought hsought).1)
        · exact fun _ _ _ _ => nofun
      refine hdelete.bind ?_ (fun _ _ _ h => by cases h)
      exact fun a u hu _ => hu a rfl

/-- A deletion that ends well has deleted what is sought. -/
theorem safe_deletion (hid : uid service = .ok id) (hname : engine.balancerName service = .ok name) :
    (engine.ensureDeleted service).Safe unreliable (fun o t => o = .ok () →
      ∃ found, sought w.inventory id name = .ok found ∧
        t.inventory = deleted w.inventory found) w := by
  rw [ensureDeleted_eq hname]
  refine Safe.within (Safe.bind (safe_find hid name) ?_ (fun e t _ h => by cases h))
  rintro found t ⟨hinv, hfound | ⟨_, ⟨⟩, -⟩⟩
  have hsought : sought t.inventory id name = .ok found := by
    rw [hinv]
    exact hfound.symm
  refine (safe_deleteFound hsought).mono fun o u hu ho => ⟨found, hfound.symm, ?_⟩
  cases o with
  | ok _ => rw [hu rfl, hinv]
  | error e => cases ho

/-- After a deletion that ends well, no load balancer carries the identity of the Service. -/
theorem safe_ensureDeleted (hid : uid service = .ok id)
    (hprotection : ∀ lb ∈ w.inventory.loadBalancers, lb.deleteProtection = false) :
    (engine.ensureDeleted service).Safe unreliable (fun o t => o = .ok () →
      t.inventory.labelled Desired.uidLabel id = []) w := by
  cases hname : engine.balancerName service with
  | error e =>
    rw [ensureDeleted, hname]
    exact nofun
  | ok name =>
    refine (safe_deletion hid hname).mono fun o t ht ho => ?_
    obtain ⟨found, hsought, hinv⟩ := ht ho
    refine List.eq_nil_iff_forall_not_mem.2 fun lb hlb => ?_
    rw [hinv] at hlb
    have hfree := hprotection lb (mem_of_mem_deleted (Inventory.mem_labelled.1 hlb).1)
    rw [protected_of_labelled_deleted hsought hlb] at hfree
    cases hfree

/-! ### Nothing goes wrong -/

/-- The calls that delete the load balancer that is sought. -/
def deletionCalls : Option LoadBalancer → List Call
  | none => []
  | some lb => if lb.deleteProtection then [] else [.delete lb.id]

/-- Where nothing goes wrong, one call deletes what was found. -/
theorem run_deleteFound {found : Option LoadBalancer} (ht : t.Calm)
    (hsought : sought t.inventory id name = .ok found) :
    ∃ u, t.run (deleteFound found) = (.ok (), u) ∧ t.Adds u (deletionCalls found) ∧
      u.inventory = deleted t.inventory found := by
  cases found with
  | none => exact ⟨t, rfl, .refl ht, rfl⟩
  | some lb =>
    by_cases hprotection : lb.deleteProtection = true
    · rw [deleteFound, deletionCalls, deleted, if_pos hprotection, if_pos hprotection,
        if_pos hprotection]
      exact ⟨t, rfl, .refl ht, rfl⟩
    · rw [deleteFound, deletionCalls, deleted, if_neg hprotection, if_neg hprotection,
        if_neg hprotection]
      obtain ⟨there, hthere⟩ :=
        Option.ne_none_iff_exists'.1 (find?_ne_none (alone_of_sought hsought).1)
      have hdelete : t.perform (.delete lb.id) =
          (.ok (), { t.logged (.delete lb.id) with inventory := t.inventory.remove lb.id }) := by
        rw [World.perform_of_calm ht]
        simp only [Inventory.perform, Inventory.delete, hthere]
      refine ⟨{ t.logged (.delete lb.id) with inventory := t.inventory.remove lb.id }, ?_, ?_, rfl⟩
      · rw [Program.bind_eq, World.run_bind, World.run_ifFound, World.run_call, hdelete]
        rfl
      · exact World.Adds.single (c := .delete lb.id) ht rfl fun n h => by cases h

/-- In a calm world the load balancer that is sought is deleted, unless it is protected. -/
theorem run_ensureDeleted {found : Option LoadBalancer} (hw : w.Calm) (hid : uid service = .ok id)
    (hname : engine.balancerName service = .ok name)
    (hsought : sought w.inventory id name = .ok found) :
    ∃ t, w.run (engine.ensureDeleted service) = (.ok (), t) ∧ w.Adds t (deletionCalls found) ∧
      t.inventory = deleted w.inventory found := by
  obtain ⟨hinv, hout, hadds⟩ := answers_find name hid (honest_of_calm hw)
  have hfound := (hout.resolve_right fun hd => hd.1 hw).trans hsought
  have hadds := hadds hw
  generalize hfind : w.run (find service name).ifFound = result at hinv hfound hadds
  obtain ⟨r, t⟩ := result
  obtain rfl : r = .ok found := hfound
  rw [← hinv] at hsought
  obtain ⟨u, hrun, hu, hdeleted⟩ := run_deleteFound hadds.calm hsought
  refine ⟨u, ?_, hadds.trans hu, by rw [hdeleted, hinv]⟩
  rw [ensureDeleted_eq hname, World.run_within, World.run_bind, hfind]
  simp only [hrun]
  rfl

end BalancerSync.Engine
