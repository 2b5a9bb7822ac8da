import BalancerSync.Proofs.Cloud.Run

/-!
# Plans and the runs that follow them

Most of what an operation does to a load balancer can be written down before it starts: the changes
in their order, and how it ends.  This is a *plan*.  An operation *follows* a plan if every run of
it makes changes from the front of the plan, one by one, and stops early only with an error, and
only where the script lets something go wrong.

That one notion covers undisturbed and disturbed runs at once.  Undisturbed, the whole plan is
carried out; disturbed, some front part of it, and which part it was can be read off the load
balancer that is left.

## Main Definitions

* `Plan` — changes in their order, and an outcome
* `Plan.bind`, `Plan.sequence` — plans one after the other; an outcome that is an error ends both
* `Reads` — an operation that only looks certificates up
* `Follows` — an operation that keeps to a plan for a load balancer

## Main Results

* `Follows.bind` — operations in a row follow their plans in a row
* `follows_callAndAwait`, `follows_retryOnce` — the operations that make a single change

## Design Notes

`Follows` asks that the plan can be carried out on the load balancer that is stored
(`revised? … = some _`).  That the plans of a pass can be is a property of these plans alone and is
not proved here.
-/

namespace BalancerSync.Cloud

/-- What an operation does if nothing goes wrong: its changes in their order, and how it ends. -/
structure Plan (α : Type) where
  calls : List Call
  outcome : Except Error α

namespace Plan

variable {α β : Type}

/-- The plan without changes. -/
def ofExcept (outcome : Except Error α) : Plan α := ⟨[], outcome⟩

/-- The plan to make changes. -/
def make (calls : List Call) : Plan Unit := ⟨calls, .ok ()⟩

/-- A plan and then the next one, which depends on the result of the first. -/
def bind (p : Plan α) (f : α → Plan β) : Plan β :=
  match p.outcome with
  | .ok a => ⟨p.calls ++ (f a).calls, (f a).outcome⟩
  | .error e => ⟨p.calls, .error e⟩

/-- The plan of an operation that is a part of the named one. -/
def within (operation : String) (p : Plan α) : Plan α :=
  ⟨p.calls, p.outcome.mapError (.within operation)⟩

/-- Plans one after the other. -/
def sequence : List (Plan Unit) → Plan Unit
  | [] => make []
  | p :: ps => p.bind fun _ => sequence ps

/-- The plan with a result that tells whether there is any change. -/
def telling (p : Plan Unit) : Plan Bool :=
  ⟨p.calls, p.outcome.map fun _ => !p.calls.isEmpty⟩

/-- The plan with a result that tells besides its own whether there is any change. -/
def marked (p : Plan α) : Plan (Bool × α) :=
  ⟨p.calls, p.outcome.map fun a => (!p.calls.isEmpty, a)⟩

@[simp] theorem bind_ofExcept_ok (a : α) (f : α → Plan β) : (ofExcept (.ok a)).bind f = f a := rfl

@[simp] theorem bind_ofExcept_error (e : Error) (f : α → Plan β) :
    (ofExcept (.error e) : Plan α).bind f = ofExcept (.error e) := rfl

/-- After a plan that ends well the changes of the next one are appended. -/
theorem bind_of_ok {p : Plan α} {a : α} (h : p.outcome = .ok a) (f : α → Plan β) :
    p.bind f = ⟨p.calls ++ (f a).calls, (f a).outcome⟩ := by
  simp only [bind, h]

/-- After a plan that ends with an error there is nothing more, whatever was to come. -/
theorem bind_of_error {p : Plan α} {e : Error} (h : p.outcome = .error e) (f : α → Plan β) :
    p.bind f = ⟨p.calls, .error e⟩ := by
  simp only [bind, h]

/-- The changes of a plan come first in a longer one. -/
theorem exists_calls_bind (p : Plan α) (f : α → Plan β) :
    ∃ more, (p.bind f).calls = p.calls ++ more := by
  cases h : p.outcome with
  | ok a => exact ⟨(f a).calls, by rw [bind_of_ok h]⟩
  | error e => exact ⟨[], by rw [bind_of_error h, List.append_nil]⟩

/-- Plans in a row may be grouped as one likes.  Operations are written with their parts nested to
the right, and their plans are stated part by part. -/
theorem bind_assoc {γ : Type} (p : Plan α) (f : α → Plan β) (g : β → Plan γ) :
    (p.bind f).bind g = p.bind fun a => (f a).bind g := by
  cases h : p.outcome with
  | error e => rw [bind_of_error h, bind_of_error h, bind_of_error rfl]
  | ok a =>
    rw [bind_of_ok h, bind_of_ok h]
    cases h' : (f a).outcome with
    | error e => rw [bind_of_error h', bind_of_error rfl]
    | ok b => rw [bind_of_ok h', bind_of_ok rfl, List.append_assoc]

/-- A result that is known beforehand has no changes to tell of. -/
theorem telling_bind_ofExcept (x : Except Error α) (f : α → Plan Unit) :
    ((ofExcept x).bind f).telling = (ofExcept x).bind fun a => (f a).telling := by
  cases x <;> rfl

/-- Naming the operation a plan belongs to alters errors only, and so not what is told of the
changes. -/
theorem telling_within (operation : String) (p : Plan Unit) :
    (p.within operation).telling = p.telling.within operation := by
  rcases p with ⟨calls, _ | _⟩ <;> rfl

/-- Of two plans in a row it can be told whether there is any change in either. -/
theorem telling_bind (p q : Plan Unit) :
    (p.bind fun _ => q).telling =
      p.telling.bind fun b => q.telling.bind fun b' => ofExcept (.ok (b || b')) := by
  rcases p with ⟨pcalls, e | ⟨⟩⟩
  · rfl
  · rcases q with ⟨qcalls, e | ⟨⟩⟩
    · rfl
    · cases pcalls <;> simp [bind, telling, Except.map, ofExcept]

/-- The same where the second plan depends on the result of the first. -/
theorem telling_bind_marked (p : Plan α) (f : α → Plan Unit) :
    (p.bind f).telling =
      p.marked.bind fun r => (f r.2).telling.bind fun b => ofExcept (.ok (r.1 || b)) := by
  rcases p with ⟨pcalls, e | a⟩
  · rfl
  · rcases hf : f a with ⟨fcalls, e | ⟨⟩⟩
    · simp [bind, telling, marked, Except.map, hf]
    · cases pcalls <;> simp [bind, telling, marked, Except.map, ofExcept, hf]

/-- A plan that tells of its changes and ends well tells whether there are any. -/
theorem outcome_of_telling_ok {p : Plan Unit} {b : Bool} (h : p.telling.outcome = .ok b) :
    p.outcome = .ok () ∧ b = !p.calls.isEmpty := by
  rcases p with ⟨calls, e | ⟨⟩⟩
  · cases h
  · exact ⟨rfl, (Except.ok.inj h).symm⟩

theorem outcome_of_telling_error {p : Plan Unit} {e : Error} (h : p.telling.outcome = .error e) :
    p.outcome = .error e := by
  rcases p with ⟨calls, cause | ⟨⟩⟩
  · rw [← Except.error.inj h]
  · cases h

theorem marked_bind_ofExcept (x : Except Error α) (f : α → Plan β) :
    ((ofExcept x).bind f).marked = (ofExcept x).bind fun a => (f a).marked := by
  cases x <;> rfl

/-- Of two plans in a row it can be told likewise where the second one has a result. -/
theorem marked_bind (p : Plan Unit) (q : Plan α) :
    (p.bind fun _ => q).marked =
      p.telling.bind fun b => q.marked.bind fun r => ofExcept (.ok (b || r.1, r.2)) := by
  rcases p with ⟨pcalls, e | ⟨⟩⟩
  · rfl
  · rcases q with ⟨qcalls, e | a⟩
    · rfl
    · cases pcalls <;> simp [bind, telling, marked, Except.map, ofExcept]

/-! ### Plans that end well -/

/-- Plans in a row end well only if each of them does. -/
theorem of_bind_eq_ok {p : Plan α} {f : α → Plan β} {b : β} (h : (p.bind f).outcome = .ok b) :
    ∃ a, p.outcome = .ok a ∧ (f a).outcome = .ok b ∧ (p.bind f).calls = p.calls ++ (f a).calls := by
  cases ha : p.outcome with
  | error e =>
    rw [bind_of_error ha] at h
    cases h
  | ok a =>
    rw [bind_of_ok ha] at h ⊢
    exact ⟨a, rfl, h, rfl⟩

/-- If what comes first is a result known beforehand, it is a good one, and the plan is the rest. -/
theorem of_ofExcept_bind_eq_ok {x : Except Error α} {f : α → Plan β} {b : β}
    (h : ((ofExcept x).bind f).outcome = .ok b) :
    ∃ a, x = .ok a ∧ (f a).outcome = .ok b ∧ (ofExcept x).bind f = f a := by
  obtain ⟨a, rfl, ha, -⟩ := of_bind_eq_ok h
  exact ⟨a, rfl, ha, rfl⟩

theorem of_within_eq_ok {operation : String} {p : Plan α} {a : α}
    (h : (p.within operation).outcome = .ok a) : p.outcome = .ok a := by
  rcases p with ⟨calls, e | b⟩
  · cases h
  · exact h

/-- If plans in a row end well, each of them does, and all their changes are made. -/
theorem of_sequence_eq_ok {ps : List (Plan Unit)} (h : (sequence ps).outcome = .ok ()) :
    (∀ p ∈ ps, p.outcome = .ok ()) ∧ (sequence ps).calls = ps.flatMap Plan.calls := by
  induction ps with
  | nil => exact ⟨fun _ hp => absurd hp List.not_mem_nil, rfl⟩
  | cons p ps ih =>
    obtain ⟨⟨⟩, hp, hrest, hcalls⟩ := of_bind_eq_ok h
    obtain ⟨hps, hmore⟩ := ih hrest
    exact ⟨List.forall_mem_cons.2 ⟨hp, hps⟩, hcalls.trans (congrArg (p.calls ++ ·) hmore)⟩

/-! ### Nothing to do -/

/-- Plans in a row leave nothing to do only if each of them does. -/
theorem eq_of_bind_eq {p : Plan α} {f : α → Plan β} {b : β} (h : p.bind f = ⟨[], .ok b⟩) :
    ∃ a, p = ⟨[], .ok a⟩ ∧ f a = ⟨[], .ok b⟩ := by
  rcases p with ⟨calls, e | a⟩
  · cases h
  · rw [bind_of_ok rfl] at h
    obtain ⟨hcalls, houtcome⟩ := Plan.mk.inj h
    obtain ⟨rfl, hrest⟩ := List.append_eq_nil_iff.1 hcalls
    exact ⟨a, rfl, by rw [← hrest, ← houtcome]⟩

/-- A plan that leaves nothing to do is not changed by the name of an operation. -/
theorem eq_of_within_eq {operation : String} {p : Plan α} {a : α}
    (h : p.within operation = ⟨[], .ok a⟩) : p = ⟨[], .ok a⟩ := by
  rcases p with ⟨calls, e | b⟩
  · cases h
  · exact h

/-- The case of a result that is known beforehand: nothing to do is left by the rest. -/
theorem eq_of_ofExcept_bind_eq {x : Except Error α} {f : α → Plan β} {b : β}
    (h : (ofExcept x).bind f = ⟨[], .ok b⟩) : ∃ a, x = .ok a ∧ f a = ⟨[], .ok b⟩ := by
  obtain ⟨a, hx, hf⟩ := eq_of_bind_eq h
  exact ⟨a, congrArg outcome hx, hf⟩

/-- If plans in a row leave nothing to do, none of them does. -/
theorem eq_of_sequence_eq {ps : List (Plan Unit)} (h : sequence ps = ⟨[], .ok ()⟩) :
    ∀ p ∈ ps, p = ⟨[], .ok ()⟩ := by
  induction ps with
  | nil => simp
  | cons p ps ih =>
    obtain ⟨⟨⟩, hp, hps⟩ := eq_of_bind_eq h
    exact List.forall_mem_cons.2 ⟨hp, ih hps⟩

end Plan

/-! ### Lookups -/

variable {α β : Type} {certificates : List Certificate} {p q : Operation α}

/-- An operation that only looks certificates up, and its result if nothing goes wrong. -/
def Reads (certificates : List Certificate) (p : Operation α) (x : Except Error α) : Prop :=
  ∀ w : World, w.inventory.certificates = certificates → w.Answers x (w.run p)

namespace Reads

/-- A result that is known beforehand is read without any lookup. -/
theorem ofExcept (x : Except Error α) : Reads certificates (Program.ofExcept x) x :=
  fun _ _ => ⟨rfl, .inl rfl, World.Adds.refl⟩

theorem bind {f : α → Operation β} {x : Except Error α} {y : α → Except Error β}
    (hp : Reads certificates p x) (hf : ∀ a, Reads certificates (f a) (y a)) :
    Reads certificates (p.bind f) (x.bind y) := by
  intro w hw
  obtain ⟨hinv, hout, hadds⟩ := hp w hw
  rw [World.run_bind]
  generalize hr : w.run p = result at hinv hout hadds
  obtain ⟨r, t⟩ := result
  simp only at hinv hout hadds
  cases r with
  | error e =>
    refine ⟨hinv, ?_, hadds⟩
    rcases hout with rfl | ⟨hcalm, -⟩
    · exact .inl rfl
    · exact .inr ⟨hcalm, e, rfl⟩
  | ok a =>
    obtain rfl : x = .ok a := by
      rcases hout with h | ⟨-, e, h⟩
      · exact h.symm
      · cases h
    obtain ⟨hinv', hout', hadds'⟩ := hf a t (by rw [hinv, hw])
    refine ⟨hinv'.trans hinv, ?_, fun hcalm => ?_⟩
    · rcases hout' with h | ⟨hcalm, herror⟩
      · exact .inl h
      · exact .inr ⟨fun hw => hcalm (hadds hw).calm, herror⟩
    · exact (hadds hcalm).trans (hadds' (hadds hcalm).calm)

theorem within {x : Except Error α} (hp : Reads certificates p x) (operation : String) :
    Reads certificates (p.within operation) (x.mapError (.within operation)) := by
  intro w hw
  obtain ⟨hinv, hout, hadds⟩ := hp w hw
  rw [World.run_within]
  refine ⟨hinv, ?_, hadds⟩
  rcases hout with h | ⟨hcalm, e, h⟩
  · exact .inl (by rw [h])
  · exact .inr ⟨hcalm, .within operation e, by rw [h]; rfl⟩

/-- In a calm world there is no way but to the result. -/
theorem eq_of_calm {x : Except Error α} (hp : Reads certificates p x) {w : World} (hw : w.Calm)
    (hc : w.inventory.certificates = certificates) : (w.run p).1 = x := by
  rcases (hp w hc).2.1 with h | ⟨hcalm, -⟩
  · exact h
  · exact absurd hw hcalm

end Reads

/-! ### Following a plan -/

/-- How far a run from a world with this load balancer has come with a plan.  It has made changes
from the front of the plan, and all of them unless something went wrong. -/
structure Reached (w : World) (lb : LoadBalancer) (plan : Plan α)
    (result : Except Error α × World) : Prop where
  partway : ∃ made left mid, plan.calls = made ++ left ∧ revised? made lb = some mid ∧
    result.2.inventory.Alike (w.inventory.replace mid) ∧
    (left = [] ∧ result.1 = plan.outcome ∨ ¬ w.Calm ∧ ∃ e, result.1 = .error e)
  adds : w.Calm → w.Adds result.2 plan.calls

/-- An operation keeps to a plan whenever the plan can be carried out. -/
def Follows (certificates : List Certificate) (p : Operation α) (plan : Plan α) : Prop :=
  ∀ (w : World) (lb fin : LoadBalancer), w.inventory.Ordered →
    w.inventory.find? lb.id = some lb → w.inventory.certificates = certificates →
    revised? plan.calls lb = some fin → Reached w lb plan (w.run p)

/-- An operation that only looks certificates up follows the plan without changes. -/
theorem Reads.follows {x : Except Error α} (hp : Reads certificates p x) :
    Follows certificates p (.ofExcept x) := by
  intro w lb fin ho hf hw _
  obtain ⟨hinv, hout, hadds⟩ := hp w hw
  refine ⟨⟨[], [], lb, rfl, rfl, ?_, ?_⟩, hadds⟩
  · rw [hinv, Inventory.replace_self ho hf]
  · exact hout.imp_left fun h => ⟨rfl, h⟩

namespace Follows

/-- An operation that asks for nothing follows the plan without changes. -/
theorem ofExcept (x : Except Error α) : Follows certificates (Program.ofExcept x) (.ofExcept x) :=
  (Reads.ofExcept x).follows

theorem within {plan : Plan α} (hp : Follows certificates p plan) (operation : String) :
    Follows certificates (p.within operation) (plan.within operation) := by
  intro w lb fin ho hf hw hfin
  obtain ⟨⟨made, left, mid, hcalls, hmade, hinv, hout⟩, hadds⟩ := hp w lb fin ho hf hw hfin
  rw [World.run_within]
  refine ⟨⟨made, left, mid, hcalls, hmade, hinv, ?_⟩, hadds⟩
  rcases hout with ⟨hleft, h⟩ | ⟨hcalm, e, h⟩
  · exact .inl ⟨hleft, by simp only [h, Plan.within]⟩
  · exact .inr ⟨hcalm, .within operation e, by rw [h]; rfl⟩

/-- Operations in a row follow their plans in a row.  The second one starts from the load balancer
that the first one has left. -/
theorem bind {f : α → Operation β} {plan : Plan α} {next : α → Plan β}
    (hp : Follows certificates p plan) (hf : ∀ a, Follows certificates (f a) (next a)) :
    Follows certificates (p.bind f) (plan.bind next) := by
  intro w lb fin ho hlb hw hfin
  -- The first plan can be carried out, as a longer one that begins with it can.
  have hstart : ∃ mid, revised? plan.calls lb = some mid := by
    obtain ⟨more, hmore⟩ := plan.exists_calls_bind next
    rw [hmore, revised?_append] at hfin
    obtain ⟨mid, hmid, -⟩ := Option.bind_eq_some_iff.1 hfin
    exact ⟨mid, hmid⟩
  obtain ⟨end₁, hend₁⟩ := hstart
  obtain ⟨⟨made, left, mid, hcalls, hmade, hinv, hout⟩, hadds⟩ := hp w lb end₁ ho hlb hw hend₁
  rw [World.run_bind]
  generalize hr : w.run p = result at hinv hout hadds
  obtain ⟨r, t⟩ := result
  simp only at hinv hout hadds
  cases r with
  | error e =>
    obtain ⟨more, hmore⟩ := plan.exists_calls_bind next
    -- The first operation was to end with an error, or it was cut short; either way the second one
    -- is not reached.
    rcases hout with ⟨rfl, houtcome⟩ | ⟨hcalm, -⟩
    · rw [Plan.bind_of_error houtcome.symm]
      exact ⟨⟨made, [], mid, hcalls, hmade, hinv, .inl ⟨rfl, rfl⟩⟩, hadds⟩
    · refine ⟨⟨made, left ++ more, mid, ?_, hmade, hinv, .inr ⟨hcalm, e, rfl⟩⟩,
        fun h => absurd h hcalm⟩
      rw [hmore, hcalls, List.append_assoc]
  | ok a =>
    -- An operation that is cut short ends with an error, so the first plan was carried out to its
    -- end.
    obtain ⟨rfl, houtcome⟩ : left = [] ∧ Except.ok a = plan.outcome := by
      rcases hout with h | ⟨-, e, h⟩
      · exact h
      · cases h
    rw [List.append_nil] at hcalls
    rw [Plan.bind_of_ok houtcome.symm, revised?_append, hcalls, hmade] at hfin
    have hid := id_of_revised? hmade
    obtain ⟨⟨made', left', last, hcalls', hmade', hinv', hout'⟩, hadds'⟩ :=
      hf a t mid fin (hinv.ordered (Inventory.ordered_replace ho))
        (by rw [hinv.find?, Inventory.find?_replace (hid ▸ hlb) rfl])
        (by rw [hinv.certificates, Inventory.certificates_replace, hw]) hfin
    have hid' := id_of_revised? hmade'
    rw [Plan.bind_of_ok houtcome.symm]
    refine ⟨⟨plan.calls ++ made', left', last, ?_, ?_, ?_, ?_⟩, fun hcalm => ?_⟩
    · rw [hcalls', List.append_assoc]
    · rw [revised?_append, hcalls, hmade]
      exact hmade'
    · refine hinv'.trans ((hinv.replace last).trans ?_)
      rw [Inventory.replace_replace hid'.symm]
    · rcases hout' with h | ⟨hcalm, herror⟩
      · exact .inl h
      · exact .inr ⟨fun hw => hcalm (hadds hw).calm, herror⟩
    · exact (hadds hcalm).trans (hadds' (hadds hcalm).calm)

end Follows

/-! ### Single changes -/

/-- The two ways in which a revision can end: refused by the script, or carried out.  When it is
carried out its action may still be under way or be given up. -/
theorem run_call_revision {c : Call} {lb new : LoadBalancer} {w : World} (ho : w.inventory.Ordered)
    (hf : w.inventory.find? lb.id = some lb) (h : c.revise? lb = some new) :
    (∃ e, (w.perform c).1 = .error e ∧ (w.perform c).2.inventory = w.inventory ∧ ¬ w.Calm) ∨
      ∃ reply, (w.perform c).1 = .ok reply ∧
        (w.perform c).2.inventory.Alike (w.inventory.replace new) ∧
        (w.Calm → c.IsDone reply ∧ (w.perform c).2.Calm ∧ (w.perform c).2.log = w.log ++ [c]) := by
  obtain ⟨reply, n, hp, hdone⟩ := Inventory.perform_of_revise? ho hf h
  rcases World.perform_cases w c with ⟨code, rest, hnamed, ht⟩ | ⟨-, ⟨e, herror, -⟩ | ⟨_, _, hok, ht⟩⟩
  · exact .inl ⟨_, by rw [ht], by rw [ht]; rfl, World.not_calm_of_takeNamed? hnamed⟩
  · rw [hp] at herror
    cases herror
  · rw [hp] at hok
    cases hok
    refine .inr ⟨_, by rw [ht], ?_, fun hcalm => ?_⟩
    · rw [ht, World.inventory_amended]
      exact ⟨rfl, rfl⟩
    · have hcalmed := World.perform_of_calm hcalm c
      rw [hp, ht] at hcalmed
      obtain ⟨h₁, h₂⟩ := Prod.mk.inj hcalmed
      rw [Except.ok.inj h₁, ht, h₂]
      exact ⟨hdone, hcalm, rfl⟩

/-- Waiting for the action in a reply ends with an error only if something went wrong. -/
theorem run_awaitReply (w : World) (c : Call) (reply : c.Reply) :
    (w.run (awaitReply c reply)).2.inventory = w.inventory ∧
      (c.IsDone reply → w.run (awaitReply c reply) = (.ok (), w)) := by
  rw [awaitReply]
  split
  · rename_i a ha
    exact ⟨rfl, fun hdone => World.await_of_success (hdone a ha)⟩
  · exact ⟨rfl, fun _ => rfl⟩

/-- What makes something of a load balancer is a change: a lookup leaves every load balancer as it
is. -/
theorem isMutation_of_revise? {c : Call} {lb new : LoadBalancer} (h : c.revise? lb = some new) :
    c.isMutation = true := by
  have h := alter?_of_revise? h
  cases c <;> first | rfl | simp [Call.alter?] at h

/-- A stretch that consists of one revision. -/
theorem adds_of_revise? {c : Call} {lb new : LoadBalancer} {w after : World}
    (h : c.revise? lb = some new) (hcalm : after.Calm) (hlog : after.log = w.log ++ [c]) :
    w.Adds after [c] := by
  have hadds := World.Adds.single hcalm hlog fun id hid => by
    have := isMutation_of_revise? h
    rw [hid] at this
    cases this
  rwa [if_pos (isMutation_of_revise? h)] at hadds

/-- The plan of a single change that is made at once and waited for. -/
private theorem reached_of_call {c : Call} {lb new : LoadBalancer} {w : World}
    (ho : w.inventory.Ordered) (hf : w.inventory.find? lb.id = some lb)
    (h : c.revise? lb = some new) :
    Reached w lb (.make [c]) (w.run ((call c).bind (awaitReply c))) := by
  have hrevised : revised? [c] lb = some new := by
    rw [revised?_cons, h]
    rfl
  rw [World.run_bind, World.run_call]
  rcases run_call_revision ho hf h with ⟨e, he, hsame, hcalm⟩ | ⟨reply, hok, halike, hwhen⟩
  · generalize w.perform c = result at he hsame
    obtain ⟨r, t⟩ := result
    obtain rfl : r = .error e := he
    refine ⟨⟨[], [c], lb, rfl, rfl, ?_, .inr ⟨hcalm, e, rfl⟩⟩, fun h => absurd h hcalm⟩
    rw [Inventory.replace_self ho hf, show t.inventory = w.inventory from hsame]
  · generalize w.perform c = result at hok halike hwhen
    obtain ⟨r, t⟩ := result
    obtain rfl : r = .ok reply := hok
    simp only at halike hwhen ⊢
    obtain ⟨hinv, hdone⟩ := run_awaitReply t c reply
    refine ⟨⟨[c], [], new, rfl, hrevised, ?_, ?_⟩, fun hcalm => ?_⟩
    · rw [hinv]
      exact halike
    -- The wait may fail though the change was made; that is an error after the plan, and not a part
    -- of it.
    · by_cases hcalm : w.Calm
      · rw [hdone (hwhen hcalm).1]
        exact .inl ⟨rfl, rfl⟩
      · cases hr : (t.run (awaitReply c reply)).1 with
        | ok u => exact .inl ⟨rfl, rfl⟩
        | error e => exact .inr ⟨hcalm, e, rfl⟩
    · obtain ⟨hd, hcalm', hlog⟩ := hwhen hcalm
      rw [hdone hd]
      exact adds_of_revise? h hcalm' hlog

/-- A call that is waited for makes one change. -/
theorem follows_callAndAwait (c : Call) : Follows certificates (callAndAwait c) (.make [c]) := by
  intro w lb fin ho hf _ hfin
  obtain ⟨new, hnew, -⟩ := Option.bind_eq_some_iff.1 hfin
  exact reached_of_call ho hf hnew

/-- The load balancer that a call was refused for is tried once more, after a pause. -/
theorem follows_retryOnce (c : Call) (d : Duration) :
    Follows certificates (((call c).retryOnce (pause d)).bind (awaitReply c)) (.make [c]) := by
  intro w lb fin ho hf _ hfin
  obtain ⟨new, hnew, -⟩ := Option.bind_eq_some_iff.1 hfin
  have hfirst := reached_of_call ho hf hnew
  rw [World.run_bind, World.run_call] at hfirst
  rw [World.run_bind, World.run_retryOnce, World.run_call]
  rcases run_call_revision ho hf hnew with ⟨e, he, hsame, hcalm⟩ | ⟨reply, hok, -, -⟩
  · generalize w.perform c = result at he hsame hfirst
    obtain ⟨r, t⟩ := result
    obtain rfl : r = .error e := he
    simp only at hfirst ⊢
    by_cases htransient : e.isTransient
    · rw [if_pos htransient, World.run_bind, World.run_pause]
      -- The second attempt starts from the same inventory, only later.
      have hsecond := reached_of_call (w := { t with clock := t.clock + d }) (by rwa [hsame])
        (by rwa [hsame]) hnew
      rw [World.run_bind, World.run_call] at hsecond
      obtain ⟨⟨made, left, mid, hcalls, hmade, halike, hout⟩, -⟩ := hsecond
      refine ⟨⟨made, left, mid, hcalls, hmade, ?_, ?_⟩, fun h => absurd h hcalm⟩
      · have hmoved : t.inventory.Alike w.inventory := by rw [hsame]
        exact halike.trans (hmoved.replace mid)
      · exact hout.imp_right fun h => ⟨hcalm, h.2⟩
    · rw [if_neg htransient]
      exact hfirst
  · generalize w.perform c = result at hok hfirst
    obtain ⟨r, t⟩ := result
    obtain rfl : r = .ok reply := hok
    exact hfirst

end BalancerSync.Cloud
