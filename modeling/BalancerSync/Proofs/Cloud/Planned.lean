import BalancerSync.Proofs.Cloud.Events
import BalancerSync.Proofs.Cloud.Plan
import BalancerSync.Proofs.Cloud.Preservation

/-!
# Operations that are put together from a plan

That an operation follows a plan says where a run of it can end, provided that the plan can be
carried out.  It says little about what the cloud was asked, and nothing about a load balancer that
is not the one the plan was made for.  Both can be read off the way in which the operation is put
together: from lookups, which are no part of the plan, and from single changes, which are.

A run that ends well has then made the changes of the plan, each once and in their order, whatever
load balancer the plan was made for and whatever else went wrong.  It has asked for nothing else,
but for a change that was refused and tried again, and for lookups of other things than load
balancers by their identifiers.

## Main Definitions

* `Call.Consults` — a lookup, but not of a load balancer by its identifier
* `Consults` — an operation that makes such lookups only
* `Planned` — an operation that is put together from lookups and the changes of a plan
* `Fulfils` — what a run that ends well was asked, and what a plan says

## Main Results

* `Planned.follows` — such an operation follows the plan
* `Planned.fulfils` — a run that ends well has made the changes of the plan
* `Planned.tells` — its result tells whether there were any
-/

namespace BalancerSync.Cloud

variable {α β : Type} {certificates : List Certificate} {c : Call} {w after : World}

/-! ### Certificates stay -/

/-- No call changes which certificates there are. -/
theorem Inventory.certificates_of_perform {inv after : Inventory} {reply : c.Reply}
    (h : inv.perform c = .ok (reply, after)) : after.certificates = inv.certificates := by
  cases c with
  | update id change | delete id =>
    simp only [perform, update, delete] at h
    split at h
    · cases h
    · obtain ⟨-, rfl⟩ := Prod.mk.inj (Except.ok.inj h)
      rfl
  | create o =>
    simp only [perform, create] at h
    split at h
    · cases h
    · obtain ⟨-, rfl⟩ := Prod.mk.inj (Except.ok.inj h)
      rfl
  | changeAlgorithm | changeType | attachToNetwork | detachFromNetwork | enablePublicInterface
  | disablePublicInterface | addTarget | removeTarget | addService | updateService
  | deleteService =>
    unfold perform at h
    obtain ⟨-, -, -, -, rfl⟩ := act_eq_ok h
    rfl
  | _ =>
    obtain ⟨-, rfl⟩ := Prod.mk.inj (Except.ok.inj h)
    rfl

/-- No run changes which certificates there are. -/
theorem World.certificates_run (w : World) (p : Operation α) :
    (w.run p).2.inventory.certificates = w.inventory.certificates := by
  have hasks : p.Asks fun _ => True := Program.Asks.of_forall (fun _ => trivial) p
  refine hasks.run (I := fun t : World => t.inventory.certificates = w.inventory.certificates)
    (fun q t _ ht => ?_) rfl
  rcases (handled t q).inventory with hsame | ⟨c, reply, -, hok⟩
  · rw [hsame, ht]
  · rw [Inventory.certificates_of_perform hok, ht]

/-! ### Lookups -/

/-- A lookup, but not of a load balancer by its identifier. -/
def Call.Consults (c : Call) : Prop := c.isMutation = false ∧ ∀ id, c ≠ .getById id

/-- A request whose call, if it makes one, is such a lookup. -/
def Request.Consults (q : effect.Request) : Prop := ∀ c, q.call? = some c → c.Consults

theorem consults_getAction (id : Int) : (Call.getAction id).Consults := ⟨rfl, fun _ h => by cases h⟩

/-- An operation that makes such lookups only, and its result if nothing goes wrong. -/
structure Consults (certificates : List Certificate) (p : Operation α) (x : Except Error α) :
    Prop where
  reads : Reads certificates p x
  asks : p.Asks Request.Consults

namespace Consults

theorem ofExcept (x : Except Error α) : Consults certificates (Program.ofExcept x) x :=
  ⟨.ofExcept x, .ofExcept x⟩

theorem bind {p : Operation α} {f : α → Operation β} {x : Except Error α}
    {y : α → Except Error β} (hp : Consults certificates p x)
    (hf : ∀ a, Consults certificates (f a) (y a)) : Consults certificates (p.bind f) (x.bind y) :=
  ⟨hp.reads.bind fun a => (hf a).reads, hp.asks.bind fun a => (hf a).asks⟩

theorem within {p : Operation α} {x : Except Error α} (hp : Consults certificates p x)
    (operation : String) :
    Consults certificates (p.within operation) (x.mapError (.within operation)) :=
  ⟨hp.reads.within operation, hp.asks.within operation⟩

end Consults

/-! ### Events -/

/-- The change that an event tells of, if it was made. -/
def Event.made? : Event → Option Call
  | called c (.ok _) => if c.isMutation then some c else none
  | called _ (.error _) | polled _ _ | lapsed _ => none

/-- A change that was made is one that was asked for. -/
theorem Event.received?_of_made? {e : Event} (h : e.made? = some c) :
    e.received? = some c ∧ c.isMutation = true := by
  obtain ⟨d, _ | reply⟩ | _ | _ := e
  · cases h
  · by_cases hd : d.isMutation
    · rw [made?, if_pos hd] at h
      obtain rfl := Option.some.inj h
      exact ⟨rfl, hd⟩
    · rw [made?, if_neg hd] at h
      cases h
  · cases h
  · cases h

/-- Where nothing failed, the changes that were asked for are those that were made. -/
theorem filter_received_of_unfailed {events : List Event} (h : ∀ e ∈ events, e.failure? = none) :
    (events.filterMap Event.received?).filter Call.isMutation = events.filterMap Event.made? := by
  induction events with
  | nil => rfl
  | cons e rest ih =>
    obtain ⟨he, hrest⟩ := List.forall_mem_cons.1 h
    have ih := ih hrest
    obtain ⟨c, _ | reply⟩ | ⟨id, answer⟩ | c := e
    · cases he
    · by_cases hc : c.isMutation <;>
        simpa [List.filterMap_cons, Event.received?, Event.made?, hc] using ih
    · exact ih
    · exact ih

/-- Waiting takes polls only. -/
theorem exists_of_mem_polls {a : Action} {answers : List (Except Error Action)} {e : Event}
    (h : e ∈ polls a answers) : ∃ id answer, e = .polled id answer := by
  induction answers generalizing a with
  | nil =>
    rw [polls.eq_def] at h
    split at h
    · cases h
    · exact ⟨_, _, List.mem_singleton.1 h⟩
  | cons answer rest ih =>
    rw [polls.eq_def] at h
    split at h
    · cases h
    · cases answer with
      | error cause => exact ⟨_, _, List.mem_singleton.1 h⟩
      | ok next =>
        rcases List.mem_cons.1 h with rfl | h
        · exact ⟨_, _, rfl⟩
        · exact ih h

namespace World

theorem exists_of_mem_events_awaitReply {reply : c.Reply} {e : Event}
    (h : e ∈ w.events (awaitReply c reply)) : ∃ id answer, e = .polled id answer := by
  rw [awaitReply] at h
  split at h
  · exact exists_of_mem_polls (by rwa [events_awaitAction] at h)
  · cases h

/-- A second attempt goes on from where the first was refused. -/
theorem events_retryOnce (w : World) (p : Operation α) (wait : Operation Unit) :
    w.events (p.retryOnce wait) = w.events p ++
      match w.run p with
      | (.ok _, _) => []
      | (.error e, t) => if e.isTransient then t.events (wait.bind fun _ => p) else [] := by
  rw [Program.retryOnce, events_bind, events_attempt, run_attempt]
  rcases w.run p with ⟨e | a, t⟩
  · by_cases h : e.isTransient <;> simp [h, Program.fail]
  · simp [Program.result]

theorem events_call_of_run {reply : c.Reply} (h : w.run (call c) = (.ok reply, after)) :
    w.events (call c) = [.called c (.ok reply)] := by
  rw [events_call, ← run_call, h]

/-- A call that is answered in the end was refused at most once before. -/
theorem exists_events_retryOnce {d : Duration} {reply : c.Reply}
    (h : w.run ((call c).retryOnce (pause d)) = (.ok reply, after)) :
    ∃ refused, w.events ((call c).retryOnce (pause d)) = refused ++ [.called c (.ok reply)] ∧
      ∀ e ∈ refused, ∃ cause, e = .called c (.error cause) := by
  rw [events_retryOnce, events_call]
  rw [run_retryOnce, run_call] at h
  rw [run_call]
  generalize w.perform c = result at h ⊢
  obtain ⟨cause | first, t⟩ := result
  · simp only at h ⊢
    split at h
    · rename_i htransient
      obtain ⟨⟨⟩, u, hpause, hagain⟩ := of_run_bind_eq_ok h
      refine ⟨[.called c (.error cause)], ?_, fun e he => ⟨cause, List.mem_singleton.1 he⟩⟩
      rw [if_pos htransient, events_bind, hpause, events_pause, List.nil_append]
      simp only
      rw [events_call_of_run hagain]
    · cases h
  · obtain ⟨hreply, -⟩ := Prod.mk.inj h
    exact ⟨[], by rw [Except.ok.inj hreply]; rfl, fun e he => by cases he⟩

/-- What an operation asks for shows up in its events, besides the polls. -/
theorem received_of_asks {P : Call → Prop} {p : Operation α}
    (hp : p.Asks fun q : effect.Request => ∀ c, q.call? = some c → P c)
    (hpoll : ∀ id, P (.getAction id)) {e : Event} (he : e ∈ w.events p)
    (hc : e.received? = some c) : P c := by
  obtain ⟨m, hm, he⟩ := List.mem_flatMap.1 he
  obtain ⟨hcall, -⟩ := hp.moments (I := fun _ => True) (fun _ _ _ _ => trivial) trivial m hm
  obtain ⟨t, q⟩ := m
  have hcalled : ∀ d answer, q.call? = some d → e = .called d answer → P c := by
    rintro d answer hd rfl
    obtain rfl := Option.some.inj hc
    exact hcall d hd
  cases q with
  | call d => exact hcalled d _ rfl (List.mem_singleton.1 he)
  | callWithin limit d =>
    rw [observe] at he
    split at he
    · rw [List.mem_singleton.1 he] at hc
      cases hc
    · exact hcalled d _ rfl (List.mem_singleton.1 he)
  | await a =>
    obtain ⟨id, answer, rfl⟩ := exists_of_mem_polls he
    obtain rfl := Option.some.inj hc
    exact hpoll id
  | pause d => cases he

/-- What an operation asks for is what it adds to the log, besides the polls. -/
theorem exists_log_of_asks {P : Call → Prop} {p : Operation α}
    (hp : p.Asks fun q : effect.Request => ∀ c, q.call? = some c → P c)
    (hpoll : ∀ id, P (.getAction id)) (w : World) :
    ∃ calls, (w.run p).2.log = w.log ++ calls ∧ ∀ c ∈ calls, P c := by
  refine ⟨_, log_run w p, fun c hc => ?_⟩
  obtain ⟨e, he, hc⟩ := List.mem_filterMap.1 hc
  exact received_of_asks hp hpoll he hc

end World

/-! ### Plans -/

/-- An operation that is put together from lookups and from the changes of a plan.  The attempt at
the last kind of change is repeated if the load balancer was busy. -/
inductive Planned (certificates : List Certificate) :
    {α : Type} → Operation α → Plan α → Prop where
  | reading {α : Type} {p : Operation α} {x : Except Error α} : Consults certificates p x →
    Planned certificates p (.ofExcept x)
  | change (c : Call) : Planned certificates (callAndAwait c) (.make [c])
  | insisted (c : Call) (d : Duration) :
    Planned certificates (((call c).retryOnce (pause d)).bind (awaitReply c)) (.make [c])
  | within {α : Type} {p : Operation α} {plan : Plan α} (operation : String) :
    Planned certificates p plan → Planned certificates (p.within operation) (plan.within operation)
  | bind {α β : Type} {p : Operation α} {plan : Plan α} {f : α → Operation β} {next : α → Plan β} :
    Planned certificates p plan → (∀ a, Planned certificates (f a) (next a)) →
    Planned certificates (p.bind f) (plan.bind next)

theorem Planned.ofExcept (x : Except Error α) :
    Planned certificates (Program.ofExcept x) (.ofExcept x) :=
  .reading (.ofExcept x)

/-- An operation that is put together from a plan follows it. -/
theorem Planned.follows {p : Operation α} {plan : Plan α} (h : Planned certificates p plan) :
    Follows certificates p plan := by
  induction h with
  | reading hconsults => exact hconsults.reads.follows
  | change c => exact follows_callAndAwait c
  | insisted c d => exact follows_retryOnce c d
  | within operation _ ih => exact ih.within operation
  | bind _ _ ihp ihf => exact ihp.bind ihf

/-- The changes that were made are those of the plan, in their order.  Whatever else was asked, and
was no change of the plan, was a lookup. -/
structure Fulfils (plan : Plan α) (events : List Event) : Prop where
  made : events.filterMap Event.made? = plan.calls.filter Call.isMutation
  asked : ∀ e ∈ events, ∀ c, e.received? = some c → c ∈ plan.calls ∨ c.Consults

/-- Lookups fulfil every plan without changes. -/
theorem Fulfils.of_consults {plan : Plan α} (hplan : plan.calls = []) {events : List Event}
    (h : ∀ e ∈ events, ∀ c, e.received? = some c → c.Consults) : Fulfils plan events := by
  refine ⟨?_, fun e he c hc => .inr (h e he c hc)⟩
  rw [hplan, List.filter_nil, List.filterMap_eq_nil_iff]
  intro e he
  refine Option.eq_none_iff_forall_ne_some.2 fun c hc => ?_
  obtain ⟨hreceived, hmutation⟩ := Event.received?_of_made? hc
  rw [(h e he c hreceived).1] at hmutation
  cases hmutation

theorem Fulfils.append {first : Plan α} {second : Plan β} {a : α} {f : α → Plan β}
    {events more : List Event} (ha : first.outcome = .ok a) (hsecond : f a = second)
    (h : Fulfils first events) (h' : Fulfils second more) :
    Fulfils (first.bind f) (events ++ more) := by
  subst hsecond
  rw [Plan.bind_of_ok ha]
  constructor
  · rw [List.filterMap_append, List.filter_append, h.made, h'.made]
  · intro e he c hc
    rcases List.mem_append.1 he with he | he
    · exact (h.asked e he c hc).imp_left (List.mem_append_left _)
    · exact (h'.asked e he c hc).imp_left (List.mem_append_right _)

/-- A change that was made, perhaps after it was refused before, and the polls for its action. -/
theorem Fulfils.single {p : Operation c.Reply} {reply : c.Reply} {refused : List Event}
    (hrun : w.run p = (.ok reply, after))
    (hevents : w.events p = refused ++ [.called c (.ok reply)])
    (hrefused : ∀ e ∈ refused, ∃ cause, e = .called c (.error cause)) :
    Fulfils (.make [c]) (w.events (p.bind (awaitReply c))) := by
  rw [World.events_bind, hrun, hevents, List.append_assoc, List.singleton_append]
  simp only
  have hpolled : ∀ e ∈ after.events (awaitReply c reply), ∃ id answer, e = .polled id answer :=
    fun e he => World.exists_of_mem_events_awaitReply he
  generalize after.events (awaitReply c reply) = polled at hpolled
  constructor
  · have hnone : refused.filterMap Event.made? = [] := by
      rw [List.filterMap_eq_nil_iff]
      intro e he
      obtain ⟨cause, rfl⟩ := hrefused e he
      rfl
    have hpolls : polled.filterMap Event.made? = [] := by
      rw [List.filterMap_eq_nil_iff]
      intro e he
      obtain ⟨id, answer, rfl⟩ := hpolled e he
      rfl
    rw [List.filterMap_append, hnone, List.filterMap_cons, hpolls, List.nil_append]
    by_cases hc : c.isMutation <;> simp [Event.made?, Plan.make, hc]
  · intro e he d hd
    rcases List.mem_append.1 he with he | he
    · obtain ⟨cause, rfl⟩ := hrefused e he
      exact .inl (List.mem_singleton.2 (Option.some.inj hd).symm)
    rcases List.mem_cons.1 he with rfl | he
    · exact .inl (List.mem_singleton.2 (Option.some.inj hd).symm)
    · obtain ⟨id, answer, rfl⟩ := hpolled e he
      obtain rfl := Option.some.inj hd
      exact .inr (consults_getAction id)

/-- A run that ends well has made the changes of the plan, and its result is that of the plan. -/
theorem Planned.fulfils {p : Operation α} {plan : Plan α} (h : Planned certificates p plan)
    (hw : w.inventory.certificates = certificates) {a : α} (hrun : w.run p = (.ok a, after)) :
    plan.outcome = .ok a ∧ Fulfils plan (w.events p) := by
  induction h generalizing w after with
  | @reading _ p x hconsults =>
    refine ⟨?_, .of_consults rfl fun e he c hc =>
      World.received_of_asks hconsults.asks consults_getAction he hc⟩
    obtain ⟨-, hout, -⟩ := hconsults.reads w hw
    rw [hrun] at hout
    rcases hout with hout | ⟨-, e, he⟩
    · exact hout.symm
    · cases he
  | change c =>
    obtain ⟨reply, t, hcall, -⟩ := World.of_run_bind_eq_ok hrun
    have hevents : w.events (call c) = [] ++ [.called c (.ok reply)] :=
      World.events_call_of_run hcall
    exact ⟨rfl, .single hcall hevents fun e he => absurd he List.not_mem_nil⟩
  | insisted c d =>
    obtain ⟨reply, t, hcall, -⟩ := World.of_run_bind_eq_ok hrun
    obtain ⟨refused, hevents, hrefused⟩ := World.exists_events_retryOnce hcall
    exact ⟨rfl, .single hcall hevents hrefused⟩
  | within operation _ ih =>
    obtain ⟨houtcome, hfulfils⟩ := ih hw (World.of_run_within_eq_ok hrun)
    refine ⟨by rw [Plan.within, houtcome]; rfl, ?_⟩
    rw [World.events_within]
    exact ⟨hfulfils.made, hfulfils.asked⟩
  | @bind _ _ p plan f next _ _ ihp ihf =>
    obtain ⟨b, t, hfirst, hsecond⟩ := World.of_run_bind_eq_ok hrun
    obtain ⟨hb, hp⟩ := ihp hw hfirst
    -- The second plan is made with the certificates from before the first operation, which are
    -- still there.
    have ht : t.inventory.certificates = certificates := by
      have hkept := World.certificates_run w p
      rw [hfirst] at hkept
      exact hkept.trans hw
    obtain ⟨ha, hf⟩ := ihf b ht hsecond
    refine ⟨by rw [Plan.bind_of_ok hb, ha], ?_⟩
    rw [World.events_bind, hfirst]
    exact hp.append hb rfl hf

/-- An operation that tells whether its plan has any changes tells whether it has asked for any. -/
theorem Planned.tells {p : Operation Bool} {plan : Plan Unit}
    (h : Planned certificates p plan.telling) (hplan : ∀ c ∈ plan.calls, c.isMutation = true)
    (hw : w.inventory.certificates = certificates) {b : Bool} (hrun : w.run p = (.ok b, after)) :
    ∃ calls, after.log = w.log ++ calls ∧ (b = true ↔ ∃ c ∈ calls, c.isMutation = true) ∧
      ∀ id, .getById id ∉ calls := by
  obtain ⟨houtcome, hmade, hasked⟩ := h.fulfils hw hrun
  obtain ⟨-, rfl⟩ := Plan.outcome_of_telling_ok houtcome
  have hlog := World.log_run w p
  rw [hrun] at hlog
  have hplanned : ∀ c ∈ (w.events p).filterMap Event.received?, c ∈ plan.calls ∨ c.Consults := by
    intro c hc
    obtain ⟨e, he, hc⟩ := List.mem_filterMap.1 hc
    exact hasked e he c hc
  refine ⟨_, hlog, ⟨fun hany => ?_, ?_⟩, fun id hid => ?_⟩
  · obtain ⟨c, hc⟩ := List.exists_mem_of_ne_nil plan.calls (by simpa using hany)
    have hdone : c ∈ (w.events p).filterMap Event.made? := by
      rw [hmade]
      exact List.mem_filter.2 ⟨hc, hplan c hc⟩
    obtain ⟨e, he, hc⟩ := List.mem_filterMap.1 hdone
    obtain ⟨hreceived, hmutation⟩ := Event.received?_of_made? hc
    exact ⟨c, List.mem_filterMap.2 ⟨e, he, hreceived⟩, hmutation⟩
  · rintro ⟨c, hc, hmutation⟩
    rcases hplanned c hc with hc | hconsults
    · simp [List.ne_nil_of_mem hc]
    · rw [hconsults.1] at hmutation
      cases hmutation
  · rcases hplanned _ hid with hid | hconsults
    · cases hplan _ hid
    · exact hconsults.2 id rfl

end BalancerSync.Cloud
