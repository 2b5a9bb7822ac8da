import BalancerSync.Proofs.Cloud.Discipline

/-!
# Operations that keep to the rules

`Leads` says of an operation that its events are in order in every world, and relates its outcome to
the last stage.  Operations are put together from others, and so are these statements; for a single
request the answer may be anything that the cloud or the script can answer.

## Main Definitions

* `Leads` — an operation that keeps to the rules

## Main Results

* `Leads.bind` — operations in a row keep to the rules
* `World.root_of_perform` — the cloud answers with causes
* `leads_awaitAction` — waiting for an action keeps to the rules
-/

namespace BalancerSync.Cloud

/-! ### Putting operations together -/

section Leads

variable {α β : Type} {aim : Aim} {s : Stage} {P Q : Except Error α → Stage → Prop}
  {R : Except Error β → Stage → Prop} {p : Operation α} {f : α → Operation β}

/-- In every world an operation keeps to the rules, and its outcome and the last stage are
related. -/
def Leads (aim : Aim) (s : Stage) (Q : Except Error α → Stage → Prop) (p : Operation α) : Prop :=
  ∀ w : World, ∃ t, s.after? aim (w.events p) = some t ∧ Q (w.run p).1 t

/-- The name of an operation around an error does not matter. -/
theorem Phase.explains_within {p : Phase} {operation : String} {e : Error} :
    p.Explains aim (.within operation e) ↔ p.Explains aim e := by
  cases p <;> rfl

namespace Leads

theorem done {outcome : Except Error α} (h : Q outcome s) : Leads aim s Q (.done outcome) :=
  fun _ => ⟨s, rfl, h⟩

theorem mono (hp : Leads aim s P p) (h : ∀ r t, P r t → Q r t) : Leads aim s Q p := by
  intro w
  obtain ⟨t, hpath, hP⟩ := hp w
  exact ⟨t, hpath, h _ t hP⟩

/-- The second operation goes on from the stages to which the first leads. -/
theorem bind_of_yields (hp : Leads aim s P p)
    (hf : ∀ a t, p.Yields a → P (.ok a) t → Leads aim t R (f a))
    (he : ∀ e t, P (.error e) t → R (.error e) t) : Leads aim s R (p.bind f) := by
  intro w
  obtain ⟨t, hpath, hP⟩ := hp w
  have hyields : ∀ a, (w.run p).1 = .ok a → p.Yields a := fun a h => Program.yields_of_run h
  rw [World.events_bind, World.run_bind]
  generalize w.run p = result at hP hyields
  obtain ⟨r, v⟩ := result
  cases r with
  | ok a =>
    obtain ⟨u, hrest, hR⟩ := hf a t (hyields a rfl) hP v
    exact ⟨u, Stage.after?_append.2 ⟨t, hpath, hrest⟩, hR⟩
  | error e => exact ⟨t, Stage.after?_append.2 ⟨t, hpath, rfl⟩, he e t hP⟩

/-- The second operation has to keep to the rules from every stage that the first may lead to.
After an error there is no second one, and what was said of the error has to do. -/
theorem bind (hp : Leads aim s P p) (hf : ∀ a t, P (.ok a) t → Leads aim t R (f a))
    (he : ∀ e t, P (.error e) t → R (.error e) t) : Leads aim s R (p.bind f) :=
  hp.bind_of_yields (fun a t _ => hf a t) he

/-- An operation whose errors are caught has the same events.  Only what is said of the outcome
changes. -/
theorem attempt {T : Except Error (Except Error α) → Stage → Prop} (hp : Leads aim s P p)
    (h : ∀ r t, P r t → T (.ok r) t) : Leads aim s T p.attempt := by
  intro w
  obtain ⟨t, hpath, hP⟩ := hp w
  rw [World.events_attempt, World.run_attempt]
  exact ⟨t, hpath, h _ t hP⟩

theorem within (hp : Leads aim s P p) (operation : String)
    (h : ∀ r t, P r t → Q (r.mapError (.within operation)) t) :
    Leads aim s Q (p.within operation) := by
  intro w
  obtain ⟨t, hpath, hP⟩ := hp w
  rw [World.events_within, World.run_within]
  exact ⟨t, hpath, h _ t hP⟩

/-- An error is explained by the last stage whatever operations it is put down to, as its root stays
the same. -/
theorem explained_within {A : α → Stage → Prop} (hp : Leads aim s (Explained aim A) p)
    (operation : String) : Leads aim s (Explained aim A) (p.within operation) := by
  refine hp.within operation fun r t h => ?_
  cases r with
  | ok a => exact h
  | error e => exact Phase.explains_within.2 h

/-- For outcomes that are explained by the last stage nothing is to be shown about errors: an error
ends the whole, and stays explained. -/
theorem explained_bind {A : α → Stage → Prop} {B : β → Stage → Prop}
    (hp : Leads aim s (Explained aim A) p)
    (hf : ∀ a t, A a t → Leads aim t (Explained aim B) (f a)) :
    Leads aim s (Explained aim B) (p.bind f) :=
  hp.bind hf fun _ _ h => h

/-- Only what is said of good outcomes can be weakened here; errors stay explained. -/
theorem explained_mono {A B : α → Stage → Prop} (hp : Leads aim s (Explained aim A) p)
    (h : ∀ a t, A a t → B a t) : Leads aim s (Explained aim B) p := by
  refine hp.mono fun r t hr => ?_
  cases r with
  | ok a => exact h a t hr
  | error e => exact hr

/-- What is computed takes no events. -/
theorem ofExcept_bind {x : Except Error α} {tried : Bool} {B : β → Stage → Prop}
    (hf : ∀ a, x = .ok a → Leads aim ⟨.ready, tried⟩ (Explained aim B) (f a)) :
    Leads aim ⟨.ready, tried⟩ (Explained aim B) ((Program.ofExcept x).bind f) := by
  cases x with
  | ok a => exact hf a rfl
  | error e => exact done trivial

/-- A search that finds nothing has a result, though the cloud answered with an error.  The three
conditions are the three ways such an operation can end. -/
theorem ifFound {T : Except Error (Option α) → Stage → Prop} (hp : Leads aim s P p)
    (hok : ∀ a t, P (.ok a) t → T (.ok (some a)) t)
    (hmissing : ∀ e t, P (.error e) t → e.isNotFound = true → T (.ok none) t)
    (hother : ∀ e t, P (.error e) t → e.isNotFound = false → T (.error e) t) :
    Leads aim s T p.ifFound := by
  intro w
  obtain ⟨t, hpath, hP⟩ := hp w
  rw [World.events_ifFound, World.run_ifFound]
  refine ⟨t, hpath, ?_⟩
  generalize w.run p = result at hP
  obtain ⟨r, v⟩ := result
  cases r with
  | ok a => exact hok a t hP
  | error e =>
    cases he : e.isNotFound with
    | true => simpa [he] using hmissing e t hP he
    | false => simpa [he] using hother e t hP he

end Leads

/-! ### Single requests -/

/-- An action that cannot be started is refused with a cause, if the change itself is. -/
theorem Inventory.root_of_act {inv : Inventory} {id : Int} {command : String} {e : Error}
    {f : LoadBalancer → Except Error LoadBalancer} (h : inv.act id command f = .error e)
    (hf : ∀ lb cause, f lb = .error cause → cause.root = cause) : e.root = e := by
  rw [act] at h
  split at h
  · rw [← Except.error.inj h]
    rfl
  · split at h
    · rename_i hcause
      rw [← Except.error.inj h]
      exact hf _ _ hcause
    · cases h

/-- The cloud answers with causes. -/
theorem Inventory.root_of_perform {inv : Inventory} {c : Call} {e : Error}
    (h : inv.perform c = .error e) : e.root = e := by
  cases c with
  | create o =>
    simp only [perform, create] at h
    split at h
    · rw [← Except.error.inj h]
      rfl
    · cases h
  | update id change | delete id =>
    simp only [perform, update, delete] at h
    split at h
    · rw [← Except.error.inj h]
      rfl
    · cases h
  | changeAlgorithm | changeType | attachToNetwork | detachFromNetwork | enablePublicInterface
  | disablePublicInterface | removeTarget | deleteService =>
    unfold perform at h
    exact root_of_act h fun lb cause hcause => by cases hcause
  | addTarget =>
    unfold perform at h
    refine root_of_act h fun lb cause hcause => ?_
    rw [withTarget] at hcause
    split at hcause
    · rw [← Except.error.inj hcause]
      rfl
    · cases hcause
  | addService =>
    unfold perform at h
    refine root_of_act h fun lb cause hcause => ?_
    rw [withService] at hcause
    split at hcause
    · rw [← Except.error.inj hcause]
      rfl
    · cases hcause
  | updateService =>
    unfold perform at h
    refine root_of_act h fun lb cause hcause => ?_
    rw [withServiceChange] at hcause
    split at hcause
    · cases hcause
    · rw [← Except.error.inj hcause]
      rfl
  | _ => cases h

/-- Whether the script refuses a call or the cloud does, the error is a cause and no account of one.
So an operation that ends with it can be held against the event itself. -/
theorem World.root_of_perform {w : World} {c : Call} {e : Error} (h : (w.perform c).1 = .error e) :
    e.root = e := by
  rcases World.perform_cases w c with ⟨code, rest, -, ht⟩ | ⟨-, ⟨cause, he, ht⟩ | ⟨_, _, -, ht⟩⟩
  · rw [ht] at h
    rw [← Except.error.inj h]
    rfl
  · rw [ht] at h
    rw [← Except.error.inj h]
    exact Inventory.root_of_perform he
  · rw [ht] at h
    cases h

variable {α : Type} {aim : Aim} {s : Stage} {tried : Bool}

/-- A call keeps to the rules if it is in order however it is answered. -/
theorem leads_call {c : Call} {Q : Except Error c.Reply → Stage → Prop}
    (h : ∀ answer : Except Error c.Reply, (∀ e, answer = .error e → e.root = e) →
      ∃ t, s.next? aim (.called c answer) = some t ∧ Q answer t) : Leads aim s Q (call c) := by
  intro w
  obtain ⟨t, hnext, hQ⟩ := h (w.perform c).1 fun e he => World.root_of_perform he
  exact ⟨t, Stage.after?_cons.2 ⟨t, hnext, rfl⟩, hQ⟩

/-- A call about which the rules say nothing in particular. -/
def Call.isPlain : Call → Bool
  | listByLabel _ | getByName _ | attachToNetwork _ _ _ => false
  | _ => true

/-- After such a call the reply decides alone, and an error is a failure. -/
theorem Phase.answered_of_isPlain {c : Call} (h : c.isPlain = true)
    (answer : Except Error c.Reply) : answered c answer =
      match answer with
      | .ok reply => replied c reply
      | .error e => failed e := by
  cases c with
  | listByLabel | getByName | attachToNetwork => cases h
  | _ => cases answer <;> rfl

/-- Such a call is in order whenever nothing is outstanding. -/
theorem Stage.next?_of_isPlain {c : Call} (h : c.isPlain = true) (answer : Except Error c.Reply) :
    (⟨.ready, tried⟩ : Stage).next? aim (.called c answer) = some ⟨.answered c answer, tried⟩ := by
  cases c with
  | listByLabel | getByName | attachToNetwork => cases h
  | _ =>
    cases answer <;>
      simp [next?, Phase.next?, Call.attaches, Event.isBusy, Event.isAttempt]

/-- A call of this kind keeps to the rules, however it is answered. -/
theorem leads_call_of_isPlain {c : Call} (h : c.isPlain = true) :
    Leads aim ⟨.ready, tried⟩ (Explained aim fun reply t => t = ⟨.replied c reply, tried⟩)
      (call c) := by
  refine leads_call fun answer hroot => ⟨_, Stage.next?_of_isPlain h answer, ?_⟩
  rw [Phase.answered_of_isPlain h]
  cases answer with
  | ok reply => rfl
  | error e => exact hroot e rfl

/-- A lookup that has to be answered in time. -/
theorem leads_callWithin (limit : Duration) {c : Call} (h : c.isPlain = true)
    (haction : ∀ reply, c.action? reply = none) :
    Leads aim ⟨.ready, tried⟩
      (Explained aim fun found t => t = ⟨if found.isSome then .ready else .lapsed, tried⟩)
      (callWithin limit c) := by
  intro w
  have hrun : w.run (callWithin limit c) = World.handle (.callWithin limit c) w := rfl
  rw [World.events_callWithin, hrun, World.handle]
  by_cases hsilent : w.isSilent c = true
  · rw [if_pos hsilent, if_pos hsilent]
    refine ⟨⟨.lapsed, tried⟩, Stage.after?_cons.2 ⟨_, ?_, rfl⟩, rfl⟩
    simp [Stage.next?, Phase.next?, Event.isAttempt]
  · rw [if_neg hsilent, if_neg hsilent]
    refine ⟨_, Stage.after?_cons.2 ⟨_, Stage.next?_of_isPlain h _, rfl⟩, ?_⟩
    rw [Phase.answered_of_isPlain h]
    cases hanswer : (w.perform c).1 with
    | ok reply =>
      simp only [hanswer, Phase.replied, haction]
      rfl
    | error e =>
      simp only [hanswer]
      exact World.root_of_perform hanswer

theorem leads_pause (d : Duration) :
    Leads aim s (fun r t => r = .ok () ∧ t = s) (pause d) :=
  fun _ => ⟨s, rfl, rfl, rfl⟩

theorem root_failure (a : Action) : a.failure.root = a.failure := by
  rw [Action.failure]
  split <;> rfl

/-- The polls of a wait are in order, and its outcome is that of the last. -/
theorem exists_after?_polls {a : Action} {answers : List (Except Error Action)}
    (hid : ∀ next, .ok next ∈ answers → next.id = a.id)
    (hroot : ∀ e, .error e ∈ answers → e.root = e) :
    ∃ t, (⟨.seen a.id a, tried⟩ : Stage).after? aim (polls a answers) = some t ∧
      Explained aim (fun _ t => t = ⟨.ready, tried⟩) (outcome (watch a answers).items) t := by
  have hstopped : ∀ {e : Error}, e.root = e →
      ∃ t, (⟨.waiting a.id, tried⟩ : Stage).after? aim [.polled a.id (.error e)] = some t ∧
        Explained aim (fun (_ : Unit) t => t = ⟨.ready, tried⟩) (.error e) t := by
    intro e he
    refine ⟨⟨.failed e, tried⟩, Stage.after?_cons.2 ⟨_, ?_, rfl⟩, he⟩
    simp [Stage.next?, Phase.next?, Event.isAttempt]
  induction answers generalizing a with
  | nil =>
    rw [polls.eq_def, watch.eq_def, Phase.seen, Action.settled?]
    cases a.status with
    | running => exact hstopped rfl
    | success => exact ⟨_, rfl, rfl⟩
    | error => exact ⟨_, rfl, root_failure a⟩
  | cons answer rest ih =>
    rw [polls.eq_def, watch.eq_def, Phase.seen, Action.settled?]
    cases a.status with
    | success => exact ⟨_, rfl, rfl⟩
    | error => exact ⟨_, rfl, root_failure a⟩
    | running =>
      cases answer with
      | error e => exact hstopped (hroot e List.mem_cons_self)
      | ok next =>
        have hnext := hid next List.mem_cons_self
        obtain ⟨t, hpath, houtcome⟩ := ih (a := next)
          (fun later h => (hid later (List.mem_cons_of_mem _ h)).trans hnext.symm)
          (fun e h => hroot e (List.mem_cons_of_mem _ h)) (by rwa [hnext])
        refine ⟨t, Stage.after?_cons.2 ⟨_, ?_, hpath⟩, houtcome⟩
        simp [Stage.next?, Phase.next?, Event.isAttempt, hnext]

/-- Waiting for an action keeps to the rules. -/
theorem leads_awaitAction (a : Action) :
    Leads aim ⟨.seen a.id a, tried⟩ (Explained aim fun _ t => t = ⟨.ready, tried⟩)
      (awaitAction a) := by
  intro w
  rw [World.events_awaitAction, World.run_awaitAction]
  refine exists_after?_polls (fun next h => ?_) fun e h => ?_
  · rw [World.answers] at h
    split at h
    · cases List.mem_singleton.1 h
    · rcases List.mem_append.1 h with h | h
      · obtain ⟨answer, -, hanswer⟩ := List.mem_map.1 h
        cases answer with
        | report r => rw [← Except.ok.inj hanswer]; rfl
        | refuse code => cases hanswer
      · rw [Except.ok.inj (List.mem_singleton.1 h)]
        rfl
  · rw [World.answers] at h
    split at h
    · rw [Except.error.inj (List.mem_singleton.1 h)]
      rfl
    · rcases List.mem_append.1 h with h | h
      · obtain ⟨answer, -, hanswer⟩ := List.mem_map.1 h
        cases answer with
        | report r => cases hanswer
        | refuse code => rw [← Except.error.inj hanswer]; rfl
      · cases List.mem_singleton.1 h

/-- What follows a reply keeps to the rules: its action is waited for, if it has one. -/
theorem leads_awaitReply (c : Call) (reply : c.Reply) :
    Leads aim ⟨.replied c reply, tried⟩ (Explained aim fun _ t => t = ⟨.ready, tried⟩)
      (awaitReply c reply) := by
  rw [awaitReply, Phase.replied]
  cases c.action? reply with
  | some a => exact leads_awaitAction a
  | none => exact Leads.done rfl

/-- A change that is waited for keeps to the rules, and everything is settled when it ends well. -/
theorem leads_callAndAwait {c : Call} (h : c.isPlain = true) :
    Leads aim ⟨.ready, tried⟩ (Explained aim fun _ t => t = ⟨.ready, tried⟩) (callAndAwait c) := by
  refine (leads_call_of_isPlain h).bind (fun reply t ht => ?_) fun e t ht => ht
  rw [ht]
  exact leads_awaitReply c reply

end Leads

end BalancerSync.Cloud
