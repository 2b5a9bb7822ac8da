import BalancerSync.Proofs.Cloud.Events

/-!
# Orderly dealings with the cloud

An operation is orderly if it waits for every action before it calls again and stops at the first
failure, apart from the failures that it is known to get over: a search that finds nothing goes on,
and an attachment that comes at a bad time is tried once more.

The rules are those of an observer who follows the events and knows no program: `Stage.next?` tells
whether an event is in order and what may follow it.  Whatever the rules are to mean for a whole run
is derived from them here, about lists of events.

## Main Definitions

* `Stage`, `Stage.next?` — what may happen next, and how an event changes that
* `Phase.Turn` — what an event that is in order leads to
* `Observed` — an action that was seen to succeed
* `Disciplined` — what the rules come to for a run and its outcome

## Main Results

* `observed_of_after?` — an action is seen to succeed before the next call
* `failed_of_next?` — after any other failure nothing is in order
* `disciplined_of_after?` — events that are in order are disciplined
-/

namespace BalancerSync.Cloud

/-- Whether a call attaches a network. -/
def Call.attaches : Call → Bool
  | attachToNetwork _ _ _ => true
  | _ => false

namespace Event

/-- Nothing was found under a label. -/
def lacksLabel : Event → Bool
  | called (.listByLabel _) (.ok found) => found.isEmpty
  | called (.listByLabel _) (.error e) => e.isNotFound
  | _ => false

/-- Nothing was found under a name. -/
def lacksName : Event → Bool
  | called (.getByName _) (.ok found) => found.isNone
  | called (.getByName _) (.error e) => e.isNotFound
  | _ => false

/-- A network was to be attached. -/
def isAttempt : Event → Bool
  | called c _ => c.attaches
  | _ => false

/-- A network could not be attached, for the load balancer was busy. -/
def isBusy : Event → Bool
  | called c (.error e) => c.attaches && e.isTransient
  | _ => false

theorem isAttempt_of_isBusy {x : Event} (h : x.isBusy = true) : x.isAttempt = true := by
  cases x with
  | called c answer =>
    cases answer with
    | ok reply => cases h
    | error e => exact (Bool.and_eq_true_iff.1 h).1
  | _ => cases h

end Event

/-! ### The rules -/

/-- What a run looks for, and what it creates if it creates anything. -/
structure Aim where
  name : String
  creation : Option (Except Error NewLoadBalancer)

/-- What a run can create. -/
def Aim.new? (aim : Aim) : Option NewLoadBalancer := aim.creation.bind Except.toOption

/-- Something can be created only where working out what to create succeeds. -/
theorem Aim.creation_of_new? {aim : Aim} {o : NewLoadBalancer} (h : aim.new? = some o) :
    aim.creation = some (.ok o) := by
  obtain ⟨outcome, hcreation, ho⟩ := Option.bind_eq_some_iff.1 h
  cases outcome with
  | ok options => rw [hcreation, Option.some.inj ho]
  | error e => cases ho

/-- What may happen next. -/
inductive Phase where
  | ready
  /-- An action is to be polled. -/
  | waiting (id : Int)
  /-- A call is to be made again. -/
  | busy (c : Call)
  /-- Nothing was found by its label. -/
  | unlabelled
  /-- Nothing was found at all. -/
  | unnamed
  | failed (e : Error)
  | lapsed

namespace Phase

/-- An action was seen. -/
def seen (id : Int) (a : Action) : Phase :=
  match a.status with
  | .running => waiting id
  | .success => ready
  | .error => failed a.failure

/-- A call was answered with a reply. -/
def replied (c : Call) (reply : c.Reply) : Phase :=
  match c.action? reply with
  | some a => seen a.id a
  | none => ready

/-- A call was answered. -/
def answered (c : Call) (answer : Except Error c.Reply) : Phase :=
  if (Event.called c answer).lacksLabel then unlabelled
  else if (Event.called c answer).lacksName then unnamed
  else match answer with
    | .ok reply => replied c reply
    | .error e => failed e

/-- The phase after an event, unless that is out of order.  Networks are attached once only; `tried`
tells whether that was tried before. -/
def next? (aim : Aim) (tried : Bool) : Phase → Event → Option Phase
  | ready, .called c answer =>
    if c.attaches && tried then none
    else if (Event.called c answer).isBusy then some (busy c)
    else some (answered c answer)
  | busy c, .called d answer => if d = c ∧ tried = true then some (answered d answer) else none
  | unlabelled, .called (.getByName name) answer =>
    if name = aim.name then some (answered (.getByName name) answer) else none
  | unnamed, .called (.create o) answer =>
    if aim.new? = some o then some (answered (.create o) answer) else none
  | waiting id, .polled other (.ok a) => if other = id then some (seen id a) else none
  | waiting id, .polled other (.error e) => if other = id then some (failed e) else none
  | ready, .lapsed _ => some lapsed
  | _, _ => none

/-- An operation that ends in this phase may end with this error. -/
def Explains (aim : Aim) : Phase → Error → Prop
  | ready, _ => True
  | failed cause, e => e.root = cause
  | lapsed, e => ∃ text, e.root = .timeout text
  | unnamed, e => ∃ cause, aim.creation = some (.error cause) ∧ e.root = cause.root
  | waiting _, _ | busy _, _ | unlabelled, _ => False

end Phase

/-- What may happen next, and whether attaching a network was tried. -/
structure Stage where
  phase : Phase
  tried : Bool

namespace Stage

variable {aim : Aim} {s t : Stage} {x : Event} {xs ys : List Event}

/-- The stage after an event, unless that is out of order. -/
def next? (aim : Aim) (s : Stage) (x : Event) : Option Stage :=
  (s.phase.next? aim s.tried x).map fun phase => ⟨phase, s.tried || x.isAttempt⟩

/-- The stage after events, unless one is out of order. -/
def after? (aim : Aim) (s : Stage) (xs : List Event) : Option Stage := xs.foldlM (next? aim) s

@[simp] theorem after?_nil (s : Stage) : s.after? aim [] = some s := rfl

theorem after?_cons : s.after? aim (x :: xs) = some t ↔
    ∃ u, s.next? aim x = some u ∧ u.after? aim xs = some t := by
  rw [after?, List.foldlM_cons]
  exact Option.bind_eq_some_iff

/-- Events are judged one by one, so a run may be cut anywhere. -/
theorem after?_append : s.after? aim (xs ++ ys) = some t ↔
    ∃ u, s.after? aim xs = some u ∧ u.after? aim ys = some t := by
  rw [after?, List.foldlM_append]
  exact Option.bind_eq_some_iff

theorem exists_of_after?_append_cons (h : s.after? aim (xs ++ x :: ys) = some t) :
    ∃ u v, s.after? aim xs = some u ∧ u.next? aim x = some v ∧ v.after? aim ys = some t := by
  obtain ⟨u, hxs, hrest⟩ := after?_append.1 h
  obtain ⟨v, hx, hys⟩ := after?_cons.1 hrest
  exact ⟨u, v, hxs, hx, hys⟩

/-- A stage moves as its phase does, and remembers whether attaching a network was tried. -/
theorem next?_eq_some : s.next? aim x = some t ↔
    s.phase.next? aim s.tried x = some t.phase ∧ t.tried = (s.tried || x.isAttempt) := by
  obtain ⟨phase, tried⟩ := t
  simp only [next?, Option.map_eq_some_iff, Stage.mk.injEq]
  constructor
  · rintro ⟨p, hp, rfl, rfl⟩
    exact ⟨hp, rfl⟩
  · rintro ⟨hp, rfl⟩
    exact ⟨phase, hp, rfl, rfl⟩

/-- An attempt to attach a network is remembered. -/
theorem tried_after? (h : s.after? aim xs = some t) :
    t.tried = (s.tried || xs.any Event.isAttempt) := by
  induction xs generalizing s with
  | nil =>
    obtain rfl := Option.some.inj h
    simp
  | cons x xs ih =>
    obtain ⟨u, hx, hxs⟩ := after?_cons.1 h
    rw [ih hxs, (next?_eq_some.1 hx).2, List.any_cons, Bool.or_assoc]

end Stage

/-! ### What the rules mean -/

section Rules

variable {aim : Aim} {tried : Bool} {s t u : Stage} {p q : Phase} {x : Event} {xs : List Event}
  {c : Call} {e : Error} {id : Int} {a : Action}

/-- A call that came at a bad time is made again as it was, and not a third time: `tried` holds, so
that another bad time is a failure. -/
theorem Phase.eq_of_next?_busy (h : (busy c).next? aim tried x = some q) :
    ∃ answer, x = .called c answer ∧ q = answered c answer ∧ tried = true := by
  cases x with
  | called d answer =>
    simp only [next?] at h
    split at h
    · rename_i hagain
      obtain ⟨rfl, htried⟩ := hagain
      exact ⟨answer, rfl, (Option.some.inj h).symm, htried⟩
    · cases h
  | _ => cases h

/-- After a label that is not there the name is looked for, and nothing else. -/
theorem Phase.eq_of_next?_unlabelled (h : unlabelled.next? aim tried x = some q) :
    ∃ answer, x = .called (.getByName aim.name) answer ∧
      q = answered (.getByName aim.name) answer := by
  cases x with
  | called c answer =>
    cases c with
    | getByName name =>
      simp only [next?] at h
      split at h
      · rename_i hname
        subst hname
        exact ⟨answer, rfl, (Option.some.inj h).symm⟩
      · cases h
    | _ => cases h
  | _ => cases h

/-- After a name that is not there only a creation is in order, and only the one that the run aims
at. -/
theorem Phase.eq_of_next?_unnamed (h : unnamed.next? aim tried x = some q) :
    ∃ o answer, aim.new? = some o ∧ x = .called (.create o) answer ∧
      q = answered (.create o) answer := by
  cases x with
  | called c answer =>
    cases c with
    | create o =>
      simp only [next?] at h
      split at h
      · rename_i hnew
        exact ⟨o, answer, hnew, rfl, (Option.some.inj h).symm⟩
      · cases h
    | _ => cases h
  | _ => cases h

/-- What an event that is in order leads to. -/
inductive Phase.Turn (tried : Bool) (p : Phase) : Event → Phase → Prop where
  | answered {c : Call} {answer : Except Error c.Reply} :
    ((Event.called c answer).isBusy = true → tried = true) →
    (c.attaches = true → tried = true → p = busy c) →
    Turn tried p (.called c answer) (answered c answer)
  | busy {c : Call} {e : Error} : (Event.called c (.error e)).isBusy = true → tried = false →
    Turn tried p (.called c (.error e)) (busy c)
  | seen {id : Int} {a : Action} : Turn tried p (.polled id (.ok a)) (seen id a)
  | refused {id : Int} {e : Error} : Turn tried p (.polled id (.error e)) (failed e)
  | lapsed {c : Call} : Turn tried p (.lapsed c) lapsed

/-- The rules as an inductive relation, with one constructor for each way to go on.  Proofs about an
event in order split on this and need not open `Phase.next?`. -/
theorem Phase.turn_of_next? (h : p.next? aim tried x = some q) : Turn tried p x q := by
  cases p with
  | ready =>
    cases x with
    | called c answer =>
      simp only [next?] at h
      split at h
      · cases h
      · rename_i hagain
        rw [Bool.and_eq_true_iff, not_and] at hagain
        split at h
        · rename_i hbusy
          obtain rfl := Option.some.inj h
          have htried : tried = false :=
            Bool.eq_false_iff.2 (hagain (Event.isAttempt_of_isBusy hbusy))
          cases answer with
          | ok reply => cases hbusy
          | error e => exact .busy hbusy htried
        · rename_i hbusy
          obtain rfl := Option.some.inj h
          exact .answered (fun hb => absurd hb hbusy) fun hc ht => absurd ht (hagain hc)
    | polled id answer => cases h
    | lapsed c =>
      obtain rfl := Option.some.inj h
      exact .lapsed
  | waiting id =>
    cases x with
    | polled other answer =>
      cases answer with
      | ok a =>
        simp only [next?] at h
        split at h
        · rename_i hid
          obtain rfl := Option.some.inj h
          exact hid ▸ .seen
        · cases h
      | error e =>
        simp only [next?] at h
        split at h
        · obtain rfl := Option.some.inj h
          exact .refused
        · cases h
    | _ => cases h
  | busy d =>
    obtain ⟨answer, rfl, rfl, htried⟩ := eq_of_next?_busy h
    exact .answered (fun _ => htried) fun _ _ => rfl
  | unlabelled =>
    obtain ⟨answer, rfl, rfl⟩ := eq_of_next?_unlabelled h
    exact .answered (fun hb => by cases answer <;> cases hb) nofun
  | unnamed =>
    obtain ⟨o, answer, -, rfl, rfl⟩ := eq_of_next?_unnamed h
    exact .answered (fun hb => by cases answer <;> cases hb) nofun
  | failed | lapsed => cases h

/-- After a failure nothing is in order, nor is anything after a lookup that was given up. -/
theorem after?_of_stuck (hs : (∃ e, s.phase = .failed e) ∨ s.phase = .lapsed)
    (h : s.after? aim xs = some t) : xs = [] ∧ t = s := by
  cases xs with
  | nil => exact ⟨rfl, (Option.some.inj h).symm⟩
  | cons x xs =>
    obtain ⟨u, hx, -⟩ := Stage.after?_cons.1 h
    obtain ⟨hphase, -⟩ := Stage.next?_eq_some.1 hx
    rcases hs with ⟨e, hs⟩ | hs <;> rw [hs] at hphase <;> cases hphase

theorem next?_failed (x : Event) : (⟨.failed e, tried⟩ : Stage).next? aim x = none := rfl

/-- An action was seen to succeed, at once or by a poll. -/
def Observed (id : Int) (a : Action) (xs : List Event) : Prop :=
  a.status = .success ∨ ∃ later, .polled id (.ok later) ∈ xs ∧ later.status = .success

/-- An action is seen to succeed before the next call. -/
theorem observed_of_after? {answer : Except Error c.Reply}
    (h : (⟨.seen id a, tried⟩ : Stage).after? aim xs = some t)
    (hcall : t.next? aim (.called c answer) = some u) : Observed id a xs := by
  induction xs generalizing a tried with
  | nil =>
    obtain rfl := Option.some.inj h
    cases hstatus : a.status with
    | success => exact .inl hstatus
    | running | error =>
      rw [Phase.seen, hstatus] at hcall
      cases hcall
  | cons x xs ih =>
    obtain ⟨v, hx, hxs⟩ := Stage.after?_cons.1 h
    cases hstatus : a.status with
    | success => exact .inl hstatus
    | error =>
      rw [Phase.seen, hstatus, next?_failed] at hx
      cases hx
    | running =>
      obtain ⟨hphase, -⟩ := Stage.next?_eq_some.1 hx
      rw [Phase.seen, hstatus] at hphase
      cases x with
      | called c answer | lapsed c => cases hphase
      | polled other answer =>
        cases answer with
        | error e =>
          simp only [Phase.next?] at hphase
          split at hphase
          · have hfailed : v.phase = .failed e := (Option.some.inj hphase).symm
            obtain ⟨hnext, -⟩ := Stage.next?_eq_some.1 hcall
            rw [(after?_of_stuck (.inl ⟨e, hfailed⟩) hxs).2, hfailed] at hnext
            cases hnext
          · cases hphase
        | ok later =>
          simp only [Phase.next?] at hphase
          split at hphase
          · rename_i hid
            subst hid
            obtain ⟨phase, tried⟩ := v
            obtain rfl : Phase.seen other later = phase := Option.some.inj hphase
            -- What was polled is looked at in the same way as the action itself.
            rcases ih hxs with hnow | ⟨last, hlast, hsuccess⟩
            · exact .inr ⟨later, List.mem_cons_self, hnow⟩
            · exact .inr ⟨last, List.mem_cons_of_mem _ hlast, hsuccess⟩
          · cases hphase

/-- A label that is not there is no failure, however the cloud says so. -/
theorem Phase.answered_of_lacksLabel {answer : Except Error c.Reply}
    (h : (Event.called c answer).lacksLabel = true) : answered c answer = unlabelled :=
  if_pos h

/-- A name that is not there is no failure either.  The two searches are made by different calls, so
the order in which `answered` asks makes no difference. -/
theorem Phase.answered_of_lacksName {answer : Except Error c.Reply}
    (h : (Event.called c answer).lacksName = true) : answered c answer = unnamed := by
  cases c with
  | getByName name => exact (if_neg Bool.false_ne_true).trans (if_pos h)
  | _ => cases h

theorem Phase.answered_of_error (hlabel : (Event.called c (.error e)).lacksLabel = false)
    (hname : (Event.called c (.error e)).lacksName = false) : answered c (.error e) = failed e := by
  simp [answered, hlabel, hname]

/-- A reply with an action is not a search, and is followed as the action goes. -/
theorem Phase.answered_of_action {reply : c.Reply} (h : c.action? reply = some a) :
    answered c (.ok reply) = seen a.id a := by
  cases c with
  | listByLabel | getByName => cases h
  | _ =>
    change replied _ reply = _
    simp only [replied, h]

/-- A failure is the end, unless the rules say how to get over it. -/
theorem failed_of_next? (h : s.next? aim x = some t) (hx : x.failure? = some e)
    (hlabel : x.lacksLabel = false) (hname : x.lacksName = false)
    (hbusy : x.isBusy = true → s.tried = true) : t.phase = .failed e := by
  have hturn := Phase.turn_of_next? (Stage.next?_eq_some.1 h).1
  generalize t.phase = q at hturn
  cases hturn with
  | @answered c answer =>
    cases answer with
    | error cause =>
      obtain rfl : cause = e := Option.some.inj hx
      exact Phase.answered_of_error hlabel hname
    | ok reply =>
      obtain ⟨a, ha, hfailure⟩ := Option.bind_eq_some_iff.1 hx
      split at hfailure
      · rename_i hstatus
        rw [Phase.answered_of_action ha, Phase.seen, hstatus, ← Option.some.inj hfailure]
      · cases hfailure
  | busy hagain htried =>
    rw [hbusy hagain] at htried
    cases htried
  | @seen id a =>
    simp only [Event.failure?] at hx
    split at hx
    · rename_i hstatus
      rw [Phase.seen, hstatus, ← Option.some.inj hx]
    · cases hx
  | refused => exact congrArg Phase.failed (Option.some.inj hx)
  | lapsed => cases hx

/-- The first attempt to attach a network that comes at a bad time is to be repeated. -/
theorem busy_of_next? (h : s.next? aim (.called c (.error e)) = some t)
    (hbusy : (Event.called c (.error e)).isBusy = true) (htried : s.tried = false) :
    t.phase = .busy c := by
  have hturn := Phase.turn_of_next? (Stage.next?_eq_some.1 h).1
  rw [htried] at hturn
  generalize t.phase = q at hturn
  cases hturn with
  | answered hagain => cases hagain hbusy
  | busy => rfl

/-- After an event in order that finds nothing under a label, the name is still to be looked for. -/
theorem unlabelled_of_next? (h : s.next? aim x = some t) (hx : x.lacksLabel = true) :
    t.phase = .unlabelled := by
  have hturn := Phase.turn_of_next? (Stage.next?_eq_some.1 h).1
  generalize t.phase = q at hturn
  cases hturn with
  | answered => exact Phase.answered_of_lacksLabel hx
  | @busy c e hbusy =>
    cases c with
    | listByLabel => cases hbusy
    | _ => cases hx
  | _ => cases hx

/-- After an event in order that finds nothing under a name, a creation is all that may follow. -/
theorem unnamed_of_next? (h : s.next? aim x = some t) (hx : x.lacksName = true) :
    t.phase = .unnamed := by
  have hturn := Phase.turn_of_next? (Stage.next?_eq_some.1 h).1
  generalize t.phase = q at hturn
  cases hturn with
  | answered => exact Phase.answered_of_lacksName hx
  | @busy c e hbusy =>
    cases c with
    | getByName => cases hbusy
    | _ => cases hx
  | _ => cases hx

/-! #### Attempts to attach a network -/

/-- Seeing an action leaves no call to be made again. -/
theorem Phase.seen_ne_busy (d : Call) : seen id a ≠ busy d := by
  rw [seen]
  split <;> nofun

/-- Nor does an answer: a bad time is told apart before answers are looked at. -/
theorem Phase.answered_ne_busy (d : Call) (answer : Except Error c.Reply) :
    answered c answer ≠ busy d := by
  rw [answered.eq_def]
  split
  · nofun
  · split
    · nofun
    · cases answer with
      | error e => nofun
      | ok reply =>
        simp only [replied]
        split
        · exact seen_ne_busy d
        · nofun

/-- A network is attached once only. -/
theorem any_isAttempt_of_after? (hs : s.tried = true) (hbusy : ∀ c, s.phase ≠ .busy c)
    (h : s.after? aim xs = some t) : xs.any Event.isAttempt = false := by
  induction xs generalizing s with
  | nil => rfl
  | cons x xs ih =>
    obtain ⟨u, hx, hxs⟩ := Stage.after?_cons.1 h
    obtain ⟨hphase, htried⟩ := Stage.next?_eq_some.1 hx
    rw [hs] at hphase htried
    have hnone : x.isAttempt = false ∧ ∀ d, u.phase ≠ .busy d := by
      generalize u.phase = q at hphase
      cases Phase.turn_of_next? hphase with
      | @answered c answer _ hagain =>
        have hattaches : c.attaches = false := by
          cases hc : c.attaches with
          | true => exact absurd (hagain hc rfl) (hbusy c)
          | false => rfl
        exact ⟨hattaches, fun d => Phase.answered_ne_busy d answer⟩
      | busy _ hfalse => cases hfalse
      | seen => exact ⟨rfl, fun d => Phase.seen_ne_busy d⟩
      | refused | lapsed => exact ⟨rfl, fun d h => by cases h⟩
    rw [List.any_cons, hnone.1, Bool.false_or]
    exact ih htried hnone.2 hxs

/-! #### All together -/

/-- A result with a property, or an error that the last stage explains. -/
def Explained {α : Type} (aim : Aim) (Q : α → Stage → Prop) : Except Error α → Stage → Prop
  | .ok a, t => Q a t
  | .error e, t => t.phase.Explains aim e

/-- A run ends with nothing open; where nothing is to be created, it may have found nothing. -/
def Ends (aim : Aim) (t : Stage) : Prop :=
  t.phase = .ready ∨ t.phase = .unnamed ∧ aim.creation = none

/-- What the rules come to: `xs` are the events of a run that looked for the load balancer with a
name and was to create what `creation` says, and `outcome` is how it ended. -/
structure Disciplined {α : Type} (name : Except Error String)
    (creation : Option (Except Error NewLoadBalancer)) (xs : List Event)
    (outcome : Except Error α) : Prop where
  /-- A call is made only when the action that the one before has started was seen to succeed. -/
  sequential : ∀ {before c reply a between d answer rest},
    xs = before ++ .called c (.ok reply) :: (between ++ .called d answer :: rest) →
    c.action? reply = some a → Observed a.id a between
  /-- A failure is the end and the error of the run, unless it is one of the following. -/
  stops : ∀ {before x rest e}, xs = before ++ x :: rest → x.failure? = some e →
    x.lacksLabel = false → x.lacksName = false →
    (x.isBusy = true → before.any Event.isAttempt = true) →
    rest = [] ∧ ∃ cause, outcome = .error cause ∧ cause.root = e
  /-- So is a lookup that was given up. -/
  lapses : ∀ {before c rest}, xs = before ++ .lapsed c :: rest →
    rest = [] ∧ ∃ cause text, outcome = .error cause ∧ cause.root = .timeout text
  /-- A first attempt to attach a network to a busy load balancer is followed by another one, which
  is the last. -/
  retries : ∀ {before c e rest}, xs = before ++ .called c (.error e) :: rest →
    (Event.called c (.error e)).isBusy = true → before.any Event.isAttempt = false →
    ∃ answer later, rest = .called c answer :: later ∧ later.any Event.isAttempt = false
  /-- Where the label is not found the name is looked for. -/
  unlabelled : ∀ {before x rest}, xs = before ++ x :: rest → x.lacksLabel = true →
    ∃ n answer later, name = .ok n ∧ rest = .called (.getByName n) answer :: later
  /-- Where the name is not found either, the load balancer is created, or else the run ends. -/
  unnamed : ∀ {before x rest}, xs = before ++ x :: rest → x.lacksName = true →
    match creation with
    | some (.ok o) => ∃ answer later, rest = .called (.create o) answer :: later
    | some (.error cause) => rest = [] ∧ ∃ e, outcome = .error e ∧ e.root = cause.root
    | none => rest = [] ∧ ∃ a, outcome = .ok a

/-- Nothing was done at all. -/
theorem disciplined_nil {α : Type} {name : Except Error String}
    {creation : Option (Except Error NewLoadBalancer)} {outcome : Except Error α} :
    Disciplined name creation [] outcome := by
  have hnil : ∀ {before : List Event} {x rest}, [] ≠ before ++ x :: rest := by simp
  exact ⟨fun h => absurd h hnil, fun h => absurd h hnil, fun h => absurd h hnil,
    fun h => absurd h hnil, fun h => absurd h hnil, fun h => absurd h hnil⟩

section Ended

variable {α : Type} {outcome : Except Error α}

/-- An operation that ends after a failure ends with that failure, under the names of the operations
it belongs to. -/
theorem error_of_failed (hend : Explained aim (fun _ t => Ends aim t) outcome t)
    (ht : t.phase = .failed e) : ∃ cause, outcome = .error cause ∧ cause.root = e := by
  cases outcome with
  | ok a => rcases hend with h | ⟨h, -⟩ <;> rw [ht] at h <;> cases h
  | error cause =>
    refine ⟨cause, rfl, ?_⟩
    rw [Explained, ht] at hend
    exact hend

/-- An operation that gave up a lookup ends with a timeout. -/
theorem error_of_lapsed (hend : Explained aim (fun _ t => Ends aim t) outcome t)
    (ht : t.phase = .lapsed) : ∃ cause text, outcome = .error cause ∧ cause.root = .timeout text := by
  cases outcome with
  | ok a => rcases hend with h | ⟨h, -⟩ <;> rw [ht] at h <;> cases h
  | error cause =>
    rw [Explained, ht] at hend
    obtain ⟨text, htext⟩ := hend
    exact ⟨cause, text, rfl, htext⟩

/-- An open phase is not the last. -/
theorem ne_nil_of_open (hend : Explained aim (fun _ t => Ends aim t) outcome t)
    (h : s.after? aim xs = some t) (hs : (∃ c, s.phase = .busy c) ∨ s.phase = .unlabelled) :
    xs ≠ [] := by
  rintro rfl
  obtain rfl := Option.some.inj h
  cases outcome with
  | ok a =>
    rcases hs with ⟨c, hs⟩ | hs <;> rcases hend with h | ⟨h, -⟩ <;> rw [hs] at h <;> cases h
  | error e => rcases hs with ⟨c, hs⟩ | hs <;> rw [Explained, hs] at hend <;> exact hend

/-- Events that are in order are disciplined. -/
theorem disciplined_of_after? (h : (⟨.ready, false⟩ : Stage).after? aim xs = some t)
    (hend : Explained aim (fun _ t => Ends aim t) outcome t) :
    Disciplined (.ok aim.name) aim.creation xs outcome where
  sequential := by
    rintro before c reply a between d answer rest rfl haction
    obtain ⟨u, v, -, hcall, hrest⟩ := Stage.exists_of_after?_append_cons h
    obtain ⟨y, z, hbetween, hnext, -⟩ := Stage.exists_of_after?_append_cons hrest
    obtain ⟨hphase, -⟩ := Stage.next?_eq_some.1 hcall
    obtain ⟨phase, tried⟩ := v
    have hseen : phase = .seen a.id a := by
      cases Phase.turn_of_next? hphase with
      | answered => exact Phase.answered_of_action haction
    subst hseen
    exact observed_of_after? hbetween hnext
  stops := by
    rintro before x rest e rfl hfailure hlabel hname hbusy
    obtain ⟨u, v, hbefore, hx, hrest⟩ := Stage.exists_of_after?_append_cons h
    -- Only a first attempt to attach a network could have been let pass.
    have htried : u.tried = before.any Event.isAttempt := Stage.tried_after? hbefore
    have hfailed := failed_of_next? hx hfailure hlabel hname fun hb => htried.trans (hbusy hb)
    obtain ⟨hnil, rfl⟩ := after?_of_stuck (.inl ⟨e, hfailed⟩) hrest
    exact ⟨hnil, error_of_failed hend hfailed⟩
  lapses := by
    rintro before c rest rfl
    obtain ⟨u, v, -, hx, hrest⟩ := Stage.exists_of_after?_append_cons h
    have hlapsed : v.phase = .lapsed := by
      have hturn := Phase.turn_of_next? (Stage.next?_eq_some.1 hx).1
      generalize v.phase = q at hturn
      cases hturn with
      | lapsed => rfl
    obtain ⟨hnil, rfl⟩ := after?_of_stuck (.inr hlapsed) hrest
    exact ⟨hnil, error_of_lapsed hend hlapsed⟩
  retries := by
    rintro before c e rest rfl hbusy hfirst
    obtain ⟨u, v, hbefore, hx, hrest⟩ := Stage.exists_of_after?_append_cons h
    have htried : u.tried = false := (Stage.tried_after? hbefore).trans hfirst
    have hagain : v.phase = .busy c := busy_of_next? hx hbusy htried
    cases rest with
    -- A run cannot end while a call is to be made again.
    | nil => exact absurd rfl (ne_nil_of_open hend hrest (.inl ⟨c, hagain⟩))
    | cons y later =>
      obtain ⟨u', hy, hlater⟩ := Stage.after?_cons.1 hrest
      obtain ⟨hphase, htried'⟩ := Stage.next?_eq_some.1 hy
      rw [hagain] at hphase
      obtain ⟨answer, rfl, hanswered, hsecond⟩ := Phase.eq_of_next?_busy hphase
      refine ⟨answer, later, rfl, any_isAttempt_of_after? ?_ (fun d => ?_) hlater⟩
      · rw [htried', hsecond, Bool.true_or]
      · rw [hanswered]
        exact Phase.answered_ne_busy d answer
  unlabelled := by
    rintro before x rest rfl hx
    obtain ⟨u, v, -, hnext, hrest⟩ := Stage.exists_of_after?_append_cons h
    have hmissing : v.phase = .unlabelled := unlabelled_of_next? hnext hx
    cases rest with
    | nil => exact absurd rfl (ne_nil_of_open hend hrest (.inr hmissing))
    | cons y later =>
      obtain ⟨u', hy, -⟩ := Stage.after?_cons.1 hrest
      obtain ⟨hphase, -⟩ := Stage.next?_eq_some.1 hy
      rw [hmissing] at hphase
      obtain ⟨answer, rfl, -⟩ := Phase.eq_of_next?_unlabelled hphase
      exact ⟨aim.name, answer, later, rfl, rfl⟩
  unnamed := by
    rintro before x rest rfl hx
    obtain ⟨u, v, -, hnext, hrest⟩ := Stage.exists_of_after?_append_cons h
    have hmissing : v.phase = .unnamed := unnamed_of_next? hnext hx
    cases rest with
    | nil =>
      obtain rfl := Option.some.inj hrest
      cases outcome with
      | ok a =>
        rcases hend with hready | ⟨-, hnone⟩
        · rw [hmissing] at hready
          cases hready
        · rw [hnone]
          exact ⟨rfl, a, rfl⟩
      | error e =>
        rw [Explained, hmissing] at hend
        obtain ⟨cause, hcause, hroot⟩ := hend
        rw [hcause]
        exact ⟨rfl, e, rfl, hroot⟩
    | cons y later =>
      obtain ⟨u', hy, -⟩ := Stage.after?_cons.1 hrest
      obtain ⟨hphase, -⟩ := Stage.next?_eq_some.1 hy
      rw [hmissing] at hphase
      obtain ⟨o, answer, hnew, rfl, -⟩ := Phase.eq_of_next?_unnamed hphase
      rw [Aim.creation_of_new? hnew]
      exact ⟨answer, later, rfl⟩

end Ended

end Rules

end BalancerSync.Cloud
