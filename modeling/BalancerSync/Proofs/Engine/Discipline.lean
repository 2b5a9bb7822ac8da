import BalancerSync.Proofs.Cloud.Orderly
import BalancerSync.Proofs.Engine.Requests
import BalancerSync.Proofs.Engine.Start

/-!
# Passes are orderly

A pass waits for every change before it asks for the next, and it ends with the first failure.  It
gets over three failures only: a search that finds nothing goes on to the name and then to creating,
and a network that could not be attached because the load balancer was busy is attached once more.

That the pieces of a pass keep to the rules is shown for patient operations all at once; searches,
creating and attaching are each looked at on their own.  The rules begin with nothing tried, and the
only step that tries to attach a network runs once.

## Main Definitions

* `Steady` — an operation that keeps to the rules and leaves nothing open
* `Disciplined` — what the rules come to for the events of a run

## Main Results

* `Patient.steady` — patient operations are steady
* `leads_ensure`, `leads_update` — passes keep to the rules
* `disciplined` — passes are disciplined, in every world
-/

namespace BalancerSync.Engine

open Cloud (Call LoadBalancer World Operation NewLoadBalancer Aim Phase Stage Event Leads Explained
  Ends Disciplined)
open Cluster (Service Node)
open Desired (Balancer)

variable {engine : Engine} {service : Service} {wishes : Balancer} {nodes : List Node}
  {lb : LoadBalancer} {aim : Aim} {tried : Bool} {c : Call}

/-! ### Patient operations -/

/-- An operation that keeps to the rules and, unless it fails, leaves nothing open. -/
def Steady {α : Type} (aim : Aim) (p : Operation α) : Prop :=
  ∀ tried, Leads aim ⟨.ready, tried⟩ (Explained aim fun _ t => t = ⟨.ready, tried⟩) p

/-- Looking a certificate up is one call, of which the rules say nothing in particular. -/
theorem steady_resolveCertificate (reference : String) :
    Steady aim (Desired.resolveCertificate reference) := by
  intro tried
  rw [Desired.resolveCertificate]
  split
  · exact .done rfl
  · refine (Cloud.leads_callWithin _ rfl fun _ => rfl).bind (fun found t ht => ?_) fun e t h => h
    rcases found with _ | _ | certificate
    · subst ht
      exact .done ⟨_, rfl⟩
    · subst ht
      exact .done trivial
    · exact .done ht

/-- So is reloading a load balancer. -/
theorem steady_byId (id : Int) : Steady aim (byId id) := by
  intro tried
  refine Leads.explained_within ?_ _
  refine (Cloud.leads_call_of_isPlain (c := .getById id) rfl).explained_bind fun found t ht => ?_
  rw [ht]
  cases found with
  | some lb => exact .done rfl
  | none => exact .done trivial

/-- Patient operations are steady, if the rules say nothing in particular about their calls. -/
theorem Patient.steady {α : Type} {P : Call → Prop} {p : Operation α} (h : Patient P p)
    (hplain : ∀ c, P c → c.isPlain = true) : Steady aim p := by
  induction h with
  | ofExcept outcome =>
    intro tried
    cases outcome with
    | ok a => exact .done rfl
    | error e => exact .done trivial
  | callAndAwait hc => exact fun tried => Cloud.leads_callAndAwait (hplain _ hc)
  | certificate => exact steady_resolveCertificate _
  | reload => exact steady_byId _
  | within operation _ ih => exact fun tried => (ih tried).explained_within operation
  | bind _ _ ihp ihf =>
    intro tried
    refine (ihp tried).bind_of_yields (fun a t ha ht => ?_) fun e t h => h
    rw [ht]
    exact ihf a ha tried

/-- The calls of the steps are none of those that have rules of their own.  Searches come before
them, and attaching a network is looked at separately. -/
theorem StepCall.isPlain (h : StepCall service wishes lb c) : c.isPlain = true := by
  cases h with
  | @publicInterface on => cases on <;> rfl
  | _ => rfl

/-! ### Attaching a network -/

/-- What the first attempt leads to. -/
def Attempted (c : Call) : Except Error Cloud.Action → Stage → Prop
  | .ok a, t => t = ⟨.seen a.id a, true⟩
  | .error e, t => e.root = e ∧ t = ⟨if e.isTransient then .busy c else .failed e, true⟩

section Attach

variable {id network : Int} {ip : Option Net.IPv4}

/-- The first attempt to attach a network is in order.  If the load balancer is busy, it is to be
made again. -/
theorem leads_attach : Leads aim ⟨.ready, false⟩ (Attempted (.attachToNetwork id network ip))
    (Cloud.call (.attachToNetwork id network ip)) := by
  refine Cloud.leads_call (c := .attachToNetwork id network ip) fun answer hroot => ?_
  cases answer with
  | ok a => exact ⟨_, rfl, rfl⟩
  | error e =>
    refine ⟨_, ?_, hroot e rfl, rfl⟩
    have hbusy : (Event.called (.attachToNetwork id network ip) (.error e)).isBusy =
        e.isTransient := Bool.true_and _
    simp only [Stage.next?, Phase.next?, hbusy]
    cases e.isTransient <;> rfl

/-- The second attempt is the same call once more.  Whatever comes of it now stands. -/
theorem leads_attach_again : Leads aim ⟨.busy (.attachToNetwork id network ip), true⟩
    (Explained aim fun a t => t = ⟨.seen a.id a, true⟩)
    (Cloud.call (.attachToNetwork id network ip)) := by
  refine Cloud.leads_call (c := .attachToNetwork id network ip) fun answer hroot => ?_
  refine ⟨⟨.answered (.attachToNetwork id network ip) answer, true⟩, ?_, ?_⟩
  · simp [Stage.next?, Phase.next?]
  · cases answer with
    | ok a => rfl
    | error e => exact hroot e rfl

/-- Attaching keeps to the rules, though it may be tried twice. -/
theorem leads_retryOnce_attach (d : Duration) :
    Leads aim ⟨.ready, false⟩ (Explained aim fun a t => t = ⟨.seen a.id a, true⟩)
      ((Cloud.call (.attachToNetwork id network ip)).retryOnce (Cloud.pause d)) := by
  have hfirst : Leads aim ⟨.ready, false⟩
      (Explained aim (Attempted (.attachToNetwork id network ip)))
      (Cloud.call (.attachToNetwork id network ip)).attempt :=
    leads_attach.attempt fun _ _ h => h
  refine hfirst.explained_bind fun outcome t ht => ?_
  cases outcome with
  | ok a => exact .done ht
  | error e =>
    obtain ⟨hroot, rfl⟩ := ht
    cases htransient : e.isTransient with
    | false =>
      simp only [htransient]
      exact .done hroot
    | true =>
      simp only [htransient, if_true]
      refine (Cloud.leads_pause d).bind (fun _ t ht => ?_) fun e t h => by cases h.1
      rw [ht.2]
      exact leads_attach_again

end Attach

/-- The step that attaches a network keeps to the rules with its second attempt as without it. -/
theorem leads_reconcileNetworkAttach (engine : Engine) (lb : LoadBalancer) (wishes : Balancer) :
    Leads aim ⟨.ready, false⟩ (Explained aim fun _ t => t.phase = .ready)
      (reconcileNetworkAttach engine lb wishes) := by
  refine Leads.explained_within ?_ _
  cases missingNetwork engine lb with
  | none => exact .done rfl
  | some network =>
    refine (leads_retryOnce_attach engine.retryDelay).explained_bind fun a t ht => ?_
    rw [ht]
    exact (Cloud.leads_awaitAction a).explained_bind fun _ t ht => .done (congrArg Stage.phase ht)

/-! ### The steps -/

/-- Steady steps change nothing for those after them. -/
theorem leads_takeSteps_append {front rest : List (Operation Bool)} {B : Stage → Prop}
    (hfront : ∀ step ∈ front, Steady aim step)
    (hrest : Leads aim ⟨.ready, tried⟩ (Explained aim fun _ t => B t) (takeSteps rest)) :
    Leads aim ⟨.ready, tried⟩ (Explained aim fun _ t => B t) (takeSteps (front ++ rest)) := by
  induction front with
  | nil => exact hrest
  | cons step front ih =>
    obtain ⟨hstep, hfront⟩ := List.forall_mem_cons.1 hfront
    refine (hstep tried).explained_bind fun _ t ht => ?_
    rw [ht]
    exact (ih hfront).explained_bind fun _ t ht => .done ht

/-- A pass over a load balancer keeps to the rules.  The steps before the attachment leave `tried`
as it is, and those after it do not care. -/
theorem leads_converge : Leads aim ⟨.ready, false⟩ (Explained aim fun _ t => t.phase = .ready)
    (converge engine lb service wishes nodes) := by
  have hlate : ∀ tried, Leads aim ⟨.ready, tried⟩ (Explained aim fun _ t => t.phase = .ready)
      (takeSteps (lateSteps engine lb service wishes nodes)) := by
    intro tried
    rw [← List.append_nil (lateSteps engine lb service wishes nodes)]
    refine leads_takeSteps_append (fun step hstep => ?_) (.done rfl)
    exact (patient_of_mem_lateSteps hstep).steady fun _ => StepCall.isPlain
  have hsteps : Leads aim ⟨.ready, false⟩ (Explained aim fun _ t => t.phase = .ready)
      (takeSteps (steps engine lb service wishes nodes)) := by
    rw [steps_eq]
    refine leads_takeSteps_append (fun step hstep => ?_) ?_
    · exact (patient_of_mem_earlySteps hstep).steady fun _ => StepCall.isPlain
    · refine (leads_reconcileNetworkAttach engine lb wishes).explained_bind fun _ t ht => ?_
      obtain ⟨phase, tried⟩ := t
      obtain rfl : phase = .ready := ht
      exact (hlate tried).explained_bind fun _ t ht => .done ht
  refine hsteps.explained_bind fun changed t ht => ?_
  obtain ⟨phase, tried⟩ := t
  obtain rfl : phase = .ready := ht
  cases changed with
  | true => exact (steady_byId lb.id tried).explained_mono fun _ t h => congrArg Stage.phase h
  | false => exact .done rfl

/-! ### Searches -/

/-- How a search ends: with what it has found, in a phase that tells of nothing found, or with an
error. -/
def Searched (aim : Aim) (tried : Bool) (missing : Phase) :
    Except Error LoadBalancer → Stage → Prop
  | .ok _, t => t = ⟨.ready, tried⟩
  | .error e, t => if e.isNotFound then t = ⟨missing, tried⟩ else t.phase.Explains aim e

/-- The name of an operation around an error does not make a search find anything. -/
theorem Searched.within {missing : Phase} {r : Except Error LoadBalancer} {t : Stage}
    (h : Searched aim tried missing r t) (operation : String) :
    Searched aim tried missing (r.mapError (.within operation)) t := by
  cases r with
  | ok lb => exact h
  | error e =>
    change if e.isNotFound then _ else t.phase.Explains aim (.within operation e)
    rwa [Cloud.Phase.explains_within]

/-- What a lookup by a label leads to. -/
def Listed (aim : Aim) (tried : Bool) : Except Error (List LoadBalancer) → Stage → Prop
  | .ok found, t => t = ⟨if found.isEmpty then .unlabelled else .ready, tried⟩
  | .error e, t => Searched aim tried .unlabelled (.error e) t

/-- A search by label may find nothing, one load balancer or several.  That several are too many is
decided later, and without another call. -/
theorem leads_listByLabel (label : String) :
    Leads aim ⟨.ready, tried⟩ (Listed aim tried) (Cloud.call (.listByLabel label)) := by
  refine Cloud.leads_call (c := .listByLabel label) fun answer hroot => ?_
  refine ⟨⟨.answered (.listByLabel label) answer, tried⟩, ?_, ?_⟩
  · cases answer <;> simp [Stage.next?, Phase.next?, Call.attaches, Event.isBusy, Event.isAttempt]
  · cases answer with
    | ok found => cases found <;> rfl
    | error e =>
      simp only [Listed, Searched]
      cases h : e.isNotFound with
      | true => exact congrArg₂ Stage.mk (Phase.answered_of_lacksLabel h) rfl
      | false =>
        rw [Phase.answered_of_error (c := .listByLabel label) h rfl]
        exact hroot e rfl

/-- Looking for a load balancer by its label either finds it, or leaves its name to be looked for,
or ends with an error. -/
theorem leads_byUid (service : Service) :
    Leads aim ⟨.ready, tried⟩ (Searched aim tried .unlabelled) (byUid service) := by
  refine Leads.within (P := Searched aim tried .unlabelled) ?_ _ fun r t h => h.within _
  cases hid : uid service with
  | error e =>
    rw [uid] at hid
    split at hid
    · cases hid
    · rw [← Except.error.inj hid]
      exact .done trivial
  | ok id =>
    refine (leads_listByLabel (uidSelector id)).bind (fun found t ht => ?_) fun e t h => h
    obtain rfl : t = _ := ht
    rcases found with _ | ⟨lb, _ | ⟨other, rest⟩⟩
    · exact .done rfl
    · exact .done rfl
    · exact .done trivial

/-- What a lookup by a name leads to. -/
def Named (aim : Aim) (tried : Bool) : Except Error (Option LoadBalancer) → Stage → Prop
  | .ok found, t => t = ⟨if found.isNone then .unnamed else .ready, tried⟩
  | .error e, t => Searched aim tried .unnamed (.error e) t

/-- A search by name is in order when the label was not found. -/
theorem leads_getByName : Leads aim ⟨.unlabelled, tried⟩ (Named aim tried)
    (Cloud.call (.getByName aim.name)) := by
  refine Cloud.leads_call (c := .getByName aim.name) fun answer hroot => ?_
  refine ⟨⟨.answered (.getByName aim.name) answer, tried⟩, ?_, ?_⟩
  · simp [Stage.next?, Phase.next?, Call.attaches, Event.isAttempt]
  · cases answer with
    | ok found => cases found <;> rfl
    | error e =>
      simp only [Named, Searched]
      cases h : e.isNotFound with
      | true => exact congrArg₂ Stage.mk (Phase.answered_of_lacksName h) rfl
      | false =>
        rw [Phase.answered_of_error (c := .getByName aim.name) rfl h]
        exact hroot e rfl

/-- When the name is not found either, only a creation is in order. -/
theorem leads_byName : Leads aim ⟨.unlabelled, tried⟩ (Searched aim tried .unnamed)
    (byName aim.name) := by
  refine Leads.within (P := Searched aim tried .unnamed) ?_ _ fun r t h => h.within _
  refine leads_getByName.bind (fun found t ht => ?_) fun e t h => h
  obtain rfl : t = _ := ht
  cases found with
  | some lb => exact .done rfl
  | none => exact .done rfl

/-- What a search leads to once nothing found is no error any more. -/
theorem leads_ifFound_of_searched {s : Stage} {missing : Phase} {p : Operation LoadBalancer}
    (hp : Leads aim s (Searched aim tried missing) p) : Leads aim s
      (fun r t => (∀ e, r = .error e → e.isNotFound = false) ∧
        Explained aim (fun found t => t = ⟨if found.isSome then .ready else missing, tried⟩) r t)
      p.ifFound := by
  refine hp.ifFound (fun lb t h => ⟨nofun, h⟩) (fun e t h he => ?_)
    fun e t h he => ?_
  · rw [Searched, if_pos he] at h
    exact ⟨nofun, h⟩
  · rw [Searched, he, if_neg Bool.false_ne_true] at h
    exact ⟨fun cause hcause => (Except.error.inj hcause) ▸ he, h⟩

/-- A whole search: it ends with a load balancer, or with nothing after both of its parts have found
nothing. -/
theorem leads_find (service : Service) : Leads aim ⟨.ready, tried⟩
    (Explained aim fun found t => t = ⟨if found.isSome then .ready else .unnamed, tried⟩)
    (find service aim.name).ifFound := by
  have hfind : Leads aim ⟨.ready, tried⟩ (Searched aim tried .unnamed)
      (find service aim.name) := by
    refine (leads_ifFound_of_searched (leads_byUid service)).bind (fun found t ht => ?_) ?_
    · obtain rfl : t = _ := ht.2
      cases found with
      | some lb => exact .done rfl
      | none => exact leads_byName
    · intro e t h
      rw [Searched, h.1 e rfl, if_neg Bool.false_ne_true]
      exact h.2
  exact (leads_ifFound_of_searched hfind).mono fun r t h => h.2

/-! ### Passes -/

/-- What a Service without a load balancer wants to be created. -/
def newLoadBalancer (engine : Engine) (service : Service) : Except Error NewLoadBalancer := do
  let wishes ← engine.wishes service
  let id ← uid service
  wishes.creation id (creationNetwork engine wishes)

/-- A creation that is in order is that of the load balancer worked out from the Service. -/
theorem leads_create (hwishes : engine.wishes service = .ok wishes)
    (haim : aim.creation = some (engine.newLoadBalancer service)) :
    Leads aim ⟨.unnamed, tried⟩ (Explained aim fun _ t => t = ⟨.ready, tried⟩)
      (create engine service wishes) := by
  refine Leads.explained_within ?_ _
  cases hid : uid service with
  | error e =>
    refine .done ⟨e, ?_, rfl⟩
    rw [haim, newLoadBalancer, hwishes, hid]
    rfl
  | ok id =>
    change Leads aim _ _ ((Program.ofExcept
      (wishes.creation id (creationNetwork engine wishes))).bind _)
    have hcreation : engine.newLoadBalancer service =
        wishes.creation id (creationNetwork engine wishes) := by
      rw [newLoadBalancer, hwishes, hid]
      rfl
    rw [hcreation] at haim
    cases hoptions : wishes.creation id (creationNetwork engine wishes) with
    | error e => exact .done ⟨e, by rw [haim, hoptions], rfl⟩
    | ok options =>
      have hnew : aim.new? = some options := by
        rw [Aim.new?, haim, hoptions]
        rfl
      have hcall : Leads aim ⟨.unnamed, tried⟩
          (Explained aim fun reply t => t = ⟨.seen reply.2.id reply.2, tried⟩)
          (Cloud.call (.create options)) := by
        refine Cloud.leads_call (c := .create options) fun answer hroot => ?_
        refine ⟨⟨.answered (.create options) answer, tried⟩, ?_, ?_⟩
        · simp [Stage.next?, Phase.next?, Call.attaches, Event.isAttempt, hnew]
        · cases answer with
          | ok reply => rfl
          | error e => exact hroot e rfl
      refine hcall.explained_bind fun reply t ht => ?_
      rw [ht]
      exact (Cloud.leads_awaitAction reply.2).explained_bind fun _ t ht => .done ht

/-- Ensuring a load balancer keeps to the rules from the first search to the end of the pass, and
creates only what was not found. -/
theorem leads_ensure (nodes : List Node) (hwishes : engine.wishes service = .ok wishes)
    (haim : aim = ⟨wishes.name, some (engine.newLoadBalancer service)⟩) :
    Leads aim ⟨.ready, false⟩ (Explained aim fun _ t => Ends aim t)
      (engine.ensure service nodes) := by
  have hname : wishes.name = aim.name := by rw [haim]
  rw [ensure_eq, hwishes]
  refine Leads.explained_within ?_ _
  have hstart : Leads aim ⟨.ready, false⟩ (Explained aim fun _ t => t = ⟨.ready, false⟩)
      (start engine service wishes) := by
    rw [start, hname]
    refine (leads_find service).explained_bind fun found t ht => ?_
    obtain rfl : t = _ := ht
    cases found with
    | some lb => exact .done rfl
    | none => exact leads_create hwishes (by rw [haim])
  refine hstart.explained_bind fun lb t ht => ?_
  rw [ht]
  exact leads_converge.explained_bind fun last t ht => .done (.inl ht)

/-- An update keeps to them as well.  It aims at no creation: where nothing is found it ends. -/
theorem leads_update (nodes : List Node) (hwishes : engine.wishes service = .ok wishes)
    (haim : aim = ⟨wishes.name, none⟩) :
    Leads aim ⟨.ready, false⟩ (Explained aim fun _ t => Ends aim t)
      (engine.update service nodes) := by
  have hname : wishes.name = aim.name := by rw [haim]
  refine Leads.explained_within ?_ _
  rw [hwishes]
  change Leads aim _ _ ((find service wishes.name).ifFound.bind _)
  rw [hname]
  refine (leads_find service).explained_bind fun found t ht => ?_
  obtain rfl : t = _ := ht
  cases found with
  | none => exact .done (.inr ⟨rfl, by rw [haim]⟩)
  | some lb => exact leads_converge.explained_bind fun last t ht => .done (.inl ht)

/-- An operation that asks for nothing is disciplined. -/
theorem disciplined_of_wishes_error {α : Type} {name : Except Error String}
    {creation : Option (Except Error NewLoadBalancer)} {operation : String} {e : Error}
    {f : Balancer → Operation α} (w : World) (h : engine.wishes service = .error e) :
    Disciplined name creation
      (w.events (((Program.ofExcept (engine.wishes service)).bind f).within operation))
      (w.run (((Program.ofExcept (engine.wishes service)).bind f).within operation)).1 := by
  rw [h]
  exact Cloud.disciplined_nil

/-- Passes are orderly, whatever the cloud holds and whatever goes wrong: `w.events` are the calls
and polls of a pass with their answers, and those that were received are what it adds to the log.

A pass that creates what is missing goes on to that after a search in vain; one that does not ends
well. -/
theorem disciplined (engine : Engine) (service : Service) (nodes : List Node) (w : World) :
    (Disciplined (engine.balancerName service) (some (engine.newLoadBalancer service))
        (w.events (engine.ensure service nodes)) (w.run (engine.ensure service nodes)).1 ∧
      (w.run (engine.ensure service nodes)).2.log =
        w.log ++ (w.events (engine.ensure service nodes)).filterMap Event.received?) ∧
    Disciplined (engine.balancerName service) none
        (w.events (engine.update service nodes)) (w.run (engine.update service nodes)).1 ∧
      (w.run (engine.update service nodes)).2.log =
        w.log ++ (w.events (engine.update service nodes)).filterMap Event.received? := by
  refine ⟨⟨?_, World.log_run w _⟩, ?_, World.log_run w _⟩
  · cases hwishes : engine.wishes service with
    | error e =>
      rw [ensure_eq]
      exact disciplined_of_wishes_error w hwishes
    | ok wishes =>
      obtain ⟨t, hpath, hend⟩ := leads_ensure nodes hwishes rfl w
      rw [balancerName_of_wishes hwishes]
      exact Cloud.disciplined_of_after? hpath hend
  · cases hwishes : engine.wishes service with
    | error e => exact disciplined_of_wishes_error w hwishes
    | ok wishes =>
      obtain ⟨t, hpath, hend⟩ := leads_update nodes hwishes rfl w
      rw [balancerName_of_wishes hwishes]
      exact Cloud.disciplined_of_after? hpath hend

end BalancerSync.Engine
