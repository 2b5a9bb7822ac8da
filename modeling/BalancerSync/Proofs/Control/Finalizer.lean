import BalancerSync.Control.Reconcile
import BalancerSync.Proofs.Cluster.ServiceObject
import BalancerSync.Proofs.Engine.Deletion
import BalancerSync.Proofs.Engine.Passes

/-!
# The finalizer stands guard

A load balancer costs money, and a Service that is gone is looked at no more.  So as long as
something carries the identity of the Service, the Service has to stay, and what makes it stay is
the finalizer.

A pass works from the Service as it was when the pass began, and by the time a request arrives users
may have changed it.  That does no harm: users do not touch the finalizer, so what was known of the
finalizer at the beginning is true until the pass itself takes it away.  The pass does so last,
after a deletion that has ended well; what such a deletion leaves behind is the matter of
`Engine.safe_ensureDeleted`.

The finalizer of a Service that asks for a load balancer is in the hands of a helper.  It is taken
for any helper that is careful with it: that does the work on the load balancer only under the
finalizer, and takes it away only after a clean-up that has ended well.

## Main Definitions

* `surroundings` — when a pass may ask for what
* `Tends`, `Careful` — what is relied on of a helper
* `Scene`, `Step`, `Run` — a Service with its load balancer, and what can happen to them
* `Guarded` — what holds all the time

## Main Results

* `careful_withFinalizer` — the helper of the controller is careful
* `safe_reconcile` — a pass asks for nothing that it may not ask for
* `Guarded.step` — whatever happens next, the Service stays guarded
* `finalized_of_run` — what carries the identity of a Service is guarded by its finalizer
-/

namespace BalancerSync.Control

open Cloud (World)
open Cloud.World (Answered unreliable)
open Cluster (Service Served Finalized Identified)
open Program (Environment Safe Asks)

variable {α β : Type} {engine : Engine} {service : Service} {id : String}

/-! ### A pass -/

/-- The cloud, and whether the finalizer is known to be on the Service. -/
structure Guard where
  cloud : World
  held : Bool

/-- Nothing carries the identity of the Service. -/
def Guard.Clear (id : String) (g : Guard) : Prop :=
  g.cloud.inventory.labelled Desired.uidLabel id = []

/-- The surroundings of a pass. The cloud is asked only under the finalizer, and the finalizer is
taken away only if nothing carries the identity of the Service. -/
def surroundings (id : String) : Environment effect Guard where
  allows
    | .inl _, g => g.held = true
    | .inr q, g => q.releases = true → g.Clear id
  answers
    | .inl q, g, r, h => Answered g.cloud q r h.cloud ∧ h.held = g.held
    | .inr q, g, _, h => h = ⟨g.cloud, g.held && !q.releases⟩

variable {g : Guard}

/-- What is safe in an unreliable cloud is safe in a pass that has the finalizer.  Nothing that the
cloud answers changes whether the finalizer is there. -/
theorem safe_onCloud {p : Cloud.Operation α} {post : Except Error α → World → Prop}
    (hp : p.Safe unreliable post g.cloud) (hg : g.held = true) :
    (onCloud p).Safe (surroundings id) (fun o h => h.held = true ∧ post o h.cloud) g := by
  refine Safe.left (I := fun h => h.held = true) Guard.cloud hp hg ?_ ?_ ?_
  · exact fun _ _ hh _ => hh
  · rintro q h r k hh ⟨hr, hk⟩
    exact ⟨hk.trans hh, hr⟩
  · exact fun o h hh ho => ⟨hh, ho⟩

/-- A request that does not take the finalizer away changes nothing about what is known. -/
theorem safe_onCluster {q : Cluster.Request} (hq : q.releases = false) :
    (onCluster q).Safe (surroundings id) (fun _ h => h = g) g := by
  refine ⟨fun h => ?_, fun r h hh => ?_⟩
  · rw [hq] at h
    cases h
  · obtain rfl := hh
    rw [hq, Bool.not_false, Bool.and_true]
    rfl

/-- The finalizer is taken away when nothing is left to be guarded. -/
theorem safe_release {q : Cluster.Request} (hclear : g.Clear id) :
    (onCluster q).Safe (surroundings id) (fun _ _ => True) g :=
  ⟨fun _ => hclear, fun _ _ _ => trivial⟩

/-- Writing an event is safe, and it never fails: an error of the cluster is put aside. -/
theorem safe_note {type reason message : String} :
    (note service type reason message).Safe (surroundings id) (fun _ h => h = g) g := by
  have hpost : (onCluster (.postEvent ⟨service.metadata, type, reason, message⟩)).Safe
      (surroundings id) (fun _ h => h = g) g := safe_onCluster rfl
  refine hpost.attempt.bind ?_ ?_
  · rintro _ _ ⟨_, -, rfl⟩
    rfl
  · rintro _ _ ⟨_, -, rfl⟩
    rfl

/-- A failure is written down, and then the pass ends with it. -/
theorem safe_noteFailure {what : String} {e : Error} :
    (noteFailure service what e : Operation α).Safe (surroundings id)
      (fun o _ => ∃ e, o = .error e) g :=
  safe_note.bind (fun _ _ _ => ⟨_, rfl⟩) fun e _ _ => ⟨e, rfl⟩

/-- What a clean-up does once the load balancer is gone. -/
def withdraw (service : Service) : Operation Next := do
  if !service.metadata.isDeleting && !service.ingress.isEmpty then
    publish service none
  note service "Normal" "DeletedLoadBalancer" "Deleted load balancer"
  return .onChange

/-- A clean-up in three parts.  The load balancer is gone when the third one starts, or it does not
start. -/
theorem cleanUpBalancer_eq (engine : Engine) (service : Service) :
    cleanUpBalancer engine service =
      (note service "Normal" "DeletingLoadBalancer" "Deleting load balancer").bind fun _ =>
        (onCloud (engine.ensureDeleted service)).attempt.bind fun
          | .error e => noteFailure service "deleting" e
          | .ok () => withdraw service :=
  rfl

/-- Once the load balancer is gone a clean-up still makes requests, but none that takes the
finalizer away.  That is left to the helper. -/
theorem safe_withdraw : (withdraw service).Safe (surroundings id) (fun _ h => h = g) g := by
  have hrest : (note service "Normal" "DeletedLoadBalancer" "Deleted load balancer" >>=
      fun _ => pure Next.onChange).Safe (surroundings id) (fun _ h => h = g) g :=
    safe_note.bind (fun _ _ h => h) fun _ _ h => h
  unfold withdraw
  by_cases hpublished : (!service.metadata.isDeleting && !service.ingress.isEmpty) = true
  · simp only [hpublished, if_true]
    refine Safe.bind (safe_onCluster rfl) ?_ fun _ _ h => h
    rintro _ _ rfl
    exact hrest
  · simp only [hpublished]
    exact hrest

/-- After a clean-up that ends well, nothing carries the identity of the Service. -/
theorem safe_cleanUpBalancer (hid : Engine.uid service = .ok id) (hg : g.held = true)
    (hprotection : ∀ lb ∈ g.cloud.inventory.loadBalancers, lb.deleteProtection = false) :
    (cleanUpBalancer engine service).Safe (surroundings id)
      (fun o h => ∀ next, o = .ok next → h.Clear id) g := by
  rw [cleanUpBalancer_eq]
  refine safe_note.bind ?_ (fun _ _ _ => nofun)
  rintro _ _ rfl
  refine Safe.bind (safe_onCloud (Engine.safe_ensureDeleted hid hprotection) hg).attempt ?_
    (fun _ _ _ => nofun)
  rintro outcome h ⟨_, ⟨⟩, -, hdeleted⟩
  cases outcome with
  | error e =>
    refine safe_noteFailure.mono ?_
    rintro _ _ ⟨_, rfl⟩ _ ⟨⟩
  | ok _ =>
    refine safe_withdraw.mono ?_
    rintro _ _ rfl _ _
    exact hdeleted rfl

/-! ### What a pass may do under the finalizer -/

/-- A request that does not take the finalizer away. -/
def Harmless : effect.Request → Prop
  | .inl _ => True
  | .inr q => q.releases = false

/-- A request to the cluster. -/
def OnCluster : effect.Request → Prop
  | .inl _ => False
  | .inr _ => True

theorem asks_onCloud (p : Cloud.Operation α) : (onCloud p).Asks Harmless := by
  induction p with
  | done outcome => exact .done outcome
  | ask q next ih => exact .ask trivial ih

theorem asks_onCluster {q : Cluster.Request} (hq : q.releases = false) :
    (onCluster q).Asks Harmless :=
  .ask hq fun r => .done r

theorem asks_note {type reason message : String} :
    (note service type reason message).Asks Harmless :=
  (asks_onCluster rfl).attempt.bind fun _ => .done _

theorem asks_noteFailure {what : String} {e : Error} :
    (noteFailure service what e : Operation α).Asks Harmless :=
  asks_note.bind fun _ => .done _

/-- The work for a Service that is wanted never takes the finalizer away, whatever the cloud and the
cluster answer. -/
theorem asks_applyBalancer : (applyBalancer engine service).Asks Harmless := by
  have hnodes : (onCluster .listNodes).Asks Harmless := asks_onCluster rfl
  rw [applyBalancer]
  split
  on_goal 1 => refine asks_note.bind fun _ => ?_
  -- With or without a note at first, the rest is the same.
  all_goals
    refine hnodes.bind fun nodes => (asks_onCloud _).attempt.bind fun outcome => ?_
    cases outcome with
    | error e => exact asks_noteFailure
    | ok ingress =>
      have hpublish : (publish service (some ingress)).Asks Harmless := asks_onCluster rfl
      simp only
      split
      · exact hpublish.bind fun _ => asks_note.bind fun _ => .done _
      · exact .done _

/-- Under the finalizer, a pass that does not take it away may do anything. -/
theorem safe_of_harmless {p : Operation α} (hp : p.Asks Harmless) (hg : g.held = true) :
    p.Safe (surroundings id) (fun _ _ => True) g := by
  have hkeep : p.Safe (surroundings id) (fun _ h => h.held = true) g := by
    refine hp.safe (I := fun h : Guard => h.held = true) ?_ ?_ hg
    · rintro (q | q) h hq hh
      · exact hh
      · intro hrelease
        rw [show q.releases = false from hq] at hrelease
        cases hrelease
    · rintro (q | q) h r k hq hh hk
      · exact hk.2.trans hh
      · obtain rfl := hk
        have hkept : q.releases = false := hq
        simp [hh, hkept]
  exact hkeep.mono fun _ _ _ => trivial

/-- When nothing carries the identity of the Service, the finalizer may be taken away, and the
cluster may be asked for anything.  Only the cloud could make something that carries it. -/
theorem safe_of_clear {p : Operation α} (hp : p.Asks OnCluster) (hclear : g.Clear id) :
    p.Safe (surroundings id) (fun _ _ => True) g := by
  have hkeep : p.Safe (surroundings id) (fun _ h => h.Clear id) g := by
    refine hp.safe (I := fun h : Guard => h.Clear id) ?_ ?_ hclear
    · rintro (q | q) h hq hh
      · cases hq
      · exact fun _ => hh
    · rintro (q | q) h r k hq hh hk
      · cases hq
      · obtain rfl := hk
        exact hh
  exact hkeep.mono fun _ _ _ => trivial

/-! ### What is relied on of a helper -/

/-- What a helper may make of the work on the load balancer of a Service that is wanted and of that
on one that goes away.  It makes requests to the cluster of its own, among them that for the
finalizer to be added. -/
inductive Tends (service : Service) (onApply onCleanUp : Operation Next) : Operation Next → Prop where
  | done (outcome : Except Error Next) : Tends service onApply onCleanUp (.done outcome)
  /-- On its own it does not take the finalizer away. -/
  | ask {q : Cluster.Request} {next : Except Error (Cluster.effect.Reply q) → Operation Next} :
    q.releases = false → (∀ r, Tends service onApply onCleanUp (next r)) →
    Tends service onApply onCleanUp (.ask (.inr q) next)
  /-- It applies what is wanted only to a Service that has the finalizer and is not being deleted,
  and keeps the finalizer there. -/
  | apply {next : Next → Operation Next} : service.hasFinalizer = true →
    service.metadata.isDeleting = false → (∀ n, (next n).Asks Harmless) →
    Tends service onApply onCleanUp (onApply.bind next)
  /-- It cleans up only for a Service that has the finalizer and is being deleted.  Only when the
  clean-up has ended well, it goes on and may take the finalizer away. -/
  | cleanUp {next : Next → Operation Next} : service.hasFinalizer = true →
    service.metadata.isDeleting = true → (∀ n, (next n).Asks OnCluster) →
    Tends service onApply onCleanUp (onCleanUp.bind next)

/-- A helper that is careful with the finalizer, whatever the work on the load balancer is. -/
def Careful (helper : Helper) : Prop :=
  ∀ service onApply onCleanUp, Tends service onApply onCleanUp (helper service onApply onCleanUp)

/-- The finalizer is on a Service exactly if a helper that looks for its position finds one. -/
theorem hasFinalizer_iff :
    service.hasFinalizer = true ↔
      (service.metadata.finalizers.idxOf? Service.finalizer).isSome = true := by
  rw [List.isSome_idxOf?, Service.hasFinalizer, List.contains_iff_mem]

/-- A patch of the finalizers is one request; what is known of that request is known of the
whole. -/
theorem asks_patchFinalizers {P : effect.Request → Prop} {name complaint : String}
    {patch : Cluster.ServicePatch} (hpatch : P (.inr (.patchService service.anyNamespace name patch))) :
    (patchFinalizers service name patch complaint).Asks P :=
  Asks.mapError (.ask hpatch fun _ => .done _) _

/-- The helper of the controller adds the finalizer in a pass of its own and removes it last. -/
theorem careful_withFinalizer : Careful withFinalizer := by
  intro service onApply onCleanUp
  have hfinalizer : ∀ index,
      service.metadata.finalizers.idxOf? Service.finalizer = some index →
        service.hasFinalizer = true := by
    intro index hindex
    rw [hasFinalizer_iff, hindex]
    rfl
  simp only [withFinalizer]
  split
  · rename_i index hindex hwanted
    have happly : Tends service onApply onCleanUp (onApply.bind Program.result) :=
      .apply (hfinalizer _ hindex) hwanted fun n => .done (.ok n)
    rwa [Program.bind_result] at happly
  · rename_i index hindex hdeleting
    unfold requireName
    cases service.metadata.name with
    | none => exact .done _
    | some name =>
      refine .cleanUp (hfinalizer _ hindex) hdeleting fun next => ?_
      exact (asks_patchFinalizers trivial).bind fun _ => .done _
  · -- The finalizer comes before the load balancer, in a pass of its own.
    unfold requireName
    cases service.metadata.name with
    | none => exact .done _
    | some name => exact .ask rfl fun r => by cases r <;> exact .done _
  · exact .done _

/-- What a careful helper makes of the work on the load balancer is safe, be the finalizer on the
Service or not. -/
theorem Tends.safe {p : Operation Next} {w : World}
    (hp : Tends service (applyBalancer engine service) (cleanUpBalancer engine service) p)
    (hid : Engine.uid service = .ok id)
    (hprotection : ∀ lb ∈ w.inventory.loadBalancers, lb.deleteProtection = false) :
    p.Safe (surroundings id) (fun _ _ => True) ⟨w, service.hasFinalizer⟩ := by
  induction hp with
  | done outcome => trivial
  | ask hq _ ih =>
    refine ⟨fun hrelease => ?_, fun r h hh => ?_⟩
    · rw [hq] at hrelease
      cases hrelease
    · obtain rfl := hh
      simpa only [hq, Bool.not_false, Bool.and_true] using ih r
  | apply hfinalizer _ hnext =>
    exact safe_of_harmless (asks_applyBalancer.bind hnext) hfinalizer
  | cleanUp hfinalizer _ hnext =>
    refine Safe.bind (safe_cleanUpBalancer hid hfinalizer hprotection) ?_ fun _ _ _ => trivial
    intro next h hclear
    exact safe_of_clear (hnext next) (hclear next rfl)

/-- A pass that begins with the finalizer on the Service, or without it. -/
theorem safe_reconcile {helper : Helper} (hhelper : Careful helper) (isLeader : Bool)
    (hid : Engine.uid service = .ok id) {w : World}
    (hprotection : ∀ lb ∈ w.inventory.loadBalancers, lb.deleteProtection = false) :
    (reconcileWith helper engine isLeader service).Safe (surroundings id) (fun _ _ => True)
      ⟨w, service.hasFinalizer⟩ := by
  unfold reconcileWith
  cases isLeader with
  | false => exact trivial
  | true =>
    simp only [Bool.not_true, Bool.false_eq_true, if_false]
    split
    · exact (hhelper service _ _).safe hid hprotection
    · split
      · rename_i hfinalizer
        refine Safe.bind (safe_cleanUpBalancer hid hfinalizer hprotection) ?_ fun _ _ _ => trivial
        intro next h hclear
        have hrelease : (releaseService service).Safe (surroundings id) (fun _ _ => True) h :=
          safe_release (hclear next rfl)
        exact hrelease.bind (fun _ _ _ => trivial) fun _ _ _ => trivial
      · exact trivial

/-! ### A Service and its load balancer -/

/-- The cloud, a Service, and what is left of the pass over it; between passes, how the last one
ended. -/
structure Scene where
  cloud : World
  object : Option Service
  pass : Operation Next

/-- What users may make of a Service.  They leave alone what it is known by, the finalizer, and
whether it is being deleted. -/
structure Edits (s t : Service) : Prop where
  uid : t.metadata.uid = s.metadata.uid
  finalizer : t.hasFinalizer = s.hasFinalizer
  isDeleting : t.metadata.isDeleting = s.metadata.isDeleting

/-- The Service with a request to delete it. -/
def condemned (s : Service) : Service :=
  { s with metadata := { s.metadata with isDeleting := true } }

/-- What can happen next.  A pass begins when the last one has ended, with the Service as it is
then; users do not wait for it.  It can stop in the middle. -/
inductive Step (helper : Helper) (engine : Engine) (x : Scene) : Scene → Prop where
  | edited {s t : Service} : x.object = some s → Edits s t →
    Step helper engine x { x with object := t.settled }
  | condemned {s : Service} : x.object = some s →
    Step helper engine x { x with object := (condemned s).settled }
  | began {s : Service} {outcome : Except Error Next} (isLeader : Bool) :
    x.pass = .done outcome → x.object = some s →
    Step helper engine x { x with pass := reconcileWith helper engine isLeader s }
  | cloud {q : Cloud.effect.Request} {next : Except Error (Cloud.effect.Reply q) → Operation Next}
    {r : Except Error (Cloud.effect.Reply q)} {w : World} :
    x.pass = .ask (.inl q) next → Answered x.cloud q r w →
    Step helper engine x { x with cloud := w, pass := next r }
  | stopped (outcome : Except Error Next) : Step helper engine x { x with pass := .done outcome }
  | cluster {q : Cluster.Request}
    {next : Except Error (Cluster.effect.Reply q) → Operation Next}
    {r : Except Error (Cluster.effect.Reply q)} {object : Option Service} :
    x.pass = .ask (.inr q) next → Served q x.object r object →
    Step helper engine x { x with object := object, pass := next r }

/-- What can happen from a beginning on. -/
inductive Run (helper : Helper) (engine : Engine) (start : Scene) : Scene → Prop where
  | start : Run helper engine start start
  | step {x y : Scene} : Run helper engine start x → Step helper engine x y →
    Run helper engine start y

/-- What holds all the time. While a pass may still ask the cloud for something, the finalizer is on
the Service. -/
structure Guarded (id : String) (start x : Scene) : Prop where
  placed : x.cloud.inventory.Placed
  unprotected : ∀ lb ∈ x.cloud.inventory.loadBalancers, lb.deleteProtection = false
  identified : Identified id x.object
  safe : ∃ held, x.pass.Safe (surroundings id) (fun _ _ => True) ⟨x.cloud, held⟩ ∧
    (held = true → Finalized x.object)
  guarded : Finalized x.object ∨ x.cloud.inventory.labelled Desired.uidLabel id = [] ∨
    ¬ Finalized start.object ∧ x.cloud.log = start.cloud.log

/-- Users change a Service as they like, but do not touch the finalizer.  Nor can they make the
Service go away while it is there. -/
theorem finalized_of_edits {s t : Service} {object : Option Service} (hs : object = some s)
    (h : Edits s t) (hobject : Finalized object) : Finalized t.settled := by
  obtain ⟨_, rfl, hfinalizer⟩ := hobject
  obtain rfl := Option.some.inj hs
  exact Cluster.finalized_settled (h.finalizer.trans hfinalizer)

theorem edits_uid {s t : Service} {object : Option Service} (hs : object = some s)
    (h : t.metadata.uid = s.metadata.uid) (hobject : Identified id object) :
    Identified id t.settled :=
  Cluster.identified_settled (h.trans (hobject s hs))

variable {helper : Helper} {start x y : Scene}

/-- A change of the Service that leaves the finalizer on it does not touch anything else. -/
theorem Guarded.withObject (h : Guarded id start x) {object : Option Service}
    (hid : Identified id object) (hfinalized : Finalized x.object → Finalized object) :
    Guarded id start { x with object := object } := by
  obtain ⟨hplaced, hunprotected, -, ⟨held, hsafe, hheld⟩, hguarded⟩ := h
  exact ⟨hplaced, hunprotected, hid, ⟨held, hsafe, fun h => hfinalized (hheld h)⟩,
    hguarded.imp_left hfinalized⟩

/-- Nothing that can happen ends the guard.  A request to the cloud is the case that needs the
finalizer: the pass made it, so the pass knew that the finalizer was there, and it is still there,
for only the pass takes it away. -/
theorem Guarded.step (hhelper : Careful helper) (h : Guarded id start x)
    (hstep : Step helper engine x y) : Guarded id start y := by
  cases hstep with
  | edited hs hedits =>
    exact h.withObject (edits_uid hs hedits.uid h.identified) (finalized_of_edits hs hedits)
  | @condemned s hs =>
    refine h.withObject (edits_uid hs rfl h.identified) ?_
    rintro ⟨_, hobject, hfinalizer⟩
    obtain rfl := Option.some.inj (hs.symm.trans hobject)
    exact Cluster.finalized_settled hfinalizer
  | @began s outcome isLeader hended hs =>
    obtain ⟨hplaced, hunprotected, hidentified, -, hguarded⟩ := h
    have hid : Engine.uid s = .ok id := Engine.uid_eq_ok.2 (hidentified s hs)
    refine ⟨hplaced, hunprotected, hidentified, ⟨s.hasFinalizer, ?_, ?_⟩, hguarded⟩
    · exact safe_reconcile hhelper isLeader hid hunprotected
    · exact fun hfinalizer => ⟨s, hs, hfinalizer⟩
  | cloud hpass hanswered =>
    obtain ⟨hplaced, hunprotected, hidentified, ⟨held, hsafe, hheld⟩, -⟩ := h
    obtain ⟨c, hdone⟩ := hanswered.handled.done hplaced.ordered
    rw [hpass] at hsafe
    -- The cloud is asked, so the finalizer is there.
    obtain ⟨hallowed, hnext⟩ := hsafe
    exact ⟨hplaced.done hdone,
      Cloud.Inventory.deleteProtection_of_done hplaced.ordered hunprotected hdone, hidentified,
      ⟨held, hnext _ ⟨_, held⟩ ⟨hanswered, rfl⟩, hheld⟩, .inl (hheld hallowed)⟩
  | stopped outcome =>
    obtain ⟨hplaced, hunprotected, hidentified, -, hguarded⟩ := h
    exact ⟨hplaced, hunprotected, hidentified, ⟨false, trivial, nofun⟩, hguarded⟩
  | @cluster q next r object hpass hserved =>
    obtain ⟨hplaced, hunprotected, hidentified, ⟨held, hsafe, hheld⟩, hguarded⟩ := h
    rw [hpass] at hsafe
    obtain ⟨hallowed, hnext⟩ := hsafe
    have hrest := hnext r _ rfl
    refine ⟨hplaced, hunprotected, hserved.identified hidentified,
      ⟨held && !q.releases, hrest, fun hkept => ?_⟩, ?_⟩
    · simp only [Bool.and_eq_true, Bool.not_eq_true'] at hkept
      exact hserved.finalized hkept.2 (hheld hkept.1)
    · cases hrelease : q.releases with
      | true => exact .inr (.inl (hallowed hrelease))
      | false => exact hguarded.imp_left (hserved.finalized hrelease)

/-- A guarded scene stays guarded for as long as the run lasts. -/
theorem guarded_of_run (hhelper : Careful helper) (h : Run helper engine start x)
    (hstart : Guarded id start start) : Guarded id start x := by
  induction h with
  | start => exact hstart
  | step _ hstep ih => exact ih.step hhelper hstep

/-- What carries the identity of a Service is guarded by its finalizer, as soon as the cloud has
been asked for anything: the Service is there, and the finalizer is on it.  Of the helper that looks
after the finalizer nothing is asked but that it is careful. -/
theorem finalized_of_run {lb : Cloud.LoadBalancer} (hhelper : Careful helper)
    (hrun : Run helper engine start x)
    (hbegin : ∃ outcome, start.pass = .done outcome) (hplaced : start.cloud.inventory.Placed)
    (hprotection : ∀ lb ∈ start.cloud.inventory.loadBalancers, lb.deleteProtection = false)
    (hid : Identified id start.object)
    (hasked : Finalized start.object ∨ x.cloud.log ≠ start.cloud.log)
    (hlb : lb ∈ x.cloud.inventory.labelled Desired.uidLabel id) : Finalized x.object := by
  obtain ⟨outcome, hended⟩ := hbegin
  have hsafe : start.pass.Safe (surroundings id) (fun _ _ => True) ⟨start.cloud, false⟩ := by
    rw [hended]
    trivial
  have hguarded : Finalized start.object ∨
      start.cloud.inventory.labelled Desired.uidLabel id = [] ∨
        ¬ Finalized start.object ∧ start.cloud.log = start.cloud.log := by
    by_cases hfinalized : Finalized start.object
    · exact .inl hfinalized
    · exact .inr (.inr ⟨hfinalized, rfl⟩)
  have hstart : Guarded id start start :=
    ⟨hplaced, hprotection, hid, ⟨false, hsafe, nofun⟩, hguarded⟩
  rcases (guarded_of_run hhelper hrun hstart).guarded with hfinalized | hnone | ⟨hunguarded, huntouched⟩
  · exact hfinalized
  · rw [hnone] at hlb
    cases hlb
  · rcases hasked with hfinalized | htouched
    · exact absurd hfinalized hunguarded
    · exact absurd huntouched htouched

/-! ### Passes in which nothing goes wrong -/

/-- A cloud and a cluster that do what they are asked. -/
def obliging (next : Service → String) (nodes : List Cluster.Node) :
    Program.Handler effect (World × Option Service) :=
  Program.Handler.both (fun q w => World.handle q w.calmed) (Cluster.serve next nodes)

/-- A cloud in which nothing goes wrong answers as an unreliable one might. -/
theorem answered_calmed (q : Cloud.effect.Request) (w : World) :
    Answered w q (World.handle q w.calmed).1 (World.handle q w.calmed).2 := by
  refine .told .none ?_
  rintro ⟨c, rest, -, -, hnamed⟩
  cases hnamed

/-- A pass in which nothing goes wrong is one of the things that can happen. -/
theorem Run.pass {p : Operation Next} {w : World} {object : Option Service}
    (next : Service → String) (nodes : List Cluster.Node)
    (h : Run helper engine start ⟨w, object, p⟩) :
    let result := p.run (obliging next nodes) (w, object)
    Run helper engine start ⟨result.2.1, result.2.2, .done result.1⟩ := by
  induction p generalizing w object with
  | done outcome => exact h
  | ask q rest ih =>
    cases q with
    | inl q => exact ih _ (h.step (.cloud rfl (answered_calmed q w)))
    | inr q => exact ih _ (h.step (.cluster rfl (Cluster.served_serve next nodes q object)))

namespace Sample

/-- Versions that count upwards. -/
def next (s : Service) : String := (s.metadata.resourceVersion.getD "") ++ "i"

/-- A Service that nothing was done for yet, and a cloud. -/
def beginning : Scene := ⟨Engine.Sample.world, some Engine.Sample.service, .done (.ok .onChange)⟩

/-- The scene after some passes in which nothing goes wrong. -/
def passes : Nat → Scene
  | 0 => beginning
  | n + 1 =>
    match (passes n).object with
    | none => passes n
    | some s =>
      let result := (reconcile Engine.Sample.engine true s).run
        (obliging next Engine.Sample.nodes) ((passes n).cloud, some s)
      ⟨result.2.1, result.2.2, .done result.1⟩

theorem ended_passes (n : Nat) : ∃ outcome, (passes n).pass = .done outcome := by
  induction n with
  | zero => exact ⟨_, rfl⟩
  | succ n ih =>
    rw [passes]
    split
    · exact ih
    · exact ⟨_, rfl⟩

/-- Passes in which nothing goes wrong, one after the other, are a run. -/
theorem run_passes (n : Nat) : Run withFinalizer Engine.Sample.engine beginning (passes n) := by
  induction n with
  | zero => exact .start
  | succ n ih =>
    rw [passes]
    split
    · exact ih
    · rename_i s hs
      obtain ⟨outcome, hended⟩ := ended_passes n
      have hbegan := ih.step (.began true hended hs)
      rw [hs] at hbegan
      exact hbegan.pass next Engine.Sample.nodes

end Sample

/-- The first pass puts the finalizer on the Service, and the second adopts a load balancer. -/
theorem finalized_of_run_sample :
    Careful withFinalizer ∧
    Run withFinalizer Engine.Sample.engine Sample.beginning (Sample.passes 2) ∧
    ((Sample.passes 2).cloud.inventory.labelled Desired.uidLabel "u1").map (·.id) = [4] ∧
    Finalized (Sample.passes 2).object := by
  have hids : ((Sample.passes 2).cloud.inventory.labelled Desired.uidLabel "u1").map (·.id) =
      [4] := by decide +kernel
  have hasked : (Sample.passes 2).cloud.log ≠ Sample.beginning.cloud.log := by
    decide +kernel
  obtain ⟨lb, hlb, -⟩ := List.mem_map.1 (hids ▸ List.mem_cons_self : (4 : Int) ∈ _)
  refine ⟨careful_withFinalizer, Sample.run_passes 2, hids, ?_⟩
  have hprotection : ∀ lb ∈ Sample.beginning.cloud.inventory.loadBalancers,
      lb.deleteProtection = false := by decide
  have hid : Identified "u1" Sample.beginning.object := by
    rintro s ⟨⟩
    rfl
  exact finalized_of_run careful_withFinalizer (Sample.run_passes 2) ⟨_, rfl⟩
    Engine.Sample.wellFormed_world.sound.placed hprotection hid (.inr hasked) hlb

end BalancerSync.Control
