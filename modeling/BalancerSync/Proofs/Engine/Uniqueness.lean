import BalancerSync.Proofs.Engine.Identities
import BalancerSync.Proofs.Engine.Passes
import BalancerSync.Proofs.Program.Moments

/-!
# No identity is carried twice

The identity of a Service is given to a load balancer only after a search that has looked for it,
and between the search and the giving there are no calls that could give it to another load
balancer.  So an identity that is carried once is never given a second time, at no moment of any
run.

If it is carried twice nevertheless, then every command for the Service stops at the search.

## Main Definitions

* `Command`, `Run` — the commands, and the worlds that they lead to
* `Missing`, `Guarded` — nothing to be found, and a moment at which nothing goes wrong
* `Refuses` — an operation that fails without a change

## Main Results

* `guarded_command` — every command keeps identities apart, at every moment
* `refuses_command` — a command for an identity that is carried twice is refused
* `unambiguous_of_run` — identities stay apart in every run
-/

namespace BalancerSync.Engine

open Cloud (Call LoadBalancer Inventory World Operation Script NewLoadBalancer takeNamed?)
open Cloud.Inventory (Placed)
open Cluster (Service Node)
open Desired (Balancer)
open Program (Moment)

/-! ### Commands -/

/-- What is asked for, for one Service at a time. -/
inductive Command where
  | ensure (service : Service) (nodes : List Node)
  | update (service : Service) (nodes : List Node)
  | delete (service : Service)
  | status (service : Service)

namespace Command

/-- The Service that a command is for. -/
def service : Command → Service
  | ensure service _ | update service _ | delete service | status service => service

/-- What a command answers. -/
@[reducible] def Result : Command → Type
  | ensure _ _ => List Cluster.Ingress
  | update _ _ | delete _ => Unit
  | status _ => List Cluster.Ingress × Bool

/-- What a command does. -/
def program (engine : Engine) : (command : Command) → Operation command.Result
  | ensure service nodes => engine.ensure service nodes
  | update service nodes => engine.update service nodes
  | delete service => engine.ensureDeleted service
  | status service => engine.status service

end Command

/-- The worlds that commands lead to, whatever is scripted to go wrong before each of them, unless
it denies what is there. -/
inductive Run (engine : Engine) (start : World) : World → Prop where
  | start : Run engine start start
  | command {w : World} (command : Command) : Run engine start w → Honest w →
    Run engine start (w.run (command.program engine)).2
  | scripted {w : World} (script : Script) : Run engine start w →
    Run engine start { w with script := script }

section

variable {engine : Engine} {service : Service} {wishes : Balancer} {nodes : List Node}
  {own : LoadBalancer} {w : World} {id : String}

/-! ### Single moments -/

/-- Nothing is to be found for a Service, neither by its identity nor by its name. -/
structure Missing (engine : Engine) (service : Service) (inv : Inventory) : Prop where
  unlabelled : ∃ id, uid service = .ok id ∧ inv.labelled Desired.uidLabel id = []
  unnamed : ∃ name, engine.balancerName service = .ok name ∧ ∀ lb ∈ inv.loadBalancers, lb.name ≠ name

/-- A moment that keeps identities apart, and at which nothing is created that is there. -/
structure Guarded (engine : Engine) (service : Service) (m : Moment Cloud.effect World) : Prop where
  clear : Clear (m.after World.handle).inventory
  creates : ∀ o, m.request.call? = some (.create o) → Missing engine service m.before.inventory

/-- A lookup does nothing. -/
theorem inventory_of_lookup {q : Cloud.effect.Request} (ho : w.inventory.Ordered)
    (hq : Calls (fun c => c.isMutation = false) q) :
    (World.handle q w).2.inventory = w.inventory := by
  rcases (World.handled w q).inventory with hsame | ⟨c, reply, hc, hok⟩
  · exact hsame
  · have hlookup := hq c hc
    cases Inventory.perform_inversion ho hok with
    | lookup h => exact h
    | revision _ hnew _ _ =>
      rw [revise?_of_lookup hlookup] at hnew
      cases hnew
    | deletion hsubject _ =>
      rw [subject?_of_lookup hlookup] at hsubject
      cases hsubject
    | creation hcreate _ =>
      rw [hcreate] at hlookup
      cases hlookup

theorem guarded_find (name : String) (hw : Clear w.inventory) :
    ∀ m ∈ (find service name).ifFound.moments World.handle w, Guarded engine service m := by
  intro m hm
  have hkeep : ∀ (q : Cloud.effect.Request) (v : World),
      Calls (fun c => c.isMutation = false) q → Clear v.inventory →
      Clear (World.handle q v).2.inventory := by
    intro q v hq hv
    rwa [inventory_of_lookup hv.placed.ordered hq]
  obtain ⟨hq, -, hafter⟩ := (asks_find service name).ifFound.moments
    (I := fun v => Clear v.inventory) hkeep hw m hm
  exact ⟨hafter, fun o ho => by cases hq _ ho⟩

theorem guarded_converge (hid : uid service = .ok id) (hw : Tended id own.id w.inventory) :
    ∀ m ∈ (converge engine own service wishes nodes).moments World.handle w,
      Guarded engine service m := by
  intro m hm
  have hkeep : ∀ (q : Cloud.effect.Request) (v : World), Calls (PassCall service wishes own) q →
      Tended id own.id v.inventory → Tended id own.id (World.handle q v).2.inventory := by
    intro q v hq hv
    rcases (World.handled v q).inventory with hsame | ⟨c, reply, hc, hok⟩
    · rwa [hsame]
    · exact hv.done hid (hq c hc) (Inventory.perform_inversion hv.placed.ordered hok)
  obtain ⟨hq, -, hafter⟩ := asks_passCalls.moments
    (I := fun v => Tended id own.id v.inventory) hkeep hw m hm
  exact ⟨hafter.toClear, fun o ho => absurd rfl ((hq _ ho).ne_create o)⟩

/-- Creating is guarded, and a pass may go on from there. -/
theorem guarded_create (hwishes : engine.wishes service = .ok wishes) (hw : Clear w.inventory)
    (hmissing : Missing engine service w.inventory) :
    (∀ m ∈ (create engine service wishes).moments World.handle w, Guarded engine service m) ∧
      ∀ lb t, w.run (create engine service wishes) = (.ok lb, t) →
        ∃ id, uid service = .ok id ∧ Tended id lb.id t.inventory := by
  obtain ⟨id, hid, hnone⟩ := hmissing.unlabelled
  obtain ⟨name, hname, hfree⟩ := hmissing.unnamed
  obtain rfl := Except.ok.inj ((balancerName_of_wishes hwishes).symm.trans hname)
  cases hoptions : wishes.creation id (creationNetwork engine wishes) with
  | error e =>
    rw [create_eq_of_error hid hoptions]
    refine ⟨by simp, fun lb t h => ?_⟩
    rw [World.run_done] at h
    cases h
  | ok options =>
    have hunused : w.inventory.loadBalancers.find? (fun lb => lb.name == options.name) = none := by
      rw [(marks_of_creation hoptions).1]
      exact List.find?_eq_none.2 fun lb hlb => by simpa using hfree lb hlb
    have htended := tended_withNewcomer hw hnone (marks_of_creation hoptions).2
    have hcleared : Clear (w.perform (.create options)).2.inventory := by
      rcases perform_create hunused with ⟨-, e, v, hrun, hinv⟩ | ⟨action, v, hrun, hinv, -⟩
      · rw [hrun, hinv]
        exact hw
      · rw [hrun, hinv]
        exact htended.toClear
    constructor
    · rw [create_eq hid hoptions, Program.moments_within]
      refine Program.forall_moments_bind (fun m hm => ?_) fun r t hrun => ?_
      · obtain rfl := List.mem_singleton.1 hm
        exact ⟨hcleared, fun o _ => hmissing⟩
      · have ht : Clear t.inventory := by
          rw [← congrArg (·.2.inventory) hrun]
          exact hcleared
        refine Program.forall_moments_bind (fun m hm => ?_) fun _ _ _ => by simp [Program.ofExcept]
        -- What was created is there before its action is done.
        obtain rfl := List.mem_singleton.1 hm
        exact ⟨ht, nofun⟩
    · intro lb t hrun
      rcases run_create hid hoptions hunused with ⟨-, ⟨e, he⟩, -⟩ | ⟨hlb, hinv, -⟩
      · rw [hrun] at he
        cases he
      · rw [hrun] at hlb hinv
        refine ⟨id, hid, ?_⟩
        rw [Except.ok.inj hlb, hinv]
        exact htended

/-- Deleting is guarded too. -/
theorem clear_delete (hw : Clear w.inventory) (n : Int) :
    Clear (World.handle (.call (.delete n)) w).2.inventory := by
  rcases (World.handled w (.call (.delete n))).inventory with hsame | ⟨c, reply, hc, hok⟩
  · rwa [hsame]
  · obtain rfl := Option.some.inj hc
    have hdone := Inventory.perform_inversion hw.placed.ordered hok
    have hplaced := hw.placed.done hdone
    cases hdone with
    | lookup h => exact h ▸ hw
    | revision _ hnew _ _ => cases Cloud.alter?_of_revise? hnew
    | deletion _ h =>
      refine ⟨hplaced, ?_⟩
      rw [h]
      exact hw.unambiguous.remove _
    | creation hcreate _ => cases hcreate

/-! ### Every moment of a command -/

/-- Whatever follows a search for the load balancer of a Service only has to be looked at for what
an honest search can find. -/
theorem guarded_search {α : Type} {name : String} {f : Option LoadBalancer → Operation α}
    (hw : Clear w.inventory) (hhonest : Honest w) (hname : engine.balancerName service = .ok name)
    (hnone : ∀ t : World, Clear t.inventory → Missing engine service t.inventory →
      ∀ m ∈ (f none).moments World.handle t, Guarded engine service m)
    (hsome : ∀ own id (t : World), uid service = .ok id → Tended id own.id t.inventory →
      ∀ m ∈ (f (some own)).moments World.handle t, Guarded engine service m) :
    ∀ m ∈ ((find service name).ifFound.bind f).moments World.handle w,
      Guarded engine service m := by
  refine Program.forall_moments_bind (guarded_find name hw) fun found t hrun => ?_
  obtain ⟨hinv, id, hid, hsought⟩ := sought_of_run_find hhonest hrun
  rw [← hinv] at hw hsought
  cases found with
  | none =>
    obtain ⟨hfree, hunlabelled⟩ := find?_eq_none_of_sought hsought
    refine hnone t hw ⟨⟨id, hid, hunlabelled⟩, name, hname, fun lb hlb => ?_⟩
    simpa using List.find?_eq_none.1 hfree lb hlb
  | some own =>
    refine hsome own id t hid ⟨hw, fun x hx => ?_⟩
    rw [(alone_of_sought hsought).2 x hx]

/-- Every command keeps identities apart, at every moment. -/
theorem guarded_command (command : Command) (hw : Clear w.inventory) (hhonest : Honest w) :
    ∀ m ∈ (command.program engine).moments World.handle w,
      Guarded engine command.service m := by
  cases command with
  | ensure service nodes =>
    change ∀ m ∈ (engine.ensure service nodes).moments World.handle w, Guarded engine service m
    rw [ensure_eq, Program.moments_within]
    refine Program.forall_moments_bind (by simp [Program.ofExcept]) fun wishes t h => ?_
    obtain ⟨hwishes, rfl⟩ := Prod.mk.inj h
    rw [start, Program.bind_assoc]
    refine guarded_search hw hhonest (balancerName_of_wishes hwishes) (fun t ht hmissing => ?_)
      fun own id t hid ht => ?_
    -- The two ways to come by a load balancer: it is created, or it was found.
    · obtain ⟨hcreate, hnext⟩ := guarded_create hwishes ht hmissing
      refine Program.forall_moments_bind hcreate fun lb u hrun => ?_
      obtain ⟨id, hid, hu⟩ := hnext lb u hrun
      exact Program.forall_moments_bind (guarded_converge hid hu) fun _ _ _ =>
        by simp [Program.ofExcept]
    · refine Program.forall_moments_bind (by simp [Program.ofExcept]) fun lb u hrun => ?_
      obtain ⟨hlb, rfl⟩ := Prod.mk.inj hrun
      obtain rfl : own = lb := Except.ok.inj hlb
      exact Program.forall_moments_bind (guarded_converge hid ht) fun _ _ _ =>
        by simp [Program.ofExcept]
  | update service nodes =>
    change ∀ m ∈ (engine.update service nodes).moments World.handle w, Guarded engine service m
    rw [update, Program.moments_within]
    refine Program.forall_moments_bind (by simp [Program.ofExcept]) fun wishes t h => ?_
    obtain ⟨hwishes, rfl⟩ := Prod.mk.inj h
    refine guarded_search hw hhonest (balancerName_of_wishes hwishes) (fun _ _ _ => by simp)
      fun own id t hid ht => ?_
    exact Program.forall_moments_bind (guarded_converge hid ht) fun _ _ _ => by simp
  | delete service =>
    change ∀ m ∈ (engine.ensureDeleted service).moments World.handle w, Guarded engine service m
    rw [ensureDeleted, Program.moments_within]
    refine Program.forall_moments_bind (by simp [Program.ofExcept]) fun name t h => ?_
    obtain ⟨hname, rfl⟩ := Prod.mk.inj h
    refine guarded_search hw hhonest hname (fun _ _ _ => by simp) fun own id t hid ht => ?_
    by_cases hprotection : own.deleteProtection = true
    · simp [hprotection]
    · simp only [hprotection]
      refine Program.forall_moments_bind (fun m hm => ?_) fun _ _ _ => by simp
      rw [Program.moments_ifFound] at hm
      obtain rfl := List.mem_singleton.1 hm
      exact ⟨clear_delete ht.toClear own.id, fun _ h => by cases h⟩
  | status service =>
    change ∀ m ∈ (engine.status service).moments World.handle w, Guarded engine service m
    rw [status, Program.moments_within]
    refine Program.forall_moments_bind (by simp [Program.ofExcept]) fun wishes t h => ?_
    obtain ⟨hwishes, rfl⟩ := Prod.mk.inj h
    exact guarded_search hw hhonest (balancerName_of_wishes hwishes) (fun _ _ _ => by simp)
      fun _ _ _ _ _ => by simp

/-- The worlds of a run stay clear. -/
theorem Run.clear {start : World} (h : Run engine start w) (hstart : Clear start.inventory) :
    Clear w.inventory := by
  induction h with
  | start => exact hstart
  | @command w command _ hhonest ih =>
    refine Program.run_of_forall_moments (I := fun v : World => Clear v.inventory) ih
      fun m hm => ?_
    exact (guarded_command command ih hhonest m hm).clear
  | scripted script _ ih => exact ih

/-! ### Identities that are carried twice -/

/-- An operation that fails without a change; if it comes to a search and that is answered, the
error is that there are several. -/
structure Refuses {α : Type} (w : World) (searches : Prop) (p : Operation α) : Prop where
  fails : ∃ e, (w.run p).1 = .error e ∧
    (searches → takeNamed? "list_by_label" w.script.failures = none →
      ∃ text, e.root = .nonUnique text)
  unchanged : ∃ calls, (w.run p).2.log = w.log ++ calls ∧ ∀ c ∈ calls, c.isMutation = false

theorem exists_single_eq_error (selector : String) {lbs : List LoadBalancer} (h : 2 ≤ lbs.length) :
    ∃ text, single selector lbs = .error (.nonUnique text) := by
  match lbs with
  | [] | [_] => simp at h
  | _ :: _ :: _ => exact ⟨_, rfl⟩

/-- The script does not let the lookup by identity fail as if there was nothing. -/
def Undenied (w : World) : Prop :=
  ∀ rest, takeNamed? "list_by_label" w.script.failures ≠ some (.notFound, rest)

/-- A search for an identity that is carried twice stops. -/
theorem run_find_of_two_le (name : String) (hid : uid service = .ok id)
    (htwo : 2 ≤ (w.inventory.labelled Desired.uidLabel id).length) (hw : Undenied w) :
    ∃ e t, w.run (find service name).ifFound = (.error e, t) ∧
      t.log = w.log ++ [.listByLabel (uidSelector id)] ∧
      (takeNamed? "list_by_label" w.script.failures = none → ∃ text, e.root = .nonUnique text) := by
  have hrun := run_byUid (w := w) hid
  cases hnamed : takeNamed? "list_by_label" w.script.failures with
  | some entry =>
    obtain ⟨code, rest⟩ := entry
    rw [hnamed] at hrun
    have hcode : code ≠ .notFound := by
      rintro rfl
      exact hw rest hnamed
    have he : (World.injected code "list_by_label").isNotFound = false := by
      simpa [World.injected, Error.isNotFound, Error.root] using hcode
    exact ⟨_, _, run_find_of_byUid_error name hrun he, rfl, fun h => by cases h⟩
  | none =>
    obtain ⟨text, hsingle⟩ := exists_single_eq_error (uidSelector id) htwo
    rw [hnamed, hsingle] at hrun
    exact ⟨_, _, run_find_of_byUid_error name hrun rfl, rfl, fun _ => ⟨text, rfl⟩⟩

/-- So does whatever begins with such a search. -/
theorem refuses_search {α β : Type} (operation : String) {x : Except Error β} (name : β → String)
    {f : β → Option LoadBalancer → Operation α} (hid : uid service = .ok id)
    (htwo : 2 ≤ (w.inventory.labelled Desired.uidLabel id).length) (hw : Undenied w) :
    Refuses w (∃ b, x = .ok b) (((Program.ofExcept x).bind fun b =>
      (find service (name b)).ifFound.bind (f b)).within operation) := by
  cases x with
  | error e =>
    refine ⟨⟨.within operation e, rfl, fun h => ?_⟩, [], (List.append_nil _).symm, by simp⟩
    obtain ⟨b, hb⟩ := h
    cases hb
  | ok b =>
    obtain ⟨e, t, hrun, hlog, hroot⟩ := run_find_of_two_le (name b) hid htwo hw
    have hresult : w.run (((Program.ofExcept (.ok b)).bind fun b =>
        (find service (name b)).ifFound.bind (f b)).within operation) =
          (.error (.within operation e), t) := by
      rw [World.run_within, World.run_bind, World.run_ofExcept]
      simp only
      rw [World.run_bind, hrun]
      rfl
    refine ⟨?_, ?_⟩
    · rw [hresult]
      exact ⟨.within operation e, rfl, fun _ => hroot⟩
    · rw [hresult]
      exact ⟨_, hlog, by simp [Call.isMutation]⟩

/-- Every command for an identity that is carried twice is refused. -/
theorem refuses_command (command : Command) (hid : uid command.service = .ok id)
    (htwo : 2 ≤ (w.inventory.labelled Desired.uidLabel id).length) (hw : Undenied w) :
    Refuses w (∃ wishes, engine.wishes command.service = .ok wishes) (command.program engine) := by
  cases command with
  | ensure service nodes =>
    change Refuses w _ (engine.ensure service nodes)
    rw [ensure_eq]
    simp only [start, Program.bind_assoc]
    exact refuses_search _ Balancer.name hid htwo hw
  | update service nodes => exact refuses_search _ Balancer.name hid htwo hw
  | delete service =>
    have hrefuses : Refuses w (∃ name, engine.balancerName service = .ok name)
        (engine.ensureDeleted service) := refuses_search _ (fun name => name) hid htwo hw
    obtain ⟨⟨e, he, hroot⟩, hunchanged⟩ := hrefuses
    refine ⟨⟨e, he, ?_⟩, hunchanged⟩
    rintro ⟨wishes, hwishes⟩
    exact hroot ⟨_, balancerName_of_wishes hwishes⟩
  | status service => exact refuses_search _ Balancer.name hid htwo hw

/-! ### Runs -/

/-- Identities stay apart at every moment of every run, and a load balancer is created only when
nothing is to be found for its Service.

In whatever way an identity may have come to be carried twice, every command for it is refused. -/
theorem unambiguous_of_run {start : World} (command : Command)
    (hplaced : start.inventory.Placed) (hunambiguous : Unambiguous start.inventory)
    (hrun : Run engine start w) (hhonest : Honest w) :
    (∀ m ∈ (command.program engine).moments World.handle w,
      Unambiguous (m.after World.handle).inventory ∧
        ∀ o, m.request.call? = some (.create o) →
          Missing engine command.service m.before.inventory) ∧
    ∀ (t : World) (other : Command) (id : String), uid other.service = .ok id →
      2 ≤ (t.inventory.labelled Desired.uidLabel id).length → Undenied t →
      Refuses t (∃ wishes, engine.wishes other.service = .ok wishes) (other.program engine) := by
  refine ⟨fun m hm => ?_, fun t other id hid htwo ht => refuses_command other hid htwo ht⟩
  have hclear : Clear w.inventory := hrun.clear ⟨hplaced, hunambiguous⟩
  obtain ⟨hafter, hcreates⟩ := guarded_command command hclear hhonest m hm
  exact ⟨hafter.unambiguous, hcreates⟩

end

namespace Sample

/-- The cloud after a pass that was cut short. -/
def interrupted : World := (disturbed.run (engine.ensure service nodes)).2

/-- A cloud in which somebody has given the identity of the Service to two load balancers. -/
def crowded : World :=
  let labels := Labels.empty.insert Desired.uidLabel "u1"
  .ofInventory ⟨[{ handmade with labels := labels },
    { handmade with id := 5, name := "other", labels := labels }], [], [], 5⟩ (.ofMillis 500)

end Sample

theorem unambiguous_of_run_sample :
    Placed Sample.world.inventory ∧ Unambiguous Sample.world.inventory ∧
    Run Sample.engine Sample.world Sample.interrupted ∧ Honest Sample.interrupted ∧
    (∀ m ∈ ((Command.ensure Sample.service Sample.nodes).program Sample.engine).moments
      World.handle Sample.interrupted, Unambiguous (m.after World.handle).inventory) ∧
    2 ≤ (Sample.crowded.inventory.labelled Desired.uidLabel "u1").length ∧
    ∃ e text, (Sample.crowded.run (Sample.engine.ensureDeleted Sample.service)).1 = .error e ∧
      e.root = .nonUnique text := by
  have hplaced : Placed Sample.world.inventory := Sample.wellFormed_world.sound.placed
  have hunambiguous : Unambiguous Sample.world.inventory := fun id => List.length_filter_le _ _
  have hfailures : Sample.interrupted.script.failures = [] := by decide +kernel
  have hhonest : Honest Sample.interrupted := by
    intro call _ rest h
    rw [hfailures] at h
    cases h
  have hrun : Run Sample.engine Sample.world Sample.interrupted :=
    .command (.ensure Sample.service Sample.nodes) (.scripted Sample.disturbed.script .start)
      (fun call _ rest h => by cases h)
  have htwo : 2 ≤ (Sample.crowded.inventory.labelled Desired.uidLabel "u1").length := by
    decide +kernel
  obtain ⟨hmoments, hrefuses⟩ := unambiguous_of_run (.ensure Sample.service Sample.nodes)
    hplaced hunambiguous hrun hhonest
  refine ⟨hplaced, hunambiguous, hrun, hhonest, fun m hm => (hmoments m hm).1, htwo, ?_⟩
  obtain ⟨⟨e, he, hroot⟩, -⟩ :=
    hrefuses Sample.crowded (.delete Sample.service) "u1" rfl htwo (fun _ h => by cases h)
  have hwishes : ∃ wishes, Sample.engine.wishes Sample.service = .ok wishes := by
    have hread : (Sample.engine.wishes Sample.service).isOk = true := by decide +kernel
    cases h : Sample.engine.wishes Sample.service with
    | ok wishes => exact ⟨wishes, rfl⟩
    | error e =>
      rw [h] at hread
      cases hread
  obtain ⟨text, htext⟩ := hroot hwishes rfl
  exact ⟨e, text, he, htext⟩

end BalancerSync.Engine
