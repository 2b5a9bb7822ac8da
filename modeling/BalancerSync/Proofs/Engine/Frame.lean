import BalancerSync.Proofs.Cloud.Frame
import BalancerSync.Proofs.Engine.Deletion
import BalancerSync.Proofs.Engine.HealthChecks
import BalancerSync.Proofs.Engine.Uniqueness

/-!
# What a task leaves alone

A task is about one load balancer: the one that it finds, or the one that it creates because it
finds none.  Wherever it stops, every other load balancer is as it was.  Of its own one it changes
what the Service says something about, and nothing else.

Two things make that less plain than it sounds.  The labels are written as a whole, copied from the
load balancer as it was found, which is harmless because nothing else writes them.  And a backend
service is given its options once at most, while what is known about a pass call by call does not
tell how often.  It does not matter: two readings of one port set the same fields, so of the two
only the second counts (`apply_apply_of_wanted`).

## Main Definitions

* `Kept` — what becomes of a backend service that stays
* `Framed` — what a task leaves as it was of a load balancer that stays
* `Task.subject?`, `Task.Concerns` — the load balancer that a task is about, and the changes to it

## Main Results

* `Framed.revise` — every call of a pass keeps to the frame
* `confined_task` — a task changes no load balancer but its own
* `frame_of_task` — the frame of a task, wherever it stops
-/

namespace BalancerSync.Engine

open Cloud (Call LoadBalancer BackendService Inventory World Operation)
open Cloud.World (Confined confined_run confined_bind)
open Cluster (Service Node)
open Desired (Balancer PortOptions)
open Program (Asks)
open Setting (read_of_not_isSet)

section

variable {engine : Engine} {service : Service} {wishes : Balancer} {nodes : List Node}
  {lb mid new own : LoadBalancer} {s t : BackendService} {options other : PortOptions}
  {w : World} {c : Call} {n : Nat} {name : String} {task : Task}

/-! ### Reading a port again -/

/-- Whether certificates are wished for can be read off the Service; only which ones they are takes
lookups. -/
theorem readCertificates_eq_none {certificates certificates' : Option (List Int)}
    (h : (Desired.readCertificates service).Yields certificates)
    (h' : (Desired.readCertificates service).Yields certificates') :
    certificates = none → certificates' = none := by
  obtain ⟨references?, hreferences, h⟩ := Program.exists_yields_of_bind h
  obtain ⟨references?', hreferences', h'⟩ := Program.exists_yields_of_bind h'
  obtain rfl := Except.ok.inj
    ((Program.yields_ofExcept.1 hreferences).symm.trans (Program.yields_ofExcept.1 hreferences'))
  cases references? with
  | none =>
    cases h'
    exact fun _ => rfl
  | some references =>
    obtain ⟨ids, -, h⟩ := Program.exists_yields_of_bind h
    cases h
    exact nofun

/-- Of two readings of the HTTP settings, which differ in the identifiers of the certificates at
most, only the second counts. -/
theorem applyHttp_applyHttp {cookieName : Option String} {cookieLifetime : Option Duration}
    {certificates certificates' : Option (List Int)} {redirectHttp stickySessions : Option Bool}
    (h : certificates = none → certificates' = none)
    (h' : certificates' = none → certificates = none)
    (http : Option Cloud.ServiceHttp) :
    Cloud.applyHttp (Desired.httpUnlessEmpty
        ⟨cookieName, cookieLifetime, certificates, redirectHttp, stickySessions⟩)
      (Cloud.applyHttp (Desired.httpUnlessEmpty
        ⟨cookieName, cookieLifetime, certificates', redirectHttp, stickySessions⟩) http) =
    Cloud.applyHttp (Desired.httpUnlessEmpty
        ⟨cookieName, cookieLifetime, certificates, redirectHttp, stickySessions⟩) http := by
  by_cases hempty : (⟨cookieName, cookieLifetime, certificates, redirectHttp, stickySessions⟩ :
      Cloud.HttpOptions) = ⟨none, none, none, none, none⟩
  · obtain ⟨rfl, rfl, rfl, rfl, rfl⟩ := Cloud.HttpOptions.mk.inj hempty
    rw [h rfl]
    rfl
  · have hempty' : ¬ (⟨cookieName, cookieLifetime, certificates', redirectHttp, stickySessions⟩ :
        Cloud.HttpOptions) = ⟨none, none, none, none, none⟩ := by
      intro heq
      obtain ⟨rfl, rfl, rfl, rfl, rfl⟩ := Cloud.HttpOptions.mk.inj heq
      exact hempty (by rw [h' rfl])
    simp only [Desired.httpUnlessEmpty, if_neg hempty, if_neg hempty', Cloud.applyHttp,
      Option.getD_some, Cloud.HttpOptions.apply, Cloud.getD_getD id, Cloud.getD_getD h]

/-- Of two readings of one port only the second counts: both set the same fields. -/
theorem apply_apply_of_wanted (h : Wanted service n options) (h' : Wanted service n other)
    (s : BackendService) :
    options.change.apply (other.change.apply s) = options.change.apply s := by
  obtain ⟨port, hport, h⟩ := h
  obtain ⟨port', hport', h'⟩ := h'
  obtain rfl := Option.some.inj (hport.symm.trans hport')
  obtain ⟨destination, hdestination, h⟩ := Program.exists_yields_of_bind h
  obtain ⟨proxyProtocol, hproxy, h⟩ := Program.exists_yields_of_bind h
  obtain ⟨protocol, hprotocol, h⟩ := Program.exists_yields_of_bind h
  obtain ⟨cookieName, hname, h⟩ := Program.exists_yields_of_bind h
  obtain ⟨cookieLifetime, hlifetime, h⟩ := Program.exists_yields_of_bind h
  obtain ⟨certificates, hcertificates, h⟩ := Program.exists_yields_of_bind h
  obtain ⟨redirectHttp, hredirect, h⟩ := Program.exists_yields_of_bind h
  obtain ⟨stickySessions, hsticky, h⟩ := Program.exists_yields_of_bind h
  obtain ⟨check, hcheck, h⟩ := Program.exists_yields_of_bind h
  rw [Program.yields_ofExcept] at hdestination hproxy hprotocol hname
  rw [Program.yields_ofExcept] at hlifetime hredirect hsticky hcheck
  -- The other reading finds the same, but for the certificates.
  simp only [PortOptions.extract, hdestination, hproxy, hprotocol, hname, hlifetime, hredirect,
    hsticky, hcheck, Program.ofExcept, Program.bind_eq, Program.bind_ok] at h'
  obtain ⟨certificates', hcertificates', h'⟩ := Program.exists_yields_of_bind h'
  cases h
  cases h'
  simp only [PortOptions.change, Cloud.ServiceChange.apply, Option.getD_some,
    Cloud.applyHealthCheck_applyHealthCheck,
    applyHttp_applyHttp (readCertificates_eq_none hcertificates hcertificates')
      (readCertificates_eq_none hcertificates' hcertificates)]

/-! ### Backend services that stay -/

/-- A backend service that stays: it is as it was, or was given the wishes for its port, and in what
these leave open it is as it was in any case. -/
structure Kept (service : Service) (s t : BackendService) : Prop where
  change : t = s ∨ ∃ options, Wanted service s.listenPort options ∧ t = options.change.apply s
  spares : ∀ options, Wanted service s.listenPort options → options.change.Spares s t

theorem Kept.refl (service : Service) (s : BackendService) : Kept service s s :=
  ⟨.inl rfl, fun _ _ => Cloud.ServiceChange.spares_of_apply_eq rfl⟩

/-- Giving a service the wishes for its port a second time, as a port that is listed twice does, is
like giving them once. -/
theorem Kept.apply (h : Kept service s t) (hoptions : Wanted service s.listenPort options) :
    Kept service s (options.change.apply t) := by
  have hsame : options.change.apply t = options.change.apply s := by
    rcases h.change with rfl | ⟨other, hother, rfl⟩
    · rfl
    · exact apply_apply_of_wanted hoptions hother s
  rw [hsame]
  refine ⟨.inr ⟨options, hoptions, rfl⟩, fun other hother => ?_⟩
  exact Cloud.ServiceChange.spares_of_apply_eq (apply_apply_of_wanted hother hoptions s)

/-! ### What stays of a load balancer -/

/-- What a task for a Service leaves as it was of a load balancer that is still there afterwards. -/
structure Framed (service : Service) (lb new : LoadBalancer) : Prop where
  base : lb.SameBase new
  labels : ∀ key, key ≠ Desired.uidLabel → new.labels.get? key = lb.labels.get? key
  name : Setting.name.isSet service = false → new.name = lb.name
  algorithm : Setting.algorithm.isSet service = false → new.algorithm = lb.algorithm
  type : Setting.type.isSet service = false → new.type = lb.type
  publicInterface : Setting.disablePublicNetwork.isSet service = false →
    new.publicInterface = lb.publicInterface
  services : ∀ s ∈ lb.services, ∀ t ∈ new.services, t.listenPort = s.listenPort → Kept service s t

/-- Before the first call everything is as it was.  Services are compared by listen port, so each
has to be the only one on its port. -/
theorem Framed.refl (service : Service) (hports : (lb.services.map (·.listenPort)).Nodup) :
    Framed service lb lb where
  base := ⟨rfl, rfl, rfl, rfl, rfl, rfl⟩
  labels _ _ := rfl
  name _ := rfl
  algorithm _ := rfl
  type _ := rfl
  publicInterface _ := rfl
  services s hs t ht hport := by
    obtain rfl : t = s := List.inj_on_of_nodup_map hports ht hs hport
    exact .refl service t

/-- A wish is open if its setting is not there. -/
theorem open_of_not_isSet (hwishes : engine.wishes service = .ok wishes) :
    (Setting.algorithm.isSet service = false → wishes.algorithm = none) ∧
      (Setting.type.isSet service = false → wishes.type = none) ∧
      (Setting.disablePublicNetwork.isSet service = false → wishes.publicInterface = none) := by
  have hread := Balancer.readFrom_of_ofService hwishes
  refine ⟨fun h => ?_, fun h => ?_, fun h => ?_⟩
  · exact Except.ok.inj (hread.algorithm.symm.trans (read_of_not_isSet h _))
  · exact Except.ok.inj (hread.type.symm.trans (read_of_not_isSet h _))
  · obtain ⟨off, hoff, hwish⟩ := hread.publicInterface
    rw [hwish, ← Except.ok.inj ((read_of_not_isSet h _).symm.trans hoff)]
    rfl

/-- Every call of a pass leaves that as it was when the pass began. -/
theorem Framed.revise (hwishes : engine.wishes service = .ok wishes) (h : Framed service own mid)
    (hc : PassCall service wishes own c) (hnew : c.revise? mid = some new) :
    Framed service own new := by
  obtain ⟨halgorithm, htype, hinterface⟩ := open_of_not_isSet hwishes
  have hbase := h.base.trans (Cloud.sameBase_revise? hnew)
  cases hc.revised hnew with
  | @identity id name _ hname =>
    refine ⟨hbase, fun key hkey => ?_, fun hunset => ?_, h.algorithm, h.type, h.publicInterface,
      h.services⟩
    -- The pass compares with `own`; if the label is there already it is not written again.
    · by_cases hlabel : own.labels.get? Desired.uidLabel = some id
      · simpa [Inventory.withChange, infoChange, hlabel] using h.labels key hkey
      · simp [Inventory.withChange, infoChange, hlabel, Labels.get?_insert, hkey.symm]
    · obtain rfl : none = name := Except.ok.inj ((read_of_not_isSet hunset _).symm.trans hname)
      exact h.name hunset
  | algorithm hwish =>
    refine ⟨hbase, h.labels, h.name, fun hunset => ?_, h.type, h.publicInterface, h.services⟩
    rw [halgorithm hunset] at hwish
    cases hwish
  | type hwish =>
    refine ⟨hbase, h.labels, h.name, h.algorithm, fun hunset => ?_, h.publicInterface, h.services⟩
    rw [htype hunset] at hwish
    cases hwish
  | publicInterface hwish =>
    refine ⟨hbase, h.labels, h.name, h.algorithm, h.type, fun hunset => ?_, h.services⟩
    rw [hinterface hunset] at hwish
    cases hwish
  | attachments | targets =>
    exact ⟨hbase, h.labels, h.name, h.algorithm, h.type, h.publicInterface, h.services⟩
  | services hmaintains =>
    refine ⟨hbase, h.labels, h.name, h.algorithm, h.type, h.publicInterface, ?_⟩
    intro s hs t ht hport
    rcases hmaintains t ht with ht | ⟨n, options, hfree, -, rfl⟩ | ⟨u, hu, options, hwanted, rfl⟩
    · exact h.services s hs t ht hport
    · -- Nothing was there on the port of a new service.
      have hn : s.listenPort = n := hport.symm
      rw [← hn] at hfree
      exact absurd (List.mem_map_of_mem hs) (Cloud.service?_eq_none.1 hfree)
    · have hsame : u.listenPort = s.listenPort := hport
      rw [hsame] at hwanted
      exact (h.services s hs u hu hsame).apply hwanted

/-! ### Searches, creations and passes -/

/-- A search leaves everything as it is. -/
theorem inventory_run_find (hw : w.inventory.Placed) (service : Service) (name : String) :
    (w.run (find service name).ifFound).2.inventory = w.inventory := by
  have hasks := (asks_find service name).ifFound
  refine (hasks.run (I := fun v : World => v.inventory.Placed ∧ v.inventory = w.inventory)
    (fun q v hq hv => ?_) ⟨hw, rfl⟩).2
  have hsame := inventory_of_lookup hv.1.ordered hq
  exact ⟨hsame ▸ hv.1, hsame.trans hv.2⟩

/-- What a search finds is there. -/
theorem mem_of_run_find {t : World}
    (h : w.run (find service name).ifFound = (.ok (some own), t)) :
    own ∈ w.inventory.loadBalancers := by
  obtain ⟨-, id, -, horigin⟩ := of_run_find (World.of_run_ifFound_eq_some h)
  rcases horigin with hlabelled | ⟨hnamed, -⟩
  · exact (Inventory.mem_of_labelled_eq hlabelled).1
  · exact List.mem_of_find?_eq_some hnamed

section

variable {o : Option Int} {P : Call → Prop}

/-- A search, and what is then done with what it has found. -/
theorem confined_search {α : Type} {f : Option LoadBalancer → Operation α}
    (hw : w.inventory.Placed)
    (hf : ∀ found t, w.run (find service name).ifFound = (.ok found, t) →
      t.inventory = w.inventory → Confined o P t (t.run (f found)).2) :
    Confined o P w (w.run ((find service name).ifFound.bind f)).2 := by
  have hsearch : Confined o P w (w.run (find service name).ifFound).2 := by
    refine confined_run hw ((asks_find service name).ifFound.mono fun q hq c hc hchange => ?_)
    rw [hq c hc] at hchange
    cases hchange
  refine confined_bind hsearch fun found t h _ => hf found t h ?_
  rw [← inventory_run_find hw service name, h]

/-- Every change of a pass names the load balancer that the pass is made for. -/
theorem PassCall.subject?_of_isMutation (h : PassCall service wishes own c)
    (hchange : c.isMutation = true) : c.subject? = some own.id := by
  cases h with
  | attachment => rfl
  | step h =>
    cases h with
    | @publicInterface on => cases on <;> rfl
    | certificate | reload => cases hchange
    | _ => rfl

/-- A pass changes no load balancer but its own. -/
theorem confined_converge (hw : w.inventory.Placed) (hP : ∀ c, c.subject? = some own.id → P c) :
    Confined (some own.id) P w (w.run (converge engine own service wishes nodes)).2 := by
  refine confined_run hw (asks_passCalls.mono fun q hq c hc hchange => ?_)
  have hsubject := (hq c hc).subject?_of_isMutation hchange
  exact ⟨hP c hsubject, fun inv => Cloud.about?_of_subject? hsubject⟩

/-- Creating adds a load balancer with a new identifier. -/
theorem confined_create (hw : w.inventory.Placed) (hP : ∀ options, P (.create options)) :
    Confined (some (w.inventory.lastId + 1)) P w (w.run (create engine service wishes)).2 := by
  rw [create, World.run_within]
  refine confined_bind (.refl hw) fun id t h _ => ?_
  obtain ⟨-, rfl⟩ := Prod.mk.inj h
  refine confined_bind (.refl hw) fun options t h _ => ?_
  obtain ⟨-, rfl⟩ := Prod.mk.inj h
  have hcreation : Confined (some (w.inventory.lastId + 1)) P w
      (w.run (Cloud.call (.create options))).2 := by
    refine World.confined_handle hw fun c hc _ => ?_
    obtain rfl := Option.some.inj hc
    exact ⟨hP options, rfl⟩
  refine confined_bind hcreation fun r t _ ht => ?_
  exact confined_bind (World.confined_handle ht fun c hc => by cases hc) fun _ u _ hu => .refl hu

/-- A deletion changes no load balancer but the one that was found, and nothing at all if it is
protected. -/
theorem confined_deleteFound {t : World} (ht : t.inventory.Placed)
    (hP : ∀ c, c.subject? = some own.id → P c) :
    Confined (some own.id) P t (t.run (deleteFound (some own))).2 := by
  have hdelete : (Cloud.call (.delete own.id)).Asks fun q : Cloud.effect.Request => ∀ c,
      q.call? = some c → c.isMutation = true → P c ∧ ∀ inv, c.about? inv = some own.id := by
    refine Asks.request fun c hc _ => ?_
    obtain rfl := Option.some.inj hc
    exact ⟨hP _ rfl, fun _ => rfl⟩
  rw [deleteFound]
  split
  · exact .refl ht
  · exact confined_run ht (hdelete.ifFound.bind fun _ => .done _)

end

/-! ### Tasks -/

namespace Task

/-- What a task finds to work on. -/
def found (engine : Engine) (w : World) (task : Task) : Except Error (Option LoadBalancer) :=
  (engine.balancerName task.service).bind fun name =>
    (w.run (find task.service name).ifFound).1

/-- The load balancer that a task is about: the one that it finds, or the one that it creates
because it finds none. -/
def subject? (engine : Engine) (w : World) (task : Task) : Option Int :=
  match task.found engine w, task with
  | .ok (some lb), _ => some lb.id
  | .ok none, .ensure _ _ => some (w.inventory.lastId + 1)
  | _, _ => none

/-- A change that names the load balancer of a task, or creates it. -/
def Concerns (engine : Engine) (w : World) (task : Task) (c : Call) : Prop :=
  ∃ id, task.subject? engine w = some id ∧
    (c.subject? = some id ∨ task.found engine w = .ok none ∧ ∃ options, c = .create options)

/-- What the search in an operation finds is what its task finds: the name is worked out in the same
way. -/
theorem found_of_run_find {found : Option LoadBalancer} {t : World}
    (hname : engine.balancerName task.service = .ok name)
    (h : w.run (find task.service name).ifFound = (.ok found, t)) :
    task.found engine w = .ok found := by
  rw [Task.found, hname]
  exact congrArg Prod.fst h

/-- A task is about what it has found, and any call that names this one concerns it. -/
theorem concerns_of_found (h : task.found engine w = .ok (some own)) :
    task.subject? engine w = some own.id ∧
      ∀ c, c.subject? = some own.id → task.Concerns engine w c := by
  have hsubject : task.subject? engine w = some own.id := by simp only [subject?, h]
  exact ⟨hsubject, fun c hc => ⟨own.id, hsubject, .inl hc⟩⟩

/-- What a task is about was found, or is the next one to be created. -/
theorem of_subject?_eq_some {id : Int} (h : task.subject? engine w = some id) :
    (∃ own, task.found engine w = .ok (some own) ∧ own.id = id) ∨
      task.found engine w = .ok none ∧ id = w.inventory.lastId + 1 := by
  unfold subject? at h
  split at h
  · rename_i own hfound
    exact .inl ⟨own, hfound, Option.some.inj h⟩
  · rename_i hfound
    exact .inr ⟨hfound, (Option.some.inj h).symm⟩
  · cases h

end Task

/-- A task changes no load balancer but its own. -/
theorem confined_task (task : Task) (hw : w.inventory.Placed) :
    Confined (task.subject? engine w) (task.Concerns engine w) w (task.after engine w) := by
  cases task with
  | ensure service nodes =>
    change Confined _ _ w (w.run (engine.ensure service nodes)).2
    rw [ensure_eq, World.run_within]
    refine confined_bind (.refl hw) fun wishes t h _ => ?_
    obtain ⟨hwishes, rfl⟩ := Prod.mk.inj h
    rw [start, Program.bind_assoc]
    refine confined_search hw fun found t h hinv => ?_
    have hfound : (Task.ensure service nodes).found engine w = .ok found :=
      Task.found_of_run_find (balancerName_of_wishes hwishes) h
    have ht : t.inventory.Placed := hinv ▸ hw
    cases found with
    | some own =>
      obtain ⟨hsubject, hcalls⟩ := Task.concerns_of_found hfound
      rw [hsubject]
      refine confined_bind (.refl ht) fun lb u h _ => ?_
      obtain ⟨hlb, rfl⟩ := Prod.mk.inj h
      obtain rfl : own = lb := Except.ok.inj hlb
      exact confined_bind (confined_converge ht hcalls) fun _ v _ hv => .refl hv
    | none =>
      -- Nothing was found.  What is created gets the next identifier, and the pass names it by
      -- that.
      have hsubject : (Task.ensure service nodes).subject? engine w =
          some (w.inventory.lastId + 1) := by simp only [Task.subject?, hfound]
      have hcalls : ∀ c, c.subject? = some (w.inventory.lastId + 1) →
          (Task.ensure service nodes).Concerns engine w c := fun c hc => ⟨_, hsubject, .inl hc⟩
      rw [hsubject, ← hinv]
      refine confined_bind (confined_create ht fun options => ?_) fun own u hcreate hu => ?_
      · exact ⟨_, hsubject, .inr ⟨hfound, options, rfl⟩⟩
      · rw [← hinv, ← id_of_run_create hcreate] at hcalls
        rw [← id_of_run_create hcreate]
        exact confined_bind (confined_converge hu hcalls) fun _ v _ hv => .refl hv
  | update service nodes =>
    change Confined _ _ w (w.run (engine.update service nodes)).2
    rw [update, World.run_within]
    refine confined_bind (.refl hw) fun wishes t h _ => ?_
    obtain ⟨hwishes, rfl⟩ := Prod.mk.inj h
    refine confined_search hw fun found t h hinv => ?_
    have ht : t.inventory.Placed := hinv ▸ hw
    cases found with
    | none => exact .refl ht
    | some own =>
      have hfound : (Task.update service nodes).found engine w = .ok (some own) :=
        Task.found_of_run_find (balancerName_of_wishes hwishes) h
      obtain ⟨hsubject, hcalls⟩ := Task.concerns_of_found hfound
      rw [hsubject]
      exact confined_bind (confined_converge ht hcalls) fun _ u _ hu => .refl hu
  | delete service =>
    change Confined _ _ w (w.run (engine.ensureDeleted service)).2
    cases hname : engine.balancerName service with
    | error e =>
      rw [ensureDeleted, hname]
      exact .refl hw
    | ok name =>
      rw [ensureDeleted_eq hname, World.run_within]
      refine confined_search hw fun found t h hinv => ?_
      have ht : t.inventory.Placed := hinv ▸ hw
      cases found with
      | none => exact .refl ht
      | some own =>
        have hfound : (Task.delete service).found engine w = .ok (some own) :=
          Task.found_of_run_find hname h
        obtain ⟨hsubject, hcalls⟩ := Task.concerns_of_found hfound
        rw [hsubject]
        exact confined_deleteFound ht hcalls

/-! ### The load balancer of a task -/

/-- What is left under the identifier of a load balancer is what a task may leave of it. -/
def FramedIn (service : Service) (own : LoadBalancer) (inv : Inventory) : Prop :=
  ∀ new ∈ inv.loadBalancers, new.id = own.id → Framed service own new

/-- A load balancer is framed by itself, and no other one has its identifier. -/
theorem framedIn_of_mem (hw : w.inventory.Placed)
    (hports : ∀ lb ∈ w.inventory.loadBalancers, (lb.services.map (·.listenPort)).Nodup)
    (hown : own ∈ w.inventory.loadBalancers) : FramedIn service own w.inventory := by
  intro new hnew hid
  obtain rfl := Inventory.eq_of_id_eq hw.ordered hnew hown hid
  exact .refl service (hports new hnew)

/-- What no revision by its calls can break, no operation breaks that creates nothing. -/
theorem framedIn_run {α : Type} {p : Operation α} {P : Call → Prop} (hp : p.Asks (Calls P))
    (hrevise : ∀ {c mid new}, P c → Framed service own mid → c.revise? mid = some new →
      Framed service own new)
    (hcreate : ∀ o, ¬ P (.create o)) (hw : w.inventory.Placed)
    (h : FramedIn service own w.inventory) : FramedIn service own (w.run p).2.inventory := by
  let I (v : World) : Prop := v.inventory.Placed ∧ FramedIn service own v.inventory
  refine (hp.run (I := I) (fun q v hq hv => ?_) ⟨hw, h⟩).2
  obtain ⟨hplaced, hframed⟩ := hv
  rcases (World.handled v q).inventory with hsame | ⟨c, reply, hc, hok⟩
  · exact ⟨hsame ▸ hplaced, hsame ▸ hframed⟩
  · have hdone := Inventory.perform_inversion hplaced.ordered hok
    refine ⟨hplaced.done hdone, fun new hnew hid => ?_⟩
    cases hdone with
    | lookup heq => exact hframed new (heq ▸ hnew) hid
    | @revision mid revised n hmid hrevised _ heq =>
      rw [heq] at hnew
      rcases (Inventory.mem_replace hplaced.ordered (by rw [Cloud.id_of_revise? hrevised, hmid])).1
        hnew with rfl | ⟨hold, -⟩
      · have hsame : mid.id = own.id := (Cloud.id_of_revise? hrevised).symm.trans hid
        exact hrevise (hq c hc) (hframed mid (Inventory.mem_of_find? hmid) hsame) hrevised
      · exact hframed new hold hid
    | deletion _ heq =>
      rw [heq] at hnew
      exact hframed new (List.mem_filter.1 hnew).1 hid
    | creation heq _ => exact absurd (heq ▸ hq c hc) (hcreate _)

theorem framedIn_converge (hwishes : engine.wishes service = .ok wishes) (hw : w.inventory.Placed)
    (h : FramedIn service own w.inventory) :
    FramedIn service own (w.run (converge engine own service wishes nodes)).2.inventory :=
  framedIn_run asks_passCalls (fun hc hmid hnew => hmid.revise hwishes hc hnew)
    (fun o hc => hc.ne_create o rfl) hw h

/-- A deletion leaves the load balancer as it was, or nothing of it. -/
theorem framedIn_deleteFound (hw : w.inventory.Placed) (h : FramedIn service own w.inventory) :
    FramedIn service own (w.run (deleteFound (some own))).2.inventory := by
  have hdelete : (Cloud.call (.delete own.id)).Asks (Calls fun c => c = .delete own.id) :=
    asks_call rfl
  rw [deleteFound]
  split
  · exact h
  · refine framedIn_run (hdelete.ifFound.bind fun _ => .done _) (fun hc _ hnew => ?_)
      (fun _ h => by cases h) hw h
    rw [hc] at hnew
    cases Cloud.alter?_of_revise? hnew

/-- What a task finds is there, and the search has left everything as it is. -/
theorem exists_of_found (hw : w.inventory.Placed) (h : task.found engine w = .ok (some own)) :
    own ∈ w.inventory.loadBalancers ∧ ∃ name t, engine.balancerName task.service = .ok name ∧
      w.run (find task.service name).ifFound = (.ok (some own), t) ∧
      t.inventory = w.inventory := by
  rw [Task.found] at h
  cases hname : engine.balancerName task.service with
  | error e =>
    rw [hname] at h
    cases h
  | ok name =>
    rw [hname] at h
    have hfind : w.run (find task.service name).ifFound =
        (.ok (some own), (w.run (find task.service name).ifFound).2) := Prod.ext h rfl
    exact ⟨mem_of_run_find hfind, name, _, rfl, hfind,
      inventory_run_find hw task.service name⟩

/-- A task leaves of the load balancer that it finds what it may leave of it. -/
theorem framedIn_task (hw : w.inventory.Placed)
    (hports : ∀ lb ∈ w.inventory.loadBalancers, (lb.services.map (·.listenPort)).Nodup)
    (hfound : task.found engine w = .ok (some own)) :
    FramedIn task.service own (task.after engine w).inventory := by
  obtain ⟨hown, name, t, hname, hfind, hinv⟩ := exists_of_found hw hfound
  have hbegin : ∀ service, FramedIn service own w.inventory := fun _ =>
    framedIn_of_mem hw hports hown
  have ht : t.inventory.Placed := hinv ▸ hw
  cases task with
  | ensure service nodes =>
    simp only [Task.service] at hname hfind
    change FramedIn service own (w.run (engine.ensure service nodes)).2.inventory
    rw [ensure_eq, World.run_within]
    cases hwishes : engine.wishes service with
    | error e => exact hbegin service
    | ok wishes =>
      obtain rfl := Except.ok.inj (hname.symm.trans (balancerName_of_wishes hwishes))
      change FramedIn service own (w.run ((start engine service wishes).bind _)).2.inventory
      rw [start, Program.bind_assoc, World.run_bind, hfind]
      change FramedIn service own
        (t.run ((converge engine own service wishes nodes).bind _)).2.inventory
      rw [World.run_bind_ofExcept_ok]
      exact framedIn_converge hwishes ht (hinv ▸ hbegin service)
  | update service nodes =>
    simp only [Task.service] at hname hfind
    change FramedIn service own (w.run (engine.update service nodes)).2.inventory
    rw [update, World.run_within]
    cases hwishes : engine.wishes service with
    | error e => exact hbegin service
    | ok wishes =>
      obtain rfl := Except.ok.inj (hname.symm.trans (balancerName_of_wishes hwishes))
      change FramedIn service own
        (w.run ((find service wishes.name).ifFound.bind _)).2.inventory
      rw [World.run_bind, hfind]
      change FramedIn service own (t.run ((converge engine own service wishes nodes).bind fun _ =>
        Program.ofExcept (.ok ()))).2.inventory
      rw [World.run_bind_ofExcept_ok]
      exact framedIn_converge hwishes ht (hinv ▸ hbegin service)
  | delete service =>
    simp only [Task.service] at hname hfind
    change FramedIn service own (w.run (engine.ensureDeleted service)).2.inventory
    rw [ensureDeleted_eq hname, World.run_within, World.run_bind, hfind]
    exact framedIn_deleteFound ht (hinv ▸ hbegin service)

/-- The frame of a task.  All its changes concern one load balancer, the one that it finds or
creates; every other one is as it was, and none has come or gone; and of a load balancer that was
there before and still is, everything is as it was that the Service leaves open. -/
theorem frame_of_task (task : Task) (hplaced : w.inventory.Placed)
    (hports : ∀ lb ∈ w.inventory.loadBalancers, (lb.services.map (·.listenPort)).Nodup) :
    (∃ calls, (task.after engine w).log = w.log ++ calls ∧
      ∀ c ∈ calls, c.isMutation = true → task.Concerns engine w c) ∧
    (∀ x : LoadBalancer, task.subject? engine w ≠ some x.id →
      (x ∈ (task.after engine w).inventory.loadBalancers ↔ x ∈ w.inventory.loadBalancers)) ∧
    ∀ lb ∈ w.inventory.loadBalancers, ∀ new ∈ (task.after engine w).inventory.loadBalancers,
      new.id = lb.id → Framed task.service lb new := by
  have hconfined : Confined (task.subject? engine w) (task.Concerns engine w) w
      (task.after engine w) := confined_task task hplaced
  refine ⟨hconfined.changes, hconfined.others, fun lb hlb new hnew hid => ?_⟩
  by_cases hsubject : task.subject? engine w = some lb.id
  · rcases Task.of_subject?_eq_some hsubject with ⟨own, hfound, hsame⟩ | ⟨-, hfresh⟩
    · have hown := (exists_of_found hplaced hfound).1
      obtain rfl := Inventory.eq_of_id_eq hplaced.ordered hown hlb hsame
      exact framedIn_task hplaced hports hfound new hnew hid
    · -- What is created has an identifier that was not given away.
      have hknown := hplaced.known lb hlb
      omega
  · have hold := (hconfined.others new (hid ▸ hsubject)).1 hnew
    exact framedIn_of_mem hplaced hports hlb new hold hid

end

namespace Sample

/-- A Service for the port that the load balancer made by hand listens on; the traffic goes to
another port on the nodes. -/
def secured : Service := exposing [⟨443, some 30444⟩]

end Sample

/-- A load balancer made by hand, given another port on the nodes: the Service says nothing else
about it, and nothing else is touched. -/
theorem frame_of_task_sample :
    Sample.world.inventory.Placed ∧
    (∀ lb ∈ Sample.world.inventory.loadBalancers, (lb.services.map (·.listenPort)).Nodup) ∧
    (Task.ensure Sample.secured Sample.nodes).subject? Sample.engine Sample.world = some 4 ∧
    ∃ new ∈ ((Task.ensure Sample.secured Sample.nodes).after Sample.engine
        Sample.world).inventory.loadBalancers,
      new.services.map (fun s => (s.listenPort, s.destinationPort)) = [(443, 30444)] ∧
      Framed Sample.secured Sample.handmade new := by
  have hplaced : Sample.world.inventory.Placed := Sample.wellFormed_world.sound.placed
  have hports : ∀ lb ∈ Sample.world.inventory.loadBalancers,
      (lb.services.map (·.listenPort)).Nodup := Sample.wellFormed_world.listenPorts
  have hafter : ((Task.ensure Sample.secured Sample.nodes).after Sample.engine
      Sample.world).inventory.loadBalancers.map
        (fun lb => (lb.id, lb.services.map fun s => (s.listenPort, s.destinationPort))) =
      [(4, [(443, 30444)])] := by decide +kernel
  obtain ⟨new, hnew, heq⟩ := List.mem_map.1 (hafter ▸ List.mem_singleton_self _)
  obtain ⟨hid, hservices⟩ := Prod.mk.inj heq
  refine ⟨hplaced, hports, by decide +kernel, new, hnew, hservices, ?_⟩
  exact (frame_of_task (.ensure Sample.secured Sample.nodes) hplaced hports).2.2 Sample.handmade
    (List.mem_singleton_self _) new hnew hid

end BalancerSync.Engine
