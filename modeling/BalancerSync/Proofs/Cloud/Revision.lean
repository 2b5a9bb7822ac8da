import BalancerSync.Proofs.Cloud.Inventory

/-!
# Revisions of one load balancer

Most changes concern one load balancer, which they name, and one aspect of it.  Seen from that load
balancer such a call is a partial function, `Call.revise?`: it has a value exactly when the cloud
carries the call out.  What a pass does to a load balancer is then the composition of the calls it
makes (`revised?`), and nothing about the rest of the inventory has to be said again.

## Main Definitions

* `Call.subject?` — the load balancer that a change names
* `Call.revise?` — what a change makes of the load balancer it names
* `revised?` — the same for several changes in a row
* `Aspect`, `LoadBalancer.SameIn` — the parts of a load balancer that calls touch one at a time
* `LoadBalancer.SameBase` — the parts that they never touch
* `LoadBalancer.Distinct` — each server and each listen port occurs once
* `Inventory.Sound` — what of being well-formed every run keeps

## Main Results

* `Inventory.perform_of_revise?` — carrying out a revision replaces the load balancer it names
* `sameIn_revise?` — a revision leaves the aspects alone that are not its own
-/

namespace BalancerSync.Cloud

variable {c : Call} {cs ds : List Call} {lb new mid : LoadBalancer} {inv : Inventory} {id : Int}

/-! ### Single calls -/

namespace Call

/-- The load balancer that a change names. -/
def subject? : Call → Option Int
  | update id _ | delete id | changeAlgorithm id _ | changeType id _ | attachToNetwork id _ _
  | detachFromNetwork id _ | enablePublicInterface id | disablePublicInterface id
  | addTarget id _ _ | removeTarget id _ | addService id _ | updateService id _ _
  | deleteService id _ => some id
  | getById _ | getByName _ | listByLabel _ | create _ | getCertificate _ | getNetworkById _
  | getNetworkByName _ | getAction _ => none

/-- What a change makes of a load balancer; nothing if it is refused, and nothing for the calls that
leave no load balancer behind or change none. -/
def alter? : Call → LoadBalancer → Option LoadBalancer
  | update _ change, lb => some (Inventory.withChange change lb)
  | changeAlgorithm _ a, lb => some { lb with algorithm := a }
  | changeType _ t, lb => some { lb with type := t }
  | attachToNetwork id network ip, lb =>
    some { lb with
      attachments := lb.attachments ++ [⟨network, ip.getD (Inventory.privateAddress id)⟩] }
  | detachFromNetwork _ network, lb =>
    some { lb with attachments := lb.attachments.filter fun a => a.networkId ≠ network }
  | enablePublicInterface _, lb => some (Inventory.withPublicInterface true lb)
  | disablePublicInterface _, lb => some (Inventory.withPublicInterface false lb)
  | addTarget _ server usePrivateIp, lb => (Inventory.withTarget server usePrivateIp lb).toOption
  | removeTarget _ server, lb =>
    some { lb with targets := lb.targets.filter fun t => t.serverId ≠ server }
  | addService _ options, lb => (Inventory.withService options lb).toOption
  | updateService _ listenPort change, lb =>
    (Inventory.withServiceChange listenPort change lb).toOption
  | deleteService _ listenPort, lb =>
    some { lb with services := lb.services.filter fun s => s.listenPort ≠ listenPort }
  | getById _, _ | getByName _, _ | listByLabel _, _ | create _, _ | delete _, _
  | getCertificate _, _ | getNetworkById _, _ | getNetworkByName _, _ | getAction _, _ => none

/-- What a change makes of the load balancer that it names. -/
def revise? (c : Call) (lb : LoadBalancer) : Option LoadBalancer :=
  if c.subject? = some lb.id then c.alter? lb else none

end Call

theorem subject?_of_revise? (h : c.revise? lb = some new) : c.subject? = some lb.id := by
  rw [Call.revise?] at h
  split at h
  · assumption
  · simp at h

theorem alter?_of_revise? (h : c.revise? lb = some new) : c.alter? lb = some new := by
  rwa [Call.revise?, if_pos (subject?_of_revise? h)] at h

/-- For the load balancer that a call names, revising it is altering it.  So whoever knows the name
may leave the test of it out. -/
theorem revise?_of_subject? (h : c.subject? = some lb.id) : c.revise? lb = c.alter? lb := by
  rw [Call.revise?, if_pos h]

/-- Refused changes have no value, so a value means that the change was carried out. -/
theorem toOption_eq_some {α : Type} {x : Except Error α} {a : α} :
    x.toOption = some a ↔ x = .ok a := by
  cases x <;> simp [Except.toOption]

/-- A server becomes a target exactly if it is not one yet, and comes behind the others. -/
theorem withTarget_eq_ok {server : Int} {usePrivateIp : Bool} :
    Inventory.withTarget server usePrivateIp lb = .ok new ↔
      (∀ t ∈ lb.targets, t.serverId ≠ server) ∧
        { lb with targets := lb.targets ++ [⟨server, usePrivateIp⟩] } = new := by
  rw [Inventory.withTarget]
  by_cases h : lb.targets.any fun t => t.serverId == server
  · rw [if_pos h]
    simp only [List.any_eq_true, beq_iff_eq] at h
    obtain ⟨t, ht, hid⟩ := h
    simp only [reduceCtorEq, false_iff, not_and]
    exact fun hne => absurd hid (hne t ht)
  · rw [if_neg h, Except.ok.injEq]
    simp only [List.any_eq_true, beq_iff_eq, not_exists, not_and] at h
    exact (and_iff_right h).symm

/-- A service is added exactly if its listen port is free, and comes behind the others. -/
theorem withService_eq_ok {o : NewService} :
    Inventory.withService o lb = .ok new ↔
      lb.service? o.listenPort = none ∧ { lb with services := lb.services ++ [o.create] } = new := by
  rw [Inventory.withService]
  cases lb.service? o.listenPort <;> simp

/-- A service is changed exactly if there is one on the port, and it stays in its place. -/
theorem withServiceChange_eq_ok {listenPort : Nat} {change : ServiceChange} :
    Inventory.withServiceChange listenPort change lb = .ok new ↔
      (lb.service? listenPort).isSome ∧
        { lb with
          services := Inventory.changeFirst listenPort change.apply lb.services } = new := by
  rw [Inventory.withServiceChange]
  cases lb.service? listenPort <;> simp

/-- A revision keeps the identifier. -/
theorem id_of_revise? (h : c.revise? lb = some new) : new.id = lb.id := by
  have h := alter?_of_revise? h
  cases c <;> simp only [Call.alter?, toOption_eq_some, Option.some.injEq, reduceCtorEq,
    withTarget_eq_ok, withService_eq_ok, withServiceChange_eq_ok] at h
  case addTarget | addService | updateService => rw [← h.2]
  all_goals
    rw [← h]
    try rfl

/-! ### Carrying out a revision -/

/-- Whether the action in a reply, if there is one, is done. -/
def Call.IsDone (c : Call) (reply : c.Reply) : Prop :=
  ∀ a, c.action? reply = some a → a.status = .success

/-- A change by an action that succeeds: the load balancer is replaced, and the action takes the
next identifier.  All changes but those of name and label are of this form. -/
private theorem act_of_ok {f : LoadBalancer → Except Error LoadBalancer} (command : String)
    (h : inv.find? lb.id = some lb) (hf : f lb = .ok new) (hid : new.id = lb.id) :
    inv.act lb.id command f = .ok (Inventory.finished (inv.lastId + 1) command,
      { inv.replace new with lastId := inv.lastId + 1 }) := by
  simp only [Inventory.act, h, hf, Inventory.replace, hid]

/-- A service on a free port comes behind the others. -/
theorem Inventory.perform_addService {o : NewService} (h : inv.find? lb.id = some lb)
    (hfree : lb.service? o.listenPort = none) :
    ∃ action after, inv.perform (.addService lb.id o) = .ok (action, after) ∧
      after.find? lb.id = some { lb with services := lb.services ++ [o.create] } := by
  have hnew : withService o lb = .ok { lb with services := lb.services ++ [o.create] } :=
    withService_eq_ok.2 ⟨hfree, rfl⟩
  exact ⟨_, _, act_of_ok "add_service" h hnew rfl, find?_replace h rfl⟩

/-- A change to a service that is there stays in the place of that service. -/
theorem Inventory.perform_updateService {n : Nat} (change : ServiceChange)
    (h : inv.find? lb.id = some lb) (hthere : (lb.service? n).isSome) :
    ∃ action after, inv.perform (.updateService lb.id n change) = .ok (action, after) ∧
      after.find? lb.id = some { lb with services := changeFirst n change.apply lb.services } := by
  have hnew : withServiceChange n change lb =
      .ok { lb with services := changeFirst n change.apply lb.services } :=
    withServiceChange_eq_ok.2 ⟨hthere, rfl⟩
  exact ⟨_, _, act_of_ok "update_service" h hnew rfl, find?_replace h rfl⟩

/-- Carrying out a revision replaces the load balancer that it names. -/
theorem Inventory.perform_of_revise? (ho : inv.Ordered) (hf : inv.find? lb.id = some lb)
    (h : c.revise? lb = some new) :
    ∃ reply n, inv.perform c = .ok (reply, { inv.replace new with lastId := n }) ∧
      c.IsDone reply := by
  have hid := id_of_revise? h
  have hs := subject?_of_revise? h
  have h := alter?_of_revise? h
  have hdone : ∀ (n : Int) (command : String) (a : Action),
      some (finished n command) = some a → a.status = .success := by
    rintro n command a ⟨⟩
    rfl
  cases c with
  | update id change =>
    obtain rfl : id = lb.id := Option.some.inj hs
    obtain rfl : withChange change lb = new := Option.some.inj h
    refine ⟨withChange change lb, inv.lastId, ?_, by simp [Call.IsDone, Call.action?]⟩
    simp only [perform, update, hf]
    rw [modify_eq_replace ho hf rfl]
    rfl
  | addTarget id server usePrivateIp =>
    obtain rfl : id = lb.id := Option.some.inj hs
    exact ⟨_, _, act_of_ok "add_target" hf (toOption_eq_some.1 h) hid, hdone _ _⟩
  | addService id options =>
    obtain rfl : id = lb.id := Option.some.inj hs
    exact ⟨_, _, act_of_ok "add_service" hf (toOption_eq_some.1 h) hid, hdone _ _⟩
  | updateService id listenPort change =>
    obtain rfl : id = lb.id := Option.some.inj hs
    exact ⟨_, _, act_of_ok "update_service" hf (toOption_eq_some.1 h) hid, hdone _ _⟩
  | changeAlgorithm id | changeType id | attachToNetwork id | detachFromNetwork id
  | enablePublicInterface id | disablePublicInterface id | removeTarget id | deleteService id =>
    obtain rfl : id = lb.id := Option.some.inj hs
    obtain rfl := Option.some.inj h
    simp only [perform, act, hf]
    exact ⟨_, _, rfl, hdone _ _⟩
  | _ => simp [Call.alter?] at h

/-! ### Aspects -/

/-- The parts of a load balancer that calls touch one at a time. -/
inductive Aspect where
  | identity
  | algorithm
  | type
  | network
  | publicInterface
  | targets
  | services
  deriving DecidableEq, Repr

/-- The aspect that a change concerns. -/
def Call.aspect? : Call → Option Aspect
  | update _ _ => some .identity
  | changeAlgorithm _ _ => some .algorithm
  | changeType _ _ => some .type
  | attachToNetwork _ _ _ | detachFromNetwork _ _ => some .network
  | enablePublicInterface _ | disablePublicInterface _ => some .publicInterface
  | addTarget _ _ _ | removeTarget _ _ => some .targets
  | addService _ _ | updateService _ _ _ | deleteService _ _ => some .services
  | getById _ | getByName _ | listByLabel _ | create _ | delete _ | getCertificate _
  | getNetworkById _ | getNetworkByName _ | getAction _ => none

theorem isMutation_of_aspect? {a : Aspect} (h : c.aspect? = some a) : c.isMutation = true := by
  cases c <;> first | rfl | cases h

/-- Two states of one load balancer that agree in an aspect. -/
def LoadBalancer.SameIn (a : Aspect) (x y : LoadBalancer) : Prop :=
  x.id = y.id ∧ match a with
    | .identity => x.name = y.name ∧ x.labels = y.labels
    | .algorithm => x.algorithm = y.algorithm
    | .type => x.type = y.type
    | .network => x.attachments = y.attachments
    | .publicInterface => x.publicInterface = y.publicInterface
    | .targets => x.targets = y.targets
    | .services => x.services = y.services

/-- A revision leaves the aspects alone that are not its own. -/
theorem sameIn_revise? {a : Aspect} (h : c.revise? lb = some new) (ha : c.aspect? ≠ some a) :
    lb.SameIn a new := by
  refine ⟨(id_of_revise? h).symm, ?_⟩
  have h := alter?_of_revise? h
  cases c <;> simp only [Call.alter?, toOption_eq_some, Option.some.injEq, reduceCtorEq,
    withTarget_eq_ok, withService_eq_ok, withServiceChange_eq_ok] at h
  case addTarget | addService | updateService =>
    obtain ⟨-, rfl⟩ := h
    cases a <;> simp_all [Call.aspect?]
  all_goals
    subst h
    cases a <;> simp_all [Call.aspect?, Inventory.withChange, Inventory.withPublicInterface]

/-- Two states of one load balancer that agree in what no call changes. -/
structure LoadBalancer.SameBase (x y : LoadBalancer) : Prop where
  id : x.id = y.id
  location : x.location = y.location
  networkZone : x.networkZone = y.networkZone
  ipv4 : x.publicInterface.ipv4 = y.publicInterface.ipv4
  ipv6 : x.publicInterface.ipv6 = y.publicInterface.ipv6
  deleteProtection : x.deleteProtection = y.deleteProtection

theorem LoadBalancer.SameBase.trans {x y z : LoadBalancer} (h : x.SameBase y) (h' : y.SameBase z) :
    x.SameBase z where
  id := h.id.trans h'.id
  location := h.location.trans h'.location
  networkZone := h.networkZone.trans h'.networkZone
  ipv4 := h.ipv4.trans h'.ipv4
  ipv6 := h.ipv6.trans h'.ipv6
  deleteProtection := h.deleteProtection.trans h'.deleteProtection

/-- Whatever a revision does, the load balancer stays where it is and what it is. -/
theorem sameBase_revise? (h : c.revise? lb = some new) : lb.SameBase new := by
  have hid := (id_of_revise? h).symm
  have h := alter?_of_revise? h
  cases c <;> simp only [Call.alter?, toOption_eq_some, Option.some.injEq, reduceCtorEq,
    withTarget_eq_ok, withService_eq_ok, withServiceChange_eq_ok] at h
  case addTarget | addService | updateService =>
    obtain ⟨-, rfl⟩ := h
    exact ⟨hid, rfl, rfl, rfl, rfl, rfl⟩
  all_goals
    subst h
    exact ⟨hid, rfl, rfl, rfl, rfl, rfl⟩

/-! ### Several calls in a row -/

/-- What several changes make of the load balancer that all of them name. -/
def revised? (cs : List Call) (lb : LoadBalancer) : Option LoadBalancer :=
  cs.foldlM (fun lb c => c.revise? lb) lb

@[simp] theorem revised?_nil : revised? [] lb = some lb := rfl

@[simp] theorem revised?_cons :
    revised? (c :: cs) lb = (c.revise? lb).bind fun new => revised? cs new := rfl

/-- Changes in a row can be taken in two stretches, the second one on what the first has left. -/
theorem revised?_append :
    revised? (cs ++ ds) lb = (revised? cs lb).bind fun new => revised? ds new := by
  induction cs generalizing lb with
  | nil => rfl
  | cons c cs ih =>
    rw [List.cons_append, revised?_cons, revised?_cons]
    cases c.revise? lb with
    | none => rfl
    | some new => exact ih

/-- However many changes are made, the load balancer keeps its identifier.  Therefore all of them
can name it in the same way. -/
theorem id_of_revised? (h : revised? cs lb = some new) : new.id = lb.id := by
  induction cs generalizing lb with
  | nil => rw [Option.some.inj h]
  | cons c cs ih =>
    obtain ⟨mid, hmid, h⟩ := Option.bind_eq_some_iff.1 h
    rw [ih h, id_of_revise? hmid]

/-- Changes that can be carried out in a row name the same load balancer. -/
theorem subject?_of_revised? (h : revised? cs lb = some new) :
    ∀ c ∈ cs, c.subject? = some lb.id := by
  induction cs generalizing lb with
  | nil => exact fun c hc => absurd hc List.not_mem_nil
  | cons c cs ih =>
    obtain ⟨mid, hmid, hrest⟩ := Option.bind_eq_some_iff.1 h
    refine List.forall_mem_cons.2 ⟨subject?_of_revise? hmid, ?_⟩
    rw [← id_of_revise? hmid]
    exact ih hrest

/-- Several revisions leave the aspects alone that none of them concerns. -/
theorem sameIn_revised? {a : Aspect} (h : revised? cs lb = some new)
    (ha : ∀ c ∈ cs, c.aspect? ≠ some a) : lb.SameIn a new := by
  induction cs generalizing lb with
  | nil =>
    obtain rfl := Option.some.inj h
    exact ⟨rfl, by cases a <;> simp⟩
  | cons c cs ih =>
    obtain ⟨mid, hmid, h⟩ := Option.bind_eq_some_iff.1 h
    obtain ⟨hid, hfirst⟩ := sameIn_revise? hmid (ha c List.mem_cons_self)
    obtain ⟨hid', hrest⟩ := ih h fun d hd => ha d (List.mem_cons_of_mem _ hd)
    refine ⟨hid.trans hid', ?_⟩
    cases a <;> simp_all

/-! ### Servers and listen ports -/

/-- Each server and each listen port occurs once. -/
structure LoadBalancer.Distinct (lb : LoadBalancer) : Prop where
  servers : (lb.targets.map (·.serverId)).Nodup
  listenPorts : (lb.services.map (·.listenPort)).Nodup

/-- What of being well-formed every run keeps.  The lower bound of the identifiers is not kept, if
the last identifier given away is negative and there is no load balancer yet. -/
structure Inventory.Sound (inv : Inventory) : Prop where
  ordered : inv.Ordered
  known : ∀ lb ∈ inv.loadBalancers, lb.id ≤ inv.lastId
  distinct : ∀ lb ∈ inv.loadBalancers, lb.Distinct

/-- A well-formed inventory is sound; runs start from the one and keep the other. -/
theorem Inventory.WellFormed.sound (h : inv.WellFormed) : inv.Sound :=
  ⟨h.ascending, fun lb hlb => (h.known lb hlb).2,
    fun lb hlb => ⟨h.targets lb hlb, h.listenPorts lb hlb⟩⟩

/-- Changing a service does not move it to another port, so no two can meet on one. -/
theorem map_listenPort_changeFirst (listenPort : Nat) (change : ServiceChange)
    (services : List BackendService) :
    (Inventory.changeFirst listenPort change.apply services).map (·.listenPort) =
      services.map (·.listenPort) := by
  induction services with
  | nil => rfl
  | cons s rest ih =>
    rw [Inventory.changeFirst]
    split
    · rfl
    · simp [ih]

/-- A service after a change was there before, or it is the one that was changed. -/
theorem mem_changeFirst {listenPort : Nat} {f : BackendService → BackendService}
    {services : List BackendService} {t : BackendService}
    (h : t ∈ Inventory.changeFirst listenPort f services) :
    t ∈ services ∨ ∃ s ∈ services, s.listenPort = listenPort ∧ t = f s := by
  induction services with
  | nil => cases h
  | cons s rest ih =>
    rw [Inventory.changeFirst] at h
    split at h
    · rename_i hs
      rcases List.mem_cons.1 h with rfl | h
      · exact .inr ⟨s, List.mem_cons_self, hs, rfl⟩
      · exact .inl (List.mem_cons_of_mem _ h)
    · rcases List.mem_cons.1 h with rfl | h
      · exact .inl List.mem_cons_self
      · rcases ih h with h | ⟨x, hx, hn, ht⟩
        · exact .inl (List.mem_cons_of_mem _ h)
        · exact .inr ⟨x, List.mem_cons_of_mem _ hx, hn, ht⟩

/-- The service on the port of a change is the one that was there, changed. -/
theorem find?_changeFirst_self {n : Nat} {services : List BackendService} {s : BackendService}
    (change : ServiceChange) (h : services.find? (fun s => s.listenPort == n) = some s) :
    (Inventory.changeFirst n change.apply services).find? (fun s => s.listenPort == n) =
      some (change.apply s) := by
  induction services with
  | nil => cases h
  | cons t rest ih =>
    rw [Inventory.changeFirst]
    by_cases ht : t.listenPort = n
    · rw [List.find?_cons_of_pos (by simpa using ht)] at h
      rw [if_pos ht, List.find?_cons_of_pos (by simpa [ServiceChange.apply] using ht)]
      rw [Option.some.inj h]
    · rw [List.find?_cons_of_neg (by simpa using ht)] at h
      rw [if_neg ht, List.find?_cons_of_neg (by simpa using ht)]
      exact ih h

/-- A service on a free port is found there once it is added. -/
theorem find?_append_self {services : List BackendService} {s : BackendService}
    (hfree : services.find? (fun t => t.listenPort == s.listenPort) = none) :
    (services ++ [s]).find? (fun t => t.listenPort == s.listenPort) = some s := by
  rw [List.find?_append, hfree, Option.none_or, List.find?_singleton, if_pos (beq_self_eq_true _)]

/-- A change to the service that was added last leaves those before it alone. -/
theorem changeFirst_append_self {services : List BackendService} {s : BackendService}
    (f : BackendService → BackendService)
    (hfree : services.find? (fun t => t.listenPort == s.listenPort) = none) :
    Inventory.changeFirst s.listenPort f (services ++ [s]) = services ++ [f s] := by
  induction services with
  | nil => rw [List.nil_append, Inventory.changeFirst, if_pos rfl, List.nil_append]
  | cons t rest ih =>
    have ht : t.listenPort ≠ s.listenPort := by
      have := List.find?_eq_none.1 hfree t List.mem_cons_self
      simpa using this
    rw [List.find?_cons_of_neg (by simpa using ht)] at hfree
    rw [List.cons_append, Inventory.changeFirst, if_neg ht, ih hfree, List.cons_append]

theorem service?_eq_none {listenPort : Nat} :
    lb.service? listenPort = none ↔ listenPort ∉ lb.services.map (·.listenPort) := by
  simp [LoadBalancer.service?]

/-- A revision is refused rather than making a server or a listen port occur twice. -/
theorem distinct_revise? (hd : lb.Distinct) (h : c.revise? lb = some new) : new.Distinct := by
  have h := alter?_of_revise? h
  obtain ⟨hservers, hports⟩ := hd
  cases c <;> simp only [Call.alter?, toOption_eq_some, Option.some.injEq, reduceCtorEq,
    withTarget_eq_ok, withService_eq_ok, withServiceChange_eq_ok] at h
  case addTarget =>
    obtain ⟨hnew, rfl⟩ := h
    refine ⟨?_, hports⟩
    simp only [List.map_append, List.map_cons, List.map_nil]
    refine List.nodup_append.2 ⟨hservers, by simp, ?_⟩
    rintro x hx y hy rfl
    obtain ⟨t, ht, rfl⟩ := List.mem_map.1 hx
    exact hnew t ht (List.mem_singleton.1 hy)
  case addService =>
    obtain ⟨hnew, rfl⟩ := h
    refine ⟨hservers, ?_⟩
    simp only [List.map_append, List.map_cons, List.map_nil]
    refine List.nodup_append.2 ⟨hports, by simp, ?_⟩
    rintro x hx y hy rfl
    obtain rfl := List.mem_singleton.1 hy
    exact service?_eq_none.1 hnew hx
  case updateService =>
    obtain ⟨-, rfl⟩ := h
    exact ⟨hservers, by rw [map_listenPort_changeFirst]; exact hports⟩
  case removeTarget =>
    subst h
    exact ⟨hservers.sublist (List.filter_sublist.map _), hports⟩
  case deleteService =>
    subst h
    exact ⟨hservers, hports.sublist (List.filter_sublist.map _)⟩
  all_goals
    subst h
    exact ⟨hservers, hports⟩

/-- So no sequence of changes makes a server or a listen port occur twice. -/
theorem distinct_revised? (hd : lb.Distinct) (h : revised? cs lb = some new) : new.Distinct := by
  induction cs generalizing lb with
  | nil => exact Option.some.inj h ▸ hd
  | cons c cs ih =>
    obtain ⟨mid, hmid, h⟩ := Option.bind_eq_some_iff.1 h
    exact ih (distinct_revise? hd hmid) h

end BalancerSync.Cloud
