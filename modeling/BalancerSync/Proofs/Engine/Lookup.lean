import BalancerSync.Engine.Identity
import BalancerSync.Proofs.Cloud.Run
import BalancerSync.Proofs.Text.Cutting

/-!
# Looking for the load balancer of a Service

The search makes two lookups at most and changes nothing.  What it finds is a function of the load
balancers, `sought`, as long as neither lookup is answered falsely: a script that lets one fail as
if nothing was there would send the search on to the name, and the caller on to creating a second
load balancer.

## Main Definitions

* `sought` — what the search finds
* `Honest` — a world whose script does not deny what is there

## Main Results

* `answers_find` — in an honest world the search finds it or fails
* `of_run_find` — where a result of the search comes from, honest or not
-/

namespace BalancerSync.Engine

open Cloud (LoadBalancer Inventory World takeNamed?)
open Cluster (Service)

variable {service : Service} {id name : String} {lb : LoadBalancer} {inv : Inventory} {w : World}

/-! ### Labels as they are written -/

/-- The selector for an identity is taken apart into what it was put together from, whatever the
identity is: the label has no `=` in it. -/
theorem splitLabel_uidSelector (id : String) :
    Inventory.splitLabel (uidSelector id) = (Desired.uidLabel, id) := by
  have hlist : (uidSelector id).toList = Desired.uidLabel.toList ++ (['='] ++ id.toList) := by
    simp [uidSelector, String.toList_append]
  have hfree : '=' ∉ Desired.uidLabel.toList := by decide
  rw [Inventory.splitLabel, hlist, Text.cutAt_append hfree]
  simp

/-! ### Single lookups -/

/-- The identity of a Service is its UID, and a Service without one has none. -/
theorem uid_eq_ok {id : String} : uid service = .ok id ↔ service.metadata.uid = some id := by
  rw [uid]
  cases service.metadata.uid <;> simp

/-- The search by identity is decided by the labels, unless the script lets it fail. -/
theorem run_byUid (hid : uid service = .ok id) :
    w.run (byUid service) = match takeNamed? "list_by_label" w.script.failures with
      | some (code, rest) =>
        (.error (.within "lb_ops::get_by_k8s_service_uid" (World.injected code "list_by_label")),
          w.refused (.listByLabel (uidSelector id)) rest)
      | none =>
        ((single (uidSelector id) (w.inventory.labelled Desired.uidLabel id)).mapError
          (.within "lb_ops::get_by_k8s_service_uid"), w.logged (.listByLabel (uidSelector id))) := by
  have hperform : w.inventory.perform (.listByLabel (uidSelector id)) =
      .ok (w.inventory.labelled Desired.uidLabel id, w.inventory) := by
    simp only [Inventory.perform, splitLabel_uidSelector]
  rw [byUid, hid]
  exact World.run_lookup _ (single (uidSelector id)) hperform rfl

/-- The search by name is decided by the names, unless the script lets it fail. -/
theorem run_byName (w : World) (name : String) :
    w.run (byName name) = match takeNamed? "get_by_name" w.script.failures with
      | some (code, rest) =>
        (.error (.within "lb_ops::get_by_name" (World.injected code "get_by_name")),
          w.refused (.getByName name) rest)
      | none =>
        ((present name (w.inventory.loadBalancers.find? fun lb => lb.name == name)).mapError
          (.within "lb_ops::get_by_name"), w.logged (.getByName name)) :=
  World.run_lookup (c := .getByName name) _ (present name) rfl rfl

/-- The lookup by identifier is decided by the identifiers, unless the script lets it fail. -/
theorem run_byId (w : World) (n : Int) :
    w.run (byId n) = match takeNamed? "get_by_id" w.script.failures with
      | some (code, rest) =>
        (.error (.within "lb_ops::get_by_id" (World.injected code "get_by_id")),
          w.refused (.getById n) rest)
      | none =>
        ((present (toString n) (w.inventory.find? n)).mapError (.within "lb_ops::get_by_id"),
          w.logged (.getById n)) :=
  World.run_lookup (c := .getById n) _ (present (toString n)) rfl rfl

/-- The lookup by identifier finds what is there, or fails. -/
theorem run_byId_of_find? {n : Int} (hlb : w.inventory.find? n = some lb) :
    (w.run (byId n)).2.inventory = w.inventory ∧
      ((w.run (byId n)).1 = .ok lb ∨ ¬ w.Calm ∧ ∃ e, (w.run (byId n)).1 = .error e) ∧
      (w.Calm → (w.run (byId n)).2.Calm) := by
  rw [run_byId, hlb]
  cases hnamed : takeNamed? "get_by_id" w.script.failures with
  | none => exact ⟨rfl, .inl rfl, fun hcalm => hcalm⟩
  | some entry =>
    have hcalm := World.not_calm_of_takeNamed? hnamed
    exact ⟨rfl, .inr ⟨hcalm, _, rfl⟩, fun h => absurd h hcalm⟩

/-! ### The search -/

/-- The load balancer that carries an identity, if there is one. -/
def labelBearer (inv : Inventory) (id : String) : Except Error (Option LoadBalancer) :=
  match single (uidSelector id) (inv.labelled Desired.uidLabel id) with
  | .ok lb => .ok (some lb)
  | .error e =>
    if e.isNotFound then .ok none else .error (.within "lb_ops::get_by_k8s_service_uid" e)

/-- The load balancer of a Service, as far as the load balancers tell. -/
def sought (inv : Inventory) (id name : String) : Except Error (Option LoadBalancer) :=
  (labelBearer inv id).map fun found =>
    found.or (inv.loadBalancers.find? fun lb => lb.name == name)

/-- The script does not let the lookups of a search fail as if there was nothing. -/
def Honest (w : World) : Prop :=
  ∀ call ∈ ["list_by_label", "get_by_name"], ∀ rest,
    takeNamed? call w.script.failures ≠ some (.notFound, rest)

theorem honest_of_calm (hw : w.Calm) : Honest w := by
  intro call _ rest h
  rw [World.takeNamed?_of_calm hw] at h
  cases h

/-- A run that was refused a lookup, and not as if there was nothing. -/
structure Refused {α : Type} (w : World) (result : Except Error α × World) : Prop where
  disturbed : ¬ w.Calm
  inventory : result.2.inventory = w.inventory
  error : ∃ e, result.1 = .error e ∧ e.isNotFound = false

/-- An honest refusal is not taken for an answer. -/
theorem refused_ifFound {α : Type} {p : Cloud.Operation α} {c : Cloud.Call} {code : ErrorCode}
    {rest : List (String × ErrorCode)} {operation call : String} (hw : Honest w)
    (hcall : call ∈ ["list_by_label", "get_by_name"])
    (hnamed : takeNamed? call w.script.failures = some (code, rest))
    (hrun : w.run p = (.error (.within operation (World.injected code call)), w.refused c rest)) :
    Refused w (w.run p.ifFound) := by
  have hcode : code ≠ .notFound := by
    rintro rfl
    exact hw call hcall rest hnamed
  have herror : (Error.within operation (World.injected code call)).isNotFound = false := by
    simpa [World.injected, Error.isNotFound, Error.root] using hcode
  rw [World.run_ifFound, hrun]
  refine ⟨World.not_calm_of_takeNamed? hnamed, rfl, .within operation (World.injected code call), ?_,
    herror⟩
  simp only [herror]
  rfl

/-- In an honest world the search by identity is refused or answered by the labels. -/
theorem run_byUid_ifFound (hid : uid service = .ok id) (hw : Honest w) :
    Refused w (w.run (byUid service).ifFound) ∨ w.run (byUid service).ifFound =
      (labelBearer w.inventory id, w.logged (.listByLabel (uidSelector id))) := by
  have hrun := run_byUid (w := w) hid
  cases hnamed : takeNamed? "list_by_label" w.script.failures with
  | some entry =>
    rw [hnamed] at hrun
    exact .inl (refused_ifFound hw (by simp) hnamed hrun)
  | none =>
    right
    rw [World.run_ifFound, hrun, hnamed, labelBearer]
    cases single (uidSelector id) (w.inventory.labelled Desired.uidLabel id) <;> rfl

/-- The same for the search by name, which cannot be ambiguous. -/
theorem run_byName_ifFound (hw : Honest w) (name : String) :
    Refused w (w.run (byName name).ifFound) ∨ w.run (byName name).ifFound =
      (.ok (w.inventory.loadBalancers.find? fun lb => lb.name == name),
        w.logged (.getByName name)) := by
  have hrun := run_byName w name
  cases hnamed : takeNamed? "get_by_name" w.script.failures with
  | some entry =>
    rw [hnamed] at hrun
    exact .inl (refused_ifFound hw (by simp) hnamed hrun)
  | none =>
    right
    rw [World.run_ifFound, hrun, hnamed]
    cases w.inventory.loadBalancers.find? fun lb => lb.name == name <;> rfl

/-- If the search by identity fails, it is because several carry it, and not because none does.  The
error therefore ends the whole search. -/
theorem isNotFound_of_labelBearer {e : Error} (h : labelBearer inv id = .error e) :
    e.isNotFound = false := by
  rw [labelBearer] at h
  split at h
  · cases h
  · rename_i cause _
    split at h
    · cases h
    · rename_i hcause
      rw [← Except.error.inj h, Error.isNotFound_within]
      simpa using hcause

theorem Refused.answers {α : Type} {x : Except Error α} {result : Except Error α × World}
    (h : Refused w result) : w.Answers x result := by
  obtain ⟨hcalm, hinv, e, he, -⟩ := h
  exact ⟨hinv, .inr ⟨hcalm, e, he⟩, fun hw => absurd hw hcalm⟩

/-- In an honest world the search finds what is sought, or fails. -/
theorem answers_find (name : String) (hid : uid service = .ok id) (hw : Honest w) :
    w.Answers (sought w.inventory id name) (w.run (find service name).ifFound) := by
  have hlisted : w.Calm → w.Adds (w.logged (.listByLabel (uidSelector id))) [] := fun hcalm =>
    World.Adds.single (c := .listByLabel (uidSelector id)) hcalm rfl fun n h => by cases h
  rw [World.run_ifFound, find, Program.bind_eq, World.run_bind]
  rcases run_byUid_ifFound hid hw with hrefused | hrun
  · refine Refused.answers ?_
    obtain ⟨hcalm, hinv, e, he, hfound⟩ := hrefused
    generalize w.run (byUid service).ifFound = result at hinv he
    obtain ⟨r, t⟩ := result
    obtain rfl : r = .error e := he
    refine ⟨hcalm, hinv, e, ?_, hfound⟩
    simp only [hfound]
    rfl
  · rw [hrun, sought]
    cases hbearer : labelBearer w.inventory id with
    | error e =>
      simp only [isNotFound_of_labelBearer hbearer]
      exact ⟨rfl, .inl rfl, hlisted⟩
    | ok found =>
      cases found with
      | some lb => exact ⟨rfl, .inl rfl, hlisted⟩
      | none =>
        -- The first lookup has used up no entry for the second.
        simp only [← World.run_ifFound]
        have hw' : Honest (w.logged (.listByLabel (uidSelector id))) := hw
        rcases run_byName_ifFound hw' name with ⟨hcalm, hinv, e, he, hfound⟩ | hrun'
        · exact Refused.answers (w := w) ⟨hcalm, hinv, e, he, hfound⟩
        · rw [hrun']
          refine ⟨rfl, .inl rfl, fun hcalm => (hlisted hcalm).trans ?_⟩
          exact World.Adds.single (c := .getByName name) hcalm rfl fun n h => by cases h

/-- A search stops at an error that does not mean that nothing was found. -/
theorem run_find_of_byUid_error {e : Error} {t : World} (name : String)
    (h : w.run (byUid service) = (.error e, t)) (he : e.isNotFound = false) :
    w.run (find service name).ifFound = (.error e, t) := by
  rw [World.run_ifFound, find, Program.bind_eq, World.run_bind, World.run_ifFound, h]
  simp [he]

/-- A search for a Service without identity fails, and nobody takes that for an answer. -/
theorem run_find_of_uid_error {e : Error} (name : String) (hid : uid service = .error e) :
    w.run (find service name).ifFound =
      (.error (.within "lb_ops::get_by_k8s_service_uid" e), w) := by
  have he : e.isNotFound = false := by
    rw [uid] at hid
    split at hid
    · cases hid
    · rw [← Except.error.inj hid]
      rfl
  have hrun : w.run (byUid service) = (.error (.within "lb_ops::get_by_k8s_service_uid" e), w) := by
    rw [byUid, hid]
    rfl
  exact run_find_of_byUid_error name hrun he

/-- What an honest search finds is what is sought. -/
theorem sought_of_run_find {name : String} {found : Option LoadBalancer} {t : World}
    (hw : Honest w) (h : w.run (find service name).ifFound = (.ok found, t)) :
    t.inventory = w.inventory ∧
      ∃ id, uid service = .ok id ∧ sought w.inventory id name = .ok found := by
  cases hid : uid service with
  | error e =>
    rw [run_find_of_uid_error name hid] at h
    cases h
  | ok id =>
    obtain ⟨hinv, hout, -⟩ := answers_find name hid hw
    rw [h] at hinv hout
    refine ⟨hinv, id, rfl, ?_⟩
    rcases hout with hsought | ⟨-, e, he⟩
    · exact hsought.symm
    · cases he

theorem eq_of_single_eq_ok {selector : String} {lbs : List LoadBalancer}
    (h : single selector lbs = .ok lb) : lbs = [lb] := by
  rw [single.eq_def] at h
  split at h
  · rw [Except.ok.inj h]
  · cases h
  · cases h

/-- That there is none is said only if there is none. -/
theorem eq_nil_of_single_eq_error {selector : String} {lbs : List LoadBalancer} {e : Error}
    (h : single selector lbs = .error e) (he : e.isNotFound = true) : lbs = [] := by
  rw [single.eq_def] at h
  split at h
  · cases h
  · rfl
  · rw [← Except.error.inj h] at he
    cases he

theorem of_run_byName {t : World} (h : w.run (byName name) = (.ok lb, t)) :
    t.inventory = w.inventory ∧
      w.inventory.loadBalancers.find? (fun lb => lb.name == name) = some lb := by
  rw [run_byName] at h
  split at h
  · cases h
  · obtain ⟨hlb, rfl⟩ := Prod.mk.inj h
    refine ⟨rfl, ?_⟩
    cases hfound : w.inventory.loadBalancers.find? fun lb => lb.name == name with
    | none =>
      rw [hfound] at hlb
      cases hlb
    | some found =>
      rw [hfound] at hlb
      rw [Except.ok.inj hlb]

/-- Where a result of the search comes from: it carries the identity, or it has the name and the
lookup by identity was answered with nothing. -/
theorem of_run_find {t : World} (h : w.run (find service name) = (.ok lb, t)) :
    t.inventory = w.inventory ∧ ∃ id, uid service = .ok id ∧
      (w.inventory.labelled Desired.uidLabel id = [lb] ∨
        w.inventory.loadBalancers.find? (fun lb => lb.name == name) = some lb ∧
          (w.inventory.labelled Desired.uidLabel id = [] ∨
            ∃ rest, takeNamed? "list_by_label" w.script.failures = some (.notFound, rest))) := by
  cases hid : uid service with
  | error e =>
    have hrun := run_find_of_uid_error (w := w) name hid
    rw [World.run_ifFound, h] at hrun
    cases hrun
  | ok id =>
    rw [find, Program.bind_eq, World.run_bind, World.run_ifFound, run_byUid hid] at h
    cases hlist : takeNamed? "list_by_label" w.script.failures with
    | some entry =>
      obtain ⟨code, rest⟩ := entry
      rw [hlist] at h
      -- Only a lookup that is refused with `notFound` lets the search go on to the name.
      by_cases hcode : code = .notFound
      · subst hcode
        obtain ⟨hinv, hfound⟩ := of_run_byName (w := w.refused _ rest) h
        exact ⟨hinv, id, rfl, .inr ⟨hfound, .inr ⟨rest, rfl⟩⟩⟩
      · have herror : (World.injected code "list_by_label").isNotFound = false := by
          simpa [World.injected, Error.isNotFound, Error.root] using hcode
        simp only [Error.isNotFound_within, herror] at h
        cases h
    | none =>
      rw [hlist] at h
      cases hsingle : single (uidSelector id) (w.inventory.labelled Desired.uidLabel id) with
      | ok found =>
        rw [hsingle] at h
        obtain ⟨hlb, rfl⟩ := Prod.mk.inj h
        obtain rfl : found = lb := Except.ok.inj hlb
        exact ⟨rfl, id, rfl, .inl (eq_of_single_eq_ok hsingle)⟩
      | error e =>
        rw [hsingle] at h
        have hmap : (Except.error e : Except Error LoadBalancer).mapError
            (Error.within "lb_ops::get_by_k8s_service_uid") =
              .error (Error.within "lb_ops::get_by_k8s_service_uid" e) := rfl
        simp only [hmap, Error.isNotFound_within] at h
        cases he : e.isNotFound with
        | true =>
          simp only [he, if_true] at h
          obtain ⟨hinv, hfound⟩ := of_run_byName h
          exact ⟨hinv, id, rfl, .inr ⟨hfound, .inl (eq_nil_of_single_eq_error hsingle he)⟩⟩
        | false =>
          simp only [he] at h
          cases h

end BalancerSync.Engine
