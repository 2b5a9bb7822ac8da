import BalancerSync.Proofs.Cluster.LeaseServer

/-!
# The cluster as the keeper of a Service

Of all that the cluster does only this matters here: which Service it keeps, and what a request of
the controller makes of that.  A change of the finalizers is carried out only if it finds what it
expects; every change is stored under a version of its own; and a Service that is being deleted is
gone as soon as it has no finalizers.

`Served` leaves open whether a request fails, and if so, before or after it was carried
out.  `serve` is a cluster in which nothing fails without a reason.

## Main Definitions

* `Request.change` — what a request makes of a Service
* `Service.settled` — a Service, unless it is gone
* `Served` — what can happen on a request
* `serve` — a cluster that does what it is asked

## Main Results

* `Served.identified`, `Served.finalized` — no request changes who a Service is, and few can take
  its
  finalizer away
* `served_serve` — such a cluster is one of those that are allowed for
-/

namespace BalancerSync.Cluster

variable {s t : Service} {q : Request} {object after : Option Service}

private theorem exists_of_map_eq_ok {ε α β : Type} {f : α → β} {x : Except ε α} {b : β}
    (h : x.map f = .ok b) : ∃ a, x = .ok a ∧ f a = b := by
  cases x with
  | ok a => exact ⟨a, rfl, Except.ok.inj h⟩
  | error e => cases h

/-! ### Changes -/

/-- What is wrong with a request for a Service that there is not. -/
def noService : Failure := .refused "Failure" "not found" "NotFound" 404

/-- What is wrong with a patch that does not find what it tests for. -/
def untrue : Failure := .refused "Failure" "testing path failed" "Invalid" 422

/-- The finalizers that a patch leaves. -/
def ServicePatch.finalizers (patch : ServicePatch) (m : Metadata) : Except Failure (List String) :=
  match patch with
  | addFinalizer others =>
    if m.finalizers = others then .ok (others ++ [Service.finalizer]) else .error untrue
  | removeFinalizer index =>
    if m.finalizers[index]? = some Service.finalizer then .ok (m.finalizers.eraseIdx index)
    else .error untrue
  | keepFinalizers version finalizers =>
    -- A patch without a version is not tied to one.
    if version = none ∨ version = m.resourceVersion then .ok finalizers else .error Stored.conflict

namespace Service

/-- The Service with other finalizers. -/
def withFinalizers (s : Service) (finalizers : List String) : Service :=
  { s with metadata := { s.metadata with finalizers := finalizers } }

/-- The Service under another version. -/
def versioned (s : Service) (version : Option String) : Service :=
  { s with metadata := { s.metadata with resourceVersion := version } }

/-- The Service, unless it is gone. -/
def settled (s : Service) : Option Service :=
  if s.metadata.isDeleting && s.metadata.finalizers.isEmpty then none else some s

end Service

/-- What a request makes of the Service that it is sent to. -/
def Request.change (s : Service) : Request → Except Failure Service
  | .patchService ns name patch =>
    if ns = s.anyNamespace ∧ name = s.anyName then
      (patch.finalizers s.metadata).map s.withFinalizers
    else .error noService
  | .patchIngress ns name ingress =>
    if ns = s.anyNamespace ∧ name = s.anyName then .ok { s with ingress := ingress.getD [] }
    else .error noService
  | _ => .ok s

/-- Whether a request can change a Service. -/
def Request.isWrite : Request → Bool
  | .patchService _ _ _ | .patchIngress _ _ _ => true
  | _ => false

/-- Whether a request can take a finalizer away. -/
def Request.releases : Request → Bool
  | .patchService _ _ (.removeFinalizer _) | .patchService _ _ (.keepFinalizers _ _) => true
  | _ => false

/-! ### What can happen -/

/-- What a request can be answered while the cluster keeps a Service, and which Service it keeps
then. A request can fail, be it that it was carried out and only the answer was lost. -/
inductive Served (q : Request) (object : Option Service) :
    Except Error (effect.Reply q) → Option Service → Prop where
  | failed (e : Error) : Served q object (.error e) object
  | told (reply : effect.Reply q) : q.isWrite = false → Served q object (.ok reply) object
  | written {s t : Service} (version : Option String) (answer : Except Error (effect.Reply q)) :
    object = some s → q.change s = .ok t → Served q object answer (t.versioned version).settled

/-- There is a Service, and it carries the finalizer. -/
def Finalized (object : Option Service) : Prop := ∃ s, object = some s ∧ s.hasFinalizer = true

/-- If there is a Service, it has this identity. -/
def Identified (id : String) (object : Option Service) : Prop :=
  ∀ s, object = some s → s.metadata.uid = some id

theorem finalized_settled (h : s.hasFinalizer = true) : Finalized s.settled := by
  refine ⟨s, ?_, h⟩
  rw [Service.settled, if_neg]
  intro hgone
  rw [Service.hasFinalizer] at h
  cases hnil : s.metadata.finalizers with
  | nil => simp [hnil] at h
  | cons _ _ => simp [hnil] at hgone

theorem identified_settled {id : String} (h : s.metadata.uid = some id) :
    Identified id s.settled := by
  intro t ht
  rw [Service.settled] at ht
  split at ht
  · cases ht
  · rwa [← Option.some.inj ht]

/-- No change gives a Service another identity. -/
theorem uid_of_change (h : q.change s = .ok t) : t.metadata.uid = s.metadata.uid := by
  cases q with
  | patchService ns name patch =>
    rw [Request.change] at h
    split at h
    · obtain ⟨finalizers, -, rfl⟩ := exists_of_map_eq_ok h
      rfl
    · cases h
  | patchIngress ns name ingress =>
    rw [Request.change] at h
    split at h
    · obtain rfl := Except.ok.inj h
      rfl
    · cases h
  | _ =>
    obtain rfl := Except.ok.inj h
    rfl

/-- Only two requests can take the finalizer away. -/
theorem hasFinalizer_of_change (h : q.change s = .ok t) (hq : q.releases = false)
    (hs : s.hasFinalizer = true) : t.hasFinalizer = true := by
  cases q with
  | patchService ns name patch =>
    rw [Request.change] at h
    split at h
    · obtain ⟨finalizers, hfinalizers, rfl⟩ := exists_of_map_eq_ok h
      cases patch with
      | addFinalizer others =>
        simp only [ServicePatch.finalizers] at hfinalizers
        split at hfinalizers
        · rw [← Except.ok.inj hfinalizers]
          simp [Service.hasFinalizer, Service.withFinalizers]
        · cases hfinalizers
      | removeFinalizer _ => cases hq
      | keepFinalizers _ _ => cases hq
    · cases h
  | patchIngress ns name ingress =>
    rw [Request.change] at h
    split at h
    · rwa [← Except.ok.inj h]
    · cases h
  | _ => rwa [← Except.ok.inj h]

namespace Served

variable {answer : Except Error (effect.Reply q)}

theorem finalized (h : Served q object answer after) (hq : q.releases = false)
    (hobject : Finalized object) : Finalized after := by
  cases h with
  | failed e => exact hobject
  | told reply _ => exact hobject
  | written version _ hs ht =>
    obtain ⟨s, rfl, hfinalizer⟩ := hobject
    obtain rfl := Option.some.inj hs
    have hkept := hasFinalizer_of_change ht hq hfinalizer
    exact finalized_settled hkept

theorem identified {id : String} (h : Served q object answer after)
    (hobject : Identified id object) : Identified id after := by
  cases h with
  | failed e => exact hobject
  | told reply _ => exact hobject
  | written version _ hs ht => exact identified_settled ((uid_of_change ht).trans (hobject _ hs))

end Served

/-! ### A cluster -/

/-- What a write makes of the Service that is kept; a change is stored under the next version. -/
def write (next : Service → String) (q : Request) : Option Service → Except Failure (Option Service)
  | none => .error noService
  | some s => (q.change s).map fun t =>
    (if t = s then s else t.versioned (some (next s))).settled

theorem write_of_change (next : Service → String) (h : q.change s = .ok t) (hne : t ≠ s) :
    write next q (some s) = .ok (t.versioned (some (next s))).settled := by
  rw [write, h, Except.map, if_neg hne]

/-- A cluster that keeps a Service and does what it is asked; `next` makes up the versions. -/
def serve (next : Service → String) (nodes : List Node) : Program.Handler effect (Option Service)
  | .listNodes, object => (.ok nodes, object)
  | .postEvent _, object => (.ok (), object)
  | .patchService ns name patch, object =>
    match write next (.patchService ns name patch) object with
    | .ok after => (.ok (), after)
    | .error f => (.error (.kube f), object)
  | .patchIngress ns name ingress, object =>
    match write next (.patchIngress ns name ingress) object with
    | .ok after => (.ok (), after)
    | .error f => (.error (.kube f), object)
  | .getLease _, object => (.error (.kube World.noLease), object)
  | .patchLease _ _, object | .createLease _ _ _, object => (.ok (), object)

theorem served_serve (next : Service → String) (nodes : List Node) (q : Request)
    (object : Option Service) :
    Served q object (serve next nodes q object).1 (serve next nodes q object).2 := by
  have hwrite : ∀ (answer : Except Error (effect.Reply q)) after,
      write next q object = .ok after → Served q object answer after := by
    intro answer after h
    cases object with
    | none => cases h
    | some s =>
      obtain ⟨t, ht, rfl⟩ := exists_of_map_eq_ok h
      split
      · -- Nothing was changed, so the version is the same.
        rename_i hsame
        subst hsame
        exact .written t.metadata.resourceVersion answer rfl ht
      · exact .written (some (next s)) answer rfl ht
  cases q with
  | patchService ns name patch =>
    simp only [serve]
    cases h : write next (.patchService ns name patch) object with
    | ok after => exact hwrite _ _ h
    | error f => exact .failed _
  | patchIngress ns name ingress =>
    simp only [serve]
    cases h : write next (.patchIngress ns name ingress) object with
    | ok after => exact hwrite _ _ h
    | error f => exact .failed _
  | getLease _ => exact .failed _
  | _ => exact .told _ rfl

end BalancerSync.Cluster
