import BalancerSync.Cluster.World
import BalancerSync.Proofs.Json.MergePatch

/-!
# The cluster as the keeper of the lease

The replicas share nothing but the lease, so of the cluster only its promises about the lease
matter: a lookup answers with the manifest that is stored; a patch that is carried out is merged
into it, and only if it names no other version than the stored one; a lease is created only where
there is none; and whatever is stored is stored under a version.  Every request may fail, and a
write may have been carried out though its answer was lost.

What a patch does to the holder is then a matter of what the patch names.  A renewal names neither
the holder nor a version.

## Main Definitions

* `LeaseServer`, `LeaseServer.Lawful` — a cluster as the keeper of a lease, and its promises
* `Stored` — such a cluster

## Main Results

* `holder_renewed`, `holder_takenOver`, `holder_created` — the holder after each write
* `lawful_stored`
-/

namespace BalancerSync.Cluster

variable {σ : Type} {text : Time → String} {«namespace» : String} {j : Json}

/-! ### Manifests -/

/-- A manifest that is stored under a version. -/
def stamp (version : String) (j : Json) : Json :=
  Json.merge (.obj [("metadata", .obj [("resourceVersion", .str version)])]) j

theorem holder_ofJson (j : Json) :
    (Lease.ofJson j).holder = (j.member? "spec").bind (textMember "holderIdentity") := by
  rw [Lease.holder, Lease.ofJson]
  cases j.member? "spec" <;> rfl

/-- Storing a manifest leaves the holder alone. -/
theorem holder_stamp (version : String) (j : Json) :
    (Lease.ofJson (stamp version j)).holder = (Lease.ofJson j).holder := by
  rw [holder_ofJson, stamp, Json.member?_merge_of_not_mem (by simp), ← holder_ofJson]

/-- A renewal says nothing about the holder. -/
theorem holder_renewed (text : Time → String) (now : Time) (j : Json) :
    (Lease.ofJson (((LeaseChange.renew now).toJson text).merge j)).holder =
      (Lease.ofJson j).holder := by
  rw [holder_ofJson, holder_ofJson, LeaseChange.toJson,
    Json.member?_merge_of_obj_mem (by simp) List.mem_cons_self, Option.bind_some, textMember,
    Json.member?_merge_of_not_mem (by simp)]
  cases j.member? "spec" <;> rfl

/-- A lease that was taken over has the holder that took it over. -/
theorem holder_takenOver (text : Time → String) (read : Option String) (holder : String)
    (now : Time) (j : Json) :
    (Lease.ofJson (((LeaseChange.takeOver read holder now).toJson text).merge j)).holder =
      some holder := by
  rw [holder_ofJson, LeaseChange.toJson,
    Json.member?_merge_of_obj_mem (by simp) (List.mem_cons_of_mem _ List.mem_cons_self),
    Option.bind_some, textMember, Json.member?_merge_of_mem (by simp) List.mem_cons_self]
  rfl

/-- So has a new one. -/
theorem holder_newLease (text : Time → String) («namespace» holder : String) (now : Time) :
    (Lease.ofJson (newLease text «namespace» holder now)).holder = some holder := rfl

/-! ### Servers -/

/-- A cluster as the keeper of a lease: its answers, and the manifest of the lease that it
stores. -/
structure LeaseServer (σ : Type) where
  handle : Program.Handler effect σ
  manifest : σ → Option Json

namespace LeaseServer

variable (server : LeaseServer σ)

/-- The lease that is stored. -/
def lease (s : σ) : Option Lease := (server.manifest s).map Lease.ofJson

/-- Who holds the lease that is stored. -/
def holder (s : σ) : Option String := (server.lease s).bind (·.holder)

/-- A request fails and nothing is written. -/
structure Refuses (q : Request) (s : σ) : Prop where
  failed : ∃ e, (server.handle q s).1 = .error e
  unwritten : server.manifest (server.handle q s).2 = server.manifest s

/-- A manifest is written under some version, whatever the answer says. -/
def Writes (q : Request) (s : σ) (j : Json) : Prop :=
  ∃ version, server.manifest (server.handle q s).2 = some (stamp version j)

/-- What the cluster promises about the lease in a namespace. -/
structure Lawful (text : Time → String) («namespace» : String) : Prop where
  looked (s : σ) :
    server.manifest (server.handle (.getLease «namespace») s).2 = server.manifest s
  found {s : σ} {lease : Lease} : (server.handle (.getLease «namespace») s).1 = .ok lease →
    server.lease s = some lease
  patched (s : σ) (change : LeaseChange) : server.Refuses (.patchLease «namespace» change) s ∨
    ∃ j, server.manifest s = some j ∧
      (∀ version, (Lease.ofJson (change.toJson text)).resourceVersion = some version →
        (Lease.ofJson j).resourceVersion = some version) ∧
      server.Writes (.patchLease «namespace» change) s ((change.toJson text).merge j)
  created (s : σ) (holder : String) (now : Time) :
    server.Refuses (.createLease «namespace» holder now) s ∨
      server.manifest s = none ∧ server.Writes (.createLease «namespace» holder now) s
        (newLease text «namespace» holder now)

variable {server} {s : σ} {q : Request}

theorem holder_of_manifest (h : server.manifest s = some j) :
    server.holder s = (Lease.ofJson j).holder := by
  rw [holder, lease, h]
  rfl

theorem holder_of_manifest_eq {t : σ} (h : server.manifest t = server.manifest s) :
    server.holder t = server.holder s := by
  rw [holder, lease, h, holder, lease]

theorem Writes.holder (h : server.Writes q s j) :
    server.holder (server.handle q s).2 = (Lease.ofJson j).holder := by
  obtain ⟨version, h⟩ := h
  rw [holder_of_manifest h, holder_stamp]

/-! ### The holder after each request -/

namespace Lawful

variable {identity : String} {now : Time}

theorem holder_looked (hserver : server.Lawful text «namespace») (s : σ) :
    server.holder (server.handle (.getLease «namespace») s).2 = server.holder s :=
  holder_of_manifest_eq (hserver.looked s)

/-- A renewal leaves the lease with whoever holds it. -/
theorem holder_renewed (hserver : server.Lawful text «namespace») (now : Time) (s : σ) :
    server.holder (server.handle (.patchLease «namespace» (.renew now)) s).2 = server.holder s := by
  rcases hserver.patched s (.renew now) with hrefuses | ⟨j, hj, -, hwrites⟩
  · exact holder_of_manifest_eq hrefuses.unwritten
  · rw [hwrites.holder, Cluster.holder_renewed, holder_of_manifest hj]

/-- After an attempt to take it over, the lease is as it was or with the one who attempted it. -/
theorem holder_takenOver (hserver : server.Lawful text «namespace») (read : Option String)
    (identity : String) (now : Time) (s : σ) :
    let q := Request.patchLease «namespace» (.takeOver read identity now)
    server.Refuses q s ∨ server.holder (server.handle q s).2 = some identity := by
  rcases hserver.patched s (.takeOver read identity now) with hrefuses | ⟨j, -, -, hwrites⟩
  · exact .inl hrefuses
  · exact .inr (by rw [hwrites.holder, Cluster.holder_takenOver])

/-- And so after an attempt to create it. -/
theorem holder_created (hserver : server.Lawful text «namespace») (identity : String) (now : Time)
    (s : σ) :
    let q := Request.createLease «namespace» identity now
    server.Refuses q s ∨ server.holder (server.handle q s).2 = some identity := by
  rcases hserver.created s identity now with hrefuses | ⟨-, hwrites⟩
  · exact .inl hrefuses
  · exact .inr (by rw [hwrites.holder, holder_newLease])

end Lawful

end LeaseServer

/-! ### A server -/

/-- A lease with the number of times that it was written, which is its version. -/
structure Stored where
  manifest : Option Json
  writes : Nat

namespace Stored

/-- Stores a manifest under the next version. -/
def store (s : Stored) (j : Json) : Stored where
  manifest := some (stamp (toString (s.writes + 1)) j)
  writes := s.writes + 1

/-- What is wrong with a write that expects another version, or none. -/
def conflict : Failure := .refused "Failure" "conflict" "Conflict" 409

/-- Whether a patch names no other version than that of a manifest. -/
def admits (j patch : Json) : Bool :=
  match (Lease.ofJson patch).resourceVersion with
  | none => true
  | some version => (Lease.ofJson j).resourceVersion == some version

def handle (text : Time → String) : Program.Handler effect Stored
  | .getLease _, s =>
    (match s.manifest with
      | some j => .ok (Lease.ofJson j)
      | none => .error (.kube World.noLease), s)
  | .patchLease _ change, s =>
    match s.manifest with
    | none => (.error (.kube World.noLease), s)
    | some j =>
      if admits j (change.toJson text) then (.ok (), s.store ((change.toJson text).merge j))
      else (.error (.kube conflict), s)
  | .createLease «namespace» holder now, s =>
    match s.manifest with
    | none => (.ok (), s.store (newLease text «namespace» holder now))
    | some _ => (.error (.kube conflict), s)
  | .listNodes, s => (.ok [], s)
  | .postEvent _, s | .patchService _ _ _, s | .patchIngress _ _ _, s => (.ok (), s)

/-- A cluster that does what it promises. -/
def server (text : Time → String) : LeaseServer Stored := ⟨handle text, manifest⟩

end Stored

theorem lawful_stored (text : Time → String) («namespace» : String) :
    (Stored.server text).Lawful text «namespace» where
  looked s := rfl
  found {s lease} h := by
    change (match s.manifest with
      | some j => Except.ok (Lease.ofJson j)
      | none => Except.error (Error.kube World.noLease)) = .ok lease at h
    change s.manifest.map Lease.ofJson = some lease
    cases hj : s.manifest with
    | none =>
      rw [hj] at h
      cases h
    | some j =>
      rw [hj] at h
      rw [← Except.ok.inj h]
      rfl
  patched s change := by
    obtain ⟨_ | j, writes⟩ := s
    · exact .inl ⟨⟨_, rfl⟩, rfl⟩
    · by_cases h : Stored.admits j (change.toJson text)
      -- A patch that names a version is admitted only if that is the version stored.
      · refine .inr ⟨j, rfl, fun version hversion => ?_, toString (writes + 1), ?_⟩
        · rw [Stored.admits, hversion] at h
          exact eq_of_beq h
        · simp [Stored.server, Stored.handle, h, Stored.store]
      · left
        constructor
        · simp [Stored.server, Stored.handle, h]
        · simp [Stored.server, Stored.handle, h]
  created s holder now := by
    obtain ⟨_ | j, writes⟩ := s
    · exact .inr ⟨rfl, toString (writes + 1), rfl⟩
    · exact .inl ⟨⟨_, rfl⟩, rfl⟩

end BalancerSync.Cluster
