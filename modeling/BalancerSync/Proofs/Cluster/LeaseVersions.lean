import BalancerSync.Proofs.Cluster.LeaseServer
import Mathlib.Data.Set.Defs

/-!
# Versions of the lease

A cluster that gives the lease a version which it has never given before, each time it is written,
lets a version stand for what was read: as long as the lease has it, nobody has written; and once it
is gone it does not come back.  A takeover is the only write that names a version, so it is carried
out on what its replica has read or not at all.

The versions that were given away cannot be seen from outside.  They are named by a set beside the
state, which only grows.

## Main Definitions

* `LeaseRequest` — what is asked about the lease in a namespace
* `LeaseServer.Versioned` — a cluster that never gives the same version twice
* `LeaseServer.Retired` — a version that was given away and is not the one of the lease any more

## Main Results

* `LeaseServer.Versioned.unwritten_or_retired` — what a request does to a version
* `LeaseServer.Versioned.retired_of_takeover` — a version that was taken over is gone
* `versioned_stored`
-/

namespace BalancerSync.Cluster

variable {σ : Type} {text : Time → String} {«namespace» version : String} {j : Json} {q : Request}

/-! ### Manifests -/

theorem resourceVersion_stamp (version : String) (j : Json) :
    (Lease.ofJson (stamp version j)).resourceVersion = some version := by
  rw [Lease.ofJson, stamp, objectMember, Json.member?_merge_of_obj_mem (by simp) List.mem_cons_self,
    Option.getD_some, textMember, Json.member?_merge_of_mem (by simp) List.mem_cons_self]
  rfl

/-- A takeover names the version that was read. -/
theorem resourceVersion_takeOver (text : Time → String) (version holder : String) (now : Time) :
    (Lease.ofJson ((LeaseChange.takeOver (some version) holder now).toJson text)).resourceVersion =
      some version := rfl

/-! ### Servers -/

/-- What is asked about the lease in a namespace. -/
inductive LeaseRequest («namespace» : String) : Request → Prop where
  | look : LeaseRequest «namespace» (.getLease «namespace»)
  | patch (change : LeaseChange) : LeaseRequest «namespace» (.patchLease «namespace» change)
  | creation (holder : String) (now : Time) :
    LeaseRequest «namespace» (.createLease «namespace» holder now)

namespace LeaseServer

variable (server : LeaseServer σ) (issued : σ → Set String)

/-- The version of the lease that is stored. -/
def current (s : σ) : Option String := (server.lease s).bind (·.resourceVersion)

/-- A request leaves a lease with a version that was never given away before. -/
def Renumbers (q : Request) (s : σ) : Prop :=
  ∃ version, version ∉ issued s ∧ version ∈ issued (server.handle q s).2 ∧
    server.current (server.handle q s).2 = some version

/-- A cluster that gives every lease that it writes a version of its own. -/
structure Versioned («namespace» : String) : Prop where
  kept (q : Request) (s : σ) : issued s ⊆ issued (server.handle q s).2
  patched (s : σ) (change : LeaseChange) : server.Refuses (.patchLease «namespace» change) s ∨
    server.Renumbers issued (.patchLease «namespace» change) s
  created (s : σ) (holder : String) (now : Time) :
    server.Refuses (.createLease «namespace» holder now) s ∨
      server.Renumbers issued (.createLease «namespace» holder now) s

/-- The lease has a version, and that was given away. -/
def Numbered (s : σ) : Prop :=
  ∀ lease, server.lease s = some lease → ∃ version ∈ issued s, lease.resourceVersion = some version

/-- A version that was given away and is not the one of the lease. -/
def Retired (version : String) (s : σ) : Prop := version ∈ issued s ∧ server.current s ≠ some version

variable {server issued} {s : σ}

theorem current_of_manifest_eq {t : σ} (h : server.manifest t = server.manifest s) :
    server.current t = server.current s := by
  rw [current, lease, h, current, lease]

namespace Versioned

/-- A request about the lease leaves it alone or gives it a new version. -/
theorem unwritten_or_renumbered (hserver : server.Lawful text «namespace»)
    (hversions : server.Versioned issued «namespace») (hq : LeaseRequest «namespace» q) (s : σ) :
    server.manifest (server.handle q s).2 = server.manifest s ∨ server.Renumbers issued q s := by
  cases hq with
  | look => exact .inl (hserver.looked s)
  | patch change => exact (hversions.patched s change).imp_left (·.unwritten)
  | creation holder now => exact (hversions.created s holder now).imp_left (·.unwritten)

theorem numbered (hserver : server.Lawful text «namespace»)
    (hversions : server.Versioned issued «namespace») (hq : LeaseRequest «namespace» q)
    (hs : server.Numbered issued s) : server.Numbered issued (server.handle q s).2 := by
  intro l hl
  rcases hversions.unwritten_or_renumbered hserver hq s with hsame | ⟨version, -, hissued, hversion⟩
  · rw [lease, hsame] at hl
    obtain ⟨version, hversion, hl⟩ := hs l hl
    exact ⟨version, hversions.kept q s hversion, hl⟩
  · rw [LeaseServer.current, hl] at hversion
    exact ⟨version, hissued, hversion⟩

/-- A request about the lease leaves it alone, or the versions given away before are all retired. -/
theorem unwritten_or_retired (hserver : server.Lawful text «namespace»)
    (hversions : server.Versioned issued «namespace») (hq : LeaseRequest «namespace» q)
    (hissued : version ∈ issued s) :
    server.manifest (server.handle q s).2 = server.manifest s ∨
      server.Retired issued version (server.handle q s).2 := by
  refine (hversions.unwritten_or_renumbered hserver hq s).imp_right ?_
  rintro ⟨fresh, hfresh, -, hversion⟩
  refine ⟨hversions.kept q s hissued, fun h => hfresh ?_⟩
  rwa [Option.some.inj (hversion.symm.trans h)]

/-- A retired version does not come back. -/
theorem retired (hserver : server.Lawful text «namespace»)
    (hversions : server.Versioned issued «namespace») (hq : LeaseRequest «namespace» q)
    (h : server.Retired issued version s) : server.Retired issued version (server.handle q s).2 := by
  rcases hversions.unwritten_or_retired hserver hq h.1 with hsame | hretired
  · exact ⟨hversions.kept q s h.1, by rw [current_of_manifest_eq hsame]; exact h.2⟩
  · exact hretired

/-- A takeover that is carried out has found the version that it names, and retires it. -/
theorem retired_of_takeover {holder : String} {now : Time}
    (hserver : server.Lawful text «namespace») (hversions : server.Versioned issued «namespace»)
    (hs : server.Numbered issued s)
    (h : ¬ server.Refuses (.patchLease «namespace» (.takeOver (some version) holder now)) s) :
    server.current s = some version ∧ server.Retired issued version
      (server.handle (.patchLease «namespace» (.takeOver (some version) holder now)) s).2 := by
  obtain ⟨j, hj, hnamed, -⟩ := (hserver.patched s _).resolve_left h
  have hlease : server.lease s = some (Lease.ofJson j) := by
    rw [lease, hj]
    rfl
  have hversion := hnamed version (resourceVersion_takeOver text version holder now)
  obtain ⟨found, hissued, hfound⟩ := hs _ hlease
  obtain rfl := Option.some.inj (hversion.symm.trans hfound)
  obtain ⟨fresh, hfresh, -, hafter⟩ := (hversions.patched s _).resolve_left h
  refine ⟨by rw [LeaseServer.current, hlease]; exact hversion, hversions.kept _ s hissued, ?_⟩
  rw [hafter]
  rintro ⟨⟩
  exact hfresh hissued

end Versioned

end LeaseServer

/-! ### A server -/

namespace Stored

/-- The numbers of the writes so far. -/
def issued (s : Stored) : Set String := {version | ∃ n ≤ s.writes, version = toString n}

theorem issued_store (s : Stored) (j : Json) : s.issued ⊆ (s.store j).issued :=
  fun _ ⟨n, hn, hversion⟩ => ⟨n, Nat.le_succ_of_le hn, hversion⟩

/-- Storing takes the next number. -/
theorem exists_version_store (s : Stored) (j : Json) :
    ∃ version, version ∉ s.issued ∧ version ∈ (s.store j).issued ∧
      ((s.store j).manifest.map Lease.ofJson).bind (·.resourceVersion) = some version := by
  refine ⟨toString (s.writes + 1), ?_, ⟨_, Nat.le_refl _, rfl⟩, resourceVersion_stamp _ j⟩
  rintro ⟨n, hn, hversion⟩
  -- A number can be read off its digits.
  have hread := congrArg (fun version => Nat.ofDigitChars 10 version.toList 0) hversion
  have hsame : s.writes + 1 = n := by
    simpa only [Nat.toString_eq_repr, Nat.toList_repr, Nat.ofDigitChars_ten_toDigits] using hread
  omega

end Stored

theorem versioned_stored (text : Time → String) («namespace» : String) :
    (Stored.server text).Versioned Stored.issued «namespace» where
  kept q s := by
    cases q with
    | patchLease «namespace» change =>
      change s.issued ⊆ (Stored.handle text (.patchLease «namespace» change) s).2.issued
      rw [Stored.handle]
      split
      · exact fun _ h => h
      · split
        · exact s.issued_store _
        · exact fun _ h => h
    | createLease «namespace» holder now =>
      change s.issued ⊆ (Stored.handle text (.createLease «namespace» holder now) s).2.issued
      rw [Stored.handle]
      split
      · exact s.issued_store _
      · exact fun _ h => h
    | _ => exact fun _ h => h
  patched s change := by
    obtain ⟨_ | j, writes⟩ := s
    · exact .inl ⟨⟨_, rfl⟩, rfl⟩
    · by_cases h : Stored.admits j (change.toJson text)
      · right
        have hwrites : ((Stored.server text).handle (.patchLease «namespace» change)
            ⟨some j, writes⟩).2 = Stored.store ⟨some j, writes⟩ ((change.toJson text).merge j) := by
          simp [Stored.server, Stored.handle, h]
        rw [LeaseServer.Renumbers, hwrites]
        exact Stored.exists_version_store _ _
      · left
        constructor
        · simp [Stored.server, Stored.handle, h]
        · simp [Stored.server, Stored.handle, h]
  created s holder now := by
    obtain ⟨_ | j, writes⟩ := s
    · exact .inr (Stored.exists_version_store _ _)
    · exact .inl ⟨⟨_, rfl⟩, rfl⟩

end BalancerSync.Cluster
