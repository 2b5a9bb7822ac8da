import BalancerSync.Desired.Targets
import Mathlib.Data.List.Sort

/-!
# Desired servers

The servers that a Service wants are put into a list one by one, each at its place.  The list is
therefore in ascending order, and no server is in it twice.  So it does not depend on the order in
which the nodes are given; only the error does, which is about the first provider ID that is no
good.

## Main Results

* `nodup_serverIds` — no server is wanted twice
* `toOption_serverIds_congr` — the servers are a matter of which provider IDs there are
-/

namespace BalancerSync.Desired

theorem mem_insertId {id x : Int} {ids : List Int} : x ∈ insertId id ids ↔ x = id ∨ x ∈ ids := by
  induction ids with
  | nil => simp [insertId]
  | cons y rest ih =>
    rw [insertId]
    split
    · simp
    · split
      · rename_i heq
        subst heq
        simp
      · rw [List.mem_cons, ih, List.mem_cons]
        exact or_left_comm

/-- Inserting keeps the order. -/
theorem pairwise_insertId {id : Int} {ids : List Int} (h : ids.Pairwise (· < ·)) :
    (insertId id ids).Pairwise (· < ·) := by
  induction ids with
  | nil => simp [insertId]
  | cons y rest ih =>
    obtain ⟨hhead, hrest⟩ := List.pairwise_cons.1 h
    rw [insertId]
    split
    · refine List.pairwise_cons.2 ⟨fun x hx => ?_, h⟩
      rcases List.mem_cons.1 hx with rfl | hx
      · assumption
      · have := hhead x hx
        omega
    · split
      · exact h
      · refine List.pairwise_cons.2 ⟨fun x hx => ?_, ih hrest⟩
        rcases mem_insertId.1 hx with rfl | hx
        · omega
        · exact hhead x hx

private theorem pairwise_foldlM {ps : List String} {start ids : List Int}
    (h : ps.foldlM (fun ids p => do return insertId (← serverId p) ids) start = .ok ids)
    (hstart : start.Pairwise (· < ·)) : ids.Pairwise (· < ·) := by
  induction ps generalizing start with
  | nil =>
    obtain rfl := Except.ok.inj h
    exact hstart
  | cons p ps ih =>
    rw [List.foldlM_cons] at h
    cases hp : serverId p with
    | error e =>
      rw [hp] at h
      cases h
    | ok id =>
      rw [hp] at h
      exact ih h (pairwise_insertId hstart)

/-- The servers of the selected nodes are in ascending order. -/
theorem pairwise_serverIds {nodes : List Cluster.Node} {selector : Selector} {ids : List Int}
    (h : serverIds nodes selector = .ok ids) : ids.Pairwise (· < ·) :=
  pairwise_foldlM h .nil

/-- No server is wanted twice. -/
theorem nodup_serverIds {nodes : List Cluster.Node} {selector : Selector} {ids : List Int}
    (h : serverIds nodes selector = .ok ids) : ids.Nodup := by
  refine (pairwise_serverIds h).imp fun {a b} hlt heq => ?_
  omega

private theorem mem_foldlM {ps : List String} {start ids : List Int} {id : Int}
    (h : ps.foldlM (fun ids p => do return insertId (← serverId p) ids) start = .ok ids) :
    id ∈ ids ↔ id ∈ start ∨ ∃ p ∈ ps, serverId p = .ok id := by
  induction ps generalizing start with
  | nil =>
    obtain rfl := Except.ok.inj h
    simp
  | cons p ps ih =>
    rw [List.foldlM_cons] at h
    cases hp : serverId p with
    | error e =>
      rw [hp] at h
      cases h
    | ok first =>
      rw [hp] at h
      rw [ih h, mem_insertId, List.exists_mem_cons_iff, hp, Except.ok.injEq, eq_comm, or_assoc]
      exact or_left_comm

private theorem exists_foldlM_iff {ps : List String} {start : List Int} :
    (∃ ids, ps.foldlM (fun ids p => do return insertId (← serverId p) ids) start = .ok ids) ↔
      ∀ p ∈ ps, ∃ id, serverId p = .ok id := by
  induction ps generalizing start with
  | nil => exact iff_of_true ⟨start, rfl⟩ (by simp)
  | cons p ps ih =>
    rw [List.forall_mem_cons, List.foldlM_cons]
    cases hp : serverId p with
    | error e => exact iff_of_false (fun ⟨ids, h⟩ => by cases h) (fun ⟨⟨id, h⟩, _⟩ => by cases h)
    | ok id => exact ih.trans (and_iff_right ⟨id, rfl⟩).symm

/-- The servers are those that the provider IDs name. -/
theorem mem_serverIds {nodes : List Cluster.Node} {selector : Selector} {ids : List Int} {id : Int}
    (h : serverIds nodes selector = .ok ids) :
    id ∈ ids ↔ ∃ p ∈ providerIds nodes selector, serverId p = .ok id := by
  rw [mem_foldlM h]
  simp

/-- There is an error only about a provider ID. -/
theorem exists_serverIds_iff {nodes : List Cluster.Node} {selector : Selector} :
    (∃ ids, serverIds nodes selector = .ok ids) ↔
      ∀ p ∈ providerIds nodes selector, ∃ id, serverId p = .ok id :=
  exists_foldlM_iff

/-- The servers are a matter of which provider IDs there are, in whatever order and how often. -/
theorem toOption_serverIds_congr {nodes others : List Cluster.Node} {selector : Selector}
    (h : ∀ p, p ∈ providerIds nodes selector ↔ p ∈ providerIds others selector) :
    (serverIds nodes selector).toOption = (serverIds others selector).toOption := by
  have hexists : (∃ ids, serverIds nodes selector = .ok ids) ↔
      ∃ ids, serverIds others selector = .ok ids := by
    simp only [exists_serverIds_iff, h]
  cases hnodes : serverIds nodes selector with
  | ok ids =>
    obtain ⟨ids', hothers⟩ := hexists.1 ⟨ids, hnodes⟩
    have hsame : ids = ids' := by
      refine (pairwise_serverIds hnodes).eq_of_mem_iff (pairwise_serverIds hothers) fun id => ?_
      rw [mem_serverIds hnodes, mem_serverIds hothers]
      simp only [h]
    rw [hothers, hsame]
  | error e =>
    cases hothers : serverIds others selector with
    | ok ids =>
      obtain ⟨ids', hok⟩ := hexists.2 ⟨ids, hothers⟩
      rw [hnodes] at hok
      cases hok
    | error e' => rfl

end BalancerSync.Desired
