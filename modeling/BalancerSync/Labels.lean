/-!
# Labels

Labels are texts under keys, kept in the order of the keys. Load balancers, nodes and Services carry
them; the settings of a Service are kept in the same way.

## Main Definitions

* `Labels` : a map from keys to values, as its entries in ascending order of the keys
* `Labels.get?`, `Labels.insert`, `Labels.ofList` : looking up and building

Two maps with the same values are equal (`Labels.ext_get?`), because the entries are sorted.
-/

namespace BalancerSync

/-- A map from keys to values, as its entries in ascending order of the keys. -/
structure Labels where
  entries : List (String × String)
  sorted : entries.Pairwise fun a b => a.1 < b.1
  deriving DecidableEq, Repr

namespace Labels

def empty : Labels := ⟨[], .nil⟩

instance : Inhabited Labels := ⟨empty⟩

/-- The value under a key of some entries. -/
def lookup (key : String) : List (String × String) → Option String
  | [] => none
  | (k, v) :: rest => if k = key then some v else lookup key rest

/-- The value under a key. -/
def get? (labels : Labels) (key : String) : Option String := lookup key labels.entries

/-- The entries with `value` under `key`, at its place in the order. -/
def place (key value : String) : List (String × String) → List (String × String)
  | [] => [(key, value)]
  | (k, v) :: rest =>
    if key < k then (key, value) :: (k, v) :: rest
    else if key = k then (key, value) :: rest
    else (k, v) :: place key value rest

/-- Every key after placing one is that one or was there before. -/
theorem mem_place {key value : String} {entry : String × String} :
    ∀ {entries : List (String × String)}, entry ∈ place key value entries →
      entry = (key, value) ∨ entry ∈ entries
  | [], h => by simpa [place] using h
  | (k, v) :: rest, h => by
    simp only [place] at h
    split at h
    · simpa using h
    · split at h
      · simp only [List.mem_cons] at h ⊢
        rcases h with h | h
        · exact .inl h
        · exact .inr (.inr h)
      · rw [List.mem_cons] at h
        rcases h with h | h
        · exact .inr (h ▸ List.mem_cons_self)
        · exact (mem_place h).imp id (List.mem_cons_of_mem _)

/-- The keys stay in ascending order. -/
theorem pairwise_place (key value : String) :
    ∀ {entries : List (String × String)}, entries.Pairwise (fun a b => a.1 < b.1) →
      (place key value entries).Pairwise fun a b => a.1 < b.1
  | [], _ => by simp [place]
  | (k, v) :: rest, h => by
    rw [List.pairwise_cons] at h
    simp only [place]
    split
    · rename_i hlt
      refine List.pairwise_cons.2 ⟨fun e he => ?_, List.pairwise_cons.2 h⟩
      rcases List.mem_cons.1 he with rfl | he
      · exact hlt
      · exact String.lt_trans hlt (h.1 e he)
    · split
      · rename_i heq
        subst heq
        exact List.pairwise_cons.2 h
      · rename_i hge hne
        refine List.pairwise_cons.2 ⟨fun e he => ?_, pairwise_place key value h.2⟩
        rcases mem_place he with rfl | he
        · exact Std.lt_of_le_of_ne (String.not_lt.1 hge) (fun h => hne h.symm)
        · exact h.1 e he

/-- The map with `value` under `key`. -/
def insert (labels : Labels) (key value : String) : Labels :=
  ⟨place key value labels.entries, pairwise_place key value labels.sorted⟩

/-- The map of these entries; the last value of a repeated key counts. -/
def ofList (entries : List (String × String)) : Labels :=
  entries.foldl (fun labels e => labels.insert e.1 e.2) empty

/-! ### Looking up -/

theorem lookup_place (key value other : String) (entries : List (String × String)) :
    lookup other (place key value entries) =
      if key = other then some value else lookup other entries := by
  induction entries with
  | nil => rfl
  | cons e rest ih =>
    obtain ⟨k, v⟩ := e
    simp only [place]
    split
    · rfl
    · split
      · rename_i h
        subst h
        simp only [lookup]
        split <;> rfl
      · rename_i h
        simp only [lookup, ih]
        split
        · rename_i h'
          subst h'
          rw [if_neg h]
        · rfl

/-- The value under a key just inserted is the new one, and the others stay. -/
theorem get?_insert (labels : Labels) (key value other : String) :
    (labels.insert key value).get? other = if key = other then some value else labels.get? other :=
  lookup_place key value other labels.entries

@[simp] theorem get?_insert_self (labels : Labels) (key value : String) :
    (labels.insert key value).get? key = some value := by
  rw [get?_insert, if_pos rfl]

@[simp] theorem get?_empty (key : String) : empty.get? key = none := rfl

theorem lookup_eq_none {key : String} {entries : List (String × String)}
    (h : ∀ e ∈ entries, key < e.1) : lookup key entries = none := by
  induction entries with
  | nil => rfl
  | cons e rest ih =>
    obtain ⟨k, v⟩ := e
    have hlt : key < k := h (k, v) List.mem_cons_self
    have hne : k ≠ key := fun heq => String.lt_irrefl key (heq ▸ hlt)
    simp only [lookup, if_neg hne]
    exact ih fun e he => h e (List.mem_cons_of_mem _ he)

/-- Sorted entries are determined by the values under the keys. -/
theorem entries_eq_of_lookup {xs ys : List (String × String)}
    (hx : xs.Pairwise fun a b => a.1 < b.1) (hy : ys.Pairwise fun a b => a.1 < b.1)
    (h : ∀ key, lookup key xs = lookup key ys) : xs = ys := by
  induction xs generalizing ys with
  | nil =>
    cases ys with
    | nil => rfl
    | cons y ys => have := h y.1; simp [lookup] at this
  | cons x xs ih =>
    cases ys with
    | nil => have := h x.1; simp [lookup] at this
    | cons y ys =>
      obtain ⟨k, v⟩ := x
      obtain ⟨l, w⟩ := y
      rw [List.pairwise_cons] at hx hy
      have hkl : k = l := by
        apply String.le_antisymm
        · refine String.not_lt.1 fun hlt => ?_
          have := h l
          have hne : k ≠ l := fun heq => String.lt_irrefl l (heq ▸ hlt)
          rw [show lookup l ((k, v) :: xs) = none from lookup_eq_none ?_] at this
          · simp [lookup] at this
          · intro e he
            rcases List.mem_cons.1 he with rfl | he
            · exact hlt
            · exact String.lt_trans hlt (hx.1 e he)
        · refine String.not_lt.1 fun hlt => ?_
          have := h k
          rw [show lookup k ((l, w) :: ys) = none from lookup_eq_none ?_] at this
          · simp [lookup] at this
          · intro e he
            rcases List.mem_cons.1 he with rfl | he
            · exact hlt
            · exact String.lt_trans hlt (hy.1 e he)
      subst hkl
      have hvw : v = w := by simpa [lookup] using h k
      subst hvw
      congr 1
      refine ih hx.2 hy.2 fun key => ?_
      have := h key
      simp only [lookup] at this
      split at this
      · rename_i heq
        subst heq
        rw [lookup_eq_none hx.1, lookup_eq_none hy.1]
      · exact this

/-- Maps with the same values are equal. -/
theorem ext_get? {a b : Labels} (h : ∀ key, a.get? key = b.get? key) : a = b := by
  obtain ⟨xs, hx⟩ := a
  obtain ⟨ys, hy⟩ := b
  have : xs = ys := entries_eq_of_lookup hx hy h
  subst this
  rfl

end Labels

end BalancerSync
