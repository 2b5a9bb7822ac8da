import BalancerSync.Json.Basic
import Mathlib.Data.List.Nodup

/-!
# Objects with optional fields

An object is often written from a fixed list of fields, of which those without a value are left out.
As long as no name is there twice, each field is found under its name, and two objects with the same
names are equal only if all their fields are.

## Main Definitions

* `Json.ofFields` — the object of some fields
* `Json.at?` — the value under a path of names
* `Json.IsLeaf` — a value that is neither null nor an object

## Main Results

* `ofFields_injective` — an object determines its fields
* `at?_ofFields` — what is found under a path
* `at?_ofFields_ne_null` — no field is null
-/

namespace BalancerSync.Json

variable {α : Type} {name : String} {path : List String} {v j : Json}
  {members : List (String × Json)} {fields others : List (String × Option Json)}

/-- The object of some fields.  A field without a value is left out. -/
def ofFields (fields : List (String × Option Json)) : Json :=
  obj (fields.flatMap fun f => optional f.1 f.2)

/-- The value under a path of names, one object inside the other.  A null is a value here. -/
def at? : List String → Json → Option Json
  | [], j => some j
  | name :: path, j => (j.members?.bind (memberOf? name)).bind (at? path)

/-- A value that is neither null nor an object. -/
def IsLeaf (j : Json) : Prop := j.members? = none ∧ j ≠ null

/-! ### Members -/

theorem memberOf?_append (name : String) (xs ys : List (String × Json)) :
    memberOf? name (xs ++ ys) = (memberOf? name ys).or (memberOf? name xs) := by
  simp only [memberOf?, List.reverse_append, List.find?_append]
  cases ys.reverse.find? fun m => m.1 == name <;> rfl

theorem memberOf?_optional (name other : String) (v? : Option Json) :
    memberOf? name (optional other v?) = if other = name then v? else none := by
  cases v? with
  | none => simp [memberOf?, optional]
  | some v => by_cases h : other = name <;> simp [memberOf?, optional, h]

/-- The members are the fields that have a value. -/
theorem mem_flatMap_optional :
    (name, v) ∈ fields.flatMap (fun f => optional f.1 f.2) ↔ (name, some v) ∈ fields := by
  rw [List.mem_flatMap]
  constructor
  · rintro ⟨⟨other, v?⟩, hmem, h⟩
    cases v? with
    | none => cases h
    | some w =>
      cases List.mem_singleton.1 h
      exact hmem
  · exact fun h => ⟨_, h, List.mem_singleton_self _⟩

/-- A name that no field has is the name of no member. -/
theorem not_mem_flatMap_optional (h : name ∉ fields.map (·.1)) (v : Json) :
    (name, v) ∉ fields.flatMap fun f => optional f.1 f.2 :=
  fun hv => h (List.mem_map.2 ⟨_, mem_flatMap_optional.1 hv, rfl⟩)

/-- Each field is found under its name. -/
theorem memberOf?_flatMap_optional (hnodup : (fields.map (·.1)).Nodup) :
    memberOf? name (fields.flatMap fun f => optional f.1 f.2) = some v ↔
      (name, some v) ∈ fields := by
  induction fields generalizing v with
  | nil => simp [memberOf?]
  | cons f rest ih =>
    obtain ⟨other, v?⟩ := f
    rw [List.map_cons, List.nodup_cons] at hnodup
    obtain ⟨hother, hrest⟩ := hnodup
    rw [List.flatMap_cons, memberOf?_append, memberOf?_optional, List.mem_cons]
    by_cases hname : other = name
    · subst hname
      have hnot : ∀ w, (other, some w) ∉ rest := fun w hw => hother (List.mem_map.2 ⟨_, hw, rfl⟩)
      have hnone : memberOf? other (rest.flatMap fun f => optional f.1 f.2) = none :=
        Option.eq_none_iff_forall_ne_some.2 fun w hw => hnot w ((ih hrest).1 hw)
      simp [hnone, hnot, eq_comm]
    · simp [hname, ih hrest, Ne.symm hname]

/-- A member that comes once at most, in front of others, is there in both objects or in none. -/
theorem optional_append_inj {xs ys : List (String × Json)} {v? w? : Option Json}
    (hxs : ∀ v, (name, v) ∉ xs) (hys : ∀ v, (name, v) ∉ ys)
    (h : optional name v? ++ xs = optional name w? ++ ys) : v? = w? ∧ xs = ys := by
  cases v? with
  | none =>
    cases w? with
    | none => exact ⟨rfl, h⟩
    | some w =>
      obtain rfl : xs = (name, w) :: ys := h
      exact absurd List.mem_cons_self (hxs w)
  | some v =>
    cases w? with
    | none =>
      obtain rfl : (name, v) :: xs = ys := h
      exact absurd List.mem_cons_self (hys v)
    | some w =>
      obtain ⟨hv, rfl⟩ := List.cons.inj h
      cases hv
      exact ⟨rfl, rfl⟩

/-- An object determines its fields. -/
theorem ofFields_injective (hnodup : (fields.map (·.1)).Nodup)
    (h : ofFields fields = ofFields others) (hnames : fields.map (·.1) = others.map (·.1)) :
    fields = others := by
  replace h := obj.inj h
  induction fields generalizing others with
  | nil => exact (List.map_eq_nil_iff.1 hnames.symm).symm
  | cons f rest ih =>
    obtain ⟨⟨name, w?⟩, others, rfl, hname, htail⟩ := List.map_eq_cons_iff.1 hnames.symm
    obtain ⟨_, v?⟩ := f
    obtain rfl : name = _ := hname
    rw [List.map_cons, List.nodup_cons] at hnodup
    obtain ⟨hnot, hrest⟩ := hnodup
    rw [List.flatMap_cons, List.flatMap_cons] at h
    obtain ⟨rfl, hsame⟩ := optional_append_inj (not_mem_flatMap_optional hnot)
      (not_mem_flatMap_optional (htail ▸ hnot)) h
    rw [ih hrest htail.symm hsame]

/-! ### Paths -/

theorem IsLeaf.isSome_at?_iff (h : v.IsLeaf) : (v.at? path).isSome = true ↔ path = [] := by
  cases path with
  | nil => simp [at?]
  | cons name path => simp [at?, h.1]

theorem IsLeaf.at?_ne_null (h : v.IsLeaf) (path : List String) : v.at? path ≠ some null := by
  cases path with
  | nil => exact fun heq => h.2 (Option.some.inj heq)
  | cons name path => simp [at?, h.1]

/-- A field whose values are leaves is found under its name alone, and if it has a value. -/
theorem exists_leaf_iff {key : String} {v? : Option α} {f : α → Json} (hf : ∀ a, (f a).IsLeaf) :
    (∃ v, (name = key ∧ some v = v?.map f) ∧ (v.at? path).isSome = true) ↔
      ∃ a, v? = some a ∧ name :: path = [key] := by
  cases v? with
  | none => simp
  | some a => simp [(hf a).isSome_at?_iff]

/-- A field whose values are objects is found under its name, and if it has a value; what is set in
that is found below. -/
theorem exists_part_iff {key : String} {v? : Option α} {f : α → Json}
    {Sets : α → List String → Prop} (hnil : ∀ a, ¬ Sets a [])
    (hf : ∀ a name path, ((f a).at? (name :: path)).isSome = true ↔ Sets a (name :: path)) :
    (∃ v, (name = key ∧ some v = v?.map f) ∧ (v.at? path).isSome = true) ↔
      (∃ a, v? = some a ∧ name :: path = [key]) ∨
      ∃ a below, v? = some a ∧ Sets a below ∧ name :: path = key :: below := by
  cases v? with
  | none => simp
  | some a =>
    cases path with
    | nil => simp [at?, hnil]
    | cons inner path => simp [hf, and_comm]

/-- What is found under a path of an object is found in the field that the path begins with. -/
theorem at?_ofFields (hnodup : (fields.map (·.1)).Nodup) :
    (ofFields fields).at? (name :: path) = some j ↔
      ∃ v, (name, some v) ∈ fields ∧ v.at? path = some j := by
  simp only [at?, ofFields, members?, Option.bind_some, Option.bind_eq_some_iff,
    memberOf?_flatMap_optional hnodup]

theorem isSome_at?_ofFields (hnodup : (fields.map (·.1)).Nodup) :
    ((ofFields fields).at? (name :: path)).isSome = true ↔
      ∃ v, (name, some v) ∈ fields ∧ (v.at? path).isSome = true := by
  simp only [Option.isSome_iff_exists, at?_ofFields hnodup]
  constructor
  · rintro ⟨j, v, hv, hj⟩
    exact ⟨v, hv, j, hj⟩
  · rintro ⟨v, hv, j, hj⟩
    exact ⟨j, v, hv, hj⟩

/-- No field of an object is null, at any depth, if none is in its fields. -/
theorem at?_ofFields_ne_null (hnodup : (fields.map (·.1)).Nodup)
    (hfields : ∀ f ∈ fields, ∀ v, f.2 = some v → ∀ path, v.at? path ≠ some null)
    (path : List String) : (ofFields fields).at? path ≠ some null := by
  cases path with
  | nil => exact fun h => by cases h
  | cons name path =>
    rw [Ne, at?_ofFields hnodup]
    rintro ⟨v, hv, h⟩
    exact hfields _ hv v rfl path h

end BalancerSync.Json
