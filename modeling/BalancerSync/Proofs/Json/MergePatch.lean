import BalancerSync.Json.Basic

/-!
# Merge patches

A patch is a value of the same form as what it changes.  Members that it names are replaced, or
taken away if it has a null there; objects inside of objects are patched in their turn; everything
that it does not name stays.

## Main Definitions

* `Json.put` — an object's members with one of them replaced
* `Json.merge` — a value with a patch applied

## Main Results

* `member?_merge_of_not_mem` — what a patch does not name stays
* `member?_merge_of_mem` — what it names is patched
-/

namespace BalancerSync.Json

variable {name other : String} {value old : Json} {members changes : List (String × Json)}

/-- A value that is not null. -/
def present : Json → Option Json
  | null => none
  | value => some value

/-- An object's members with the one of a name replaced, or taken away for a null. -/
def put (name : String) (value : Json) (members : List (String × Json)) : List (String × Json) :=
  members.filter (fun m => m.1 != name) ++ (value.present.map (name, ·)).toList

mutual

/-- A value with a patch applied. -/
def merge : Json → Json → Json
  | obj changes, old => obj (mergeMembers changes (old.members?.getD []))
  | new, _ => new

/-- An object's members with those of a patch applied one after the other. -/
def mergeMembers : List (String × Json) → List (String × Json) → List (String × Json)
  | [], members => members
  | (name, change) :: rest, members =>
    mergeMembers rest (put name (change.merge ((memberOf? name members).getD null)) members)

end

theorem member?_obj (name : String) (members : List (String × Json)) :
    (obj members).member? name = (memberOf? name members).bind present := by
  rw [member?]
  rcases memberOf? name members with _ | value
  · rfl
  · cases value <;> rfl

theorem memberOf?_put_of_ne (h : other ≠ name) :
    memberOf? other (put name value members) = memberOf? other members := by
  have hnew : ((value.present.map (name, ·)).toList.reverse).find? (fun m => m.1 == other) = none := by
    cases value.present <;> simp [Ne.symm h]
  have hold : (members.reverse.filter fun m => m.1 != name).find? (fun m => m.1 == other) =
      members.reverse.find? fun m => m.1 == other := by
    rw [List.find?_filter]
    congr 1
    funext m
    by_cases hm : m.1 = other
    · simp [hm, h]
    · simp [hm]
  rw [memberOf?, put, List.reverse_append, List.find?_append, hnew, Option.none_or,
    ← List.filter_reverse, hold, memberOf?]

theorem memberOf?_put_self : memberOf? name (put name value members) = value.present := by
  have hold : (members.filter fun m => m.1 != name).reverse.find? (fun m => m.1 == name) = none := by
    simp
  rw [memberOf?, put, List.reverse_append, List.find?_append, hold]
  cases value.present <;> simp

theorem memberOf?_mergeMembers_of_not_mem (h : name ∉ changes.map (·.1)) :
    memberOf? name (mergeMembers changes members) = memberOf? name members := by
  induction changes generalizing members with
  | nil => rfl
  | cons c rest ih =>
    simp only [List.map_cons, List.mem_cons, not_or] at h
    rw [mergeMembers, ih h.2, memberOf?_put_of_ne h.1]

theorem memberOf?_mergeMembers_of_mem (hd : (changes.map (·.1)).Nodup)
    (h : (name, value) ∈ changes) :
    memberOf? name (mergeMembers changes members) =
      (value.merge ((memberOf? name members).getD null)).present := by
  induction changes generalizing members with
  | nil => cases h
  | cons c rest ih =>
    rw [List.map_cons, List.nodup_cons] at hd
    rw [mergeMembers]
    rcases List.mem_cons.1 h with rfl | h
    · rw [memberOf?_mergeMembers_of_not_mem hd.1, memberOf?_put_self]
    · have hne : name ≠ c.1 := fun heq => hd.1 (heq ▸ List.mem_map_of_mem h)
      rw [ih hd.2 h, memberOf?_put_of_ne hne]

theorem member?_members? (name : String) (j : Json) :
    (obj (j.members?.getD [])).member? name = j.member? name := by
  cases j <;> rfl

/-- What a patch does not name stays. -/
theorem member?_merge_of_not_mem (h : name ∉ changes.map (·.1)) :
    ((obj changes).merge old).member? name = old.member? name := by
  rw [merge, member?_obj, memberOf?_mergeMembers_of_not_mem h, ← member?_obj, member?_members?]

theorem present_bind_present (value : Json) : value.present.bind present = value.present := by
  cases value <;> rfl

theorem getD_bind_present (value? : Option Json) :
    (value?.bind present).getD null = value?.getD null := by
  rcases value? with _ | value
  · rfl
  · cases value <;> rfl

/-- What a patch names is patched. -/
theorem member?_merge_of_mem (hd : (changes.map (·.1)).Nodup) (h : (name, value) ∈ changes) :
    ((obj changes).merge old).member? name =
      (value.merge ((old.member? name).getD null)).present := by
  rw [merge, member?_obj, memberOf?_mergeMembers_of_mem hd h, ← member?_members? name old,
    member?_obj, getD_bind_present, present_bind_present]

/-- An object that a patch names is patched in its turn. -/
theorem member?_merge_of_obj_mem {inner : List (String × Json)} (hd : (changes.map (·.1)).Nodup)
    (h : (name, obj inner) ∈ changes) :
    ((obj changes).merge old).member? name =
      some ((obj inner).merge ((old.member? name).getD null)) := by
  rw [member?_merge_of_mem hd h]
  rfl

end BalancerSync.Json
