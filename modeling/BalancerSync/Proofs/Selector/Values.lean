import BalancerSync.Selector.Parser
import BalancerSync.Proofs.Text.Trimming
import Mathlib.Data.List.Perm.Subperm
import Mathlib.Data.String.Basic

/-!
# Sets of values

A set of values is kept in ascending order without repetitions, so there is one list for each set.
In a selector it stands in parentheses, and there its members can come in any order, more than once
and with empty items between them.

## Main Results

* `valueSet_eq_iff` — the list that stands for a set
* `parseValues_eq_ok_iff` — what stands for a set is a list in parentheses
* `valueSet_listItems` — which lists are written for a set
-/

namespace BalancerSync.Selector

open Text (Blank Padded IsItem listItems trim)

variable {v w : String} {vs ws : List String} {cs : List Char}

/-! ### One list for each set -/

/-- A value takes its place in the order, or is there already. -/
theorem pairwise_insertValue (h : vs.Pairwise (· < ·)) : (insertValue v vs).Pairwise (· < ·) := by
  induction vs with
  | nil => simp [insertValue]
  | cons w vs ih =>
    obtain ⟨hw, hvs⟩ := List.pairwise_cons.1 h
    rw [insertValue]
    split
    · rename_i hlt
      exact List.pairwise_cons.2 ⟨List.forall_mem_cons.2 ⟨hlt, fun x hx => hlt.trans (hw x hx)⟩, h⟩
    · split
      · exact h
      · rename_i hge hne
        refine List.pairwise_cons.2 ⟨fun x hx => ?_, ih hvs⟩
        rcases mem_insertValue.1 hx with rfl | hx
        · exact lt_of_le_of_ne (not_lt.1 hge) (Ne.symm hne)
        · exact hw x hx

/-- So do several, one after the other. -/
theorem pairwise_foldl_insertValue (h : vs.Pairwise (· < ·)) :
    (ws.foldl (fun set v => insertValue v set) vs).Pairwise (· < ·) := by
  induction ws generalizing vs with
  | nil => exact h
  | cons w ws ih => exact ih (pairwise_insertValue h)

/-- None of them is lost, and nothing else comes in. -/
theorem mem_foldl_insertValue :
    v ∈ ws.foldl (fun set v => insertValue v set) vs ↔ v ∈ ws ∨ v ∈ vs := by
  induction ws generalizing vs with
  | nil => simp
  | cons w ws ih =>
    rw [List.foldl_cons, ih, mem_insertValue, List.mem_cons]
    tauto

/-- The values of a set are in strictly ascending order, so none is there twice. -/
theorem pairwise_valueSet (vs : List String) : (valueSet vs).Pairwise (· < ·) :=
  pairwise_foldl_insertValue .nil

@[simp] theorem mem_valueSet : v ∈ valueSet vs ↔ v ∈ vs := by
  simp [valueSet, mem_foldl_insertValue]

/-- A set is its members in ascending order. -/
theorem valueSet_eq_iff : valueSet vs = ws ↔ ws.Pairwise (· < ·) ∧ ∀ v, v ∈ ws ↔ v ∈ vs := by
  constructor
  · rintro rfl
    exact ⟨pairwise_valueSet vs, fun v => mem_valueSet⟩
  · rintro ⟨hws, hmem⟩
    have hperm : (valueSet vs).Perm ws := by
      refine (List.perm_ext_iff_of_nodup ?_ ?_).2 fun v => by rw [mem_valueSet, hmem]
      · exact (pairwise_valueSet vs).imp ne_of_lt
      · exact hws.imp ne_of_lt
    exact hperm.eq_of_pairwise (fun a b _ _ hab hba => absurd hab hba.asymm)
      (pairwise_valueSet vs) hws

/-- Values that are in order already make up their own set. -/
theorem valueSet_of_pairwise (h : vs.Pairwise (· < ·)) : valueSet vs = vs :=
  valueSet_eq_iff.2 ⟨h, fun _ => Iff.rfl⟩

/-- Some values can be lost as duplicates, but no others come in. -/
theorem length_valueSet_le (vs : List String) : (valueSet vs).length ≤ vs.length := by
  have hnodup : (valueSet vs).Nodup := (pairwise_valueSet vs).imp ne_of_lt
  exact (List.Nodup.subperm hnodup fun v hv => mem_valueSet.1 hv).length_le

/-! ### Sets in parentheses -/

/-- Whatever stands before a last parenthesis is found, be there parentheses in it or not. -/
theorem beforeClose?_eq_some_iff {inner : List Char} :
    beforeClose? cs = some inner ↔ cs = inner ++ [')'] := by
  rw [← List.reverse_inj, List.reverse_append, List.reverse_singleton, List.singleton_append,
    beforeClose?]
  constructor
  · intro h
    split at h
    · rename_i hcs
      cases h
      rw [hcs, List.reverse_reverse]
    · cases h
  · intro h
    rw [h]
    simp

/-- Between parentheses all blanks count as part of the text. -/
theorem trim_parentheses (body : List Char) :
    trim ('(' :: (body ++ [')'])) = '(' :: (body ++ [')']) := by
  rw [Text.trim_eq_self_iff, ← List.cons_append, List.getLast?_concat]
  constructor <;> rintro c ⟨⟩ <;> decide

/-- What stands for a set is a list in parentheses. -/
theorem parseValues_eq_ok_iff : parseValues cs = .ok vs ↔ ∃ body,
    Padded ('(' :: (body ++ [')'])) cs ∧ vs = valueSet (listItems (String.ofList body)) := by
  simp only [Text.padded_iff (trim_parentheses _)]
  unfold parseValues
  split
  · rename_i rest hcs
    simp only [hcs, List.cons.injEq, true_and, ← beforeClose?_eq_some_iff]
    cases beforeClose? rest <;> simp [eq_comm]
  · rename_i hcs
    constructor
    · rintro ⟨⟩
    · rintro ⟨body, hbody, -⟩
      exact absurd hbody (hcs _)

/-- A list is written for a set if its items are the members, in any order and as often as one
likes, with blanks around them, and empty ones. -/
structure Listed (values : List String) (items : List (List Char)) : Prop where
  ne_nil : items ≠ []
  member_or_blank : ∀ item ∈ items, (∃ v ∈ values, Padded v.toList item) ∨ Blank item
  complete : ∀ v ∈ values, ∃ item ∈ items, Padded v.toList item

/-- However a list of values is written, with blanks, gaps and repetitions, the same set is read
from it. -/
theorem valueSet_listItems {values : List String} {items : List (List Char)}
    (h : Listed values items) (hvalues : ∀ v ∈ values, IsItem v) :
    valueSet (listItems (String.ofList ([','].intercalate items))) = valueSet values := by
  have hcomma : ∀ item ∈ items, ',' ∉ item := by
    intro item hitem
    rcases h.member_or_blank item hitem with ⟨v, hv, hpadded⟩ | hblank
    · rw [hpadded.mem_iff (by decide)]
      exact (hvalues v hv).comma_not_mem
    · exact hblank.not_mem (by decide)
  rw [valueSet_eq_iff]
  refine ⟨pairwise_valueSet _, fun v => ?_⟩
  rw [mem_valueSet, Text.mem_listItems, String.toList_ofList,
    Text.pieces_eq_splitOn, List.splitOn_intercalate _ hcomma h.ne_nil]
  have hvalue : ∀ v ∈ values, trim v.toList = v.toList ∧ v.toList ≠ [] := fun v hv =>
    Text.tight_iff.1 (hvalues v hv).tight
  constructor
  · intro hv
    obtain ⟨item, hitem, hpadded⟩ := h.complete v hv
    obtain ⟨htrim, hne⟩ := hvalue v hv
    exact ⟨String.toList_eq_nil_iff.ne.1 hne, item, hitem, hpadded.trim_eq.trans htrim⟩
  · rintro ⟨hne, item, hitem, heq⟩
    rcases h.member_or_blank item hitem with ⟨w, hw, hpadded⟩ | hblank
    · rw [hpadded.trim_eq, (hvalue w hw).1, String.toList_inj] at heq
      exact heq ▸ hw
    · rw [Text.trim_eq_nil_iff.2 hblank, eq_comm, String.toList_eq_nil_iff] at heq
      exact absurd heq hne

/-- The members of a set, with commas between them, are one of its lists. -/
theorem valueSet_listItems_intercalate (h : ∀ v ∈ vs, IsItem v) :
    valueSet (listItems (String.ofList ([','].intercalate (vs.map String.toList)))) =
      valueSet vs := by
  by_cases hnil : vs = []
  · subst hnil
    rfl
  · refine valueSet_listItems ⟨by simpa using hnil, fun item hitem => ?_, fun v hv => ?_⟩ h
    · obtain ⟨v, hv, rfl⟩ := List.mem_map.1 hitem
      exact .inl ⟨v, hv, .refl _⟩
    · exact ⟨v.toList, List.mem_map_of_mem hv, .refl _⟩

end BalancerSync.Selector
