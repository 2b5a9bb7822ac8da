import BalancerSync.Text.Lines
import Mathlib.Data.List.Infix

/-!
# Cutting

Settings, selectors and durations are read by cutting texts at separators.  Where a cut falls is
settled by the first occurrence of the separator, so what stands before it must be free of the
separator's first character.

## Main Results

* `cutAt_eq_none_iff`, `cutAt_append` — when there is nothing to cut at, and where the first cut
  falls
* `pieces_eq_splitOn` — cutting at every occurrence is splitting
-/

namespace BalancerSync.Text

variable {sep start front rest left right cs : List Char} {s c : Char}

/-! ### The first cut -/

/-- A text goes on after its beginning in one way only. -/
theorem after?_eq_some_iff : after? start cs = some rest ↔ cs = start ++ rest := by
  induction start generalizing cs with
  | nil => simp [after?]
  | cons s ss ih =>
    cases cs with
    | nil => simp [after?]
    | cons c cs =>
      by_cases h : s = c
      · subst h
        simp [after?, ih]
      · simp [after?, h, Ne.symm h]

theorem after?_append (start rest : List Char) : after? start (start ++ rest) = some rest :=
  after?_eq_some_iff.2 rfl

/-- Nothing is found behind a beginning that the text does not have. -/
theorem after?_eq_none_iff : after? start cs = none ↔ ¬ start <+: cs := by
  rw [Option.eq_none_iff_forall_ne_some]
  constructor
  · rintro h ⟨rest, rfl⟩
    exact h rest (after?_append start rest)
  · intro h rest hrest
    exact h ⟨rest, (after?_eq_some_iff.1 hrest).symm⟩

/-- A text cannot be cut exactly if the separator does not occur in it. -/
theorem cutAt_eq_none_iff : cutAt sep cs = none ↔ ¬ sep <:+: cs := by
  induction cs with
  | nil => simp [cutAt, after?_eq_none_iff]
  | cons c cs ih =>
    rw [List.infix_cons_iff, not_or, ← ih, ← after?_eq_none_iff, cutAt]
    cases after? sep (c :: cs) with
    | none => simp
    | some rest => simp

/-- The parts of a cut, with the separator between them, are the text. -/
theorem append_of_cutAt (h : cutAt sep cs = some (left, right)) : cs = left ++ sep ++ right := by
  induction cs generalizing left with
  | nil =>
    obtain ⟨rest, hrest, heq⟩ := Option.map_eq_some_iff.1 h
    cases heq
    simpa using after?_eq_some_iff.1 hrest
  | cons c cs ih =>
    rw [cutAt] at h
    split at h
    · rename_i rest hrest
      cases h
      simpa using after?_eq_some_iff.1 hrest
    · obtain ⟨⟨l, r⟩, hcut, heq⟩ := Option.map_eq_some_iff.1 h
      cases heq
      simp [ih hcut]

/-- The first cut falls behind a text without the first character of the separator. -/
theorem cutAt_append (h : s ∉ front) (rest : List Char) :
    cutAt (s :: sep) (front ++ (s :: sep ++ rest)) = some (front, rest) := by
  induction front with
  | nil => simp [cutAt, after?, after?_append]
  | cons c cs ih =>
    rw [List.mem_cons, not_or] at h
    rw [List.cons_append, cutAt, List.cons_append, after?, if_neg h.1, ← List.cons_append, ih h.2]
    rfl

/-- A separator that occurs behind a text without its first character occurs in the rest. -/
theorem infix_append_iff (h : s ∉ front) : s :: sep <:+: front ++ cs ↔ s :: sep <:+: cs := by
  induction front with
  | nil => rfl
  | cons c front ih =>
    rw [List.mem_cons, not_or] at h
    rw [List.cons_append, List.infix_cons_iff, ih h.2, List.cons_prefix_cons]
    simp [h.1]

/-- A separator does not occur in a text without one of its characters. -/
theorem cutAt_of_not_mem (hs : s ∈ sep) (h : s ∉ cs) : cutAt sep cs = none := by
  rw [cutAt_eq_none_iff]
  intro hsep
  exact h (hsep.subset hs)

/-- For a separator of one character the converse holds: where it cuts nothing, the character is
missing. -/
theorem not_mem_of_cutAt_eq_none (h : cutAt [s] cs = none) : s ∉ cs := by
  intro hmem
  obtain ⟨front, rest, rfl⟩ := List.append_of_mem hmem
  exact cutAt_eq_none_iff.1 h ⟨front, rest, by simp⟩

/-- A separator that is not in the first part of a text is in the rest. -/
theorem exists_of_append_eq_append_cons (h : left ++ right = front ++ s :: rest) (hs : s ∉ left) :
    ∃ mid, front = left ++ mid ∧ right = mid ++ s :: rest := by
  rcases List.append_eq_append_iff.1 h with ⟨mid, hfront, hright⟩ | ⟨mid, hleft, hrest⟩
  · exact ⟨mid, hfront, hright⟩
  · cases mid with
    | nil => exact ⟨[], by simpa using hleft.symm, hrest.symm⟩
    | cons c mid =>
      obtain ⟨rfl, -⟩ := List.cons.inj hrest
      simp [hleft] at hs

/-- A separator that is not in the last part of a text is before it. -/
theorem exists_of_append_cons_eq_append (h : front ++ s :: rest = left ++ right) (hs : s ∉ right) :
    ∃ mid, left = front ++ s :: mid ∧ rest = mid ++ right := by
  rcases List.append_eq_append_iff.1 h with ⟨mid, hleft, hrest⟩ | ⟨mid, -, hright⟩
  · cases mid with
    | nil =>
      rw [List.nil_append] at hrest
      simp [← hrest] at hs
    | cons c mid =>
      obtain ⟨rfl, heq⟩ := List.cons.inj hrest
      exact ⟨mid, hleft, heq⟩
  · simp [hright] at hs

/-! ### All cuts -/

/-- Cutting at every occurrence is splitting. -/
theorem pieces_eq_splitOn (s : Char) (cs : List Char) : pieces s cs = cs.splitOn s := by
  induction cs with
  | nil => rfl
  | cons c cs ih =>
    rw [pieces, ih, List.splitOn_cons_eq_if_modifyHead]
    by_cases h : c = s
    · simp [h]
    · rw [if_neg h, if_neg (by simpa using h)]
      cases hrest : cs.splitOn s with
      | nil => exact absurd hrest (List.splitOn_ne_nil _ _)
      | cons p ps => rfl

/-- Texts with separators between them, if one more separator is put before them. -/
theorem cons_intercalate {ps : List (List Char)} (hne : ps ≠ []) :
    s :: [s].intercalate ps = ps.flatMap (s :: ·) := by
  induction ps with
  | nil => exact absurd rfl hne
  | cons p ps ih =>
    by_cases hnil : ps = []
    · simp [hnil]
    · rw [List.flatMap_cons, ← ih hnil, List.intercalate_cons_of_ne_nil hnil, List.append_assoc,
        List.singleton_append, List.cons_append]

/-- The characters of a row of pieces are those of the pieces, and the separator. -/
theorem of_mem_intercalate {ps : List (List Char)} (h : c ∈ [s].intercalate ps) :
    c = s ∨ ∃ p ∈ ps, c ∈ p := by
  by_cases hnil : ps = []
  · subst hnil
    cases h
  · have hmem := List.mem_cons_of_mem s h
    rw [cons_intercalate hnil, List.mem_flatMap] at hmem
    obtain ⟨p, hp, hmem⟩ := hmem
    exact (List.mem_cons.1 hmem).imp_right fun hmem => ⟨p, hp, hmem⟩

/-- Every separator makes one piece more. -/
theorem length_pieces (s : Char) (cs : List Char) : (pieces s cs).length = cs.count s + 1 := by
  induction cs with
  | nil => rfl
  | cons c cs ih =>
    rw [pieces]
    by_cases h : c = s
    · simp [h, ih]
    · rw [if_neg h, List.count_cons_of_ne h]
      cases hrest : pieces s cs with
      | nil => exact absurd hrest (pieces_ne_nil s cs)
      | cons p ps => rw [← ih, hrest]; rfl

/-- A piece is made of other characters of the text. -/
theorem of_mem_pieces {p : List Char} (h : p ∈ pieces s cs) : s ∉ p ∧ ∀ c ∈ p, c ∈ cs := by
  induction cs generalizing p with
  | nil => simp_all
  | cons c cs ih =>
    rw [pieces] at h
    by_cases hc : c = s
    · rw [if_pos hc, List.mem_cons] at h
      rcases h with rfl | h
      · simp
      · exact ⟨(ih h).1, fun x hx => List.mem_cons_of_mem _ ((ih h).2 x hx)⟩
    · rw [if_neg hc] at h
      cases hrest : pieces s cs with
      | nil => exact absurd hrest (pieces_ne_nil s cs)
      | cons q qs =>
        rw [hrest, List.mem_cons] at h
        rcases h with rfl | h
        · have hq := ih (hrest ▸ List.mem_cons_self)
          simp only [List.mem_cons, not_or, forall_eq_or_imp, true_or, true_and]
          exact ⟨⟨Ne.symm hc, hq.1⟩, fun x hx => .inr (hq.2 x hx)⟩
        · have hp := ih (hrest ▸ List.mem_cons_of_mem _ h)
          exact ⟨hp.1, fun x hx => List.mem_cons_of_mem _ (hp.2 x hx)⟩

end BalancerSync.Text
