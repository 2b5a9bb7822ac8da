import BalancerSync.Text.Numeral
import Mathlib.Algebra.Ring.Int.Defs

/-!
# The language of whole numbers

A written whole number is a run of digits, which may have a sign before it.  Leading zeros change
nothing, so a number has many written forms; a form is worth one number.

## Main Definitions

* `IsDigits` — a run of digits
* `Writes` — the texts that write a whole number, with the number that they write

## Main Results

* `integer?_eq_some_iff` — reading accepts the language, between its bounds
* `int64?_eq_some_iff` — the same for signed numbers of 64 bits
* `natural?_eq_some_iff` — the same for numbers that must not have a minus sign
* `Writes.unique` — a written form is worth one number
-/

namespace BalancerSync.Text

/-- A run of ASCII digits. -/
def IsDigits (cs : List Char) : Prop := cs ≠ [] ∧ ∀ c ∈ cs, c.isDigit = true

/-- The text is digits, perhaps with a sign before them, that write this number. -/
inductive Writes : List Char → Int → Prop where
  | plain {cs : List Char} (h : IsDigits cs) : Writes cs (Nat.ofDigitChars 10 cs 0)
  | plus {cs : List Char} (h : IsDigits cs) : Writes ('+' :: cs) (Nat.ofDigitChars 10 cs 0)
  | minus {cs : List Char} (h : IsDigits cs) : Writes ('-' :: cs) (-Nat.ofDigitChars 10 cs 0)

/-- Runs of digits are read as the numbers they write, and nothing else is read. -/
theorem digits?_eq_some_iff {cs : List Char} {n : Nat} :
    digits? cs = some n ↔ IsDigits cs ∧ Nat.ofDigitChars 10 cs 0 = n := by
  have hvalue : cs.foldl pushDigit 0 = Nat.ofDigitChars 10 cs 0 := by
    unfold Nat.ofDigitChars
    congr 1
    funext n c
    rw [pushDigit, Nat.mul_comm]
  have hdigits : (cs.isEmpty || !cs.all Char.isDigit) = true ↔ ¬ IsDigits cs := by
    rw [IsDigits, Bool.or_eq_true, List.isEmpty_iff, Bool.not_eq_true', ← Bool.not_eq_true,
      List.all_eq_true, ne_eq, not_and_or, not_not]
  unfold digits?
  by_cases h : IsDigits cs
  · rw [if_neg (by rw [hdigits]; exact not_not_intro h), Option.some.injEq, hvalue,
      and_iff_right h]
  · rw [if_pos (hdigits.2 h)]
    exact iff_of_false nofun fun h' => h h'.1

/-- A run of digits begins with no sign. -/
theorem IsDigits.ne_cons {cs rest : List Char} {c : Char} (h : IsDigits cs)
    (hc : c.isDigit = false) : cs ≠ c :: rest := by
  rintro rfl
  have := h.2 c List.mem_cons_self
  rw [hc] at this
  cases this

/-- The same with a sign put in front of the value. -/
theorem map_digits?_eq_some_iff {cs : List Char} {f : Nat → Int} {n : Int} :
    (digits? cs).map f = some n ↔ IsDigits cs ∧ f (Nat.ofDigitChars 10 cs 0) = n := by
  simp only [Option.map_eq_some_iff, digits?_eq_some_iff, and_assoc, exists_and_left,
    exists_eq_left']

/-- The numbers that are read are those that are written, between the bounds. -/
theorem integer?_eq_some_iff {lo hi n : Int} {s : String} :
    integer? lo hi s = some n ↔ Writes s.toList n ∧ lo ≤ n ∧ n ≤ hi := by
  unfold integer?
  rw [Option.filter_eq_some_iff, Bool.and_eq_true, decide_eq_true_iff, decide_eq_true_iff]
  refine and_congr_left fun _ => ?_
  generalize s.toList = text
  -- What the text begins with decides how it was written.
  split <;> rw [map_digits?_eq_some_iff]
  · constructor
    · rintro ⟨h, rfl⟩
      exact .plus h
    · intro h
      cases h with
      | plain h => exact absurd rfl (h.ne_cons rfl)
      | plus h => exact ⟨h, rfl⟩
  · constructor
    · rintro ⟨h, rfl⟩
      exact .minus h
    · intro h
      cases h with
      | plain h => exact absurd rfl (h.ne_cons rfl)
      | minus h => exact ⟨h, rfl⟩
  · rename_i hplus hminus
    constructor
    · rintro ⟨h, rfl⟩
      exact .plain h
    · intro h
      cases h with
      | plain h => exact ⟨h, rfl⟩
      | plus h => exact absurd rfl (hplus _)
      | minus h => exact absurd rfl (hminus _)

/-- The numbers of 64 bits that are read are those that are written, from the least to the
largest. -/
theorem int64?_eq_some_iff {n : Int} {s : String} :
    int64? s = some n ↔ Writes s.toList n ∧ -2 ^ 63 ≤ n ∧ n < 2 ^ 63 := by
  rw [int64?, integer?_eq_some_iff, int64Min, int64Max]
  refine and_congr_right fun _ => ?_
  omega

/-- A number without a sign, or with a plus, is read if it is not too large.  Even zero may not have
a minus. -/
theorem natural?_eq_some_iff {max n : Nat} {s : String} :
    natural? max s = some n ↔ (Writes s.toList n ∧ s.toList.head? ≠ some '-') ∧ n ≤ max := by
  unfold natural?
  rw [Option.filter_eq_some_iff, decide_eq_true_iff]
  refine and_congr_left fun _ => ?_
  generalize s.toList = text
  rw [digits?_eq_some_iff]
  split
  · constructor
    · rintro ⟨h, rfl⟩
      exact ⟨.plus h, by simp⟩
    · rintro ⟨h, -⟩
      generalize hk : (n : Int) = k at h
      cases h with
      | plain h => exact absurd rfl (h.ne_cons rfl)
      | plus h => exact ⟨h, (Int.ofNat_inj.1 hk).symm⟩
  · rename_i hplus
    constructor
    · rintro ⟨h, rfl⟩
      refine ⟨.plain h, fun hminus => ?_⟩
      obtain ⟨rest, hrest⟩ := List.head?_eq_some_iff.1 hminus
      exact h.ne_cons rfl hrest
    · rintro ⟨h, hminus⟩
      generalize hk : (n : Int) = k at h
      cases h with
      | plain h => exact ⟨h, (Int.ofNat_inj.1 hk).symm⟩
      | plus h => exact absurd rfl (hplus _)
      | minus h => exact absurd rfl hminus

/-- A written form is worth one number. -/
theorem Writes.unique {cs : List Char} {m n : Int} (hm : Writes cs m) (hn : Writes cs n) :
    m = n := by
  have hread : ∀ {k : Int}, Writes cs k → min m n ≤ k → k ≤ max m n →
      integer? (min m n) (max m n) (String.ofList cs) = some k := fun h hlo hhi =>
    integer?_eq_some_iff.2 ⟨by rwa [String.toList_ofList], hlo, hhi⟩
  have hsame := (hread hm (by omega) (by omega)).symm.trans (hread hn (by omega) (by omega))
  exact Option.some.inj hsame

end BalancerSync.Text
