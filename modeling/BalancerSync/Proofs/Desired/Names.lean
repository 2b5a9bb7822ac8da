import BalancerSync.Desired.Balancer
import Mathlib.Data.List.DropRight

/-!
# Acceptable names

A name that is made up is acceptable to the cloud whatever it is made from.  The hyphens at the end
go after the text has been cut, so a cut cannot bring back what was trimmed; and no step touches a
text that is acceptable already.  So the acceptable texts are exactly those that stay as they are,
and a name can be sanitized again without becoming another one.

## Main Definitions

* `IsName` — the texts that are acceptable as names
* `fullName` — what the name of a Service is made from

## Main Results

* `isName_tidied` — the steps after lower-casing make a name of any text
* `sanitize_eq_self_iff` — the names are the texts that stay as they are
* `names_stable` — names that are made up are acceptable and stable

## Design Notes

Lower-casing is the one step that looks beyond ASCII and that can make a text longer.
`isName_tidied` assumes nothing about it, and `sanitize_eq_self_iff` only that it leaves the
characters of names alone (`lowercase_of_isNameChar`).
-/

namespace BalancerSync.Desired

variable {c : Char} {cs : List Char}

/-- The texts that are acceptable as names: lower-case ASCII letters, digits and hyphens, at most 63
of them, and no hyphen at the end. -/
structure IsName (s : String) : Prop where
  chars : ∀ c ∈ s.toList, 'a' ≤ c ∧ c ≤ 'z' ∨ '0' ≤ c ∧ c ≤ '9' ∨ c = '-'
  length_le : s.length ≤ 63
  last : s.toList.getLast? ≠ some '-'

/-! ### Characters -/

theorem isNameChar_iff :
    isNameChar c = true ↔ 'a' ≤ c ∧ c ≤ 'z' ∨ '0' ≤ c ∧ c ≤ '9' ∨ c = '-' := by
  have hlower : c.isLower = (decide ('a' ≤ c) && decide (c ≤ 'z')) := rfl
  have hdigit : c.isDigit = (decide ('0' ≤ c) && decide (c ≤ '9')) := rfl
  simp only [isNameChar, hlower, hdigit, Bool.or_eq_true, Bool.and_eq_true, decide_eq_true_eq,
    beq_iff_eq, or_assoc]

theorem isNameChar_nameChar (c : Char) : isNameChar (nameChar c) = true := by
  rw [nameChar]
  split
  · assumption
  · rfl

theorem nameChar_of_isNameChar (h : isNameChar c = true) : nameChar c = c := if_pos h

/-- The codes of the characters of names. -/
theorem toNat_of_isNameChar (h : isNameChar c = true) :
    97 ≤ c.toNat ∧ c.toNat ≤ 122 ∨ 48 ≤ c.toNat ∧ c.toNat ≤ 57 ∨ c.toNat = 45 := by
  rcases isNameChar_iff.1 h with ⟨hlow, hhigh⟩ | ⟨hlow, hhigh⟩ | rfl
  · exact .inl ⟨hlow, hhigh⟩
  · exact .inr (.inl ⟨hlow, hhigh⟩)
  · exact .inr (.inr rfl)

/-- Lower-casing leaves the characters of names alone. -/
theorem lowercase_of_isNameChar (h : isNameChar c = true) : lowercase c = [c] := by
  have hcode := toNat_of_isNameChar h
  -- Two characters beyond ASCII are lower-cased in a way of their own.
  have hdotted : c ≠ '\u0130' := by
    rintro rfl
    revert hcode
    decide
  have hkelvin : c ≠ '\u212a' := by
    rintro rfl
    revert hcode
    decide
  have hlower : c.toLower = c := by
    refine dif_neg fun ⟨hlow, hhigh⟩ => ?_
    change 65 ≤ c.toNat at hlow
    change c.toNat ≤ 90 at hhigh
    omega
  rw [lowercase, if_neg hdotted, if_neg hkelvin, hlower]

/-! ### Hyphens at the end -/

/-- What is left of a text is its beginning. -/
theorem dropHyphens_isPrefix (cs : List Char) : dropHyphens cs <+: cs :=
  List.rdropWhile_prefix _ cs

theorem getLast?_dropHyphens_ne (cs : List Char) : (dropHyphens cs).getLast? ≠ some '-' := by
  intro h
  have hne : dropHyphens cs ≠ [] := by
    rintro hnil
    rw [hnil] at h
    cases h
  have hlast := List.rdropWhile_last_not (· == '-') cs hne
  rw [List.getLast?_eq_some_getLast hne, Option.some.injEq] at h
  exact hlast (beq_iff_eq.2 h)

theorem dropHyphens_eq_self (h : cs.getLast? ≠ some '-') : dropHyphens cs = cs := by
  refine List.rdropWhile_eq_self_iff.2 fun hne hhyphen => h ?_
  rw [List.getLast?_eq_some_getLast hne, beq_iff_eq.1 hhyphen]

/-! ### Sanitizing -/

/-- Whatever a text is lower-cased to, the other steps make a name of it. -/
theorem isName_tidied (cs : List Char) :
    IsName (String.ofList (dropHyphens ((cs.map nameChar).take maxNameLength))) := by
  refine ⟨fun c hc => ?_, ?_, ?_⟩
  · rw [String.toList_ofList] at hc
    obtain ⟨d, -, rfl⟩ := List.mem_map.1 (List.mem_of_mem_take ((dropHyphens_isPrefix _).subset hc))
    exact isNameChar_iff.1 (isNameChar_nameChar d)
  · rw [String.length_ofList]
    exact (dropHyphens_isPrefix _).length_le.trans (List.length_take_le _ _)
  · rw [String.toList_ofList]
    exact getLast?_dropHyphens_ne _

theorem isName_sanitize (s : String) : IsName (sanitize s) := isName_tidied _

/-- No step changes a name. -/
theorem sanitize_of_isName {s : String} (h : IsName s) : sanitize s = s := by
  have hchars : ∀ c ∈ s.toList, isNameChar c = true := fun c hc => isNameChar_iff.2 (h.chars c hc)
  have hlowercase : s.toList.flatMap lowercase = s.toList := by
    rw [List.flatMap_congr fun c hc => lowercase_of_isNameChar (hchars c hc)]
    exact List.flatMap_singleton' _
  have hnameChars : s.toList.map nameChar = s.toList :=
    (List.map_congr_left fun c hc => nameChar_of_isNameChar (hchars c hc)).trans (List.map_id' _)
  have hcut : s.toList.take maxNameLength = s.toList :=
    List.take_of_length_le (String.length_toList.trans_le h.length_le)
  rw [sanitize, sanitizeChars, hlowercase, hnameChars, hcut, dropHyphens_eq_self h.last,
    String.ofList_toList]

/-- The names are the texts that stay as they are. -/
theorem sanitize_eq_self_iff {s : String} : sanitize s = s ↔ IsName s :=
  ⟨fun h => h ▸ isName_sanitize s, sanitize_of_isName⟩

/-! ### Names of Services -/

/-- The prefix, the namespace and the name of a Service, joined with hyphens. -/
def fullName (service : Cluster.Service) : Option String → String
  | some namePrefix => namePrefix ++ "-" ++ service.anyNamespace ++ "-" ++ service.anyName
  | none => service.anyNamespace ++ "-" ++ service.anyName

theorem defaultName_eq (service : Cluster.Service) (namePrefix : Option String) :
    defaultName service namePrefix = sanitize (fullName service namePrefix) := by
  cases namePrefix <;> rfl

/-- Whatever it is made from, a name that is made up is acceptable, and sanitizing it again changes
nothing.  So does the name that is made up for a Service, which is its full name exactly if that is
acceptable. -/
theorem names_stable :
    (∀ s, IsName (sanitize s) ∧ sanitize (sanitize s) = sanitize s) ∧
    ∀ service namePrefix,
      sanitize (defaultName service namePrefix) = defaultName service namePrefix ∧
      (defaultName service namePrefix = fullName service namePrefix ↔
        IsName (fullName service namePrefix)) := by
  have hstable : ∀ s, sanitize (sanitize s) = sanitize s := fun s =>
    sanitize_of_isName (isName_sanitize s)
  refine ⟨fun s => ⟨isName_sanitize s, hstable s⟩, fun service namePrefix => ?_⟩
  rw [defaultName_eq]
  exact ⟨hstable _, sanitize_eq_self_iff⟩

end BalancerSync.Desired
