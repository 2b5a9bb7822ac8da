import BalancerSync.Selector.Parser
import BalancerSync.Proofs.Text.Trimming
import Mathlib.Data.List.Forall2

/-!
# The written requirements of a selector

A selector is cut into its requirements at the commas outside parentheses.  The texts between such
commas are nested: they open and close parentheses in pairs, and their own commas stand inside.  A
text has one reading as nested texts with commas in between, and cutting finds it.

That is why requirements can be looked at one by one afterwards, whatever stands around them.

## Main Definitions

* `Nested` — parentheses come in pairs, and commas only inside them

## Main Results

* `cutTerms_eq_ok_iff` — cutting finds the nested texts that commas divide, if there are such
* `parse_eq_ok_iff` — a text writes a selector exactly if it is blank or each of these texts,
  trimmed, writes a requirement
-/

namespace BalancerSync.Selector

open Text (Blank trim)

variable {d : Nat} {c : Char} {cs t w : List Char} {ts : List (List Char)}

/-- The number of open parentheses after a character. -/
def reached (depth : Nat) (c : Char) : Nat :=
  if c = '(' then depth + 1 else if c = ')' then depth - 1 else depth

/-- With this number of parentheses open before it, a text closes them and those that it opens
itself, and all its commas stand inside parentheses. -/
def Nested : (depth : Nat) → List Char → Prop
  | depth, [] => depth = 0
  | depth, c :: cs => (c = ',' ∨ c = ')' → 0 < depth) ∧ Nested (reached depth c) cs

instance decidableNested : (depth : Nat) → (cs : List Char) → Decidable (Nested depth cs)
  | depth, [] => inferInstanceAs (Decidable (depth = 0))
  | depth, c :: cs =>
    have := decidableNested (reached depth c) cs
    inferInstanceAs (Decidable ((c = ',' ∨ c = ')' → 0 < depth) ∧ Nested (reached depth c) cs))

/-! ### Characters without a role -/

/-- A text without parentheses and commas. -/
def Plain (cs : List Char) : Prop := ∀ c ∈ cs, c ≠ '(' ∧ c ≠ ')' ∧ c ≠ ','

/-- A character without a role opens and closes nothing. -/
theorem reached_of_plain (h : c ≠ '(' ∧ c ≠ ')' ∧ c ≠ ',') : reached d c = d := by
  rw [reached, if_neg h.1, if_neg h.2.1]

@[simp] theorem plain_nil : Plain [] := by simp [Plain]

@[simp] theorem plain_cons : Plain (c :: w) ↔ (c ≠ '(' ∧ c ≠ ')' ∧ c ≠ ',') ∧ Plain w :=
  List.forall_mem_cons

@[simp] theorem plain_append : Plain (w ++ t) ↔ Plain w ∧ Plain t :=
  List.forall_mem_append

theorem plain_of_blank (h : Blank w) : Plain w := by
  intro c hc
  refine ⟨?_, ?_, ?_⟩ <;> rintro rfl <;> exact absurd (h _ hc) (by decide)

/-- A text without parentheses changes nothing, if its commas are inside those around it. -/
theorem nested_append_iff (h : ∀ c ∈ w, c ≠ '(' ∧ c ≠ ')' ∧ (c = ',' → 0 < d)) :
    Nested d (w ++ t) ↔ Nested d t := by
  induction w with
  | nil => rfl
  | cons c w ih =>
    obtain ⟨hopen, hclose, hcomma⟩ := h c List.mem_cons_self
    have hreached : reached d c = d := by rw [reached, if_neg hopen, if_neg hclose]
    rw [List.cons_append, Nested, hreached, ih fun x hx => h x (List.mem_cons_of_mem _ hx)]
    exact and_iff_right fun hrole => hrole.elim hcomma fun hc => absurd hc hclose

/-- Characters without a role can be put in front of a text. -/
theorem nested_plain_append (h : Plain w) : Nested d (w ++ t) ↔ Nested d t :=
  nested_append_iff fun c hc => ⟨(h c hc).1, (h c hc).2.1, fun hcomma => absurd hcomma (h c hc).2.2⟩

theorem nested_append_plain (h : Plain w) : Nested d (t ++ w) ↔ Nested d t := by
  induction t generalizing d with
  | nil => rw [List.nil_append, ← List.append_nil w, nested_plain_append h]
  | cons c t ih => rw [List.cons_append, Nested, Nested, ih]

theorem nested_of_plain (h : Plain w) : Nested 0 w := by
  rw [← List.append_nil w, nested_plain_append h]
  rfl

/-- Trimming takes blanks off only, so it does not touch what is nested. -/
theorem nested_trim : Nested d (trim t) ↔ Nested d t := by
  obtain ⟨a, b, ha, hb, heq⟩ := Text.exists_trim t
  conv_rhs => rw [heq, nested_append_plain (plain_of_blank hb),
    nested_plain_append (plain_of_blank ha)]

/-- A list in parentheses is nested if there are no parentheses in it. -/
theorem nested_parentheses (h : ∀ c ∈ w, c ≠ '(' ∧ c ≠ ')') : Nested 0 ('(' :: (w ++ [')'])) := by
  refine ⟨by decide, ?_⟩
  rw [show reached 0 '(' = 1 from rfl,
    nested_append_iff fun c hc => ⟨(h c hc).1, (h c hc).2, fun _ => Nat.one_pos⟩]
  decide

/-- A nested text ends before a comma outside parentheses. -/
theorem not_nested_append_comma (h : Nested d t) : ¬ Nested d (t ++ ',' :: cs) := by
  induction t generalizing d with
  | nil =>
    obtain rfl : d = 0 := h
    exact fun hcomma => absurd (hcomma.1 (.inl rfl)) (by decide)
  | cons c t ih => exact fun hcomma => ih h.2 hcomma.2

/-! ### Cutting -/

/-- A list that is never empty cannot be mapped to an empty one. -/
theorem map_ne_ok_nil {f : List (List Char) → List (List Char)} (hf : ∀ ts, f ts ≠ [])
    (x : Except Problem (List (List Char))) : x.map f ≠ .ok [] := by
  cases x with
  | error e => simp [Except.map]
  | ok ts => simp [Except.map, hf ts]

/-- There is always a first text. -/
theorem cutTerms_ne_nil : cutTerms d cs ≠ .ok [] := by
  cases cs with
  | nil => cases d <;> simp [cutTerms]
  | cons c cs =>
    rw [cutTerms]
    split
    · exact map_ne_ok_nil (by simp) _
    · split
      · simp
      · exact map_ne_ok_nil (fun ts => by cases ts <;> simp) _

/-- A character that does not divide belongs to the first text. -/
theorem cutTerms_cons (h : c = ',' ∨ c = ')' → 0 < d) :
    cutTerms d (c :: cs) = (cutTerms (reached d c) cs).map (List.modifyHead (c :: ·)) := by
  have hcomma : ¬ (c = ',' ∧ d = 0) := fun hc => by have := h (.inl hc.1); omega
  have hclose : ¬ (c = ')' ∧ d = 0) := fun hc => by have := h (.inr hc.1); omega
  rw [cutTerms, if_neg hcomma, if_neg hclose]
  unfold reached
  dsimp only
  match hrest : cutTerms (if c = '(' then d + 1 else if c = ')' then d - 1 else d) cs with
  | .error e => rfl
  | .ok [] => exact absurd hrest cutTerms_ne_nil
  | .ok (t :: ts) => rfl

/-- A comma outside parentheses ends a text, even an empty one. -/
theorem cutTerms_comma : cutTerms 0 (',' :: cs) = (cutTerms 0 cs).map ([] :: ·) := by
  rw [cutTerms, if_pos ⟨rfl, rfl⟩]

/-- There is no comma to cut at in a nested text, so it stays whole. -/
theorem cutTerms_of_nested (h : Nested d t) : cutTerms d t = .ok [t] := by
  induction t generalizing d with
  | nil =>
    obtain rfl : d = 0 := h
    rfl
  | cons c t ih =>
    rw [cutTerms_cons h.1, ih h.2]
    rfl

/-- A nested text is cut off at the comma behind it. -/
theorem cutTerms_append (h : Nested d t) :
    cutTerms d (t ++ ',' :: cs) = (cutTerms 0 cs).map (t :: ·) := by
  induction t generalizing d with
  | nil =>
    obtain rfl : d = 0 := h
    exact cutTerms_comma
  | cons c t ih =>
    rw [List.cons_append, cutTerms_cons h.1, ih h.2]
    cases cutTerms 0 cs <;> rfl

/-- The first text that cutting finds is nested, and what follows it is behind a comma. -/
theorem exists_of_cutTerms (h : cutTerms d cs = .ok ts) : ∃ t rest, ts = t :: rest ∧ Nested d t ∧
    (cs = t ∧ rest = [] ∨ ∃ tail, cs = t ++ ',' :: tail ∧ cutTerms 0 tail = .ok rest) := by
  induction cs generalizing d ts with
  | nil =>
    cases d with
    | zero =>
      cases h
      exact ⟨[], [], rfl, rfl, .inl ⟨rfl, rfl⟩⟩
    | succ d => cases h
  | cons c cs ih =>
    -- The character belongs to the first text, unless it is a comma or a parenthesis outside of all
    -- others.
    by_cases hrole : c = ',' ∨ c = ')' → 0 < d
    · rw [cutTerms_cons hrole] at h
      match hrest : cutTerms (reached d c) cs with
      | .error e =>
        rw [hrest] at h
        cases h
      | .ok us =>
        rw [hrest] at h
        obtain ⟨t, rest, rfl, ht, htail⟩ := ih hrest
        cases h
        refine ⟨c :: t, rest, rfl, ⟨hrole, ht⟩, ?_⟩
        rcases htail with ⟨rfl, rfl⟩ | ⟨tail, rfl, hcut⟩
        · exact .inl ⟨rfl, rfl⟩
        · exact .inr ⟨tail, rfl, hcut⟩
    · -- A comma outside parentheses ends the first text; a parenthesis there is an error.
      obtain ⟨hc, hd⟩ := Classical.not_imp.1 hrole
      obtain rfl : d = 0 := by omega
      rcases hc with rfl | rfl
      · rw [cutTerms_comma] at h
        match hrest : cutTerms 0 cs with
        | .error e =>
          rw [hrest] at h
          cases h
        | .ok us =>
          rw [hrest] at h
          cases h
          exact ⟨[], us, rfl, rfl, .inr ⟨cs, rfl, hrest⟩⟩
      · simp [cutTerms] at h

/-- Cutting finds the nested texts that commas divide, if there are such. -/
theorem cutTerms_eq_ok_iff : cutTerms 0 cs = .ok ts ↔
    ts ≠ [] ∧ cs = [','].intercalate ts ∧ ∀ t ∈ ts, Nested 0 t := by
  induction ts generalizing cs with
  | nil => simp [cutTerms_ne_nil]
  | cons t rest ih =>
    constructor
    · intro h
      obtain ⟨t', rest', heq, ht, htail⟩ := exists_of_cutTerms h
      cases heq
      rcases htail with ⟨rfl, rfl⟩ | ⟨tail, rfl, hcut⟩
      · simpa using ht
      · obtain ⟨hne, rfl, hrest⟩ := ih.1 hcut
        refine ⟨by simp, ?_, by simpa using ⟨ht, hrest⟩⟩
        rw [List.intercalate_cons_of_ne_nil hne]
        simp
    · rintro ⟨-, rfl, hall⟩
      have ht := hall t List.mem_cons_self
      by_cases hne : rest = []
      · subst hne
        simpa using cutTerms_of_nested ht
      · rw [List.intercalate_cons_of_ne_nil hne, List.append_assoc, List.singleton_append,
          cutTerms_append ht, ih.2 ⟨hne, rfl, fun u hu => hall u (List.mem_cons_of_mem _ hu)⟩]
        rfl

/-! ### Blanks around a selector -/

/-- The texts, trimmed after `w` has been put back before the first. -/
def trimBehind (w : List Char) : List (List Char) → List (List Char)
  | [] => []
  | t :: ts => trim (w ++ t) :: ts.map trim

/-- Trimming the pieces is trimming them behind nothing.  In this form an induction can carry along
the characters that it has already passed. -/
theorem terms_eq_map (cs : List Char) : terms cs = (cutTerms 0 cs).map (trimBehind []) := by
  have h : trimBehind [] = List.map trim := by
    funext ts
    cases ts <;> rfl
  rw [terms, h]

/-- A character that belongs to the first piece can be put back before it is trimmed. -/
theorem map_trimBehind_modifyHead (x : Except Problem (List (List Char))) :
    (x.map (List.modifyHead (c :: ·))).map (trimBehind w) = x.map (trimBehind (w ++ [c])) := by
  match x with
  | .error e => rfl
  | .ok [] => rfl
  | .ok (t :: ts) => simp [Except.map, trimBehind]

/-- At a comma what was put back is trimmed by itself. -/
theorem map_trimBehind_nil_cons (x : Except Problem (List (List Char))) :
    (x.map ([] :: ·)).map (trimBehind w) = (x.map (List.map trim)).map (trim w :: ·) := by
  cases x with
  | error e => rfl
  | ok ts => simp [Except.map, trimBehind]

/-- A parenthesis that is open stays open. -/
theorem cutTerms_succ_of_plain (h : Plain w) : cutTerms (d + 1) w = .error .unbalancedOpen := by
  induction w with
  | nil => rfl
  | cons c w ih =>
    rw [cutTerms_cons (by omega), reached_of_plain (h c List.mem_cons_self),
      ih fun x hx => h x (List.mem_cons_of_mem _ hx)]
    rfl

/-- Blanks behind a selector go to its last requirement.  The induction is on the selector, and `w`
is what has been taken off the first requirement by then: trimming has to wait until that is
complete. -/
theorem cutTerms_append_blank {b : List Char} (hb : Blank b) (w : List Char) :
    (cutTerms d (cs ++ b)).map (trimBehind w) = (cutTerms d cs).map (trimBehind w) := by
  induction cs generalizing d w with
  | nil =>
    have hplain := plain_of_blank hb
    rw [List.nil_append]
    cases d with
    | zero =>
      rw [cutTerms_of_nested (nested_of_plain hplain)]
      simp [cutTerms, Except.map, trimBehind, Text.trim_append_blank hb]
    | succ d => rw [cutTerms_succ_of_plain hplain, cutTerms]
  | cons c cs ih =>
    by_cases hrole : c = ',' ∨ c = ')' → 0 < d
    · rw [List.cons_append, cutTerms_cons hrole, cutTerms_cons hrole, map_trimBehind_modifyHead,
        map_trimBehind_modifyHead, ih]
    · obtain ⟨hc, hd⟩ := Classical.not_imp.1 hrole
      obtain rfl : d = 0 := by omega
      rcases hc with rfl | rfl
      · -- The first requirement is complete, and the blanks go to what is cut from the rest.
        have hrest : terms (cs ++ b) = terms cs := by
          rw [terms_eq_map, terms_eq_map, ih]
        rw [List.cons_append, cutTerms_comma, cutTerms_comma, map_trimBehind_nil_cons,
          map_trimBehind_nil_cons]
        exact congrArg (Except.map (trim w :: ·)) hrest
      · simp [cutTerms]

/-- Blanks before a selector go to its first requirement. -/
theorem terms_blank_append (h : Blank w) : terms (w ++ cs) = terms cs := by
  induction w with
  | nil => rfl
  | cons c w ih =>
    rw [Text.blank_cons] at h
    have hblank : Blank [c] := by simp [h.1]
    have hc := plain_of_blank hblank c List.mem_cons_self
    rw [← ih h.2]
    unfold terms
    rw [List.cons_append, cutTerms_cons (fun hrole => absurd hrole (by simp [hc])),
      reached_of_plain hc]
    match cutTerms 0 (w ++ cs) with
    | .error e => rfl
    | .ok [] => rfl
    | .ok (t :: ts) =>
      have htrim : trim (c :: t) = trim t := Text.trim_blank_append hblank t
      simp [Except.map, htrim]

/-- Blanks around a selector belong to its first and its last requirement, which are trimmed
anyway. -/
theorem terms_trim : terms (trim cs) = terms cs := by
  obtain ⟨a, b, ha, hb, heq⟩ := Text.exists_trim cs
  calc terms (trim cs) = terms (trim cs ++ b) := by
        rw [terms_eq_map, terms_eq_map, cutTerms_append_blank hb]
    _ = terms (a ++ trim cs ++ b) := by rw [List.append_assoc, terms_blank_append ha]
    _ = terms cs := by rw [← heq]

/-! ### Reading -/

theorem map_eq_ok {α β ε : Type} {f : α → β} {x : Except ε α} {b : β} :
    x.map f = .ok b ↔ ∃ a, x = .ok a ∧ f a = b := by
  cases x <;> simp [Except.map]

/-- Reading a list one by one gives results exactly if every item has one. -/
theorem mapM_eq_ok_iff {α β ε : Type} {f : α → Except ε β} {xs : List α} {ys : List β} :
    xs.mapM f = .ok ys ↔ List.Forall₂ (fun x y => f x = .ok y) xs ys := by
  induction xs generalizing ys with
  | nil =>
    rw [List.mapM_nil]
    constructor
    · rintro ⟨⟩
      exact .nil
    · rintro ⟨⟩
      rfl
  | cons x xs ih =>
    rw [List.mapM_cons]
    constructor
    · intro h
      match hx : f x, hxs : xs.mapM f with
      | .error e, _ =>
        rw [hx] at h
        cases h
      | .ok y, .error e =>
        rw [hx, hxs] at h
        cases h
      | .ok y, .ok zs =>
        rw [hx, hxs] at h
        cases h
        exact .cons hx (ih.1 hxs)
    · rintro (_ | ⟨hy, hys⟩)
      rw [hy, ih.2 hys]
      rfl

theorem exists_of_mem_of_forall₂ {α β : Type} {R : α → β → Prop} {xs : List α} {ys : List β} {y : β}
    (h : List.Forall₂ R xs ys) (hy : y ∈ ys) : ∃ x ∈ xs, R x y := by
  induction h with
  | nil => cases hy
  | @cons x z xs ys hxz _ ih =>
    rcases List.mem_cons.1 hy with rfl | hy
    · exact ⟨x, List.mem_cons_self, hxz⟩
    · obtain ⟨w, hw, hR⟩ := ih hy
      exact ⟨w, List.mem_cons_of_mem _ hw, hR⟩

/-- A text that is not empty is read as a selector if each of its pieces is read as a
requirement. -/
theorem parseChars_eq_ok_iff {sel : Selector} (hne : cs ≠ []) : parseChars cs = .ok sel ↔
    ∃ ts, terms cs = .ok ts ∧
      List.Forall₂ (fun t r => parseTerm t = .ok r) ts sel.requirements := by
  rw [parseChars, if_neg (by simpa using hne)]
  simp only [← mapM_eq_ok_iff]
  match hts : terms cs with
  | .error e => simp [bind, Except.bind]
  | .ok ts =>
    match hrs : ts.mapM parseTerm with
    | .error e => simp [bind, Except.bind, hrs]
    | .ok rs =>
      obtain ⟨requirements⟩ := sel
      simp [bind, Except.bind, hrs, pure, Except.pure]

/-- A selector is trimmed before it is read, and nothing else is done to it. -/
theorem parse_eq_ok {s : String} {sel : Selector} :
    parse s = .ok sel ↔ parseChars (trim s.toList) = .ok sel := by
  rw [parse, Text.trimmed, String.toList_ofList]
  cases parseChars (trim s.toList) <;> simp

/-- Blanks around a selector do not matter. -/
theorem parse_congr {s t : String} (h : trim s.toList = trim t.toList) : parse s = parse t := by
  unfold parse Text.trimmed
  rw [h]

/-- A text writes a selector exactly if it is blank or each of the nested texts that its commas
divide writes, trimmed, a requirement. -/
theorem parse_eq_ok_iff {s : String} {sel : Selector} : parse s = .ok sel ↔
    Blank s.toList ∧ sel = all ∨ ∃ ts, ts ≠ [] ∧ s.toList = [','].intercalate ts ∧
      (∀ t ∈ ts, Nested 0 t) ∧
      List.Forall₂ (fun t r => parseTerm (trim t) = .ok r) ts sel.requirements := by
  rw [parse_eq_ok]
  by_cases hblank : Blank s.toList
  · rw [Text.trim_eq_nil_iff.2 hblank]
    constructor
    · intro h
      cases h
      exact .inl ⟨hblank, rfl⟩
    · rintro (⟨-, rfl⟩ | ⟨ts, hne, heq, hnested, hread⟩)
      · rfl
      · -- The only text between commas would be the blank one, and it writes no requirement.
        have hcut := cutTerms_eq_ok_iff.2 ⟨hne, heq, hnested⟩
        rw [cutTerms_of_nested (nested_of_plain (plain_of_blank hblank))] at hcut
        cases hcut
        rw [List.forall₂_cons_left_iff] at hread
        obtain ⟨r, -, hr, -⟩ := hread
        rw [Text.trim_eq_nil_iff.2 hblank] at hr
        cases hr
  · rw [parseChars_eq_ok_iff (by simpa using hblank), terms_trim, or_iff_right fun h => hblank h.1]
    constructor
    · rintro ⟨us, hus, hread⟩
      obtain ⟨ts, hcut, rfl⟩ := map_eq_ok.1 hus
      obtain ⟨hne, heq, hnested⟩ := cutTerms_eq_ok_iff.1 hcut
      exact ⟨ts, hne, heq, hnested, List.forall₂_map_left_iff.1 hread⟩
    · rintro ⟨ts, hne, heq, hnested, hread⟩
      exact ⟨ts.map trim, map_eq_ok.2 ⟨ts, cutTerms_eq_ok_iff.2 ⟨hne, heq, hnested⟩, rfl⟩,
        List.forall₂_map_left_iff.2 hread⟩

end BalancerSync.Selector
