import BalancerSync.Proofs.Selector.Terms
import BalancerSync.Proofs.Selector.Values

/-!
# The grammar of a requirement

A requirement is read by looking for its operator, and one operator can stand inside another or
inside a value.  So the order matters in which they are looked for, and `Written` says for each of
them what may not stand around it.  A key never gets in the way: it has no blanks, and none of the
characters of the other operators.

## Main Definitions

* `IsKey` — the texts that can be keys
* `Operator` — the operators that are words
* `Requirement.Written` — the texts that write a requirement

## Main Results

* `parseTerm_eq_ok_iff` — these are the texts from which it is read
-/

namespace BalancerSync.Selector

open Text (Blank Padded listItems trim)

variable {key : String} {cs t gap left right values : List Char} {r : Requirement}

/-! ### Keys -/

/-- A key is not empty, and it is made of ASCII letters, digits and `-_./`. -/
def IsKey (key : String) : Prop := key ≠ "" ∧ ∀ c ∈ key.toList, isKeyChar c = true

instance (key : String) : Decidable (IsKey key) :=
  have := List.decidableBAll (isKeyChar · = true) key.toList
  inferInstanceAs (Decidable (key ≠ "" ∧ ∀ c ∈ key.toList, isKeyChar c = true))

/-- A text is read as a key exactly if it is one, and then as itself. -/
theorem parseKey_eq_ok_iff : parseKey cs = .ok key ↔ cs = key.toList ∧ IsKey key := by
  have hcs : cs = key.toList ↔ String.ofList cs = key := by
    rw [← String.toList_inj, String.toList_ofList]
  rw [hcs, parseKey]
  constructor
  · intro h
    split at h
    · rename_i hvalid
      cases h
      exact ⟨rfl, by simpa [IsKey] using hvalid⟩
    · cases h
  · rintro ⟨rfl, hkey⟩
    rw [if_pos (by simpa [IsKey] using hkey)]

/-- The characters around the operators are in no key. -/
theorem IsKey.not_mem (h : IsKey key) {c : Char} (hc : isKeyChar c = false) : c ∉ key.toList := by
  intro hmem
  rw [h.2 c hmem] at hc
  cases hc

/-- The characters of keys can be seen. -/
theorem toNat_of_isKeyChar {c : Char} (h : isKeyChar c = true) :
    0x20 < c.toNat ∧ c.toNat < 0x7F := by
  simp only [isKeyChar, Bool.or_eq_true, beq_iff_eq] at h
  rcases h with (((halphanum | rfl) | rfl) | rfl) | rfl
  · have hrange : (decide (c.val ≥ 65 ∧ c.val ≤ 90) || (c.val ≥ 97 && c.val ≤ 122) ||
        (c.val ≥ 48 && c.val ≤ 57)) = true := halphanum
    simp only [Bool.or_eq_true, Bool.and_eq_true, decide_eq_true_eq, ge_iff_le,
      UInt32.le_iff_toNat_le] at hrange
    change ((65 ≤ c.toNat ∧ c.toNat ≤ 90) ∨ 97 ≤ c.toNat ∧ c.toNat ≤ 122) ∨
      48 ≤ c.toNat ∧ c.toNat ≤ 57 at hrange
    omega
  all_goals decide

/-- No character of a key is blank, so a blank after a key ends it. -/
theorem isBlank_of_isKeyChar {c : Char} (h : isKeyChar c = true) : Text.isBlank c = false := by
  obtain ⟨hlow, hhigh⟩ := toNat_of_isKeyChar h
  rw [Bool.eq_false_iff]
  intro hblank
  simp only [Text.isBlank, Bool.or_eq_true, Bool.and_eq_true, decide_eq_true_eq,
    beq_iff_eq] at hblank
  omega

/-- The same of a whole key, in the form in which a text is searched for its first blank. -/
theorem IsKey.not_isBlank (h : IsKey key) : ∀ c ∈ key.toList, (!Text.isBlank c) = true := by
  intro c hc
  rw [isBlank_of_isKeyChar (h.2 c hc)]
  rfl

theorem IsKey.tight (h : IsKey key) : Text.Tight key.toList :=
  Text.tight_of_not_isBlank (String.toList_eq_nil_iff.ne.2 h.1) fun c hc =>
    isBlank_of_isKeyChar (h.2 c hc)

theorem IsKey.trim_toList (h : IsKey key) : trim key.toList = key.toList :=
  (Text.tight_iff.1 h.tight).1

/-- A character that can be seen and is in no key is not in a padded key either. -/
theorem not_mem_of_padded (h : IsKey key) (hleft : Padded key.toList left) {c : Char}
    (hc : isKeyChar c = false) (hblank : Text.isBlank c = false) : c ∉ left := by
  rw [hleft.mem_iff hblank]
  exact h.not_mem hc

/-- There are no parentheses and no commas in a key. -/
theorem IsKey.plain (h : IsKey key) : Plain key.toList := by
  intro c hc
  refine ⟨?_, ?_, ?_⟩ <;> rintro rfl <;> exact h.not_mem (by decide) hc

/-- Nor are there any in a key with blanks around it. -/
theorem plain_of_padded (h : IsKey key) (hleft : Padded key.toList left) : Plain left := by
  obtain ⟨a, b, ha, hb, rfl⟩ := hleft
  simp [plain_of_blank ha, plain_of_blank hb, h.plain]

/-- A key and an operator are left as they are. -/
theorem trim_operator (hkey : IsKey key) {op : List Char} (hop : Text.Tight op)
    (a right : List Char) : trim (key.toList ++ (a ++ (op ++ right))) =
      key.toList ++ a ++ (op ++ Text.trimEnd right) := by
  have h := (hkey.tight.append hop a).trim_append right
  simpa only [List.append_assoc] using h

/-- A text that begins like a key: it is not empty, and it does not begin with `!`. -/
def Headed (t : List Char) : Prop := ∃ c rest, t = c :: rest ∧ c ≠ '!'

/-- A text that begins with a key, perhaps behind blanks, does not begin with `!`, which would make
it ask for a missing key. -/
theorem headed_append (h : IsKey key) (hleft : Padded key.toList left) (cs : List Char) :
    Headed (left ++ cs) := by
  cases left with
  | nil =>
    obtain ⟨a, b, -, -, heq⟩ := hleft
    simp only [List.append_assoc, List.nil_eq, List.append_eq_nil_iff,
      String.toList_eq_nil_iff] at heq
    exact absurd heq.2.1 h.1
  | cons c rest =>
    refine ⟨c, rest ++ cs, rfl, ?_⟩
    rintro rfl
    exact not_mem_of_padded h hleft (by decide) (by decide) List.mem_cons_self

/-! ### The texts that write a requirement -/

/-- The operators that are words. -/
inductive Operator : List Char → (String → List String → Requirement) → Prop
  | isIn : Operator ['i', 'n'] .isIn
  | isNotIn : Operator ['n', 'o', 't', 'i', 'n'] .isNotIn

namespace Operator

variable {word : List Char} {make : String → List String → Requirement}

theorem plain (hop : Operator word make) : Plain word := by cases hop <;> simp

theorem tight (hop : Operator word make) : Text.Tight word := by
  cases hop <;> decide

/-- There is no `=` in a requirement with a word, unless it is in the values; otherwise it would be
read for that `=` first. -/
theorem equals_not_mem (hop : Operator word make) {body : List Char} (hkey : IsKey key)
    (hgap : Blank gap) (hvalues : Padded ('(' :: (body ++ [')'])) values) (hbody : '=' ∉ body) :
    '=' ∉ key.toList ++ (gap ++ (word ++ values)) := by
  have hblank : Text.isBlank '=' = false := by decide
  have hword : '=' ∉ word := by cases hop <;> decide
  have hvalues : '=' ∉ values := by simpa [hvalues.mem_iff hblank] using hbody
  simp [hkey.not_mem (c := '=') (by decide), hgap.not_mem hblank, hword, hvalues]

end Operator

/-- A text writes a requirement.  What is read first from a text is the first `!=`; only without it,
the first `==`, and only without both, the first `=`.  A word is looked for in a text without any
`=`. -/
inductive Requirement.Written : Requirement → List Char → Prop
  | missing {key : String} {cs : List Char} :
      IsKey key → Padded key.toList cs → Written (.missing key) ('!' :: cs)
  | notEquals {key : String} {left right : List Char} :
      IsKey key → Padded key.toList left →
      Written (.notEquals key (String.ofList (trim right))) (left ++ (['!', '='] ++ right))
  | equalsTwice {key : String} {left right : List Char} :
      IsKey key → Padded key.toList left → ¬ ['!', '='] <:+: right →
      Written (.equals key (String.ofList (trim right))) (left ++ (['=', '='] ++ right))
  | equalsOnce {key : String} {left right : List Char} :
      IsKey key → Padded key.toList left → ¬ ['!', '='] <:+: right →
      ¬ ['=', '='] <:+: '=' :: right →
      Written (.equals key (String.ofList (trim right))) (left ++ (['='] ++ right))
  | present {key : String} : IsKey key → Written (.exists key) key.toList
  | membership {r : Requirement} {key : String} {word gap body values : List Char}
      {make : String → List String → Requirement} :
      Operator word make → IsKey key → gap ≠ [] → Blank gap →
      Padded ('(' :: (body ++ [')'])) values → '=' ∉ body →
      r = make key (valueSet (listItems (String.ofList body))) →
      Written r (key.toList ++ (gap ++ (word ++ values)))

/-! ### Reading words -/

/-- A membership is read if its key and its values are, each by itself. -/
theorem parseMembership_eq_ok_iff {make : String → List String → Requirement} :
    parseMembership make cs values = .ok r ↔
      ∃ key vs, parseKey cs = .ok key ∧ parseValues values = .ok vs ∧ make key vs = r := by
  unfold parseMembership
  cases parseKey cs <;> cases parseValues values <;> simp [bind, Except.bind, pure, Except.pure]

/-- A key is what stands before the first blank. -/
theorem span_key (h : IsKey key) (hne : gap ≠ []) (hgap : Blank gap) (rest : List Char) :
    (key.toList ++ (gap ++ rest)).takeWhile (!Text.isBlank ·) = key.toList ∧
      (key.toList ++ (gap ++ rest)).dropWhile (!Text.isBlank ·) = gap ++ rest := by
  obtain ⟨c, gap, rfl⟩ := List.exists_cons_of_ne_nil hne
  rw [Text.blank_cons] at hgap
  rw [List.takeWhile_append_of_pos h.not_isBlank, List.dropWhile_append_of_pos h.not_isBlank]
  simp [hgap.1]

/-- A key without anything behind it asks that the key be there. -/
theorem parseWords_key (h : IsKey key) : parseWords key.toList = .ok (.exists key) := by
  rw [parseWords, List.dropWhile_eq_nil_iff.2 h.not_isBlank,
    List.takeWhile_eq_self_iff.2 h.not_isBlank]
  exact map_eq_ok.2 ⟨key, parseKey_eq_ok_iff.2 ⟨rfl, h⟩, rfl⟩

/-- A key with blanks and a word behind it asks for membership.  At least one blank is needed, since
the word would belong to the key without it. -/
theorem parseWords_operator {word : List Char} {make : String → List String → Requirement}
    (hop : Operator word make) (h : IsKey key) (hne : gap ≠ []) (hgap : Blank gap)
    (values : List Char) :
    parseWords (key.toList ++ (gap ++ (word ++ values))) =
      parseMembership make key.toList values := by
  have hspan := span_key h hne hgap (word ++ values)
  obtain ⟨c, gap, rfl⟩ := List.exists_cons_of_ne_nil hne
  rw [Text.blank_cons] at hgap
  have hrest : Text.trimStart (gap ++ (word ++ values)) = word ++ values := by
    rw [Text.trimStart_append hgap.2]
    cases hop <;> rfl
  unfold parseWords
  rw [hspan.1, hspan.2]
  simp only [List.cons_append, hrest]
  cases hop <;> rfl

/-- Without an `=` these two kinds of requirements are all that is read. -/
theorem parseWords_eq_ok_iff : parseWords t = .ok r ↔
    (∃ key, IsKey key ∧ t = key.toList ∧ r = .exists key) ∨
    ∃ word make key gap values vs, Operator word make ∧ IsKey key ∧ gap ≠ [] ∧ Blank gap ∧
      t = key.toList ++ (gap ++ (word ++ values)) ∧ parseValues values = .ok vs ∧
      r = make key vs := by
  constructor
  · intro h
    have ht : t.takeWhile (!Text.isBlank ·) ++ t.dropWhile (!Text.isBlank ·) = t :=
      List.takeWhile_append_dropWhile
    unfold parseWords at h
    split at h
    · rename_i hdrop
      obtain ⟨key, hkey, rfl⟩ := map_eq_ok.1 h
      obtain ⟨hkey, hIsKey⟩ := parseKey_eq_ok_iff.1 hkey
      rw [hdrop, List.append_nil, hkey] at ht
      exact .inl ⟨key, hIsKey, ht.symm, rfl⟩
    · rename_i c rest hdrop
      have hc : Text.isBlank c = true := by
        simpa [hdrop] using List.head?_dropWhile_not (!Text.isBlank ·) t
      -- Behind the gap one of the two words has to stand; both lead on in the same way.
      have hword : ∃ word make values, Operator word make ∧ Text.trimStart rest = word ++ values ∧
          parseMembership make (t.takeWhile (!Text.isBlank ·)) values = .ok r := by
        dsimp only at h
        split at h
        · rename_i values hafter
          exact ⟨_, _, values, .isNotIn, Text.after?_eq_some_iff.1 hafter, h⟩
        · split at h
          · rename_i values hafter
            exact ⟨_, _, values, .isIn, Text.after?_eq_some_iff.1 hafter, h⟩
          · cases h
      obtain ⟨word, make, values, hop, hrest, h⟩ := hword
      obtain ⟨key, vs, hkey, hvs, rfl⟩ := parseMembership_eq_ok_iff.1 h
      obtain ⟨hkey, hIsKey⟩ := parseKey_eq_ok_iff.1 hkey
      refine .inr ⟨word, make, key, c :: rest.takeWhile Text.isBlank, values, vs, hop, hIsKey,
        List.cons_ne_nil _ _, ?_, ?_, hvs, rfl⟩
      · exact Text.blank_cons.2 ⟨hc, fun x hx => List.mem_takeWhile_imp hx⟩
      · rw [← ht, hdrop, hkey, ← hrest, List.cons_append, Text.trimStart,
          List.takeWhile_append_dropWhile]
  · rintro (⟨key, hkey, rfl, rfl⟩ |
      ⟨word, make, key, gap, values, vs, hop, hkey, hne, hgap, rfl, hvs, rfl⟩)
    · exact parseWords_key hkey
    · rw [parseWords_operator hop hkey hne hgap]
      exact parseMembership_eq_ok_iff.2 ⟨key, vs, parseKey_eq_ok_iff.2 ⟨rfl, hkey⟩, hvs, rfl⟩

/-! ### Looking for the operator -/

/-- A requirement with two sides is read if the left one is a padded key.  The right one can be
anything. -/
theorem parsePair_eq_ok_iff {make : String → String → Requirement} :
    parsePair make left right = .ok r ↔
      ∃ key, IsKey key ∧ Padded key.toList left ∧ make key (String.ofList (trim right)) = r := by
  rw [parsePair, map_eq_ok]
  constructor
  · rintro ⟨key, hkey, hr⟩
    obtain ⟨heq, hIsKey⟩ := parseKey_eq_ok_iff.1 hkey
    exact ⟨key, hIsKey, (Text.padded_iff hIsKey.trim_toList).2 heq, hr⟩
  · rintro ⟨key, hIsKey, hpadded, hr⟩
    exact ⟨key, parseKey_eq_ok_iff.2 ⟨(Text.padded_iff hIsKey.trim_toList).1 hpadded, hIsKey⟩, hr⟩

/-- The first `!=` decides, whatever other operators there are. -/
theorem parseTerm_of_notEquals (ht : Headed t) (h : Text.cutAt ['!', '='] t = some (left, right)) :
    parseTerm t = parsePair .notEquals left right := by
  obtain ⟨c, rest, rfl, hc⟩ := ht
  simp [parseTerm, hc, h]

/-- Without a `!=` the first `==` decides, and only without that the first `=`. -/
theorem parseTerm_of_equals (ht : Headed t) (hne : Text.cutAt ['!', '='] t = none)
    (h : (Text.cutAt ['=', '='] t).or (Text.cutAt ['='] t) = some (left, right)) :
    parseTerm t = parsePair .equals left right := by
  obtain ⟨c, rest, rfl, hc⟩ := ht
  simp [parseTerm, hc, hne, h]

/-- Without an `=` none of these is there. -/
theorem parseTerm_of_words (ht : Headed t) (h : '=' ∉ t) : parseTerm t = parseWords t := by
  obtain ⟨c, rest, rfl, hc⟩ := ht
  have hcut {sep : List Char} (hsep : '=' ∈ sep) := Text.cutAt_of_not_mem hsep h
  simp [parseTerm, hc, hcut]

/-- A `!=` does not begin in a key, nor in another operator. -/
theorem cutAt_notEquals_eq_none {op : List Char} (hkey : IsKey key) (hleft : Padded key.toList left)
    (hop : '!' ∉ op) (hright : ¬ ['!', '='] <:+: right) :
    Text.cutAt ['!', '='] (left ++ (op ++ right)) = none := by
  have hbang : '!' ∉ left := not_mem_of_padded hkey hleft (by decide) (by decide)
  rw [Text.cutAt_eq_none_iff, Text.infix_append_iff hbang, Text.infix_append_iff hop]
  exact hright

/-- What writes a requirement is read as this requirement: what may not stand around its operator
keeps the others from being found before it. -/
theorem parseTerm_of_written (h : r.Written t) : parseTerm t = .ok r := by
  cases h with
  | @missing key cs hkey hcs =>
    refine map_eq_ok.2 ⟨key, parseKey_eq_ok_iff.2 ⟨?_, hkey⟩, rfl⟩
    exact (Text.padded_iff hkey.trim_toList).1 hcs
  | @notEquals key left right hkey hleft =>
    rw [parseTerm_of_notEquals (headed_append hkey hleft _)
      (Text.cutAt_append (not_mem_of_padded hkey hleft (by decide) (by decide)) right)]
    exact parsePair_eq_ok_iff.2 ⟨key, hkey, hleft, rfl⟩
  | @equalsTwice key left right hkey hleft hright =>
    have hequals : '=' ∉ left := not_mem_of_padded hkey hleft (by decide) (by decide)
    rw [parseTerm_of_equals (headed_append hkey hleft _)
      (cutAt_notEquals_eq_none hkey hleft (by decide) hright)
      (by rw [Text.cutAt_append hequals, Option.some_or])]
    exact parsePair_eq_ok_iff.2 ⟨key, hkey, hleft, rfl⟩
  | @equalsOnce key left right hkey hleft hright htwice =>
    have hequals : '=' ∉ left := not_mem_of_padded hkey hleft (by decide) (by decide)
    -- The second `=` could stand behind the operator, so the operator is part of the condition.
    have htwice : Text.cutAt ['=', '='] (left ++ (['='] ++ right)) = none := by
      rw [Text.cutAt_eq_none_iff, Text.infix_append_iff hequals]
      exact htwice
    rw [parseTerm_of_equals (headed_append hkey hleft _)
      (cutAt_notEquals_eq_none hkey hleft (by decide) hright)
      (by rw [htwice, Option.none_or, Text.cutAt_append hequals])]
    exact parsePair_eq_ok_iff.2 ⟨key, hkey, hleft, rfl⟩
  | @present key hkey =>
    have ht := headed_append hkey (.refl _) []
    rw [List.append_nil] at ht
    rw [parseTerm_of_words ht (hkey.not_mem (by decide))]
    exact parseWords_key hkey
  | @membership _ key word gap body values make hop hkey hne hgap hvalues hbody hr =>
    rw [parseTerm_of_words (headed_append hkey (.refl _) _), parseWords_eq_ok_iff]
    · exact .inr ⟨word, make, key, gap, values, _, hop, hkey, hne, hgap, rfl,
        parseValues_eq_ok_iff.2 ⟨body, hvalues, rfl⟩, hr⟩
    · exact hop.equals_not_mem hkey hgap hvalues hbody

/-- What is read for an `==` or `=` has no `!=` in it, and that is what writing it asks for. -/
theorem written_of_equals (hne : Text.cutAt ['!', '='] t = none)
    (heq : (Text.cutAt ['=', '='] t).or (Text.cutAt ['='] t) = some (left, right))
    (h : parsePair .equals left right = .ok r) : r.Written t := by
  obtain ⟨key, hkey, hleft, rfl⟩ := parsePair_eq_ok_iff.1 h
  rw [Text.cutAt_eq_none_iff] at hne
  rcases Option.or_eq_some_iff.1 heq with hcut | ⟨htwice, hcut⟩
  · rw [Text.append_of_cutAt hcut] at hne ⊢
    rw [List.append_assoc]
    exact .equalsTwice hkey hleft fun hpart => hne (hpart.trans List.infix_append_right)
  · rw [Text.cutAt_eq_none_iff] at htwice
    rw [Text.append_of_cutAt hcut] at hne htwice ⊢
    rw [List.append_assoc]
    refine .equalsOnce hkey hleft ?_ ?_
    · exact fun hpart => hne (hpart.trans (List.suffix_append _ _).isInfix)
    · exact fun hpart => htwice (hpart.trans ⟨left, [], by simp⟩)

/-- What is read for a word or for a key alone has no `=` in it at all. -/
theorem written_of_words (hequals : '=' ∉ t) (h : parseWords t = .ok r) : r.Written t := by
  rcases parseWords_eq_ok_iff.1 h with ⟨key, hkey, rfl, rfl⟩ |
    ⟨word, make, key, gap, values, vs, hop, hkey, hne, hgap, rfl, hvs, rfl⟩
  · exact .present hkey
  · obtain ⟨body, hvalues, rfl⟩ := parseValues_eq_ok_iff.1 hvs
    refine .membership hop hkey hne hgap hvalues (fun hbody => hequals ?_) rfl
    simp [hvalues.mem_iff (c := '=') (by decide), hbody]

/-- Whatever is read from a text, the text writes it.  The cases are the order in which operators
are looked for. -/
theorem written_of_parseTerm (h : parseTerm t = .ok r) : r.Written t := by
  by_cases ht : Headed t
  · -- The operators are looked for in this order, and each is found only without those before it.
    match hne : Text.cutAt ['!', '='] t with
    | some (left, right) =>
      rw [parseTerm_of_notEquals ht hne] at h
      obtain ⟨key, hkey, hleft, rfl⟩ := parsePair_eq_ok_iff.1 h
      rw [Text.append_of_cutAt hne, List.append_assoc]
      exact .notEquals hkey hleft
    | none =>
      match heq : (Text.cutAt ['=', '='] t).or (Text.cutAt ['='] t) with
      | some (left, right) =>
        rw [parseTerm_of_equals ht hne heq] at h
        exact written_of_equals hne heq h
      | none =>
        have hequals : '=' ∉ t := Text.not_mem_of_cutAt_eq_none (Option.or_eq_none_iff.1 heq).2
        rw [parseTerm_of_words ht hequals] at h
        exact written_of_words hequals h
  · match t with
    | [] => cases h
    | c :: cs =>
      obtain rfl : c = '!' := by
        by_contra hc
        exact ht ⟨c, cs, rfl, hc⟩
      obtain ⟨key, hkey, rfl⟩ := map_eq_ok.1 h
      obtain ⟨heq, hIsKey⟩ := parseKey_eq_ok_iff.1 hkey
      exact .missing hIsKey ((Text.padded_iff hIsKey.trim_toList).2 heq)

/-- A requirement is read from the texts that write it, and from no others. -/
theorem parseTerm_eq_ok_iff : parseTerm t = .ok r ↔ r.Written t :=
  ⟨written_of_parseTerm, parseTerm_of_written⟩

end BalancerSync.Selector
