import BalancerSync.Proofs.Selector.Grammar
import BalancerSync.Selector.Basic

/-!
# Writing a selector that was read

What was read can be written down in the canonical form, and the canonical form can be read again.
Mostly that gives the same selector.  But values are any text, and the canonical form writes them as
they are, with one `=` and in ascending order.  Behind `==` a value can begin with `=` or have
another `==` in it, and then the operator of the canonical form is found in another place.  The
members of a set can have parentheses that come in pairs only in the order in which they were
written.

That these are the only ways to lose something rests on where a requirement ends.  The canonical
form of a selector is cut at commas, and a cut can fall elsewhere only inside the values of a
set.  But there a piece of the canonical form has too few members, and a longer text has one that is
too great.

## Main Definitions

* `Requirement.Legal` — what is true of every requirement that was read
* `Requirement.Recoverable` — its canonical form does not look like something else

## Main Results

* `eq_text_of_written` — what is read as a requirement ends where its canonical form ends
* `parse_text_iff` — a selector that was read is read again from its canonical form exactly if all
  its requirements are recoverable
* `equals_not_recovered` — one that is not
-/

namespace BalancerSync.Selector

open Text (Blank Padded Tight IsItem listItems trim trimEnd)

variable {key value : String} {values : List String} {word cs t left right : List Char}
  {make : String → List String → Requirement} {r : Requirement}

/-! ### What reading leaves -/

/-- What is true of every requirement that was read: a value has no blanks at its ends, its commas
are inside parentheses, and there is no operator in it that would have been found first. -/
def Requirement.Legal : Requirement → Prop
  | equals key value => IsKey key ∧ trim value.toList = value.toList ∧ Nested 0 value.toList ∧
      ¬ ['!', '='] <:+: value.toList
  | notEquals key value => IsKey key ∧ trim value.toList = value.toList ∧ Nested 0 value.toList
  | isIn key values | isNotIn key values =>
      IsKey key ∧ values.Pairwise (· < ·) ∧ ∀ v ∈ values, IsItem v ∧ '=' ∉ v.toList
  | .exists key | missing key => IsKey key

/-- What is true of a set that was read, for both kinds of sets at once.  Its values are sorted, and
there is no `=` in them, for that would have been found before the operator. -/
theorem Operator.legal_iff (hop : Operator word make) : (make key values).Legal ↔
    IsKey key ∧ values.Pairwise (· < ·) ∧ ∀ v ∈ values, IsItem v ∧ '=' ∉ v.toList := by
  cases hop <;> rfl

/-- What stands behind an operator is trimmed, and no `!=` comes into it by that. -/
theorem legal_value (h : Nested 0 right) (hbang : ¬ ['!', '='] <:+: right) :
    trim (String.ofList (trim right)).toList = (String.ofList (trim right)).toList ∧
      Nested 0 (String.ofList (trim right)).toList ∧
      ¬ ['!', '='] <:+: (String.ofList (trim right)).toList := by
  rw [String.toList_ofList, nested_trim, Text.trim_trim]
  exact ⟨rfl, h, fun hpart => hbang (hpart.trans (Text.infix_trim right))⟩

/-- A requirement has all of this if it stands in a text with its parentheses in pairs.  The pieces
of a selector are such texts. -/
theorem legal_of_written (h : r.Written t) (ht : Nested 0 t) : r.Legal := by
  have hright {key : String} {left op right : List Char} (hkey : IsKey key)
      (hleft : Padded key.toList left) (hop : Plain op) (ht : Nested 0 (left ++ (op ++ right))) :
      Nested 0 right := by
    rwa [nested_plain_append (plain_of_padded hkey hleft), nested_plain_append hop] at ht
  cases h with
  | missing hkey _ => exact hkey
  | notEquals hkey hleft =>
    have hnested := hright hkey hleft (by simp) ht
    exact ⟨hkey, by simp, by simpa [nested_trim] using hnested⟩
  | equalsTwice hkey hleft hbang =>
    exact ⟨hkey, legal_value (hright hkey hleft (by simp) ht) hbang⟩
  | equalsOnce hkey hleft hbang _ =>
    exact ⟨hkey, legal_value (hright hkey hleft (by simp) ht) hbang⟩
  | present hkey => exact hkey
  | @membership _ key word gap body values make hop hkey hne hgap hvalues hbody hr =>
    rw [hr, hop.legal_iff]
    refine ⟨hkey, pairwise_valueSet _, fun v hv => ?_⟩
    rw [mem_valueSet] at hv
    refine ⟨Text.isItem_of_mem_listItems hv, fun hequals => hbody ?_⟩
    simpa using Text.mem_of_mem_listItems hv hequals

/-- What was read from any text is legal. -/
theorem legal_of_parse {s : String} {sel : Selector} (h : parse s = .ok sel) :
    ∀ r ∈ sel.requirements, r.Legal := by
  rcases parse_eq_ok_iff.1 h with ⟨-, rfl⟩ | ⟨ts, -, -, hnested, hread⟩
  · simp [all]
  · intro r hr
    obtain ⟨t, ht, hr⟩ := exists_of_mem_of_forall₂ hread hr
    exact legal_of_written (parseTerm_eq_ok_iff.1 hr) (nested_trim.2 (hnested t ht))

/-! ### The canonical form -/

/-- The canonical form of a requirement does not look like something else: there is no `==` in it
that would be found first, and its parentheses come in pairs. -/
def Requirement.Recoverable : Requirement → Prop
  | equals _ value => ¬ ['=', '='] <:+: '=' :: value.toList
  | isIn _ values | isNotIn _ values => Nested 0 (valuesText values).toList
  | _ => True

/-- A set can be read again if its values, as they are written, have their parentheses in pairs. -/
theorem Operator.recoverable_iff (hop : Operator word make) :
    (make key values).Recoverable ↔ Nested 0 (valuesText values).toList := by
  cases hop <;> rfl

theorem toList_valuesText (values : List String) : (valuesText values).toList =
    '(' :: ([','].intercalate (values.map String.toList) ++ [')']) := by
  simp [valuesText, String.toList_intercalate]

/-- The canonical form of a set: the key, the operator and the values, with single blanks between
them. -/
theorem Operator.toList_text (hop : Operator word make) : (make key values).text.toList =
    key.toList ++ ([' '] ++ (word ++ ([' '] ++ (valuesText values).toList))) := by
  cases hop <;> simp [Requirement.text]

/-- What stands before the values of a set. -/
def opening (key : String) (word : List Char) : List Char :=
  key.toList ++ ([' '] ++ (word ++ [' ', '(']))

/-- The same, cut behind the opening parenthesis.  A comma can only stand behind this cut. -/
theorem Operator.toList_text_eq_opening (hop : Operator word make) : (make key values).text.toList =
    opening key word ++ ([','].intercalate (values.map String.toList) ++ [')']) := by
  rw [hop.toList_text, toList_valuesText]
  simp [opening]

/-- There are no blanks at the ends of an opening, so that trimming a longer text leaves it
alone. -/
theorem tight_opening (hkey : IsKey key) (word : List Char) : Tight (opening key word) := by
  have hparen : Tight ['('] := by decide
  have h := hkey.tight.append hparen ([' '] ++ (word ++ [' ']))
  simpa [opening] using h

/-- The parentheses of a set come in pairs exactly if those of its values do. -/
theorem nested_text_iff (hop : Operator word make) (hkey : IsKey key) :
    Nested 0 (make key values).text.toList ↔ (make key values).Recoverable := by
  rw [hop.toList_text, nested_plain_append hkey.plain, nested_plain_append (by simp),
    nested_plain_append hop.plain, nested_plain_append (by simp), hop.recoverable_iff]

/-- Nothing but parentheses can keep a legal set from being read again. -/
theorem written_text (hop : Operator word make) (h : (make key values).Legal) :
    (make key values).Written (make key values).text.toList := by
  obtain ⟨hkey, hsorted, hvalues⟩ := hop.legal_iff.1 h
  rw [hop.toList_text, toList_valuesText]
  have hblank : Blank [' '] := by decide
  refine .membership hop hkey (List.cons_ne_nil _ _) hblank (hblank.padded_append _) ?_ ?_
  · intro hmem
    obtain ⟨_, hitem, hmem⟩ := (Text.of_mem_intercalate hmem).resolve_left (by decide)
    obtain ⟨v, hv, rfl⟩ := List.mem_map.1 hitem
    exact (hvalues v hv).2 hmem
  · rw [valueSet_listItems_intercalate fun v hv => (hvalues v hv).1, valueSet_of_pairwise hsorted]

theorem toList_text_equals : (Requirement.equals key value).text.toList =
    key.toList ++ (['='] ++ value.toList) := by
  simp [Requirement.text]

theorem toList_text_notEquals : (Requirement.notEquals key value).text.toList =
    key.toList ++ (['!', '='] ++ value.toList) := by
  simp [Requirement.text]

theorem toList_text_missing : (Requirement.missing key).text.toList = '!' :: key.toList := by
  simp [Requirement.text]

theorem nested_pair (hkey : IsKey key) (hright : Nested 0 right) (hop : Plain cs) :
    Nested 0 (key.toList ++ (cs ++ right)) := by
  rwa [nested_plain_append hkey.plain, nested_plain_append hop]

/-- Only parentheses in a set can come without their partners. -/
theorem nested_text (h : r.Legal) (hr : ∀ {word make key values}, Operator word make →
    r = make key values → r.Recoverable) : Nested 0 r.text.toList := by
  cases r with
  | equals key value =>
    rw [toList_text_equals]
    exact nested_pair h.1 h.2.2.1 (by simp)
  | notEquals key value =>
    rw [toList_text_notEquals]
    exact nested_pair h.1 h.2.2 (by simp)
  | isIn key values => exact (nested_text_iff .isIn h.1).2 (hr .isIn rfl)
  | isNotIn key values => exact (nested_text_iff .isNotIn h.1).2 (hr .isNotIn rfl)
  | «exists» key => exact nested_of_plain (IsKey.plain h)
  | missing key =>
    rw [toList_text_missing]
    exact nested_of_plain (plain_cons.2 ⟨by decide, IsKey.plain h⟩)

/-- There are no blanks at the ends of a canonical form. -/
theorem trim_text (h : r.Legal) : trim r.text.toList = r.text.toList := by
  have hpair {key : String} {op : List Char} (hkey : IsKey key) (hop : Tight op) {value : String}
      (hvalue : trim value.toList = value.toList) :
      trim (key.toList ++ (op ++ value.toList)) = key.toList ++ (op ++ value.toList) := by
    have h := trim_operator hkey hop [] value.toList
    rwa [Text.trimEnd_eq_self hvalue, List.append_nil] at h
  have hset {word make key values} (hop : Operator word make) (h : (make key values).Legal) :
      trim (make key values).text.toList = (make key values).text.toList := by
    have hparen : Tight [')'] := by decide
    rw [hop.toList_text_eq_opening]
    exact (Text.tight_iff.1 ((tight_opening (hop.legal_iff.1 h).1 word).append hparen _)).1
  cases r with
  | equals key value =>
    rw [toList_text_equals]
    exact hpair h.1 (by decide) h.2.1
  | notEquals key value =>
    rw [toList_text_notEquals]
    exact hpair h.1 (by decide) h.2.1
  | isIn key values => exact hset .isIn h
  | isNotIn key values => exact hset .isNotIn h
  | «exists» key => exact IsKey.trim_toList h
  | missing key =>
    rw [toList_text_missing]
    have hbang : Tight ['!'] := by decide
    exact (Text.tight_iff.1 (hbang.append (IsKey.tight h) [])).1

/-- A legal requirement that is recoverable is spelled by its canonical form.  For the sets nothing
is needed of recoverability here: it is needed where the form stands among others. -/
theorem written_of_recoverable (h : r.Legal) (hr : r.Recoverable) : r.Written r.text.toList := by
  cases r with
  | equals key value =>
    obtain ⟨hkey, htrim, -, hbang⟩ := h
    have hwritten := Requirement.Written.equalsOnce hkey (.refl _) hbang hr
    rwa [htrim, String.ofList_toList, ← toList_text_equals] at hwritten
  | notEquals key value =>
    obtain ⟨hkey, htrim, -⟩ := h
    have hwritten : Requirement.Written _ (key.toList ++ (['!', '='] ++ value.toList)) :=
      .notEquals hkey (.refl _)
    rwa [htrim, String.ofList_toList, ← toList_text_notEquals] at hwritten
  | isIn key values => exact written_text .isIn h
  | isNotIn key values => exact written_text .isNotIn h
  | «exists» key => exact .present h
  | missing key =>
    rw [toList_text_missing]
    exact .missing h (.refl _)

/-! ### Reading the canonical form of a set -/

/-- No spelling of a set has an `=` in it, as it would be read as an equality. -/
theorem Operator.equals_not_mem_of_written (hop : Operator word make)
    (h : (make key values).Written t) : '=' ∉ t := by
  generalize hr : make key values = r at h
  cases h with
  | membership hop' hkey _ hgap hvalues hbody _ => exact hop'.equals_not_mem hkey hgap hvalues hbody
  | missing => cases hop <;> cases hr
  | notEquals => cases hop <;> cases hr
  | equalsTwice => cases hop <;> cases hr
  | equalsOnce => cases hop <;> cases hr
  | present => cases hop <;> cases hr

/-- From behind the opening of a set, everything is read up to the last parenthesis. -/
theorem exists_of_written_opening (hop : Operator word make) (hkey : IsKey key) {rest : List Char}
    (h : (make key values).Written (trim (opening key word ++ rest))) :
    ∃ body b, Blank b ∧ rest = body ++ ')' :: b ∧
      values = valueSet (listItems (String.ofList body)) := by
  have hparen : Tight ['('] := by decide
  have hblank : Blank [' '] := by decide
  have hequals := hop.equals_not_mem_of_written h
  have hread := parseTerm_of_written h
  have htrim : trim (opening key word ++ rest) =
      key.toList ++ ([' '] ++ (word ++ ([' '] ++ (['('] ++ trimEnd rest)))) := by
    rw [(tight_opening hkey word).trim_append]
    simp [opening]
  rw [htrim] at hequals hread
  rw [parseTerm_of_words (headed_append hkey (.refl _) _) hequals,
    parseWords_operator hop hkey (List.cons_ne_nil _ _) hblank, parseMembership_eq_ok_iff] at hread
  obtain ⟨key', values', -, hvalues, hmake⟩ := hread
  obtain rfl : values' = values := by cases hop <;> cases hmake <;> rfl
  obtain ⟨body, hpadded, hset⟩ := parseValues_eq_ok_iff.1 hvalues
  rw [Text.padded_iff (trim_parentheses body), Text.trim_blank_append hblank, hparen.trim_append,
    Text.trimEnd_trimEnd] at hpadded
  obtain ⟨b, hb, hrest⟩ := Text.exists_trimEnd rest
  have hend : trimEnd rest = body ++ [')'] := (List.cons.inj hpadded).2
  refine ⟨body, b, hb, ?_, hset⟩
  rw [hrest, hend, List.append_assoc, List.singleton_append]

/-- There is one comma less than there are values, if the values have none of their own. -/
theorem count_comma_intercalate (h : ∀ v ∈ values, ',' ∉ v.toList) :
    ([','].intercalate (values.map String.toList)).count ',' = values.length - 1 := by
  by_cases hnil : values = []
  · subst hnil
    rfl
  · have hlength := Text.length_pieces ',' ([','].intercalate (values.map String.toList))
    rw [Text.pieces_eq_splitOn,
      List.splitOn_intercalate _ (by simpa using h) (by simpa using hnil), List.length_map] at hlength
    omega

/-- The last value of a set, with a parenthesis behind it, would be a greater one. -/
theorem exists_greatest (hne : values ≠ []) (hsorted : values.Pairwise (· < ·))
    (hcomma : ∀ v ∈ values, ',' ∉ v.toList) (rest : List Char) :
    ∃ v ∈ values, (∀ w ∈ values, w ≤ v) ∧ v.toList ++ [')'] ∈
      Text.pieces ',' ([','].intercalate (values.map String.toList) ++ ')' :: ',' :: rest) := by
  rw [Text.pieces_eq_splitOn]
  induction values with
  | nil => exact absurd rfl hne
  | cons v values ih =>
    obtain ⟨hv, hsorted⟩ := List.pairwise_cons.1 hsorted
    obtain ⟨hcomma, hcommas⟩ := List.forall_mem_cons.1 hcomma
    by_cases hnil : values = []
    · subst hnil
      have hpiece : ',' ∉ v.toList ++ [')'] := by simpa using hcomma
      refine ⟨v, List.mem_cons_self, by simp, ?_⟩
      rw [List.map_singleton, List.intercalate_singleton, List.append_cons,
        List.splitOn_append_cons_self, List.splitOn_eq_singleton hpiece]
      exact List.mem_cons_self
    · obtain ⟨w, hw, hgreatest, hpiece⟩ := ih hnil hsorted hcommas
      refine ⟨w, List.mem_cons_of_mem _ hw, List.forall_mem_cons.2 ⟨(hv w hw).le, hgreatest⟩, ?_⟩
      rw [List.map_cons, List.intercalate_cons_of_ne_nil (by simpa using hnil), List.append_assoc,
        List.append_assoc, List.singleton_append, List.splitOn_append_cons_self]
      exact List.mem_append_right _ hpiece

/-- No parenthesis is read into a set and leaves it as it was. -/
theorem not_valueSet_listItems_append (hne : values ≠ []) (hsorted : values.Pairwise (· < ·))
    (hvalues : ∀ v ∈ values, IsItem v) (rest : List Char) :
    values ≠ valueSet (listItems (String.ofList
      ([','].intercalate (values.map String.toList) ++ ')' :: ',' :: rest))) := by
  intro h
  obtain ⟨v, hv, hgreatest, hpiece⟩ := exists_greatest hne hsorted
    (fun v hv => (hvalues v hv).comma_not_mem) rest
  have hparen : Tight [')'] := by decide
  have hmem := mem_valueSet.2 (Text.ofList_mem_listItems hpiece
    ((hvalues v hv).tight.append hparen []))
  rw [← h] at hmem
  -- The piece with the parenthesis is a member, and greater than the greatest.
  refine absurd (hgreatest _ hmem) (not_le.2 (String.lt_iff_toList_lt.2 ?_))
  rw [String.toList_ofList]
  simpa using List.append_left_lt (List.nil_lt_cons ')' [])

theorem comma_not_mem_opening (hop : Operator word make) (hkey : IsKey key) :
    ',' ∉ opening key word := by
  have hword : ',' ∉ word := by cases hop <;> decide
  simp [opening, hkey.not_mem (c := ',') (by decide), hword]

/-- A set is not read from a beginning of its canonical form: there would be too few commas. -/
theorem text_ne_append_comma (hop : Operator word make) (h : (make key values).Legal)
    (hwritten : (make key values).Written (trim t)) (rest : List Char) :
    (make key values).text.toList ≠ t ++ ',' :: rest := by
  intro htext
  obtain ⟨hkey, -, hvalues⟩ := hop.legal_iff.1 h
  rw [hop.toList_text_eq_opening] at htext
  obtain ⟨mid, rfl, hbody⟩ := Text.exists_of_append_eq_append_cons htext
    (comma_not_mem_opening hop hkey)
  obtain ⟨body, b, -, rfl, hset⟩ := exists_of_written_opening hop hkey hwritten
  -- All commas are behind the opening, and the one after `body` is lost for the members.
  have hcount := congrArg (List.count ',') hbody
  have hneeded : values.length - 1 ≤ body.count ',' := by
    have hle := (length_valueSet_le _).trans (Text.length_listItems_le (String.ofList body))
    rw [← hset, String.toList_ofList] at hle
    omega
  simp only [List.count_append, List.count_cons] at hcount
  rw [count_comma_intercalate fun v hv => (hvalues v hv).1.comma_not_mem] at hcount
  simp at hcount
  omega

/-- A set is not read from a text that goes on after its canonical form: there would be a member
with a parenthesis, greater than all others. -/
theorem ne_text_append_comma (hop : Operator word make) (h : (make key values).Legal)
    (hne : values ≠ []) (hwritten : (make key values).Written (trim t)) (rest : List Char) :
    t ≠ (make key values).text.toList ++ ',' :: rest := by
  rintro rfl
  obtain ⟨hkey, hsorted, hvalues⟩ := hop.legal_iff.1 h
  rw [hop.toList_text_eq_opening, List.append_assoc] at hwritten
  obtain ⟨body, b, hb, hbody, hset⟩ := exists_of_written_opening hop hkey hwritten
  have hcomma : ',' ∉ ')' :: b := by simp [hb.not_mem (c := ',') (by decide)]
  obtain ⟨mid, rfl, -⟩ := Text.exists_of_append_cons_eq_append hbody hcomma
  rw [List.append_assoc] at hset
  exact not_valueSet_listItems_append hne hsorted (fun v hv => (hvalues v hv).1) mid hset

/-! ### Reading the canonical form -/

/-- Of two texts that go on alike, one is the other or begins with it and a comma, if nothing can
follow them but what a comma divides. -/
theorem eq_or_of_append_eq {us vs : List Char} (hu : us = [] ∨ ∃ x, us = ',' :: x)
    (hv : vs = [] ∨ ∃ x, vs = ',' :: x) (h : left ++ us = right ++ vs) :
    left = right ∨ (∃ x, right = left ++ ',' :: x) ∨ ∃ x, left = right ++ ',' :: x := by
  rcases List.append_eq_append_iff.1 h with ⟨mid, rfl, rfl⟩ | ⟨mid, rfl, rfl⟩
  · cases mid with
    | nil => simp
    | cons c mid =>
      simp only [List.cons_append, List.cons_ne_nil, List.cons.injEq, false_or] at hu
      obtain ⟨-, rfl, -⟩ := hu
      exact .inr (.inl ⟨mid, rfl⟩)
  · cases mid with
    | nil => simp
    | cons c mid =>
      simp only [List.cons_append, List.cons_ne_nil, List.cons.injEq, false_or] at hv
      obtain ⟨-, rfl, -⟩ := hv
      exact .inr (.inr ⟨mid, rfl⟩)

/-- Nothing but a set with members can have a canonical form that is not nested. -/
theorem nested_text_or (h : r.Legal) : Nested 0 r.text.toList ∨
    ∃ word make key values, Operator word make ∧ values ≠ [] ∧ r = make key values := by
  by_cases hset : ∃ word make key values, Operator word make ∧ values ≠ [] ∧ r = make key values
  · exact .inr hset
  · refine .inl (nested_text h fun {word make key values} hop hr => ?_)
    obtain rfl : values = [] := by
      by_contra hne
      exact hset ⟨word, make, key, values, hop, hne, hr⟩
    rw [hr, hop.recoverable_iff, toList_valuesText]
    decide

/-- What is read as a requirement ends where its canonical form ends. -/
theorem eq_text_of_written (h : r.Legal) (hnested : Nested 0 t) (hwritten : r.Written (trim t))
    {us vs : List Char} (hu : us = [] ∨ ∃ x, us = ',' :: x) (hv : vs = [] ∨ ∃ x, vs = ',' :: x)
    (heq : t ++ us = r.text.toList ++ vs) : t = r.text.toList := by
  rcases eq_or_of_append_eq hu hv heq with heq | ⟨rest, htext⟩ | ⟨rest, ht⟩
  · exact heq
  · -- The text stops at a comma of the canonical form.
    rcases nested_text_or h with htext' | ⟨word, make, key, values, hop, hne, rfl⟩
    · rw [htext] at htext'
      exact absurd htext' (not_nested_append_comma hnested)
    · exact absurd htext (text_ne_append_comma hop h hwritten rest)
  · -- The text goes on behind the canonical form.
    rcases nested_text_or h with htext' | ⟨word, make, key, values, hop, hne, rfl⟩
    · rw [ht] at hnested
      exact absurd hnested (not_nested_append_comma htext')
    · exact absurd ht (ne_text_append_comma hop h hne hwritten rest)

/-- If the canonical form of a requirement is read as that requirement, it is recoverable.  For a
value that is a matter of length: the longer operator would leave less of it. -/
theorem recoverable_of_written (h : r.Legal) (hnested : Nested 0 r.text.toList)
    (hwritten : r.Written r.text.toList) : r.Recoverable := by
  cases r with
  | equals key value =>
    have htext : (Requirement.equals key value).text.toList = _ := toList_text_equals
    -- The text is the same under both readings, so its parts have the same length in all.
    have hlength := congrArg List.length htext
    generalize (Requirement.equals key value).text.toList = t at hwritten hlength
    generalize hr : Requirement.equals key value = r at hwritten
    cases hwritten with
    | @equalsTwice _ left right _ hleft _ =>
      cases hr
      have hkey := hleft.length_le
      have hright := Text.length_trim_le right
      simp only [List.length_append, List.length_cons, List.length_nil, String.toList_ofList]
        at hlength
      omega
    | @equalsOnce _ left right _ hleft _ htwice =>
      cases hr
      have hkey := hleft.length_le
      simp only [List.length_append, List.length_cons, List.length_nil, String.toList_ofList]
        at hlength
      rw [Requirement.Recoverable, String.toList_ofList,
        Text.trim_eq_self_of_length_le (by omega : right.length ≤ (trim right).length)]
      exact htwice
    | missing => cases hr
    | notEquals => cases hr
    | present => cases hr
    | membership hop _ _ _ _ _ hmake => cases hop <;> cases hr.trans hmake
  | notEquals key value => trivial
  | isIn key values => exact (nested_text_iff .isIn h.1).1 hnested
  | isNotIn key values => exact (nested_text_iff .isNotIn h.1).1 hnested
  | «exists» key => trivial
  | missing key => trivial

/-- The canonical form of a selector: those of its requirements, with commas between them. -/
theorem toList_text (sel : Selector) : sel.text.toList =
    [','].intercalate (sel.requirements.map fun r => r.text.toList) := by
  simp [text, String.toList_intercalate, Function.comp_def]

/-- What follows a requirement in a selector is nothing, or starts with a comma. -/
theorem flatMap_cons_or (ts : List (List Char)) :
    ts.flatMap (',' :: ·) = [] ∨ ∃ x, ts.flatMap (',' :: ·) = ',' :: x := by
  cases ts with
  | nil => exact .inl rfl
  | cons t ts => exact .inr ⟨_, rfl⟩

/-- Canonical forms with commas between them are cut where they were put together, if what is found
there is read as it should be.  The induction goes from the first requirement to the last, and each
of them ends where its canonical form ends. -/
theorem recoverable_of_texts {rs : List Requirement} {ts : List (List Char)}
    (hread : List.Forall₂ (fun t r => parseTerm (trim t) = .ok r) ts rs)
    (hlegal : ∀ r ∈ rs, r.Legal) (hnested : ∀ t ∈ ts, Nested 0 t)
    (heq : ts.flatMap (',' :: ·) = (rs.map fun r => r.text.toList).flatMap (',' :: ·)) :
    ∀ r ∈ rs, r.Recoverable := by
  induction hread with
  | nil => simp
  | @cons t r ts rs hr _ ih =>
    obtain ⟨hlegal, hlegals⟩ := List.forall_mem_cons.1 hlegal
    obtain ⟨hnested, hnesteds⟩ := List.forall_mem_cons.1 hnested
    simp only [List.map_cons, List.flatMap_cons, List.cons_append, List.cons.injEq, true_and] at heq
    have hwritten := written_of_parseTerm hr
    obtain rfl := eq_text_of_written hlegal hnested hwritten (flatMap_cons_or ts)
      (flatMap_cons_or _) heq
    rw [trim_text hlegal] at hwritten
    exact List.forall_mem_cons.2 ⟨recoverable_of_written hlegal hnested hwritten,
      ih hlegals hnesteds (List.append_cancel_left heq)⟩

/-- If all requirements are recoverable, the canonical form is cut where it was put together, and
every piece is read as it should be. -/
theorem parse_text_of_recoverable {sel : Selector} (hlegal : ∀ r ∈ sel.requirements, r.Legal)
    (hr : ∀ r ∈ sel.requirements, r.Recoverable) : parse sel.text = .ok sel := by
  rw [parse_eq_ok_iff, toList_text]
  by_cases hnil : sel.requirements = []
  · obtain ⟨requirements⟩ := sel
    obtain rfl : requirements = [] := hnil
    exact .inl ⟨by simp, rfl⟩
  · refine .inr ⟨_, by simpa using hnil, rfl, ?_, ?_⟩
    · rw [List.forall_mem_map]
      exact fun r hmem => nested_text (hlegal r hmem) fun _ _ => hr r hmem
    · rw [List.forall₂_map_left_iff, List.forall₂_same]
      intro r hmem
      rw [trim_text (hlegal r hmem)]
      exact parseTerm_of_written (written_of_recoverable (hlegal r hmem) (hr r hmem))

/-- A selector that was read is read again from its canonical form exactly if all its requirements
are recoverable. -/
theorem parse_text_iff {s : String} {sel : Selector} (h : parse s = .ok sel) :
    parse sel.text = .ok sel ↔ ∀ r ∈ sel.requirements, r.Recoverable := by
  have hlegal := legal_of_parse h
  refine ⟨fun hagain => ?_, parse_text_of_recoverable hlegal⟩
  rcases parse_eq_ok_iff.1 hagain with ⟨-, rfl⟩ | ⟨ts, hne, heq, hnested, hread⟩
  · simp [all]
  · have hne' : sel.requirements ≠ [] := by
      intro hnil
      rw [hnil] at hread
      exact hne (List.forall₂_nil_right_iff.1 hread)
    refine recoverable_of_texts hread hlegal hnested ?_
    rw [← Text.cons_intercalate hne, ← Text.cons_intercalate (by simpa using hne'), ← heq,
      toList_text]

/-- In the canonical order, the parentheses of two values do not come in pairs. -/
theorem parse_text_iff_sample :
    parse "k in (z(,a))" = .ok ⟨[.isIn "k" ["a)", "z("]]⟩ ∧
      (parse "k in (a),z()" = .ok ⟨[.isIn "k" ["a)", "z("]]⟩ ↔
        ∀ r ∈ [Requirement.isIn "k" ["a)", "z("]], r.Recoverable) :=
  ⟨rfl, parse_text_iff (s := "k in (z(,a))") rfl⟩

/-- With one `=`, a value that begins with `=` is read as a shorter one. -/
theorem equals_not_recovered :
    parse "a===b" = .ok ⟨[.equals "a" "=b"]⟩ ∧ text ⟨[.equals "a" "=b"]⟩ = "a==b" ∧
      parse "a==b" = .ok ⟨[.equals "a" "b"]⟩ :=
  ⟨rfl, rfl, rfl⟩

end BalancerSync.Selector
