import BalancerSync.Proofs.Selector.Grammar

/-!
# The spellings of a selector

One selector can be written in many ways: with one or two `=`, with blanks almost anywhere, and with
the members of a set in any order, more than once and with empty items between them.  They all mean
the same, and reading understands them all.

Keys and values of labels have no blanks, commas, parentheses or operators in them.  So the texts
between commas are nested, and each of them, trimmed, is in the grammar of its requirement.  Nothing
but the list of a set has to be put in order, and labels do not tell the difference.

## Main Definitions

* `Requirement.Holds` — what a requirement asks of labels
* `Requirement.IsProper` — its key and values are those of labels
* `Requirement.Spelled`, `Spelled` — the ways to write requirements

## Main Results

* `parse_eq_canonical` — every spelling is read as the requirements, with their sets in order
* `parse_spelled` — what is read is met by those labels for which every requirement holds
-/

namespace BalancerSync.Selector

open Text (Blank Padded Tight trim trimEnd)

variable {key value : String} {cs t : List Char} {r : Requirement} {rs : List Requirement}
  {labels : Labels}

/-! ### What requirements mean -/

/-- What a requirement asks of labels.  A missing key differs from every value and is in no set. -/
def Requirement.Holds (labels : Labels) : Requirement → Prop
  | equals key value => ∃ v, labels.get? key = some v ∧ v = value
  | notEquals key value => ∀ v, labels.get? key = some v → v ≠ value
  | isIn key values => ∃ v, labels.get? key = some v ∧ v ∈ values
  | isNotIn key values => ∀ v, labels.get? key = some v → v ∉ values
  | .exists key => ∃ v, labels.get? key = some v
  | missing key => ∀ v, labels.get? key ≠ some v

/-- The requirement with its values in order. -/
def Requirement.canonical : Requirement → Requirement
  | isIn key values => isIn key (valueSet values)
  | isNotIn key values => isNotIn key (valueSet values)
  | r => r

/-- Labels do not see in which order values are, or how often. -/
theorem isMetBy_canonical_iff : r.canonical.isMetBy labels = true ↔ r.Holds labels := by
  cases r
  all_goals
    simp only [Requirement.canonical, Requirement.isMetBy, Requirement.Holds]
    generalize labels.get? _ = found
    cases found <;> simp

/-! ### The ways to write requirements -/

/-- The characters of values. -/
def isValueChar (c : Char) : Bool := c.isAlphanum || c == '-' || c == '_' || c == '.'

def IsValue (value : String) : Prop := ∀ c ∈ value.toList, isValueChar c = true

instance (value : String) : Decidable (IsValue value) :=
  List.decidableBAll (isValueChar · = true) value.toList

/-- Key and values of a requirement are those of labels.  A set may be empty, but not its
members. -/
def Requirement.IsProper : Requirement → Prop
  | equals key value | notEquals key value => IsKey key ∧ IsValue value
  | isIn key values | isNotIn key values => IsKey key ∧ ∀ v ∈ values, IsValue v ∧ v ≠ ""
  | .exists key | missing key => IsKey key

instance : DecidablePred Requirement.IsProper
  | .equals _ _ | .notEquals _ _ => inferInstanceAs (Decidable (_ ∧ _))
  | .isIn _ values | .isNotIn _ values =>
    inferInstanceAs (Decidable (_ ∧ ∀ v ∈ values, IsValue v ∧ v ≠ ""))
  | .exists key | .missing key => inferInstanceAs (Decidable (IsKey key))

/-- The ways to write a requirement. -/
inductive Requirement.Spelled : Requirement → List Char → Prop
  | equals {key value : String} {op a b : List Char} :
      op = ['='] ∨ op = ['=', '='] → Blank a → Blank b →
      Spelled (.equals key value) (key.toList ++ (a ++ (op ++ (b ++ value.toList))))
  | notEquals {key value : String} {a b : List Char} :
      Blank a → Blank b →
      Spelled (.notEquals key value) (key.toList ++ (a ++ (['!', '='] ++ (b ++ value.toList))))
  | membership {key : String} {values : List String} {word gap a : List Char}
      {items : List (List Char)} {make : String → List String → Requirement} :
      Operator word make → gap ≠ [] → Blank gap → Blank a → Listed values items →
      Spelled (make key values)
        (key.toList ++ (gap ++ (word ++ (a ++ '(' :: ([','].intercalate items ++ [')'])))))
  | present {key : String} : Spelled (.exists key) key.toList
  | missing {key : String} {a : List Char} :
      Blank a → Spelled (.missing key) ('!' :: (a ++ key.toList))

/-- The ways to write a list of requirements: with commas between them, and with blanks around each
of them. -/
def Spelled (rs : List Requirement) (cs : List Char) : Prop :=
  ∃ ts, Padded ([','].intercalate ts) cs ∧
    List.Forall₂ (fun r t => ∃ text, r.Spelled text ∧ Padded text t) rs ts

/-! ### Values and keys do not look like operators -/

/-- What may stand in a value may stand in a key. -/
theorem isKeyChar_of_isValueChar {c : Char} (h : isValueChar c = true) : isKeyChar c = true := by
  rw [isKeyChar, ← isValueChar, h]
  rfl

/-- A character that no key has is in no value either.  None of the signs of the grammar is one, so
values contain no operators, commas or parentheses. -/
theorem IsValue.not_mem (h : IsValue value) {c : Char} (hc : isKeyChar c = false) :
    c ∉ value.toList := by
  intro hmem
  rw [isKeyChar_of_isValueChar (h c hmem)] at hc
  cases hc

/-- A value that is not empty is found again in a list of values. -/
theorem IsValue.isItem (h : IsValue value) (hne : value ≠ "") : Text.IsItem value := by
  refine ⟨Text.tight_of_not_isBlank (String.toList_eq_nil_iff.ne.2 hne) fun c hc => ?_,
    h.not_mem (by decide)⟩
  exact isBlank_of_isKeyChar (isKeyChar_of_isValueChar (h c hc))

theorem IsValue.trim_toList (h : IsValue value) : trim value.toList = value.toList := by
  by_cases hne : value = ""
  · subst hne
    rfl
  · exact (Text.tight_iff.1 (h.isItem hne).tight).1

/-- No value has a sign that the grammar cuts at. -/
theorem IsValue.plain (h : IsValue value) : Plain value.toList := by
  intro c hc
  refine ⟨?_, ?_, ?_⟩ <;> rintro rfl <;> exact h.not_mem (by decide) hc

namespace Operator

variable {word : List Char} {values : List String} {make : String → List String → Requirement}

theorem isProper_iff (hop : Operator word make) :
    (make key values).IsProper ↔ IsKey key ∧ ∀ v ∈ values, IsValue v ∧ v ≠ "" := by
  cases hop <;> rfl

theorem canonical (hop : Operator word make) :
    (make key values).canonical = make key (valueSet values) := by
  cases hop <;> rfl

end Operator

/-! ### Every spelling is in the grammar -/

/-- A character of a list of values is a comma, a blank or a character of a value. -/
theorem Listed.not_mem {values : List String} {items : List (List Char)} (h : Listed values items)
    (hvalues : ∀ v ∈ values, IsValue v) {c : Char} (hcomma : c ≠ ',') (hc : isKeyChar c = false)
    (hblank : Text.isBlank c = false) : c ∉ [','].intercalate items := by
  intro hmem
  obtain ⟨item, hitem, hmem⟩ := (Text.of_mem_intercalate hmem).resolve_left hcomma
  rcases h.member_or_blank item hitem with ⟨v, hv, hpadded⟩ | hitem
  · exact (hvalues v hv).not_mem hc ((hpadded.mem_iff hblank).1 hmem)
  · exact hitem.not_mem hblank hmem

/-- Every spelling has its parentheses in pairs, as they only stand around the values of a set. -/
theorem nested_of_spelled (hproper : r.IsProper) (h : r.Spelled t) : Nested 0 t := by
  cases h with
  | @equals key value op a b hop ha hb =>
    have hop : Plain op := by rcases hop with rfl | rfl <;> simp
    apply nested_of_plain
    simp [hproper.1.plain, plain_of_blank ha, plain_of_blank hb, hop, hproper.2.plain]
  | @notEquals key value a b ha hb =>
    apply nested_of_plain
    simp [hproper.1.plain, plain_of_blank ha, plain_of_blank hb, hproper.2.plain]
  | @membership key values word gap a items make hop hne hgap ha hlisted =>
    obtain ⟨hkey, hvalues⟩ := hop.isProper_iff.1 hproper
    rw [nested_plain_append hkey.plain, nested_plain_append (plain_of_blank hgap),
      nested_plain_append hop.plain, nested_plain_append (plain_of_blank ha)]
    apply nested_parentheses
    intro c hc
    have hnot {d : Char} := hlisted.not_mem (fun v hv => (hvalues v hv).1) (c := d)
    constructor <;> rintro rfl <;> exact hnot (by decide) (by decide) (by decide) hc
  | present => exact nested_of_plain hproper.plain
  | @missing key a ha =>
    apply nested_of_plain
    have hkey : IsKey key := hproper
    simp [plain_of_blank ha, hkey.plain]

/-- Behind an operator, nothing but the value is left, and there is no operator in it. -/
theorem trimEnd_value (h : IsValue value) {b : List Char} (hb : Blank b) :
    String.ofList (trim (trimEnd (b ++ value.toList))) = value ∧
      '=' ∉ trimEnd (b ++ value.toList) := by
  constructor
  · rw [Text.trim_trimEnd, Text.trim_blank_append hb, h.trim_toList, String.ofList_toList]
  · intro hmem
    rcases List.mem_append.1 (Text.mem_of_mem_trimEnd hmem) with hmem | hmem
    · exact hb.not_mem (by decide) hmem
    · exact h.not_mem (by decide) hmem

theorem not_infix_twice {right : List Char} (h : '=' ∉ right) : ¬ ['=', '='] <:+: '=' :: right := by
  rw [List.infix_cons_iff, List.cons_prefix_cons]
  rintro (⟨-, hstart⟩ | hpart)
  · exact h (hstart.subset List.mem_cons_self)
  · exact h (hpart.subset List.mem_cons_self)

theorem padded_trimEnd {w a : List Char} (h : trim w = w) (ha : Blank a) :
    Padded w (trimEnd (a ++ w)) := by
  rw [Text.padded_iff h, Text.trim_trimEnd, Text.trim_blank_append ha, h]

/-- Every spelling of a requirement is in the grammar, and stands for its canonical form.  The cases
are the ways to spell one; which operator is found first has to be shown in each. -/
theorem written_of_spelled (hproper : r.IsProper) (h : r.Spelled t) :
    r.canonical.Written (trim t) := by
  cases h with
  | @equals key value op a b hop ha hb =>
    obtain ⟨hkey, hvalue⟩ := hproper
    obtain ⟨hright, hequals⟩ := trimEnd_value hvalue hb
    -- No `!=` comes before the operator, nor a second `=` behind it, since values have neither
    -- sign.
    have hbang : ¬ ['!', '='] <:+: trimEnd (b ++ value.toList) := fun h =>
      hequals (h.subset (by decide))
    have hop' : Tight op := by
      rcases hop with rfl | rfl <;> decide
    rw [trim_operator hkey hop']
    rcases hop with rfl | rfl
    · have hwritten := Requirement.Written.equalsOnce hkey (ha.padded _) hbang
        (not_infix_twice hequals)
      rwa [hright] at hwritten
    · have hwritten := Requirement.Written.equalsTwice hkey (ha.padded _) hbang
      rwa [hright] at hwritten
  | @notEquals key value a b ha hb =>
    obtain ⟨hkey, hvalue⟩ := hproper
    have hwritten : Requirement.Written _
        (key.toList ++ a ++ (['!', '='] ++ trimEnd (b ++ value.toList))) :=
      .notEquals hkey (ha.padded _)
    rw [(trimEnd_value hvalue hb).1] at hwritten
    rwa [trim_operator hkey (by decide)]
  | @membership key values word gap a items make hop hne hgap ha hlisted =>
    obtain ⟨hkey, hvalues⟩ := hop.isProper_iff.1 hproper
    have hequals : '=' ∉ [','].intercalate items :=
      hlisted.not_mem (fun v hv => (hvalues v hv).1) (by decide) (by decide) (by decide)
    rw [hop.canonical, trim_operator hkey hop.tight, List.append_assoc,
      ← valueSet_listItems hlisted fun v hv => (hvalues v hv).1.isItem (hvalues v hv).2]
    exact .membership hop hkey hne hgap
      (padded_trimEnd (trim_parentheses ([','].intercalate items)) ha) hequals rfl
  | @present key =>
    have hkey : IsKey key := hproper
    rw [hkey.trim_toList]
    exact .present hkey
  | @missing key a ha =>
    have hkey : IsKey key := hproper
    have hbang : Tight ['!'] := by decide
    have htrim : trim ('!' :: (a ++ key.toList)) = '!' :: trimEnd (a ++ key.toList) :=
      hbang.trim_append (a ++ key.toList)
    rw [htrim]
    exact .missing hkey (padded_trimEnd hkey.trim_toList ha)

/-- Each text between commas is nested, and what it writes is read from it. -/
theorem reads_of_spelled {ts : List (List Char)} (hproper : ∀ r ∈ rs, r.IsProper)
    (h : List.Forall₂ (fun r t => ∃ text, Requirement.Spelled r text ∧ Padded text t) rs ts) :
    (∀ t ∈ ts, Nested 0 t) ∧
      List.Forall₂ (fun t r => parseTerm (trim t) = .ok r) ts (rs.map Requirement.canonical) := by
  induction h with
  | nil => exact ⟨by simp, .nil⟩
  | @cons r t rs ts hr hrs ih =>
    obtain ⟨text, hspelled, hpadded⟩ := hr
    obtain ⟨hr, hrs⟩ := List.forall_mem_cons.1 hproper
    obtain ⟨hnested, hread⟩ := ih hrs
    refine ⟨List.forall_mem_cons.2 ⟨?_, hnested⟩, .cons ?_ hread⟩
    · rw [← nested_trim, hpadded.trim_eq, nested_trim]
      exact nested_of_spelled hr hspelled
    · rw [hpadded.trim_eq]
      exact parseTerm_of_written (written_of_spelled hr hspelled)

/-- Every spelling is read as the requirements, with their sets in order. -/
theorem parse_eq_canonical {s : String} (hproper : ∀ r ∈ rs, r.IsProper) (h : Spelled rs s.toList) :
    parse s = .ok ⟨rs.map Requirement.canonical⟩ := by
  obtain ⟨ts, hpadded, hspelled⟩ := h
  obtain ⟨hnested, hread⟩ := reads_of_spelled hproper hspelled
  rw [parse_congr (t := String.ofList ([','].intercalate ts)) (by simpa using hpadded.trim_eq),
    parse_eq_ok_iff, String.toList_ofList]
  by_cases hnil : ts = []
  · subst hnil
    cases hspelled
    exact .inl ⟨by simp, rfl⟩
  · exact .inr ⟨ts, hnil, rfl, hnested, hread⟩

/-- Every spelling of proper requirements is read, and what is read is met by those labels for which
every requirement holds. -/
theorem parse_spelled {s : String} (hproper : ∀ r ∈ rs, r.IsProper) (h : Spelled rs s.toList) :
    ∃ sel, parse s = .ok sel ∧ ∀ labels, sel.accepts labels = true ↔ ∀ r ∈ rs, r.Holds labels := by
  refine ⟨_, parse_eq_canonical hproper h, fun labels => ?_⟩
  simp [accepts, isMetBy_canonical_iff]

namespace Sample

/-- The members of the set are out of order, one is there twice, and one item is empty.  The value
of `tier` is empty. -/
def text : String := " role == worker, zone in(b,, a,b) ,tier != ,! lb"

def requirements : List Requirement :=
  [.equals "role" "worker", .isIn "zone" ["a", "b"], .notEquals "tier" "", .missing "lb"]

theorem listed_zone : Listed ["a", "b"] [['b'], [], [' ', 'a'], ['b']] where
  ne_nil := List.cons_ne_nil _ _
  member_or_blank := by
    have ha : Padded "a".toList [' ', 'a'] := ⟨[' '], [], by decide, by decide, rfl⟩
    have hb : Padded "b".toList ['b'] := .refl _
    simp only [List.forall_mem_cons]
    exact ⟨.inl ⟨"b", by decide, hb⟩, .inr (by decide), .inl ⟨"a", by decide, ha⟩,
      .inl ⟨"b", by decide, hb⟩, by simp⟩
  complete := by
    simp only [List.forall_mem_cons]
    exact ⟨⟨[' ', 'a'], by decide, [' '], [], by decide, by decide, rfl⟩,
      ⟨['b'], by decide, .refl _⟩, by simp⟩

theorem spelled_role : (Requirement.equals "role" "worker").Spelled
    ("role".toList ++ ([' '] ++ (['=', '='] ++ ([' '] ++ "worker".toList)))) :=
  .equals (.inr rfl) (by decide) (by decide)

theorem spelled_zone : (Requirement.isIn "zone" ["a", "b"]).Spelled
    ("zone".toList ++ ([' '] ++ (['i', 'n'] ++
      ([] ++ '(' :: ([','].intercalate [['b'], [], [' ', 'a'], ['b']] ++ [')']))))) :=
  .membership .isIn (by decide) (by decide) (by decide) listed_zone

theorem spelled_tier : (Requirement.notEquals "tier" "").Spelled
    ("tier".toList ++ ([' '] ++ (['!', '='] ++ ([] ++ "".toList)))) :=
  .notEquals (by decide) (by decide)

theorem spelled_lb : (Requirement.missing "lb").Spelled ('!' :: ([' '] ++ "lb".toList)) :=
  .missing (by decide)

theorem spelled_text : Spelled requirements text.toList := by
  refine ⟨[" role == worker".toList, " zone in(b,, a,b) ".toList, "tier != ".toList, "! lb".toList],
    .refl _, ?_⟩
  refine .cons ⟨_, spelled_role, [' '], [], by decide, by decide, rfl⟩ ?_
  refine .cons ⟨_, spelled_zone, [' '], [' '], by decide, by decide, rfl⟩ ?_
  refine .cons ⟨_, spelled_tier, [], [' '], by decide, by decide, rfl⟩ ?_
  exact .cons ⟨_, spelled_lb, .refl _⟩ .nil

end Sample

/-- One spelling with blanks in odd places, a member that is repeated and one that is blank, and the
labels that it accepts. -/
theorem parse_spelled_sample :
    (∀ r ∈ Sample.requirements, r.IsProper) ∧ Spelled Sample.requirements Sample.text.toList ∧
      ∃ sel, parse Sample.text = .ok sel ∧
        ∀ labels, sel.accepts labels = true ↔ ∀ r ∈ Sample.requirements, r.Holds labels :=
  ⟨by decide, Sample.spelled_text, parse_spelled (by decide) Sample.spelled_text⟩

end BalancerSync.Selector
