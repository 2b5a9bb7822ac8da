import BalancerSync.Proofs.Text.Cutting
import Mathlib.Data.List.DropRight

/-!
# Trimming

What people type is trimmed of the blanks at both ends before it is looked at, and so are the items
of a list.  Blanks at the ends are the only thing that trimming can see: what begins and ends with
other characters stays as it is, also as a part of a longer text.

## Main Definitions

* `Blank` — a text of blanks only
* `Tight` — a text that begins and ends with other characters
* `Padded` — a text with blanks around it
* `IsItem` — a text that can be an item of a list

## Main Results

* `exists_trim`, `trim_eq_self_iff` — trimming takes away the blanks at the ends and nothing else
* `Tight.trim_append` — behind a tight text only the end is trimmed
* `mem_listItems` — the items of a list are its pieces, trimmed, unless nothing is left
-/

namespace BalancerSync.Text

variable {front left right cs w : List Char} {c : Char}

/-! ### Blanks at the ends -/

/-- A text of blanks only. -/
def Blank (cs : List Char) : Prop := ∀ c ∈ cs, isBlank c = true

instance (cs : List Char) : Decidable (Blank cs) := List.decidableBAll (isBlank · = true) cs

@[simp] theorem blank_nil : Blank [] := by simp [Blank]

@[simp] theorem blank_cons : Blank (c :: cs) ↔ isBlank c = true ∧ Blank cs :=
  List.forall_mem_cons

@[simp] theorem blank_append : Blank (w ++ cs) ↔ Blank w ∧ Blank cs :=
  List.forall_mem_append

/-- Characters that can be seen are not among blanks. -/
theorem Blank.not_mem (h : Blank w) (hc : isBlank c = false) : c ∉ w := by
  intro hmem
  rw [h c hmem] at hc
  cases hc

/-- Trimming the end is taking a longest run off the right, for which there are laws. -/
theorem trimEnd_eq_rdropWhile (cs : List Char) : trimEnd cs = cs.rdropWhile isBlank := rfl

/-- Blanks in front are taken off first, whatever comes behind them. -/
theorem trimStart_append (h : Blank w) (cs : List Char) : trimStart (w ++ cs) = trimStart cs :=
  List.dropWhile_append_of_pos h

/-- Blanks at the end do not keep those before them. -/
theorem trimEnd_append (h : Blank w) (cs : List Char) : trimEnd (cs ++ w) = trimEnd cs := by
  unfold trimEnd
  rw [List.reverse_append, List.dropWhile_append_of_pos]
  intro c hc
  exact h c (List.mem_reverse.1 hc)

/-- Further blanks in front make no difference. -/
theorem trim_blank_append (h : Blank w) (cs : List Char) : trim (w ++ cs) = trim cs := by
  rw [trim, trimStart_append h, ← trim]

/-- Further blanks at the end make no difference either. -/
theorem trim_append_blank (h : Blank w) (cs : List Char) : trim (cs ++ w) = trim cs := by
  unfold trim trimStart
  rw [List.dropWhile_append]
  split
  · rename_i hcs
    rw [List.dropWhile_eq_nil_iff.2 h, List.isEmpty_iff.1 hcs]
  · exact trimEnd_append h _

/-- Trimming takes away blanks at both ends. -/
theorem exists_trim (cs : List Char) :
    ∃ a b, Blank a ∧ Blank b ∧ cs = a ++ trim cs ++ b := by
  refine ⟨cs.takeWhile isBlank, (trimStart cs).rtakeWhile isBlank,
    fun c hc => List.mem_takeWhile_imp hc, fun c hc => List.mem_rtakeWhile_imp hc, ?_⟩
  rw [trim, trimEnd_eq_rdropWhile, List.append_assoc, List.rdropWhile_append_rtakeWhile]
  exact List.takeWhile_append_dropWhile.symm

/-- What is left of a text is a piece of it, in one part. -/
theorem infix_trim (cs : List Char) : trim cs <:+: cs := by
  obtain ⟨a, b, -, -, heq⟩ := exists_trim cs
  exact ⟨a, b, heq.symm⟩

theorem mem_of_mem_trim (h : c ∈ trim cs) : c ∈ cs := (infix_trim cs).subset h

theorem length_trim_le (cs : List Char) : (trim cs).length ≤ cs.length := (infix_trim cs).length_le

/-- A text that has lost nothing in length has not been changed. -/
theorem trim_eq_self_of_length_le (h : cs.length ≤ (trim cs).length) : trim cs = cs :=
  (infix_trim cs).eq_of_length_le h

/-- Nothing is left exactly of the texts that are blank. -/
@[simp] theorem trim_eq_nil_iff : trim cs = [] ↔ Blank cs := by
  constructor
  · intro h
    obtain ⟨a, b, ha, hb, heq⟩ := exists_trim cs
    rw [heq, h]
    simp [ha, hb]
  · intro h
    exact trim_append_blank h []

/-- Trimming leaves a text as it is exactly if there are no blanks at its ends. -/
theorem trim_eq_self_iff : trim cs = cs ↔
    (∀ c ∈ cs.head?, isBlank c = false) ∧ ∀ c ∈ cs.getLast?, isBlank c = false := by
  constructor
  · intro h
    constructor
    · intro c hc
      by_contra hblank
      obtain ⟨rest, rfl⟩ := List.head?_eq_some_iff.1 hc
      have hshort := length_trim_le rest
      rw [← trim_blank_append (w := [c]) (by simpa using hblank), List.singleton_append, h,
        List.length_cons] at hshort
      omega
    · intro c hc
      by_contra hblank
      obtain ⟨front, rfl⟩ := List.getLast?_eq_some_iff.1 hc
      have hshort := length_trim_le front
      rw [← trim_append_blank (w := [c]) (by simpa using hblank), h,
        List.length_append, List.length_singleton] at hshort
      omega
  · rintro ⟨hhead, hlast⟩
    have hstart : trimStart cs = cs := by
      cases cs with
      | nil => rfl
      | cons c rest => simp [trimStart, hhead c rfl]
    rw [trim, hstart, trimEnd_eq_rdropWhile, List.rdropWhile_eq_self_iff]
    intro hne
    simpa using hlast _ (List.getLast?_eq_some_getLast hne)

/-- A text that has been trimmed has no outer blanks, so a second time takes nothing off. -/
@[simp] theorem trim_trim (cs : List Char) : trim (trim cs) = trim cs := by
  obtain ⟨a, b, ha, hb, heq⟩ := exists_trim cs
  calc trim (trim cs) = trim (a ++ trim cs ++ b) := by
        rw [trim_append_blank hb, trim_blank_append ha]
    _ = trim cs := by rw [← heq]

theorem exists_trimEnd (cs : List Char) : ∃ b, Blank b ∧ cs = trimEnd cs ++ b :=
  ⟨cs.rtakeWhile isBlank, fun _ hc => List.mem_rtakeWhile_imp hc,
    List.rdropWhile_append_rtakeWhile.symm⟩

theorem mem_of_mem_trimEnd (h : c ∈ trimEnd cs) : c ∈ cs := by
  obtain ⟨b, -, heq⟩ := exists_trimEnd cs
  rw [heq]
  exact List.mem_append_left b h

/-- The end can be trimmed beforehand. -/
@[simp] theorem trim_trimEnd (cs : List Char) : trim (trimEnd cs) = trim cs := by
  obtain ⟨b, hb, heq⟩ := exists_trimEnd cs
  conv_rhs => rw [heq, trim_append_blank hb]

/-- A text without outer blanks has none at its end. -/
theorem trimEnd_eq_self (h : trim cs = cs) : trimEnd cs = cs := by
  obtain ⟨b, -, heq⟩ := exists_trimEnd cs
  have hlength := length_trim_le (trimEnd cs)
  rw [trim_trimEnd, h] at hlength
  refine ((List.prefix_append (trimEnd cs) b).eq_of_length_le ?_).trans heq.symm
  rwa [← heq]

theorem trimEnd_trimEnd (cs : List Char) : trimEnd (trimEnd cs) = trimEnd cs :=
  List.rdropWhile_idempotent isBlank cs

/-- A text that begins and ends with characters that can be seen. -/
structure Tight (cs : List Char) : Prop where
  head : ∃ c, cs.head? = some c ∧ isBlank c = false
  last : ∃ c, cs.getLast? = some c ∧ isBlank c = false

/-- Being tight is having something to see at both ends: there is something, and trimming does not
change it. -/
theorem tight_iff : Tight cs ↔ trim cs = cs ∧ cs ≠ [] := by
  rw [trim_eq_self_iff]
  constructor
  · rintro ⟨⟨c, hc, hblank⟩, ⟨d, hd, hblank'⟩⟩
    refine ⟨⟨?_, ?_⟩, ?_⟩
    · rintro _ hc'
      rwa [← Option.some.inj (hc.symm.trans hc')]
    · rintro _ hd'
      rwa [← Option.some.inj (hd.symm.trans hd')]
    · rintro rfl
      cases hc
  · rintro ⟨⟨hhead, hlast⟩, hne⟩
    exact ⟨⟨_, List.head?_eq_some_head hne, hhead _ (List.head?_eq_some_head hne)⟩,
      ⟨_, List.getLast?_eq_some_getLast hne, hlast _ (List.getLast?_eq_some_getLast hne)⟩⟩

instance (cs : List Char) : Decidable (Tight cs) := decidable_of_iff _ tight_iff.symm

/-- A text without blanks is tight, unless it is empty. -/
theorem tight_of_not_isBlank (hne : cs ≠ []) (h : ∀ c ∈ cs, isBlank c = false) : Tight cs :=
  ⟨⟨_, List.head?_eq_some_head hne, h _ (List.head_mem hne)⟩,
    ⟨_, List.getLast?_eq_some_getLast hne, h _ (List.getLast_mem hne)⟩⟩

/-- What stands between two tight texts is out of reach for trimming. -/
theorem Tight.append (h : Tight left) (h' : Tight right) (mid : List Char) :
    Tight (left ++ (mid ++ right)) := by
  obtain ⟨c, hc, hblank⟩ := h.head
  obtain ⟨d, hd, hblank'⟩ := h'.last
  exact ⟨⟨c, by simp [List.head?_append, hc], hblank⟩,
    ⟨d, by simp [List.getLast?_append, hd], hblank'⟩⟩

/-- Behind a text that ends with a character that can be seen, only the blanks at the end are taken
away. -/
theorem Tight.trim_append (h : Tight front) (cs : List Char) :
    trim (front ++ cs) = front ++ trimEnd cs := by
  obtain ⟨b, hb, heq⟩ := exists_trimEnd cs
  have htrim : trim (front ++ cs) = trim (front ++ trimEnd cs) := by
    conv_lhs => rw [heq, ← List.append_assoc, trim_append_blank hb]
  rw [htrim]
  by_cases hnil : trimEnd cs = []
  · rw [hnil, List.append_nil]
    exact (tight_iff.1 h).1
  · have hend : isBlank ((trimEnd cs).getLast hnil) = false := by
      rw [Bool.eq_false_iff]
      exact List.rdropWhile_last_not isBlank cs hnil
    obtain ⟨c, hc, hblank⟩ := h.head
    refine (tight_iff.1 ⟨⟨c, by simp [List.head?_append, hc], hblank⟩, ⟨_, ?_, hend⟩⟩).1
    rw [List.getLast?_append, List.getLast?_eq_some_getLast hnil]
    rfl

/-- A text with blanks around it. -/
def Padded (text cs : List Char) : Prop := ∃ a b, Blank a ∧ Blank b ∧ cs = a ++ text ++ b

theorem Padded.refl (cs : List Char) : Padded cs cs := ⟨[], [], blank_nil, blank_nil, by simp⟩

/-- Blanks in front pad a text. -/
theorem Blank.padded_append (h : Blank w) (cs : List Char) : Padded cs (w ++ cs) :=
  ⟨w, [], h, blank_nil, by simp⟩

/-- Blanks behind pad a text. -/
theorem Blank.padded (h : Blank w) (cs : List Char) : Padded cs (cs ++ w) :=
  ⟨[], w, blank_nil, h, rfl⟩

/-- Padding is lost when a text is trimmed. -/
theorem Padded.trim_eq (h : Padded w cs) : trim cs = trim w := by
  obtain ⟨a, b, ha, hb, rfl⟩ := h
  rw [trim_append_blank hb, trim_blank_append ha]

theorem Padded.length_le (h : Padded w cs) : w.length ≤ cs.length := by
  obtain ⟨a, b, -, -, rfl⟩ := h
  simp only [List.length_append]
  omega

/-- Padding brings in blanks only. -/
theorem Padded.mem_iff (h : Padded w cs) (hc : isBlank c = false) : c ∈ cs ↔ c ∈ w := by
  obtain ⟨a, b, ha, hb, rfl⟩ := h
  simp [ha.not_mem hc, hb.not_mem hc]

/-- The padded forms of a text without outer blanks are the texts that are trimmed to it. -/
theorem padded_iff (h : trim w = w) : Padded w cs ↔ trim cs = w := by
  constructor
  · intro hpad
    rw [hpad.trim_eq, h]
  · rintro rfl
    exact exists_trim cs

/-! ### Items of a list -/

/-- A text that can stand in a list: it begins and ends with characters that can be seen, and it has
no commas. -/
structure IsItem (item : String) : Prop where
  tight : Tight item.toList
  comma_not_mem : ',' ∉ item.toList

/-- The items of a list are what is left of its pieces when they are trimmed, but for those that are
blank. -/
theorem mem_listItems {item text : String} :
    item ∈ listItems text ↔ item ≠ "" ∧ ∃ p ∈ pieces ',' text.toList, trim p = item.toList := by
  simp only [listItems, List.mem_filterMap, List.mem_map, Option.ite_none_left_eq_some,
    List.isEmpty_iff, Option.some.injEq]
  constructor
  · rintro ⟨_, ⟨p, hp, rfl⟩, hne, rfl⟩
    exact ⟨by simpa [String.ext_iff] using hne, p, hp, by simp⟩
  · rintro ⟨hne, p, hp, heq⟩
    rw [← String.toList_eq_nil_iff.ne, ← heq] at hne
    exact ⟨trim p, ⟨p, hp, rfl⟩, hne, by rw [heq, String.ofList_toList]⟩

/-- A tight piece is an item as it stands. -/
theorem ofList_mem_listItems {p : List Char} (h : p ∈ pieces ',' cs) (hp : Tight p) :
    String.ofList p ∈ listItems (String.ofList cs) := by
  obtain ⟨htrim, hne⟩ := tight_iff.1 hp
  rw [mem_listItems, String.toList_ofList, String.toList_ofList]
  exact ⟨by simpa [← String.toList_eq_nil_iff] using hne, p, h, htrim⟩

/-- An item is neither empty nor padded, and there is no comma in it. -/
theorem isItem_of_mem_listItems {item text : String} (h : item ∈ listItems text) : IsItem item := by
  obtain ⟨hne, p, hp, heq⟩ := mem_listItems.1 h
  rw [← String.toList_eq_nil_iff.ne] at hne
  refine ⟨tight_iff.2 ⟨?_, hne⟩, fun hcomma => ?_⟩
  · rw [← heq, trim_trim]
  · rw [← heq] at hcomma
    exact (of_mem_pieces hp).1 (mem_of_mem_trim hcomma)

/-- The characters of the items are characters of the list. -/
theorem mem_of_mem_listItems {item text : String} (h : item ∈ listItems text)
    (hc : c ∈ item.toList) : c ∈ text.toList := by
  obtain ⟨-, p, hp, heq⟩ := mem_listItems.1 h
  rw [← heq] at hc
  exact (of_mem_pieces hp).2 c (mem_of_mem_trim hc)

/-- A list has at most one item more than it has commas. -/
theorem length_listItems_le (text : String) :
    (listItems text).length ≤ text.toList.count ',' + 1 := by
  rw [← length_pieces, listItems]
  exact (List.length_filterMap_le _ _).trans (List.length_map _).le

end BalancerSync.Text
