import BalancerSync.Cloud.Call

/-!
# The order of changes

A pass sees to one thing after the other, and each of its changes belongs to one of ten turns.  A
list of changes that is put together turn by turn is in the order of the turns, and whatever is
asked about the changes of one turn can be answered by looking at that turn alone.

## Main Definitions

* `Call.turn?` — the turn in which a pass makes a change
* `InTurn` — changes that are put together turn by turn

## Main Results

* `InTurn.pairwise` — such changes are in order
* `InTurn.filter_turn` — the changes of one turn are those that were put together for it
-/

namespace BalancerSync.Cloud

/-- The turn in which a pass makes a change: name and labels, algorithm, type, detachments, the
attachment, the public interface, removals of targets, additions of targets, services that are added
or changed, and services that are deleted. -/
def Call.turn? : Call → Option Nat
  | update _ _ => some 0
  | changeAlgorithm _ _ => some 1
  | changeType _ _ => some 2
  | detachFromNetwork _ _ => some 3
  | attachToNetwork _ _ _ => some 4
  | enablePublicInterface _ | disablePublicInterface _ => some 5
  | removeTarget _ _ => some 6
  | addTarget _ _ _ => some 7
  | addService _ _ | updateService _ _ _ => some 8
  | deleteService _ _ => some 9
  | create _ | delete _ | getById _ | getByName _ | listByLabel _ | getCertificate _
  | getNetworkById _ | getNetworkByName _ | getAction _ => none

/-- The listen port that a change to the services concerns. -/
def Call.listenPort? : Call → Option Nat
  | addService _ options => some options.listenPort
  | updateService _ n _ | deleteService _ n => some n
  | _ => none

/-- Changes to the services have the last turns. -/
theorem Call.exists_turn?_of_listenPort? {c : Call} {n : Nat} (h : c.listenPort? = some n) :
    ∃ k, c.turn? = some k ∧ 8 ≤ k := by
  cases c with
  | addService => exact ⟨8, rfl, Nat.le_refl 8⟩
  | updateService => exact ⟨8, rfl, Nat.le_refl 8⟩
  | deleteService => exact ⟨9, rfl, by omega⟩
  | _ => cases h

/-- A change that may come before another. -/
def Call.MayPrecede (c d : Call) : Prop := ∀ m ∈ c.turn?, ∀ n ∈ d.turn?, m ≤ n

variable {parts : List (Nat × List Call)} {k : Nat} {part : List Call} {c : Call}

/-- Changes that are put together turn by turn. -/
structure InTurn (parts : List (Nat × List Call)) : Prop where
  ascending : (parts.map Prod.fst).Pairwise (· < ·)
  turn : ∀ p ∈ parts, ∀ c ∈ p.2, c.turn? = some p.1

namespace InTurn

theorem tail {p : Nat × List Call} (h : InTurn (p :: parts)) : InTurn parts :=
  ⟨(List.pairwise_cons.1 h.ascending).2, fun q hq => h.turn q (List.mem_cons_of_mem _ hq)⟩

/-- The changes are in the order of their turns. -/
theorem pairwise (h : InTurn parts) : (parts.flatMap Prod.snd).Pairwise Call.MayPrecede := by
  rw [List.pairwise_flatMap]
  constructor
  · intro p hp
    refine List.Pairwise.imp_of_mem (R := fun _ _ => True) (fun hc hd _ m hm n hn => ?_)
      (List.pairwise_of_forall fun _ _ => trivial)
    rw [h.turn p hp _ hc] at hm
    rw [h.turn p hp _ hd] at hn
    exact Nat.le_of_eq ((Option.some.inj hm).symm.trans (Option.some.inj hn))
  · refine (List.pairwise_map.1 h.ascending).imp_of_mem fun hp hq hlt c hc d hd m hm n hn => ?_
    rw [h.turn _ hp c hc] at hm
    rw [h.turn _ hq d hd] at hn
    obtain rfl := Option.some.inj hm
    obtain rfl := Option.some.inj hn
    exact Nat.le_of_lt hlt

/-- The changes of one turn are those that were put together for it. -/
theorem filter_turn (h : InTurn parts) (hpart : (k, part) ∈ parts) :
    (parts.flatMap Prod.snd).filter (fun c => c.turn? = some k) = part := by
  induction parts with
  | nil => cases hpart
  | cons p rest ih =>
    obtain ⟨hlater, -⟩ := List.pairwise_cons.1 h.ascending
    rw [List.flatMap_cons, List.filter_append]
    rcases List.mem_cons.1 hpart with rfl | hpart
    · -- No later turn has the same number.
      have hrest : (rest.flatMap Prod.snd).filter (fun c => c.turn? = some k) = [] := by
        rw [List.filter_eq_nil_iff]
        intro c hc
        obtain ⟨q, hq, hc⟩ := List.mem_flatMap.1 hc
        have hlt : k < q.1 := hlater q.1 (List.mem_map_of_mem hq)
        rw [h.tail.turn q hq c hc]
        simp only [Option.some.injEq, decide_eq_true_eq]
        omega
      rw [hrest, List.append_nil, List.filter_eq_self]
      intro c hc
      exact decide_eq_true (h.turn _ List.mem_cons_self c hc)
    -- The first turn has an earlier number.
    · have hfirst : p.2.filter (fun c => c.turn? = some k) = [] := by
        rw [List.filter_eq_nil_iff]
        intro c hc
        have hlt : p.1 < k := hlater k (List.mem_map_of_mem (f := Prod.fst) hpart)
        rw [h.turn p List.mem_cons_self c hc]
        simp only [Option.some.injEq, decide_eq_true_eq]
        omega
      rw [hfirst, List.nil_append]
      exact ih h.tail hpart

/-- A change occurs as often as it does in its turn. -/
theorem count (h : InTurn parts) (hpart : (k, part) ∈ parts) (hc : c.turn? = some k) :
    (parts.flatMap Prod.snd).count c = part.count c := by
  rw [← h.filter_turn hpart]
  exact (List.count_filter (p := fun d : Call => decide (d.turn? = some k)) (decide_eq_true hc)).symm

/-- A change occurs exactly if it does in its turn. -/
theorem mem_iff (h : InTurn parts) (hpart : (k, part) ∈ parts) (hc : c.turn? = some k) :
    c ∈ parts.flatMap Prod.snd ↔ c ∈ part := by
  rw [← List.count_pos_iff, h.count hpart hc, List.count_pos_iff]

/-- The changes for a listen port are found in the last turns. -/
theorem filter_listenPort (h : InTurn parts) (n : Nat) :
    (parts.flatMap Prod.snd).filter (fun c => c.listenPort? = some n) =
      ((parts.filter fun p => 8 ≤ p.1).flatMap Prod.snd).filter
        fun c => c.listenPort? = some n := by
  induction parts with
  | nil => rfl
  | cons p rest ih =>
    rw [List.flatMap_cons, List.filter_append, ih h.tail]
    by_cases hp : 8 ≤ p.1
    · rw [List.filter_cons_of_pos (by simpa using hp), List.flatMap_cons, List.filter_append]
    · have hnone : p.2.filter (fun c => c.listenPort? = some n) = [] := by
        rw [List.filter_eq_nil_iff]
        intro c hc hport
        obtain ⟨k, hk, hlast⟩ := Call.exists_turn?_of_listenPort? (of_decide_eq_true hport)
        rw [h.turn p List.mem_cons_self c hc] at hk
        exact hp (Option.some.inj hk ▸ hlast)
      rw [hnone, List.nil_append, List.filter_cons_of_neg (by simpa using hp)]

end InTurn

end BalancerSync.Cloud
