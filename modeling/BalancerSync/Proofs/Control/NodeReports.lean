import BalancerSync.Control.Loop
import BalancerSync.Proofs.Control.NodeWatch
import Mathlib.Data.List.Induction

/-!
# What a report brings

Nodes report again and again, and every list tells of all of them once more.  Whether an event
passes is decided by the events before it alone: what is remembered under a name is the report that
stands, which is the last event about the name if that is a report, and nothing if it is a departure
or if there has been none.  A departure always passes.  A report passes if no report stands under
its name, or if the one that stands says something else of what target selection reads.

## Main Definitions

* `Stands` — the report that is in force under a name after some events
* `DifferForTargets` — two reports of which target selection reads different things
* `Repeats` — an event that brings nothing new

## Main Results

* `fingerprint?_after` — what is remembered is the report that stands
* `noticed_iff` — which events pass, by the events before them, and that the loop plans no pass for
  those that bring nothing new
-/

namespace BalancerSync.Control

open Cluster (Node)

variable {past events : List NodeEvent} {e : NodeEvent} {name : String} {m n : Node}
  {f : Fingerprint} {c : NodeChanges} {l : Loop}

/-! ### Reports -/

/-- The node that an event reports. -/
def NodeEvent.report? : NodeEvent → Option Node
  | .applied n | .listed n => some n
  | .deleted _ | .listBegins | .listEnds => none

/-- The name that an event is about. -/
def NodeEvent.subject? : NodeEvent → Option String
  | .applied n | .listed n | .deleted n => some n.metadata.anyName
  | .listBegins | .listEnds => none

/-- After some events the report of a node stands under a name: it is a report for this name, and no
later event reports or deletes a node of the name. -/
def Stands (past : List NodeEvent) (name : String) (m : Node) : Prop :=
  ∃ before e after, past = before ++ e :: after ∧ e.report? = some m ∧
    m.metadata.anyName = name ∧ ∀ x ∈ after, x.subject? ≠ some name

/-- Two reports of which target selection reads different things.  Labels differ in the value under
some key, so a node without labels is like one whose labels are empty. -/
def DifferForTargets (m n : Node) : Prop :=
  (∃ key, m.metadata.labels.get? key ≠ n.metadata.labels.get? key) ∨
    m.providerID ≠ n.providerID ∨ m.metadata.isDeleting ≠ n.metadata.isDeleting

theorem ofNode_eq_iff : Fingerprint.ofNode m = Fingerprint.ofNode n ↔ ¬ DifferForTargets m n := by
  have hlabels : m.metadata.labels = n.metadata.labels ↔
      ∀ key, m.metadata.labels.get? key = n.metadata.labels.get? key :=
    ⟨fun h key => by rw [h], Labels.ext_get?⟩
  simp only [Fingerprint.ofNode, Fingerprint.mk.injEq, hlabels, DifferForTargets, not_or,
    not_exists, not_not]

theorem subject?_of_report? (h : e.report? = some m) : e.subject? = some m.metadata.anyName := by
  cases e <;> cases h <;> rfl

theorem not_stands_nil : ¬ Stands [] name m := by
  rintro ⟨before, e, after, h, -⟩
  simp at h

/-- An event about a name settles which report stands under it; any other event leaves it. -/
theorem stands_concat : Stands (past ++ [e]) name m ↔
    if e.subject? = some name then e.report? = some m else Stands past name m := by
  constructor
  · rintro ⟨before, x, after, hsplit, hx, hname, hafter⟩
    rcases List.eq_nil_or_concat after with rfl | ⟨rest, y, rfl⟩
    · obtain ⟨rfl, hlast⟩ := List.append_inj' hsplit rfl
      obtain rfl : e = x := List.singleton_injective hlast
      rw [if_pos (hname ▸ subject?_of_report? hx)]
      exact hx
    · rw [List.concat_eq_append, ← List.cons_append, ← List.append_assoc] at hsplit
      obtain ⟨rfl, hlast⟩ := List.append_inj' hsplit rfl
      obtain rfl : e = y := List.singleton_injective hlast
      rw [if_neg (hafter e (by simp))]
      exact ⟨before, x, rest, rfl, hx, hname, fun z hz => hafter z (by simp [hz])⟩
  · intro h
    split at h
    · rename_i hsubject
      have hname := hsubject.symm.trans (subject?_of_report? h)
      exact ⟨past, e, [], rfl, h, (Option.some.inj hname).symm, by simp⟩
    · rename_i hsubject
      obtain ⟨before, x, after, rfl, hx, hname, hafter⟩ := h
      refine ⟨before, x, after ++ [e], by simp, hx, hname, fun z hz => ?_⟩
      rcases List.mem_append.1 hz with hz | hz
      · exact hafter z hz
      · rw [List.mem_singleton.1 hz]
        exact hsubject

/-! ### What is remembered -/

/-- An event settles what is remembered under the name that it is about. -/
theorem fingerprint?_notice (c : NodeChanges) (e : NodeEvent) (name : String) :
    (c.notice e).2.fingerprint? name =
      if e.subject? = some name then e.report?.map .ofNode else c.fingerprint? name := by
  have hlook : ∀ n : Node, (c.look n).2.fingerprint? name =
      if some n.metadata.anyName = some name then some (.ofNode n) else c.fingerprint? name := by
    intro n
    rw [NodeChanges.look, fingerprint?_remember]
    simp only [Option.some.injEq, eq_comm]
  cases e with
  | applied n => exact hlook n
  | listed n => exact hlook n
  | deleted n =>
    rw [NodeChanges.notice, fingerprint?_forget]
    simp only [NodeEvent.subject?, NodeEvent.report?, Option.map_none, Option.some.injEq, eq_comm]
  | listBegins => rfl
  | listEnds => rfl

theorem after_concat : c.after (events ++ [e]) = ((c.after events).notice e).2 := by
  simp [NodeChanges.after]

/-- What is remembered under a name is the report that stands there. -/
theorem fingerprint?_after : (NodeChanges.none.after events).fingerprint? name = some f ↔
    ∃ m, Stands events name m ∧ Fingerprint.ofNode m = f := by
  induction events using List.reverseRecOn with
  | nil => simp [NodeChanges.after, NodeChanges.none, NodeChanges.fingerprint?, not_stands_nil]
  | append_singleton events e ih =>
    simp only [after_concat, fingerprint?_notice, stands_concat]
    split
    · rw [Option.map_eq_some_iff]
    · exact ih

/-- The report that stands is one. -/
theorem ofNode_eq_of_stands {m m' : Node} (h : Stands past name m) (h' : Stands past name m') :
    Fingerprint.ofNode m = Fingerprint.ofNode m' := by
  have hm := fingerprint?_after.2 ⟨m, h, rfl⟩
  have hm' := fingerprint?_after.2 ⟨m', h', rfl⟩
  exact Option.some.inj (hm.symm.trans hm')

/-! ### What passes -/

/-- An event lets its own node pass or none: always that of a departure, and a reported one unless
it is remembered as it is. -/
theorem notice_eq_some_iff : (c.notice e).1 = some n ↔
    e = .deleted n ∨ e.report? = some n ∧
      c.fingerprint? n.metadata.anyName ≠ some (.ofNode n) := by
  have hlook : ∀ m, (c.look m).1 = some n ↔
      some m = some n ∧ c.fingerprint? n.metadata.anyName ≠ some (.ofNode n) := by
    intro m
    simp only [NodeChanges.look]
    split
    · rename_i hsame
      refine ⟨fun h => (by cases h), ?_⟩
      rintro ⟨h, hnew⟩
      cases h
      exact absurd hsame hnew
    · rename_i hnew
      refine ⟨fun h => ?_, fun h => h.1⟩
      cases h
      exact ⟨rfl, hnew⟩
  cases e with
  | applied m => simpa [NodeChanges.notice, NodeEvent.report?] using hlook m
  | listed m => simpa [NodeChanges.notice, NodeEvent.report?] using hlook m
  | deleted m => simp [NodeChanges.notice, NodeEvent.report?]
  | listBegins => simp [NodeChanges.notice, NodeEvent.report?]
  | listEnds => simp [NodeChanges.notice, NodeEvent.report?]

theorem getElem?_noticeAll (c : NodeChanges) (events : List NodeEvent) (k : Nat) :
    (c.noticeAll events)[k]? =
      events[k]?.map fun e => ((c.after (events.take k)).notice e).1 := by
  induction events generalizing c k with
  | nil => rfl
  | cons e events ih =>
    cases k with
    | zero => rfl
    | succ k => exact ih (c.notice e).2 k

theorem length_noticeAll (c : NodeChanges) (events : List NodeEvent) :
    (c.noticeAll events).length = events.length := by
  induction events generalizing c with
  | nil => rfl
  | cons e events ih => exact congrArg Nat.succ (ih (c.notice e).2)

/-- Nothing that stands under the name of a node is like it, or else it is remembered. -/
theorem fingerprint?_after_ne_iff :
    (NodeChanges.none.after past).fingerprint? n.metadata.anyName ≠ some (.ofNode n) ↔
      (¬ ∃ m, Stands past n.metadata.anyName m) ∨
        ∃ m, Stands past n.metadata.anyName m ∧ DifferForTargets m n := by
  rw [Ne, fingerprint?_after, not_exists]
  constructor
  · intro hnew
    by_cases h : ∃ m, Stands past n.metadata.anyName m
    · obtain ⟨m, hm⟩ := h
      exact .inr ⟨m, hm, not_not.1 fun hsame => hnew m ⟨hm, ofNode_eq_iff.2 hsame⟩⟩
    · exact .inl h
  · rintro (hnone | ⟨m, hm, hdiffer⟩) m' ⟨hm', hsame⟩
    · exact hnone ⟨m', hm'⟩
    · exact ofNode_eq_iff.1 ((ofNode_eq_of_stands hm hm').trans hsame) hdiffer

/-! ### What the loop makes of it -/

/-- The events that bring nothing new after some others: the ends of a list, and the report of a
node like the one that stands. -/
def Repeats (past : List NodeEvent) : NodeEvent → Prop
  | .listBegins | .listEnds => True
  | .deleted _ => False
  | .applied n | .listed n => ∃ m, Stands past n.metadata.anyName m ∧ ¬ DifferForTargets m n

/-- The loop after it has taken in some events of the nodes, each at its time. -/
def Loop.observeNodes (l : Loop) (events : List (Duration × NodeEvent)) : Loop :=
  events.foldl (fun l e => l.observe e.1 (.node e.2)) l

theorem notice_of_repeats (h : Repeats past e)
    (hc : ∀ name, c.fingerprint? name = (NodeChanges.none.after past).fingerprint? name) :
    (c.notice e).1 = none := by
  have hlook : ∀ n, (∃ m, Stands past n.metadata.anyName m ∧ ¬ DifferForTargets m n) →
      (c.look n).1 = none := by
    rintro n ⟨m, hm, hsame⟩
    rw [NodeChanges.look, hc, fingerprint?_after.2 ⟨m, hm, ofNode_eq_iff.2 hsame⟩]
    exact if_pos rfl
  cases e with
  | applied n => exact hlook n h
  | listed n => exact hlook n h
  | deleted n => exact h.elim
  | listBegins => rfl
  | listEnds => rfl

/-- An event that does not pass leaves everything about the loop but what is remembered. -/
theorem observe_of_unnoticed {time : Duration} (h : (l.changes.notice e).1 = none) :
    l.observe time (.node e) = { l with changes := (l.changes.notice e).2 } := by
  simp only [Loop.observe, h]
  rfl

theorem observeNodes_of_repeats {more : List (Duration × NodeEvent)}
    (hl : ∀ name, l.changes.fingerprint? name = (NodeChanges.none.after past).fingerprint? name)
    (hmore : ∀ x ∈ more, Repeats past x.2) :
    l.observeNodes more = { l with changes := l.changes.after (more.map (·.2)) } := by
  induction more generalizing l with
  | nil => rfl
  | cons x more ih =>
    obtain ⟨hx, hmore⟩ := List.forall_mem_cons.1 hmore
    have hunnoticed := notice_of_repeats hx hl
    show (l.observe x.1 (.node x.2)).observeNodes more = _
    rw [observe_of_unnoticed hunnoticed, ih (fun name => ?_) hmore]
    · rfl
    · exact (fingerprint?_of_notice_eq_none hunnoticed name).trans (hl name)

/-- Of a sequence of events, the one at any place lets a node pass exactly if it deletes this node,
or it reports this node and, after the events before it, either no report stands under the node's
name or the one that stands differs from it for target selection.

However often nodes are then reported as they stand, singly or in lists, the loop stays as it is but
for what it remembers, so it plans no pass. -/
theorem noticed_iff (events : List NodeEvent) :
    (NodeChanges.none.noticeAll events).length = events.length ∧
    (∀ (k : Nat) (n : Node), (NodeChanges.none.noticeAll events)[k]? = some (some n) ↔
      events[k]? = some (.deleted n) ∨
        (events[k]? = some (.applied n) ∨ events[k]? = some (.listed n)) ∧
          ((¬ ∃ m, Stands (events.take k) n.metadata.anyName m) ∨
            ∃ m, Stands (events.take k) n.metadata.anyName m ∧ DifferForTargets m n)) ∧
    ∀ (l : Loop) (more : List (Duration × NodeEvent)),
      l.changes = NodeChanges.none.after events → (∀ x ∈ more, Repeats events x.2) →
        l.observeNodes more = { l with changes := l.changes.after (more.map (·.2)) } := by
  refine ⟨length_noticeAll _ events, fun k n => ?_, fun l more hl hmore => ?_⟩
  · rw [getElem?_noticeAll]
    rcases events[k]? with _ | e
    · simp
    · have hreport : e.report? = some n ↔ e = .applied n ∨ e = .listed n := by
        cases e <;> simp [NodeEvent.report?]
      simp only [Option.map_some, Option.some.injEq, notice_eq_some_iff, hreport,
        fingerprint?_after_ne_iff]
  · exact observeNodes_of_repeats (fun name => by rw [hl]) hmore

open Sample in
/-- A second report says nothing new, one after a departure does. -/
example : NodeChanges.none.noticeAll (list [a, b] ++ [.applied a, .deleted a] ++ list [a, b]) =
    [none, some a, some b, none, none, some a, none, some a, none, none] := by
  decide

end BalancerSync.Control
