import BalancerSync.Control.NodeChanges
import BalancerSync.Proofs.Desired.Targets

/-!
# Watching the nodes

A watch begins with a list of all nodes, goes on with single events, and begins again with a list
when it was interrupted.  A node that a new list does not have is gone; no event says so.  That is
where what is remembered of the nodes and what is known of them part ways: the fingerprint of such a
node stays.  Its departure lets no event pass, and neither does its return, if it comes back as it
was.

`Watch.missed` keeps the names of these nodes.  Up to them, the two agree (`Remembers`), whatever
the events; so as long as no event passes, target selection can see a change only in a node that has
been missed.

## Main Definitions

* `Watch`, `Watch.next?`, `Watch.after?` — what is known of the nodes, one event after the other
* `NodeChanges.ofNodes` — the fingerprints of some nodes
* `Remembers` — how what is remembered is related to what is known

## Main Results

* `remembers_after?` — they stay related
* `serverIds_congr` — target selection reads the fingerprints only
* `targets_of_unnoticed` — what can have changed when no event has passed
* `unnoticed_departure` — a node that leaves during an interruption stays a target
-/

namespace BalancerSync.Control

open Cluster (Node)

variable {nodes others batch : List Node} {n : Node} {name : String} {f : Fingerprint}
  {c : NodeChanges} {e : NodeEvent} {events more : List NodeEvent} {w w' : Watch}

/-! ### What target selection reads -/

/-- The fingerprints of some nodes. -/
def NodeChanges.ofNodes (nodes : List Node) : NodeChanges :=
  ⟨nodes.map fun n => (n.metadata.anyName, .ofNode n)⟩

/-- The provider IDs that target selection finds in some fingerprints. -/
def Fingerprint.providerIds (fs : List Fingerprint) (selector : Selector) : List String :=
  (fs.filter fun f => selector.accepts f.labels).filterMap fun f => f.providerID.filter (· ≠ "")

/-- A fingerprint has all of a node that target selection reads.  Whatever else changes about a node
is no matter for the targets. -/
theorem providerIds_eq (nodes : List Node) (selector : Selector) :
    Desired.providerIds nodes selector =
      Fingerprint.providerIds (nodes.map Fingerprint.ofNode) selector := by
  unfold Desired.providerIds Fingerprint.providerIds
  rw [List.filter_map, List.filterMap_map]
  rfl

/-- Target selection reads the fingerprints only. -/
theorem serverIds_congr (h : nodes.map Fingerprint.ofNode = others.map Fingerprint.ofNode)
    (selector : Selector) :
    Desired.serverIds nodes selector = Desired.serverIds others selector := by
  rw [Desired.serverIds, providerIds_eq, h, ← providerIds_eq, Desired.serverIds]

/-- It selects the same servers from the same fingerprints, in whatever order and however often they
are there. -/
theorem toOption_serverIds_of_mem_iff
    (h : ∀ f, f ∈ nodes.map Fingerprint.ofNode ↔ f ∈ others.map Fingerprint.ofNode)
    (selector : Selector) :
    (Desired.serverIds nodes selector).toOption = (Desired.serverIds others selector).toOption := by
  refine Desired.toOption_serverIds_congr fun p => ?_
  rw [providerIds_eq, providerIds_eq]
  simp only [Fingerprint.providerIds, List.mem_filterMap, List.mem_filter, h]

/-! ### Watches -/

/-- What a watch has told about the nodes. -/
structure Watch where
  /-- The nodes of the last list that has ended, with the single events since then. -/
  known : List Node
  /-- The nodes of a list that has not ended yet. -/
  listing : Option (List Node)
  /-- The names of nodes that were told of and are not in the last list.  Nothing was told of them
  since. -/
  missed : List String
  deriving DecidableEq

namespace Watch

/-- Nothing has been told yet. -/
def fresh : Watch := ⟨[], none, []⟩

def names (nodes : List Node) : List String := nodes.map (·.metadata.anyName)

/-- The nodes without the one of a name. -/
def leave (name : String) (nodes : List Node) : List Node :=
  nodes.filter fun n => n.metadata.anyName ≠ name

/-- The nodes with another one, which takes the place of the one with its name. -/
def enter (n : Node) (nodes : List Node) : List Node := n :: leave n.metadata.anyName nodes

/-- What is known after an event, if it can come now.  Single events do not come while a list is
under way.  A list that breaks off begins again. -/
def next? (w : Watch) : NodeEvent → Option Watch
  | .listBegins =>
    some { w with listing := some [], missed := w.missed ++ names (w.listing.getD []) }
  | .listed n => w.listing.map fun batch => { w with listing := some (enter n batch) }
  | .listEnds => w.listing.map fun batch =>
    ⟨batch, none, (w.missed ++ names w.known).filter (· ∉ names batch)⟩
  | .applied n =>
    match w.listing with
    | none => some ⟨enter n w.known, none, w.missed.filter (· ≠ n.metadata.anyName)⟩
    | some _ => none
  | .deleted n =>
    match w.listing with
    | none =>
      some ⟨leave n.metadata.anyName w.known, none, w.missed.filter (· ≠ n.metadata.anyName)⟩
    | some _ => none

/-- What is known after some events, if they can come in this order. -/
def after? (w : Watch) (events : List NodeEvent) : Option Watch := events.foldlM next? w

end Watch

open Watch (names leave enter)

/-- What is remembered after some events. -/
def NodeChanges.after (c : NodeChanges) (events : List NodeEvent) : NodeChanges :=
  events.foldl (fun c e => (c.notice e).2) c

/-! ### Fingerprints of nodes -/

/-- A node that leaves is forgotten. -/
theorem ofNodes_leave (name : String) (nodes : List Node) :
    NodeChanges.ofNodes (leave name nodes) = (NodeChanges.ofNodes nodes).forget name := by
  simp only [NodeChanges.ofNodes, NodeChanges.forget, leave, List.filter_map]
  rfl

/-- A node that enters is remembered, and what was remembered under its name is replaced. -/
theorem ofNodes_enter (n : Node) (nodes : List Node) :
    NodeChanges.ofNodes (enter n nodes) =
      (NodeChanges.ofNodes nodes).remember n.metadata.anyName (.ofNode n) := by
  rw [NodeChanges.remember, ← ofNodes_leave]
  rfl

/-- Remembering a node changes what is found under its name, and under no other. -/
theorem fingerprint?_remember (c : NodeChanges) (name other : String) (f : Fingerprint) :
    (c.remember name f).fingerprint? other =
      if other = name then some f else c.fingerprint? other := by
  split
  · subst other
    exact c.fingerprint?_remember_self name f
  · rename_i h
    exact c.fingerprint?_remember_ne f (Ne.symm h)

theorem fingerprint?_forget (c : NodeChanges) (name other : String) :
    (c.forget name).fingerprint? other = if other = name then none else c.fingerprint? other := by
  split
  · subst other
    exact c.fingerprint?_forget_self name
  · rename_i h
    exact c.fingerprint?_forget_ne (Ne.symm h)

/-- A node is known by a name exactly if a fingerprint is found under it. -/
theorem mem_names : name ∈ names nodes ↔
    ((NodeChanges.ofNodes nodes).fingerprint? name).isSome = true := by
  simp [NodeChanges.ofNodes, NodeChanges.fingerprint?, names]

/-- Nodes with names of their own are found under them. -/
theorem fingerprint?_of_mem (hnodup : (names nodes).Nodup) (h : n ∈ nodes) :
    (NodeChanges.ofNodes nodes).fingerprint? n.metadata.anyName = some (.ofNode n) := by
  induction nodes with
  | nil => cases h
  | cons m rest ih =>
    obtain ⟨hm, hrest⟩ := List.nodup_cons.1 hnodup
    rcases List.mem_cons.1 h with rfl | h
    · simp [NodeChanges.ofNodes, NodeChanges.fingerprint?]
    · have hne : m.metadata.anyName ≠ n.metadata.anyName := by
        intro heq
        exact hm (List.mem_map.2 ⟨n, h, heq.symm⟩)
      simpa [NodeChanges.ofNodes, NodeChanges.fingerprint?, hne] using ih hrest h

/-! ### What is remembered and what is known -/

/-- How what is remembered is related to what is known: between lists it is what is known and,
beyond that, something about each node that was missed.  While a list is under way it is what the
list has told so far, and something about each node that was known or missed before. -/
inductive Remembers : Watch → NodeChanges → Prop where
  | between {known : List Node} {missed : List String} {c : NodeChanges} :
    (∀ name, (NodeChanges.ofNodes known).fingerprint? name =
      if name ∈ missed then none else c.fingerprint? name) →
    (∀ name ∈ missed, (c.fingerprint? name).isSome = true) → Remembers ⟨known, none, missed⟩ c
  | during {known batch : List Node} {missed : List String} {c : NodeChanges} :
    (∀ name ∈ names batch,
      c.fingerprint? name = (NodeChanges.ofNodes batch).fingerprint? name) →
    (∀ name ∉ names batch, (c.fingerprint? name).isSome = true ↔
      name ∈ missed ∨ name ∈ names known) →
    Remembers ⟨known, some batch, missed⟩ c

theorem remembers_fresh : Remembers .fresh .none :=
  .between (by simp [NodeChanges.ofNodes, NodeChanges.none]) (by simp)

/-- An event keeps what is remembered in step with what is known. -/
theorem Remembers.next? (h : Remembers w c) (hw : w.next? e = some w') :
    Remembers w' (c.notice e).2 := by
  cases h with
  | @between known missed _ hknown hmissed =>
    cases e with
    | applied n =>
      obtain rfl := Option.some.inj hw
      refine .between (fun name => ?_) fun name hname => ?_
      · rw [ofNodes_enter, NodeChanges.notice, NodeChanges.look]
        simp only [fingerprint?_remember, hknown, List.mem_filter, decide_eq_true_eq]
        by_cases heq : name = n.metadata.anyName <;> simp [heq]
      · obtain ⟨hname, hne⟩ := List.mem_filter.1 hname
        have hne : name ≠ n.metadata.anyName := by simpa using hne
        rw [NodeChanges.notice, NodeChanges.look]
        simpa only [fingerprint?_remember, if_neg hne] using hmissed name hname
    | deleted n =>
      obtain rfl := Option.some.inj hw
      refine .between (fun name => ?_) fun name hname => ?_
      · rw [ofNodes_leave, NodeChanges.notice]
        simp only [fingerprint?_forget, hknown, List.mem_filter, decide_eq_true_eq]
        by_cases heq : name = n.metadata.anyName <;> simp [heq]
      · obtain ⟨hname, hne⟩ := List.mem_filter.1 hname
        have hne : name ≠ n.metadata.anyName := by simpa using hne
        simpa only [NodeChanges.notice, fingerprint?_forget, if_neg hne] using hmissed name hname
    | listBegins =>
      obtain rfl := Option.some.inj hw
      refine .during (fun name hname => by cases hname) fun name _ => ?_
      simp only [Option.getD_none, names, List.map_nil, List.append_nil, NodeChanges.notice]
      by_cases hname : name ∈ missed
      · exact iff_of_true (hmissed name hname) (.inl hname)
      · rw [or_iff_right hname]
        change _ ↔ name ∈ names known
        rw [mem_names, hknown, if_neg hname]
    | listed n => cases hw
    | listEnds => cases hw
  | @during known batch missed _ hbatch hothers =>
    cases e with
    | applied n => cases hw
    | deleted n => cases hw
    | listBegins =>
      obtain rfl := Option.some.inj hw
      refine .during (fun name hname => by cases hname) fun name _ => ?_
      simp only [Option.getD_some, List.mem_append, NodeChanges.notice]
      by_cases hname : name ∈ names batch
      · rw [hbatch name hname]
        exact iff_of_true (mem_names.1 hname) (.inl (.inr hname))
      · rw [hothers name hname, or_iff_left hname]
    | listed n =>
      obtain rfl := Option.some.inj hw
      have hmem : ∀ name, name ∈ names (enter n batch) ↔
          name = n.metadata.anyName ∨ name ∈ names batch := by
        intro name
        rw [mem_names, ofNodes_enter, fingerprint?_remember, mem_names]
        by_cases heq : name = n.metadata.anyName <;> simp [heq]
      refine .during (fun name hname => ?_) fun name hname => ?_
      · rw [ofNodes_enter, NodeChanges.notice, NodeChanges.look, fingerprint?_remember,
          fingerprint?_remember]
        split
        · rfl
        · rename_i hne
          exact hbatch name (((hmem name).1 hname).resolve_left hne)
      · rw [hmem, not_or] at hname
        rw [NodeChanges.notice, NodeChanges.look, fingerprint?_remember, if_neg hname.1]
        exact hothers name hname.2
    | listEnds =>
      obtain rfl := Option.some.inj hw
      refine .between (fun name => ?_) fun name hname => ?_
      · simp only [List.mem_filter, List.mem_append, decide_eq_true_eq, NodeChanges.notice]
        by_cases hname : name ∈ names batch
        · rw [if_neg fun h => h.2 hname, hbatch name hname]
        · rw [Option.not_isSome_iff_eq_none.1 (mt mem_names.2 hname)]
          by_cases hstale : name ∈ missed ∨ name ∈ names known
          · rw [if_pos ⟨hstale, hname⟩]
          · rw [if_neg fun h => hstale h.1]
            exact (Option.not_isSome_iff_eq_none.1 (mt (hothers name hname).1 hstale)).symm
      · simp only [List.mem_filter, List.mem_append, decide_eq_true_eq] at hname
        exact (hothers name hname.2).2 hname.1

/-! ### Runs -/

theorem after?_cons : w.after? (e :: events) = (w.next? e).bind fun w => w.after? events := rfl

theorem after_cons : c.after (e :: events) = (c.notice e).2.after events := rfl

/-- What is remembered and what is known stay in step. -/
theorem remembers_after? (h : Remembers w c) (hw : w.after? events = some w') :
    Remembers w' (c.after events) := by
  induction events generalizing w c with
  | nil =>
    obtain rfl := Option.some.inj hw
    exact h
  | cons e events ih =>
    rw [after?_cons] at hw
    obtain ⟨mid, hmid, hw⟩ := Option.bind_eq_some_iff.1 hw
    exact ih (h.next? hmid) hw

/-- An event that does not pass leaves everything remembered as it is. -/
theorem fingerprint?_of_notice_eq_none (h : (c.notice e).1 = none) (name : String) :
    (c.notice e).2.fingerprint? name = c.fingerprint? name := by
  have hlook : ∀ n, (c.look n).1 = none → (c.look n).2.fingerprint? name = c.fingerprint? name := by
    intro n hn
    simp only [NodeChanges.look] at hn ⊢
    -- The node was seen like this before, so remembering it again changes nothing.
    have hsame : c.fingerprint? n.metadata.anyName = some (.ofNode n) := by
      by_contra hnew
      rw [if_neg hnew] at hn
      cases hn
    rw [fingerprint?_remember]
    split
    · rename_i heq
      rw [heq, hsame]
    · rfl
  cases e with
  | applied n => exact hlook n h
  | listed n => exact hlook n h
  | deleted n => cases h
  | listBegins => rfl
  | listEnds => rfl

/-- As long as no event passes, everything that is remembered stays as it is.  The events themselves
may be many. -/
theorem fingerprint?_of_unnoticed (h : ∀ noticed ∈ c.noticeAll events, noticed = none)
    (name : String) : (c.after events).fingerprint? name = c.fingerprint? name := by
  induction events generalizing c with
  | nil => rfl
  | cons e events ih =>
    obtain ⟨he, hevents⟩ := List.forall_mem_cons.1 h
    rw [after_cons, ih hevents, fingerprint?_of_notice_eq_none he]

/-- No two nodes that are known, or that a list has told of, have the same name. -/
structure Watch.Named (w : Watch) : Prop where
  known : (names w.known).Nodup
  listing : ∀ batch, w.listing = some batch → (names batch).Nodup

theorem nodup_leave (h : (names nodes).Nodup) (name : String) : (names (leave name nodes)).Nodup :=
  h.sublist (List.filter_sublist.map _)

/-- A node takes the place of the one with its name, so names stay different. -/
theorem nodup_enter (h : (names nodes).Nodup) (n : Node) : (names (enter n nodes)).Nodup := by
  refine List.nodup_cons.2 ⟨fun hmem => ?_, nodup_leave h _⟩
  obtain ⟨m, hm, heq⟩ := List.mem_map.1 hmem
  simp [leave, heq] at hm

theorem named_fresh : Watch.fresh.Named := ⟨List.nodup_nil, fun _ h => by cases h⟩

/-- No event brings two nodes of one name: single events replace, and a list is entered node by
node. -/
theorem Watch.Named.next? (h : w.Named) (hw : w.next? e = some w') : w'.Named := by
  obtain ⟨known, listing, missed⟩ := w
  obtain ⟨hknown, hlisting⟩ := h
  cases e with
  | listBegins =>
    obtain rfl := Option.some.inj hw
    refine ⟨hknown, ?_⟩
    rintro batch ⟨⟩
    exact List.nodup_nil
  | listed n =>
    obtain ⟨batch, rfl, rfl⟩ := Option.map_eq_some_iff.1 hw
    refine ⟨hknown, ?_⟩
    rintro _ ⟨⟩
    exact nodup_enter (hlisting batch rfl) n
  | listEnds =>
    obtain ⟨batch, rfl, rfl⟩ := Option.map_eq_some_iff.1 hw
    exact ⟨hlisting batch rfl, nofun⟩
  | applied n =>
    cases listing with
    | none =>
      obtain rfl := Option.some.inj hw
      exact ⟨nodup_enter hknown n, nofun⟩
    | some batch => cases hw
  | deleted n =>
    cases listing with
    | none =>
      obtain rfl := Option.some.inj hw
      exact ⟨nodup_leave hknown _, nofun⟩
    | some batch => cases hw

/-- So there are never two nodes of one name. -/
theorem named_after? (h : w.Named) (hw : w.after? events = some w') : w'.Named := by
  induction events generalizing w with
  | nil =>
    obtain rfl := Option.some.inj hw
    exact h
  | cons e events ih =>
    rw [after?_cons] at hw
    obtain ⟨mid, hmid, hw⟩ := Option.bind_eq_some_iff.1 hw
    exact ih (h.next? hmid) hw

/-! ### Selections -/

/-- Under names of their own, nodes have the fingerprints that are found under their names. -/
theorem mem_map_ofNode (hnodup : (names nodes).Nodup) : f ∈ nodes.map Fingerprint.ofNode ↔
    ∃ name, (NodeChanges.ofNodes nodes).fingerprint? name = some f := by
  constructor
  · intro h
    obtain ⟨n, hn, rfl⟩ := List.mem_map.1 h
    exact ⟨_, fingerprint?_of_mem hnodup hn⟩
  · rintro ⟨name, h⟩
    simp only [NodeChanges.ofNodes, NodeChanges.fingerprint?, List.find?_map, Option.map_map,
      Option.map_eq_some_iff] at h
    obtain ⟨n, hn, rfl⟩ := h
    exact List.mem_map_of_mem (List.mem_of_find?_eq_some hn)

/-- Nodes that have the same fingerprints under their names, listed in any order. -/
theorem serverIds_of_fingerprint?_eq {known known' : List Node} (hnodup : (names known).Nodup)
    (hnodup' : (names known').Nodup)
    (h : ∀ name, (NodeChanges.ofNodes known').fingerprint? name =
      (NodeChanges.ofNodes known).fingerprint? name)
    (hnodes : nodes.Perm known) (hothers : others.Perm known') (selector : Selector) :
    (Desired.serverIds others selector).toOption = (Desired.serverIds nodes selector).toOption ∧
      (names others = names nodes →
        Desired.serverIds others selector = Desired.serverIds nodes selector) := by
  constructor
  · refine toOption_serverIds_of_mem_iff (fun f => ?_) selector
    rw [(hnodes.map _).mem_iff, (hothers.map _).mem_iff, mem_map_ofNode hnodup,
      mem_map_ofNode hnodup']
    simp only [h]
  · intro hsame
    refine serverIds_congr ?_ selector
    have hread : nodes.map (some ∘ Fingerprint.ofNode) =
        (names nodes).map (NodeChanges.ofNodes known).fingerprint? := by
      rw [names, List.map_map]
      refine List.map_congr_left fun n hn => ?_
      exact (fingerprint?_of_mem hnodup (hnodes.mem_iff.1 hn)).symm
    have hread' : others.map (some ∘ Fingerprint.ofNode) =
        (names others).map (NodeChanges.ofNodes known').fingerprint? := by
      rw [names, List.map_map]
      refine List.map_congr_left fun n hn => ?_
      exact (fingerprint?_of_mem hnodup' (hothers.mem_iff.1 hn)).symm
    have hsomes : (others.map Fingerprint.ofNode).map some =
        (nodes.map Fingerprint.ofNode).map some := by
      rw [List.map_map, List.map_map, hread, hread', hsame]
      exact List.map_congr_left fun name _ => h name
    exact List.map_injective_iff.2 (Option.some_injective _) hsomes

/-- Between lists, what is known of a name is what is remembered, unless the name was missed. -/
theorem Remembers.fingerprint?_known (h : Remembers w c) (hw : w.listing = none) (name : String) :
    (NodeChanges.ofNodes w.known).fingerprint? name =
      if name ∈ w.missed then none else c.fingerprint? name := by
  cases h with
  | between hknown _ => exact hknown name
  | during => cases hw

/-- Of a node that was missed something is still remembered.  This is what keeps its departure from
being noticed. -/
theorem Remembers.isSome_of_missed (h : Remembers w c) (hw : w.listing = none)
    (hname : name ∈ w.missed) : (c.fingerprint? name).isSome = true := by
  cases h with
  | between _ hmissed => exact hmissed name hname
  | during => cases hw

/-- If no event passes between two moments, the nodes that are known then differ for target
selection in those only that are missed at one of the moments and not at the other.

If there are no such nodes, the servers are the same, in whatever order the nodes are listed; and if
there is an error instead, it is the same one too, provided that they are listed in the same
order. -/
theorem targets_of_unnoticed {first later : Watch} (hfirst : Watch.fresh.after? events = some first)
    (hlater : first.after? more = some later) (hbetween : first.listing = none)
    (hbetween' : later.listing = none)
    (hunnoticed : ∀ noticed ∈ (NodeChanges.none.after events).noticeAll more, noticed = none) :
    (∀ name, (NodeChanges.ofNodes later.known).fingerprint? name =
        (NodeChanges.ofNodes first.known).fingerprint? name ↔
      (name ∈ later.missed ↔ name ∈ first.missed)) ∧
    ((∀ name, name ∈ later.missed ↔ name ∈ first.missed) →
      ∀ (selector : Selector) (nodes others : List Node), nodes.Perm first.known →
        others.Perm later.known →
        (Desired.serverIds others selector).toOption =
          (Desired.serverIds nodes selector).toOption ∧
        (names others = names nodes →
          Desired.serverIds others selector = Desired.serverIds nodes selector)) := by
  have hremembers := remembers_after? remembers_fresh hfirst
  have hremembers' := remembers_after? hremembers hlater
  have hnamed : first.Named := named_after? named_fresh hfirst
  have hnamed' : later.Named := named_after? hnamed hlater
  have hexact : ∀ name, (NodeChanges.ofNodes later.known).fingerprint? name =
      (NodeChanges.ofNodes first.known).fingerprint? name ↔
        (name ∈ later.missed ↔ name ∈ first.missed) := by
    intro name
    rw [hremembers.fingerprint?_known hbetween, hremembers'.fingerprint?_known hbetween',
      fingerprint?_of_unnoticed hunnoticed]
    -- Something is remembered of a node that was missed, so nothing known tells the moments apart.
    have hsome := @Remembers.isSome_of_missed name _ _ hremembers hbetween
    have hsome' := @Remembers.isSome_of_missed name _ _ hremembers' hbetween'
    rw [fingerprint?_of_unnoticed hunnoticed] at hsome'
    by_cases hmissed : name ∈ first.missed
    · by_cases hmissed' : name ∈ later.missed
      · simp [hmissed, hmissed']
      · have hne := Option.isSome_iff_ne_none.1 (hsome hmissed)
        simp [hmissed, hmissed', hne]
    · by_cases hmissed' : name ∈ later.missed
      · have hne := Option.isSome_iff_ne_none.1 (hsome' hmissed')
        simp [hmissed, hmissed', Ne.symm hne]
      · simp [hmissed, hmissed']
  refine ⟨hexact, fun hmissed selector nodes others hnodes hothers => ?_⟩
  exact serverIds_of_fingerprint?_eq hnamed.known hnamed'.known
    (fun name => (hexact name).2 (hmissed name)) hnodes hothers selector

namespace Sample

def node (name : String) (providerID : String) : Node :=
  ⟨{ Cluster.Metadata.empty with name := some name }, some providerID⟩

def a : Node := node "a" "hcloud://101"

def b : Node := node "b" "hcloud://102"

/-- A list of some nodes. -/
def list (nodes : List Node) : List NodeEvent :=
  [.listBegins] ++ nodes.map .listed ++ [.listEnds]

/-- Both nodes, and what has been missed. -/
def both (missed : List String) : Watch := ⟨[b, a], none, missed⟩

end Sample

open Sample in
/-- A report of a node as it was, and another list of the same nodes. -/
theorem targets_of_unnoticed_sample :
    Watch.fresh.after? (list [a, b]) = some (both []) ∧
    (both []).after? ([.applied b] ++ list [a, b]) = some (both []) ∧
    Desired.serverIds [a, b] .all = .ok [101, 102] ∧
    (Desired.serverIds [b, a] .all).toOption = (Desired.serverIds [a, b] .all).toOption := by
  have hfirst : Watch.fresh.after? (list [a, b]) = some (both []) := by decide
  have hlater : (both []).after? ([.applied b] ++ list [a, b]) = some (both []) := by decide
  have hsame := (targets_of_unnoticed hfirst hlater rfl rfl (by decide)).2 fun _ => Iff.rfl
  refine ⟨hfirst, hlater, by rfl, ?_⟩
  exact (hsame .all [a, b] [b, a] (List.Perm.swap _ _ _) (List.Perm.refl _)).1

open Sample in
/-- The second list no longer has the node `b`, and no event passes; the servers are others all the
same. -/
theorem unnoticed_departure :
    Watch.fresh.after? (list [a, b]) = some (both []) ∧
    (both []).after? (list [a]) = some ⟨[a], none, ["b"]⟩ ∧
    (∀ noticed ∈ (NodeChanges.none.after (list [a, b])).noticeAll (list [a]), noticed = none) ∧
    Desired.serverIds [b, a] .all = .ok [101, 102] ∧
    Desired.serverIds [a] .all = .ok [101] := by
  refine ⟨by decide, by decide, by decide, by rfl, by rfl⟩

end BalancerSync.Control
