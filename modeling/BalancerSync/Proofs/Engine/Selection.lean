import BalancerSync.Proofs.Cloud.Events
import BalancerSync.Proofs.Cloud.Run
import BalancerSync.Proofs.Desired.Targets
import BalancerSync.Proofs.Text.Cutting
import BalancerSync.Proofs.Text.Numeral
import BalancerSync.Engine.Steps

/-!
# The nodes behind a load balancer

The cluster lists its nodes in no particular order, and a list may name a node twice.  Neither
matters for the targets: the servers are a matter of which provider IDs the selected nodes have.
There is one list of servers for all listings of the same nodes, or for none of them there is any,
since a provider ID that names no server is not passed over.

So the step for targets is the same operation for all these listings, unless it fails, and then it
fails before it has asked the cloud for anything.

## Main Definitions

* `Desired.NamesServer` — the provider IDs of this cloud, with the servers that they name
* `Desired.Proposes` — the provider IDs that selected nodes have
* `FailsAtOnce` — an operation that asks for nothing and fails

## Main Results

* `Desired.serverId_eq_ok_iff` — a provider ID is read exactly if it names a server
* `targets_of_same_nodes` — order and repetition of the nodes do not matter
-/

namespace BalancerSync.Desired

open Cluster (Node)

variable {nodes others : List Node} {selector : Selector} {providerID : String} {id : Int}

/-! ### Provider IDs -/

/-- A provider ID of this cloud: the scheme, and behind it a positive number of 64 bits. -/
def NamesServer (providerID : String) (id : Int) : Prop :=
  ∃ number, providerID.toList = providerScheme.toList ++ number ∧ Text.Writes number id ∧
    0 < id ∧ id < 2 ^ 63

/-- A selected node has this provider ID, which is not empty. -/
def Proposes (nodes : List Node) (selector : Selector) (providerID : String) : Prop :=
  ∃ node ∈ nodes, selector.accepts node.metadata.labels = true ∧
    node.providerID = some providerID ∧ providerID ≠ ""

theorem serverId?_eq_some_iff : serverId? providerID = some id ↔ NamesServer providerID id := by
  rw [serverId?, Option.filter_eq_some_iff, Option.bind_eq_some_iff, NamesServer,
    decide_eq_true_iff]
  simp only [Text.after?_eq_some_iff, Text.int64?_eq_some_iff, String.toList_ofList]
  constructor
  · rintro ⟨⟨number, htext, hwrites, -, hlt⟩, hpos⟩
    exact ⟨number, htext, hwrites, hpos, hlt⟩
  · rintro ⟨number, htext, hwrites, hpos, hlt⟩
    exact ⟨⟨number, htext, hwrites, by omega, hlt⟩, hpos⟩

theorem serverId_eq_ok_iff : serverId providerID = .ok id ↔ NamesServer providerID id := by
  rw [← serverId?_eq_some_iff, serverId]
  cases serverId? providerID with
  | none => simp
  | some found => simp

theorem mem_providerIds : providerID ∈ providerIds nodes selector ↔
    Proposes nodes selector providerID := by
  simp only [providerIds, Proposes, List.mem_filterMap, List.mem_filter, Option.filter_eq_some_iff,
    decide_eq_true_iff, and_assoc]

/-! ### Servers -/

theorem exists_error_iff {ε α : Type} {x : Except ε α} :
    (∃ e, x = .error e) ↔ ¬ ∃ a, x = .ok a := by
  cases x <;> simp

theorem mem_serverIds_iff {ids : List Int} (h : serverIds nodes selector = .ok ids) :
    id ∈ ids ↔ ∃ p, Proposes nodes selector p ∧ NamesServer p id := by
  simp only [mem_serverIds h, mem_providerIds, serverId_eq_ok_iff]

/-- Each provider ID has to name a server. -/
theorem exists_serverIds_iff_names : (∃ ids, serverIds nodes selector = .ok ids) ↔
    ∀ p, Proposes nodes selector p → ∃ id, NamesServer p id := by
  simp only [exists_serverIds_iff, mem_providerIds, serverId_eq_ok_iff]

theorem proposes_congr (hsame : ∀ node, node ∈ nodes ↔ node ∈ others) :
    Proposes nodes selector providerID ↔ Proposes others selector providerID := by
  simp only [Proposes, hsame]

theorem toOption_serverIds_of_same (hsame : ∀ node, node ∈ nodes ↔ node ∈ others)
    (selector : Selector) :
    (serverIds nodes selector).toOption = (serverIds others selector).toOption :=
  toOption_serverIds_congr fun p => by rw [mem_providerIds, mem_providerIds, proposes_congr hsame]

end BalancerSync.Desired

namespace BalancerSync.Engine

open Cloud (World Operation LoadBalancer)
open Cluster (Node)
open Desired (Balancer Proposes NamesServer serverIds)

variable {α : Type} {engine : Engine} {lb : LoadBalancer} {wishes : Balancer}
  {nodes others : List Node} {e : Error}

/-- The operation fails before it asks the cloud for anything. -/
def FailsAtOnce (w : World) (p : Operation α) : Prop :=
  (∃ e, w.run p = (.error e, w)) ∧ w.events p = []

theorem failsAtOnce_reconcileTargets (h : desiredTargets engine wishes nodes = .error e)
    (w : World) : FailsAtOnce w (reconcileTargets engine lb wishes nodes) := by
  rw [reconcileTargets, h]
  exact ⟨⟨_, rfl⟩, rfl⟩

/-- Private addresses without a network fail whatever the nodes are. -/
theorem toOption_desiredTargets_of_same (engine : Engine) (wishes : Balancer)
    (hsame : ∀ node, node ∈ nodes ↔ node ∈ others) :
    (desiredTargets engine wishes nodes).toOption =
      (desiredTargets engine wishes others).toOption := by
  rw [desiredTargets, desiredTargets]
  split
  · rfl
  · exact Desired.toOption_serverIds_of_same hsame _

/-- For two listings of the same nodes the step for targets fails at once, or it is the same. -/
theorem reconcileTargets_of_same (engine : Engine) (lb : LoadBalancer) (wishes : Balancer)
    (hsame : ∀ node, node ∈ nodes ↔ node ∈ others) :
    (∀ w, FailsAtOnce w (reconcileTargets engine lb wishes nodes) ∧
        FailsAtOnce w (reconcileTargets engine lb wishes others)) ∨
      reconcileTargets engine lb wishes nodes = reconcileTargets engine lb wishes others := by
  have hdesired := toOption_desiredTargets_of_same engine wishes hsame
  cases hnodes : desiredTargets engine wishes nodes with
  | ok ids =>
    rw [hnodes] at hdesired
    refine .inr ?_
    rw [reconcileTargets, reconcileTargets, hnodes, Cloud.toOption_eq_some.1 hdesired.symm]
  | error e =>
    cases hothers : desiredTargets engine wishes others with
    | ok ids =>
      rw [hnodes, hothers] at hdesired
      cases hdesired
    | error e' =>
      exact .inl fun w => ⟨failsAtOnce_reconcileTargets hnodes w,
        failsAtOnce_reconcileTargets hothers w⟩

/-- Listings of the same nodes, in whatever order and however often they name a node, select the
same servers, or none of them selects any: that is so exactly if a selected node has a provider ID
that names no server.  The step for targets makes the same requests of the cloud for both, or it
fails for both before it makes any. -/
theorem targets_of_same_nodes (hsame : ∀ node, node ∈ nodes ↔ node ∈ others)
    (selector : Selector) :
    ((∃ ids, serverIds nodes selector = .ok ids ∧ serverIds others selector = .ok ids ∧
          ids.Pairwise (· < ·) ∧
          ∀ id, id ∈ ids ↔ ∃ p, Proposes nodes selector p ∧ NamesServer p id) ∨
        (∃ e, serverIds nodes selector = .error e) ∧ ∃ e, serverIds others selector = .error e) ∧
      ((∃ e, serverIds nodes selector = .error e) ↔
        ∃ p, Proposes nodes selector p ∧ ¬ ∃ id, NamesServer p id) ∧
      ∀ (engine : Engine) (lb : LoadBalancer) (wishes : Balancer) (w : World),
        FailsAtOnce w (reconcileTargets engine lb wishes nodes) ∧
            FailsAtOnce w (reconcileTargets engine lb wishes others) ∨
          w.run (reconcileTargets engine lb wishes nodes) =
              w.run (reconcileTargets engine lb wishes others) ∧
            w.events (reconcileTargets engine lb wishes nodes) =
              w.events (reconcileTargets engine lb wishes others) := by
  refine ⟨?_, ?_, fun engine lb wishes w => ?_⟩
  · have hservers := Desired.toOption_serverIds_of_same hsame selector
    cases hnodes : serverIds nodes selector with
    | ok ids =>
      rw [hnodes] at hservers
      exact .inl ⟨ids, rfl, Cloud.toOption_eq_some.1 hservers.symm,
        Desired.pairwise_serverIds hnodes, fun id => Desired.mem_serverIds_iff hnodes⟩
    | error e =>
      -- Which error it is may depend on the order, but not that there is one.
      cases hothers : serverIds others selector with
      | ok ids =>
        rw [hnodes, hothers] at hservers
        cases hservers
      | error e' => exact .inr ⟨⟨e, rfl⟩, e', rfl⟩
  · rw [Desired.exists_error_iff, Desired.exists_serverIds_iff_names]
    push Not
    rfl
  · rcases reconcileTargets_of_same engine lb wishes hsame with hfails | heq
    · exact .inl (hfails w)
    · exact .inr ⟨by rw [heq], by rw [heq]⟩

namespace Sample

/-- A node with a role and, if it has one yet, a provider ID. -/
def machine (name role : String) (providerID : Option String) : Node where
  metadata := { Cluster.Metadata.empty with
    name := some name
    labels := .ofList [("role", role)] }
  providerID := providerID

/-- The workers. -/
def workers : Selector := ⟨[.equals "role" "worker"]⟩

/-- Two workers with a server, one without, and a machine of another role and another cloud. -/
def listing : List Node :=
  [machine "a" "worker" (some "hcloud://7"), machine "b" "worker" (some "hcloud://+003"),
    machine "c" "worker" none, machine "d" "storage" (some "aws://7")]

/-- The same nodes in another order, with one of them twice. -/
def relisting : List Node :=
  machine "b" "worker" (some "hcloud://+003") :: listing.reverse

end Sample

theorem targets_of_same_nodes_sample :
    (∀ node, node ∈ Sample.listing ↔ node ∈ Sample.relisting) ∧
      serverIds Sample.listing Sample.workers = .ok [3, 7] ∧
      serverIds Sample.relisting Sample.workers = .ok [3, 7] := by
  have hsame : ∀ node, node ∈ Sample.listing ↔ node ∈ Sample.relisting := by
    intro node
    rw [Sample.relisting, List.mem_cons, List.mem_reverse]
    refine (or_iff_right_of_imp ?_).symm
    rintro rfl
    decide
  have hlisting : serverIds Sample.listing Sample.workers = .ok [3, 7] := by decide
  refine ⟨hsame, hlisting, ?_⟩
  rcases (targets_of_same_nodes hsame Sample.workers).1 with ⟨ids, hids, hsame, -⟩ | ⟨⟨e, he⟩, -⟩
  · obtain rfl := Except.ok.inj (hlisting.symm.trans hids)
    exact hsame
  · rw [hlisting] at he
    cases he

end BalancerSync.Engine
