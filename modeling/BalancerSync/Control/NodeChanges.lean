import BalancerSync.Cluster.Object

/-!
# Node changes

Nodes report in all the time, but few reports can change the targets of a load balancer. The
controller remembers what it last saw of each node and lets only those events pass that bring
something new.

## Main Definitions

* `Control.Fingerprint` : what target selection reads of a node
* `Control.NodeEvent` : what a watch on the nodes reports
* `Control.NodeChanges` : the last fingerprint of each node
* `Control.NodeChanges.notice` : the node of an event that can change targets
-/

namespace BalancerSync.Control

open Cluster (Node)

/-- What target selection reads of a node. -/
structure Fingerprint where
  labels : Labels
  providerID : Option String
  isDeleting : Bool
  deriving DecidableEq, Repr

def Fingerprint.ofNode (n : Node) : Fingerprint :=
  ⟨n.metadata.labels, n.providerID, n.metadata.isDeleting⟩

/-- What a watch on the nodes reports. A watch starts, and starts again after a break, with a list:
`listBegins`, then every node as `listed`, then `listEnds`. -/
inductive NodeEvent where
  | applied (n : Node)
  | deleted (n : Node)
  | listBegins
  | listed (n : Node)
  | listEnds
  deriving DecidableEq, Repr

/-- The last fingerprint of each node, under its name. -/
structure NodeChanges where
  seen : List (String × Fingerprint)
  deriving DecidableEq, Repr

namespace NodeChanges

/-- Nothing has been seen yet. -/
def none : NodeChanges := ⟨[]⟩

def fingerprint? (c : NodeChanges) (name : String) : Option Fingerprint :=
  (c.seen.find? fun e => e.1 == name).map (·.2)

def forget (c : NodeChanges) (name : String) : NodeChanges :=
  ⟨c.seen.filter fun e => e.1 ≠ name⟩

def remember (c : NodeChanges) (name : String) (f : Fingerprint) : NodeChanges :=
  ⟨(name, f) :: (c.forget name).seen⟩

/-- The node if its fingerprint is new, and what is remembered then. -/
def look (c : NodeChanges) (n : Node) : Option Node × NodeChanges :=
  let name := n.metadata.anyName
  let f := Fingerprint.ofNode n
  (if c.fingerprint? name = some f then .none else some n, c.remember name f)

/-- The node of an event that can change targets, and what is remembered after the event. -/
def notice (c : NodeChanges) : NodeEvent → Option Node × NodeChanges
  | .applied n | .listed n => c.look n
  | .deleted n => (some n, c.forget n.metadata.anyName)
  | .listBegins | .listEnds => (.none, c)

/-- The nodes that a sequence of events lets pass, one entry per event. -/
def noticeAll (c : NodeChanges) : List NodeEvent → List (Option Node)
  | [] => []
  | e :: es => (c.notice e).1 :: noticeAll (c.notice e).2 es

@[simp] theorem fingerprint?_remember_self (c : NodeChanges) (name : String) (f : Fingerprint) :
    (c.remember name f).fingerprint? name = some f := by
  simp [fingerprint?, remember]

theorem fingerprint?_forget_ne (c : NodeChanges) {name other : String} (h : name ≠ other) :
    (c.forget name).fingerprint? other = c.fingerprint? other := by
  have hf : (fun e : String × Fingerprint =>
      decide (decide (e.1 ≠ name) = true ∧ (e.1 == other) = true)) = fun e => e.1 == other := by
    funext e
    by_cases he : e.1 = other
    · simp [he, Ne.symm h]
    · simp [he]
  simp only [fingerprint?, forget, List.find?_filter, hf]

theorem fingerprint?_remember_ne (c : NodeChanges) {name other : String} (f : Fingerprint)
    (h : name ≠ other) : (c.remember name f).fingerprint? other = c.fingerprint? other := by
  have hb : (name == other) = false := by simpa using h
  rw [← fingerprint?_forget_ne c h]
  simp only [fingerprint?, remember, List.find?_cons, hb]

@[simp] theorem fingerprint?_forget_self (c : NodeChanges) (name : String) :
    (c.forget name).fingerprint? name = .none := by
  simp [fingerprint?, forget]

end NodeChanges

end BalancerSync.Control
