import BalancerSync.Cluster.Object
import BalancerSync.Error
import BalancerSync.Selector.Basic
import BalancerSync.Text.Lines
import BalancerSync.Text.Numeral
import BalancerSync.Text.Quoted

/-!
# Desired targets

The servers behind a load balancer are those of the nodes that its Service selects. A node names its
server by a provider ID; a node that has none yet is passed over.

## Main Definitions

* `Desired.serverId` : the server that a provider ID names
* `Desired.serverIds` : the servers of the selected nodes, in ascending order
-/

namespace BalancerSync.Desired

/-- How provider IDs of this cloud begin. -/
def providerScheme : String := "hcloud://"

/-- The server that a provider ID names, if it is one of this cloud. -/
def serverId? (providerID : String) : Option Int :=
  ((Text.after? providerScheme.toList providerID.toList).bind fun id =>
    Text.int64? (String.ofList id)).filter (0 < ·)

/-- The server that a provider ID names. -/
def serverId (providerID : String) : Except Error Int :=
  match serverId? providerID with
  | some id => .ok id
  | none =>
    .error (.validation ("provider ID " ++ Text.quoted providerID ++ " is not of the form " ++
      providerScheme ++ "<server-id>"))

/-- The list with a number at its place in the order, unless it is there. -/
def insertId (id : Int) : List Int → List Int
  | [] => [id]
  | x :: rest =>
    if id < x then id :: x :: rest
    else if id = x then x :: rest
    else x :: insertId id rest

/-- The provider IDs of the selected nodes that have one. -/
def providerIds (nodes : List Cluster.Node) (selector : Selector) : List String :=
  (nodes.filter fun node => selector.accepts node.metadata.labels).filterMap fun node =>
    node.providerID.filter (· ≠ "")

/-- The servers of the selected nodes, in ascending order. The first provider ID of another form is
an error. -/
def serverIds (nodes : List Cluster.Node) (selector : Selector) : Except Error (List Int) :=
  (providerIds nodes selector).foldlM (fun ids p => do return insertId (← serverId p) ids) []

end BalancerSync.Desired
