import BalancerSync.Cloud.Inventory
import BalancerSync.Cloud.Request

/-!
# A scripted cloud

An inventory together with a script of what goes wrong: calls that fail, actions that take their
time or are given up, and lookups that are never answered. Without a script entry, every call is
carried out and every poll finds the action finished.

Time passes only in pauses, between polls, and while waiting for an answer that does not come.

## Main Definitions

* `Cloud.Script` : what goes wrong
* `Cloud.World` : an inventory with a script, a log of the calls, and a clock
* `Cloud.World.handle` : the replies to requests
-/

namespace BalancerSync.Cloud

/-- The state in which an action is reported. -/
structure ActionReport where
  status : ActionStatus
  progress : Nat
  error : Option ActionError
  deriving DecidableEq, Repr

/-- The action in the reported state. -/
def ActionReport.amend (r : ActionReport) (a : Action) : Action :=
  { a with status := r.status, progress := r.progress, error := r.error }

/-- The answer to a poll. -/
inductive PollAnswer where
  | report (r : ActionReport)
  | refuse (code : ErrorCode)
  deriving DecidableEq, Repr

/-- What goes wrong. Entries with the name of a call are used up by the next such call. -/
structure Script where
  /-- Calls that fail after having been received. -/
  failures : List (String × ErrorCode)
  /-- The states in which the actions of successful calls are reported. -/
  reports : List (String × ActionReport)
  /-- The answers to the next polls. -/
  polls : List PollAnswer
  /-- The names of certificates that are looked up in vain. -/
  silent : List String
  deriving DecidableEq, Repr

/-- The script in which nothing goes wrong. -/
def Script.none : Script := ⟨[], [], [], []⟩

instance : Inhabited Script := ⟨.none⟩

/-- Two scripts in one; the entries of the first come first. -/
def Script.append (s t : Script) : Script :=
  ⟨s.failures ++ t.failures, s.reports ++ t.reports, s.polls ++ t.polls, s.silent ++ t.silent⟩

/-- The first entry with a name, and the list without it. -/
def takeNamed? {α : Type} (name : String) : List (String × α) → Option (α × List (String × α))
  | [] => none
  | (n, a) :: rest =>
    if n = name then some (a, rest)
    else (takeNamed? name rest).map fun (b, others) => (b, (n, a) :: others)

/-- An inventory with a script, the calls received so far, and a clock. -/
structure World where
  inventory : Inventory
  script : Script
  log : List Call
  clock : Duration
  /-- The time between two polls of an action. -/
  pollInterval : Duration
  deriving DecidableEq, Repr

namespace World

/-- A cloud without a script at the beginning of time. -/
def ofInventory (inv : Inventory) (pollInterval : Duration) : World :=
  ⟨inv, .none, [], .zero, pollInterval⟩

/-- The world with more resources and a script to follow its own. -/
def extend (w : World) (lbs : List LoadBalancer) (certificates : List Certificate)
    (networks : List Network) (script : Script) : World :=
  let inventory := lbs.foldl Inventory.insert w.inventory
  { w with
    inventory := { inventory with
      certificates := inventory.certificates ++ certificates
      networks := inventory.networks ++ networks }
    script := w.script.append script }

/-- The error of a call that the script lets fail. -/
def injected (code : ErrorCode) (name : String) : Error :=
  .cloudApi code ("injected " ++ code.text ++ " on " ++ name)

/-- Whether a call is never answered. -/
def isSilent (w : World) : Call → Bool
  | .getCertificate name => w.script.silent.contains name
  | _ => false

/-- The reply with its action in the state that the script has for it. -/
def amended (w : World) (c : Call) (reply : c.Reply) : c.Reply × World :=
  match c.action? reply, takeNamed? c.name w.script.reports with
  | some _, some (r, reports) =>
    (c.mapAction r.amend reply, { w with script := { w.script with reports := reports } })
  | _, _ => (reply, w)

/-- The reply to a call: it is logged, then refused by the script or carried out. -/
def perform (w : World) (c : Call) : Except Error c.Reply × World :=
  let w := { w with log := w.log ++ [c] }
  match takeNamed? c.name w.script.failures with
  | some (code, failures) =>
    (.error (injected code c.name), { w with script := { w.script with failures := failures } })
  | none =>
    match w.inventory.perform c with
    | .error e => (.error e, w)
    | .ok (reply, inventory) =>
      let (reply, w) := amended { w with inventory := inventory } c reply
      (.ok reply, w)

/-- The answer to a poll for an action. -/
def PollAnswer.toAction (id : Int) : PollAnswer → Except Error Action
  | .report r => .ok (r.amend (Inventory.finished id "poll"))
  | .refuse code => .error (.cloudApi code ("poll " ++ toString id))

/-- The answers that the next polls for an action will get. -/
def answers (w : World) (id : Int) : List (Except Error Action) :=
  match takeNamed? "get_action" w.script.failures with
  | some (code, _) => [.error (injected code "get_action")]
  | none => w.script.polls.map (PollAnswer.toAction id) ++ [.ok (Inventory.finished id "poll")]

/-- The world after a number of polls. A poll that the script lets fail uses up that entry only. -/
def afterPolls (w : World) (polled : List Int) : World :=
  let script := match polled, takeNamed? "get_action" w.script.failures with
    | [], _ => w.script
    | _ :: _, some (_, failures) => { w.script with failures := failures }
    | _ :: _, none => { w.script with polls := w.script.polls.drop polled.length }
  { w with
    script := script
    log := w.log ++ polled.map .getAction
    clock := w.clock + w.pollInterval.times polled.length }

/-- Waits for an action. -/
def await (w : World) (a : Action) : Except Error Unit × World :=
  let seen := watch a (w.answers a.id)
  (outcome seen.items, w.afterPolls seen.polled)

/-- The replies to requests. -/
def handle : Program.Handler effect World
  | .call c, w => w.perform c
  | .callWithin limit c, w =>
    if w.isSilent c then (.ok none, { w with clock := w.clock + limit })
    else
      let (reply, w) := w.perform c
      (reply.map some, w)
  | .await a, w => w.await a
  | .pause d, w => (.ok (), { w with clock := w.clock + d })

/-- The outcome of an operation in a world, and the world after it. -/
def run {α : Type} (w : World) (op : Operation α) : Except Error α × World :=
  Program.run handle op w

end World

end BalancerSync.Cloud
