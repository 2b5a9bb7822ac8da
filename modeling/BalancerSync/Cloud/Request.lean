import BalancerSync.Cloud.Call
import BalancerSync.Program
import BalancerSync.Text.Numeral

/-!
# Asking the cloud

The requests that an operation on the cloud consists of: calls, calls that must be answered in time,
waiting for an action, and pauses.

## Main Definitions

* `Cloud.Request`, `Cloud.effect` : the requests and their replies
* `Cloud.Operation` : a program of such requests
* `Cloud.call`, `Cloud.callWithin`, `Cloud.awaitAction`, `Cloud.pause` : the single requests
* `Cloud.callAndAwait` : a call that starts an action, together with waiting for it
* `Cloud.resolveNetwork` : the network given by its identifier or name
-/

namespace BalancerSync.Cloud

/-- A request to the cloud or to the clock. -/
inductive Request where
  | call (c : Call)
  /-- A call that is given up after `limit`. -/
  | callWithin (limit : Duration) (c : Call)
  /-- Waits until an action is no longer running; fails if the action does. -/
  | await (a : Action)
  | pause (d : Duration)
  deriving DecidableEq, Repr

/-- The requests with their replies; a call that was given up has none. -/
@[reducible] def effect : Effect where
  Request := Request
  Reply := fun
    | .call c => c.Reply
    | .callWithin _ c => Option c.Reply
    | .await _ => Unit
    | .pause _ => Unit

/-- A program of requests to the cloud. -/
abbrev Operation (α : Type) : Type := Program effect α

def call (c : Call) : Operation c.Reply := Program.request (E := effect) (.call c)

/-- A call that is given up after `limit`. -/
def callWithin (limit : Duration) (c : Call) : Operation (Option c.Reply) :=
  Program.request (E := effect) (.callWithin limit c)

/-- Waits until an action is no longer running. -/
def awaitAction (a : Action) : Operation Unit := Program.request (E := effect) (.await a)

def pause (d : Duration) : Operation Unit := Program.request (E := effect) (.pause d)

/-- Waits for the action in a reply, if there is one. -/
def awaitReply (c : Call) (reply : c.Reply) : Operation Unit :=
  match c.action? reply with
  | some a => awaitAction a
  | none => pure ()

/-- A call that starts an action, and the wait for it. -/
def callAndAwait (c : Call) : Operation Unit := do
  awaitReply c (← call c)

/-- The network with an identifier, if the text is one, or else with that name. -/
def resolveNetwork (text : String) : Operation (Option Network) :=
  match Text.int64? text with
  | some id => call (.getNetworkById id)
  | none => call (.getNetworkByName text)

end BalancerSync.Cloud
