import BalancerSync.Cloud.Request
import BalancerSync.Cloud.Wire.Answer
import BalancerSync.Cloud.Wire.Message

/-!
# A connection to the cloud

A client with a server whose answers are known beforehand. Every request is counted for the metrics
before it is sent, also if it cannot be sent. A server that has no answers left is not reached.

## Main Definitions

* `Wire.Connection` : a client, the coming answers, and what has happened so far
* `Wire.Connection.perform` : the reply to a call
* `Wire.Connection.handle` : the replies to requests
-/

namespace BalancerSync.Cloud.Wire

/-- A client, the coming answers of the server, and what has happened so far. -/
structure Connection where
  client : Client
  /-- The coming answers. The server may close the connection instead. -/
  answers : List (Option Answer)
  received : List Message
  /-- The routes of the calls made so far. -/
  routes : List String
  clock : Duration
  /-- The time between two polls of an action. -/
  pollInterval : Duration
  deriving Repr

namespace Connection

/-- A connection before the first call. -/
def ofClient (client : Client) (answers : List (Option Answer)) (pollInterval : Duration) :
    Connection := ⟨client, answers, [], [], .zero, pollInterval⟩

def unsendable : Error := .http "builder error"

def unreachable : Error := .http "error sending request"

/-- The reply that an answer, or the end of the connection, gives. With some statuses no body is
sent. -/
def replyTo (c : Call) : Option Answer → Except Error c.Reply
  | some a => (Answer.ofStatus a.status a.body).reply c
  | none => .error unreachable

/-- The reply to a call. -/
def perform (s : Connection) (c : Call) : Except Error c.Reply × Connection :=
  let s := { s with routes := s.routes ++ [c.outline.route] }
  match s.client.message? c.outline, s.answers with
  | none, _ => (.error unsendable, s)
  | some _, [] => (.error unreachable, s)
  | some m, a :: rest => (replyTo c a, { s with answers := rest, received := s.received ++ [m] })

/-- The answers that the next polls will get. The polls for different actions are sent to different
paths, but their answers are read alike. -/
def polls (s : Connection) (id : Int) : List (Except Error Action) :=
  match s.client.message? (Call.getAction id).outline with
  | none => [.error unsendable]
  | some _ => s.answers.map (replyTo (.getAction id)) ++ [.error unreachable]

/-- The connection after one poll. -/
def afterPoll (s : Connection) (id : Int) : Connection :=
  let s := (s.perform (.getAction id)).2
  { s with clock := s.clock + s.pollInterval }

/-- Waits for an action. -/
def await (s : Connection) (a : Action) : Except Error Unit × Connection :=
  let seen := watch a (s.polls a.id)
  (outcome seen.items, seen.polled.foldl afterPoll s)

/-- The replies to requests. Time passes only in pauses and between polls. -/
def handle : Program.Handler effect Connection
  | .call c, s => s.perform c
  | .callWithin _ c, s => ((s.perform c).1.map some, (s.perform c).2)
  | .await a, s => s.await a
  | .pause d, s => (.ok (), { s with clock := s.clock + d })

/-- The outcome of an operation over a connection, and the connection after it. -/
def run {α : Type} (s : Connection) (op : Operation α) : Except Error α × Connection :=
  Program.run handle op s

end Connection

end BalancerSync.Cloud.Wire
