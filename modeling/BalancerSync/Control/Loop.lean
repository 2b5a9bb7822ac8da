import BalancerSync.Cloud.World
import BalancerSync.Cluster.World
import BalancerSync.Control.NodeChanges
import BalancerSync.Control.Reconcile

/-!
# The control loop

The loop watches the Services and the nodes and starts a pass over a Service whenever something
about it may have to change: the Service itself, a node while the Service asks for a load balancer,
or the time that the last pass asked for. Triggers are gathered for a second, so that a burst of
them leads to one pass. Passes over one Service do not overlap.

Here the loop runs against scripted worlds. Its input is the list of the watch events with their
times; only the passes themselves take time in between.

## Main Definitions

* `Control.WatchEvent` : what the watches report
* `Control.Loop` : the state of the loop
* `Control.Loop.schedule` : planning a pass
* `Control.Loop.observe` : taking in an event
* `Control.Loop.pass` : a pass over one Service
* `Control.Loop.runUntil`, `Control.Loop.run` : the loop up to a moment
-/

namespace BalancerSync.Control

open Cluster (Service Node)

/-- Triggers are gathered for this time before a pass. -/
def debounce : Duration := .ofSeconds 1

/-- What the watches report. -/
inductive WatchEvent where
  | serviceApplied (s : Service)
  | serviceDeleted (s : Service)
  | node (e : NodeEvent)
  deriving DecidableEq, Repr

/-- What a Service is known by. -/
structure ServiceKey where
  «namespace» : Option String
  name : String
  deriving DecidableEq, Repr

def ServiceKey.ofService (s : Service) : ServiceKey := ⟨s.metadata.namespace, s.anyName⟩

/-- A Service that the loop knows. -/
structure Tracked where
  key : ServiceKey
  service : Service
  deriving DecidableEq, Repr

/-- A pass that is planned. -/
structure Due where
  key : ServiceKey
  time : Duration
  deriving DecidableEq, Repr

/-- The state of the loop. -/
structure Loop where
  engine : Engine
  isLeader : Bool
  services : List Tracked
  changes : NodeChanges
  due : List Due
  /-- When the last pass over each Service ended. -/
  ended : List Due
  cloud : Cloud.World
  cluster : Cluster.World
  deriving Repr

namespace Loop

/-- The later of two moments. -/
def later (a b : Duration) : Duration := if a.nanos ≤ b.nanos then b else a

def dueTime? (due : List Due) (key : ServiceKey) : Option Duration :=
  (due.find? fun d => d.key = key).map (·.time)

def withDue (due : List Due) (key : ServiceKey) (time : Duration) : List Due :=
  due.filter (fun d => d.key ≠ key) ++ [⟨key, time⟩]

/-- Plans a pass over a Service for a trigger at the given time. A pass that is planned for an
earlier time stays; any other gives way. -/
def schedule (l : Loop) (key : ServiceKey) (time : Duration) : Loop :=
  match dueTime? l.due key with
  | some planned =>
    if time.nanos ≤ planned.nanos then { l with due := withDue l.due key (time + debounce) } else l
  | none => { l with due := withDue l.due key (time + debounce) }

/-- Plans passes over all Services that ask for a load balancer. -/
def scheduleBalancers (l : Loop) (time : Duration) : Loop :=
  (l.services.filter fun t => t.service.isLoadBalancer).foldl
    (fun l t => l.schedule t.key time) l

def track (services : List Tracked) (s : Service) : List Tracked :=
  services.filter (fun t => t.key ≠ .ofService s) ++ [⟨.ofService s, s⟩]

/-- Takes in an event. -/
def observe (l : Loop) (time : Duration) : WatchEvent → Loop
  | .serviceApplied s =>
    { l with services := track l.services s }.schedule (.ofService s) time
  | .serviceDeleted s =>
    { l with services := l.services.filter fun t => t.key ≠ .ofService s }
  | .node e =>
    let (node, changes) := l.changes.notice e
    let l := { l with changes := changes }
    if node.isSome then l.scheduleBalancers time else l

/-- The replies to the requests of a pass. -/
def handle (text : Cluster.Time → String) :
    Program.Handler effect (Cloud.World × Cluster.World) :=
  Program.Handler.both Cloud.World.handle (Cluster.World.handle text)

/-- A pass over one Service at the given time; one that is gone is passed over. -/
def pass (text : Cluster.Time → String) (l : Loop) (key : ServiceKey) (time : Duration) : Loop :=
  let l := { l with due := l.due.filter fun d => d.key ≠ key }
  match l.services.find? fun t => t.key = key with
  | none => l
  | some t =>
    let start := { l.cloud with clock := time }
    let (outcome, cloud, cluster) :=
      (reconcile l.engine l.isLeader t.service).run (handle text) (start, l.cluster)
    let l := { l with cloud := cloud, cluster := cluster, ended := withDue l.ended key cloud.clock }
    match nextAfter outcome with
    | .after d => l.schedule key (cloud.clock + d)
    | .onChange => l

/-- When a planned pass can start: not before the last one over the same Service has ended. -/
def startTime (l : Loop) (d : Due) : Duration :=
  match dueTime? l.ended d.key with
  | some ended => later d.time ended
  | none => d.time

/-- The pass that can start first, with its time. -/
def nextPass? (l : Loop) : Option Due :=
  (l.due.map fun d => { d with time := l.startTime d }).foldl
    (fun best d =>
      match best with
      | some b => if d.time.nanos < b.time.nanos then some d else some b
      | none => some d) none

/-- The loop up to a moment, with the events in the order of their times. An event comes before a
pass at the same time. The first argument bounds the number of steps. -/
def runUntil (text : Cluster.Time → String) (stop : Duration) :
    Nat → List (Duration × WatchEvent) → Loop → Loop
  | 0, _, l => l
  | steps + 1, events, l =>
    match events, l.nextPass? with
    | [], none => l
    | (time, e) :: rest, none =>
      if time.nanos < stop.nanos then runUntil text stop steps rest (l.observe time e) else l
    | [], some d =>
      if d.time.nanos < stop.nanos then runUntil text stop steps [] (l.pass text d.key d.time) else l
    | (time, e) :: rest, some d =>
      if time.nanos ≤ d.time.nanos then
        if time.nanos < stop.nanos then runUntil text stop steps rest (l.observe time e) else l
      else if d.time.nanos < stop.nanos then
        runUntil text stop steps ((time, e) :: rest) (l.pass text d.key d.time)
      else l

/-- The events with which the watches begin: everything that is there. -/
def firstEvents (services : List Service) (nodes : List Node) : List (Duration × WatchEvent) :=
  (services.map fun s => (.zero, .serviceApplied s)) ++
    ([NodeEvent.listBegins] ++ nodes.map NodeEvent.listed ++ [NodeEvent.listEnds]).map fun e =>
      (.zero, .node e)

/-- A bound on the steps up to a moment: each event is taken in once, and passes over a Service lie
at least a second apart. -/
def stepBound (stop : Duration) (events : List (Duration × WatchEvent)) : Nat :=
  2 * events.length + (events.length + 1) * (stop.wholeSeconds + 2) + 2

/-- The loop before the watches begin. -/
def waiting (engine : Engine) (isLeader : Bool) (cloud : Cloud.World) (cluster : Cluster.World) :
    Loop := ⟨engine, isLeader, [], .none, [], [], cloud, cluster⟩

/-- The loop up to a moment, with what is there at first and the events after that in any order. -/
def run (text : Cluster.Time → String) (stop : Duration) (services : List Service)
    (nodes : List Node) (others : List (Duration × WatchEvent)) (l : Loop) : Loop :=
  let events := firstEvents services nodes ++
    others.mergeSort fun a b => decide (a.1.nanos ≤ b.1.nanos)
  l.runUntil text stop (stepBound stop events) events

end Loop

end BalancerSync.Control
