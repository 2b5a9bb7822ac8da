import BalancerSync.Decimal

/-!
# Metrics

The metrics are views of the list of what was observed while the controller runs: a counter is the
number of observations with its labels, and a histogram is made of the durations of one operation.
They are given out as an OpenMetrics text: for each family its description and type, then its
samples in the order in which their labels were first observed, and at the end a mark. Values of
labels are written as they are.

## Main Definitions

* `Observation` : something counted
* `Observation.calls`, `Observation.failures`, `Observation.durations` : the observations of a kind
* `Histogram.bounds` : the upper bounds of the buckets
* `Exposition.text` : the text for a list of observations
-/

namespace BalancerSync.Monitoring

/-! ### Observations -/

/-- Something counted. -/
inductive Observation where
  /-- A request to the cloud, by its method and route. -/
  | call (route : String)
  /-- An operation that failed with an error of some kind. -/
  | failure (operation kind : String)
  /-- An operation that took some seconds. -/
  | duration (operation : String) (seconds : Float)
  deriving Repr

namespace Observation

/-- The routes of the requests to the cloud. -/
def calls (observed : List Observation) : List String :=
  observed.filterMap fun
    | call route => some route
    | _ => none

/-- The failed operations with the kinds of their errors. -/
def failures (observed : List Observation) : List (String × String) :=
  observed.filterMap fun
    | failure operation kind => some (operation, kind)
    | _ => none

/-- The operations with the seconds they took. -/
def durations (observed : List Observation) : List (String × Float) :=
  observed.filterMap fun
    | duration operation seconds => some (operation, seconds)
    | _ => none

end Observation

/-- The seconds that the runs of one operation took, in the order of the runs. -/
structure Histogram where
  seconds : List Float

namespace Histogram

/-- The upper bounds of the buckets: ten milliseconds, doubled fifteen times. -/
def bounds : List Float := (List.range 16).map fun i => 0.01 * Float.ofNat (Nat.pow 2 i)

/-- The runs of an operation. -/
def ofOperation (operation : String) (durations : List (String × Float)) : Histogram :=
  ⟨(durations.filter fun d => d.1 == operation).map (·.2)⟩

/-- How many runs took at most `bound` seconds. -/
def countUpTo (h : Histogram) (bound : Float) : Nat := h.seconds.countP fun s => s ≤ bound

def count (h : Histogram) : Nat := h.seconds.length

/-- All the seconds, added in the order of the runs. -/
def sum (h : Histogram) : Float := h.seconds.foldl (· + ·) 0

end Histogram

end BalancerSync.Monitoring

namespace BalancerSync.Monitoring.Exposition

/-! ### Exposition -/

/-- A sample with its labels. -/
def sample (name : String) (labels : List (String × String)) (value : String) : String :=
  let written := labels.map fun l => l.1 ++ "=\"" ++ l.2 ++ "\""
  name ++ "\x7b" ++ ",".intercalate written ++ "\x7d " ++ value

/-- The description and the type of a family. -/
def header (name help type : String) : List String :=
  ["# HELP " ++ name ++ " " ++ help ++ ".", "# TYPE " ++ name ++ " " ++ type]

/-- The distinct items in the order of their first occurrence. -/
def distinct {α : Type} [BEq α] (items : List α) : List α :=
  items.foldl (fun seen a => if seen.contains a then seen else seen ++ [a]) []

def durationFamily : String := "hcloud_lb_reconcile_duration_seconds"
def failureFamily : String := "hcloud_lb_reconcile_errors"
def callFamily : String := "hcloud_lb_cloud_api_calls"

/-- The samples of a histogram. A bucket counts the runs of all the buckets below it too. -/
def histogramSamples (operation : String) (h : Histogram) : List String :=
  let label := ("operation", operation)
  let bucket (bound : String) (n : Nat) :=
    sample (durationFamily ++ "_bucket") [("le", bound), label] (toString n)
  [sample (durationFamily ++ "_sum") [label] (Decimal.ofFloat h.sum),
    sample (durationFamily ++ "_count") [label] (toString h.count)] ++
  (Histogram.bounds.map fun b => bucket (Decimal.ofFloat b) (h.countUpTo b)) ++
  [bucket "+Inf" h.count]

/-- The lines about the durations. -/
def durationLines (observed : List Observation) : List String :=
  let durations := Observation.durations observed
  header durationFamily "Duration of load balancer operations in seconds" "histogram" ++
  (distinct (durations.map (·.1))).flatMap fun operation =>
    histogramSamples operation (.ofOperation operation durations)

/-- The lines about the failures. -/
def failureLines (observed : List Observation) : List String :=
  let failures := Observation.failures observed
  header failureFamily "Total number of failed load balancer operations" "counter" ++
  (distinct failures).map fun f =>
    sample (failureFamily ++ "_total") [("operation", f.1), ("kind", f.2)]
      (toString (failures.count f))

/-- The samples of the requests to the cloud. -/
def callSamples (observed : List Observation) : List String :=
  let calls := Observation.calls observed
  (distinct calls).map fun route =>
    sample (callFamily ++ "_total") [("call", route)] (toString (calls.count route))

/-- The lines about the requests to the cloud. -/
def callLines (observed : List Observation) : List String :=
  header callFamily "Total number of Hetzner Cloud API requests" "counter" ++ callSamples observed

/-- The text for a list of observations. -/
def text (observed : List Observation) : String :=
  String.join ((durationLines observed ++ failureLines observed ++ callLines observed ++
    ["# EOF"]).map (· ++ "\n"))

end BalancerSync.Monitoring.Exposition
