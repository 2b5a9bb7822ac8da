/-!
# Durations

A duration is a whole number of nanoseconds. The cloud keeps the intervals of its health checks and
cookies in whole seconds, so durations meant for it are truncated first.

## Main Definitions

* `Duration` : a number of nanoseconds
* `Duration.wholeSeconds`, `Duration.truncated` : the seconds the cloud keeps
* `Duration.text` : the short form with the largest fitting unit, such as `500ms` or `1.5s`
-/

namespace BalancerSync

/-- A length of time in nanoseconds. -/
structure Duration where
  nanos : Nat
  deriving DecidableEq, Repr, Inhabited

namespace Duration

def ofSeconds (n : Nat) : Duration := ⟨n * 1000000000⟩

def ofMillis (n : Nat) : Duration := ⟨n * 1000000⟩

def zero : Duration := ⟨0⟩

instance : Add Duration := ⟨fun a b => ⟨a.nanos + b.nanos⟩⟩

/-- The duration taken `n` times. -/
def times (n : Nat) (d : Duration) : Duration := ⟨n * d.nanos⟩

/-- The whole seconds of a duration. -/
def wholeSeconds (d : Duration) : Nat := d.nanos / 1000000000

/-- The nanoseconds beyond the whole seconds. -/
def subsecond (d : Duration) : Nat := d.nanos % 1000000000

/-- The whole milliseconds of a duration. -/
def wholeMillis (d : Duration) : Nat := d.nanos / 1000000

/-- The duration without its fraction of a second. -/
def truncated (d : Duration) : Duration := ofSeconds d.wholeSeconds

@[simp] theorem nanos_add (a b : Duration) : (a + b).nanos = a.nanos + b.nanos := rfl

@[simp] theorem wholeSeconds_ofSeconds (n : Nat) : (ofSeconds n).wholeSeconds = n := by
  simp [ofSeconds, wholeSeconds]

@[simp] theorem wholeSeconds_truncated (d : Duration) :
    d.truncated.wholeSeconds = d.wholeSeconds := by
  simp [truncated]

/-- Truncating again changes nothing. -/
@[simp] theorem truncated_truncated (d : Duration) : d.truncated.truncated = d.truncated := by
  simp [truncated]

/-! ### The short form -/

/-- The digits of a fraction of `places` places, without the zeros at its end. -/
def fractionDigits (places n : Nat) : List Char :=
  let ds := Nat.toDigits 10 n
  let padded := List.replicate (places - ds.length) '0' ++ ds
  (padded.reverse.dropWhile (· == '0')).reverse

/-- A count of units with a fraction of the unit, such as `1.5ms`. -/
def withUnit (whole fraction places : Nat) (unit : String) : String :=
  let ds := fractionDigits places fraction
  let tail := if fraction = 0 then [] else '.' :: ds
  toString whole ++ String.ofList tail ++ unit

/-- The short form with the largest unit of which there is at least one: seconds, milliseconds,
microseconds or nanoseconds. -/
def text (d : Duration) : String :=
  if d.nanos ≥ 1000000000 then withUnit d.wholeSeconds d.subsecond 9 "s"
  else if d.nanos ≥ 1000000 then withUnit (d.nanos / 1000000) (d.nanos % 1000000) 6 "ms"
  else if d.nanos ≥ 1000 then withUnit (d.nanos / 1000) (d.nanos % 1000) 3 "µs"
  else withUnit d.nanos 0 0 "ns"

end Duration

end BalancerSync
