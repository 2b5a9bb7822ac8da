import BalancerSync.Duration.Basic
import BalancerSync.Text.Lines
import BalancerSync.Text.Numeral

/-!
# Moments

A moment is kept as the nanoseconds since the beginning of 1970 in universal time. It is written as
a date, a time of day and an offset from universal time, such as `2024-05-01T12:30:00.5+02:00`.
Blanks can stand between the parts, and in place of the `T`.

## Main Definitions

* `Cluster.Time` : a moment
* `Cluster.Time.dayNumber?` : the days from the beginning of 1970 to a date
* `Cluster.Time.parse?` : the moment that a text writes
-/

namespace BalancerSync.Cluster

/-- A moment, in nanoseconds since the beginning of 1970. -/
structure Time where
  nanos : Int
  deriving DecidableEq, Repr

namespace Time

/-- The moment a number of seconds later. -/
def addSeconds (t : Time) (n : Int) : Time := ⟨t.nanos + n * 1000000000⟩

/-- The moment a duration later. -/
def add (t : Time) (d : Duration) : Time := ⟨t.nanos + d.nanos⟩

/-! ### The calendar -/

/-- The years that a moment can have. -/
def firstYear : Int := -262143
def lastYear : Int := 262142

def isLeapYear (year : Int) : Bool := year % 4 == 0 && (year % 100 != 0 || year % 400 == 0)

/-- The days of the months of a year. -/
def monthLengths (year : Int) : List Nat :=
  [31, if isLeapYear year then 29 else 28, 31, 30, 31, 30, 31, 31, 30, 31, 30, 31]

/-- The days from the beginning of 1970 to the beginning of a year. -/
def daysToYear (year : Int) : Int :=
  let y := year - 1
  365 * y + y / 4 - y / 100 + y / 400 - 719162

/-- The days from the beginning of 1970 to a date, if there is such a date. -/
def dayNumber? (year : Int) (month day : Nat) : Option Int := do
  let lengths := monthLengths year
  let length ← if month = 0 then none else lengths[month - 1]?
  if firstYear ≤ year && year ≤ lastYear && 1 ≤ day && day ≤ length then
    let before : Nat := (lengths.take (month - 1)).foldl (fun n length => n + length) 0
    some (daysToYear year + before + (day - 1 : Nat))
  else none

/-! ### Written moments -/

/-- A number of one up to `width` digits at the front of a text, and the text after it. -/
def digitsAt? (width : Nat) (cs : List Char) : Option (Nat × List Char) :=
  let ds := (cs.take width).takeWhile Char.isDigit
  (Text.digits? ds).map (·, cs.drop ds.length)

/-- A number that can have blanks before it. -/
def numberAt? (width : Nat) (cs : List Char) : Option (Nat × List Char) :=
  digitsAt? width (Text.trimStart cs)

/-- The text after a character that can have blanks before it. -/
def after? (c : Char) (cs : List Char) : Option (List Char) :=
  match Text.trimStart cs with
  | d :: rest => if d = c then some rest else none
  | [] => none

/-- A year. Only with a sign it can have more than four digits. -/
def yearAt? (cs : List Char) : Option (Int × List Char) :=
  match Text.trimStart cs with
  | '-' :: cs => (digitsAt? cs.length cs).map fun (n, rest) => (-(n : Int), rest)
  | '+' :: cs => (digitsAt? cs.length cs).map fun (n, rest) => ((n : Int), rest)
  | cs => (digitsAt? 4 cs).map fun (n, rest) => ((n : Int), rest)

/-- A date, as a number of days. -/
def dateAt? (cs : List Char) : Option (Int × List Char) := do
  let (year, cs) ← yearAt? cs
  let (month, cs) ← numberAt? 2 (← after? '-' cs)
  let (day, cs) ← numberAt? 2 (← after? '-' cs)
  return (← dayNumber? year month day, cs)

/-- The text after what separates the date from the time of day. -/
def afterDate? : List Char → Option (List Char)
  | 'T' :: cs | 't' :: cs | ' ' :: cs => some cs
  | _ => none

/-- The nanoseconds of a fraction of a second. Digits after the ninth do not count. -/
def fractionAt? : List Char → Option (Nat × List Char)
  | '.' :: cs =>
    (digitsAt? 9 cs).map fun (n, rest) =>
      (n * Nat.pow 10 (9 - (cs.length - rest.length)), rest.dropWhile Char.isDigit)
  | cs => some (0, cs)

/-- A time of day, in nanoseconds. A minute can have a sixty-first second. -/
def clockAt? (cs : List Char) : Option (Nat × List Char) := do
  let (hours, cs) ← numberAt? 2 cs
  let (minutes, cs) ← numberAt? 2 (← after? ':' cs)
  let (seconds, cs) ← numberAt? 2 (← after? ':' cs)
  let (nanos, cs) ← fractionAt? cs
  if hours < 24 && minutes < 60 && seconds ≤ 60 then
    some (((hours * 60 + minutes) * 60 + seconds) * 1000000000 + nanos, cs)
  else none

/-- Two digits, as a number below `bound`. -/
def pairAt? (bound : Nat) : List Char → Option (Nat × List Char)
  | c :: d :: cs => ((Text.digits? [c, d]).filter (· < bound)).map (·, cs)
  | _ => none

/-- The seconds of an offset after its sign, less than a day. -/
def offsetSizeAt? (cs : List Char) : Option (Nat × List Char) := do
  let (hours, cs) ← pairAt? 24 cs
  let (minutes, cs) ← pairAt? 60 (cs.dropWhile fun c => c == ':' || Text.isBlank c)
  return ((hours * 60 + minutes) * 60, cs)

/-- An offset from universal time, in seconds. -/
def offsetAt? : List Char → Option (Int × List Char)
  | 'Z' :: cs | 'z' :: cs => some (0, cs)
  | '+' :: cs => (offsetSizeAt? cs).map fun (n, rest) => ((n : Int), rest)
  | '-' :: cs | '\u2212' :: cs => (offsetSizeAt? cs).map fun (n, rest) => (-(n : Int), rest)
  | u :: t :: c :: cs => if [u, t, c].map Char.toUpper = ['U', 'T', 'C'] then some (0, cs) else none
  | _ => none

/-- The moment that a text writes. -/
def parse? (s : String) : Option Time := do
  let (days, cs) ← dateAt? s.toList
  let (clock, cs) ← clockAt? (← afterDate? cs)
  let (offset, cs) ← offsetAt? (Text.trimStart cs)
  guard (Text.trimStart cs).isEmpty
  return ⟨(days * 86400 - offset) * 1000000000 + clock⟩

end Time

end BalancerSync.Cluster
