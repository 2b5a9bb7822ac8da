import BalancerSync.Json.Reader

/-!
# Numbers

A written number as a float. The leading digits that make a number of 64 bits are read, and that
number is multiplied or divided by a power of ten. Up to fifteen digits with an exponent of moderate
size give the nearest float; a longer number may be read as one of its neighbours.

## Main Definitions

* `Json.leading` : the number that the leading digits make
* `Json.scaled?` : a float times a power of ten
* `Json.float?` : the float of a number
-/

namespace BalancerSync.Json

/-- The exponent at the front of a text, after its mark. A text without one has exponent 0. -/
def exponentValue : List Char → Int
  | 'e' :: '-' :: ds | 'E' :: '-' :: ds => -(natOfDigits ds : Int)
  | 'e' :: '+' :: ds | 'E' :: '+' :: ds | 'e' :: ds | 'E' :: ds => natOfDigits ds
  | _ => 0

/-- The bound of the numbers that digits are read into. -/
def significandBound : Nat := Nat.pow 2 64

/-- The number that more digits make of a number, as long as it stays in bounds, and how many digits
were read for that. -/
def leading (n : Nat) : List Char → Nat × Nat
  | [] => (n, 0)
  | d :: ds =>
    let next := n * 10 + natOfDigits [d]
    if next < significandBound then ((leading next ds).1, (leading next ds).2 + 1) else (n, 0)

/-- The exponent of the greatest power of ten that is a float. -/
def maxPower : Nat := 308

def powerOfTen (power : Nat) : Float := Float.ofScientific 1 false power

/-- A float times a power of ten, if it is not too large. A division by more than the greatest power
goes in two steps; what is left after them is zero. -/
def scaled? (x : Float) (power : Int) : Option Float :=
  let n := power.natAbs
  if power < 0 then
    if n ≤ maxPower then some (x / powerOfTen n)
    else some (x / powerOfTen maxPower / powerOfTen (min (n - maxPower) maxPower))
  else if x == 0 then some x
  else if n ≤ maxPower && (x * powerOfTen n).isFinite then some (x * powerOfTen n)
  else none

/-- The float of a written number without a sign. -/
def magnitude? (cs : List Char) : Option Float :=
  let whole := cs.takeWhile Char.isDigit
  let afterWhole := cs.dropWhile Char.isDigit
  let fraction := match afterWhole with
    | '.' :: rest => rest.takeWhile Char.isDigit
    | _ => []
  let (n, read) := leading 0 whole
  let (n, places) := leading n fraction
  let written := exponentValue ((afterWhole.dropWhile (· == '.')).dropWhile Char.isDigit)
  scaled? (Float.ofNat n) (written + (whole.length - read : Nat) - (places : Nat))

/-- The float of a number, if it is not too large. -/
def float? : Json → Option Float
  | int n =>
    (magnitude? (Nat.toDigits 10 n.natAbs)).map fun x => if n < 0 then -x else x
  | decimal text =>
    match text.toList with
    | '-' :: cs => (magnitude? cs).map (-·)
    | cs => magnitude? cs
  | _ => none

end BalancerSync.Json
