/-!
# Short decimals

A float is a mantissa of up to 53 bits times a power of two. It stands for all the reals that round
to it, and among the decimals in that interval, one on the coarsest grid of powers of ten has the
fewest digits. Decimals are found with mantissas of 64 bits: the bits beyond these are rounded away,
a half upwards.

The interval is scaled by a power of ten to a `Span`, whose whole part has at most nine digits.
Scaling rounds, and so the interval gives up one unit at each end: a decimal that is found
identifies the float, but a shorter one may have been missed. The grids are searched from the
coarsest on. Of the points of a grid that are in the interval the one nearest to the float is taken;
on a grid of more than eight places behind the point of the scaled numbers it is the highest.

Values of metrics are always written as floats: a whole number ends in `.0`. A decimal point is
written where it falls if it is at most 21 places after the first digit or at most five zeros before
it; beyond that the exponent is written out.

## Main Definitions

* `Magnitude` : a natural number times a power of two; `Magnitude.normalized`, `Magnitude.mul` and
  `Magnitude.powerOfTen` keep 64 bits of it
* `Magnitude.Class`, `Magnitude.classify` : what a float stands for
* `Span`, `Span.around` : an interval around a number, and that of a float
* `Decimal`, `Decimal.short` : a natural number times a power of ten, and one that identifies a
  float
* `Decimal.text`, `Decimal.ofFloat` : the written forms
-/

namespace BalancerSync

/-! ### Magnitudes -/

/-- The number `mantissa * 2 ^ exponent`. -/
structure Magnitude where
  mantissa : Nat
  exponent : Int
  deriving DecidableEq, Repr

namespace Magnitude

/-- The same number with a smaller or equal exponent. -/
def aligned (x : Magnitude) (exponent : Int) : Magnitude :=
  ⟨x.mantissa * Nat.pow 2 (x.exponent - exponent).toNat, exponent⟩

/-- The same number with 64 bits in the mantissa, if there were not more. -/
def normalized (x : Magnitude) : Magnitude :=
  x.aligned (x.exponent - ((63 - Nat.log2 x.mantissa : Nat) : Int))

/-- The whole number nearest to a quotient. A half goes up. -/
def nearest (n d : Nat) : Nat := (2 * n + d) / (2 * d)

/-- The product of two numbers with 64 bits in the mantissa, again with 64 bits or one less. -/
def mul (x y : Magnitude) : Magnitude :=
  ⟨nearest (x.mantissa * y.mantissa) (Nat.pow 2 64), x.exponent + y.exponent + 64⟩

/-- The number with 64 bits in the mantissa that is nearest to a power of ten. -/
def powerOfTen (power : Int) : Magnitude :=
  let numerator := Nat.pow 10 power.toNat
  let denominator := Nat.pow 10 (-power).toNat
  let exponent : Int :=
    if power < 0 then -(Nat.log2 denominator + 64 : Nat) else (Nat.log2 numerator : Int) - 63
  ⟨nearest (numerator * Nat.pow 2 (-exponent).toNat) (denominator * Nat.pow 2 exponent.toNat),
    exponent⟩

/-! ### Floats -/

/-- What a float stands for. -/
inductive Class where
  | notANumber
  | infinite (negative : Bool)
  | zero (negative : Bool)
  | finite (negative : Bool) (magnitude : Magnitude)
  deriving DecidableEq, Repr

/-- What the bits of a float stand for: a sign, eleven bits of exponent, and a mantissa of 52 bits
that has a leading one unless the exponent is the least. -/
def classify (bits : Nat) : Class :=
  let negative := bits / Nat.pow 2 63 % 2 == 1
  let exponent : Nat := bits / Nat.pow 2 52 % 2048
  let fraction : Nat := bits % Nat.pow 2 52
  if exponent = 2047 then if fraction = 0 then .infinite negative else .notANumber
  else if exponent = 0 then
    if fraction = 0 then .zero negative else .finite negative ⟨fraction, -1074⟩
  else .finite negative ⟨Nat.pow 2 52 + fraction, exponent - 1075⟩

end Magnitude

/-! ### The search -/

/-- The number `digits * 10 ^ exponent`. -/
structure Decimal where
  digits : Nat
  exponent : Int
  deriving DecidableEq, Repr

/-- An interval around a number, measured in parts of a whole. -/
structure Span where
  /-- The upper end. -/
  upper : Nat
  /-- How far the lower end is below the upper one. -/
  width : Nat
  /-- How far the number is below the upper end. -/
  depth : Nat
  /-- How many parts make a whole. -/
  whole : Nat
  deriving DecidableEq, Repr

namespace Span

/-! ### Grids -/

/-- The point on the grid of `step` that is nearest to the number, as a number of steps. It starts
from the highest point below the upper end and goes down while it stays in the interval and comes
nearer; a tie stays above. -/
def nearestOn (s : Span) (step : Nat) : Nat :=
  let gap := s.upper % step
  s.upper / step -
    min ((s.width - gap) / step) ((2 * (s.depth - gap) + (step - 1)) / (2 * step))

/-- The places of a whole number of at most nine digits, the highest first. -/
def wholePlaces : List Nat := (List.range 9).reverse

/-- The size of a unit of a place. -/
def unit (s : Span) (place : Nat) : Nat := Nat.pow 10 place * s.whole

/-- The highest place of whole numbers whose grid has a point in the interval. -/
def wholePlace? (s : Span) : Option Nat :=
  wholePlaces.find? fun p => s.upper % s.unit p ≤ s.width

/-- The number of places behind the point up to which the nearest point of a grid is taken. -/
def nearestPlaces : Nat := 8

/-- The interval with so many places moved before the point. With too many of them the number
counts as the upper end. -/
def shifted (s : Span) (places : Nat) : Span :=
  let scale := Nat.pow 10 places
  ⟨s.upper * scale, s.width * scale, if places ≤ nearestPlaces then s.depth * scale else 0, s.whole⟩

/-- The most places behind the point. As a whole has at most `2 ^ 60` parts, every interval that is
not empty has a point on the grid of the last. -/
def mostPlaces : Nat := 20

/-- The first place behind the point whose grid has a point inside the interval. -/
def partPlace (s : Span) : Nat :=
  (((List.range mostPlaces).map (· + 1)).find? fun p =>
    (s.shifted p).upper % s.whole < (s.shifted p).width).getD mostPlaces

/-- A short decimal in an interval. -/
def decimal (s : Span) : Decimal :=
  match s.wholePlace? with
  | some p => ⟨s.nearestOn (s.unit p), p⟩
  | none => ⟨(s.shifted s.partPlace).nearestOn s.whole, -s.partPlace⟩

/-! ### Intervals of floats -/

/-- The power of ten that scales a number of 64 bits so that its whole part has at most nine digits.
Powers are taken in steps of eight. -/
def scalingPower (exponent : Int) : Int :=
  let most := 7 - (exponent + 61) * 30103 / 100000
  most - (most + 4) % 8

/-- Half the way to the next larger float. -/
def upperBound (x : Magnitude) : Magnitude := ⟨2 * x.mantissa + 1, x.exponent - 1⟩

/-- Half the way to the next smaller float, which is nearer below a power of two. -/
def lowerBound (x : Magnitude) : Magnitude :=
  if x.mantissa = Nat.pow 2 52 then ⟨4 * x.mantissa - 1, x.exponent - 2⟩
  else ⟨2 * x.mantissa - 1, x.exponent - 1⟩

/-- The interval of a float, scaled by a power of ten and without a unit at each end. -/
def around (x : Magnitude) (power : Int) : Span :=
  let high := (upperBound x).normalized
  let scaled (y : Magnitude) : Magnitude := (y.aligned high.exponent).mul (.powerOfTen power)
  let upper := (scaled high).mantissa - 1
  ⟨upper, upper - ((scaled (lowerBound x)).mantissa + 1), upper - (scaled x).mantissa,
    Nat.pow 2 (-(scaled high).exponent).toNat⟩

end Span

/-- A short decimal that identifies a float. -/
def Decimal.short (x : Magnitude) : Decimal :=
  let power := Span.scalingPower (Span.upperBound x).normalized.exponent
  let scaled := (Span.around x power).decimal
  ⟨scaled.digits, scaled.exponent - power⟩

end BalancerSync

namespace BalancerSync.Decimal

/-! ### Notation -/

/-- The point is written out up to so many places after the first digit. -/
def longestWhole : Int := 21

/-- The point is written out with fewer than so many zeros between it and the first digit. -/
def mostZeros : Int := 6

def zeros (n : Nat) : List Char := List.replicate n '0'

/-- The digits with a point after the first `n` of them. -/
def pointAfter (n : Nat) (ds : List Char) : List Char := ds.take n ++ ['.'] ++ ds.drop n

/-- One digit, the others behind a point, and the exponent of the first. -/
def scientific (ds : List Char) (exponent : Int) : List Char :=
  (if ds.length ≤ 1 then ds else pointAfter 1 ds) ++ ['e'] ++ (toString exponent).toList

/-- The written form of a decimal. -/
def text (d : Decimal) : List Char :=
  let ds := Nat.toDigits 10 d.digits
  let point := ds.length + d.exponent
  if 0 ≤ d.exponent && point ≤ longestWhole then ds ++ zeros d.exponent.toNat ++ ['.', '0']
  else if 0 < point && point ≤ longestWhole then pointAfter point.toNat ds
  else if -mostZeros < point && point ≤ 0 then ['0', '.'] ++ zeros (-point).toNat ++ ds
  else scientific ds (point - 1)

def sign (negative : Bool) : List Char := if negative then ['-'] else []

/-- The written form of a float. -/
def ofFloat (x : Float) : String :=
  String.ofList <| match Magnitude.classify x.toBits.toNat with
    | .notANumber => ['N', 'a', 'N']
    | .infinite negative => sign negative ++ ['i', 'n', 'f']
    | .zero negative => sign negative ++ ['0', '.', '0']
    | .finite negative magnitude => sign negative ++ (short magnitude).text

end BalancerSync.Decimal
