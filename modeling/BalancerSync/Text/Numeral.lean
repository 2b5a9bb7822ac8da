/-!
# Whole numbers in decimal

The written whole numbers that settings, identifiers and ports use: ASCII digits, at most one sign
before them, leading zeros allowed, nothing else.

## Main Definitions

* `digits?` : the value of a non-empty run of digits
* `natural?` : a number without a sign or with `+`, up to a largest value
* `integer?` : a number with an optional sign, between two bounds
* `int64?` : a signed number of 64 bits
-/

namespace BalancerSync.Text

/-- The value of one more digit after those of value `n`. -/
def pushDigit (n : Nat) (c : Char) : Nat := n * 10 + (c.toNat - '0'.toNat)

/-- The value of a non-empty run of ASCII digits. -/
def digits? (cs : List Char) : Option Nat :=
  if cs.isEmpty || !cs.all Char.isDigit then none else some (cs.foldl pushDigit 0)

/-- A number without a sign or with `+`, at most `max`. -/
def natural? (max : Nat) (s : String) : Option Nat :=
  let unsigned := match s.toList with
    | '+' :: cs => cs
    | cs => cs
  (digits? unsigned).filter (· ≤ max)

/-- A number with an optional sign, between `lo` and `hi`. -/
def integer? (lo hi : Int) (s : String) : Option Int :=
  let signed : Option Int := match s.toList with
    | '+' :: cs => (digits? cs).map Int.ofNat
    | '-' :: cs => (digits? cs).map fun n => -Int.ofNat n
    | cs => (digits? cs).map Int.ofNat
  signed.filter fun n => lo ≤ n && n ≤ hi

/-- The largest signed number of 64 bits. -/
def int64Max : Int := 9223372036854775807

/-- The smallest signed number of 64 bits. -/
def int64Min : Int := -9223372036854775808

/-- A signed number of 64 bits. -/
def int64? (s : String) : Option Int := integer? int64Min int64Max s

end BalancerSync.Text
