import BalancerSync.Duration.Basic
import BalancerSync.Text.Lines
import BalancerSync.Text.Numeral
import BalancerSync.Text.Quoted

/-!
# Written durations

A written duration is a run of components such as `1h30m` or `1.5s`: a decimal number directly
followed by its unit. The only text without a unit is `0`. The value of a component is rounded down
to nanoseconds.

Values are kept in 128 bits on the way. What the whole part of a number comes to, what its fraction
comes to before it is rounded down, and the total of the components are refused if they do not fit.
The sum of the two parts of one component is not looked at and wraps instead; it takes a whole part
less than one unit away from `2 ^ 128` nanoseconds to bring this about. In the end the total has to
be below `2 ^ 64`.

## Main Definitions

* `Duration.Component` : a number and its unit, as written
* `Duration.components` : the components of a text
* `Duration.Component.nanos` : the value of one component
* `Duration.parse` : the value of a written duration
* `Duration.ParseError` : what can be wrong with one
-/

namespace BalancerSync.Duration

/-- What can be wrong with a written duration. -/
inductive ParseError where
  | empty
  | invalid
  | missingUnit
  | unknownUnit (unit : String)
  | outOfRange
  deriving DecidableEq, Repr

/-- The complaint about the text `s`. -/
def ParseError.message (s : String) : ParseError → String
  | empty => "empty duration"
  | invalid => "invalid duration " ++ Text.quoted s
  | missingUnit => "missing unit in duration " ++ Text.quoted s
  | unknownUnit unit => "unknown unit " ++ Text.quoted unit ++ " in duration " ++ Text.quoted s
  | outOfRange => "duration " ++ Text.quoted s ++ " out of range"

/-- A number and its unit, as written. -/
structure Component where
  number : List Char
  unit : List Char
  deriving DecidableEq, Repr

/-- The characters of numbers. -/
def isNumeric (c : Char) : Bool := c.isDigit || c == '.'

/-- The nanoseconds in one unit. -/
def unitNanos? (unit : List Char) : Option Nat :=
  if unit = ['n', 's'] then some 1
  else if unit = ['u', 's'] ∨ unit = ['µ', 's'] then some 1000
  else if unit = ['m', 's'] then some 1000000
  else if unit = ['s'] then some 1000000000
  else if unit = ['m'] then some 60000000000
  else if unit = ['h'] then some 3600000000000
  else none

/-- Past a run of numeric characters and the run of others after it there is less text left. -/
theorem length_rest_lt (c : Char) (cs : List Char) :
    (((c :: cs).dropWhile isNumeric).dropWhile (!isNumeric ·)).length < (c :: cs).length := by
  by_cases h : isNumeric c = true
  · have h₁ := (List.dropWhile_sublist (!isNumeric ·) (l := cs.dropWhile isNumeric)).length_le
    have h₂ := (List.dropWhile_sublist isNumeric (l := cs)).length_le
    simp only [List.dropWhile_cons, h, if_true, List.length_cons]
    omega
  · have h₁ := (List.dropWhile_sublist (!isNumeric ·) (l := cs)).length_le
    simp only [Bool.not_eq_true] at h
    simp only [List.dropWhile_cons, h, Bool.false_eq_true, if_false, Bool.not_false, if_true,
      List.length_cons]
    omega

/-- The components of a text: each is a longest run of numeric characters with the longest run of
other characters after it. -/
def components : List Char → List Component
  | [] => []
  | c :: cs =>
    let rest := (c :: cs).dropWhile isNumeric
    ⟨(c :: cs).takeWhile isNumeric, rest.takeWhile (!isNumeric ·)⟩ ::
      components (rest.dropWhile (!isNumeric ·))
termination_by cs => cs.length
decreasing_by exact length_rest_lt c cs

/-- The value when it is below `2 ^ 128`. -/
def narrow? (n : Nat) : Option Nat := if n < Nat.pow 2 128 then some n else none

/-- What 128 bits keep of a value. -/
def wrapped (n : Nat) : Nat := n % Nat.pow 2 128

/-- The whole part and the fraction digits of a written number. -/
def splitNumber (number : List Char) : List Char × List Char :=
  (Text.cutAt ['.'] number).getD (number, [])

/-- The nanoseconds of the whole part in units of `u` nanoseconds. -/
def wholeNanos? (whole : List Char) (u : Nat) : Option Nat := do
  let w ← if whole.isEmpty then some 0 else Text.digits? whole
  let w ← narrow? w
  narrow? (w * u)

/-- The nanoseconds of the fraction digits in units of `u` nanoseconds, rounded down. The scale is a
power of ten for the number of digits, of which no text that is read here has `2 ^ 32` or more. -/
def fractionNanos? (fraction : List Char) (u : Nat) : Option Nat := do
  if fraction.isEmpty then return 0
  let f ← Text.digits? fraction
  let f ← narrow? f
  let scale ← narrow? (Nat.pow 10 fraction.length)
  let part ← narrow? (f * u)
  return part / scale

/-- The value of one component in nanoseconds. The unit is looked at before the digits. Each of the
two parts fits into 128 bits, but nobody looks whether they do so together. -/
def Component.nanos (c : Component) : Except ParseError Nat :=
  let (whole, fraction) := splitNumber c.number
  if whole.isEmpty && fraction.isEmpty then .error .invalid
  else match unitNanos? c.unit with
    | none =>
      .error (if c.unit.isEmpty then .missingUnit else .unknownUnit (String.ofList c.unit))
    | some u =>
      match wholeNanos? whole u, fractionNanos? fraction u with
      | some w, some f => .ok (wrapped (w + f))
      | _, _ => .error .invalid

/-- The sum of the components' values on top of `total`, from the first to the last. -/
def sumNanos (total : Nat) : List Component → Except ParseError Nat
  | [] => .ok total
  | c :: cs =>
    match c.nanos with
    | .error e => .error e
    | .ok n =>
      match narrow? (total + n) with
      | none => .error .invalid
      | some t => sumNanos t cs

/-- The value of a written duration. -/
def parse (s : String) : Except ParseError Duration :=
  if s = "0" then .ok zero
  else if s = "" then .error .empty
  else match sumNanos 0 (components s.toList) with
    | .error e => .error e
    | .ok n => if n < Nat.pow 2 64 then .ok ⟨n⟩ else .error .outOfRange

/-- The components of a text, written one after the other, are the text. -/
theorem flatMap_components (cs : List Char) :
    (components cs).flatMap (fun c => c.number ++ c.unit) = cs := by
  fun_induction components cs with
  | case1 => rfl
  | case2 c cs rest ih =>
    rw [List.flatMap_cons, ih, List.append_assoc, List.takeWhile_append_dropWhile,
      List.takeWhile_append_dropWhile]

end BalancerSync.Duration
