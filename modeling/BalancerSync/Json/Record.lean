import BalancerSync.Json.Basic
import BalancerSync.Json.Number
import BalancerSync.Labels
import BalancerSync.Text.Numeral

/-!
# Shapes and records

A shape tells what a value has to look like. A record of this kind is always written as an object; a
field of it can be missing, null, or repeated, and the members that are not fields do not matter.

A record that is read has a fixed list of fields. It is written as an object, whose other members do
not matter, or as the list of its fields in order. A field must not occur twice. Unlike a lookup of
a member, reading a record tells a null from a missing field.

## Main Definitions

* `Json.Shape` : what a value has to look like
* `Json.Shape.list`, `Json.Shape.table`, `Json.Shape.record` : shapes made of others
* `Json.Shape.kept` : a value of any form that is kept as it is
* `Json.Record`, `Json.record?` : the fields that a value has
* `Json.Record.required`, `Json.Record.optional`, `Json.Record.withDefault` : reading a field
* `Json.integer?`, `Json.natural?`, `Json.list?`, `Json.labels?` : reading the value of a field
-/

namespace BalancerSync.Json

/-! ### Shapes -/

/-- What a value has to look like. -/
abbrev Shape : Type := Json → Bool

namespace Shape

def text : Shape := fun j => j.text?.isSome

def flag : Shape := fun j => j.bool?.isSome

/-- A whole number between two bounds. -/
def whole (lo hi : Int) : Shape := fun j => j.int?.any fun n => lo ≤ n && n ≤ hi

/-- A signed number of 32 bits. -/
def int32 : Shape := whole (-2147483648) 2147483647

/-- A signed number of 64 bits. -/
def int64 : Shape := whole Text.int64Min Text.int64Max

/-- The shape of a value that may be null. -/
def orNull (s : Shape) : Shape
  | null => true
  | j => s j

/-- A list of values of one shape. -/
def list (item : Shape) : Shape := fun j => j.items?.any fun items => items.all item

/-- An object of values of one shape under any names. -/
def table (value : Shape) : Shape := fun j => j.members?.any fun ms => ms.all fun m => value m.2

/-- Whether every member of a name has a shape. -/
def everywhere (name : String) (s : Shape) (members : List (String × Json)) : Bool :=
  members.all fun m => m.1 != name || s m.2

/-- An object with these fields. -/
def record (fields : List (String × Shape)) : Shape := fun j =>
  j.members?.any fun ms => fields.all fun f => everywhere f.1 f.2.orNull ms

/-- A value of any form that is kept, with at most so many lists and objects inside each other. All
its texts have a value and all its numbers are in range. -/
def kept : Nat → Shape
  | 0, arr _ | 0, obj _ => false
  | depth + 1, arr items => items.all (kept depth)
  | depth + 1, obj members => members.all fun m => kept depth m.2
  | _, unusable => false
  | _, int n => (int n).float?.isSome
  | _, decimal text => (decimal text).float?.isSome
  | _, null | _, bool _ | _, str _ => true

end Shape

/-! ### Records -/

/-- The fields that a value has. -/
structure Record where
  fields : List (String × Json)
  /-- Whether the record is written as a list. -/
  isList : Bool
  deriving Repr

/-- The members with one of the names, unless one of them occurs twice. -/
def fieldsOf? (names : List String) (members : List (String × Json)) :
    Option (List (String × Json)) :=
  let known := members.filter fun m => names.contains m.1
  if names.any fun n => 1 < known.countP fun m => m.1 == n then none else some known

/-- The fields of a value that is written as a record with these names. -/
def record? (names : List String) : Json → Option Record
  | obj members => (fieldsOf? names members).map (⟨·, false⟩)
  | arr items => if items.length ≤ names.length then some ⟨names.zip items, true⟩ else none
  | _ => none

/-- A value that may be null. -/
def nullable? {α : Type} (read : Json → Option α) : Json → Option (Option α)
  | null => some none
  | j => (read j).map some

namespace Record

/-- The value of a field. -/
def value? (r : Record) (name : String) : Option Json :=
  (r.fields.find? fun f => f.1 == name).map (·.2)

/-- A field that has to be there. -/
def required {α : Type} (r : Record) (name : String) (read : Json → Option α) : Option α :=
  (r.value? name).bind read

/-- A field that may be null or, in an object, missing. -/
def optional {α : Type} (r : Record) (name : String) (read : Json → Option α) :
    Option (Option α) :=
  match r.value? name with
  | none => if r.isList then none else some none
  | some j => nullable? read j

/-- A field that may be missing. -/
def withDefault {α : Type} (r : Record) (name : String) (default : α) (read : Json → Option α) :
    Option α :=
  match r.value? name with
  | none => some default
  | some j => read j

end Record

/-- A record with one field. -/
def envelope? {α : Type} (name : String) (read : Json → Option α) (j : Json) : Option α := do
  (← record? [name] j).required name read

/-! ### Values -/

/-- A signed number of 64 bits. -/
def integer? (j : Json) : Option Int :=
  j.int?.filter fun n => Text.int64Min ≤ n && n ≤ Text.int64Max

/-- A number that is not negative and less than `limit`. -/
def natural? (limit : Nat) (j : Json) : Option Nat :=
  (j.int?.filter fun n : Int => 0 ≤ n && n < limit).map Int.toNat

/-- A list of values. -/
def list? {α : Type} (read : Json → Option α) (j : Json) : Option (List α) := do
  (← j.items?).mapM read

/-- An object of texts; the last one under a repeated name counts. -/
def labels? (j : Json) : Option Labels := do
  let entries ← (← j.members?).mapM fun m => m.2.text?.map (m.1, ·)
  return .ofList entries

end BalancerSync.Json
