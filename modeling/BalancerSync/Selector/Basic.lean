import BalancerSync.Labels

/-!
# Label selectors

A selector is a list of requirements on labels, all of which have to be met. The empty selector is
met by everything. Its canonical form has one spelling for each operator, the values of a set in
ascending order, and no blanks but those around `in` and `notin`.

## Main Definitions

* `Selector.Requirement` : what is asked of one key
* `Selector` : a list of requirements
* `Selector.accepts` : whether labels meet all requirements
* `Selector.valueSet` : a list of values as a set, sorted and without repetitions
* `Selector.Requirement.text`, `Selector.text` : the canonical form
-/

namespace BalancerSync

/-- What is asked of one key. -/
inductive Selector.Requirement where
  | equals (key value : String)
  | notEquals (key value : String)
  | isIn (key : String) (values : List String)
  | isNotIn (key : String) (values : List String)
  | exists (key : String)
  | missing (key : String)
  deriving DecidableEq, Repr

/-- A list of requirements, all of which have to be met. -/
structure Selector where
  requirements : List Selector.Requirement
  deriving DecidableEq, Repr, Inhabited

namespace Selector

/-- The selector that is met by everything. -/
def all : Selector := ⟨[]⟩

/-- Whether labels meet a requirement. A missing key has no value, so it differs from every value
and is in no list. -/
def Requirement.isMetBy (labels : Labels) : Requirement → Bool
  | equals key value => labels.get? key == some value
  | notEquals key value => labels.get? key != some value
  | isIn key values => (labels.get? key).any values.contains
  | isNotIn key values => !(labels.get? key).any values.contains
  | .exists key => (labels.get? key).isSome
  | missing key => (labels.get? key).isNone

/-- Whether labels meet all requirements. -/
def accepts (s : Selector) (labels : Labels) : Bool := s.requirements.all (·.isMetBy labels)

def isEmpty (s : Selector) : Bool := s.requirements.isEmpty

/-- The list with a value at its place in the order, unless it is there. -/
def insertValue (v : String) : List String → List String
  | [] => [v]
  | w :: rest =>
    if v < w then v :: w :: rest
    else if v = w then w :: rest
    else w :: insertValue v rest

/-- The values as a set: in ascending order and without repetitions. -/
def valueSet (values : List String) : List String :=
  values.foldl (fun set v => insertValue v set) []

theorem mem_insertValue {v w : String} {set : List String} :
    w ∈ insertValue v set ↔ w = v ∨ w ∈ set := by
  induction set with
  | nil => simp [insertValue]
  | cons x rest ih =>
    simp only [insertValue]
    split
    · simp
    · split
      · rename_i h
        subst h
        simp
      · simp only [List.mem_cons, ih]
        constructor
        · rintro (h | h | h) <;> simp [h]
        · rintro (h | h | h) <;> simp [h]

/-! ### The canonical form -/

/-- The values of a set in parentheses. -/
def valuesText (values : List String) : String := "(" ++ ",".intercalate values ++ ")"

/-- The canonical form of a requirement. -/
def Requirement.text : Requirement → String
  | equals key value => key ++ "=" ++ value
  | notEquals key value => key ++ "!=" ++ value
  | isIn key values => key ++ " in " ++ valuesText values
  | isNotIn key values => key ++ " notin " ++ valuesText values
  | .exists key => key
  | missing key => "!" ++ key

/-- The canonical form of a selector. -/
def text (s : Selector) : String := ",".intercalate (s.requirements.map Requirement.text)

end Selector

end BalancerSync
