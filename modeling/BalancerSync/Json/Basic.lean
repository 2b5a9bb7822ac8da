/-!
# JSON values

The values that the cloud and the cluster exchange. A number keeps the difference between a written
integer and any other written number, since a whole number with a point or an exponent is not
accepted where an integer is expected.

## Main Definitions

* `Json` : a value
* `Json.member?` : the member of an object with a given name
* `Json.optional` : the members that are set, for building an object
-/

namespace BalancerSync

/-- A JSON value. -/
inductive Json where
  | null
  | bool (b : Bool)
  | int (n : Int)
  /-- A number that is not written as an integer, with its text. -/
  | decimal (text : String)
  | str (s : String)
  /-- A string, or an object with a member name, that holds half of a surrogate pair and so is no
  text. It can be skipped but not used. -/
  | unusable
  | arr (items : List Json)
  /-- The members in the order written; a name may occur more than once. -/
  | obj (members : List (String × Json))
  deriving Repr, Inhabited

namespace Json

/-- The value of the last member of the given name. -/
def memberOf? (name : String) (members : List (String × Json)) : Option Json :=
  (members.reverse.find? fun m => m.1 == name).map (·.2)

/-- The value of an object's member; the last one of a repeated name counts. A missing member, a
null, and a value that is no object answer alike. -/
def member? (name : String) : Json → Option Json
  | obj members =>
    match memberOf? name members with
    | some null => none
    | found => found
  | _ => none

def text? : Json → Option String
  | str s => some s
  | _ => none

def int? : Json → Option Int
  | int n => some n
  | _ => none

def bool? : Json → Option Bool
  | bool b => some b
  | _ => none

def items? : Json → Option (List Json)
  | arr items => some items
  | _ => none

def members? : Json → Option (List (String × Json))
  | obj members => some members
  | _ => none

/-- A member that is left out when there is no value for it. -/
def optional (name : String) (value? : Option Json) : List (String × Json) :=
  match value? with
  | none => []
  | some value => [(name, value)]

/-- A value or null. -/
def orNull (value? : Option Json) : Json := value?.getD null

def ofNat (n : Nat) : Json := int n

/-- A list of texts. -/
def texts (items : List String) : Json := arr (items.map str)

end Json

end BalancerSync
