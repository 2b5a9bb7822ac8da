import BalancerSync.Error
import BalancerSync.Selector.Basic
import BalancerSync.Text.Lines
import BalancerSync.Text.Quoted

/-!
# Written selectors

A selector is written as requirements with commas between them: `a=b`, `a==b`, `a!=b`, `a in (x,y)`,
`a notin (x)`, `a` and `!a`. Commas inside parentheses belong to a requirement. Keys are made of
ASCII letters, digits and `-_./`; values are any text.

## Main Definitions

* `Selector.terms` : the written requirements of a text
* `Selector.parseTerm` : one requirement
* `Selector.parse` : the selector that a text writes
* `Selector.Problem` : what can be wrong with one
-/

namespace BalancerSync.Selector

/-- What can be wrong with a written selector. -/
inductive Problem where
  | unbalancedClose
  | unbalancedOpen
  | emptyRequirement
  | invalidKey (key : String)
  | noValueList (found : String)
  | unknownOperator (term : String)
  deriving DecidableEq, Repr

def Problem.text : Problem → String
  | unbalancedClose => "unbalanced ')'"
  | unbalancedOpen => "unbalanced '('"
  | emptyRequirement => "empty requirement"
  | invalidKey key => "invalid label key " ++ Text.quoted key
  | noValueList found => "expected value list in parentheses, got " ++ Text.quoted found
  | unknownOperator term => "unknown operator in " ++ Text.quoted term

/-- Cuts a text at the commas outside parentheses, of which `depth` are open. -/
def cutTerms : (depth : Nat) → List Char → Except Problem (List (List Char))
  | 0, [] => .ok [[]]
  | _ + 1, [] => .error .unbalancedOpen
  | depth, c :: cs =>
    if c = ',' ∧ depth = 0 then
      (cutTerms 0 cs).map ([] :: ·)
    else if c = ')' ∧ depth = 0 then .error .unbalancedClose
    else
      let depth := if c = '(' then depth + 1 else if c = ')' then depth - 1 else depth
      (cutTerms depth cs).map fun
        | [] => [[c]]
        | term :: terms => (c :: term) :: terms

/-- The written requirements of a text, trimmed. -/
def terms (cs : List Char) : Except Problem (List (List Char)) :=
  (cutTerms 0 cs).map fun ts => ts.map Text.trim

/-- The characters of keys. -/
def isKeyChar (c : Char) : Bool :=
  c.isAlphanum || c == '-' || c == '_' || c == '.' || c == '/'

/-- The key that a text is, if it is one. -/
def parseKey (cs : List Char) : Except Problem String :=
  if !cs.isEmpty && cs.all isKeyChar then .ok (String.ofList cs)
  else .error (.invalidKey (String.ofList cs))

/-- The text without a closing parenthesis at its end. -/
def beforeClose? (cs : List Char) : Option (List Char) :=
  match cs.reverse with
  | ')' :: rest => some rest.reverse
  | _ => none

/-- The set of values in parentheses. -/
def parseValues (cs : List Char) : Except Problem (List String) :=
  match Text.trim cs with
  | '(' :: rest =>
    match beforeClose? rest with
    | some inner => .ok (valueSet (Text.listItems (String.ofList inner)))
    | none => .error (.noValueList (String.ofList cs))
  | _ => .error (.noValueList (String.ofList cs))

/-- A requirement with two texts around its operator; the first is a key. -/
def parsePair (make : String → String → Requirement) (key value : List Char) :
    Except Problem Requirement :=
  (parseKey (Text.trim key)).map fun k => make k (String.ofList (Text.trim value))

/-- A requirement on membership in a set. The key is looked at before the set. -/
def parseMembership (make : String → List String → Requirement) (key values : List Char) :
    Except Problem Requirement := do
  let k ← parseKey key
  let vs ← parseValues values
  return make k vs

/-- A requirement without `=`: a key alone, or one followed by a blank and an operator. -/
def parseWords (term : List Char) : Except Problem Requirement :=
  let key := term.takeWhile (!Text.isBlank ·)
  match term.dropWhile (!Text.isBlank ·) with
  | [] => (parseKey key).map .exists
  | _ :: rest =>
    let rest := Text.trimStart rest
    match Text.after? ['n', 'o', 't', 'i', 'n'] rest with
    | some values => parseMembership .isNotIn key values
    | none =>
      match Text.after? ['i', 'n'] rest with
      | some values => parseMembership .isIn key values
      | none => .error (.unknownOperator (String.ofList term))

/-- One requirement. -/
def parseTerm (term : List Char) : Except Problem Requirement :=
  match term with
  | [] => .error .emptyRequirement
  | '!' :: key => (parseKey (Text.trim key)).map .missing
  | _ =>
    match Text.cutAt ['!', '='] term with
    | some (key, value) => parsePair .notEquals key value
    | none =>
      match (Text.cutAt ['=', '='] term).or (Text.cutAt ['='] term) with
      | some (key, value) => parsePair .equals key value
      | none => parseWords term

/-- The selector that trimmed characters write. -/
def parseChars (cs : List Char) : Except Problem Selector :=
  if cs.isEmpty then .ok all
  else do
    let ts ← terms cs
    let rs ← ts.mapM parseTerm
    return ⟨rs⟩

/-- The selector that a text writes. -/
def parse (s : String) : Except Error Selector :=
  let s := Text.trimmed s
  match parseChars s.toList with
  | .ok selector => .ok selector
  | .error problem =>
    .error (.validation ("label selector " ++ Text.quoted s ++ ": " ++ problem.text))

end BalancerSync.Selector
