import BalancerSync.Json.Basic

/-!
# Reading JSON

The strict grammar: one value with blanks around it, and nothing after it. A control character
inside a string has to be escaped. Half of a surrogate pair does not make a text malformed, but the
string that holds it has no value.

## Main Definitions

* `Json.parse?` : the value that a whole text writes
-/

namespace BalancerSync.Json

/-- The blanks between tokens. -/
def isGap (c : Char) : Bool := c == ' ' || c == '\t' || c == '\n' || c == '\r'

/-- The text without the blanks at its front. -/
def skipGap (cs : List Char) : List Char := cs.dropWhile isGap

/-! ### Strings -/

/-- The value of a hexadecimal digit. -/
def hexValue? (c : Char) : Option Nat :=
  if c.isDigit then some (c.toNat - '0'.toNat)
  else if 'a' ≤ c && c ≤ 'f' then some (c.toNat - 'a'.toNat + 10)
  else if 'A' ≤ c && c ≤ 'F' then some (c.toNat - 'A'.toNat + 10)
  else none

/-- The number of four hexadecimal digits. -/
def codeUnit? (a b c d : Char) : Option Nat := do
  return (((← hexValue? a) * 16 + (← hexValue? b)) * 16 + (← hexValue? c)) * 16 + (← hexValue? d)

def isHighSurrogate (u : Nat) : Bool := 0xD800 ≤ u && u < 0xDC00

def isLowSurrogate (u : Nat) : Bool := 0xDC00 ≤ u && u < 0xE000

/-- The character of a surrogate pair. -/
def ofSurrogates (high low : Nat) : Char :=
  Char.ofNat (0x10000 + (high - 0xD800) * 0x400 + (low - 0xDC00))

/-- The character of an escape with one letter. -/
def escaped? (c : Char) : Option Char :=
  if c = '"' then some '"'
  else if c = '\\' then some '\\'
  else if c = '/' then some '/'
  else if c = 'b' then some '\x08'
  else if c = 'f' then some '\x0c'
  else if c = 'n' then some '\n'
  else if c = 'r' then some '\r'
  else if c = 't' then some '\t'
  else none

/-- A string after its opening quote, and the text after its closing one. The string is missing if
it holds half of a surrogate pair. -/
def stringRest? : List Char → Option (Option (List Char) × List Char)
  | [] => none
  | '"' :: cs => some (some [], cs)
  | '\\' :: 'u' :: a :: b :: c :: d :: '\\' :: 'u' :: e :: f :: g :: h :: cs =>
    match codeUnit? a b c d, codeUnit? e f g h with
    | some u, some v =>
      if isHighSurrogate u && isLowSurrogate v then
        (stringRest? cs).map fun (s, rest) => (s.map (ofSurrogates u v :: ·), rest)
      else
        (stringRest? ('\\' :: 'u' :: e :: f :: g :: h :: cs)).map fun (s, rest) =>
          (if isHighSurrogate u || isLowSurrogate u then none else s.map (Char.ofNat u :: ·), rest)
    | _, _ => none
  | '\\' :: 'u' :: a :: b :: c :: d :: cs =>
    match codeUnit? a b c d with
    | some u =>
      (stringRest? cs).map fun (s, rest) =>
        (if isHighSurrogate u || isLowSurrogate u then none else s.map (Char.ofNat u :: ·), rest)
    | none => none
  | '\\' :: c :: cs =>
    match escaped? c with
    | some e => (stringRest? cs).map fun (s, rest) => (s.map (e :: ·), rest)
    | none => none
  | c :: cs =>
    if c.toNat < 0x20 || c == '\\' then none
    else (stringRest? cs).map fun (s, rest) => (s.map (c :: ·), rest)

/-- A string as a value. -/
def ofString (s : Option (List Char)) : Json :=
  match s with
  | none => unusable
  | some cs => str (String.ofList cs)

/-! ### Numbers -/

/-- A non-empty run of digits and the text after it. -/
def digitRun? (cs : List Char) : Option (List Char × List Char) :=
  let ds := cs.takeWhile Char.isDigit
  if ds.isEmpty then none else some (ds, cs.dropWhile Char.isDigit)

/-- The whole part of a number: one digit, or several of which the first is not zero. -/
def wholePart? (cs : List Char) : Option (List Char × List Char) :=
  match digitRun? cs with
  | some ('0' :: _ :: _, _) => none
  | found => found

/-- The fraction of a number, with its point. -/
def fractionPart? (cs : List Char) : Option (List Char × List Char) :=
  match cs with
  | '.' :: cs => (digitRun? cs).map fun (ds, rest) => ('.' :: ds, rest)
  | _ => some ([], cs)

/-- The exponent of a number, with its mark and sign. -/
def exponentPart? (cs : List Char) : Option (List Char × List Char) :=
  let after (mark : List Char) (cs : List Char) :=
    (digitRun? cs).map fun (ds, rest) => (mark ++ ds, rest)
  match cs with
  | 'e' :: '+' :: cs | 'E' :: '+' :: cs => after ['e', '+'] cs
  | 'e' :: '-' :: cs | 'E' :: '-' :: cs => after ['e', '-'] cs
  | 'e' :: cs | 'E' :: cs => after ['e'] cs
  | _ => some ([], cs)

/-- The value of a run of digits. -/
def natOfDigits (ds : List Char) : Nat :=
  ds.foldl (fun n c => n * 10 + (c.toNat - '0'.toNat)) 0

/-- A number. Negative zero is not an integer. -/
def number? (cs : List Char) : Option (Json × List Char) := do
  let (negative, cs) := match cs with
    | '-' :: cs => (true, cs)
    | cs => (false, cs)
  let (whole, cs) ← wholePart? cs
  let (fraction, cs) ← fractionPart? cs
  let (exponent, cs) ← exponentPart? cs
  let sign := if negative then ['-'] else []
  let n := natOfDigits whole
  if fraction.isEmpty && exponent.isEmpty && !(negative && n == 0) then
    return (int (if negative then -(n : Int) else n), cs)
  else
    return (decimal (String.ofList (sign ++ whole ++ fraction ++ exponent)), cs)

/-! ### Values -/

/-- The text after a word. -/
def word? : (word : List Char) → List Char → Option (List Char)
  | [], cs => some cs
  | _ :: _, [] => none
  | w :: ws, c :: cs => if w = c then word? ws cs else none

/-- An object of these members. One whose names are not all texts has no value. -/
def ofMembers (members : List (Option (List Char) × Json)) : Json :=
  match members.mapM fun m => m.1.map fun name => (String.ofList name, m.2) with
  | some named => obj named
  | none => unusable

mutual

/-- A value at the front of a text, and the text after it. The first argument bounds the number of
steps; one more than the length of the text is enough, since every step takes a character. -/
def value? : Nat → List Char → Option (Json × List Char)
  | 0, _ => none
  | steps + 1, cs =>
    match skipGap cs with
    | '"' :: cs => (stringRest? cs).map fun (s, rest) => (ofString s, rest)
    | '[' :: cs =>
      match skipGap cs with
      | ']' :: cs => some (arr [], cs)
      | cs => (itemsRest? steps cs).map fun (items, rest) => (arr items, rest)
    | '\x7b' :: cs =>
      match skipGap cs with
      | '\x7d' :: cs => some (obj [], cs)
      | cs => (membersRest? steps cs).map fun (members, rest) => (ofMembers members, rest)
    | 'n' :: cs => (word? ['u', 'l', 'l'] cs).map (null, ·)
    | 't' :: cs => (word? ['r', 'u', 'e'] cs).map (bool true, ·)
    | 'f' :: cs => (word? ['a', 'l', 's', 'e'] cs).map (bool false, ·)
    | cs => number? cs

/-- The items of a list after its opening bracket, and the text after its closing one. -/
def itemsRest? : Nat → List Char → Option (List Json × List Char)
  | 0, _ => none
  | steps + 1, cs =>
    match value? steps cs with
    | none => none
    | some (item, cs) =>
      match skipGap cs with
      | ']' :: cs => some ([item], cs)
      | ',' :: cs => (itemsRest? steps cs).map fun (items, rest) => (item :: items, rest)
      | _ => none

/-- The members of an object after its opening brace, and the text after its closing one. -/
def membersRest? : Nat → List Char → Option (List (Option (List Char) × Json) × List Char)
  | 0, _ => none
  | steps + 1, cs =>
    match skipGap cs with
    | '"' :: cs =>
      match stringRest? cs with
      | none => none
      | some (name, cs) =>
        match skipGap cs with
        | ':' :: cs =>
          match value? steps cs with
          | none => none
          | some (value, cs) =>
            match skipGap cs with
            | '\x7d' :: cs => some ([(name, value)], cs)
            | ',' :: cs =>
              (membersRest? steps cs).map fun (members, rest) => ((name, value) :: members, rest)
            | _ => none
        | _ => none
    | _ => none

end

/-- The value that a whole text writes. -/
def parse? (s : String) : Option Json :=
  let cs := s.toList
  match value? (2 * cs.length + 2) cs with
  | some (value, rest) => if (skipGap rest).isEmpty then some value else none
  | none => none

end BalancerSync.Json
