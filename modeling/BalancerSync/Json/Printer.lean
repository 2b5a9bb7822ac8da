import BalancerSync.Json.Basic

/-!
# Writing JSON

The compact form, without blanks. Characters other than the quote, the backslash and the control
characters stand for themselves.

## Main Definitions

* `Json.compact` : the text of a value
-/

namespace BalancerSync.Json

/-- Four hexadecimal digits. -/
def hex4 (n : Nat) : List Char :=
  let ds := Nat.toDigits 16 n
  List.replicate (4 - ds.length) '0' ++ ds

/-- The written form of one character of a string. -/
def writeChar (c : Char) : List Char :=
  if c = '"' then ['\\', '"']
  else if c = '\\' then ['\\', '\\']
  else if c = '\x08' then ['\\', 'b']
  else if c = '\x0c' then ['\\', 'f']
  else if c = '\n' then ['\\', 'n']
  else if c = '\r' then ['\\', 'r']
  else if c = '\t' then ['\\', 't']
  else if c.toNat < 0x20 then ['\\', 'u'] ++ hex4 c.toNat
  else [c]

/-- A string between quotes. -/
def writeString (s : String) : List Char := ['"'] ++ s.toList.flatMap writeChar ++ ['"']

mutual

/-- The text of a value, in front of `rest`. -/
def write (rest : List Char) : Json → List Char
  | null => "null".toList ++ rest
  | bool true => "true".toList ++ rest
  | bool false => "false".toList ++ rest
  | int n => (toString n).toList ++ rest
  | decimal text => text.toList ++ rest
  | str s => writeString s ++ rest
  | unusable => "null".toList ++ rest
  | arr items => '[' :: writeItems (']' :: rest) items
  | obj members => '\x7b' :: writeMembers ('\x7d' :: rest) members

/-- The items of a list with commas between them, in front of `rest`. -/
def writeItems (rest : List Char) : List Json → List Char
  | [] => rest
  | item :: items =>
    write (if items.isEmpty then rest else ',' :: writeItems rest items) item

/-- The members of an object with commas between them, in front of `rest`. -/
def writeMembers (rest : List Char) : List (String × Json) → List Char
  | [] => rest
  | (name, value) :: members =>
    writeString name ++
      (':' :: write (if members.isEmpty then rest else ',' :: writeMembers rest members) value)

end

/-- The text of a value, without blanks. -/
def compact (value : Json) : String := String.ofList (write [] value)

end BalancerSync.Json
