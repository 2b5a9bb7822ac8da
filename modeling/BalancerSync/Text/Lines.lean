/-!
# Cutting texts

The blank characters are those with the `White_Space` property of Unicode. Texts that people type
(settings of a Service, environment variables, parts of a selector) are trimmed of them at both
ends before they are read. Lists in settings and selectors are written with commas, and pairs with
one separator. A line ends with a line feed, which may have a carriage return before it.

## Main Definitions

* `isBlank` : the property, as a short list of ranges
* `trimStart`, `trimEnd`, `trim` : a text without its outer blanks; `trimmed` does so on strings
* `pieces` : all the parts of a text between occurrences of a character
* `cutAt` : the parts before and after the first occurrence of a text
* `listItems` : the items of a comma-separated list, blanks and empty items left out
* `lines` : the lines of a text, without their ends
-/

namespace BalancerSync.Text

/-! ### Blanks -/

/-- The characters with the `White_Space` property. The zero-width space and the byte-order mark do
not have it. -/
def isBlank (c : Char) : Bool :=
  let n := c.toNat
  (0x09 ≤ n && n ≤ 0x0D) || n == 0x20 || n == 0x85 || n == 0xA0 || n == 0x1680 ||
    (0x2000 ≤ n && n ≤ 0x200A) || n == 0x2028 || n == 0x2029 || n == 0x202F || n == 0x205F ||
    n == 0x3000

/-- The text without its leading blanks. -/
def trimStart (cs : List Char) : List Char := cs.dropWhile isBlank

/-- The text without its trailing blanks. -/
def trimEnd (cs : List Char) : List Char := (cs.reverse.dropWhile isBlank).reverse

/-- The text without its outer blanks. -/
def trim (cs : List Char) : List Char := trimEnd (trimStart cs)

/-- The string without its outer blanks. -/
def trimmed (s : String) : String := String.ofList (trim s.toList)

/-! ### Pieces -/

/-- The parts of a text between the occurrences of `sep`; a text without `sep` has one part. -/
def pieces (sep : Char) : List Char → List (List Char)
  | [] => [[]]
  | c :: cs =>
    if c = sep then [] :: pieces sep cs
    else match pieces sep cs with
      | [] => [[c]]
      | p :: ps => (c :: p) :: ps

/-- The rest of a text that begins with `start`. -/
def after? : (start : List Char) → List Char → Option (List Char)
  | [], cs => some cs
  | _ :: _, [] => none
  | s :: ss, c :: cs => if s = c then after? ss cs else none

/-- The parts of a text before and after the first occurrence of `sep`. -/
def cutAt (sep : List Char) : List Char → Option (List Char × List Char)
  | [] => (after? sep []).map ([], ·)
  | c :: cs =>
    match after? sep (c :: cs) with
    | some rest => some ([], rest)
    | none => (cutAt sep cs).map fun (l, r) => (c :: l, r)

/-- The items of a comma-separated list: trimmed, and the empty ones left out. -/
def listItems (s : String) : List String :=
  ((pieces ',' s.toList).map trim).filterMap fun item =>
    if item.isEmpty then none else some (String.ofList item)

@[simp] theorem pieces_nil (sep : Char) : pieces sep [] = [[]] := rfl

/-- A text has at least one part. -/
theorem pieces_ne_nil (sep : Char) (cs : List Char) : pieces sep cs ≠ [] := by
  cases cs with
  | nil => simp
  | cons c cs =>
    simp only [pieces]
    split
    · simp
    · split <;> simp

/-! ### Lines -/

/-- A line without the carriage return at its end. -/
def withoutReturn (line : List Char) : List Char :=
  if line.getLast? = some '\r' then line.dropLast else line

/-- The lines of a text. What follows the last line feed is a line only if there is anything. -/
def lines (s : String) : List String :=
  let parts := pieces '\n' s.toList
  let ended := parts.dropLast.map withoutReturn
  let last := parts.getLast?.getD []
  (if last.isEmpty then ended else ended ++ [last]).map String.ofList

end BalancerSync.Text
