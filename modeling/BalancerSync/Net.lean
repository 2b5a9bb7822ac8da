import BalancerSync.Text.Numeral

/-!
# Network addresses

Network addresses are written with numbers in base 10 or 16 between separators. An IPv4 address has
four octets, in decimal without leading zeros. An IPv6 address has eight groups of 16 bits in
hexadecimal; one run of zero groups may be written as `::`, and the last two groups may be written
as an IPv4 address. Its written form is canonical: lower-case digits without leading zeros, the
first of the longest runs of at least two zero groups as `::`, and an address that stands for an
IPv4 address with that address at its end. A socket address is an IP address with a port, such as
`0.0.0.0:8233` or `[::1]:80`; that of an IPv6 socket may carry a numeric scope after `%`.

## Main Definitions

* `number?`, `expect?` : a number or a character taken from the front of a text
* `IPv4`, `IPv4.parse?`, `IPv4.text` : an address with four octets and its written form
* `IPv6`, `IPv6.parse?`, `IPv6.text` : an address with eight groups and its written form
* `SocketAddress`, `SocketAddress.parse?`, `SocketAddress.text` : an address with a port
-/

namespace BalancerSync.Net

/-! ### Scanning numbers -/

/-- The value of a digit in base `base`, at most 16; letters may have either case. -/
def digitValue? (base : Nat) (c : Char) : Option Nat :=
  let value :=
    if c.isDigit then some (c.toNat - '0'.toNat)
    else if 'a' ≤ c && c ≤ 'f' then some (c.toNat - 'a'.toNat + 10)
    else if 'A' ≤ c && c ≤ 'F' then some (c.toNat - 'A'.toNat + 10)
    else none
  value.filter (· < base)

/-- The values of the digits at the front of a text, and the text after them. -/
def takeDigits (base : Nat) : List Char → List Nat × List Char
  | [] => ([], [])
  | c :: cs =>
    match digitValue? base c with
    | none => ([], c :: cs)
    | some d => let (ds, rest) := takeDigits base cs; (d :: ds, rest)

/-- The number of these digits in base `base`. -/
def ofDigits (base : Nat) (ds : List Nat) : Nat := ds.foldl (fun n d => n * base + d) 0

/-- A number of one up to `maxDigits` digits and of at most `max`, with leading zeros only if
`zeros` allows them. -/
def number? (base maxDigits max : Nat) (zeros : Bool) (cs : List Char) :
    Option (Nat × List Char) :=
  let (ds, rest) := takeDigits base cs
  if ds.isEmpty || ds.length > maxDigits then none
  else if !zeros && ds.head? == some 0 && ds.length > 1 then none
  else if ofDigits base ds > max then none
  else some (ofDigits base ds, rest)

/-- A decimal number of any count of digits, at most `max`. -/
def decimal? (max : Nat) (cs : List Char) : Option (Nat × List Char) :=
  number? 10 cs.length max true cs

/-- The text after the character `c`. -/
def expect? (c : Char) : List Char → Option (List Char)
  | [] => none
  | d :: cs => if c = d then some cs else none

/-! ### IPv4 -/

/-- An IPv4 address. -/
structure IPv4 where
  a : UInt8
  b : UInt8
  c : UInt8
  d : UInt8
  deriving DecidableEq, Repr, Inhabited

namespace IPv4

/-- One octet at the front of a text. -/
def octet? (cs : List Char) : Option (UInt8 × List Char) :=
  (number? 10 3 255 false cs).map fun (n, rest) => (n.toUInt8, rest)

/-- An address at the front of a text. -/
def scan? (cs : List Char) : Option (IPv4 × List Char) := do
  let (a, cs) ← octet? cs
  let (b, cs) ← octet? (← expect? '.' cs)
  let (c, cs) ← octet? (← expect? '.' cs)
  let (d, cs) ← octet? (← expect? '.' cs)
  return (⟨a, b, c, d⟩, cs)

/-- The address that a whole text writes. -/
def parse? (s : String) : Option IPv4 :=
  match scan? s.toList with
  | some (ip, []) => some ip
  | _ => none

/-- The written form. -/
def text (ip : IPv4) : String :=
  ".".intercalate ([ip.a, ip.b, ip.c, ip.d].map fun o => toString o.toNat)

end IPv4

/-! ### IPv6 -/

/-- An IPv6 address as its eight groups. -/
structure IPv6 where
  groups : Vector UInt16 8
  deriving DecidableEq, Repr

namespace IPv6

/-- An IPv4 address as two groups. -/
def pairOfIPv4 (ip : IPv4) : List UInt16 :=
  [ip.a.toUInt16 * 256 + ip.b.toUInt16, ip.c.toUInt16 * 256 + ip.d.toUInt16]

/-- The text after the colon that separates a group from an earlier one. -/
def separator? (isFirst : Bool) (cs : List Char) : Option (List Char) :=
  if isFirst then some cs else expect? ':' cs

/-- The groups at the front of a text, at most `room` of them, and the text after them. The flag
tells whether an IPv4 address ended them, which needs room for two. -/
def scanGroups (isFirst : Bool) : (room : Nat) → List Char → List UInt16 × Bool × List Char
  | 0, cs => ([], false, cs)
  | room + 1, cs =>
    let tail? : Option (IPv4 × List Char) :=
      if room = 0 then none else (separator? isFirst cs).bind IPv4.scan?
    match tail? with
    | some (ip, rest) => (pairOfIPv4 ip, true, rest)
    | none =>
      match (separator? isFirst cs).bind (number? 16 4 0xFFFF true) with
      | none => ([], false, cs)
      | some (n, rest) =>
        let (gs, v4, rest) := scanGroups false room rest
        (n.toUInt16 :: gs, v4, rest)

/-- The address of these groups, if there are eight. -/
def ofGroups? (gs : List UInt16) : Option IPv6 :=
  if h : gs.toArray.size = 8 then some ⟨⟨gs.toArray, h⟩⟩ else none

/-- An address at the front of a text: eight groups, or fewer with one `::` in place of the missing
zeros. No IPv4 address may stand before the `::`. -/
def scan? (cs : List Char) : Option (IPv6 × List Char) :=
  let (head, v4, rest) := scanGroups true 8 cs
  if head.length = 8 then (ofGroups? head).map (·, rest)
  else if v4 then none
  else match (expect? ':' rest).bind (expect? ':') with
    | none => none
    | some rest =>
      let (tail, _, rest) := scanGroups true (8 - (head.length + 1)) rest
      let zeros := List.replicate (8 - head.length - tail.length) 0
      (ofGroups? (head ++ zeros ++ tail)).map (·, rest)

/-- The address that a whole text writes. -/
def parse? (s : String) : Option IPv6 :=
  match scan? s.toList with
  | some (ip, []) => some ip
  | _ => none

/-! ### The canonical form -/

/-- The hexadecimal digits of a group. -/
def groupText (g : UInt16) : String := String.ofList (Nat.toDigits 16 g.toNat)

/-- Groups with colons between them. -/
def groupsText (gs : List UInt16) : String := ":".intercalate (gs.map groupText)

/-- The length of the run of zero groups at the front. -/
def zeroRun (gs : List UInt16) : Nat := (gs.takeWhile (· == 0)).length

/-- Where the first of the longest runs of zero groups starts, and its length. -/
def longestZeroRun (gs : List UInt16) : Nat × Nat :=
  (List.range gs.length).foldl
    (fun best i => let n := zeroRun (gs.drop i); if n > best.2 then (i, n) else best) (0, 0)

/-- The IPv4 address that an address of the form `::ffff:a.b.c.d` stands for. -/
def mapped? (ip : IPv6) : Option IPv4 :=
  match ip.groups.toList with
  | [0, 0, 0, 0, 0, 0xFFFF, g, h] =>
    some ⟨(g >>> 8).toUInt8, g.toUInt8, (h >>> 8).toUInt8, h.toUInt8⟩
  | _ => none

/-- The canonical written form. -/
def text (ip : IPv6) : String :=
  match mapped? ip with
  | some v4 => "::ffff:" ++ v4.text
  | none =>
    let gs := ip.groups.toList
    let (start, n) := longestZeroRun gs
    if n > 1 then groupsText (gs.take start) ++ "::" ++ groupsText (gs.drop (start + n))
    else groupsText gs

end IPv6

/-! ### Sockets -/

/-- An address and a port. -/
inductive SocketAddress where
  | v4 (ip : IPv4) (port : Nat)
  | v6 (ip : IPv6) (scope port : Nat)
  deriving DecidableEq, Repr

namespace SocketAddress

/-- The port that ends a text. -/
def port? (cs : List Char) : Option Nat := do
  let (port, rest) ← decimal? 65535 (← expect? ':' cs)
  if rest.isEmpty then some port else none

/-- An IPv4 address and a port. -/
def parseV4? (cs : List Char) : Option SocketAddress := do
  let (ip, cs) ← IPv4.scan? cs
  return .v4 ip (← port? cs)

/-- The scope after `%`; a text without one has scope 0. -/
def scope? (cs : List Char) : Nat × List Char :=
  ((expect? '%' cs).bind (decimal? 4294967295)).getD (0, cs)

/-- An IPv6 address in brackets and a port. -/
def parseV6? (cs : List Char) : Option SocketAddress := do
  let (ip, cs) ← IPv6.scan? (← expect? '[' cs)
  let (scope, cs) := scope? cs
  return .v6 ip scope (← port? (← expect? ']' cs))

/-- The socket address that a whole text writes. -/
def parse? (s : String) : Option SocketAddress :=
  (parseV4? s.toList).or (parseV6? s.toList)

/-- The written form. -/
def text : SocketAddress → String
  | v4 ip port => ip.text ++ ":" ++ toString port
  | v6 ip 0 port => "[" ++ ip.text ++ "]:" ++ toString port
  | v6 ip scope port => "[" ++ ip.text ++ "%" ++ toString scope ++ "]:" ++ toString port

end SocketAddress

end BalancerSync.Net
