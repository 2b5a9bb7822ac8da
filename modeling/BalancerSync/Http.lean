import BalancerSync.Json.Basic

/-!
# HTTP

What the controller sends and answers in HTTP, as far as it is written text.

Bytes that cannot stand for themselves in a URL are written as a percent sign and two hexadecimal
digits. In the value of a query a blank is written as a plus sign.

A target names the resource that a request is about. It is a path, or else a scheme and an authority
in front of one; a query can follow. The authority tells which server is meant: optional user
information up to the last `@`, a host, which may be an address in brackets, and an optional port
behind a colon. Only its outline is checked, from left to right. A colon may stand for the port
once, and a percent sign not at all, in what follows the last `@` and the address in brackets.

## Main Definitions

* `Http.encodeValue`, `Http.encodeQuery`, `Http.encodePath` : percent encoding
* `Http.Authority.Scan.step?` : a further character of an authority
* `Http.Authority.isValid` : whether a text is an authority
* `Http.Target.parse?` : the target that a text writes
* `Http.Request` : what is asked, of which resource, and with which body
* `Http.phrase?`, `Http.statusText` : the registered phrase of a status code, and both together
-/

namespace BalancerSync.Http

/-! ### Percent encoding -/

/-- A digit in upper case. -/
def hexDigit (n : Nat) : Char := (Nat.digitChar n).toUpper

/-- A byte as a percent sign and two digits. -/
def percent (b : UInt8) : List Char := ['%', hexDigit (b.toNat / 16), hexDigit (b.toNat % 16)]

/-- The bytes of a character, each with a percent sign. -/
def percentAll (c : Char) : List Char := (String.utf8EncodeChar c).flatMap percent

/-- Whether a character stands for itself in the value of a query. -/
def isPlain (c : Char) : Bool :=
  c.isAlphanum || c == '*' || c == '-' || c == '.' || c == '_'

/-- A character in the value of a query. -/
def encodeChar (c : Char) : List Char :=
  if c = ' ' then ['+'] else if isPlain c then [c] else percentAll c

/-- A value of a query. -/
def encodeValue (s : String) : String := String.ofList (s.toList.flatMap encodeChar)

/-- The names and values of a query. -/
def encodeQuery (pairs : List (String × String)) : String :=
  "&".intercalate (pairs.map fun p => encodeValue p.1 ++ "=" ++ encodeValue p.2)

/-- Whether a character cannot stand for itself in a path. -/
def needsPercent (c : Char) : Bool :=
  c.toNat ≤ 0x20 || 0x7F ≤ c.toNat || c == '"' || c == '<' || c == '>' || c == '\x60' ||
    c == '\x7b' || c == '\x7d'

/-- A path. -/
def encodePath (s : String) : String :=
  String.ofList (s.toList.flatMap fun c => if needsPercent c then percentAll c else [c])

end BalancerSync.Http

namespace BalancerSync.Http.Authority

/-! ### Authorities -/

/-- The punctuation that can stand anywhere in an authority. -/
def punctuation : List Char := "!$&'()*+,-.;=_~".toList

/-- Whether a character can stand in an authority without a meaning of its own. -/
def isPlainChar (c : Char) : Bool := c.isAlphanum || punctuation.contains c

/-- The most colons in a row of characters without `@` and `]`: those of an address and a port. -/
def mostColons : Nat := 8

/-- What has been read of an authority. -/
structure Scan where
  /-- The colons since the last `@` or `]`. -/
  colons : Nat
  /-- Whether there was a percent sign since the last `@` or `]`. -/
  percent : Bool
  opened : Bool
  closed : Bool
  /-- Whether the last character was `@`. -/
  afterUser : Bool
  deriving DecidableEq, Repr

namespace Scan

def start : Scan := ⟨0, false, false, false, false⟩

/-- A further character, if it can stand there. -/
def step? (s : Scan) (c : Char) : Option Scan :=
  let s := { s with afterUser := false }
  if c = ':' then if s.colons < mostColons then some { s with colons := s.colons + 1 } else none
  else if c = '[' then if s.percent || s.opened then none else some { s with opened := true }
  else if c = ']' then
    if s.opened && !s.closed then some { s with colons := 0, percent := false, closed := true }
    else none
  else if c = '@' then some { s with colons := 0, percent := false, afterUser := true }
  else if c = '%' then some { s with percent := true }
  else if isPlainChar c then some s
  else none

/-- Whether the authority can end there. -/
def isComplete (s : Scan) : Bool :=
  s.opened == s.closed && s.colons ≤ 1 && !s.percent && !s.afterUser

end Scan

/-- Whether a text is an authority. -/
def isValid (cs : List Char) : Bool :=
  !cs.isEmpty && ((cs.foldlM Scan.step? .start).any Scan.isComplete)

end BalancerSync.Http.Authority

namespace BalancerSync.Http

/-! ### Targets -/

/-- A path and a query. -/
structure Target where
  path : String
  query : String
  deriving DecidableEq, Repr

/-! ### Paths and queries -/

/-- Whether a character can stand in a path. -/
def isPathChar (c : Char) : Bool :=
  let n := c.toNat
  n == 0x21 || n == 0x22 || (0x24 ≤ n && n ≤ 0x3B) || n == 0x3D || (0x40 ≤ n && n ≤ 0x5F) ||
    (0x61 ≤ n && n ≤ 0x7E) || 0x7F ≤ n

/-- Whether a character can stand in a query. -/
def isQueryChar (c : Char) : Bool :=
  let n := c.toNat
  n == 0x21 || (0x24 ≤ n && n ≤ 0x3B) || n == 0x3D || 0x3F ≤ n

/-- The text before a fragment. -/
def withoutFragment (cs : List Char) : List Char := cs.takeWhile (· ≠ '#')

/-- The path and the query that a text writes, if all its characters can stand where they do. The
first question mark begins the query, and a fragment is dropped. -/
def Target.ofPath? (s : List Char) : Option Target :=
  let cs := withoutFragment s
  let path := cs.takeWhile (· ≠ '?')
  let query := (cs.dropWhile (· ≠ '?')).drop 1
  if path.all isPathChar && query.all isQueryChar then
    some ⟨if path.isEmpty then "/" else String.ofList path, String.ofList query⟩
  else none

/-! ### Schemes and authorities -/

/-- Whether a character can stand in the name of a scheme. -/
def isSchemeChar (c : Char) : Bool := c.isAlphanum || c == '+' || c == '-' || c == '.'

/-- The length of the longest name of a scheme. -/
def maxSchemeLength : Nat := 64

/-- What follows a scheme, if there is one. -/
def afterScheme? (cs : List Char) : Option (List Char) :=
  match cs.dropWhile isSchemeChar with
  | ':' :: '/' :: '/' :: rest =>
    if (cs.takeWhile isSchemeChar).length ≤ maxSchemeLength then some rest else none
  | _ => none

/-- Whether a character belongs to the authority that the text begins with. -/
def isBeforePath (c : Char) : Bool := c ≠ '/' && c ≠ '?' && c ≠ '#'

/-- The size in bytes of the longest target. -/
def maxTargetSize : Nat := 65534

/-- The target that a text writes. The path that is empty behind an authority is the root. -/
def Target.parse? (s : String) : Option Target :=
  let cs := s.toList
  if s.utf8ByteSize > maxTargetSize then none
  else if cs.head? = some '/' then ofPath? cs
  else do
    let rest ← afterScheme? cs
    guard (Authority.isValid (rest.takeWhile isBeforePath))
    ofPath? (rest.dropWhile isBeforePath)

/-! ### Requests -/

/-- A request as it is sent. -/
structure Request where
  method : String
  target : Target
  contentType : Option String
  body : Option Json
  deriving Repr

/-! ### Status codes -/

/-- The registered phrases. -/
def phrases : List (Nat × String) :=
  [(100, "Continue"), (101, "Switching Protocols"), (102, "Processing"),
    (200, "OK"), (201, "Created"), (202, "Accepted"),
    (203, "Non Authoritative Information"), (204, "No Content"), (205, "Reset Content"),
    (206, "Partial Content"), (207, "Multi-Status"), (208, "Already Reported"),
    (226, "IM Used"), (300, "Multiple Choices"), (301, "Moved Permanently"), (302, "Found"),
    (303, "See Other"), (304, "Not Modified"), (305, "Use Proxy"),
    (307, "Temporary Redirect"), (308, "Permanent Redirect"), (400, "Bad Request"),
    (401, "Unauthorized"), (402, "Payment Required"), (403, "Forbidden"), (404, "Not Found"),
    (405, "Method Not Allowed"), (406, "Not Acceptable"),
    (407, "Proxy Authentication Required"), (408, "Request Timeout"), (409, "Conflict"),
    (410, "Gone"), (411, "Length Required"), (412, "Precondition Failed"),
    (413, "Payload Too Large"), (414, "URI Too Long"), (415, "Unsupported Media Type"),
    (416, "Range Not Satisfiable"), (417, "Expectation Failed"), (418, "I'm a teapot"),
    (421, "Misdirected Request"), (422, "Unprocessable Entity"), (423, "Locked"),
    (424, "Failed Dependency"), (425, "Too Early"), (426, "Upgrade Required"),
    (428, "Precondition Required"), (429, "Too Many Requests"),
    (431, "Request Header Fields Too Large"), (451, "Unavailable For Legal Reasons"),
    (500, "Internal Server Error"), (501, "Not Implemented"), (502, "Bad Gateway"),
    (503, "Service Unavailable"), (504, "Gateway Timeout"),
    (505, "HTTP Version Not Supported"), (506, "Variant Also Negotiates"),
    (507, "Insufficient Storage"), (508, "Loop Detected"), (510, "Not Extended"),
    (511, "Network Authentication Required")]

/-- The registered phrase of a status code. -/
def phrase? (code : Nat) : Option String := (phrases.find? fun p => p.1 == code).map (·.2)

/-- The code with its phrase. -/
def statusText (code : Nat) : String :=
  toString code ++ " " ++ (phrase? code).getD "<unknown status code>"

/-- Whether the status tells that a request was carried out. -/
def isSuccess (code : Nat) : Bool := 200 ≤ code && code < 300

/-- Whether the status tells that a request failed. -/
def isFailure (code : Nat) : Bool := 400 ≤ code && code < 600

end BalancerSync.Http
