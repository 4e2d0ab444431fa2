import ManagementServer.Text.Digits

/-!
# IP addresses

Reading and writing IPv4 and IPv6 addresses. An IPv6 address has many spellings and one canonical
text, in which the longest run of zero groups is left out.
-/

namespace ManagementServer.Net

/-- An IPv4 address. -/
structure Ipv4 where
  a : Nat
  b : Nat
  c : Nat
  d : Nat
  deriving DecidableEq, Repr, Inhabited

/-- An IPv6 address, as eight groups of sixteen bits. -/
structure Ipv6 where
  groups : List Nat
  deriving DecidableEq, Repr, Inhabited

/-- An address of either family. -/
inductive IpAddress where
  | v4 (address : Ipv4)
  | v6 (address : Ipv6)
  deriving DecidableEq, Repr, Inhabited

namespace Ipv4

/-- Reads an octet: up to three digits, without a leading zero. -/
def octet? (cs : List Char) : Option (Nat × List Char) :=
  let ds := cs.takeWhile Char.isDigit
  let n := Text.Digits.decimal (ds.take 4)
  if ds.isEmpty || 3 < ds.length || 255 < n || (1 < ds.length && ds.head? == some '0') then none
  else some (n, cs.drop ds.length)

/-- Reads a dot and an octet. -/
def dotted? : List Char → Option (Nat × List Char)
  | '.' :: rest => octet? rest
  | _ => none

/-- Reads an address at the start of a text. -/
def read? (cs : List Char) : Option (Ipv4 × List Char) := do
  let (a, cs) ← octet? cs
  let (b, cs) ← dotted? cs
  let (c, cs) ← dotted? cs
  let (d, cs) ← dotted? cs
  return (⟨a, b, c, d⟩, cs)

/-- Reads a text that is an address. -/
def parse? (cs : List Char) : Option Ipv4 := do
  let (address, rest) ← read? cs
  if rest.isEmpty then return address else none

/-- The text of an address. -/
def chars (x : Ipv4) : List Char :=
  Text.Digits.ofNat x.a ++ '.' :: Text.Digits.ofNat x.b ++ '.' :: Text.Digits.ofNat x.c ++
    '.' :: Text.Digits.ofNat x.d

end Ipv4

namespace Ipv6

/-- Reads a group: up to four hexadecimal digits. -/
def group? (cs : List Char) : Option (Nat × List Char) :=
  let ds := cs.takeWhile fun c => (Text.Digits.hexValue? c).isSome
  if ds.isEmpty || 4 < ds.length then none
  else (Text.Digits.parse? 16 ds).map (·, cs.drop ds.length)

/-- Reads the colon before every group but the first. -/
def separator? (isFirst : Bool) (cs : List Char) : Option (List Char) :=
  if isFirst then some cs
  else match cs with
    | ':' :: rest => some rest
    | _ => none

/-- Reads up to `limit` groups, of which the last two may be written as an IPv4 address; says
whether they were. -/
def readGroups (isFirst : Bool) : Nat → List Char → List Nat × Bool × List Char
  | 0, cs => ([], false, cs)
  | limit + 1, cs =>
    let embedded := do
      if limit == 0 then none
      let cs ← separator? isFirst cs
      Ipv4.read? cs
    match embedded with
    | some (inner, rest) =>
      ([inner.a * 256 + inner.b, inner.c * 256 + inner.d], true, rest)
    | none =>
      match separator? isFirst cs >>= group? with
      | none => ([], false, cs)
      | some (g, rest) =>
        let (gs, isDotted, rest) := readGroups false limit rest
        (g :: gs, isDotted, rest)

/-- Reads a text that is an address. Two colons stand for the groups that are missing, one at
least. -/
def parse? (cs : List Char) : Option Ipv6 :=
  let (front, isDotted, rest) := readGroups true 8 cs
  if front.length == 8 then if rest.isEmpty then some ⟨front⟩ else none
  else if isDotted then none
  else match rest with
    | ':' :: ':' :: rest =>
      let (back, _, rest) := readGroups true (7 - front.length) rest
      if rest.isEmpty then
        some ⟨front ++ List.replicate (8 - front.length - back.length) 0 ++ back⟩
      else none
    | _ => none

/-- The lengths of the runs of zeros that begin at each group. -/
def zeroRuns : List Nat → List Nat
  | [] => []
  | g :: rest =>
    let runs := zeroRuns rest
    (if g == 0 then runs.headD 0 + 1 else 0) :: runs

/-- The start and the length of the first longest run of zeros, if it has two groups or more. -/
def longestRun (gs : List Nat) : Option (Nat × Nat) :=
  let runs := zeroRuns gs
  let longest := runs.foldl max 0
  if 2 ≤ longest then some (runs.findIdx (· == longest), longest) else none

/-- Groups between colons. -/
def groupChars : List Nat → List Char
  | [] => []
  | [g] => Nat.toDigits 16 g
  | g :: rest => Nat.toDigits 16 g ++ ':' :: groupChars rest

/-- The text of an address, all in hexadecimal. -/
def chars (x : Ipv6) : List Char :=
  match longestRun x.groups with
  | none => groupChars x.groups
  | some (start, length) =>
    groupChars (x.groups.take start) ++ ':' :: ':' :: groupChars (x.groups.drop (start + length))

/-- The IPv4 address that an IPv4-mapped address carries. -/
def mapped? (x : Ipv6) : Option Ipv4 :=
  match x.groups with
  | [0, 0, 0, 0, 0, 0xFFFF, high, low] => some ⟨high / 256, high % 256, low / 256, low % 256⟩
  | _ => none

end Ipv6

namespace IpAddress

/-- Reads a text that is an address. -/
def parse? (cs : List Char) : Option IpAddress :=
  match Ipv4.parse? cs with
  | some x => some (.v4 x)
  | none => (Ipv6.parse? cs).map .v6

/-- The canonical text; an IPv4-mapped address shows the IPv4 address. -/
def chars : IpAddress → List Char
  | .v4 x => x.chars
  | .v6 x =>
    match x.mapped? with
    | some inner => "::ffff:".toList ++ inner.chars
    | none => x.chars

/-- The canonical text. -/
def text (x : IpAddress) : String :=
  String.ofList x.chars

end IpAddress

end ManagementServer.Net
