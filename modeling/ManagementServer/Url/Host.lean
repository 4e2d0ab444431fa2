import ManagementServer.Net.Address
import ManagementServer.Text.Blank
import ManagementServer.Text.Utf8

/-!
# Hosts in URLs

The host of a URL with a scheme of its own is an opaque text or an IPv6 address in brackets; the
host of a URL with one of the special schemes is a domain or an address.
-/

namespace ManagementServer.Url

/-- Writes a byte as a percent sign and two digits. -/
def percentByte (b : UInt8) : List Char :=
  '%' :: (Text.Digits.padded 16 2 b.toNat).map Char.toUpper

/-- Whether a character is always percent-encoded: a control or not ASCII. -/
def isControl (c : Char) : Bool :=
  c.toNat < 0x20 || 0x7E < c.toNat

/-- Percent-encodes the characters with property `p`. -/
def percentEncode (p : Char → Bool) (cs : List Char) : List Char :=
  cs.flatMap fun c => if p c then (Text.Utf8.encodeChar c).flatMap percentByte else [c]

/-- The bytes of a text in which a percent sign and two digits stand for a byte. -/
def percentDecode : List Char → List UInt8
  | '%' :: h :: l :: rest =>
    match Text.Digits.hexValue? h, Text.Digits.hexValue? l with
    | some x, some y => (x * 16 + y).toUInt8 :: percentDecode rest
    | _, _ => Text.Utf8.encodeChar '%' ++ percentDecode (h :: l :: rest)
  | c :: rest => Text.Utf8.encodeChar c ++ percentDecode rest
  | [] => []

namespace Host

/-- An IPv6 address in brackets, in its canonical spelling. -/
def bracketed? (cs : List Char) : Option (List Char) := do
  if cs.getLast? != some ']' then none
  let address ← Net.Ipv6.parse? (cs.drop 1).dropLast
  return '[' :: address.chars ++ [']']

/-- Characters that no opaque host holds. -/
def isForbidden (c : Char) : Bool :=
  c.toNat == 0 || "\t\n\r #/:<>?@[\\]^|".toList.contains c

/-- The host of a URL whose scheme is not special. -/
def opaque? (cs : List Char) : Option (List Char) :=
  if cs.head? == some '[' then bracketed? cs
  else if cs.any isForbidden then none
  else some (percentEncode isControl cs)

/-- Characters that no domain holds. -/
def isForbiddenInDomain (c : Char) : Bool :=
  c.toNat < 0x20 || c.toNat == 0x7F || isForbidden c || c == '%'

/-- A part of an IPv4 address in decimal, octal or hexadecimal. -/
def ipv4Part? (cs : List Char) : Option Nat :=
  match cs with
  | '0' :: 'x' :: rest => if rest.isEmpty then some 0 else Text.Digits.parse? 16 rest
  | '0' :: d :: rest => Text.Digits.parse? 8 (d :: rest)
  | _ => Text.Digits.parse? 10 cs

/-- The labels of a domain, without the empty one behind a final dot. -/
def labels (cs : List Char) : List (List Char) :=
  let parts := Text.splitOn '.' cs
  if 1 < parts.length && parts.getLast? == some [] then parts.dropLast else parts

/-- Whether the last label looks like a number, so that the domain must be an IPv4 address. -/
def endsInNumber (cs : List Char) : Bool :=
  match (labels cs).getLast? with
  | none => false
  | some [] => false
  | some label => label.all Char.isDigit || (ipv4Part? label).isSome

/-- Whether a domain that ends in a number is an IPv4 address: up to four parts, each but the last
a byte, the last filling the bytes that remain. -/
def isIpv4 (cs : List Char) : Bool :=
  let parts := labels cs
  match parts.mapM ipv4Part? with
  | none => false
  | some numbers =>
    numbers.length ≤ 4 && numbers.dropLast.all (· < 256) &&
      (numbers.getLast?.getD 0) < Nat.pow 256 (5 - numbers.length)

/-- Whether a text is the host of a URL with a special scheme. -/
def isSpecialHost (cs : List Char) : Bool :=
  if cs.head? == some '[' then (bracketed? cs).isSome
  else match Text.Utf8.decode? (percentDecode cs) with
    | none => false
    | some domain =>
      let domain := Text.lowerAscii domain
      !domain.isEmpty && !domain.any isForbiddenInDomain &&
        (!endsInNumber domain || isIpv4 domain)

end Host

end ManagementServer.Url
