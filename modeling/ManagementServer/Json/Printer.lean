import ManagementServer.Json.Basic
import ManagementServer.Text.Digits

/-!
# Writing JSON

Compact text of a value: no spaces, members in their order, characters outside the ASCII controls
written as themselves.
-/

namespace ManagementServer

namespace Numeric.Binary64

/-- The text of a positive decimal `digits * 10 ^ power`: positional with at least one digit on
each side of the point from `1e-5` up to below `1e16`, else one digit before the point and a
signed exponent. -/
def decimalChars (digits : Nat) (power : Int) : List Char :=
  let ds := Text.Digits.ofNat digits
  -- The point stands behind the first `point` digits.
  let point : Int := ds.length + power
  if -5 < point && point ≤ 16 then
    if point ≤ 0 then '0' :: '.' :: List.replicate point.natAbs '0' ++ ds
    else
      let whole := ds.take point.toNat ++ List.replicate (point.toNat - ds.length) '0'
      let fraction := ds.drop point.toNat
      whole ++ '.' :: (if fraction.isEmpty then ['0'] else fraction)
  else
    let exponent := point - 1
    let sign := if exponent < 0 then '-' else '+'
    let fraction := ds.drop 1
    ds.take 1 ++ (if fraction.isEmpty then [] else '.' :: fraction) ++
      'e' :: sign :: Text.Digits.ofNat exponent.natAbs

/-- Drops the zeros at the end of a positive decimal. -/
def normalize (digits : Nat) (power : Int) : Nat → Nat × Int
  | 0 => (digits, power)
  | fuel + 1 =>
    if digits % 10 == 0 then normalize (digits / 10) (power + 1) fuel else (digits, power)

/-- The text of a double. -/
def chars (x : Binary64) : List Char :=
  let body :=
    if x.mantissa == 0 then ['0', '.', '0']
    else
      let (digits, power) := shortest x
      let (digits, power) := normalize digits power 20
      decimalChars digits power
  if x.negative then '-' :: body else body

end Numeric.Binary64

/-- The text of an integer. -/
def Number.integerChars (n : Int) : List Char :=
  if n < 0 then '-' :: Text.Digits.ofNat n.natAbs else Text.Digits.ofNat n.natAbs

/-- The text of a number. -/
def Number.chars : Number → List Char
  | .integer n => integerChars n
  | .double x => x.chars

namespace Json

/-- One character as it stands in a string. -/
def escapeChar (c : Char) : List Char :=
  if c == '"' then ['\\', '"']
  else if c == '\\' then ['\\', '\\']
  else if c.toNat < 0x20 then
    match c.toNat with
    | 8 => ['\\', 'b']
    | 9 => ['\\', 't']
    | 10 => ['\\', 'n']
    | 12 => ['\\', 'f']
    | 13 => ['\\', 'r']
    | n => '\\' :: 'u' :: Text.Digits.padded 16 4 n
  else [c]

/-- The text of a string, with its quotes. -/
def stringChars (s : String) : List Char :=
  '"' :: s.toList.flatMap escapeChar ++ ['"']

mutual

/-- The text of a value. -/
def chars : Json → List Char
  | .null => ['n', 'u', 'l', 'l']
  | .bool true => ['t', 'r', 'u', 'e']
  | .bool false => ['f', 'a', 'l', 's', 'e']
  | .number n => n.chars
  | .string s => stringChars s
  | .array items => '[' :: itemChars items ++ [']']
  | .object members => '{' :: memberChars members ++ ['}']

/-- The text of an array between its brackets. -/
def itemChars : List Json → List Char
  | [] => []
  | [item] => chars item
  | item :: rest => chars item ++ ',' :: itemChars rest

/-- The text of an object between its braces. -/
def memberChars : List (String × Json) → List Char
  | [] => []
  | [(key, value)] => stringChars key ++ ':' :: chars value
  | (key, value) :: rest => stringChars key ++ ':' :: chars value ++ ',' :: memberChars rest

end

/-- The compact text of a value. -/
def render (value : Json) : String :=
  String.ofList value.chars

end Json

end ManagementServer
