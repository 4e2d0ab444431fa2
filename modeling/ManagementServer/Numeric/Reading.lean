import ManagementServer.Numeric.Binary64
import ManagementServer.Text.Digits

/-!
# Reading decimals

A decimal is read as a double in two roundings. Its leading digits, as many as make a whole number
below `2 ^ 64`, are rounded to a double, and that is scaled by a power of ten. A decimal of up to
fifteen digits with a small exponent is so read as the nearest double, and a longer one may be off
in its last place (`ofDigits`).
-/

namespace ManagementServer.Numeric.Binary64

/-- A product, rounded; `none` past the largest double. -/
def mul (x y : Binary64) : Option Binary64 :=
  ofRatio (x.negative != y.negative) (x.mantissa * y.mantissa * pow2 (x.exponent + y.exponent))
    (pow2 2148)

/-- A quotient, rounded; `none` past the largest double. -/
def div (x y : Binary64) : Option Binary64 :=
  ofRatio (x.negative != y.negative) (x.mantissa * pow2 x.exponent) (y.mantissa * pow2 y.exponent)

/-- The power of ten with the largest exponent that a double comes near to. -/
def maxTens : Nat := 308

/-- A power of ten, rounded, with an exponent of at most `maxTens`. -/
def tens (power : Nat) : Binary64 := (ofRatio false (pow10 power) 1).getD (zero false)

/-- The double divided by `10 ^ power`, by at most `10 ^ maxTens` at a time. -/
def shrink (x : Binary64) (power : Nat) : Binary64 :=
  if power ≤ maxTens then (x.div (tens power)).getD (zero false)
  else if x.mantissa == 0 then x
  else shrink ((x.div (tens maxTens)).getD (zero false)) (power - maxTens)
  termination_by power
  decreasing_by
    have : 0 < maxTens := by decide
    omega

/-- The double times `10 ^ power`; `none` past the largest double. -/
def scale (x : Binary64) (power : Int) : Option Binary64 :=
  if power < 0 then some (x.shrink power.natAbs)
  else if power ≤ maxTens then x.mul (tens power.toNat)
  else if x.mantissa == 0 then some x
  else none

/-- Appends digits to a number while it stays below `2 ^ 64`. Returns the digits that are left. -/
def appendDigits (n : Nat) : List Char → Nat × List Char
  | [] => (n, [])
  | c :: rest =>
    let next := n * 10 + Text.Digits.decimal [c]
    if next < 0x10000000000000000 then appendDigits next rest else (n, c :: rest)

/-- The double that a decimal is read as; `none` past the largest double. -/
def ofDigits (negative : Bool) (whole fraction : List Char) (exponent : Int) : Option Binary64 :=
  let (leading, dropped) := appendDigits 0 whole
  let (leading, unused) := appendDigits leading fraction
  let power := exponent + dropped.length - (fraction.length - unused.length : Nat)
  (ofRatio false leading 1).bind fun x => (x.scale power).map ({ · with negative })

end ManagementServer.Numeric.Binary64
