/-!
# Double precision numbers

Doubles as bit patterns, with exact arithmetic between them and the numbers they stand for. A
positive ratio is rounded to the nearest double (`ofRatio`), and a double is written with the
fewest digits that round back to it (`shortest`).
-/

namespace ManagementServer.Numeric

/-- A finite double: its sign, and its magnitude `mantissa * 2 ^ (exponent - 1074)`. -/
structure Binary64 where
  negative : Bool
  mantissa : Nat
  exponent : Nat
  deriving DecidableEq, Repr, Inhabited

namespace Binary64

/-- A power of two. -/
abbrev pow2 (n : Nat) : Nat := Nat.pow 2 n

/-- A power of ten. -/
abbrev pow10 (n : Nat) : Nat := Nat.pow 10 n

/-- The zero of a sign. -/
def zero (negative : Bool) : Binary64 := ⟨negative, 0, 0⟩

/-- The quotient `num / den` rounded to a whole number, a tie going to the even neighbour. -/
def roundDiv (num den : Nat) : Nat :=
  let q := num / den
  let r := num % den
  if den < 2 * r || (2 * r == den && q % 2 == 1) then q + 1 else q

/-- The number of bits of `n`. -/
def bitLength (n : Nat) : Nat :=
  if n == 0 then 0 else Nat.log2 n + 1

/-- The double nearest to `num / den`, a tie going to the even mantissa; `none` past the largest
double. -/
def ofRatio (negative : Bool) (num den : Nat) : Option Binary64 :=
  -- `scaled` is the ratio in units of the smallest positive double, so the mantissa of the
  -- result is `scaled` with all but its first 53 bits rounded away.
  let scaled := num * pow2 1074
  let shift := bitLength (scaled / den) - 53
  let m := roundDiv scaled (den * pow2 shift)
  let (m, shift) := if m == pow2 53 then (pow2 52, shift + 1) else (m, shift)
  if 2045 < shift then none else some ⟨negative, m, shift⟩

/-- The ends of the numbers that round to a positive double, in quarters of its last place. -/
def interval (x : Binary64) : Nat × Nat :=
  let m := 4 * x.mantissa
  if x.mantissa == pow2 52 && 0 < x.exponent then (m - 1, m + 2) else (m - 2, m + 2)

/-- Whether `digits * 10 ^ power` rounds to the positive double `x`. -/
def readsBack (x : Binary64) (digits : Nat) (power : Int) : Bool :=
  -- Both sides are brought to the unit `2 ^ -1076`, a quarter of the smallest double.
  let tens := if 0 ≤ power then pow10 power.toNat else 1
  let den := if power < 0 then pow10 power.natAbs else 1
  let value := digits * tens * pow2 1076
  let low := (interval x).1 * pow2 x.exponent * den
  let high := (interval x).2 * pow2 x.exponent * den
  if x.mantissa % 2 == 0 then low ≤ value && value ≤ high else low < value && value < high

/-- The largest `digits` with `digits * 10 ^ power` not above the positive double `x`. -/
def floorAt (x : Binary64) (power : Int) : Nat :=
  let num := x.mantissa * pow2 x.exponent
  if 0 ≤ power then num / (pow2 1074 * pow10 power.toNat)
  else num * pow10 power.natAbs / pow2 1074

/-- Whether `digits * 10 ^ power` is no farther from `x` than the next number of that grid. -/
def nearerBelow (x : Binary64) (digits : Nat) (power : Int) : Bool :=
  let tens := if 0 ≤ power then pow10 power.toNat else 1
  let den := if power < 0 then pow10 power.natAbs else 1
  let value := x.mantissa * pow2 x.exponent * den
  let half := (2 * digits + 1) * tens * pow2 1074
  2 * value < half || (2 * value == half && digits % 2 == 0)

/-- The power of ten at which the positive double `x` has `count` digits before the point. -/
def powerFor (x : Binary64) (count : Nat) : Int :=
  let whole := x.mantissa * pow2 x.exponent
  -- A first guess from the length of the scaled number, then at most one step.
  let length : Int :=
    if pow2 1074 ≤ whole then (toString (whole / pow2 1074)).length
    else -(((toString (pow2 1074 / whole)).length : Int) - 1)
  let power := length - count
  if pow10 count ≤ floorAt x power then power + 1
  else if floorAt x power < pow10 (count - 1) then power - 1
  else power

/-- Tries `count`, `count + 1`, … digits, `fuel` times. -/
def shortestFrom (x : Binary64) (count : Nat) : Nat → Nat × Int
  | 0 => (floorAt x (powerFor x count), powerFor x count)
  | fuel + 1 =>
    let power := powerFor x count
    let below := floorAt x power
    match readsBack x below power, readsBack x (below + 1) power with
    | true, true => (if nearerBelow x below power then below else below + 1, power)
    | true, false => (below, power)
    | false, true => (below + 1, power)
    | false, false => shortestFrom x (count + 1) fuel

/-- The decimal with the fewest digits that rounds to the positive double `x`, the nearest of
those, as digits and a power of ten. -/
def shortest (x : Binary64) : Nat × Int :=
  shortestFrom x 1 17

end Binary64

end ManagementServer.Numeric
