/-!
# Digits

Reading and writing numerals in a given base.
-/

namespace ManagementServer.Text.Digits

/-- The value of a digit in base sixteen, either case. -/
def hexValue? (c : Char) : Option Nat :=
  if '0' ≤ c ∧ c ≤ '9' then some (c.toNat - '0'.toNat)
  else if 'a' ≤ c ∧ c ≤ 'f' then some (c.toNat - 'a'.toNat + 10)
  else if 'A' ≤ c ∧ c ≤ 'F' then some (c.toNat - 'A'.toNat + 10)
  else none

/-- The value of a digit in `base`, at most sixteen. -/
def value? (base : Nat) (c : Char) : Option Nat :=
  (hexValue? c).filter (· < base)

/-- The number that a non-empty run of digits in `base` spells. -/
def parse? (base : Nat) : List Char → Option Nat
  | [] => none
  | cs => cs.foldl (fun acc c => do return (← acc) * base + (← value? base c)) (some 0)

/-- The number that a run of decimal digits spells, other characters counting as zero. -/
def decimal (cs : List Char) : Nat :=
  cs.foldl (fun n c => n * 10 + (c.toNat - '0'.toNat)) 0

/-- The digit for a value below sixteen, lower case. -/
def ofValue (n : Nat) : Char :=
  if n < 10 then Char.ofNat ('0'.toNat + n) else Char.ofNat ('a'.toNat + (n - 10))

/-- The digits of `n` in `base`, `width` of them, padded with zeros on the left. -/
def padded (base width n : Nat) : List Char :=
  match width with
  | 0 => []
  | w + 1 => padded base w (n / base) ++ [ofValue (n % base)]

/-- The decimal digits of a number. -/
def ofNat (n : Nat) : List Char :=
  (toString n).toList

end ManagementServer.Text.Digits
