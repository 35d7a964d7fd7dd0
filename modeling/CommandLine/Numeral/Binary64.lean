namespace CommandLine.Numeral

/-- Rounds `num / den` to a natural number, a half going to the even neighbour. -/
def roundHalfEven (num den : Nat) : Nat :=
  let quotient := num / den
  let remainder := num % den
  if 2 * remainder < den then quotient
  else if den < 2 * remainder then quotient + 1
  else quotient + quotient % 2

/-- A floating-point number; `units` counts multiples of `2 ^ -1074`. -/
inductive Binary64 where
  | nan
  | infinite (negative : Bool)
  | finite (negative : Bool) (units : Nat)
  deriving DecidableEq, Repr

namespace Binary64

/-- Units in one. -/
def unitsPerOne : Nat := Nat.pow 2 1074

/-- The first count of units that is out of range. -/
def unitsBound : Nat := Nat.pow 2 2098

/-- The distance, in units, between neighbours at a count of units. -/
def spacing (units : Nat) : Nat :=
  Nat.pow 2 (units.log2 - 52)

/-- The nearest number to `num / den` with the given sign, a tie going to the even significand and
what is too large to infinity. -/
def ofRatio (negative : Bool) (num den : Nat) : Binary64 :=
  let gap := spacing (num * unitsPerOne / den)
  let units := roundHalfEven (num * unitsPerOne) (den * gap) * gap
  if units < unitsBound then .finite negative units else .infinite negative

/-- The nearest number to an integer. -/
def ofInt (n : Int) : Binary64 :=
  ofRatio (n < 0) n.natAbs 1

/-- The nearest number to a product. -/
def times : Binary64 → Binary64 → Binary64
  | finite n a, finite m b => ofRatio (n != m) (a * b) (unitsPerOne * unitsPerOne)
  | infinite n, infinite m => infinite (n != m)
  | infinite n, finite m units => if units = 0 then nan else infinite (n != m)
  | finite n units, infinite m => if units = 0 then nan else infinite (n != m)
  | _, _ => nan

/-- The nearest number to `significand * 10 ^ exponent`. Exponents that are out of range for every
significand of so many digits are not expanded. -/
def ofDecimal (negative : Bool) (significand : Nat) (exponent : Int) : Binary64 :=
  let point := exponent + (Nat.toDigits 10 significand).length
  if significand = 0 ∨ point < -330 then .finite negative 0
  else if 310 < point then .infinite negative
  else if 0 ≤ exponent then ofRatio negative (significand * Nat.pow 10 exponent.toNat) 1
  else ofRatio negative significand (Nat.pow 10 (-exponent).toNat)

/-- The number as its 64 bits: sign, biased exponent, significand. Every not-a-number has the bits
of the quiet one. -/
def toBits : Binary64 → Nat
  | nan => 0x7ff8000000000000
  | infinite negative => (if negative then Nat.pow 2 63 else 0) + 0x7ff0000000000000
  | finite negative units =>
    let magnitude :=
      if units < Nat.pow 2 52 then units
      else (units.log2 - 52) * Nat.pow 2 52 + units / spacing units
    (if negative then Nat.pow 2 63 else 0) + magnitude

/-- Numeric equality: not-a-number differs from everything, and the two zeros are equal. -/
def equal : Binary64 → Binary64 → Bool
  | finite n a, finite m b => a == b && (n == m || a == 0)
  | infinite n, infinite m => n == m
  | _, _ => false

/-- Whether the number equals an integer. -/
def equalsInt : Binary64 → Int → Bool
  | finite negative units, n =>
    (if negative then -(units : Int) else units) == n * unitsPerOne
  | _, _ => false

/-- Neither zero nor anything but a number counts as false. -/
def isZero : Binary64 → Bool
  | finite _ units => units == 0
  | _ => false

end Binary64

end CommandLine.Numeral
