import CommandLine.Numeral.Binary64

namespace CommandLine.Numeral

/-- The number `0.d₁d₂… * 10 ^ point` by its significand `d₁d₂…`, which has no trailing zero
unless it is a single digit. -/
structure Scientific where
  significand : Nat
  point : Int
  deriving DecidableEq, Repr

namespace Binary64

/-- The numbers that round to a positive count of units, as quarter units: the two ends, and
whether the ends themselves do. -/
def roundingInterval (units : Nat) : Nat × Nat × Bool :=
  let gap := spacing units
  let below := if units = Nat.pow 2 units.log2 ∧ 1 < gap then gap else 2 * gap
  (4 * units - below, 4 * units + 2 * gap, units / gap % 2 == 0)

/-- Whether `significand * 10 ^ exponent` lies in an interval of quarter units. -/
def inInterval (interval : Nat × Nat × Bool) (significand : Nat) (exponent : Int) : Bool :=
  let (low, high, closed) := interval
  let scaled := significand * (4 * unitsPerOne) * Nat.pow 10 exponent.toNat
  let low := low * Nat.pow 10 (-exponent).toNat
  let high := high * Nat.pow 10 (-exponent).toNat
  if closed then low ≤ scaled && scaled ≤ high else low < scaled && scaled < high

/-- The point of a positive count of units: the number is at least `10 ^ (point - 1)` and less than
`10 ^ point`. -/
def decimalPoint (units : Nat) : Int :=
  ((Nat.toDigits 10 (units * Nat.pow 10 400 / unitsPerOne)).length : Int) - 400

/-- The two neighbours of a positive count of units on the grid of `10 ^ exponent`, the nearer one
first; of two equally near ones the even one. -/
def gridNeighbours (units : Nat) (exponent : Int) : List Nat :=
  let num := units * Nat.pow 10 (-exponent).toNat
  let den := unitsPerOne * Nat.pow 10 exponent.toNat
  let nearest := roundHalfEven num den
  let floor := num / den
  if nearest = floor then [floor, floor + 1] else [floor + 1, floor]

/-- The nearest decimal of at most `digits` digits that reads back as the number, if there is one. -/
def withDigits? (units : Nat) (digits : Nat) : Option Scientific :=
  let exponent := decimalPoint units - digits
  ((gridNeighbours units exponent).find? (inInterval (roundingInterval units) · exponent)).map
    fun significand =>
      if significand = Nat.pow 10 digits then ⟨Nat.pow 10 (digits - 1), decimalPoint units + 1⟩
      else ⟨significand, decimalPoint units⟩

/-- The shortest decimal that reads back as a positive count of units. Seventeen digits always do. -/
def shortest (units : Nat) : Scientific :=
  ((List.range' 1 17).findSome? (withDigits? units)).getD ⟨0, 1⟩

end Binary64

/-- How a number in decimal form is laid out. -/
structure NumberLayout where
  /-- The number is written positionally when its point is above this. -/
  lowestPoint : Int
  /-- The number is written positionally when its point is at most this. -/
  highestPoint : Int
  /-- The least number of digits of an exponent. -/
  exponentWidth : Nat

/-- Writes a positive decimal: with a point and at least one digit after it, or with an exponent. -/
def Scientific.write (layout : NumberLayout) (number : Scientific) : List Char :=
  let digits := Nat.toDigits 10 number.significand
  if layout.lowestPoint < number.point ∧ number.point ≤ layout.highestPoint then
    if number.point ≤ 0 then
      '0' :: '.' :: (List.replicate (-number.point).toNat '0' ++ digits)
    else
      let whole := number.point.toNat
      if digits.length ≤ whole then
        digits ++ List.replicate (whole - digits.length) '0' ++ ['.', '0']
      else digits.take whole ++ '.' :: digits.drop whole
  else
    let exponent := number.point - 1
    let magnitude := Nat.toDigits 10 exponent.natAbs
    digits.take 1 ++ (if digits.length ≤ 1 then [] else '.' :: digits.drop 1) ++
      'e' :: (if exponent < 0 then '-' else '+') ::
        (List.replicate (layout.exponentWidth - magnitude.length) '0' ++ magnitude)

/-- Writes a floating-point number in a layout. -/
def Binary64.write (layout : NumberLayout) : Binary64 → String
  | .nan => "nan"
  | .infinite negative => if negative then "-inf" else "inf"
  | .finite negative units =>
    let magnitude := if units = 0 then ['0', '.', '0'] else (Binary64.shortest units).write layout
    String.ofList (if negative then '-' :: magnitude else magnitude)

end CommandLine.Numeral
