import CommandLine.Text.Blank
import CommandLine.Text.Digit

namespace CommandLine.Numeral

open CommandLine.Text

/-- Past ASCII, a decimal digit of any script becomes its ASCII digit and a blank becomes a space;
every other character stays. -/
def plainChar (c : Char) : Char :=
  if c.toNat < 0x80 then c
  else
    match decimalDigit? c with
    | some digit => Char.ofNat (0x30 + digit)
    | none => if isBlank c then ' ' else c

/-- The plain form of a numeric text, without the blanks around it. -/
def plainText (s : String) : List Char :=
  trim isNumberBlank (s.toList.map plainChar)

/-- The value of an ASCII digit or letter as a digit, if it is one in the base. -/
def digitValue? (base : Nat) (c : Char) : Option Nat :=
  let value? :=
    if c.isDigit then some (c.toNat - 0x30)
    else if c.isLower then some (c.toNat - 0x61 + 10)
    else if c.isUpper then some (c.toNat - 0x41 + 10)
    else none
  value?.filter (· < base)

/-- The number that a digit list denotes, most significant digit first. -/
def ofDigits (base : Nat) (digits : List Nat) : Nat :=
  digits.foldl (fun value digit => value * base + digit) 0

/-- Reads one or more digits with at most one underscore between neighbours. -/
def readDigits? (base : Nat) : List Char → Option (List Nat)
  | [] => none
  | [c] => (digitValue? base c).map ([·])
  | c :: '_' :: rest => do
    let digit ← digitValue? base c
    let digits ← readDigits? base rest
    some (digit :: digits)
  | c :: rest => do
    let digit ← digitValue? base c
    let digits ← readDigits? base rest
    some (digit :: digits)

/-- A leading sign, which is true for minus, and the text after it. -/
def splitSign : List Char → Bool × List Char
  | '-' :: rest => (true, rest)
  | '+' :: rest => (false, rest)
  | cs => (false, cs)

/-- A natural number with a sign. -/
def signed (negative : Bool) (n : Nat) : Int :=
  if negative then -n else n

end CommandLine.Numeral
