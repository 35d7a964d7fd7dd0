import CommandLine.Numeral.Digits

namespace CommandLine.Numeral

/-- The bases that a marker after a zero selects. -/
inductive Radix where
  | hexadecimal
  | octal
  | binary
  deriving DecidableEq

/-- The number of digits of a base. -/
def Radix.base : Radix → Nat
  | .hexadecimal => 16
  | .octal => 8
  | .binary => 2

/-- The marker that selects a base, in its lower-case form. -/
def Radix.marker : Radix → Char
  | .hexadecimal => 'x'
  | .octal => 'o'
  | .binary => 'b'

/-- The base that a marker of either case selects. -/
def Radix.ofMarker? (c : Char) : Option Radix :=
  [Radix.hexadecimal, .octal, .binary].find? fun radix => radix.marker == c.toLower

/-- The most digits that a decimal integer may have. -/
def maxDecimalDigits : Nat := 4300

/-- Reads the digits of a decimal integer; leading zeros count towards the limit. -/
def readDecimalMagnitude? (cs : List Char) : Option Nat := do
  let digits ← readDigits? 10 cs
  if digits.length ≤ maxDecimalDigits then some (ofDigits 10 digits) else none

/-- Reads a zero, a base marker, at most one underscore, and digits of the base. -/
def readMarkedMagnitude? : List Char → Option Nat
  | '0' :: marker :: rest => do
    let radix ← Radix.ofMarker? marker
    let digits ← readDigits? radix.base (match rest with
      | '_' :: digits => digits
      | digits => digits)
    some (ofDigits radix.base digits)
  | _ => none

/-- Reads a magnitude in the base that its text tells: marked digits, or decimal ones. Decimal digits
that begin with a zero are refused unless they denote zero. -/
def readBasedMagnitude? (cs : List Char) : Option Nat :=
  (readMarkedMagnitude? cs).or
    ((readDecimalMagnitude? cs).filter fun n => cs.head? != some '0' || n == 0)

/-- Reads an integer from text by a reader of magnitudes: a sign may stand in front, and blanks around
it are ignored. -/
def readSigned? (magnitude? : List Char → Option Nat) (s : String) : Option Int :=
  let (negative, rest) := splitSign (plainText s)
  (magnitude? rest).map (signed negative)

/-- Reads an integer from text: as a decimal one, and if that fails in the base that the text tells. -/
def readInteger? (s : String) : Option Int :=
  (readSigned? readDecimalMagnitude? s).or (readSigned? readBasedMagnitude? s)

/-- The magnitude of an integer in the digits of a base, after its marker and sign. -/
def Radix.write (radix : Radix) (n : Int) : String :=
  String.ofList ((if n < 0 then ['-'] else []) ++
    '0' :: radix.marker :: Nat.toDigits radix.base n.natAbs)

example : readInteger? " -0x_Ff\n" = some (-255) := by decide +kernel
example : readInteger? "1__0" = none := by decide +kernel
example : readInteger? "0x" = none := by decide +kernel
example : readInteger? "0_1" = some 1 := by decide +kernel

end CommandLine.Numeral
