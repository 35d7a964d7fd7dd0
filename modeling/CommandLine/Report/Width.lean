import CommandLine.Failure
import CommandLine.Numeral.Integer
import CommandLine.Value.Display

namespace CommandLine

open Numeral

/-- The columns of a console that panels may share: those between its margins. -/
def panelColumns (columns : Nat) : Int :=
  columns - 4

/-- Why a value gives no width. -/
inductive WidthError where
  /-- The console has more columns than there are numbers of 64 bits. -/
  | tooManyColumns
  | infinite
  | notANumber
  /-- A value of a type that has no multiples. -/
  | noProduct (typeName : String)
  /-- A value whose multiples are no numbers. -/
  | noNumber (typeName : String)
  /-- A text whose repetition spells no integer. -/
  | malformed (text : String)
  /-- A text whose repetition has too many digits. -/
  | tooLong (digits : Nat)
  deriving DecidableEq, Repr

/-- The characters of a malformed text that its error shows. -/
def shownTextLength : Nat := 200

/-- A refused width as a failure. -/
def WidthError.failure : WidthError → Failure
  | tooManyColumns => ⟨.named "OverflowError", "int too large to convert to float"⟩
  | infinite => ⟨.named "OverflowError", "cannot convert float infinity to integer"⟩
  | notANumber => .ofValue "cannot convert float NaN to integer"
  | noProduct typeName =>
    .ofType ("unsupported operand type(s) for *: 'int' and '" ++ typeName ++ "'")
  | noNumber typeName =>
    .ofType ("int() argument must be a string, a bytes-like object or a real number, not '" ++
      typeName ++ "'")
  | malformed text =>
    .ofValue ("invalid literal for int() with base 10: " ++
      String.ofList ((Text.quoted text).toList.take shownTextLength))
  | tooLong digits =>
    .ofValue ("Exceeds the limit (" ++ toString maxDecimalDigits ++
      " digits) for integer string conversion: value has " ++ toString digits ++
      " digits; use sys.set_int_max_str_digits() to increase the limit")

/-- The integer part of a number. -/
def integerPart : Binary64 → Except WidthError Int
  | .finite negative units => .ok (signed negative (units / Binary64.unitsPerOne))
  | .infinite _ => .error .infinite
  | .nan => .error .notANumber

/-- A multiple of a number, by an integer that was rounded to a number of 64 bits. -/
def multiple (x : Binary64) : Binary64 → Except WidthError Binary64
  | .finite negative units => .ok (.times (.finite negative units) x)
  | _ => .error .tooManyColumns

/-- The decimal integer that a text spells. -/
def spelledInteger (text : String) : Except WidthError Int :=
  let (negative, digits) := splitSign (plainText text)
  match readDigits? 10 digits with
  | none => .error (.malformed text)
  | some digits =>
    if digits.length ≤ maxDecimalDigits then .ok (signed negative (ofDigits 10 digits))
    else .error (.tooLong digits.length)

/-- The columns that are the given share of a console, what is behind the point being cut off. A
text is repeated and then read. -/
def shareColumns (columns : Nat) : Value → Except WidthError Int
  | .bool b => .ok (panelColumns columns * Value.ofBool b)
  | .int n => .ok (panelColumns columns * n)
  | .float x => (multiple x (.ofInt (panelColumns columns))).bind integerPart
  | .text s => spelledInteger (String.join (List.replicate (panelColumns columns).toNat s))
  | .list _ => .error (.noNumber "list")
  | .tuple _ => .error (.noNumber "tuple")
  | v => .error (.noProduct v.typeName)

end CommandLine
