import CommandLine.Numeral.Binary64
import CommandLine.Numeral.Digits

namespace CommandLine.Numeral

/-- Drops the underscores of a text that follows `before`; none when an underscore has no digit on
one of its sides. -/
def dropUnderscores? (before : Option Char) : List Char → Option (List Char)
  | [] => some []
  | '_' :: rest =>
    if before.any Char.isDigit && rest.head?.any Char.isDigit then dropUnderscores? (some '_') rest
    else none
  | c :: rest => (dropUnderscores? (some c) rest).map (c :: ·)

/-- Reads an exponent: nothing, or `e` of either case, an optional sign and digits. -/
def readExponent? : List Char → Option Int
  | [] => some 0
  | c :: rest =>
    if c = 'e' ∨ c = 'E' then
      let (negative, digits) := splitSign rest
      if !digits.isEmpty && digits.all Char.isDigit then
        (readDigits? 10 digits).map fun ds => signed negative (ofDigits 10 ds)
      else none
    else none

/-- Splits a text after its leading ASCII digits. -/
def spanDigits (cs : List Char) : List Char × List Char :=
  (cs.takeWhile Char.isDigit, cs.dropWhile Char.isDigit)

/-- Reads an unsigned number: digits with an optional point, at least one digit in all, and an
optional exponent. -/
def readMagnitude? (negative : Bool) (cs : List Char) : Option Binary64 :=
  let (whole, rest) := spanDigits cs
  let (fraction, rest) := match rest with
    | '.' :: rest => spanDigits rest
    | _ => ([], rest)
  if whole.isEmpty && fraction.isEmpty then none
  else do
    let exponent ← readExponent? rest
    let digits := (whole ++ fraction).map fun c => c.toNat - 0x30
    some (.ofDecimal negative (ofDigits 10 digits) (exponent - fraction.length))

/-- Reads a floating-point number from plain text. -/
def readPlainFloat? (cs : List Char) : Option Binary64 := do
  let cs ← dropUnderscores? none cs
  let (negative, rest) := splitSign cs
  let word := rest.map Char.toLower
  if word = "inf".toList ∨ word = "infinity".toList then some (.infinite negative)
  else if word = "nan".toList then some .nan
  else readMagnitude? negative rest

/-- Reads a floating-point number from text, blanks around it being ignored. -/
def readFloat? (s : String) : Option Binary64 :=
  readPlainFloat? (plainText s)

end CommandLine.Numeral
