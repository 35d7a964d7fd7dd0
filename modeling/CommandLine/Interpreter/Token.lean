import CommandLine.Numeral.Decimal
import CommandLine.Numeral.Integer
import CommandLine.Text.Word

namespace CommandLine.Interpreter

open Numeral Text

/-- The tokens of expressions. -/
inductive Token where
  /-- A name in plain letters. -/
  | name (letters : List Char)
  /-- A number or a word for a value. -/
  | constant
  | quotation (isBytes : Bool)
  /-- A sign or any other reserved word. -/
  | sign (text : String)
  /-- The end of a line outside of brackets. -/
  | lineEnd

/-- The letters that are joined in the characters from U+FB00 on. -/
def ligatures : List String := ["ff", "fi", "fl", "ffi", "ffl", "st", "st"]

/-- The plain letters of a character: those that are joined in it, or the one of which it is another
width or style. Names are compared by them. -/
def plainLetters (c : Char) : List Char :=
  let code := c.toNat
  if 0xff01 ≤ code ∧ code ≤ 0xff5e then [Char.ofNat (code - 0xff01 + 0x21)]
  else if 0x1d400 ≤ code ∧ code ≤ 0x1d6a3 then
    -- Thirteen styles, each with the capitals first.
    let place := (code - 0x1d400) % 52
    [Char.ofNat (if place < 26 then 0x41 + place else 0x61 + (place - 26))]
  else if 0xfb00 ≤ code then ((ligatures[code - 0xfb00]?).map String.toList).getD [c]
  else [c]

/-- Whether a character belongs to the word that it stands in. -/
def isWordPart (c : Char) : Bool :=
  isWord c || c == '_'

/-- Reserved words that stand for a value. -/
def valueWords : List String := ["False", "None", "True"]

/-- The other reserved words. -/
def structureWords : List String := [
  "and", "as", "assert", "async", "await", "break", "class", "continue", "def", "del", "elif",
  "else", "except", "finally", "for", "from", "global", "if", "import", "in", "is", "lambda",
  "nonlocal", "not", "or", "pass", "raise", "return", "try", "while", "with", "yield"]

/-- The token of a word, which starts with a letter or an underscore. -/
def Token.ofWord? (word : List Char) : Option Token :=
  let text := String.ofList word
  if valueWords.contains text then some .constant
  else if structureWords.contains text then some (.sign text)
  else if word.head?.any fun c => isLetter c || c == '_' then some (.name (word.flatMap plainLetters))
  else none

/-- The signs, longer ones first. Braces are given by their codes. -/
def signs : List String := [
  "...", "**", "//", "<<", ">>", "<=", ">=", "==", "!=", ":=", "+", "-", "*", "/", "%", "@", "&",
  "|", "^", "~", "<", ">", "(", ")", "[", "]", "\x7b", "\x7d", ",", ":", ".", "="]

/-- Reads a sign. -/
def readSign (cs : List Char) : Option (Token × List Char) := do
  let sign ← signs.find? fun sign => sign.toList.isPrefixOf cs
  some (if sign = "..." then .constant else .sign sign, cs.drop sign.length)

/-- The characters up to the end of a number. A sign belongs to it behind the mark of an exponent. -/
def numberFront : List Char → List Char
  | [] => []
  | [c] => if isWordPart c || c == '.' then [c] else []
  | c :: d :: rest =>
    if (c == 'e' || c == 'E') && (d == '+' || d == '-') then c :: d :: rest.takeWhile isWordPart
    else if isWordPart c || c == '.' then c :: numberFront (d :: rest)
    else []

/-- Whether characters are a number: an integer, or a number with a point, an exponent or the mark of
an imaginary one. -/
def isNumber (cs : List Char) : Bool :=
  let real := if cs.getLast?.any fun c => c == 'j' || c == 'J' then cs.dropLast else cs
  (readBasedMagnitude? cs).isSome ||
    ((real != cs || real.any fun c => !c.isDigit && c != '_') && (readPlainFloat? real).isSome)

/-- Reads a number. -/
def readNumber (cs : List Char) : Option (Token × List Char) :=
  let front := if (cs[1]?.bind Radix.ofMarker?).isSome then cs.takeWhile isWordPart else numberFront cs
  if isNumber front then some (.constant, cs.drop front.length) else none

/-- How a quotation is read, by the letters in front of it. -/
structure Marks where
  isBytes : Bool
  /-- Whether backslashes stand for themselves. -/
  isRaw : Bool

/-- The marks that letters stand for. The fields of a template are not looked into. -/
def Marks.ofLetters? (letters : List Char) : Option Marks :=
  match String.ofList (letters.map Char.toLower) with
  | "" | "u" | "f" => some ⟨false, false⟩
  | "r" | "fr" | "rf" => some ⟨false, true⟩
  | "b" => some ⟨true, false⟩
  | "br" | "rb" => some ⟨true, true⟩
  | _ => none

/-- Splits a text behind a quote that closes it; a backslash takes the quote after it along. A text on
one line does not go on behind its end. -/
def readQuoted (closing : List Char) (body : List Char) : List Char → Option (List Char × List Char)
  | '\\' :: c :: rest => readQuoted closing (c :: '\\' :: body) rest
  | cs@(c :: rest) =>
    if closing.isPrefixOf cs then some (body.reverse, cs.drop closing.length)
    else if c = '\n' ∧ closing.length = 1 then none
    else readQuoted closing (c :: body) rest
  | [] => none

/-- Whether a text starts with so many digits in base sixteen. -/
def startsWithHex (count : Nat) (cs : List Char) : Bool :=
  count ≤ cs.length && (cs.take count).all fun c => (digitValue? 16 c).isSome

/-- The greatest code point. -/
def maxCodePoint : Nat := 0x10ffff

/-- Whether the escapes of a text are well formed; bytes know fewer escapes. -/
def areEscapesFormed (isBytes : Bool) : List Char → Bool
  | '\\' :: c :: rest =>
    (match c with
      | 'x' => startsWithHex 2 rest
      | 'u' => isBytes || startsWithHex 4 rest
      | 'U' => isBytes || (startsWithHex 8 rest &&
        ofDigits 16 ((rest.take 8).filterMap (digitValue? 16)) ≤ maxCodePoint)
      | 'N' => isBytes || (rest.head? == some '\x7b' && rest.contains '\x7d')
      | _ => true) && areEscapesFormed isBytes rest
  | _ :: rest => areEscapesFormed isBytes rest
  | [] => true

/-- Reads a quotation from its first quote on. -/
def readQuotation (marks : Marks) (cs : List Char) : Option (Token × List Char) := do
  let quote ← cs.head?
  let closing := if (List.replicate 3 quote).isPrefixOf cs then List.replicate 3 quote else [quote]
  let (body, rest) ← readQuoted closing [] (cs.drop closing.length)
  if (!marks.isBytes || body.all (·.toNat < 0x80)) &&
      (marks.isRaw || areEscapesFormed marks.isBytes body) then
    some (.quotation marks.isBytes, rest)
  else none

/-- Reads a number, a quotation, a word or a sign. -/
def readToken (cs : List Char) : Option (Token × List Char) :=
  let word := cs.takeWhile isWordPart
  let rest := cs.drop word.length
  let isQuoted := rest.head?.any fun c => c == '\'' || c == '"'
  if (if cs.head? = some '.' then cs[1]? else cs.head?).any Char.isDigit then readNumber cs
  else
    match if isQuoted then Marks.ofLetters? word else none with
    | some marks => readQuotation marks rest
    | none => if word.isEmpty then readSign cs else (Token.ofWord? word).map (·, rest)

/-- How many brackets are open behind a token. -/
def Token.depthAfter (depth : Nat) : Token → Nat
  | sign text =>
    if ["(", "[", "\x7b"].contains text then depth + 1
    else if [")", "]", "\x7d"].contains text then depth - 1
    else depth
  | _ => depth

/-- The tokens of a text, where so many brackets are open. The fuel bounds the characters. -/
def readTokens : Nat → Nat → List Char → Option (List Token)
  | 0, _, _ => none
  | _ + 1, _, [] => some []
  | fuel + 1, depth, '\\' :: '\n' :: rest => readTokens fuel depth rest
  | fuel + 1, depth, c :: rest =>
    if c = ' ' ∨ c = '\t' ∨ c = '\x0c' then readTokens fuel depth rest
    else if c = '#' then readTokens fuel depth (rest.dropWhile (· ≠ '\n'))
    else if c = '\n' then
      (readTokens fuel depth rest).map fun tokens =>
        if depth = 0 then .lineEnd :: tokens else tokens
    else do
      let (token, rest) ← readToken (c :: rest)
      let tokens ← readTokens fuel (token.depthAfter depth) rest
      some (token :: tokens)

end CommandLine.Interpreter
