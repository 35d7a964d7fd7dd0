import CommandLine.Text.Ranges

namespace CommandLine.Text

/-- Blank characters past ASCII. -/
def blankRanges : List (Nat × Nat) := [
  (0x85, 0x85), (0xa0, 0xa0), (0x1680, 0x1680), (0x2000, 0x200a), (0x2028, 0x2029),
  (0x202f, 0x202f), (0x205f, 0x205f), (0x3000, 0x3000)]

/-- Blank characters: the ASCII space, the controls that move the cursor or separate records, and
the blanks past ASCII. -/
def isBlank (c : Char) : Bool :=
  c.toNat == 0x20 || (0x9 ≤ c.toNat && c.toNat ≤ 0xd) || (0x1c ≤ c.toNat && c.toNat ≤ 0x1f) ||
    inRanges blankRanges c.toNat

/-- The blanks allowed around a number: the ASCII space, tab, line and page breaks. -/
def isNumberBlank (c : Char) : Bool :=
  c.toNat == 0x20 || (0x9 ≤ c.toNat && c.toNat ≤ 0xd)

/-- Drops the characters of a class from both ends. -/
def trim (drop : Char → Bool) (cs : List Char) : List Char :=
  ((cs.dropWhile drop).reverse.dropWhile drop).reverse

/-- Drops blanks from both ends of a text. -/
def strip (s : String) : String :=
  String.ofList (trim isBlank s.toList)

/-- Drops a leading run of one character. -/
def stripLeading (c : Char) (s : String) : String :=
  String.ofList (s.toList.dropWhile (· == c))

end CommandLine.Text
