import CommandLine.Console.ColumnTable
import CommandLine.Text.Ranges

namespace CommandLine.Console

open Text

/-- The columns that a character takes by itself. -/
def charColumns (c : Char) : Nat :=
  if 0x20 ≤ c.toNat && c.toNat < 0x7f then 1
  else if inRanges columnlessRanges c.toNat then 0
  else if inRanges wideRanges c.toNat then 2
  else 1

/-- The columns that a text takes: those of its characters together. -/
def columns : List Char → Nat
  | [] => 0
  | c :: rest => charColumns c + columns rest

/-- Tab stops stand eight columns apart. -/
def tabStop : Nat := 8

/-- The blanks that take the place of a tab behind a text: at least one, up to the next tab stop. -/
def tabBlanks (before : List Char) : List Char :=
  let reached := columns (before ++ [' '])
  List.replicate (1 + (tabStop - reached % tabStop) % tabStop) ' '

/-- Fills the tabs of a line, `part` being what stands between the last tab stop and the text. -/
def expandTabsAfter (part : List Char) : List Char → List Char
  | [] => part
  | c :: rest =>
    if c = '\t' then part ++ tabBlanks part ++ expandTabsAfter [] rest
    else expandTabsAfter (part ++ [c]) rest

/-- Fills the tabs of a line with blanks up to their tab stops. -/
def expandTabs (line : List Char) : List Char :=
  expandTabsAfter [] line

end CommandLine.Console
