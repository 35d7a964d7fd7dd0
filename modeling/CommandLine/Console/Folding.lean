import CommandLine.Console.Columns
import CommandLine.Text.Blank

namespace CommandLine.Console

open Text

/-- Whether a text has a word with a blank behind it. -/
def endsWord (cs : List Char) : Bool :=
  cs.getLast?.any isBlank && cs.any (!isBlank ·)

/-- The words of a line, each with the blanks behind it, the first also with the blanks before it;
`word` is the one that grows. -/
def wordsAfter (word : List Char) : List Char → List (List Char)
  | [] => [word]
  | c :: rest =>
    if !isBlank c && endsWord word then word :: wordsAfter [c] rest
    else wordsAfter (word ++ [c]) rest

/-- The pieces of at most `width` columns of a word; `piece` is the one that grows. -/
def piecesAfter (width : Nat) (piece : List Char) : List Char → List (List Char)
  | [] => [piece]
  | c :: rest =>
    if piece ≠ [] ∧ width < columns (piece ++ [c]) then
      piece :: piecesAfter width [c] rest
    else piecesAfter width (piece ++ [c]) rest

/-- A line that is being folded: the lines that are full, the line that grows, and its columns. -/
structure Fold where
  full : List (List Char)
  line : List Char
  used : Nat

namespace Fold

/-- Nothing placed yet. -/
def empty : Fold :=
  ⟨[], [], 0⟩

/-- Puts a text behind the line that grows. -/
def extend (f : Fold) (text : List Char) : Fold :=
  ⟨f.full, f.line ++ text, f.used + columns text⟩

/-- Puts a text on a line of its own. -/
def start (f : Fold) (text : List Char) : Fold :=
  ⟨if f.line = [] then f.full else f.full ++ [f.line], text, columns text⟩

/-- Puts a word on the line if it fits there without its blanks, else on a line of its own, in
pieces if it fits on none. -/
def place (width : Nat) (f : Fold) (word : List Char) : Fold :=
  let needed := columns (word.reverse.dropWhile isBlank).reverse
  if f.used + needed ≤ width then f.extend word
  else if width < needed then (piecesAfter width [] word).foldl start f
  else f.start word

/-- All lines. -/
def lines (f : Fold) : List (List Char) :=
  f.full ++ [f.line]

end Fold

/-- Cuts a text that is too wide to `width` columns. The place of the cut is sought by halving the
stretch from `low` to `high`; a wide character across the edge becomes a blank. -/
def cutToColumns (width : Nat) (cs : List Char) (low high : Nat) : List Char :=
  let place := (low + high) / 2
  let front := cs.take (place + 1)
  if columns front = width + 1 ∧ cs[place]?.any (charColumns · = 2) then cs.take place ++ [' ']
  else if columns front = width then front
  else if width < columns front then
    if place < high then cutToColumns width cs low place else front
  else if low < place then cutToColumns width cs place high
  else front
termination_by high - low

/-- Drops blanks at the end of a line as far as they stand past the edge. -/
def cropLine (width : Nat) (line : List Char) : List Char :=
  let closing := (line.reverse.takeWhile isBlank).length
  let kept := line.take (line.length - min closing (line.length - width))
  if columns kept ≤ width then kept else cutToColumns width kept 0 kept.length

/-- A line without tabs as lines of at most `width` columns. -/
def foldLine (width : Nat) (line : List Char) : List (List Char) :=
  (((wordsAfter [] line).foldl (Fold.place width) .empty).lines).map (cropLine width)

/-- The lines of a text on a console; without a width they are not folded. -/
def foldText (width : Option Nat) (text : String) : List String :=
  ((text.toList.splitOn '\n').flatMap fun line =>
    match width with
    | some width => foldLine width (expandTabs line)
    | none => [expandTabs line]).map String.ofList

end CommandLine.Console
