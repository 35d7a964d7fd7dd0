import CommandLine.Numeral.Shortest
import CommandLine.Text.Quoted
import CommandLine.Value.Basic

namespace CommandLine.Value

open Numeral Text

/-- Numbers from `0.0001` on and below `10 ^ 16` are written positionally; exponents have a sign and
two digits at least. -/
def numberLayout : NumberLayout :=
  ⟨-4, 16, 2⟩

/-- Items between commas. -/
def commaSeparated (items : List String) : String :=
  ", ".intercalate items

mutual

/-- A value as error texts show it. -/
def display : Value → String
  | none => "None"
  | bool b => if b then "True" else "False"
  | int n => toString n
  | float x => x.write numberLayout
  | text s => quoted s
  | list items => "[" ++ commaSeparated (displayAll items) ++ "]"
  | tuple items =>
    match displayAll items with
    | [item] => "(" ++ item ++ ",)"
    | items => "(" ++ commaSeparated items ++ ")"
  | record fields => "\x7b" ++ commaSeparated (displayFields fields) ++ "\x7d"
  | set items =>
    match displayAll items with
    | [] => "set()"
    | items => "\x7b" ++ commaSeparated items ++ "\x7d"
  | styled t => t.display

/-- The items of a sequence, each as error texts show it. -/
def displayAll : List Value → List String
  | [] => []
  | x :: xs => display x :: displayAll xs

/-- The fields of a record, each as error texts show it. -/
def displayFields : List (String × Value) → List String
  | [] => []
  | (name, x) :: xs => (quoted name ++ ": " ++ display x) :: displayFields xs

end

/-- A value as text: a text is itself, a styled one its characters, everything else as error texts
show it. -/
def asText : Value → String
  | text s => s
  | styled t => t.text
  | v => v.display

/-- A list of texts as error texts show it. -/
def displayTexts (items : List String) : String :=
  display (tuple (items.map text))

end CommandLine.Value
