import CommandLine.Text.Quoted

namespace CommandLine

/-- A stretch of a text with a style; it ends before the character at `stop`. -/
structure Span where
  start : Nat
  stop : Nat
  style : String
  deriving DecidableEq, Repr

/-- A span as error texts show it. -/
def Span.display (span : Span) : String :=
  "Span(" ++ toString span.start ++ ", " ++ toString span.stop ++ ", " ++ Text.quoted span.style ++ ")"

/-- A text with a style of its own and spans with styles of theirs. -/
structure StyledText where
  text : String
  style : String
  spans : List Span
  deriving DecidableEq, Repr

namespace StyledText

/-- The number of characters. -/
def length (t : StyledText) : Nat :=
  t.text.length

/-- A styled text as error texts show it: its characters, spans and base style. -/
def display (t : StyledText) : String :=
  "<text " ++ Text.quoted t.text ++ " [" ++ ", ".intercalate (t.spans.map Span.display) ++ "] " ++
    Text.quoted t.style ++ ">"

end StyledText

end CommandLine
