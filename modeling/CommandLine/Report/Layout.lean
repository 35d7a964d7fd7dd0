import CommandLine.Text.Styled

namespace CommandLine

/-- A report as it is laid out. -/
inductive Layout where
  | text (t : StyledText)
  /-- Layouts below one another. -/
  | group (items : List Layout)
  /-- A framed layout with a title on the left; the width is in columns, if it is set. -/
  | panel (inner : Layout) (title : StyledText) (width : Option Int)

end CommandLine
