import CommandLine.Console.Folding
import CommandLine.Report.Layout
import CommandLine.Report.Typesetter

namespace CommandLine

namespace Console

/-- Control characters that texts do not keep: bell, backspace, vertical tab, form feed and carriage
return. -/
def isDroppedControl (c : Char) : Bool :=
  c.toNat == 7 || c.toNat == 8 || (0xb ≤ c.toNat && c.toNat ≤ 0xd)

/-- A text in one style. -/
def ofString (text style : String) : StyledText :=
  ⟨String.ofList (text.toList.filter fun c => !isDroppedControl c), style, []⟩

/-- The spans of parts that stand one after another from a place on. The style of a part becomes a span
over it, and its own spans follow; a part without characters has none. -/
def spansOf (start : Nat) : List StyledText → List Span
  | [] => []
  | part :: rest =>
    (if part.text = "" then []
      else
        (if part.style = "" then [] else [⟨start, start + part.length, part.style⟩]) ++
          part.spans.map fun span => ⟨start + span.start, start + span.stop, span.style⟩) ++
      spansOf (start + part.length) rest

/-- The text of parts after one another. -/
def assemble (parts : List StyledText) : StyledText :=
  ⟨String.join (parts.map StyledText.text), "", spansOf 0 parts⟩

/-- The typesetter of a console. -/
def typesetter (columns : Nat) : Typesetter :=
  ⟨ofString, assemble, columns⟩

end Console

namespace Layout

mutual

/-- The texts of a layout without frames, from top to bottom. -/
def texts : Layout → List String
  | text t => [t.text]
  | group items => textsOfAll items
  | panel inner _ _ => texts inner

/-- The texts of layouts below one another. -/
def textsOfAll : List Layout → List String
  | [] => []
  | item :: rest => texts item ++ textsOfAll rest

end

/-- A layout as plain text on a console, every line ended. A console without a width folds
nothing. -/
def plainText (width : Option Nat) (layout : Layout) : String :=
  String.join ((layout.texts.flatMap (Console.foldText width)).map (· ++ "\n"))

end Layout

end CommandLine
