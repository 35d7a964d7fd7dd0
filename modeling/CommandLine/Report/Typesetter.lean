import CommandLine.Text.Styled

namespace CommandLine

/-- What sets the texts of reports. Reports are made with any typesetter; what they rely on is told by
`Typesetter.Lawful`. -/
structure Typesetter where
  /-- A text in one style. -/
  ofString (text style : String) : StyledText
  /-- The text of parts after one another. -/
  assemble (parts : List StyledText) : StyledText
  /-- The columns of the console that reports are set for. -/
  columns : Nat

namespace StyledText

/-- That a text has characters and a style. -/
def Styled (t : StyledText) : Prop :=
  t.text ≠ "" ∧ t.style ≠ ""

instance : DecidablePred Styled :=
  fun _ => inferInstanceAs (Decidable (_ ∧ _))

/-- The spans of parts that stand one after another from a place on: one over each part that has
characters and a style. -/
def spansFrom (start : Nat) : List StyledText → List Span
  | [] => []
  | part :: rest =>
    (if part.Styled then [⟨start, start + part.length, part.style⟩] else []) ++
      spansFrom (start + part.length) rest

end StyledText

/-- What reports rely on: a text has the style it is made in and no spans, an assembled text has no
style of its own, it has the characters of its parts, and the parts without spans that have characters
and a style become its spans. -/
structure Typesetter.Lawful (setter : Typesetter) : Prop where
  style_ofString : ∀ text style, (setter.ofString text style).style = style
  spans_ofString : ∀ text style, (setter.ofString text style).spans = []
  /-- The style has no say in which characters a text keeps. -/
  text_ofString : ∀ text style style',
    (setter.ofString text style).text = (setter.ofString text style').text
  /-- Characters that a text has kept are kept again. -/
  text_ofString_text : ∀ text style,
    (setter.ofString (setter.ofString text style).text style).text = (setter.ofString text style).text
  style_assemble : ∀ parts, (setter.assemble parts).style = ""
  text_assemble : ∀ parts, (setter.assemble parts).text = String.join (parts.map StyledText.text)
  spans_assemble : ∀ parts : List StyledText, (∀ part ∈ parts, part.spans = []) →
    (setter.assemble parts).spans = StyledText.spansFrom 0 parts

end CommandLine
