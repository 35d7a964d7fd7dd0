import CommandLine.Host
import CommandLine.Report.Layout
import CommandLine.Report.Typesetter
import CommandLine.Text.Case
import CommandLine.Value.Display

namespace CommandLine

/-- How faults are rendered. -/
structure Rendering where
  /-- Whether styles are applied. -/
  colorful : Bool
  /-- Whether panels take the place of plain lines. -/
  fancy : Bool
  /-- The width of panels in columns, if it is set. -/
  width : Option Int
  deriving DecidableEq

/-- The parts of a report that have a style. -/
inductive Part where
  | programName
  | code
  | title
  | message
  | hintArrow
  | hint
  /-- The title over a group of faults. -/
  | groupTitle
  deriving DecidableEq, Repr

namespace Part

/-- The name by which a host overrides the style of a part. -/
def name : Part → String
  | programName => "prog-name"
  | code => "code"
  | title => "error-title"
  | message => "error-message"
  | hintArrow => "hint-arrow"
  | hint => "hint"
  | groupTitle => "title"

/-- The style of a part that a host does not override. -/
def defaultStyle : Part → String
  | programName => "bold #E6E6F0"
  | code => "bold #00E5FF"
  | title => "bold #FF4DA6"
  | message => "#C8C8D0"
  | hintArrow => "#9CE19C dim"
  | hint => "italic #9CE19C"
  | groupTitle => "bold #FF4DA6"

/-- The style of a part under a host. -/
def style (host : Host) (part : Part) : String :=
  (host.styles.lookup part.name).getD part.defaultStyle

end Part

section

variable (setter : Typesetter) (host : Host)

/-- A value as a part of a report. What counts as false is left out, a styled text keeps its own
style, and everything else gets the style of its part as a text. Nothing has a style when styles are
off. -/
def renderPart (colorful : Bool) (part : Part) (v : Value) : StyledText :=
  if v.truthy then
    match colorful, v with
    | false, v => setter.ofString v.asText ""
    | true, .styled t => t
    | true, v => setter.ofString v.asText (part.style host)
  else setter.ofString "" ""

/-- Plain text as a part of a report. -/
def renderText (colorful : Bool) (part : Part) (text : String) : StyledText :=
  renderPart setter host colorful part (.text text)

/-- Text between the parts of a report. -/
def separator (text : String) : StyledText :=
  setter.ofString text ""

/-- What the header over a fault is put together from: the program, the label of the code and the
title. -/
def headerParts (colorful : Bool) (label title : String) : List StyledText := [
  separator setter "[ ", renderText setter host colorful .programName host.programName,
  separator setter " — ", renderText setter host colorful .code label,
  separator setter " | ", renderText setter host colorful .title (Text.title title),
  separator setter " ]"]

/-- The header over a fault. -/
def faultHeader (colorful : Bool) (label title : String) : StyledText :=
  setter.assemble (headerParts setter host colorful label title)

/-- What the line with the hint of a fault is put together from. -/
def hintParts (colorful : Bool) (hint : Value) : List StyledText :=
  [renderText setter host colorful .hintArrow " → ", renderPart setter host colorful .hint hint]

/-- The line with the hint of a fault. -/
def hintLine (colorful : Bool) (hint : Value) : StyledText :=
  setter.assemble (hintParts setter host colorful hint)

/-- The report of a fault: header, message and hint, or message and hint in a panel. -/
def faultLayout (rendering : Rendering) (label title message : String) (hint : Value) : Layout :=
  let header := faultHeader setter host rendering.colorful label title
  let message := Layout.text (renderText setter host rendering.colorful .message message)
  let hint := Layout.text (hintLine setter host rendering.colorful hint)
  if rendering.fancy then .panel (.group [message, hint]) header rendering.width
  else .group [.text header, message, hint]

end

end CommandLine
