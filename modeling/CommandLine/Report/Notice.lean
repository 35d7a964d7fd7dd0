import CommandLine.Fault.Basic
import CommandLine.Report.Style
import CommandLine.Report.Width

namespace CommandLine

/-- What a notice is about. -/
inductive Subject where
  | parameter (p : Parameter)
  | value (v : Value)

/-- How a notice is to be rendered. -/
structure RenderingOptions where
  /-- Whether styles are applied. -/
  colorful : Bool
  /-- Whether panels take the place of plain lines. -/
  fancy : Bool
  /-- The share of the console that a panel takes, if it is set. -/
  ratio : Option Value

namespace RenderingOptions

/-- Styles on, panels off, no width set. -/
def usual : RenderingOptions :=
  ⟨true, false, none⟩

/-- The rendering that options come to on a console of so many columns; the width of a panel is not
looked at when there is none. -/
def resolve (columns : Nat) (options : RenderingOptions) : Except WidthError Rendering :=
  match options.fancy, options.ratio with
  | true, some ratio =>
    (shareColumns columns ratio).map fun width => ⟨options.colorful, true, some width⟩
  | fancy, _ => .ok ⟨options.colorful, fancy, none⟩

end RenderingOptions

/-- A fault record; fields that were not given are absent. -/
structure Notice where
  /-- The kind of fault, if it is one of the parse faults. -/
  kind : Option FaultKind
  message : String
  code : Option FaultCode
  title : Value
  hint : Value
  subject : Option Subject
  token : Option Value
  place : Option Value
  /-- A value that has members: the tokens. -/
  tokens : Value
  failure : Option Failure
  options : RenderingOptions

/-- Why a notice cannot be rendered. -/
inductive RenderError where
  /-- A field that has to be there. -/
  | missingField (name : String)
  /-- A title that is no text; its type is given. -/
  | titleNotText (typeName : String)
  | width (cause : WidthError)
  deriving DecidableEq, Repr

/-- A refusal to render as a failure. -/
def RenderError.failure : RenderError → Failure
  | missingField name => .missingKey name
  | titleNotText typeName =>
    ⟨.named "AttributeError", "'" ++ typeName ++ "' object has no attribute 'title'"⟩
  | width cause => cause.failure

/-- The name of a kind; a fault of no particular kind has one too. -/
def FaultKind.nameOf : Option FaultKind → String
  | some kind => kind.name
  | none => "ParseFault"

namespace Notice

/-- The notice of a fault. -/
def ofFault (options : RenderingOptions) (fault : Fault) : Notice where
  kind := some fault.kind
  message := fault.message
  code := some fault.code
  title := .text fault.title
  hint := .text fault.hint
  subject := fault.parameter?.map .parameter
  token := fault.token?.map .text
  place := fault.place?.map fun n => .int n
  tokens := .tuple (fault.tokens.map .text)
  failure := fault.failure?
  options := options

/-- The code of a notice. -/
def code? (n : Notice) : Except RenderError FaultCode :=
  match n.code with
  | some code => .ok code
  | none => .error (.missingField "code")

/-- The title of a notice as a text. -/
def titleText (n : Notice) : Except RenderError String :=
  match n.title with
  | .text title => .ok title
  | title => .error (.titleNotText title.typeName)

/-- A notice as error texts show it. -/
def display (n : Notice) : String :=
  FaultKind.nameOf n.kind ++ "(" ++ Text.quoted n.message ++ ")"

/-- Whether two notices are about the same; of equal values, only those that are kept once are. -/
def sameSubject : Option Subject → Option Subject → Bool
  | none, none => true
  | some (.parameter p), some (.parameter q) => p = q
  | some (.value v), some (.value w) => v.identical w
  | _, _ => false

/-- Whether two optional values are equal. -/
def sameGiven : Option Value → Option Value → Bool
  | none, none => true
  | some v, some w => v.same w
  | _, _ => false

/-- Equality of notices: kind, message, code, subject, token, place, tokens and failure count. -/
def same (a b : Notice) : Bool :=
  a.kind = b.kind && a.message == b.message && a.code = b.code && sameSubject a.subject b.subject &&
    sameGiven a.token b.token && sameGiven a.place b.place &&
    sameGiven (a.tokens.members?.map .tuple) (b.tokens.members?.map .tuple) && a.failure = b.failure

/-- The key that notices are hashed by. -/
def hashKey (n : Notice) : Option FaultKind × String :=
  (n.kind, n.message)

/-- A notice with other rendering options. -/
def restyle (options : RenderingOptions) (n : Notice) : Notice :=
  { n with options }

/-- The report of a notice. -/
def render (setter : Typesetter) (host : Host) (n : Notice) : Except RenderError Layout := do
  let code ← n.code?
  let title ← n.titleText
  let rendering ← (n.options.resolve setter.columns).mapError .width
  .ok (faultLayout setter host rendering (host.label code) title n.message n.hint)

end Notice

end CommandLine
