import CommandLine.Converter.Basic
import CommandLine.Numeral.Decimal
import CommandLine.Numeral.Integer
import CommandLine.Text.Case

namespace CommandLine

open Numeral Text

/-- Whether a token spells a boolean: `true` or `false` in any case. -/
def isBooleanLiteral (token : String) : Bool :=
  lower token == "true" || lower token == "false"

/-- Among the ASCII characters a boolean literal has letters only. -/
theorem isAlpha_of_isBooleanLiteral {text : String} (h : isBooleanLiteral text = true) {c : Char}
    (hc : c ∈ text.toList) (hascii : c.toNat < 0x80) : c.isAlpha = true := by
  apply isAlpha_of_isAlpha_toLower
  have hletters : ∀ word ∈ ["true", "false"], word.toList.all Char.isAlpha = true := by decide
  have hword : lower text ∈ ["true", "false"] := by simpa [isBooleanLiteral] using h
  exact List.all_eq_true.mp (hletters _ hword) _ (toLower_mem_lower hascii hc)

/-- Why standard conversion refuses a request. -/
inductive Refusal where
  /-- There are no tokens. -/
  | nothingToConvert
  | invalidBoolean (text : String)
  | invalidInteger (text : String)
  | invalidFloat (text : String)
  /-- No coercion is known for the kind. -/
  | unknownKind (kind : ItemKind)
  /-- The target is no descriptor. -/
  | unsupportedTarget (target : Annotation)
  /-- A coercion that was put in for a kind failed. -/
  | failed (failure : Failure)

/-- The failure that a refusal is reported as. -/
def Refusal.failure : Refusal → Failure
  | nothingToConvert => .ofValue "nothing to convert"
  | invalidBoolean text =>
    .ofValue ("invalid boolean value: " ++ quoted text ++ " (expected 'true' or 'false')")
  | invalidInteger text => .ofValue ("invalid integer value: " ++ quoted text)
  | invalidFloat text => .ofValue ("invalid floating-point value: " ++ quoted text)
  | unknownKind kind => .ofType ("no coercion registered for kind " ++ kind.display)
  | unsupportedTarget target => .ofType ("unsupported target descriptor: " ++ target.display)
  | failed failure => failure

/-- Coerces a text to a scalar kind. -/
def coerceKind (kind : Kind) (text : String) : Except Refusal Value :=
  match kind with
  | .string => .ok (.text text)
  | .boolean =>
    if isBooleanLiteral text then .ok (.bool (lower text == "true"))
    else .error (.invalidBoolean text)
  | .integer =>
    match readInteger? text with
    | some n => .ok (.int n)
    | none => .error (.invalidInteger text)
  | .float =>
    match readFloat? text with
    | some x => .ok (.float x)
    | none => .error (.invalidFloat text)

/-- Coerces a text to an item kind: a text without a kind stays, and only known kinds coerce. -/
def coerce (text : String) : ItemKind → Except Refusal Value
  | .raw => .ok (.text text)
  | .known kind => coerceKind kind text
  | .foreign name => .error (.unknownKind (.foreign name))

/-- Converts tokens to a descriptor with a coercion of texts to item kinds. -/
def convertWith (coercion : String → ItemKind → Except Refusal Value) (tokens : List String) :
    Descriptor → Except Refusal Value
  | .unspecified =>
    match tokens with
    | [token] => .ok (.text token)
    | tokens => .ok (.list (tokens.map .text))
  | .scalar kind => coercion (",".intercalate tokens) kind
  | .array kind => .tuple <$> tokens.mapM (coercion · kind)
  | .list kind => .list <$> tokens.mapM (coercion · kind)

/-- Answers a request with a coercion: it needs a token and a descriptor. -/
def answerWith (coercion : String → ItemKind → Except Refusal Value) (request : Request) :
    Except Refusal Value :=
  if request.tokens.isEmpty then .error .nothingToConvert
  else
    match request.target with
    | .descriptor d => convertWith coercion request.tokens d
    | target => .error (.unsupportedTarget target)

namespace Converter

/-- Standard conversion with a coercion of its own. -/
def standardWith (coercion : String → ItemKind → Except Refusal Value) : Converter :=
  ofFunction fun request => (answerWith coercion request).mapError Refusal.failure

/-- Standard conversion. -/
def standard : Converter :=
  standardWith coerce

theorem stateless_standard : standard.Stateless :=
  stateless_ofFunction _

end Converter

end CommandLine
