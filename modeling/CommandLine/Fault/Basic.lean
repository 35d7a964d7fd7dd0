import CommandLine.Fault.Code
import CommandLine.Failure
import CommandLine.Suggestion.Basic
import CommandLine.Text.Ordinal
import CommandLine.Value.Display
import CommandLine.Word.Basic

namespace CommandLine

open Text

/-- The kinds of faults. -/
inductive FaultKind where
  | unrecognised
  | missing
  | notEnough
  | tooMany
  | conversion
  deriving DecidableEq, Repr

namespace FaultKind

/-- The name of a kind in logs and reports. -/
def name : FaultKind → String
  | unrecognised => "UnrecognisedOptionError"
  | missing => "MissingOptionError"
  | notEnough => "NotEnoughArgumentsError"
  | tooMany => "TooManyArgumentsError"
  | conversion => "ConversionError"

/-- The code of a kind. -/
def code : FaultKind → FaultCode
  | unrecognised => .unrecognisedOption
  | missing => .missingOption
  | notEnough => .notEnoughArguments
  | tooMany => .tooManyArguments
  | conversion => .conversionError

/-- The headline of a kind. -/
def title : FaultKind → String
  | unrecognised => "unknown option"
  | missing => "missing option"
  | notEnough => "not enough arguments"
  | tooMany => "too many arguments"
  | conversion => "conversion error"

end FaultKind

/-- A fault of a parse. -/
inductive Fault where
  /-- A flag that is not declared, with the spellings that it may have been meant for. -/
  | unrecognised (word : Word) (suggestions : List String)
  /-- A required parameter that was not given. -/
  | missing (p : Parameter)
  /-- A parameter that took fewer tokens than it needs; `positional` tells leftovers from a flag. -/
  | notEnough (p : Parameter) (anchor : Word) (taken : List Word) (minimum : Int)
    (positional : Bool)
  /-- A flag that was given more tokens than it takes. -/
  | tooMany (p : Parameter) (anchor : Word) (taken surplus : List Word) (maximum : Int)
  /-- Tokens that a converter refused; without an anchor they are the fallback of the parameter. -/
  | conversion (p : Parameter) (anchor : Option Word) (raw : List String) (failure : Failure)
  deriving DecidableEq

namespace Fault

/-- A plural ending. -/
def plural (count : Int) : String :=
  if count = 1 then "" else "s"

/-- The ordinal of a word's place. -/
def placeText (w : Word) : String :=
  ordinal w.place

/-- The kind of a fault. -/
def kind : Fault → FaultKind
  | unrecognised .. => .unrecognised
  | missing .. => .missing
  | notEnough .. => .notEnough
  | tooMany .. => .tooMany
  | conversion .. => .conversion

/-- The code of a fault. -/
def code (fault : Fault) : FaultCode :=
  fault.kind.code

/-- The headline of a fault. -/
def title (fault : Fault) : String :=
  fault.kind.title

/-- What went wrong and where, in one sentence. -/
def message : Fault → String
  | unrecognised w _ => "unknown option " ++ quoted w.text ++ " at " ++ placeText w ++ " position"
  | missing p => "required " ++ p.mention ++ " was not provided"
  | notEnough p anchor taken minimum positional =>
    p.mention ++ (if positional then " from " else " at ") ++ placeText anchor ++
      " position needs at least " ++ toString minimum ++ " value" ++ plural minimum ++ " but got " ++
      toString taken.length
  | tooMany p anchor taken surplus maximum =>
    p.mention ++ " at " ++ placeText anchor ++ " position accepts at most " ++ toString maximum ++
      " value" ++ plural maximum ++ " but " ++ toString (taken.length + surplus.length) ++ " were given"
  | conversion p none raw _ =>
    "default value " ++ quoted (",".intercalate raw) ++ " of " ++ p.mention ++
      " cannot be converted to " ++ p.type.name
  | conversion p (some anchor) raw _ =>
    "value " ++ quoted (",".intercalate raw) ++ " for " ++ p.mention ++ " at " ++ placeText anchor ++
      " position cannot be converted to " ++ p.type.name

/-- What to do about a fault, in one sentence. -/
def hint : Fault → String
  | unrecognised _ [] => "remove it or declare the option in the command schema"
  | unrecognised _ (best :: _) =>
    "did you mean " ++ quoted best ++ "? otherwise remove it or declare the option"
  | missing p => "provide " ++ p.route
  | notEnough _ _ taken minimum _ =>
    "add the missing value" ++ plural (minimum - taken.length)
  | tooMany p _ _ surplus _ =>
    "remove the extra value" ++ plural surplus.length ++ " after " ++ p.label
  | conversion p _ _ _ => "use a valid " ++ p.type.name ++ " for " ++ p.label

/-- The parameter that a fault is about. -/
def parameter? : Fault → Option Parameter
  | unrecognised .. => none
  | missing p => some p
  | notEnough p .. => some p
  | tooMany p .. => some p
  | conversion p .. => some p

/-- The word that a fault points at. -/
def anchor? : Fault → Option Word
  | unrecognised w _ => some w
  | missing _ => none
  | notEnough _ anchor .. => some anchor
  | tooMany _ anchor .. => some anchor
  | conversion _ anchor _ _ => anchor

/-- The text of the word that a fault points at. -/
def token? (fault : Fault) : Option String :=
  fault.anchor?.map Word.text

/-- The place of the word that a fault points at, counted from one. -/
def place? (fault : Fault) : Option Nat :=
  fault.anchor?.map Word.place

/-- The tokens that a fault is about. -/
def tokens : Fault → List String
  | unrecognised .. => []
  | missing _ => []
  | notEnough _ _ taken _ _ => taken.map Word.text
  | tooMany _ _ taken surplus _ => (taken ++ surplus).map Word.text
  | conversion _ _ raw _ => raw

/-- The spellings that an undeclared flag may have been meant for. -/
def suggestions? : Fault → Option (List String)
  | unrecognised _ suggestions => some suggestions
  | _ => none

/-- What a converter reported. -/
def failure? : Fault → Option Failure
  | conversion _ _ _ failure => some failure
  | _ => none

/-- What makes a fault the fault that it is: two faults of a program are equal when they agree in
this. Title, hint, suggestions and documentation do not count. -/
structure Identity where
  kind : FaultKind
  message : String
  code : FaultCode
  parameter : Option Parameter
  token : Option String
  place : Option Nat
  tokens : List String
  failure : Option Failure
  deriving DecidableEq

/-- The identity of a fault. -/
def identity (fault : Fault) : Identity where
  kind := fault.kind
  message := fault.message
  code := fault.code
  parameter := fault.parameter?
  token := fault.token?
  place := fault.place?
  tokens := fault.tokens
  failure := fault.failure?

/-- Equality of faults. -/
def same (a b : Fault) : Bool :=
  a.identity = b.identity

/-- The key that faults are hashed by; equal faults have equal keys. -/
def hashKey (fault : Fault) : FaultKind × String :=
  (fault.kind, fault.message)

theorem hashKey_eq_of_same {a b : Fault} (h : a.same b = true) : a.hashKey = b.hashKey := by
  simp only [same, decide_eq_true_eq] at h
  simp only [hashKey, Prod.mk.injEq]
  exact ⟨congrArg Identity.kind h, congrArg Identity.message h⟩

end Fault

end CommandLine
