import CommandLine.Value.Basic

namespace CommandLine

/-- The code of a fault. -/
inductive FaultCode where
  | unrecognisedOption
  | missingOption
  | notEnoughArguments
  | tooManyArguments
  | conversionError
  deriving DecidableEq, Repr

namespace FaultCode

/-- All codes. -/
def all : List FaultCode :=
  [unrecognisedOption, missingOption, notEnoughArguments, tooManyArguments, conversionError]

/-- The number of a code: 211 for matching, 212 for arity, 213 for conversion. -/
def number : FaultCode → Nat
  | unrecognisedOption => 21101
  | missingOption => 21102
  | notEnoughArguments => 21201
  | tooManyArguments => 21202
  | conversionError => 21301

/-- The name of a code. -/
def name : FaultCode → String
  | unrecognisedOption => "UNRECOGNISED_OPTION"
  | missingOption => "MISSING_OPTION"
  | notEnoughArguments => "NOT_ENOUGH_ARGUMENTS"
  | tooManyArguments => "TOO_MANY_ARGUMENTS"
  | conversionError => "CONVERSION_ERROR"

/-- The code of a number. -/
def ofNumber? (n : Int) : Option FaultCode :=
  all.find? fun code => (code.number : Int) == n

/-- The code that a value is equal to as a number. -/
def ofValue? (v : Value) : Option FaultCode :=
  all.find? fun code => (Value.int code.number).sameNumber v

/-- The error of taking a number for a code that is none. -/
def unknownMessage (text : String) : String :=
  text ++ " is not a valid FaultCode"

theorem number_injective {a b : FaultCode} (h : a.number = b.number) : a = b := by
  cases a <;> cases b <;> simp_all [number]

theorem ofNumber?_number (code : FaultCode) : ofNumber? code.number = some code := by
  cases code <;> rfl

end FaultCode

end CommandLine
