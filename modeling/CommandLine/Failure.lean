import CommandLine.Text.Quoted

namespace CommandLine

/-- What a failure is about. -/
inductive Failure.Category where
  /-- A malformed value. -/
  | value
  /-- A value of the wrong type. -/
  | type
  /-- A key that is not there. -/
  | key
  /-- Any other category, by its name. -/
  | named (name : String)
  deriving DecidableEq, Repr

/-- A failure that a converter reports. -/
structure Failure where
  category : Failure.Category
  text : String
  deriving DecidableEq, Repr

namespace Failure

/-- A malformed value. -/
def ofValue (text : String) : Failure :=
  ⟨.value, text⟩

/-- A value of the wrong type. -/
def ofType (text : String) : Failure :=
  ⟨.type, text⟩

/-- A key that is not there; the text quotes the key. -/
def missingKey (key : String) : Failure :=
  ⟨.key, Text.quoted key⟩

end Failure

end CommandLine
