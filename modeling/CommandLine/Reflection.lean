import CommandLine.Failure
import CommandLine.Parameter.Display

namespace CommandLine

/-- A value that was given, or the stand-in for it; the stand-in may itself be missing. -/
def coalesce (given standIn : Option Value) : Option Value :=
  given.or standIn

/-- What is to get a name. -/
inductive NamingTarget where
  | function
  /-- A value; values cannot be called. -/
  | value (v : Value)

/-- Why a name or a view is refused. -/
inductive ReflectionError where
  | functionNameNotText
  | notCallable
  | fieldNameNotText
  | fieldAbsent (cause : AttributeError)

/-- The wording of a refusal. -/
def ReflectionError.message : ReflectionError → String
  | functionNameNotText => "@rename() argument must be a string"
  | notCallable => "@rename() must be applied to a callable"
  | fieldNameNotText => "mirror() argument must be a string"
  | fieldAbsent cause => cause.message

/-- Names a function; the answer is its short and its full name. -/
def rename (name : Value) (target : NamingTarget) : Except ReflectionError (String × String) :=
  match name, target with
  | .text name, .function => .ok (name, name)
  | .text _, .value _ => .error .notCallable
  | _, _ => .error .functionNameNotText

/-- Attributes that every object has from its class, where their values are plain ones. -/
def classAttributes : List (String × Value) :=
  [("__doc__", .none), ("__module__", .text "__main__"), ("__weakref__", .none)]

/-- Reads the field behind a public name: the field with that name after an underscore. -/
def readBehind (name : Value) (holder : String) (fields : List (String × Value)) :
    Except ReflectionError Value :=
  match name with
  | .text name =>
    match (fields ++ classAttributes).lookup ("_" ++ name) with
    | some value => .ok value
    | none => .error (.fieldAbsent (.absent holder ("_" ++ name)))
  | _ => .error .fieldNameNotText

end CommandLine
