import CommandLine.Text.Quoted

namespace CommandLine

open Text

/-- The scalar kinds that standard conversion knows. -/
inductive Kind where
  | string
  | boolean
  | integer
  | float
  deriving DecidableEq, Repr

namespace Kind

/-- All kinds. -/
def all : List Kind :=
  [string, boolean, integer, float]

/-- The name of a kind in messages. -/
def name : Kind → String
  | string => "string"
  | boolean => "boolean"
  | integer => "integer"
  | float => "float"

/-- The kind of a name. -/
def ofName? (name : String) : Option Kind :=
  all.find? (·.name == name)

/-- A kind as error texts show it: its constant, then its name. -/
def display (kind : Kind) : String :=
  "<Kind." ++ String.ofList (kind.name.toList.map Char.toUpper) ++ ": " ++ quoted kind.name ++ ">"

end Kind

/-- What a descriptor says of the kind of its items. -/
inductive ItemKind where
  /-- A kind that standard conversion knows. -/
  | known (kind : Kind)
  /-- A kind that only other converters may know. -/
  | foreign (name : String)
  /-- No kind: texts stay as they are. -/
  | raw
  deriving DecidableEq, Repr

namespace ItemKind

/-- The item kind of a kind name: a known one where there is one of that name. -/
def ofName (name : String) : ItemKind :=
  match Kind.ofName? name with
  | some kind => known kind
  | none => foreign name

/-- The item kind in messages. -/
def name : ItemKind → String
  | known kind => kind.name
  | foreign name => name
  | raw => "None"

/-- The item kind as error texts show it. -/
def display : ItemKind → String
  | known kind => kind.display
  | foreign name => quoted name
  | raw => "None"

end ItemKind

/-- How raw tokens become a value. -/
inductive Descriptor where
  /-- Tokens stay as they are. -/
  | unspecified
  /-- Tokens are joined by commas and coerced once. -/
  | scalar (kind : ItemKind)
  /-- Each token is coerced; the result is a tuple. -/
  | array (kind : ItemKind)
  /-- Each token is coerced; the result is a list. -/
  | list (kind : ItemKind)
  deriving DecidableEq, Repr

namespace Descriptor

/-- The descriptor in messages. -/
def name : Descriptor → String
  | unspecified => "value"
  | scalar kind => kind.name
  | array kind => "array of " ++ kind.name
  | list .raw => "list of values"
  | list (.foreign "") => "list of values"
  | list kind => "list of " ++ kind.name

/-- The descriptor as error texts show it. -/
def display : Descriptor → String
  | unspecified => "Unspecified()"
  | scalar kind => "Scalar(kind=" ++ kind.display ++ ")"
  | array kind => "ArrayOf(kind=" ++ kind.display ++ ")"
  | list kind => "ListOf(kind=" ++ kind.display ++ ")"

/-- The boolean scalar is the one type whose values are flag-like. -/
def isBoolean : Descriptor → Bool
  | scalar (.known .boolean) => true
  | _ => false

/-- Arrays and lists convert token by token. -/
def isCollection : Descriptor → Bool
  | array _ => true
  | list _ => true
  | _ => false

theorem isBoolean_eq_true_iff {d : Descriptor} :
    d.isBoolean = true ↔ d = .scalar (.known .boolean) := by
  constructor
  · intro h
    unfold isBoolean at h
    split at h
    · rfl
    · contradiction
  · rintro rfl
    rfl

theorem isCollection_eq_false_of_isBoolean {d : Descriptor} (h : d.isBoolean = true) :
    d.isCollection = false := by
  rw [isBoolean_eq_true_iff] at h
  subst h
  rfl

end Descriptor

end CommandLine
