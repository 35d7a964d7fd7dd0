import CommandLine.Annotation.Basic
import CommandLine.Failure

namespace CommandLine

open Text

/-- What the language in which annotations are written makes of objects that are no types. Annotations are
formed by any interpreter of it. -/
structure Interpreter where
  /-- Whether a text is an expression, which may name a type that is looked up later. -/
  isExpression (text : String) : Bool
  /-- What two objects come to when they are joined, as types are in a choice. -/
  join? (a b : Value) : Option Value

namespace Annotation

/-- Why parts make no annotation. -/
inductive FormationError where
  /-- There is no choice between objects of these types. -/
  | noChoice (left right : String)
  /-- A class that takes no arguments. -/
  | noArguments (base : AnnotationClass)
  | argumentCount (base : GenericBase) (actual expected : Nat)
  /-- A text that is no expression. -/
  | noExpression (text : String)

/-- A refusal as a failure. -/
def FormationError.failure : FormationError → Failure
  | noChoice left right =>
    .ofType ("unsupported operand type(s) for |: '" ++ left ++ "' and '" ++ right ++ "'")
  | noArguments base => .ofType ("type '" ++ base.name ++ "' is not subscriptable")
  | argumentCount base actual expected =>
    .ofType ("Too " ++ (if expected < actual then "many" else "few") ++ " arguments for " ++
      base.name ++ "; actual " ++ toString actual ++ ", expected " ++ toString expected)
  | noExpression text =>
    ⟨.named "SyntaxError", "Forward reference must be an expression -- got " ++ quoted text⟩

section

variable (interpreter : Interpreter)

/-- A type argument as an alias keeps it: nothing becomes its class, a text or a kind a name to look
up. Such a text is an expression. -/
def aliasArgument : Annotation → Except FormationError Annotation
  | none => .ok (named .noneType)
  | literal (.text s) =>
    if interpreter.isExpression s then .ok (forward (literal (.text s))) else .error (.noExpression s)
  | kind k => .ok (forward (kind k))
  | a => .ok a

/-- A type with arguments. -/
def withArguments (base : GenericBase) (arguments : List Annotation) :
    Except FormationError Annotation := do
  if base.isAlias then
    let kept ← arguments.mapM (aliasArgument interpreter)
    match base.argumentCount? with
    | some expected =>
      if kept.length = expected then .ok (generic base kept)
      else .error (.argumentCount base kept.length expected)
    | Option.none => .ok (generic base kept)
  else if base.origin.takesArguments then .ok (generic base arguments)
  else .error (.noArguments base.origin)

end

/-- Whether an annotation is written with an alias. -/
def isAlias : Annotation → Bool
  | bareAlias _ => true
  | generic base _ => base.isAlias
  | union viaAlias _ => viaAlias
  | _ => false

/-- Whether an annotation is a class, a class with arguments or a choice between such. -/
def isClass : Annotation → Bool
  | named _ => true
  | generic base _ => !base.isAlias
  | union viaAlias _ => !viaAlias
  | _ => false

/-- The type of an object in the place of an annotation, in error texts. -/
def typeName : Annotation → String
  | none => "NoneType"
  | unset => "UnsetType"
  | ellipsis => "ellipsis"
  | named _ => "type"
  | bareAlias _ => "_SpecialGenericAlias"
  | generic _ _ => "types.GenericAlias"
  | union _ _ => "types.UnionType"
  | kind _ => "Kind"
  | descriptor d =>
    match d with
    | .unspecified => "Unspecified"
    | .scalar _ => "Scalar"
    | .array _ => "ArrayOf"
    | .list _ => "ListOf"
  | forward _ => "ForwardRef"
  | literal value => value.typeName

/-- The types that an annotation offers when it is a member of a choice. -/
def memberTypes : Annotation → List Annotation
  | none => [named .noneType]
  | union _ members => members
  | a => [a]

/-- The choice between annotations: choices among them are opened, equal ones are counted once, and
a single type stands for itself. -/
def ofMembers (viaAlias : Bool) (members : List Annotation) : Annotation :=
  match distinct (members.flatMap memberTypes) with
  | [a] => a
  | types => union viaAlias types

section

variable (interpreter : Interpreter)

/-- The choice between two annotations. The mark for no type stands for its class and goes to the
right, except behind an alias, which keeps whatever it is put beside. -/
def choose (a b : Annotation) : Except FormationError Annotation :=
  let refused := Except.error (FormationError.noChoice a.typeName b.typeName)
  let mark := named .unsetMark
  match a, b with
  | unset, unset => .ok mark
  | unset, b =>
    if b.isAlias || b.isClass || b matches none then .ok (ofMembers b.isAlias [b, mark]) else refused
  | a, b =>
    if a.isAlias || b.isAlias then do
      let a ← aliasArgument interpreter a
      let b ← aliasArgument interpreter b
      .ok (ofMembers true [a, b])
    else
      match a, b with
      | none, none => refused
      | none, unset => .ok (ofMembers false [none, mark])
      | a, unset => if a.isClass then .ok (ofMembers false [a, mark]) else refused
      | literal v, literal w =>
        match interpreter.join? v w with
        | some joined => .ok (literal joined)
        | Option.none => refused
      | a, b =>
        if (a.isClass || a matches none) && (b.isClass || b matches none) then
          .ok (ofMembers false [a, b])
        else refused

/-- The choice between several annotations, taken from left to right. -/
def chooseAll (first : Annotation) (others : List Annotation) : Except FormationError Annotation :=
  others.foldlM (choose interpreter) first

end

end Annotation

end CommandLine
