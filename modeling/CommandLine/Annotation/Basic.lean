import CommandLine.Descriptor
import CommandLine.Value.Display

namespace CommandLine

/-- The classes that may stand in annotations. -/
inductive AnnotationClass where
  | string | boolean | integer | float | list | tuple | dictionary | set | bytes | noneType
  /-- The class of the mark for a type that was not given. -/
  | unsetMark
  deriving DecidableEq, Repr

namespace AnnotationClass

/-- The name of a class. -/
def name : AnnotationClass → String
  | string => "str"
  | boolean => "bool"
  | integer => "int"
  | float => "float"
  | list => "list"
  | tuple => "tuple"
  | dictionary => "dict"
  | set => "set"
  | bytes => "bytes"
  | noneType => "NoneType"
  | unsetMark => "argosy.utils.UnsetType"

/-- The kind that a class stands for. -/
def kind? : AnnotationClass → Option Kind
  | string => some .string
  | boolean => some .boolean
  | integer => some .integer
  | float => some .float
  | _ => none

/-- Whether a class takes type arguments. -/
def takesArguments : AnnotationClass → Bool
  | list | tuple | dictionary | set => true
  | _ => false

end AnnotationClass

/-- What takes type arguments: a class itself, or its alias in the typing vocabulary. -/
structure GenericBase where
  origin : AnnotationClass
  isAlias : Bool
  deriving DecidableEq, Repr

namespace GenericBase

/-- An alias is written with its module and a capital. -/
def name (base : GenericBase) : String :=
  if base.isAlias then
    "typing." ++ String.ofList (match base.origin.name.toList with
      | [] => []
      | c :: rest => c.toUpper :: rest)
  else base.origin.name

/-- How many arguments an alias takes; a tuple takes any number. -/
def argumentCount? (base : GenericBase) : Option Nat :=
  match base.origin with
  | .tuple => none
  | .dictionary => some 2
  | _ => some 1

end GenericBase

/-- A type annotation, or any other object in the place of one. -/
inductive Annotation where
  /-- No type. -/
  | none
  /-- No type was given. -/
  | unset
  | ellipsis
  | named (base : AnnotationClass)
  /-- An alias without type arguments. -/
  | bareAlias (origin : AnnotationClass)
  | generic (base : GenericBase) (arguments : List Annotation)
  /-- A choice of types; `viaAlias` when one of them is written with an alias. -/
  | union (viaAlias : Bool) (members : List Annotation)
  | kind (kind : Kind)
  | descriptor (descriptor : Descriptor)
  /-- A name that is to be looked up later, as it was written. -/
  | forward (written : Annotation)
  | literal (value : Value)

namespace Annotation

/-- An object in the place of an annotation. -/
def ofValue : Value → Annotation
  | .none => none
  | value => literal value

/-- The text between the brackets of a type with these arguments. -/
def argumentText (texts : List String) : String :=
  if texts.isEmpty then "()" else Value.commaSeparated texts

/-- A choice written with an alias: a choice between one type and nothing has a form of its own. -/
def choiceText : List String → String
  | [member, "NoneType"] => "typing.Optional[" ++ member ++ "]"
  | ["NoneType", member] => "typing.Optional[" ++ member ++ "]"
  | members => "typing.Union[" ++ Value.commaSeparated members ++ "]"

mutual

/-- An annotation as error texts show it; inside the brackets of another, classes are written by
name and the ellipsis by its sign. -/
def displayAt (inside : Bool) : Annotation → String
  | none => "None"
  | unset => "Unset"
  | ellipsis => if inside then "..." else "Ellipsis"
  | named base => if inside then base.name else "<class '" ++ base.name ++ "'>"
  | bareAlias origin => GenericBase.name ⟨origin, true⟩
  | generic base arguments => base.name ++ "[" ++ argumentText (displayAllInside arguments) ++ "]"
  | union viaAlias members =>
    if viaAlias then choiceText (displayAllInside members)
    else " | ".intercalate (displayMembers members)
  | kind k => k.display
  | descriptor d => d.display
  | forward written => "ForwardRef(" ++ displayAt false written ++ ")"
  | literal value => value.display

/-- Annotations inside brackets. -/
def displayAllInside : List Annotation → List String
  | [] => []
  | a :: rest => displayAt true a :: displayAllInside rest

/-- The members of a choice between classes. -/
def displayMembers : List Annotation → List String
  | [] => []
  | a :: rest =>
    (match a with
      | named .noneType => "None"
      | a => displayAt true a) :: displayMembers rest

end

/-- An annotation as error texts show it. -/
def display (a : Annotation) : String :=
  displayAt false a

/-- An annotation as text: a kind is its name and a text itself, everything else as error texts
show it. -/
def name : Annotation → String
  | kind k => k.name
  | descriptor d => d.name
  | literal (.text s) => s
  | a => a.display

mutual

/-- Equality of annotations: choices are equal whatever the order of their members, and a kind
equals its name. -/
def same : Annotation → Annotation → Bool
  | none, none => true
  | unset, unset => true
  | ellipsis, ellipsis => true
  | named a, named b => a = b
  | bareAlias a, bareAlias b => a = b
  | generic f xs, generic g ys => f = g && sameAll xs ys
  | union _ xs, union _ ys => xs.length == ys.length && sameMembers xs ys
  | kind k, kind l => k = l
  | kind k, literal (.text s) => k.name == s
  | literal (.text s), kind k => s == k.name
  | descriptor d, descriptor e => d = e
  | forward a, forward b => same a b
  | literal v, literal w => v.same w
  | _, _ => false
termination_by structural x => x

/-- Whether two lists of annotations are equal place by place. -/
def sameAll : List Annotation → List Annotation → Bool
  | [], [] => true
  | a :: as, b :: bs => same a b && sameAll as bs
  | _, _ => false
termination_by structural x => x

/-- Whether every annotation of the first list has an equal one in the second. -/
def sameMembers : List Annotation → List Annotation → Bool
  | [], _ => true
  | a :: as, bs => bs.any (same a ·) && sameMembers as bs
termination_by structural x => x

end

/-- Keeps the first of equal annotations. -/
def distinct : List Annotation → List Annotation
  | [] => []
  | a :: rest => a :: (distinct rest).filter (!a.same ·)

end Annotation

end CommandLine
