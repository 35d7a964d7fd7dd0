import CommandLine.Annotation.Basic

namespace CommandLine

namespace Annotation

/-- Why an annotation has no descriptor. -/
inductive DescribeError where
  /-- A list type without exactly one item type. -/
  | listItems
  /-- A tuple type of fixed shape. -/
  | fixedTuple
  /-- A generic type of another base. -/
  | notCollection (a : Annotation)
  /-- What stands in the place of a scalar type and is none. -/
  | notScalar (a : Annotation)

/-- The wording of a refusal. -/
def DescribeError.message : DescribeError → String
  | listItems => "describe() list annotations take exactly one item type"
  | fixedTuple => "describe() tuple annotations must be variadic (tuple[T, ...])"
  | notCollection a => "describe() cannot map " ++ a.display ++ " to a descriptor"
  | notScalar a => "describe() cannot map " ++ a.display ++ " to a scalar kind"

/-- The kind of an item or scalar type. -/
def scalarKind : Annotation → Except DescribeError ItemKind
  | kind k => .ok (.known k)
  | named base =>
    match base.kind? with
    | some k => .ok (.known k)
    | Option.none => .error (.notScalar (named base))
  | a => .error (.notScalar a)

/-- The descriptor of a generic type of the given origin. -/
def describeGeneric (whole : Annotation) (base : GenericBase) (arguments : List Annotation) :
    Except DescribeError Descriptor :=
  match base.origin, arguments with
  | .list, [item] => Descriptor.list <$> scalarKind item
  | .list, _ => .error .listItems
  | .tuple, [item, ellipsis] => Descriptor.array <$> scalarKind item
  | .tuple, _ => .error .fixedTuple
  | _, _ => .error (if base.isAlias then .notScalar whole else .notCollection whole)

/-- The descriptor that an annotation stands for: a descriptor stands for itself, no type for raw
tokens, and lists and variadic tuples of scalar types for their collections. -/
def describe : Annotation → Except DescribeError Descriptor
  | descriptor d => .ok d
  | none => .ok .unspecified
  | unset => .ok .unspecified
  | named .list => .ok (.list .raw)
  | bareAlias origin => describeGeneric (bareAlias origin) ⟨origin, true⟩ []
  | generic base arguments => describeGeneric (generic base arguments) base arguments
  | a => Descriptor.scalar <$> scalarKind a

end Annotation

end CommandLine
