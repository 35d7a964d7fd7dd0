import CommandLine.Parameter.Basic
import CommandLine.Text.Case
import CommandLine.Text.Clipped
import CommandLine.Value.Display

namespace CommandLine

open Text

/-- A family of parameters. -/
inductive Family where
  | base
  /-- A derived family; `shown` are the fields that its members show, if it chooses them. -/
  | derived (name : String) (shown : Option (List String))
  deriving DecidableEq, Repr

namespace Family

/-- The name of a family. -/
def name : Family → String
  | base => "Option"
  | derived name _ => name

/-- Derives a family; none when its name has a null character. -/
def derive? (name : String) (shown : Option (List String)) : Option Family :=
  if name.toList.contains '\x00' then none else some (derived name shown)

/-- The error of deriving a family whose name has a null character. -/
def nullInNameMessage : String :=
  "type name must not contain null characters"

/-- Puts a hyphen before every ASCII capital. -/
def hyphenateCapitals : List Char → List Char
  | [] => []
  | c :: rest => (if c.isUpper then ['-', c] else [c]) ++ hyphenateCapitals rest

/-- The type name of a family's members: its name in lower case, hyphens standing before all
capitals but a leading one. -/
def typeName (family : Family) : String :=
  match family.name.toList with
  | [] => ""
  | c :: rest => lower (String.ofList (c :: hyphenateCapitals rest))

end Family

/-- Why an attribute cannot be read or changed. -/
inductive AttributeError where
  /-- The attribute is there and stays as it is. -/
  | readOnly (subject name : String)
  /-- The members of the family have no such attribute. -/
  | absent (family name : String)
  /-- The attribute is read off from others. -/
  | noSetter (family name : String)
  deriving DecidableEq, Repr

/-- The bytes of a family's name that the error of an absent attribute shows. -/
def shownNameBytes : Nat := 50

/-- The wording of an attribute error. -/
def AttributeError.message : AttributeError → String
  | readOnly subject name => subject ++ " attribute " ++ quoted name ++ " is read-only"
  | absent family name =>
    "'" ++ clipped shownNameBytes family ++ "' object has no attribute '" ++ name ++ "'"
  | noSetter family name =>
    "property " ++ quoted name ++ " of " ++ quoted family ++ " object has no setter"

/-- A bound of an arity as a value. -/
def Arity.maximumValue (arity : Arity) : Value :=
  match arity.maximum with
  | some bound => .int bound
  | none => .none

/-- An arity as a value. -/
def Arity.value (arity : Arity) : Value :=
  .tuple [.int arity.minimum, arity.maximumValue]

/-- A description as a value. -/
def Description.value : Description → Value
  | plain text => .text text
  | styled t => .styled t

namespace Parameter

/-- The fields of a parameter, in the order in which it shows them. -/
def fieldNames : List String :=
  ["names", "short_names", "type", "required", "default", "position", "arity", "description"]

/-- A field that may not have been given, as error texts show it. -/
def givenText (value : Option Value) : String :=
  match value with
  | some value => value.display
  | none => "Unset"

/-- A field or the label of a parameter as error texts show it. -/
def fieldText? (p : Parameter) : String → Option String
  | "names" => some (Value.displayTexts p.longs)
  | "short_names" => some (Value.displayTexts (p.shorts.map fun c => String.ofList [c]))
  | "type" => some p.type.display
  | "required" => some (Value.bool p.required).display
  | "default" => some (givenText (p.fallback.map .text))
  | "position" => some (givenText (p.position.map fun n => .int n))
  | "arity" => some (givenText (p.arity.map Arity.value))
  | "description" => some ((p.description.map Description.value).getD .none).display
  | "label" => some (quoted p.label)
  | _ => none

/-- The names under which the fields are stored. -/
def storedNames : List String :=
  fieldNames.map ("_" ++ ·)

/-- The text of a field under either of its names, or of the label. -/
def ownText? (p : Parameter) (name : String) : Option String :=
  match name.toList with
  | '_' :: rest =>
    if fieldNames.contains (String.ofList rest) then p.fieldText? (String.ofList rest) else none
  | _ => p.fieldText? name

end Parameter

namespace Family

/-- The module that families belong to. -/
def moduleName : String := "argosy.options"

/-- The texts of the attributes that members have from a derived family. -/
def derivedText? (shown : Option (List String)) : String → Option String
  | "__displayable__" => shown.map Value.displayTexts
  | "__doc__" => some Value.none.display
  | "__dict__" => some (Value.record []).display
  | "__weakref__" => some Value.none.display
  | _ => none

/-- The texts of the attributes that the members of a family share. -/
def sharedText? (family : Family) (name : String) : Option String :=
  match name with
  | "__class__" => some ("<class '" ++ moduleName ++ "." ++ family.name ++ "'>")
  | "__introspectable__" => some (Value.displayTexts Parameter.fieldNames)
  | "__module__" => some (quoted moduleName)
  | "__slots__" => some (Value.displayTexts Parameter.storedNames)
  | "__typename__" => some (quoted family.typeName)
  | name =>
    match family with
    | base => none
    | derived _ shown => derivedText? shown name

/-- The text of a named attribute of a member. -/
def attributeText? (family : Family) (p : Parameter) (name : String) : Option String :=
  (p.ownText? name).or (family.sharedText? name)

/-- The fields that the members of a family show. -/
def shownFields : Family → List String
  | derived _ (some shown) => shown
  | _ => Parameter.fieldNames

/-- A member of a family as error texts show it: its type name and its shown fields. -/
def display (family : Family) (p : Parameter) : Except AttributeError String := do
  let fields ← family.shownFields.mapM fun name =>
    match family.attributeText? p name with
    | some text => .ok (name ++ "=" ++ text)
    | none => .error (.absent family.name name)
  .ok (family.typeName ++ "(" ++ Value.commaSeparated fields ++ ")")

end Family

end CommandLine
