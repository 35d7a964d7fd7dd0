import CommandLine.Parameter.Display

namespace CommandLine

/-- What an attribute holds. -/
inductive Content where
  | value (v : Value)
  | type (descriptor : Descriptor)
  /-- The mark of a field that was not given. -/
  | unset
  /-- What a member has from its family, whatever it holds. -/
  | shared

namespace Content

/-- A value that may not have been given. -/
def given : Option Value → Content
  | some v => value v
  | none => unset

/-- The first of several texts. -/
def firstText? : Content → Option String
  | value (.tuple (.text s :: _)) => some s
  | _ => none

/-- The text of an integer. -/
def integerText? : Content → Option String
  | value (.int n) => some (toString n)
  | _ => none

end Content

namespace Parameter

/-- The fields of a parameter with what they hold, in the order in which a declaration stores them. -/
def contents (p : Parameter) : List (String × Content) := [
  ("names", .value (.tuple (p.longs.map .text))),
  ("type", .type p.type),
  ("required", .value (.bool p.required)),
  ("default", .given (p.fallback.map .text)),
  ("position", .given (p.position.map fun n : Nat => .int n)),
  ("arity", .given (p.arity.map Arity.value)),
  ("description", .value ((p.description.map Description.value).getD .none)),
  ("short_names", .value (.tuple (p.shorts.map fun c => .text (String.ofList [c]))))]

end Parameter

/-- A change to an attribute. -/
inductive AttributeEdit where
  | assign (name : String) (content : Content)
  | remove (name : String)

/-- The attribute that a change is about. -/
def AttributeEdit.name : AttributeEdit → String
  | assign name _ => name
  | remove name => name

/-- A member of a family. -/
structure Member where
  family : Family
  /-- The slots that are filled, by their names. -/
  slots : List (String × Content)
  /-- The attributes that were added. -/
  added : List (String × Content)

namespace Member

/-- Attributes of every object. -/
def objectAttributes : List String := [
  "__class__", "__delattr__", "__dir__", "__doc__", "__eq__", "__format__", "__ge__",
  "__getattribute__", "__getstate__", "__gt__", "__hash__", "__init__", "__init_subclass__",
  "__le__", "__lt__", "__ne__", "__new__", "__reduce__", "__reduce_ex__", "__repr__",
  "__setattr__", "__sizeof__", "__str__", "__subclasshook__"]

/-- Attributes that the base family defines beside the fields and the label. -/
def familyAttributes : List String := [
  "__copy__", "__deepcopy__", "__introspectable__", "__module__", "__rich_repr__", "__slots__",
  "__typename__"]

/-- Attributes that a derived family adds: room for new ones, and its choice of shown fields. -/
def derivedAttributes : Family → List String
  | .base => []
  | .derived _ none => ["__dict__", "__weakref__"]
  | .derived _ (some _) => ["__dict__", "__weakref__", "__displayable__"]

/-- The attributes that members have from their family. -/
def sharedAttributes (family : Family) : List String :=
  familyAttributes ++ objectAttributes ++ derivedAttributes family

/-- The slot that is read under a name: a field is read from the slot behind it. -/
def slotBehind? (name : String) : Option String :=
  if name ∈ Parameter.fieldNames then some ("_" ++ name)
  else if name ∈ Parameter.storedNames then some name
  else none

/-- The label of a member, read off from its slots: the first long name, else the first short one,
else the position. -/
def label? (m : Member) : Option String := do
  let longs ← m.slots.lookup "_names"
  match longs.firstText? with
  | some name => some ("--" ++ name)
  | none =>
    let shorts ← m.slots.lookup "_short_names"
    match shorts.firstText? with
    | some name => some ("-" ++ name)
    | none =>
      let position ← m.slots.lookup "_position"
      position.integerText?.map fun text => "<positional " ++ text ++ ">"

/-- What a named attribute of a member holds, if the member has it. An added attribute never has the
name of a shared one. -/
def read? (m : Member) (name : String) : Option Content :=
  if name = "label" then m.label?.map fun label => .value (.text label)
  else
    match slotBehind? name with
    | some slot => m.slots.lookup slot
    | none => if name ∈ sharedAttributes m.family then some .shared else m.added.lookup name

/-- The error of changing an attribute that stays as it is. -/
def readOnly (m : Member) (name : String) : AttributeError :=
  .readOnly m.family.typeName name

/-- Stores an attribute wherever the family has a place for it: a slot takes it, what is read off from
slots takes nothing, and only the members of derived families have room for more. -/
def store (m : Member) (name : String) (content : Content) : Except AttributeError Member :=
  if name ∈ Parameter.storedNames then .ok { m with slots := (name, content) :: m.slots }
  else if name = "label" ∨ name ∈ Parameter.fieldNames then .error (.noSetter m.family.name name)
  else
    match m.family with
    | .base => .error (.absent m.family.name name)
    | .derived _ _ => .ok { m with added := (name, content) :: m.added }

/-- Makes one change: an attribute that can be read is not stored again. -/
def edit (m : Member) : AttributeEdit → Except AttributeError Member
  | .remove name => .error (m.readOnly name)
  | .assign name content =>
    if (m.read? name).isSome then .error (m.readOnly name) else m.store name content

/-- A member without fields. -/
def blank (family : Family) : Member :=
  ⟨family, [], []⟩

/-- Stores fields one after another. -/
def fill (m : Member) (fields : List (String × Content)) : Except AttributeError Member :=
  fields.foldlM (fun m field => m.edit (.assign ("_" ++ field.1) field.2)) m

/-- Declares a parameter as a member of a family. -/
def declare (family : Family) (p : Parameter) : Except AttributeError Member :=
  (blank family).fill p.contents

/-- The member after a change; a refused change leaves it as it was. -/
def after (m : Member) (change : AttributeEdit) : Member :=
  match m.edit change with
  | .ok m => m
  | .error _ => m

/-- The member after a sequence of changes. -/
def run (m : Member) (changes : List AttributeEdit) : Member :=
  changes.foldl after m

/-- The refusals of a sequence of changes, one entry a change. -/
def editAll (m : Member) : List AttributeEdit → List (Option AttributeError)
  | [] => []
  | change :: rest =>
    (match m.edit change with
      | .ok _ => none
      | .error e => some e) :: (m.after change).editAll rest

end Member

end CommandLine
