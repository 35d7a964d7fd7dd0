import CommandLine.Numeral.Binary64
import CommandLine.Text.Styled

namespace CommandLine

open Numeral

/-- A dynamic value. -/
inductive Value where
  | none
  | bool (b : Bool)
  | int (n : Int)
  | float (x : Binary64)
  | text (s : String)
  | list (items : List Value)
  | tuple (items : List Value)
  | record (fields : List (String × Value))
  | set (items : List Value)
  | styled (t : StyledText)
  deriving Inhabited

namespace Value

/-- The name of a value's type in error texts. -/
def typeName : Value → String
  | none => "NoneType"
  | bool _ => "bool"
  | int _ => "int"
  | float _ => "float"
  | text _ => "str"
  | list _ => "list"
  | tuple _ => "tuple"
  | record _ => "dict"
  | set _ => "set"
  | styled _ => "Text"

/-- The numeric value of a boolean. -/
def ofBool (b : Bool) : Int :=
  if b then 1 else 0

/-- The number that a boolean or integer counts as. -/
def integer? : Value → Option Int
  | bool b => some (ofBool b)
  | int n => some n
  | _ => Option.none

/-- Zero, the absent value and everything empty count as false. -/
def truthy : Value → Bool
  | none => false
  | bool b => b
  | int n => n != 0
  | float x => !x.isZero
  | text s => s != ""
  | list items => !items.isEmpty
  | tuple items => !items.isEmpty
  | record fields => !fields.isEmpty
  | set items => !items.isEmpty
  | styled t => t.text != ""

/-- Equality of numbers, a boolean counting as zero or one; false when one side is no number. -/
def sameNumber (a b : Value) : Bool :=
  match a, b with
  | float x, float y => x.equal y
  | float x, _ => b.integer?.any x.equalsInt
  | _, float y => a.integer?.any y.equalsInt
  | _, _ => a.integer?.isSome && a.integer? == b.integer?

mutual

/-- Equality of values: numbers by what they count, texts and sequences by their parts, records and
sets whatever the order of their entries, styled texts whatever their base styles. Not-a-number
differs from itself. -/
def same : Value → Value → Bool
  | none, none => true
  | text s, text t => s == t
  | list xs, list ys => sameItems xs ys
  | tuple xs, tuple ys => sameItems xs ys
  | record xs, record ys => xs.length == ys.length && sameFields xs ys
  | set xs, set ys => xs.length == ys.length && sameMembers xs ys
  | styled s, styled t => s.text == t.text && s.spans == t.spans
  | bool b, v => sameNumber (bool b) v
  | int n, v => sameNumber (int n) v
  | float x, v => sameNumber (float x) v
  | _, _ => false
termination_by structural x => x

/-- Whether two sequences are equal place by place. -/
def sameItems : List Value → List Value → Bool
  | [], [] => true
  | x :: xs, y :: ys => same x y && sameItems xs ys
  | _, _ => false
termination_by structural x => x

/-- Whether every field of the first record has an equal one of its name in the second. -/
def sameFields : List (String × Value) → List (String × Value) → Bool
  | [], _ => true
  | (name, x) :: xs, ys => (ys.lookup name).any (same x ·) && sameFields xs ys
termination_by structural x => x

/-- Whether every member of the first list has an equal one in the second. -/
def sameMembers : List Value → List Value → Bool
  | [], _ => true
  | x :: xs, ys => ys.any (same x ·) && sameMembers xs ys
termination_by structural x => x

end

mutual

/-- Whether a value is or holds a not-a-number. -/
def hasNaN : Value → Bool
  | float .nan => true
  | list items => anyNaN items
  | tuple items => anyNaN items
  | record fields => anyFieldNaN fields
  | set items => anyNaN items
  | _ => false

/-- Whether one of the values is or holds a not-a-number. -/
def anyNaN : List Value → Bool
  | [] => false
  | x :: xs => hasNaN x || anyNaN xs

/-- Whether one of the fields is or holds a not-a-number. -/
def anyFieldNaN : List (String × Value) → Bool
  | [] => false
  | (_, x) :: xs => hasNaN x || anyFieldNaN xs

end

/-- The members of a value in order: a text has its characters, a record its names. -/
def members? : Value → Option (List Value)
  | text s => some (s.toList.map fun c => text (String.ofList [c]))
  | list items => some items
  | tuple items => some items
  | record fields => some (fields.map (text ·.1))
  | set items => some items
  | _ => Option.none

/-- The error of taking the members of a value that has none. -/
def noMembersMessage (v : Value) : String :=
  "'" ++ v.typeName ++ "' object is not iterable"

/-- Values that are kept once, however often they are read: the absent value, booleans, integers
from `-5` to `256`, and texts of at most one character below U+0100. -/
def isShared : Value → Bool
  | none => true
  | bool _ => true
  | int n => -5 ≤ n && n ≤ 256
  | text s => s.length ≤ 1 && s.toList.all (·.toNat < 0x100)
  | _ => false

/-- Whether two values that were read one after the other are one and the same object. -/
def identical : Value → Value → Bool
  | none, none => true
  | bool a, bool b => a == b
  | int m, int n => m == n && isShared (int m)
  | text s, text t => s == t && isShared (text s)
  | _, _ => false

end Value

end CommandLine
