import CommandLine.Annotation.Formation
import CommandLine.Interpreter.Expression

namespace CommandLine.Interpreter

/-- The integer that has the bits of either of two integers, negative ones having infinitely many. -/
def joinBits : Int → Int → Int
  | .ofNat m, .ofNat n => .ofNat (m ||| n)
  | .ofNat m, .negSucc n => .negSucc (n - (n &&& m))
  | .negSucc m, .ofNat n => .negSucc (m - (m &&& n))
  | .negSucc m, .negSucc n => .negSucc (m &&& n)

/-- Puts a field in the place of one of its name, else at the end. -/
def setField (name : String) (v : Value) : List (String × Value) → List (String × Value)
  | [] => [(name, v)]
  | field :: rest =>
    if field.1 = name then (name, v) :: rest else field :: setField name v rest

/-- What two values come to when they are joined: numbers are joined bit by bit, and of two fields of one
name the second counts. -/
def joined? : Value → Value → Option Value
  | .bool a, .bool b => some (.bool (a || b))
  | .record xs, .record ys =>
    some (.record (ys.foldl (fun fields y => setField y.1 y.2 fields) xs))
  | v, w =>
    match v.integer?, w.integer? with
    | some m, some n => some (.int (joinBits m n))
    | _, _ => none

/-- The interpreter that reads expressions by the grammar. -/
def standard : Interpreter :=
  ⟨readsExpression, joined?⟩

end CommandLine.Interpreter
