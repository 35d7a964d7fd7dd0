import CommandLine.Fault.Basic

namespace CommandLine

/-- A matched parameter with its value; the value is absent when the match could not be resolved. -/
structure Entry where
  parameter : Parameter
  value : Value

/-- What a look-up goes by. -/
inductive LookupKey where
  /-- A parameter itself. -/
  | parameter (p : Parameter)
  /-- A name, with or without hyphens in front. -/
  | spelling (text : String)

/-- The outcome of a parse. -/
structure Outcome where
  /-- Parameters in the order in which they were matched. -/
  results : List Entry
  /-- Literals that no flag took, in their order on the command line. -/
  positional : List String
  /-- Faults in the order in which they were found. -/
  faults : List Fault

namespace Outcome

/-- Whether the parse found no fault. -/
def isOk (o : Outcome) : Bool :=
  o.faults.isEmpty

/-- Whether a parameter answers to a name without hyphens, long or short. -/
def answersTo (p : Parameter) (name : String) : Bool :=
  p.longs.contains name || p.shorts.any fun c => String.ofList [c] == name

/-- Whether an entry is meant by a key. -/
def isMeant (key : LookupKey) (entry : Entry) : Bool :=
  match key with
  | .parameter p => entry.parameter = p
  | .spelling text => answersTo entry.parameter (Text.stripLeading '-' text)

/-- The value of the first result that a key means. -/
def get? (o : Outcome) (key : LookupKey) : Option Value :=
  (o.results.find? (isMeant key)).map Entry.value

/-- The value of the first result that a key means, or a value for the case that there is none. -/
def get (o : Outcome) (key : LookupKey) (absent : Value) : Value :=
  (o.get? key).getD absent

/-- Whether two lists are equal place by place under an equality of their items. -/
def sameAll {α : Type} (same : α → α → Bool) : List α → List α → Bool
  | [], [] => true
  | x :: xs, y :: ys => same x y && sameAll same xs ys
  | _, _ => false

/-- Whether two results are for one parameter and have equal values. -/
def sameEntry (a b : Entry) : Bool :=
  a.parameter = b.parameter && a.value.same b.value

/-- Equality of the results of two outcomes that come from parses of their own. -/
def sameResults (a b : Outcome) : Bool :=
  sameAll sameEntry a.results b.results

/-- Equality of two outcomes that come from parses of their own. -/
def same (a b : Outcome) : Bool :=
  a.sameResults b && a.positional == b.positional && sameAll Fault.same a.faults b.faults

end Outcome

end CommandLine
