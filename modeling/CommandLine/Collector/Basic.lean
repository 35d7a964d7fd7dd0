import CommandLine.Converter.Basic
import CommandLine.Event
import CommandLine.Outcome

namespace CommandLine

/-- A fault with the number that it was recorded under. -/
structure RecordedFault where
  ticket : Nat
  fault : Fault
  deriving DecidableEq

/-- The state of a parse. -/
structure Collector where
  schema : Schema
  /-- Matched parameters, in the order of their first match. -/
  entries : List Entry
  leftovers : List Word
  /-- The faults that stand. -/
  recorded : List RecordedFault
  /-- How many faults were ever recorded. -/
  issued : Nat
  /-- The requests made of the converter so far. -/
  requests : List Request
  journal : List Event

/-- The refusal to match a parameter a second time. -/
structure AlreadyMatched where
  parameter : Parameter

/-- The wording of the refusal. -/
def AlreadyMatched.message (e : AlreadyMatched) : String :=
  (Event.refused e.parameter).message

namespace Collector

/-- The collector that a parse starts with. -/
def new (schema : Schema) : Collector :=
  ⟨schema, [], [], [], 0, [], []⟩

/-- Writes an event into the journal. -/
def note (c : Collector) (event : Event) : Collector :=
  { c with journal := c.journal ++ [event] }

/-- Whether a parameter is entered. -/
def matched (c : Collector) (p : Parameter) : Bool :=
  c.entries.any (·.parameter = p)

/-- Enters a parameter at the end; none when it is there already. -/
def match? (c : Collector) (p : Parameter) (value : Value) : Except AlreadyMatched Collector :=
  if c.matched p then .error ⟨p⟩
  else .ok (note { c with entries := c.entries ++ [⟨p, value⟩] } (.matched p value))

/-- Enters a parameter, or notes in the journal that it could not be entered again. -/
def enter (c : Collector) (p : Parameter) (value : Value) : Collector :=
  match c.match? p value with
  | .ok c => c
  | .error _ => c.note (.refused p)

/-- Makes the value of a parameter absent; its entry stays in its place. A parameter that is not
entered yet is entered. -/
def nullify (c : Collector) (p : Parameter) : Collector :=
  if c.matched p then
    { c with entries := c.entries.map fun entry =>
        if entry.parameter = p then ⟨p, .none⟩ else entry }
  else { c with entries := c.entries ++ [⟨p, .none⟩] }

/-- Adds a leftover at the end. -/
def leave (c : Collector) (w : Word) : Collector :=
  { c with leftovers := c.leftovers ++ [w] }

/-- Adds leftovers at the end. -/
def leaveAll (c : Collector) (words : List Word) : Collector :=
  { c with leftovers := c.leftovers ++ words }

/-- Records a fault under the next ticket. -/
def record (c : Collector) (fault : Fault) : Collector × RecordedFault :=
  (note { c with recorded := c.recorded ++ [⟨c.issued, fault⟩], issued := c.issued + 1 }
    (.recorded fault), ⟨c.issued, fault⟩)

/-- Withdraws the fault of a ticket; the others keep their order. -/
def withdraw (c : Collector) (r : RecordedFault) : Collector :=
  note { c with recorded := c.recorded.filter (·.ticket ≠ r.ticket) } (.withdrew r.fault)

/-- The fault of an undeclared flag, with the declared long spellings that are close to it. -/
def unrecognisedFault (c : Collector) (w : Word) : Fault :=
  .unrecognised w (suggestions w.text c.schema.longSpellings)

/-- The standing faults in the order in which they were recorded. -/
def faults (c : Collector) : List Fault :=
  c.recorded.map RecordedFault.fault

/-- The outcome that a collector has come to. -/
def freeze (c : Collector) : Outcome where
  results := c.entries
  positional := c.leftovers.map Word.text
  faults := c.faults

theorem leaveAll_cons (c : Collector) (w : Word) (rest : List Word) :
    c.leaveAll (w :: rest) = (c.leave w).leaveAll rest := by
  simp [leaveAll, leave]

end Collector

end CommandLine
