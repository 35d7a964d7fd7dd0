import CommandLine.Collector.Basic
import CommandLine.Window

namespace CommandLine

/-- What became of a matched parameter. -/
structure Resolution where
  parameter : Parameter
  /-- The words it took, the front of the run. -/
  taken : List Word
  value : Value
  /-- The eligible words beyond a declared maximum, which it left. -/
  surplus : List Word
  /-- The fault of the surplus; it is withdrawn when positions claim all of the surplus. -/
  pending : Option RecordedFault

/-- The refusal to resolve a group of no parameters. -/
structure EmptyGroup where

/-- The wording of the refusal. -/
def EmptyGroup.message (_ : EmptyGroup) : String :=
  "not enough values to unpack (expected at least 1, got 0)"

namespace Collector

/-- Asks a converter for the value of raw tokens. A refusal is recorded as a fault, and the value is
then absent. -/
def convert (converter : Converter) (p : Parameter) (anchor : Option Word) (raw : List String)
    (c : Collector) : Collector × Value :=
  let request : Request := ⟨raw, .descriptor p.type⟩
  let asked := { c with requests := c.requests ++ [request] }
  match converter.convert c.requests request with
  | .ok value => (asked, value)
  | .error failure => ((asked.record (.conversion p anchor raw failure)).1, .none)

/-- The text that a boolean flag without a literal stands for. -/
def impliedLiteral : String := "true"

/-- Converts the words that a parameter took. Without any, a boolean flag converts the literal that
it implies, and everything else has no value. -/
def convertTaken (converter : Converter) (p : Parameter) (anchor : Word) (taken : List Word)
    (c : Collector) : Collector × Value :=
  if !taken.isEmpty then c.convert converter p (some anchor) (taken.map Word.text)
  else if p.isBoolean then c.convert converter p (some anchor) [impliedLiteral]
  else (c, .none)

/-- The eligible words beyond the maximum; only a flag with a declared arity has a surplus. -/
def surplusOf (p : Parameter) (run : List Word) (positional : Bool) : List Word :=
  if p.window.explicit && !positional then (p.eligible run).drop (p.take run).length else []

/-- Records the fault of a surplus, which waits for the positions to be bound. -/
def recordSurplus (p : Parameter) (anchor : Word) (taken surplus : List Word) (c : Collector) :
    Collector × Option RecordedFault :=
  match p.window.maximum, surplus with
  | some maximum, _ :: _ =>
    let (c, r) := c.record (.tooMany p anchor taken surplus maximum)
    (c.note (.overflowed p surplus.length), some r)
  | _, _ => (c, none)

/-- Resolves a parameter against a run of literals; `positional` tells leftovers from the literals
after a flag. -/
def resolve (converter : Converter) (p : Parameter) (anchor : Word) (run : List Word)
    (positional : Bool) (c : Collector) : Collector × Resolution :=
  let taken := p.take run
  if taken.length < p.window.minimum then
    ((c.record (.notEnough p anchor taken p.window.minimum positional)).1,
      ⟨p, taken, .none, [], none⟩)
  else
    let surplus := surplusOf p run positional
    let (c, value) := c.convertTaken converter p anchor taken
    let (c, pending) := c.recordSurplus p anchor taken surplus
    (c, ⟨p, taken, value, surplus, pending⟩)

/-- Resolves parameters in order: the last one against the run, the others against nothing. -/
def resolveEach (converter : Converter) (anchor : Word) (run : List Word) :
    List Parameter → Collector → Collector × List Resolution
  | [], c => (c, [])
  | [p], c =>
    let (c, r) := c.resolve converter p anchor run false
    (c, [r])
  | p :: rest, c =>
    let (c, r) := c.resolve converter p anchor [] false
    let (c, rs) := resolveEach converter anchor run rest c
    (c, r :: rs)

/-- Gives one boolean literal to every parameter of a group. -/
def broadcast (converter : Converter) (anchor literal : Word) :
    List Parameter → Collector → Collector × List Resolution
  | [], c => (c, [])
  | p :: rest, c =>
    let (c, value) := c.convert converter p (some anchor) [literal.text]
    let (c, rs) := broadcast converter anchor literal rest c
    (c, ⟨p, [literal], value, [], none⟩ :: rs)

/-- The literal that goes to all parameters of a group: the first of the run, if it spells a boolean
and the group is two or more boolean flags. -/
def broadcastLiteral? (parameters : List Parameter) (run : List Word) : Option Word :=
  if 1 < parameters.length && parameters.all Parameter.isBoolean then
    run.head?.filter fun w => isBooleanLiteral w.text
  else none

/-- Resolves the parameters of one flag against the literals after it; a flag has one at least. -/
def resolveGroup (converter : Converter) (parameters : List Parameter) (anchor : Word)
    (run : List Word) (c : Collector) : Collector × List Resolution :=
  match broadcastLiteral? parameters run with
  | some literal =>
    (c.note (.broadcast literal.text anchor.text)).broadcast converter anchor literal parameters
  | none => c.resolveEach converter anchor run parameters

/-- Resolves a group that may be empty; an empty one is refused. -/
def resolveGroup? (converter : Converter) (parameters : List Parameter) (anchor : Word)
    (run : List Word) (c : Collector) : Except EmptyGroup (Collector × List Resolution) :=
  if parameters.isEmpty then .error {} else .ok (c.resolveGroup converter parameters anchor run)

theorem resolveGroup?_eq_ok {parameters : List Parameter} (hparameters : parameters ≠ [])
    (converter : Converter) (anchor : Word) (run : List Word) (c : Collector) :
    c.resolveGroup? converter parameters anchor run =
      .ok (c.resolveGroup converter parameters anchor run) := by
  simp [resolveGroup?, hparameters]

end Collector

end CommandLine
