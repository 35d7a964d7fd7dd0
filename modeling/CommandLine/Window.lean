import CommandLine.Converter.Standard
import CommandLine.Word.Basic

namespace CommandLine

/-- Bounds on the number of tokens; no maximum means no bound. -/
structure Window where
  minimum : Nat
  maximum : Option Nat
  /-- Whether the bounds were declared. -/
  explicit : Bool
  deriving DecidableEq, Repr

/-- Cuts a list to the maximum of a window. -/
def Window.cut (window : Window) (words : List Word) : List Word :=
  match window.maximum with
  | some bound => words.take bound
  | none => words

/-- Whether a number of tokens lies in a window. -/
def Window.Admits (window : Window) (n : Nat) : Prop :=
  window.minimum ≤ n ∧ ∀ bound, window.maximum = some bound → n ≤ bound

namespace Parameter

/-- The window of a parameter: its arity, or what its type implies. -/
def window (p : Parameter) : Window :=
  match p.arity with
  | some arity => ⟨arity.minimum, arity.maximum, true⟩
  | none => ⟨0, if p.type.isCollection then none else some 1, false⟩

/-- The leading words of a run that a parameter may take. -/
def eligible (p : Parameter) (run : List Word) : List Word :=
  if p.isBoolean then run.takeWhile fun w => isBooleanLiteral w.text else run

/-- The words of a run that a parameter takes. -/
def take (p : Parameter) (run : List Word) : List Word :=
  p.window.cut (p.eligible run)

end Parameter

theorem Window.cut_prefix (window : Window) (words : List Word) : window.cut words <+: words := by
  unfold cut
  split
  · exact List.take_prefix _ _
  · exact List.prefix_rfl

theorem Parameter.eligible_prefix (p : Parameter) (run : List Word) : p.eligible run <+: run := by
  unfold eligible
  split
  · exact List.takeWhile_prefix _
  · exact List.prefix_rfl

/-- What a parameter takes is the front of the run. -/
theorem Parameter.take_prefix (p : Parameter) (run : List Word) : p.take run <+: run :=
  (p.window.cut_prefix _).trans (p.eligible_prefix run)

end CommandLine
