import CommandLine.Descriptor
import CommandLine.Parameter.Spelling
import CommandLine.Text.Styled

namespace CommandLine

open Text

/-- The least and the greatest number of tokens that a parameter takes; no greatest number means no
bound. -/
structure Arity where
  minimum : Nat
  maximum : Option Nat
  ordered : ∀ bound, maximum = some bound → minimum ≤ bound
  deriving DecidableEq

/-- The documentation of a parameter. -/
inductive Description where
  | plain (text : String)
  | styled (t : StyledText)
  deriving DecidableEq, Repr

/-- A parameter of a command. Two declarations with the same fields are told apart by their keys. -/
structure Parameter where
  key : Nat
  /-- Long names, the canonical one first. -/
  longs : List String
  /-- Short names, the canonical one first. -/
  shorts : List Char
  type : Descriptor
  /-- Whether its absence is a fault. -/
  required : Bool
  /-- The raw text that is converted when it is absent. -/
  fallback : Option String
  /-- Its rank among the parameters that take leftovers. -/
  position : Option Nat
  arity : Option Arity
  description : Option Description
  longs_valid : ∀ name ∈ longs, isLongName name.toList = true
  shorts_valid : ∀ name ∈ shorts, isLetter name = true
  longs_nodup : longs.Nodup
  shorts_nodup : shorts.Nodup
  named_or_placed : longs ≠ [] ∨ shorts ≠ [] ∨ position ≠ none
  deriving DecidableEq

namespace Parameter

/-- The spellings of a parameter. -/
def spellings (p : Parameter) : List Spelling :=
  p.longs.map .long ++ p.shorts.map .short

/-- Whether the parameter is a boolean flag. -/
def isBoolean (p : Parameter) : Bool :=
  p.type.isBoolean

/-- The position as it is written; a parameter without a label of its own always has one. -/
def positionText (p : Parameter) : String :=
  toString (p.position.getD 0)

/-- The canonical spelling: the first long name, else the first short one. -/
def canonical? (p : Parameter) : Option Spelling :=
  p.spellings.head?

/-- How messages call the parameter: by its canonical spelling, else by its position. -/
def label (p : Parameter) : String :=
  match p.canonical? with
  | some spelling => spelling.text
  | none => "<positional " ++ p.positionText ++ ">"

/-- The parameter in the middle of a message. -/
def mention (p : Parameter) : String :=
  match p.canonical? with
  | some _ => "option " ++ quoted p.label
  | none => "positional option at slot " ++ p.positionText

/-- What to type to give the parameter. -/
def route (p : Parameter) : String :=
  match p.canonical? with
  | some _ => p.label
  | none => "a value at positional slot " ++ p.positionText

/-- The raw texts that the fallback is converted from: collections split it at commas. -/
def fallbackTokens (p : Parameter) (fallback : String) : List String :=
  if p.type.isCollection then (fallback.toList.splitOn ',').map String.ofList else [fallback]

theorem fallbackTokens_ne_nil (p : Parameter) (fallback : String) :
    p.fallbackTokens fallback ≠ [] := by
  unfold fallbackTokens
  split
  · simp [List.splitOn_ne_nil]
  · exact List.cons_ne_nil _ _

theorem canonical?_eq_none_iff (p : Parameter) :
    p.canonical? = none ↔ p.longs = [] ∧ p.shorts = [] := by
  simp [canonical?, spellings]

theorem position_ne_none_of_canonical? {p : Parameter} (h : p.canonical? = none) :
    p.position ≠ none := by
  obtain ⟨hlongs, hshorts⟩ := p.canonical?_eq_none_iff.mp h
  obtain h' | h' | h' := p.named_or_placed
  · exact absurd hlongs h'
  · exact absurd hshorts h'
  · exact h'

end Parameter

end CommandLine
