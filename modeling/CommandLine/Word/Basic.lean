import CommandLine.Schema

namespace CommandLine

open Text

/-- A text of the command line with its place, counted from zero. -/
structure Word where
  text : String
  index : Nat
  deriving DecidableEq, Repr

namespace Word

/-- The words of a list of texts, the first one standing at the given place. -/
def ofTexts (first : Nat) (texts : List String) : List Word :=
  (texts.zipIdx first).map fun entry => ⟨entry.1, entry.2⟩

/-- The place of a word as messages give it, counted from one. -/
def place (w : Word) : Nat :=
  w.index + 1

theorem map_text_ofTexts (first : Nat) (texts : List String) :
    (ofTexts first texts).map Word.text = texts := by
  induction texts generalizing first with
  | nil => rfl
  | cons text rest ih => simpa [ofTexts] using ih (first + 1)

/-- What the words of texts say by their texts alone, the texts say. -/
theorem forall_mem_ofTexts_iff (first : Nat) {texts : List String} {holds : String → Prop} :
    (∀ w ∈ ofTexts first texts, holds w.text) ↔ ∀ text ∈ texts, holds text := by
  have hmap := List.forall_mem_map (f := Word.text) (l := ofTexts first texts) (P := holds)
  rw [map_text_ofTexts] at hmap
  exact hmap.symm

theorem ofTexts_append (first : Nat) (texts rest : List String) :
    ofTexts first (texts ++ rest) = ofTexts first texts ++ ofTexts (first + texts.length) rest := by
  simp [ofTexts, List.zipIdx_append]

end Word

/-- How a schema reads a word. -/
inductive Reading where
  /-- A declared long name. -/
  | long (p : Parameter)
  /-- A group of declared short names; the parameters stand in the order of their characters. -/
  | group (parameters : List Parameter)
  /-- A long spelling that is not declared. -/
  | unrecognised
  /-- A value. -/
  | literal
  deriving DecidableEq

namespace Reading

/-- The name of a reading. -/
def name : Reading → String
  | long _ => "long-flag"
  | group _ => "short-group"
  | unrecognised => "unrecognised"
  | literal => "literal"

/-- The parameters that a word spells. -/
def parameters : Reading → List Parameter
  | long p => [p]
  | group ps => ps
  | _ => []

/-- Flags end the run of literals before them. -/
def isFlag : Reading → Bool
  | literal => false
  | _ => true

end Reading

/-- Whether a text without its leading hyphen starts a number: a decimal digit, after at most one
point. -/
def startsNumber : List Char → Bool
  | '.' :: c :: _ => isDecimal c
  | c :: _ => isDecimal c
  | [] => false

namespace Schema

/-- The reading of a text as a word. -/
def read (s : Schema) (text : String) : Reading :=
  match text.toList with
  | '-' :: '-' :: c :: rest =>
    match s.long? (String.ofList (c :: rest)) with
    | some p => .long p
    | none => .unrecognised
  | ['-', '-'] => .literal
  | '-' :: c :: rest =>
    if startsNumber (c :: rest) then .literal
    else
      match s.shorts? (c :: rest) with
      | some ps => .group ps
      | none => .literal
  | _ => .literal

/-- The literals at the front of a list of words. -/
def leadingLiterals (s : Schema) (words : List Word) : List Word :=
  words.takeWhile fun w => !(s.read w.text).isFlag

end Schema

end CommandLine
