import CommandLine.Text.Blank
import CommandLine.Text.Word

namespace CommandLine

open Text

/-- What may follow the first character of a long name: word characters, with a hyphen only between
two of them. -/
def isLongNameTail : List Char → Bool
  | [] => true
  | '-' :: c :: rest => isWord c && isLongNameTail rest
  | c :: rest => isWord c && isLongNameTail rest

/-- Whether a text is a long name. -/
def isLongName : List Char → Bool
  | [] => false
  | c :: rest => isLetter c && isLongNameTail rest

/-- A way to write a parameter on the command line. -/
inductive Spelling where
  | long (name : String)
  | short (name : Char)
  deriving DecidableEq, Repr

namespace Spelling

/-- A spelling as it is typed. -/
def text : Spelling → String
  | long name => "--" ++ name
  | short name => String.ofList ['-', name]

/-- The spelling that a text is, if it is one. -/
def ofText? (s : String) : Option Spelling :=
  match s.toList with
  | ['-', c] => if isLetter c then some (short c) else none
  | '-' :: '-' :: name => if isLongName name then some (long (String.ofList name)) else none
  | _ => none

/-- Whether the name obeys the rule of its form. -/
def Valid : Spelling → Prop
  | long name => isLongName name.toList = true
  | short name => isLetter name = true

theorem valid_of_ofText? {s : String} {spelling : Spelling} (h : ofText? s = some spelling) :
    spelling.Valid := by
  unfold ofText? at h
  split at h
  · split at h
    · next hletter =>
      cases h
      exact hletter
    · cases h
  · split at h
    · next hname =>
      cases h
      simpa [Valid] using hname
    · cases h
  · cases h

theorem text_of_ofText? {s : String} {spelling : Spelling} (h : ofText? s = some spelling) :
    spelling.text = s := by
  unfold ofText? at h
  split at h
  · next c hs =>
    split at h
    · cases h
      simp [text, ← hs]
    · cases h
  · next name hs =>
    split at h
    · cases h
      apply String.toList_inj.mp
      simp [text, hs]
    · cases h
  · cases h

end Spelling

end CommandLine
