import CommandLine.Annotation.Describe
import CommandLine.Failure
import CommandLine.Parameter.Basic

namespace CommandLine

open Text

/-- The fields of a parameter as they were given; `none` stands for a field that was not. -/
structure Declaration where
  names : List Value
  type : Annotation
  required : Option Value
  fallback : Option Value
  position : Option Value
  arity : Option Value
  description : Option Value

/-- Why a declaration is refused. -/
inductive DeclarationError where
  | nameNotText
  | nameEmpty
  | nameMalformed (name : String)
  | nameRepeated
  | typeUnknown (cause : Annotation.DescribeError)
  | requiredNotBoolean
  | fallbackNotText
  | positionNotInteger
  | positionNegative
  | arityNotPair
  | arityBoundNotInteger
  | arityBoundNegative
  | arityReversed
  | descriptionNotText
  | descriptionEmpty
  /-- There is neither a name nor a position. -/
  | unreachable

namespace DeclarationError

/-- The wording of a refusal; `subject` is the type name of what was declared. -/
def message (subject : String) : DeclarationError → String
  | nameNotText => subject ++ " names must be strings"
  | nameEmpty => subject ++ " names cannot be empty-strings"
  | nameMalformed name =>
    subject ++ " name " ++ quoted name ++ " must be a long (--name) or short (-c) option spelling"
  | nameRepeated => subject ++ " names cannot contain duplicates"
  | typeUnknown cause => cause.message
  | requiredNotBoolean => subject ++ " 'required' must be a boolean"
  | fallbackNotText => subject ++ " 'default' must be a raw string"
  | positionNotInteger => subject ++ " 'position' must be an integer"
  | positionNegative => subject ++ " 'position' must be a non-negative integer"
  | arityNotPair => subject ++ " 'arity' must be a (min, max) pair"
  | arityBoundNotInteger => subject ++ " 'arity' bounds must be integers"
  | arityBoundNegative => subject ++ " 'arity' bounds must be non-negative"
  | arityReversed => subject ++ " 'arity' minimum cannot exceed its maximum"
  | descriptionNotText => subject ++ " 'description' must be a string"
  | descriptionEmpty => subject ++ " 'description' cannot be empty"
  | unreachable => subject ++ " without names must declare a position"

/-- Whether a field was of the wrong type or had a malformed value. -/
def category : DeclarationError → Failure.Category
  | nameEmpty | nameMalformed _ | nameRepeated | positionNegative | arityBoundNegative
  | arityReversed | descriptionEmpty => .value
  | _ => .type

/-- A refusal as a failure. -/
def failure (subject : String) (e : DeclarationError) : Failure :=
  ⟨e.category, e.message subject⟩

end DeclarationError

/-- The names of a parameter, long and short ones apart, each once. -/
structure NameSet where
  longs : List String
  shorts : List Char
  longs_valid : ∀ name ∈ longs, isLongName name.toList = true
  shorts_valid : ∀ name ∈ shorts, isLetter name = true
  longs_nodup : longs.Nodup
  shorts_nodup : shorts.Nodup

namespace NameSet

/-- No names. -/
def empty : NameSet :=
  ⟨[], [], by simp, by simp, by simp, by simp⟩

/-- Adds a long name at the end. -/
def addLong (names : NameSet) (name : String) (hvalid : isLongName name.toList = true)
    (hnew : name ∉ names.longs) : NameSet where
  longs := names.longs ++ [name]
  shorts := names.shorts
  longs_valid := by
    intro n hn
    rcases List.mem_append.mp hn with hn | hn
    · exact names.longs_valid n hn
    · rw [List.mem_singleton.mp hn]
      exact hvalid
  shorts_valid := names.shorts_valid
  longs_nodup := List.nodup_append.mpr ⟨names.longs_nodup, by simp, by
    rintro a ha b hb rfl
    rw [List.mem_singleton.mp hb] at ha
    exact hnew ha⟩
  shorts_nodup := names.shorts_nodup

/-- Adds a short name at the end. -/
def addShort (names : NameSet) (name : Char) (hvalid : isLetter name = true)
    (hnew : name ∉ names.shorts) : NameSet where
  longs := names.longs
  shorts := names.shorts ++ [name]
  longs_valid := names.longs_valid
  shorts_valid := by
    intro n hn
    rcases List.mem_append.mp hn with hn | hn
    · exact names.shorts_valid n hn
    · rw [List.mem_singleton.mp hn]
      exact hvalid
  longs_nodup := names.longs_nodup
  shorts_nodup := List.nodup_append.mpr ⟨names.shorts_nodup, by simp, by
    rintro a ha b hb rfl
    rw [List.mem_singleton.mp hb] at ha
    exact hnew ha⟩

/-- Adds a spelling; none when its name is there already. -/
def add? (names : NameSet) (spelling : Spelling) (hvalid : spelling.Valid) : Option NameSet :=
  match spelling, hvalid with
  | .long name, hvalid =>
    if hnew : name ∉ names.longs then some (names.addLong name hvalid hnew) else none
  | .short name, hvalid =>
    if hnew : name ∉ names.shorts then some (names.addShort name hvalid hnew) else none

/-- Adds a name as it was given. -/
def addGiven (names : NameSet) : Value → Except DeclarationError NameSet
  | .text given =>
    let name := strip given
    if name = "" then .error .nameEmpty
    else
      match h : Spelling.ofText? name with
      | none => .error (.nameMalformed name)
      | some spelling =>
        match names.add? spelling (Spelling.valid_of_ofText? h) with
        | none => .error .nameRepeated
        | some names => .ok names
  | _ => .error .nameNotText

/-- Adds names as they were given, in order. -/
def addAllGiven (names : NameSet) : List Value → Except DeclarationError NameSet
  | [] => .ok names
  | given :: rest => do
    let names ← names.addGiven given
    names.addAllGiven rest

end NameSet

namespace Declaration

/-- Reads a flag, which is false when it is not given. -/
def readRequired : Option Value → Except DeclarationError Bool
  | none => .ok false
  | some (.bool b) => .ok b
  | some _ => .error .requiredNotBoolean

/-- Reads a fallback. -/
def readFallback : Option Value → Except DeclarationError (Option String)
  | none => .ok none
  | some (.text s) => .ok (some s)
  | some _ => .error .fallbackNotText

/-- Reads a position. -/
def readPosition : Option Value → Except DeclarationError (Option Nat)
  | none => .ok none
  | some (.int n) => if n < 0 then .error .positionNegative else .ok (some n.toNat)
  | some _ => .error .positionNotInteger

/-- The members of a value that can stand for a pair: not of a text, nor of a set. -/
def pairMembers? : Value → Option (List Value)
  | .text _ => none
  | .set _ => none
  | value => value.members?

/-- Reads a bound of an arity. -/
def readBound : Value → Except DeclarationError Nat
  | .int n => if n < 0 then .error .arityBoundNegative else .ok n.toNat
  | _ => .error .arityBoundNotInteger

/-- Reads an upper bound of an arity, which may be absent. -/
def readUpperBound : Value → Except DeclarationError (Option Nat)
  | .none => .ok none
  | bound => some <$> readBound bound

/-- Puts two bounds into an arity. -/
def arityOf (minimum : Nat) (maximum : Option Nat) : Except DeclarationError Arity :=
  if h : ∀ bound, maximum = some bound → minimum ≤ bound then .ok ⟨minimum, maximum, h⟩
  else .error .arityReversed

/-- Reads an arity: two members, the first a bound and the second a bound or nothing. -/
def readArity : Option Value → Except DeclarationError (Option Arity)
  | none => .ok none
  | some value =>
    match pairMembers? value with
    | some [minimum, maximum] => do
      let minimum ← readBound minimum
      let maximum ← readUpperBound maximum
      some <$> arityOf minimum maximum
    | _ => .error .arityNotPair

/-- Reads a description; plain text is trimmed and may not be blank. -/
def readDescription : Option Value → Except DeclarationError (Option Description)
  | none => .ok none
  | some (.styled t) => .ok (some (.styled t))
  | some (.text s) =>
    if strip s = "" then .error .descriptionEmpty else .ok (some (.plain (strip s)))
  | some _ => .error .descriptionNotText

/-- Accepts a declaration as the parameter of a key, or names the first thing wrong with it. -/
def accept (key : Nat) (d : Declaration) : Except DeclarationError Parameter := do
  let names ← NameSet.empty.addAllGiven d.names
  let type ← d.type.describe.mapError .typeUnknown
  let required ← readRequired d.required
  let fallback ← readFallback d.fallback
  let position ← readPosition d.position
  let arity ← readArity d.arity
  let description ← readDescription d.description
  if h : names.longs ≠ [] ∨ names.shorts ≠ [] ∨ position ≠ none then
    .ok {
      key, type, required, fallback, position, arity, description
      longs := names.longs
      shorts := names.shorts
      longs_valid := names.longs_valid
      shorts_valid := names.shorts_valid
      longs_nodup := names.longs_nodup
      shorts_nodup := names.shorts_nodup
      named_or_placed := h }
  else .error .unreachable

end Declaration

end CommandLine
