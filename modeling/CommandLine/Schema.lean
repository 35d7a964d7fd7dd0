import CommandLine.Parameter.Basic

namespace CommandLine

open Text

namespace Parameter

/-- Two parameters of one command share neither a name nor a position. -/
def Compatible (p q : Parameter) : Prop :=
  p ≠ q ∧ (∀ name ∈ p.longs, name ∉ q.longs) ∧ (∀ name ∈ p.shorts, name ∉ q.shorts) ∧
    (∀ n, p.position = some n → q.position ≠ some n)

end Parameter

/-- Why an object cannot be added to a schema. -/
inductive SchemaError where
  /-- It is no parameter; `typeName` is the name of its type. -/
  | notParameter (typeName : String)
  /-- The same parameter is there already. -/
  | repeated (p : Parameter)
  | longTaken (name : String)
  | shortTaken (name : Char)
  | positionTaken (position : Nat)

/-- The wording of a refusal. -/
def SchemaError.message : SchemaError → String
  | notParameter typeName => "schema entries must be options, not " ++ quoted typeName
  | repeated p => "option " ++ p.label ++ " is declared twice"
  | longTaken name => "long name '--" ++ name ++ "' is declared by more than one option"
  | shortTaken name =>
    "short name '-" ++ String.ofList [name] ++ "' is declared by more than one option"
  | positionTaken position => "position " ++ toString position ++ " is declared by more than one option"

/-- An object that is offered to a schema. -/
inductive SchemaEntry where
  | parameter (p : Parameter)
  /-- An object that is no parameter, by the name of its type. -/
  | other (typeName : String)

/-- The parameters of a command in the order of their declaration. -/
structure Schema where
  parameters : List Parameter
  compatible : parameters.Pairwise Parameter.Compatible

namespace Schema

/-- The schema without parameters. -/
def empty : Schema :=
  ⟨[], .nil⟩

/-- The parameter with a long name. -/
def long? (s : Schema) (name : String) : Option Parameter :=
  s.parameters.find? (name ∈ ·.longs)

/-- The parameter with a short name. -/
def short? (s : Schema) (name : Char) : Option Parameter :=
  s.parameters.find? (name ∈ ·.shorts)

/-- The parameter with a short name given as a text, which has to be one character. -/
def shortText? (s : Schema) (name : String) : Option Parameter :=
  match name.toList with
  | [c] => s.short? c
  | _ => none

/-- The parameters of a group of short names, if every one of them is declared. -/
def shorts? (s : Schema) (names : List Char) : Option (List Parameter) :=
  names.mapM s.short?

/-- The parameter at a position. -/
def at? (s : Schema) (position : Nat) : Option Parameter :=
  s.parameters.find? (·.position = some position)

/-- The parameters with a position, in the order of their positions. -/
def positionals (s : Schema) : List Parameter :=
  (s.parameters.filter (·.position.isSome)).mergeSort fun p q =>
    p.position.getD 0 ≤ q.position.getD 0

/-- The first thing in which a parameter conflicts with a schema: the parameter itself, then its
long names, its short names and its position. -/
def conflict? (s : Schema) (p : Parameter) : Option SchemaError :=
  if p ∈ s.parameters then some (.repeated p)
  else
    (((p.longs.find? fun name => (s.long? name).isSome).map .longTaken).or
      ((p.shorts.find? fun name => (s.short? name).isSome).map .shortTaken)).or
      ((p.position.filter fun position => (s.at? position).isSome).map .positionTaken)

theorem compatible_of_conflict? {s : Schema} {p : Parameter} (h : s.conflict? p = none) :
    ∀ q ∈ s.parameters, q.Compatible p := by
  unfold conflict? at h
  split at h
  · cases h
  · next hnew =>
    simp only [Option.or_eq_none_iff, Option.map_eq_none_iff, List.find?_eq_none,
      Option.filter_eq_none_iff] at h
    obtain ⟨⟨hlongs, hshorts⟩, hposition⟩ := h
    intro q hq
    refine ⟨fun heq => hnew (heq ▸ hq), ?_, ?_, ?_⟩
    · intro name hqname hpname
      apply hlongs name hpname
      simp only [long?, List.find?_isSome, decide_eq_true_eq]
      exact ⟨q, hq, hqname⟩
    · intro name hqname hpname
      apply hshorts name hpname
      simp only [short?, List.find?_isSome, decide_eq_true_eq]
      exact ⟨q, hq, hqname⟩
    · intro n hqn hpn
      apply hposition n hpn
      simp only [at?, List.find?_isSome, decide_eq_true_eq]
      exact ⟨q, hq, hqn⟩

/-- Adds an object at the end, or says why it cannot be added. -/
def add (s : Schema) : SchemaEntry → Except SchemaError Schema
  | .other typeName => .error (.notParameter typeName)
  | .parameter p =>
    match h : s.conflict? p with
    | some e => .error e
    | none => .ok {
        parameters := s.parameters ++ [p]
        compatible := List.pairwise_append.mpr ⟨s.compatible, by simp, by
          intro q hq r hr
          rw [List.mem_singleton.mp hr]
          exact compatible_of_conflict? h q hq⟩ }

/-- The schema of a list of objects, or the first reason against it. -/
def ofList (entries : List SchemaEntry) : Except SchemaError Schema :=
  entries.foldlM add empty

/-- The number of parameters. -/
def size (s : Schema) : Nat :=
  s.parameters.length

/-- A schema as error texts show it: the labels of its parameters. -/
def display (s : Schema) : String :=
  "schema(" ++ ", ".intercalate (s.parameters.map Parameter.label) ++ ")"

/-- The long spellings of all parameters, in the order of their declaration. -/
def longSpellings (s : Schema) : List String :=
  s.parameters.flatMap fun p => p.longs.map ("--" ++ ·)

end Schema

end CommandLine
