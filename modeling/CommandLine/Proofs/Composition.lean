import CommandLine.Parser
import CommandLine.Proofs.Acceptance
import CommandLine.Proofs.Checked

namespace CommandLine

namespace SchemaEntry

/-- The parameter that an object is, if it is one. -/
def parameter? : SchemaEntry → Option Parameter
  | parameter p => some p
  | other _ => none

/-- The parameters among objects, in their order. -/
def declared (entries : List SchemaEntry) : List Parameter :=
  entries.filterMap parameter?

/-- That objects can stand together on one command. -/
structure Compose (entries : List SchemaEntry) : Prop where
  parameters : ∀ entry ∈ entries, ∃ p, entry = .parameter p
  once : (declared entries).Nodup
  longs : (declared entries).Pairwise fun p q => ∀ name ∈ p.longs, name ∉ q.longs
  shorts : (declared entries).Pairwise fun p q => ∀ name ∈ p.shorts, name ∉ q.shorts
  positions : (declared entries).Pairwise fun p q => ∀ n, p.position = some n → q.position ≠ some n

theorem declared_map_parameter (ps : List Parameter) : declared (ps.map .parameter) = ps :=
  (List.filterMap_map ..).trans List.filterMap_some

theorem eq_map_declared {entries : List SchemaEntry}
    (h : ∀ entry ∈ entries, ∃ p, entry = .parameter p) :
    entries = (declared entries).map .parameter := by
  induction entries with
  | nil => rfl
  | cons entry rest ih =>
    obtain ⟨⟨p, rfl⟩, hrest⟩ := List.forall_mem_cons.mp h
    exact congrArg _ (ih hrest)

/-- Objects can stand together if they are compatible parameters. -/
theorem compose_iff {entries : List SchemaEntry} :
    Compose entries ↔
      (∀ entry ∈ entries, ∃ p, entry = .parameter p) ∧
        (declared entries).Pairwise Parameter.Compatible := by
  constructor
  · rintro ⟨hparameters, honce, hlongs, hshorts, hpositions⟩
    exact ⟨hparameters, honce.and (hlongs.and (hshorts.and hpositions))⟩
  · rintro ⟨hparameters, hcompatible⟩
    exact ⟨hparameters, hcompatible.imp fun h => h.1, hcompatible.imp fun h => h.2.1,
      hcompatible.imp fun h => h.2.2.1, hcompatible.imp fun h => h.2.2.2⟩

end SchemaEntry

open SchemaEntry

namespace Schema

theorem category_of_conflict? {s : Schema} {p : Parameter} {e : SchemaError}
    (h : s.conflict? p = some e) : e.category = .value := by
  unfold conflict? at h
  split at h
  · cases h
    rfl
  · rw [Option.or_eq_some_iff, Option.or_eq_some_iff] at h
    obtain (h | ⟨_, h⟩) | ⟨_, h⟩ := h
    all_goals
      obtain ⟨_, _, rfl⟩ := Option.map_eq_some_iff.mp h
      rfl

/-- An object is refused for being no parameter, or for a conflict with a parameter that is there. -/
theorem add_eq_error_iff {s : Schema} {entry : SchemaEntry} {e : SchemaError} :
    s.add entry = .error e ↔
      (∃ typeName, entry = .other typeName ∧ e = .notParameter typeName) ∨
        ∃ p, entry = .parameter p ∧ s.conflict? p = some e := by
  cases entry with
  | other typeName => simp [add, eq_comm]
  | parameter p =>
    simp only [add]
    split
    · next found hconflict => simp [hconflict]
    · next hnone => simp [hnone]

/-- Adding objects ends at the first that is refused, after all before it have been added. -/
theorem exists_of_foldlM_add_eq_error {entries : List SchemaEntry} {s : Schema} {e : SchemaError}
    (h : entries.foldlM add s = .error e) :
    ∃ ps entry behind, ∃ t : Schema, entries = ps.map .parameter ++ entry :: behind ∧
      t.parameters = s.parameters ++ ps ∧ t.add entry = .error e := by
  induction entries generalizing s with
  | nil => cases h
  | cons entry rest ih =>
    rw [List.foldlM_cons] at h
    cases hadd : s.add entry with
    | error found =>
      rw [hadd] at h
      cases h
      exact ⟨[], entry, rest, s, rfl, (List.append_nil _).symm, hadd⟩
    | ok u =>
      rw [hadd] at h
      obtain ⟨ps, refused, behind, t, hrest, ht, herror⟩ := ih h
      cases entry with
      | other typeName => cases hadd
      | parameter p =>
        obtain ⟨_, hu⟩ := add_parameter_eq_ok_iff.mp hadd
        refine ⟨p :: ps, refused, behind, t, by rw [hrest]; rfl, ?_, herror⟩
        rw [ht, hu, List.append_assoc, List.singleton_append]

/-- What is added without a refusal are parameters. -/
theorem exists_parameter_of_foldlM_add_eq_ok {entries : List SchemaEntry} {s t : Schema}
    (h : entries.foldlM add s = .ok t) : ∀ entry ∈ entries, ∃ p, entry = .parameter p := by
  induction entries generalizing s with
  | nil => exact fun _ hentry => absurd hentry List.not_mem_nil
  | cons entry rest ih =>
    rw [List.foldlM_cons, Except.bind_eq_ok_iff] at h
    obtain ⟨u, hadd, hrest⟩ := h
    cases entry with
    | other typeName => cases hadd
    | parameter p => exact List.forall_mem_cons.mpr ⟨⟨p, rfl⟩, ih hrest⟩

/-- What a schema answers when it is asked for what was declared. -/
structure Answers (s : Schema) (ps : List Parameter) : Prop where
  /-- The parameters stand in the order of their declaration. -/
  order : s.parameters = ps
  long : ∀ name p, s.long? name = some p ↔ p ∈ ps ∧ name ∈ p.longs
  long_none : ∀ name, s.long? name = none ↔ ∀ p ∈ ps, name ∉ p.longs
  short : ∀ text p, s.shortText? text = some p ↔ p ∈ ps ∧ ∃ c ∈ p.shorts, text = String.ofList [c]
  short_none : ∀ text, s.shortText? text = none ↔ ∀ p ∈ ps, ∀ c ∈ p.shorts, text ≠ String.ofList [c]
  /-- A group of short names is looked up name by name. -/
  shorts : ∀ names qs, s.shorts? names = some qs ↔
    names.map (fun c => s.shortText? (String.ofList [c])) = qs.map some
  shorts_none : ∀ names, s.shorts? names = none ↔
    ∃ c ∈ names, s.shortText? (String.ofList [c]) = none
  positional : ∀ p, p ∈ s.positionals ↔ p ∈ ps ∧ p.position.isSome = true
  /-- Positions come from the lowest to the highest, none of them twice. -/
  increasing : s.positionals.Pairwise Parameter.PlacedBefore

/-- Every schema answers for its own parameters. -/
theorem answers_parameters (s : Schema) : s.Answers s.parameters where
  order := rfl
  long _ _ := long?_eq_some_iff_mem
  long_none name := by
    rw [Option.eq_none_iff_forall_ne_some]
    simp only [ne_eq, long?_eq_some_iff_mem, not_and]
  short _ _ := shortText?_eq_some_iff_mem
  short_none text := by
    rw [Option.eq_none_iff_forall_ne_some]
    simp only [ne_eq, shortText?_eq_some_iff_mem, not_and, not_exists]
  shorts names qs := by
    simp only [shortText?_ofList_singleton, shorts?_eq_some_iff]
  shorts_none names := by
    simp only [shortText?_ofList_singleton, shorts?_eq_none_iff]
  positional _ := s.mem_positionals_iff
  increasing := s.pairwise_positionals

end Schema

/-- That an error tells why objects make no schema: those before some object can stand together, and this
one is no parameter, or is not compatible with one of them. -/
def SchemaError.Explains (e : SchemaError) (entries : List SchemaEntry) : Prop :=
  ∃ before entry behind, entries = before ++ entry :: behind ∧ Compose before ∧
    match entry with
    | .other typeName => e = .notParameter typeName ∧ e.failure.category = .type
    | .parameter p =>
      (∃ q ∈ declared before, ¬ q.Compatible p) ∧ e.failure.category = .value

namespace Schema

theorem explains_of_ofList {entries : List SchemaEntry} {e : SchemaError}
    (h : ofList entries = .error e) : e.Explains entries := by
  obtain ⟨ps, entry, behind, t, hentries, ht, herror⟩ := exists_of_foldlM_add_eq_error h
  have ht : t.parameters = ps := ht
  have hcompose : Compose (ps.map .parameter) := by
    rw [compose_iff, declared_map_parameter]
    exact ⟨List.forall_mem_map.mpr fun p _ => ⟨p, rfl⟩, ht ▸ t.compatible⟩
  refine ⟨_, entry, behind, hentries, hcompose, ?_⟩
  obtain ⟨typeName, rfl, rfl⟩ | ⟨p, rfl, hconflict⟩ := add_eq_error_iff.mp herror
  · exact ⟨rfl, rfl⟩
  · refine ⟨?_, category_of_conflict? hconflict⟩
    rw [declared_map_parameter, ← ht]
    by_contra hnone
    push Not at hnone
    rw [conflict?_eq_none_iff.mpr hnone] at hconflict
    cases hconflict

/-- Objects that can stand together make a schema, and no others do. It answers for the parameters among
them; otherwise an error tells which object cannot be added. -/
theorem ofList_composes (entries : List SchemaEntry) :
    ((∃ s, ofList entries = .ok s) ↔ Compose entries) ∧
      (∀ s, ofList entries = .ok s → s.Answers (declared entries)) ∧
      ∀ e, ofList entries = .error e → e.Explains entries := by
  have hdeclared : ∀ s, ofList entries = .ok s → s.parameters = declared entries := by
    intro s hs
    rw [eq_map_declared (exists_parameter_of_foldlM_add_eq_ok hs)] at hs
    exact ofList_eq_ok_iff.mp hs
  refine ⟨⟨?_, ?_⟩, ?_, fun e => explains_of_ofList⟩
  · rintro ⟨s, hs⟩
    exact compose_iff.mpr ⟨exists_parameter_of_foldlM_add_eq_ok hs, hdeclared s hs ▸ s.compatible⟩
  · intro hcompose
    obtain ⟨hparameters, hcompatible⟩ := compose_iff.mp hcompose
    rw [eq_map_declared hparameters]
    exact ⟨⟨declared entries, hcompatible⟩, ofList_eq_ok_iff.mpr rfl⟩
  · intro s hs
    exact hdeclared s hs ▸ s.answers_parameters

end Schema

end CommandLine
