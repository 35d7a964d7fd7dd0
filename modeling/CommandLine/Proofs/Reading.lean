import CommandLine.Word.Basic
import Mathlib.Data.List.Pairwise

namespace CommandLine

instance : Std.Symm Parameter.Compatible where
  symm _ _ h := ⟨h.1.symm, fun name hq hp => h.2.1 name hp hq, fun name hq hp => h.2.2.1 name hp hq,
    fun n hq hp => h.2.2.2 n hp hq⟩

namespace Schema

variable {s : Schema} {p q : Parameter}

/-- Parameters of a schema that share something are one. -/
theorem eq_of_not_compatible (hp : p ∈ s.parameters) (hq : q ∈ s.parameters)
    (h : ¬ p.Compatible q) : p = q :=
  not_imp_comm.mp (s.compatible.forall hp hq) h

/-- Looking for something that no other parameter has finds the parameter. -/
private theorem find?_eq_some_iff_of_unique {test : Parameter → Bool} (hp : p ∈ s.parameters)
    (hunique : ∀ q ∈ s.parameters, test p = true → test q = true → p = q) :
    s.parameters.find? test = some p ↔ test p = true := by
  refine ⟨List.find?_some, fun htest => ?_⟩
  obtain ⟨q, hq⟩ := Option.isSome_iff_exists.mp (List.find?_isSome.mpr ⟨p, hp, htest⟩)
  rw [hq, hunique q (List.mem_of_find?_eq_some hq) htest (List.find?_some hq)]

/-- A long name is looked up as the parameter that has it. -/
theorem long?_eq_some_iff (hp : p ∈ s.parameters) (name : String) :
    s.long? name = some p ↔ name ∈ p.longs := by
  rw [long?, find?_eq_some_iff_of_unique hp, decide_eq_true_iff]
  intro q hq hpname hqname
  rw [decide_eq_true_iff] at hpname hqname
  exact eq_of_not_compatible hp hq fun h => h.2.1 name hpname hqname

/-- A short name is looked up as the parameter that has it. -/
theorem short?_eq_some_iff (hp : p ∈ s.parameters) (name : Char) :
    s.short? name = some p ↔ name ∈ p.shorts := by
  rw [short?, find?_eq_some_iff_of_unique hp, decide_eq_true_iff]
  intro q hq hpname hqname
  rw [decide_eq_true_iff] at hpname hqname
  exact eq_of_not_compatible hp hq fun h => h.2.2.1 name hpname hqname

/-- A group of short names is looked up name by name. -/
theorem map_short?_of_shorts? {names : List Char} {ps : List Parameter}
    (h : s.shorts? names = some ps) : names.map s.short? = ps.map some := by
  induction names generalizing ps with
  | nil =>
    cases h
    rfl
  | cons c rest ih =>
    simp only [shorts?, List.mapM_cons, Option.bind_eq_bind, Option.pure_def,
      Option.bind_eq_some_iff, Option.some_inj] at h
    obtain ⟨p, hp, qs, hqs, rfl⟩ := h
    rw [List.map_cons, hp, ih hqs, List.map_cons]

/-- A group of short names is known exactly if all of them are, and comes to their parameters. -/
theorem shorts?_eq_some_iff {names : List Char} {ps : List Parameter} :
    s.shorts? names = some ps ↔ names.map s.short? = ps.map some := by
  refine ⟨map_short?_of_shorts?, fun h => ?_⟩
  induction names generalizing ps with
  | nil => rw [List.map_eq_nil_iff.mp h.symm]; rfl
  | cons c rest ih =>
    obtain ⟨p, qs, rfl, hp, hqs⟩ := List.map_eq_cons_iff.mp h.symm
    have hrest : rest.mapM s.short? = some qs := ih hqs.symm
    rw [shorts?, List.mapM_cons, ← hp, hrest]
    rfl

theorem shorts?_eq_none_iff {names : List Char} :
    s.shorts? names = none ↔ ∃ c ∈ names, s.short? c = none := by
  induction names with
  | nil => simp [shorts?]
  | cons c rest ih =>
    have hrest : rest.mapM s.short? = none ↔ ∃ c ∈ rest, s.short? c = none := ih
    simp only [List.mem_cons, exists_eq_or_imp]
    rw [← hrest, shorts?, List.mapM_cons]
    cases s.short? c with
    | none => simp
    | some p => cases rest.mapM s.short? <;> simp

/-- Whether a text spells a parameter: it is one of its long spellings, or a group of declared short
names with one of its own among them. -/
def Spells (s : Schema) (text : String) (p : Parameter) : Prop :=
  (∃ name ∈ p.longs, text = "--" ++ name) ∨
    (∃ ps, s.read text = .group ps) ∧ ∃ c ∈ p.shorts, c ∈ text.toList.tail

/-- A long name behind two hyphens is read as the parameter that has it. -/
theorem read_long (hp : p ∈ s.parameters) {name : String} (hname : name ∈ p.longs) :
    s.read ("--" ++ name) = .long p := by
  have hvalid := p.longs_valid name hname
  cases hchars : name.toList with
  | nil =>
    rw [hchars] at hvalid
    cases hvalid
  | cons c rest =>
    have htext : ("--" ++ name).toList = '-' :: '-' :: c :: rest := by
      rw [String.toList_append, hchars]
      rfl
    have hlong : s.long? (String.ofList (c :: rest)) = some p := by
      rw [← hchars, String.ofList_toList, long?_eq_some_iff hp]
      exact hname
    unfold read
    rw [htext]
    simp only [hlong]

theorem eq_long_of_read {text : String} (h : s.read text = .long p) :
    ∃ name, s.long? name = some p ∧ text = "--" ++ name := by
  unfold read at h
  split at h
  · next c rest htext =>
    split at h
    · next q hq =>
      cases h
      refine ⟨_, hq, ?_⟩
      rw [← String.toList_inj, htext, String.toList_append]
      simp
    · cases h
  · cases h
  · split at h
    · cases h
    · split at h <;> cases h
  · cases h

theorem read_eq_group {text : String} {ps : List Parameter} (h : s.read text = .group ps) :
    s.shorts? text.toList.tail = some ps := by
  unfold read at h
  split at h
  · split at h <;> cases h
  · cases h
  · next c rest heq =>
    rw [heq]
    split at h
    · cases h
    · split at h
      · next hps =>
        cases h
        exact hps
      · cases h
  · cases h

/-- What a text is read as is looked up by its long name, or by one of its short names. -/
theorem lookup_of_mem_read {text : String} (h : p ∈ (s.read text).parameters) :
    (∃ name, s.long? name = some p ∧ text = "--" ++ name) ∨
      (∃ ps, s.read text = .group ps) ∧ ∃ c ∈ text.toList.tail, s.short? c = some p := by
  cases hread : s.read text with
  | long q =>
    rw [hread] at h
    cases List.mem_singleton.mp h
    exact .inl (eq_long_of_read hread)
  | group ps =>
    rw [hread] at h
    have hlooked := List.mem_map_of_mem (f := some) h
    rw [Reading.parameters, ← map_short?_of_shorts? (read_eq_group hread)] at hlooked
    exact .inr ⟨⟨ps, rfl⟩, List.mem_map.mp hlooked⟩
  | unrecognised =>
    rw [hread] at h
    cases h
  | literal =>
    rw [hread] at h
    cases h

/-- What a text is read as are parameters of the schema. -/
theorem parameters_read_subset (s : Schema) (text : String) :
    (s.read text).parameters ⊆ s.parameters := by
  intro p hp
  obtain ⟨name, hfound, _⟩ | ⟨_, c, _, hfound⟩ := lookup_of_mem_read hp
  · exact List.mem_of_find?_eq_some hfound
  · exact List.mem_of_find?_eq_some hfound

/-- The parameters that a text is read as are those that it spells. -/
theorem mem_parameters_read_iff (hp : p ∈ s.parameters) (text : String) :
    p ∈ (s.read text).parameters ↔ s.Spells text p := by
  constructor
  · intro hmem
    obtain ⟨name, hfound, htext⟩ | ⟨hgroup, c, hc, hfound⟩ := lookup_of_mem_read hmem
    · exact .inl ⟨name, (long?_eq_some_iff hp name).mp hfound, htext⟩
    · exact .inr ⟨hgroup, c, (short?_eq_some_iff hp c).mp hfound, hc⟩
  · rintro (⟨name, hname, rfl⟩ | ⟨⟨ps, hread⟩, c, hshort, hc⟩)
    · rw [read_long hp hname]
      exact List.mem_singleton_self p
    · have hlooked := List.mem_map_of_mem (f := s.short?) hc
      rw [map_short?_of_shorts? (read_eq_group hread), (short?_eq_some_iff hp c).mpr hshort] at hlooked
      obtain ⟨q, hq, heq⟩ := List.mem_map.mp hlooked
      rw [hread]
      exact Option.some_inj.mp heq ▸ hq

end Schema

end CommandLine
