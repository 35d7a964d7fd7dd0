import CommandLine.Proofs.Acceptance
import CommandLine.Proofs.Paraphrase.Bundle
import CommandLine.Proofs.Requests

namespace CommandLine

namespace Spelling

/-- A spelling without its hyphens. -/
def name : Spelling → String
  | long name => name
  | short c => String.ofList [c]

/-- A name starts with a letter, so all hyphens are in front of it. -/
theorem stripLeading_text {spelling : Spelling} (hvalid : spelling.Valid) :
    Text.stripLeading '-' spelling.text = spelling.name := by
  have hletter : ∀ c, Text.isLetter c = true → (c == '-') = false := by
    intro c hc
    rw [beq_eq_false_iff_ne]
    rintro rfl
    exact absurd hc (by decide)
  cases spelling with
  | long name =>
    have hname : isLongName name.toList = true := hvalid
    unfold Text.stripLeading Spelling.text Spelling.name
    rw [String.toList_append]
    cases hchars : name.toList with
    | nil =>
      rw [hchars] at hname
      cases hname
    | cons c rest =>
      rw [hchars, isLongName, Bool.and_eq_true] at hname
      rw [← String.toList_inj]
      simp [hletter c hname.1, hchars]
  | short c =>
    unfold Text.stripLeading Spelling.text Spelling.name
    simp [hletter c hvalid]

end Spelling

instance : Nontrivial Value :=
  ⟨.none, .bool true, nofun⟩

namespace Outcome

theorem answersTo_iff {p : Parameter} {name : String} :
    answersTo p name = true ↔ name ∈ p.longs ∨ ∃ c ∈ p.shorts, name = String.ofList [c] := by
  simp only [answersTo, Bool.or_eq_true, List.contains_iff_mem, List.any_eq_true, beq_iff_eq,
    eq_comm (a := name)]

/-- That a look-up goes to a parameter: it gives the value of its result, or else what is given for the case
that there is none. -/
structure Faithful (o : Outcome) (key : LookupKey) (p : Parameter) : Prop where
  result : ∀ entry ∈ o.results, entry.parameter = p → ∀ absent, o.get key absent = entry.value
  absent : (∀ entry ∈ o.results, entry.parameter ≠ p) → ∀ absent, o.get key absent = absent

/-- That one parameter has a result in front of that of another, and a different value. A parameter without a
result is hidden by every result. -/
def Hides (o : Outcome) (q p : Parameter) : Prop :=
  ∃ before entry behind, o.results = before ++ entry :: behind ∧ entry.parameter = q ∧
    (∀ other ∈ before, other.parameter ≠ p) ∧
      ∀ other ∈ behind, other.parameter = p → other.value ≠ entry.value

variable {o : Outcome} {key : LookupKey} {p : Parameter} {rival : Option Parameter}

theorem get_of_find? {entry : Entry} (h : o.results.find? (isMeant key) = some entry) (absent : Value) :
    o.get key absent = entry.value := by
  rw [get, get?, h]
  rfl

/-- Where a look-up means a parameter and a rival of it, it goes to the parameter exactly if the rival does
not hide it. -/
theorem faithful_iff_not_hides (hdistinct : (o.results.map Entry.parameter).Nodup)
    (hmeant : ∀ entry ∈ o.results,
      isMeant key entry = true ↔ entry.parameter = p ∨ rival = some entry.parameter) :
    o.Faithful key p ↔ ∀ q, rival = some q → q ≠ p → ¬ o.Hides q p := by
  have hsame : ∀ entry ∈ o.results, ∀ other ∈ o.results, entry.parameter = other.parameter →
      entry = other := List.inj_on_of_nodup_map hdistinct
  constructor
  · rintro hfaithful q hrival hne ⟨before, entry, behind, hresults, rfl, hbefore, hbehind⟩
    have hentry : entry ∈ o.results := hresults ▸ List.mem_append_right _ List.mem_cons_self
    have hfound : o.results.find? (isMeant key) = some entry := by
      refine List.find?_eq_some_iff_append.mpr ⟨(hmeant entry hentry).mpr (.inr hrival), before,
        behind, hresults, fun other hother => ?_⟩
      have hmem : other ∈ o.results := hresults ▸ List.mem_append_left _ hother
      rw [Bool.not_eq_true', Bool.eq_false_iff, ne_eq, hmeant other hmem, not_or, hrival]
      refine ⟨hbefore other hother, fun heq => ?_⟩
      rw [hresults, List.map_append, List.map_cons] at hdistinct
      exact List.disjoint_of_nodup_append hdistinct
        (Option.some_inj.mp heq ▸ List.mem_map_of_mem hother) List.mem_cons_self
    by_cases hresult : ∃ other ∈ o.results, other.parameter = p
    · obtain ⟨other, hother, hp⟩ := hresult
      have hlater : other ∈ behind := by
        rw [hresults, List.mem_append, List.mem_cons] at hother
        obtain hfront | rfl | hlater := hother
        · exact absurd hp (hbefore other hfront)
        · exact absurd hp hne
        · exact hlater
      exact hbehind other hlater hp
        ((hfaithful.result other hother hp .none).symm.trans (get_of_find? hfound .none))
    · push Not at hresult
      obtain ⟨absent, habsent⟩ := exists_ne entry.value
      exact habsent ((hfaithful.absent hresult absent).symm.trans (get_of_find? hfound absent))
  · intro hclear
    cases hfound : o.results.find? (isMeant key) with
    | none =>
      have hnone : ∀ entry ∈ o.results, entry.parameter ≠ p := fun entry hentry hp =>
        List.find?_eq_none.mp hfound entry hentry ((hmeant entry hentry).mpr (.inl hp))
      refine ⟨fun entry hentry hp => absurd hp (hnone entry hentry), fun _ absent => ?_⟩
      rw [get, get?, hfound]
      rfl
    | some entry =>
      obtain ⟨hmeans, before, behind, hresults, hbefore⟩ := List.find?_eq_some_iff_append.mp hfound
      have hentry : entry ∈ o.results := List.mem_of_find?_eq_some hfound
      -- The first result that is meant is that of the parameter, or one of the same value stands behind it.
      obtain ⟨other, hother, hp, hvalue⟩ :
          ∃ other ∈ o.results, other.parameter = p ∧ other.value = entry.value := by
        by_cases hp : entry.parameter = p
        · exact ⟨entry, hentry, hp, rfl⟩
        · by_contra hnone
          push Not at hnone
          refine hclear _ (((hmeant entry hentry).mp hmeans).resolve_left hp) hp
            ⟨before, entry, behind, hresults, rfl, fun other hother hp => ?_, fun other hother => ?_⟩
          · have hmem : other ∈ o.results := hresults ▸ List.mem_append_left _ hother
            have hunmeant := hbefore other hother
            rw [(hmeant other hmem).mpr (.inl hp)] at hunmeant
            cases hunmeant
          · exact hnone other
              (hresults ▸ List.mem_append_right _ (List.mem_cons_of_mem _ hother))
      refine ⟨fun own hown heq absent => ?_, fun hnone => absurd hp (hnone other hother)⟩
      rw [get_of_find? hfound, hsame own hown other hother (heq.trans hp.symm), hvalue]

end Outcome

/-- The parameter that has a name in the other length than a spelling of it. -/
def Schema.namesake? (s : Schema) : Spelling → Option Parameter
  | .long name => s.shortText? name
  | .short c => s.long? (String.ofList [c])

section

variable {schema : Schema} {p q : Parameter} {spelling : Spelling}

/-- Without its hyphens a spelling is a name of its parameter and of the namesake, and of no other one. -/
theorem answersTo_name_iff (hp : p ∈ schema.parameters) (hspelling : spelling ∈ p.spellings)
    (hq : q ∈ schema.parameters) :
    Outcome.answersTo q spelling.name = true ↔ q = p ∨ schema.namesake? spelling = some q := by
  rw [Outcome.answersTo_iff]
  obtain hlong | hshort := List.mem_append.mp hspelling
  · obtain ⟨name, hname, rfl⟩ := List.mem_map.mp hlong
    have hfound := (Schema.long?_eq_some_iff hp name).mpr hname
    refine or_congr ?_ ?_
    · rw [Spelling.name, ← Schema.long?_eq_some_iff hq name, hfound, Option.some_inj, eq_comm]
    · rw [Schema.namesake?, Schema.shortText?_eq_some_iff_mem, and_iff_right hq]
      rfl
  · obtain ⟨c, hc, rfl⟩ := List.mem_map.mp hshort
    have hfound := (Schema.short?_eq_some_iff hp c).mpr hc
    rw [or_comm]
    refine or_congr ?_ ?_
    · simp only [Spelling.name, String.ofList_inj, List.cons.injEq, and_true]
      rw [exists_eq_right', ← Schema.short?_eq_some_iff hq c, hfound, Option.some_inj, eq_comm]
    · rw [Schema.namesake?, Schema.long?_eq_some_iff hq]
      rfl

theorem Parameter.valid_of_mem_spellings (h : spelling ∈ p.spellings) : spelling.Valid := by
  obtain hlong | hshort := List.mem_append.mp h
  · obtain ⟨name, hname, rfl⟩ := List.mem_map.mp hlong
    exact p.longs_valid name hname
  · obtain ⟨c, hc, rfl⟩ := List.mem_map.mp hshort
    exact p.shorts_valid c hc

end

/-- A look-up by a spelling goes to the parameter that has it, whatever else is declared or matched, exactly
if no result of a namesake hides that of the parameter. -/
theorem parse_faithful_iff (converter : Converter) {schema : Schema} (texts : List String)
    {p : Parameter} {spelling : Spelling} (hp : p ∈ schema.parameters)
    (hspelling : spelling ∈ p.spellings) :
    (parse converter schema texts).Faithful (.spelling spelling.text) p ↔
      ∀ q, schema.namesake? spelling = some q → q ≠ p →
        ¬ (parse converter schema texts).Hides q p := by
  refine Outcome.faithful_iff_not_hides ?_ fun entry hentry => ?_
  · exact Collector.kept_distinct.collect converter schema _ List.nodup_nil
  · have hmatched := mem_results_iff.mp (List.mem_map_of_mem (f := Entry.parameter) hentry)
    obtain ⟨m, hm, heq⟩ := List.mem_map.mp hmatched
    have hdeclared : entry.parameter ∈ schema.parameters := heq ▸ parameter_mem_of_mem_made hm
    rw [Outcome.isMeant, Spelling.stripLeading_text (Parameter.valid_of_mem_spellings hspelling)]
    exact answersTo_name_iff hp hspelling hdeclared

theorem isLetter_v : Text.isLetter 'v' = true := by decide

/-- A flag whose long name is a letter. -/
def letterNamed : Parameter :=
  { shortFlag 1 'v' .unspecified isLetter_v with
    longs := ["v"]
    shorts := []
    longs_valid := fun _ hname => List.mem_singleton.mp hname ▸ rfl
    shorts_valid := NameSet.empty.shorts_valid
    longs_nodup := List.nodup_singleton _
    shorts_nodup := NameSet.empty.shorts_nodup
    named_or_placed := .inl (List.cons_ne_nil _ _) }

/-- A flag with a short name, and one with the same letter as its long name. -/
def letterTwice : Schema where
  parameters := [shortFlag 0 'v' .unspecified isLetter_v, letterNamed]
  compatible := List.pairwise_pair.mpr
    ⟨by decide, by simp [letterNamed, shortFlag], by simp [letterNamed, shortFlag],
      by simp [letterNamed, shortFlag]⟩

/-- The flag that is typed first is found by its spelling. -/
theorem letterTwice_first :
    shortFlag 0 'v' .unspecified isLetter_v ∈ letterTwice.parameters ∧
      .short 'v' ∈ (shortFlag 0 'v' .unspecified isLetter_v).spellings ∧
      (parse .standard letterTwice ["-v", "x", "--v", "y"]).Faithful (.spelling "-v")
        (shortFlag 0 'v' .unspecified isLetter_v) := by
  have hp : shortFlag 0 'v' .unspecified isLetter_v ∈ letterTwice.parameters := List.mem_cons_self
  have hspelling : .short 'v' ∈ (shortFlag 0 'v' .unspecified isLetter_v).spellings := List.mem_cons_self
  have horder : (parse .standard letterTwice ["-v", "x", "--v", "y"]).results.map Entry.parameter =
      [shortFlag 0 'v' .unspecified isLetter_v, letterNamed] := by
    decide +kernel
  refine ⟨hp, hspelling, (parse_faithful_iff .standard _ hp hspelling).mpr ?_⟩
  rintro q - hne ⟨before, entry, behind, hresults, rfl, hbefore, -⟩
  rw [hresults, List.map_append] at horder
  cases before with
  | nil => exact hne (List.cons.inj horder).1
  | cons other _ => exact hbefore other List.mem_cons_self (List.cons.inj horder).1

/-- The flag that is typed second is not: its spelling gives the word of the first. -/
theorem letterTwice_second :
    ¬ (parse .standard letterTwice ["-v", "x", "--v", "y"]).Faithful (.spelling "--v") letterNamed := by
  have hget : ((parse .standard letterTwice ["-v", "x", "--v", "y"]).get (.spelling "--v") .none).same
      (.text "y") = false := by
    decide +kernel
  obtain ⟨entry, hentry, hp, hvalue⟩ :
      ∃ entry ∈ (parse .standard letterTwice ["-v", "x", "--v", "y"]).results,
        entry.parameter = letterNamed ∧ entry.value.same (.text "y") = true := by
    decide +kernel
  intro hfaithful
  rw [hfaithful.result entry hentry hp, hvalue] at hget
  cases hget

end CommandLine
