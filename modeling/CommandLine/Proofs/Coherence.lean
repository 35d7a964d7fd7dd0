import CommandLine.Proofs.Checked
import CommandLine.Proofs.Transcript.Outcome

namespace CommandLine

namespace Match

variable {m : Match} {claimed : List Nat}

/-- A match with a fault that stands has lost its value. -/
theorem value_settled_of_mem_standing (hcoherent : m.Coherent) {fault : Fault}
    (hfault : fault ∈ m.standing claimed) : (m.settled claimed).value = .none := by
  obtain ⟨hmem, hstands⟩ := List.mem_filter.mp hfault
  obtain ⟨r, hr, rfl⟩ := List.mem_map.mp hmem
  unfold settled
  by_cases hkind : r.fault.kind = .tooMany
  · have hpending := hcoherent.pending_eq_some_iff.mpr ⟨hr, hkind⟩
    have habsorbed : m.resolution.absorbed claimed = false := by simpa [hkind] using hstands
    have hoverflowed : m.overflowed claimed = true := by simp [overflowed, hpending, habsorbed]
    simp [hoverflowed]
  · simp [hcoherent.value_eq_none hr hkind]

/-- Too few words stand alone, and otherwise there is at most a refused conversion and an overflow. -/
theorem kinds_standing (hcoherent : m.Coherent) (claimed : List Nat) :
    ((m.standing claimed).map Fault.kind).Sublist [.notEnough] ∨
      ((m.standing claimed).map Fault.kind).Sublist [.conversion, .tooMany] := by
  have hsublist : ((m.standing claimed).map Fault.kind).Sublist
      (m.trail.recorded.map (·.fault.kind)) := by
    have hfilter : (m.standing claimed).Sublist (m.trail.recorded.map RecordedFault.fault) :=
      List.filter_sublist
    have hkinds := hfilter.map Fault.kind
    rwa [List.map_map] at hkinds
  obtain hshort | hanswered := hcoherent.kinds
  · rw [hshort] at hsublist
    exact .inl hsublist
  · exact .inr (hsublist.trans hanswered)

/-- A match without a value and without a fault that stands has an overflow that was withdrawn, or
none at all; either way its conversion came to no value. -/
theorem value_of_standing_nil (hcoherent : m.Coherent) (hstanding : m.standing claimed = [])
    (hvalue : (m.settled claimed).value = .none) : m.resolution.value = .none := by
  have hoverflowed : m.overflowed claimed = false := by
    rw [← Bool.not_eq_true]
    intro hoverflowed
    obtain ⟨hpending, habsorbed⟩ := Bool.and_eq_true_iff.mp hoverflowed
    obtain ⟨r, hpending⟩ := Option.isSome_iff_exists.mp hpending
    have hr := (hcoherent.pending_eq_some_iff.mp hpending).1
    have hstands : r.fault ∈ m.standing claimed := by
      refine List.mem_filter.mpr ⟨List.mem_map_of_mem hr, ?_⟩
      rw [habsorbed, Bool.or_true]
    rw [hstanding] at hstands
    cases hstands
  unfold settled at hvalue
  rwa [hoverflowed] at hvalue

/-- A fault other than an overflow stands in any case. -/
theorem mem_standing_of_kind {r : RecordedFault} (hr : r ∈ m.trail.recorded)
    (hkind : r.fault.kind ≠ .tooMany) (claimed : List Nat) : r.fault ∈ m.standing claimed := by
  refine List.mem_filter.mpr ⟨List.mem_map_of_mem hr, ?_⟩
  simp [hkind]

end Match

/-- No text is coerced to the absent value. -/
theorem coerce_ne_none {text : String} {kind : ItemKind} {value : Value}
    (h : coerce text kind = .ok value) : value ≠ .none := by
  rintro rfl
  unfold coerce coerceKind at h
  split at h
  · cases h
  · split at h <;> (try split at h) <;> cases h
  · cases h

/-- No standard conversion comes to the absent value. -/
theorem convertWith_ne_none {tokens : List String} {d : Descriptor} {value : Value}
    (h : convertWith coerce tokens d = .ok value) : value ≠ .none := by
  cases d with
  | unspecified =>
    rintro rfl
    simp only [convertWith] at h
    split at h <;> cases h
  | scalar kind => exact coerce_ne_none h
  | array kind =>
    rintro rfl
    obtain ⟨items, _, ⟨⟩⟩ := Except.map_eq_ok_iff.mp h
  | list kind =>
    rintro rfl
    obtain ⟨items, _, ⟨⟩⟩ := Except.map_eq_ok_iff.mp h

/-- Standard conversion never answers with the absent value. -/
theorem standard_ne_none {earlier : List Request} {request : Request} {value : Value}
    (h : Converter.standard.convert earlier request = .ok value) : value ≠ .none := by
  have hanswer : answerWith coerce request = .ok value := by
    change (answerWith coerce request).mapError Refusal.failure = .ok value at h
    cases hanswer : answerWith coerce request with
    | error refusal => rw [hanswer] at h; cases h
    | ok answered => rw [hanswer] at h; cases h; rfl
  unfold answerWith at hanswer
  split at hanswer
  · cases hanswer
  · split at hanswer
    · exact convertWith_ne_none hanswer
    · cases hanswer

/-- Under standard conversion, no value means a refused conversion. -/
theorem Trail.recorded_ofConversion_of_none {p : Parameter} (anchor : Option Word)
    {raw : List String} {earlier : List Request} (ticket : Nat)
    (hvalue : Converter.standard.answer earlier ⟨raw, .descriptor p.type⟩ = .none) :
    ∃ failure, (ofConversion .standard p anchor raw earlier ticket).recorded =
      [⟨ticket, .conversion p anchor raw failure⟩] := by
  unfold Converter.answer at hvalue
  unfold ofConversion
  cases hconvert : Converter.standard.convert earlier ⟨raw, .descriptor p.type⟩ with
  | ok value =>
    rw [hconvert] at hvalue
    exact absurd hvalue (standard_ne_none hconvert)
  | error failure => exact ⟨failure, rfl⟩

/-- Under standard conversion, a match without a value and without a fault was given no word, and its
parameter is no boolean flag. -/
theorem Match.Made.taken_of_standing_nil {m : Match} {claimed : List Nat}
    (hmade : Made .standard m) (hstanding : m.standing claimed = [])
    (hvalue : (m.settled claimed).value = .none) :
    m.taken = [] ∧ m.parameter.isBoolean = false := by
  have hnone := value_of_standing_nil hmade.coherent hstanding hvalue
  have hclean : ∀ r ∈ m.trail.recorded, r.fault.kind = .tooMany := by
    intro r hr
    by_contra hkind
    have hstands := mem_standing_of_kind hr hkind claimed
    rw [hstanding] at hstands
    cases hstands
  cases hmade with
  | literal p anchor literal earlier ticket =>
    obtain ⟨failure, hrefused⟩ := Trail.recorded_ofConversion_of_none (some anchor) ticket hnone
    cases hclean _ (hrefused ▸ List.mem_singleton.mpr rfl)
  | fallback p fallback earlier ticket =>
    obtain ⟨failure, hrefused⟩ := Trail.recorded_ofConversion_of_none none ticket hnone
    cases hclean _ (hrefused ▸ List.mem_singleton.mpr rfl)
  | run p anchor run positional earlier ticket =>
    rw [taken_ofRun, parameter_ofRun]
    rcases Nat.lt_or_ge (p.take run).length p.window.minimum with hshort | henough
    · rw [ofRun_of_short .standard anchor positional earlier ticket hshort] at hclean
      cases hclean _ (List.mem_singleton.mpr rfl)
    · obtain ⟨hrecorded, _, _, hanswer⟩ :=
        recorded_ofRun_of_enough .standard anchor positional earlier ticket henough
      rw [hanswer] at hnone
      rw [hrecorded] at hclean
      unfold Converter.answerTaken at hnone
      unfold Trail.ofTaken at hclean
      cases hraw : p.rawTexts? (p.take run) with
      | some raw =>
        rw [hraw] at hnone hclean
        obtain ⟨failure, hrefused⟩ := Trail.recorded_ofConversion_of_none (some anchor) ticket hnone
        dsimp only at hclean
        rw [hrefused] at hclean
        cases hclean _ List.mem_cons_self
      | none =>
        unfold Parameter.rawTexts? at hraw
        split at hraw
        · cases hraw
        · next hempty =>
          split at hraw
          · cases hraw
          · next hplain => exact ⟨by simpa using hempty, by simpa using hplain⟩

/-- How the faults about a parameter and its value go together in an outcome. -/
structure Coheres (outcome : Outcome) (p : Parameter) : Prop where
  /-- The parameter has one result at most. -/
  once : (outcome.results.map Entry.parameter).count p ≤ 1
  /-- It is missing exactly if it is required, has no fallback and has no result. -/
  missing : .missing p ∈ outcome.faults ↔
    p.required = true ∧ p.fallback = none ∧ p ∉ outcome.results.map Entry.parameter
  /-- If it is required, it has a result or is missing, and not both. -/
  required : p.required = true →
    (p ∈ outcome.results.map Entry.parameter ↔ .missing p ∉ outcome.faults)
  /-- With a fallback it has a result. -/
  fallback : p.fallback ≠ none → p ∈ outcome.results.map Entry.parameter
  /-- Any other fault about it leaves it with a result that is absent. -/
  valueless : ∀ fault ∈ outcome.faults, fault.parameter? = some p → fault.kind ≠ .missing →
    ⟨p, .none⟩ ∈ outcome.results
  /-- There is one fault of each kind about it at most. -/
  kinds : ((outcome.faults.filter (·.parameter? = some p)).map Fault.kind).Nodup
  /-- Too few words are the only fault about it. -/
  alone : ∀ fault ∈ outcome.faults, fault.parameter? = some p → fault.kind = .notEnough →
    outcome.faults.filter (·.parameter? = some p) = [fault]

/-- Whether a parse hands a word of the command line to a parameter, behind a flag or at a position. -/
def Receives (converter : Converter) (schema : Schema) (words : List Word) (p : Parameter) (w : Word) :
    Prop :=
  (∃ flag fresh run made, .matched flag fresh run made ∈ turns converter schema words ∧
      ∃ m ∈ made, m.parameter = p ∧ w ∈ m.taken) ∨
    ⟨w, some p⟩ ∈ ((afterFlags converter schema words).collector.bind converter).2

section

variable {converter : Converter} {schema : Schema} {words : List Word} {p : Parameter} {fault : Fault}

/-- The results are of the parameters of which a match was made. -/
theorem mem_results_iff :
    p ∈ (collect converter schema words).freeze.results.map Entry.parameter ↔
      p ∈ (transcript converter schema words).made.map Match.parameter := by
  change p ∈ (collect converter schema words).entries.map Entry.parameter ↔ _
  rw [collect_entries_eq_map_settled, List.map_map]
  rfl

/-- A fault about a parameter stands of its match, or says that it is missing. -/
theorem about_cases (hfault : fault ∈ (collect converter schema words).faults)
    (habout : fault.parameter? = some p) :
    (∃ m ∈ (transcript converter schema words).made, m.parameter = p ∧
        fault ∈ m.standing (transcript converter schema words).claimed) ∨
      p ∈ (transcript converter schema words).missing ∧ fault = .missing p := by
  have hmem : fault ∈ (collect converter schema words).faults.filter (·.parameter? = some p) :=
    List.mem_filter.mpr ⟨hfault, decide_eq_true habout⟩
  by_cases hp : p ∈ (transcript converter schema words).made.map Match.parameter
  · obtain ⟨m, hm, rfl⟩ := List.mem_map.mp hp
    rw [faults_about_of_mem hm] at hmem
    exact .inl ⟨m, hm, rfl, hmem⟩
  · rw [faults_about_of_notMem hp] at hmem
    split at hmem
    · next hmissing => exact .inr ⟨hmissing, List.mem_singleton.mp hmem⟩
    · cases hmem

/-- No match reports a missing parameter. -/
theorem kind_ne_missing_of_mem_standing {m : Match} {claimed : List Nat} (hcoherent : m.Coherent)
    (hfault : fault ∈ m.standing claimed) : fault.kind ≠ .missing := by
  intro hkind
  have hmem := List.mem_map_of_mem (f := Fault.kind) hfault
  rw [hkind] at hmem
  obtain hsublist | hsublist := Match.kinds_standing hcoherent claimed
  · simpa using hsublist.subset hmem
  · simpa using hsublist.subset hmem

/-- The parameters that are reported as missing are those of the transcript. -/
theorem mem_faults_missing_iff :
    .missing p ∈ (collect converter schema words).faults ↔
      p ∈ (transcript converter schema words).missing := by
  constructor
  · intro hfault
    obtain ⟨m, hm, _, hstands⟩ | ⟨hmissing, _⟩ := about_cases hfault rfl
    · exact absurd rfl (kind_ne_missing_of_mem_standing (coherent_of_mem_transcript hm) hstands)
    · exact hmissing
  · intro hmissing
    have hfaults := faults_about_of_notMem (mem_missing_iff.mp hmissing).2.2
    rw [if_pos hmissing] at hfaults
    exact (List.mem_filter.mp (hfaults ▸ List.mem_singleton.mpr rfl)).1

/-- No two faults about one parameter are of one kind. -/
theorem kinds_about (p : Parameter) :
    (((collect converter schema words).faults.filter (·.parameter? = some p)).map Fault.kind).Nodup := by
  by_cases hp : p ∈ (transcript converter schema words).made.map Match.parameter
  · obtain ⟨m, hm, rfl⟩ := List.mem_map.mp hp
    rw [faults_about_of_mem hm]
    obtain hsublist | hsublist := Match.kinds_standing (coherent_of_mem_transcript hm)
      (transcript converter schema words).claimed
    · exact (List.nodup_singleton _).sublist hsublist
    · exact List.Nodup.sublist hsublist (by decide)
  · rw [faults_about_of_notMem hp]
    split <;> simp

/-- Too few words are the only fault about a parameter. -/
theorem filter_about_of_notEnough (hfault : fault ∈ (collect converter schema words).faults)
    (habout : fault.parameter? = some p) (hkind : fault.kind = .notEnough) :
    (collect converter schema words).faults.filter (·.parameter? = some p) = [fault] := by
  obtain ⟨m, hm, rfl, hstands⟩ | ⟨_, rfl⟩ := about_cases hfault habout
  · rw [faults_about_of_mem hm]
    have hmem := List.mem_map_of_mem (f := Fault.kind) hstands
    rw [hkind] at hmem
    obtain hsublist | hsublist := Match.kinds_standing (coherent_of_mem_transcript hm)
      (transcript converter schema words).claimed
    · have hlength := hsublist.length_le
      rw [List.length_map, List.length_singleton] at hlength
      obtain ⟨only, honly⟩ := List.length_eq_one_iff.mp
        (Nat.le_antisymm hlength (List.length_pos_of_mem hstands))
      rw [honly] at hstands ⊢
      rw [List.mem_singleton.mp hstands]
    · simpa using hsublist.subset hmem
  · cases hkind

/-- What a parse hands to a parameter are the words that its match takes. -/
theorem exists_match_of_receives {w : Word} (h : Receives converter schema words p w) :
    ∃ m ∈ (transcript converter schema words).made, m.parameter = p ∧ m.taken ≠ [] := by
  obtain ⟨flag, fresh, run, made, ht, m, hm, hp, hw⟩ | hclaim := h
  · have hflagged : m ∈ (transcript converter schema words).flagged :=
      List.mem_flatMap.mpr ⟨_, ht, hm⟩
    exact ⟨m, mem_made_of_mem_flagged hflagged, hp, List.ne_nil_of_mem hw⟩
  · obtain ⟨v, _, heq⟩ := List.mem_map.mp hclaim
    rw [Leftover.mk.injEq] at heq
    obtain ⟨earlier, later, hclaims, _⟩ := List.lookup_eq_some_iff.mp heq.2
    have hmem : (v.index, p) ∈ ((afterFlags converter schema words).collector.bindEach converter
        (afterFlags converter schema words).collector.schema.positionals
        (afterFlags converter schema words).collector.leftovers).2 := by
      rw [hclaims]
      exact List.mem_append_right _ List.mem_cons_self
    obtain ⟨m, hm, hp, u, hu, _⟩ := (Collector.mem_claims_iff ..).mp hmem
    rw [schema_afterFlags] at hm
    exact ⟨m, mem_made_of_mem_bindings hm, hp, List.ne_nil_of_mem hu⟩

theorem mem_results_of_mem {m : Match} (hm : m ∈ (transcript converter schema words).made) :
    ⟨m.parameter, (m.settled (transcript converter schema words).claimed).value⟩ ∈
      (collect converter schema words).entries := by
  rw [collect_entries_eq_map_settled]
  exact List.mem_map.mpr ⟨m, hm, rfl⟩

/-- A parse coheres in each of its parameters. -/
theorem coheres_freeze (hp : p ∈ schema.parameters) :
    Coheres (collect converter schema words).freeze p := by
  have hmissing : .missing p ∈ (collect converter schema words).freeze.faults ↔ _ :=
    mem_faults_missing_iff
  have hfallback : p.fallback ≠ none →
      p ∈ (collect converter schema words).freeze.results.map Entry.parameter := by
    intro hfallback
    rw [mem_results_iff]
    exact mem_made_of_fallback hp (Option.isSome_iff_ne_none.mpr hfallback)
  constructor
  case once =>
    have hnodup : ((collect converter schema words).freeze.results.map Entry.parameter).Nodup :=
      Collector.kept_distinct.collect converter schema words List.nodup_nil
    exact List.nodup_iff_count_le_one.mp hnodup p
  case missing =>
    rw [hmissing, mem_missing_iff, mem_results_iff]
    constructor
    · rintro ⟨_, hrequired, hnew⟩
      refine ⟨hrequired, ?_, hnew⟩
      by_contra hne
      exact hnew (mem_results_iff.mp (hfallback hne))
    · rintro ⟨hrequired, _, hnew⟩
      exact ⟨hp, hrequired, hnew⟩
  case required =>
    intro hrequired
    rw [hmissing, mem_missing_iff, mem_results_iff]
    constructor
    · rintro hmade ⟨_, _, hnew⟩
      exact hnew hmade
    · intro hnot
      by_contra hnew
      exact hnot ⟨hp, hrequired, hnew⟩
  case fallback => exact hfallback
  case valueless =>
    intro fault hfault habout hkind
    obtain ⟨m, hm, rfl, hstands⟩ | ⟨_, rfl⟩ := about_cases hfault habout
    · have hentry := mem_results_of_mem hm
      rwa [Match.value_settled_of_mem_standing (coherent_of_mem_transcript hm) hstands] at hentry
    · exact absurd rfl hkind
  case kinds => exact kinds_about p
  case alone =>
    intro fault hfault habout hkind
    exact filter_about_of_notEnough hfault habout hkind

/-- Under standard conversion, a match without a value and without a fault was handed no word. -/
theorem not_receives_of_clean (hentry : ⟨p, .none⟩ ∈ (collect .standard schema words).entries)
    (hclean : ∀ fault ∈ (collect .standard schema words).faults, fault.parameter? ≠ some p) :
    p.isBoolean = false ∧ ∀ w, ¬ Receives .standard schema words p w := by
  rw [collect_entries_eq_map_settled] at hentry
  obtain ⟨m, hm, hsettled⟩ := List.mem_map.mp hentry
  have hp : m.parameter = p := congrArg Entry.parameter hsettled
  subst hp
  have hstanding : m.standing (transcript .standard schema words).claimed = [] := by
    rw [← faults_about_of_mem hm, List.filter_eq_nil_iff]
    intro fault hfault habout
    exact hclean fault hfault (of_decide_eq_true habout)
  obtain ⟨htaken, hboolean⟩ := (made_of_mem_transcript hm).taken_of_standing_nil hstanding
    (congrArg Entry.value hsettled)
  refine ⟨hboolean, fun w hreceives => ?_⟩
  obtain ⟨n, hn, hsame, hsome⟩ := exists_match_of_receives hreceives
  rw [eq_of_parameter_eq hn hm hsame] at hsome
  exact hsome htaken

end

/-- The faults about every parameter of a schema and its value go together. Under standard conversion a
parameter without a value and without a fault is no boolean flag and was handed no word. -/
theorem parse_coheres (converter : Converter) (schema : Schema) (texts : List String) :
    (∀ p ∈ schema.parameters, Coheres (parse converter schema texts) p) ∧
      ∀ p, ⟨p, .none⟩ ∈ (parse .standard schema texts).results →
        (∀ fault ∈ (parse .standard schema texts).faults, fault.parameter? ≠ some p) →
          p.isBoolean = false ∧ ∀ w, ¬ Receives .standard schema (Word.ofTexts 0 texts) p w := by
  constructor
  · intro p hp
    exact coheres_freeze hp
  · intro p hentry hclean
    exact not_receives_of_clean hentry hclean

end CommandLine
