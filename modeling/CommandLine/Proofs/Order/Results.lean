import CommandLine.Proofs.Cursor.Fresh
import CommandLine.Proofs.Reading
import CommandLine.Proofs.Transcript.Outcome

namespace CommandLine

/-- Whether two parameters have positions and the first one has the lower. -/
def Parameter.PlacedBefore (p q : Parameter) : Prop :=
  ∃ m n, p.position = some m ∧ q.position = some n ∧ m < n

namespace Schema

variable (s : Schema)

theorem mem_positionals_iff {p : Parameter} :
    p ∈ s.positionals ↔ p ∈ s.parameters ∧ p.position.isSome = true := by
  rw [positionals, List.mem_mergeSort, List.mem_filter]

/-- Positions are bound from the lowest to the highest, and no two parameters share one. -/
theorem pairwise_positionals : s.positionals.Pairwise Parameter.PlacedBefore := by
  have htrans : ∀ p q r : Parameter, decide (p.position.getD 0 ≤ q.position.getD 0) = true →
      decide (q.position.getD 0 ≤ r.position.getD 0) = true →
        decide (p.position.getD 0 ≤ r.position.getD 0) = true := fun p q r hpq hqr =>
    decide_eq_true (Nat.le_trans (of_decide_eq_true hpq) (of_decide_eq_true hqr))
  have htotal : ∀ p q : Parameter, (decide (p.position.getD 0 ≤ q.position.getD 0) ||
      decide (q.position.getD 0 ≤ p.position.getD 0)) = true := by
    simp [Nat.le_total]
  have hsorted := List.pairwise_mergeSort htrans htotal (s.parameters.filter (·.position.isSome))
  have hcompatible : s.positionals.Pairwise Parameter.Compatible :=
    (List.mergeSort_perm ..).pairwise_iff (fun h => Std.Symm.symm _ _ h) |>.mpr
      (s.compatible.filter _)
  refine (hsorted.and hcompatible).imp_of_mem fun hp hq h => ?_
  obtain ⟨m, hm⟩ := Option.isSome_iff_exists.mp (s.mem_positionals_iff.mp hp).2
  obtain ⟨n, hn⟩ := Option.isSome_iff_exists.mp (s.mem_positionals_iff.mp hq).2
  obtain ⟨hle, _, _, _, hother⟩ := h
  have hle := of_decide_eq_true hle
  rw [hm, hn, Option.getD_some, Option.getD_some] at hle
  refine ⟨m, n, hm, hn, Nat.lt_of_le_of_ne hle ?_⟩
  rintro rfl
  exact hother m hm hn

/-- A command line spells the parameters that one of its texts spells. -/
theorem mem_spelled_iff {p : Parameter} {first : Nat} {texts : List String} :
    p ∈ s.spelled (Word.ofTexts first texts) ↔
      p ∈ s.parameters ∧ ∃ text ∈ texts, s.Spells text p := by
  have htexts : s.spelled (Word.ofTexts first texts) =
      texts.flatMap fun text => (s.read text).parameters := by
    conv_rhs => rw [← Word.map_text_ofTexts first texts, List.flatMap_map]
    rfl
  rw [htexts, List.mem_flatMap]
  constructor
  · rintro ⟨text, htext, hread⟩
    have hp := s.parameters_read_subset text hread
    exact ⟨hp, text, htext, (mem_parameters_read_iff hp text).mp hread⟩
  · rintro ⟨hp, text, htext, hspells⟩
    exact ⟨text, htext, (mem_parameters_read_iff hp text).mpr hspells⟩

end Schema

/-- The parameters that positions bind are bound in the order in which they are tried. -/
theorem Collector.Binds.map_parameter_sublist {converter : Converter} {ps : List Parameter}
    {words : List Word} {ms : List Match} (h : Binds converter ps words ms) :
    (ms.map Match.parameter).Sublist ps := by
  induction h with
  | nil => exact .slnil
  | pass hlater ih => exact ih.cons _
  | bind heligible hmatch hlater ih =>
    rw [List.map_cons, hmatch, Match.parameter_ofRun]
    exact ih.cons_cons _

section

variable (converter : Converter) (schema : Schema) (words : List Word)

/-- The flags of a parse match what its words spell, by the first spelling. -/
theorem map_parameter_flagged :
    (transcript converter schema words).flagged.map Match.parameter =
      (schema.spelled words).eraseDups := by
  have hscan := Progress.map_parameter_scan converter words ⟨.new schema, []⟩ 0
  have hnone : ∀ p, (Collector.new schema).matched p = false := fun _ => rfl
  rw [List.drop_zero] at hscan
  simp only [hnone, Bool.not_false, List.filter_true] at hscan
  exact hscan

/-- Fallbacks fill in for the parameters that neither a flag nor a position has matched. -/
theorem map_parameter_filled :
    let t := transcript converter schema words
    t.fallbacks.map Match.parameter = schema.parameters.filter fun p =>
      p.fallback.isSome && p ∉ (t.flagged ++ t.bindings).map Match.parameter := by
  intro t
  rw [map_parameter_applied]
  apply List.filter_congr
  intro p _
  congr 1
  rw [Bool.eq_iff_iff, Bool.not_eq_true', Collector.matched_eq_false_iff,
    map_parameter_afterSettlement, decide_eq_true_iff]

/-- A parameter that lost its value is reported to have been given too many words. -/
theorem overflow_of_mem_confirmed {p : Parameter}
    (hp : p ∈ (transcript converter schema words).confirmed) :
    ∃ fault ∈ (collect converter schema words).faults,
      fault.kind = .tooMany ∧ fault.parameter? = some p := by
  obtain ⟨m, hm, hpending, habsorbed, rfl⟩ := mem_confirmed.mp hp
  obtain ⟨r, hr⟩ := Option.isSome_iff_exists.mp hpending
  have hmade := mem_made_of_mem_flagged hm
  obtain ⟨hrecorded, hkind⟩ := (coherent_of_mem_transcript hmade).pending_eq_some_iff.mp hr
  have hstands : r.fault ∈ m.standing (transcript converter schema words).claimed :=
    List.mem_filter.mpr ⟨List.mem_map_of_mem hrecorded, by simp [habsorbed]⟩
  rw [← faults_about_of_mem hmade, List.mem_filter, decide_eq_true_iff] at hstands
  exact ⟨r.fault, hstands.1, hkind, hstands.2⟩

/-- The results are the entries that flags and positions have made, each still in its place, and then
those of the fallbacks. -/
theorem collect_entries_eq_append :
    let t := transcript converter schema words
    (collect converter schema words).entries =
      (afterBinding converter schema words).entries.map (Entry.clear t.confirmed) ++
        t.fallbacks.map fun m => m.entry.clear t.confirmed := by
  intro t
  rw [collect_entries, (afterBinding_eq converter schema words).1, List.map_map]
  exact List.map_append

end

/-- The order in which a parse comes to its results: `flagged` are the parameters of flags, `bound`
those of positions and `filled` those of fallbacks. -/
structure ResultOrder (converter : Converter) (schema : Schema) (texts : List String)
    (flagged bound filled : List Parameter) : Prop where
  results : (parse converter schema texts).results.map Entry.parameter = flagged ++ bound ++ filled
  /-- No parameter has two results. -/
  distinct : (flagged ++ bound ++ filled).Nodup
  /-- The flags enter theirs in the order in which the words spell them first. -/
  spelled : flagged = (schema.spelled (Word.ofTexts 0 texts)).eraseDups
  flags : (afterFlags converter schema (Word.ofTexts 0 texts)).collector.entries.map
    Entry.parameter = flagged
  /-- Whatever a text of the command line spells is entered by a flag. -/
  mem_flagged : ∀ p, p ∈ flagged ↔ p ∈ schema.parameters ∧ ∃ text ∈ texts, schema.Spells text p
  /-- The positions enter theirs behind, from the lowest to the highest. -/
  positions : (afterBinding converter schema (Word.ofTexts 0 texts)).entries.map Entry.parameter =
    flagged ++ bound
  bound_sublist : bound.Sublist schema.positionals
  increasing : bound.Pairwise Parameter.PlacedBefore
  /-- The fallbacks enter the rest of those that have one. -/
  rest : filled = schema.parameters.filter fun p => p.fallback.isSome && p ∉ flagged ++ bound
  /-- An entry that loses its value, for an overflow that is reported, stays in its place. -/
  in_place : ∃ lost added,
    (parse converter schema texts).results =
        (afterBinding converter schema (Word.ofTexts 0 texts)).entries.map (Entry.clear lost) ++ added ∧
      added.map Entry.parameter = filled ∧
      ∀ p ∈ lost, ∃ fault ∈ (parse converter schema texts).faults,
        fault.kind = .tooMany ∧ fault.parameter? = some p

/-- Every parse gives its results in this order. -/
theorem parse_orders_results (converter : Converter) (schema : Schema) (texts : List String) :
    ∃ flagged bound filled, ResultOrder converter schema texts flagged bound filled := by
  let words := Word.ofTexts 0 texts
  let t := transcript converter schema words
  refine ⟨t.flagged.map Match.parameter, t.bindings.map Match.parameter,
    t.fallbacks.map Match.parameter, ?_⟩
  have hmade : t.made.map Match.parameter = t.flagged.map Match.parameter ++
      t.bindings.map Match.parameter ++ t.fallbacks.map Match.parameter := by
    rw [Transcript.made, List.map_append, List.map_append]
  have hbound : (t.bindings.map Match.parameter).Sublist schema.positionals :=
    (binds_transcript converter schema words).map_parameter_sublist
  have hspelled := map_parameter_flagged converter schema words
  constructor
  case results =>
    rw [← hmade, ← map_parameter_afterFallbacks, ← collect_entries_eq_afterFallbacks]
    rfl
  case distinct =>
    rw [← hmade]
    exact nodup_made converter schema words
  case spelled => exact hspelled
  case flags => exact map_parameter_afterFlags converter schema words
  case mem_flagged =>
    intro p
    rw [hspelled, List.mem_eraseDups]
    exact schema.mem_spelled_iff
  case positions =>
    rw [(afterBinding_eq converter schema words).1, List.map_map, ← List.map_append]
    rfl
  case bound_sublist => exact hbound
  case increasing => exact schema.pairwise_positionals.sublist hbound
  case rest =>
    rw [← List.map_append]
    exact map_parameter_filled converter schema words
  case in_place =>
    refine ⟨t.confirmed, _, collect_entries_eq_append converter schema words, ?_, ?_⟩
    · rw [List.map_map]
      exact List.map_congr_left fun m _ => Entry.parameter_clear ..
    · exact fun p hp => overflow_of_mem_confirmed converter schema words hp

end CommandLine
