import CommandLine.Proofs.Agreement
import CommandLine.Proofs.Overflow
import CommandLine.Proofs.Paraphrase.Bundle

namespace CommandLine

/-- Only the parameters that have a fallback take part when fallbacks are applied. -/
theorem Collector.fallbacks_filter (converter : Converter) (ps : List Parameter) (c : Collector) :
    c.fallbacks converter (ps.filter (·.fallback.isSome)) = c.fallbacks converter ps := by
  fun_induction fallbacks converter ps c with
  | case1 => rfl
  | case2 p rest c hnone ih =>
    rw [List.filter_cons_of_neg (by simp [hnone])]
    exact ih
  | case3 p rest c fallback hfallback hmatched ih =>
    rw [List.filter_cons_of_pos (by simp [hfallback])]
    simp only [fallbacks, hfallback, hmatched, if_true]
    exact ih
  | case4 p rest c fallback hfallback hmatched m ih =>
    rw [List.filter_cons_of_pos (by simp [hfallback])]
    simp only [fallbacks, hfallback, hmatched, Bool.false_eq_true, if_false]
    exact congrArg _ ih

/-- Suggestions do not make any of some faults another one. -/
theorem Outcome.sameAll_map_retold (t : Schema) (faults : List Fault) :
    sameAll Fault.same (faults.map (Fault.retold t)) faults = true := by
  induction faults with
  | nil => rfl
  | cons fault rest ih =>
    rw [List.map_cons, sameAll, Bool.and_eq_true]
    exact ⟨Fault.same_retold t fault, ih⟩

/-- Whether a schema has the parameters of another one in their order, and between them one that takes no
part in a parse unless it is spelled. -/
structure Schema.Extends (t s : Schema) (o : Parameter) : Prop where
  inserted : ∃ before after, s.parameters = before ++ after ∧ t.parameters = before ++ o :: after
  position : o.position = none
  fallback : o.fallback = none
  required : o.required = false

namespace Schema.Extends

variable {s t : Schema} {o : Parameter} (h : t.Extends s o)

include h

/-- Where the added parameter is passed over, the parameters are the same. -/
theorem filter_eq {test : Parameter → Bool} (ho : test o = false) :
    t.parameters.filter test = s.parameters.filter test := by
  obtain ⟨before, after, hs, ht⟩ := h.inserted
  rw [hs, ht, List.filter_append, List.filter_append, List.filter_cons_of_neg (by simp [ho])]

theorem positionals_eq : t.positionals = s.positionals := by
  unfold positionals
  rw [h.filter_eq (by rw [h.position]; rfl)]

theorem agree {words : List Word} (hread : s.ReadAlike t words) : s.Agree t words :=
  ⟨hread, h.positionals_eq⟩

variable {words : List Word} (hread : s.ReadAlike t words) (converter : Converter)

include hread

/-- The same parameters are matched in the same way. -/
theorem made_eq : (transcript converter t words).fallbacks = (transcript converter s words).fallbacks ∧
    (transcript converter t words).made = (transcript converter s words).made := by
  have hagree := h.agree hread
  have hfallbacks : (transcript converter t words).fallbacks =
      (transcript converter s words).fallbacks := by
    change Collector.fallbacks converter t.parameters _ = Collector.fallbacks converter s.parameters _
    rw [← Collector.fallbacks_filter, ← Collector.fallbacks_filter converter s.parameters,
      h.filter_eq (by rw [h.fallback]; rfl)]
    exact (hagree.afterSettlement_abreast converter).fallbacks converter _
  refine ⟨hfallbacks, ?_⟩
  rw [Transcript.made, Transcript.made, hagree.flagged_eq, (hagree.bindings_eq converter).1,
    hfallbacks]

theorem missing_eq :
    (transcript converter t words).missing = (transcript converter s words).missing := by
  have hmatched : ∀ p, (afterFallbacks converter t words).matched p =
      (afterFallbacks converter s words).matched p := by
    intro p
    rw [Bool.eq_iff_iff, matched_afterFallbacks, matched_afterFallbacks,
      (h.made_eq hread converter).2]
  change t.parameters.filter _ = s.parameters.filter _
  simp only [hmatched]
  exact h.filter_eq (by rw [h.required]; rfl)

theorem entries_eq : (collect converter t words).entries = (collect converter s words).entries := by
  rw [collect_entries_eq_map_settled, collect_entries_eq_map_settled, (h.made_eq hread converter).2,
    ((h.agree hread).bindings_eq converter).2.1]

/-- The faults are the same, but for the suggestions. -/
theorem faults_eq : (collect converter t words).faults =
    (collect converter s words).faults.map (Fault.retold t) := by
  obtain ⟨hbindings, hclaimed, _⟩ := (h.agree hread).bindings_eq converter
  have hrest : ∀ claimed, (((transcript converter s words).bindings ++
      (transcript converter s words).fallbacks).flatMap (Match.standing claimed)).map (Fault.retold t) =
        ((transcript converter s words).bindings ++
          (transcript converter s words).fallbacks).flatMap (Match.standing claimed) := by
    intro claimed
    rw [List.map_flatMap]
    refine List.flatMap_congr fun m hm => Match.map_retold_standing t ?_ claimed
    obtain hm | hm := List.mem_append.mp hm
    · exact coherent_of_mem_transcript (mem_made_of_mem_bindings hm)
    · exact coherent_of_mem_transcript (mem_made_of_mem_fallbacks hm)
  have hmissing : ((transcript converter s words).missing.map Fault.missing).map (Fault.retold t) =
      (transcript converter s words).missing.map .missing := by
    rw [List.map_map]
    rfl
  have hturns := (h.agree hread).flatMap_standing_turns converter
    (transcript converter s words).claimed
  rw [collect_faults_eq_standing, collect_faults_eq_standing, List.map_append, List.map_append,
    hrest, hmissing, hbindings, hclaimed, (h.made_eq hread converter).1, h.missing_eq hread]
  exact congrArg (· ++ _ ++ _) hturns

end Schema.Extends

/-- A parameter that takes no part of its own can be added anywhere: a command line that reads as before
comes to the same results, the same positional texts, and the same faults with other suggestions. -/
theorem parse_extended (converter : Converter) {s t : Schema} {o : Parameter} (h : t.Extends s o)
    {texts : List String} (hread : ∀ text ∈ texts, t.read text = s.read text) :
    let outcome := parse converter s texts
    let extended := parse converter t texts
    extended.results = outcome.results ∧ extended.positional = outcome.positional ∧
      Outcome.sameAll Fault.same extended.faults outcome.faults = true ∧
      extended.faults = outcome.faults.map (Fault.retold t) := by
  intro outcome extended
  have hwords : s.ReadAlike t (Word.ofTexts 0 texts) := (Word.forall_mem_ofTexts_iff 0).mpr hread
  have hfaults : extended.faults = outcome.faults.map (Fault.retold t) :=
    h.faults_eq hwords converter
  refine ⟨h.entries_eq hwords converter, ?_, ?_, hfaults⟩
  · change (collect ..).leftovers.map Word.text = (collect ..).leftovers.map Word.text
    rw [collect_leftovers, collect_leftovers, (h.agree hwords).leftovers_eq]
  · rw [hfaults]
    exact Outcome.sameAll_map_retold t outcome.faults

theorem pairwise_insert_oneWordFlag :
    (switchAndItems.parameters.insertIdx 1 oneWordFlag).Pairwise Parameter.Compatible := by
  have hswitch : (shortFlag 0 'v' (.scalar (.known .boolean)) rfl).Compatible oneWordFlag :=
    ⟨by decide, by simp [shortFlag], by simp [shortFlag, oneWordFlag], by simp [shortFlag]⟩
  have hitems : oneWordFlag.Compatible (shortFlag 1 'i' (.list .raw) rfl) :=
    ⟨by decide, by simp [shortFlag], by simp [shortFlag, oneWordFlag], by simp [oneWordFlag]⟩
  exact .cons
    (List.forall_mem_cons.mpr
      ⟨hswitch, List.forall_mem_singleton.mpr (compatible_shortFlag (by decide))⟩)
    (List.pairwise_pair.mpr hitems)

/-- A switch and a flag for words, and between them a flag for one word. -/
def switchNameItems : Schema :=
  ⟨switchAndItems.parameters.insertIdx 1 oneWordFlag, pairwise_insert_oneWordFlag⟩

theorem switchNameItems_extends : switchNameItems.Extends switchAndItems oneWordFlag where
  inserted := ⟨[_], [_], rfl, rfl⟩
  position := rfl
  fallback := rfl
  required := rfl

/-- The flag that was misspelled is suggested where it is declared, and nothing else is different. -/
theorem parse_extended_switch_items :
    let texts := ["-v", "--nam", "-i", "a"]
    let outcome := parse .standard switchAndItems texts
    let extended := parse .standard switchNameItems texts
    extended.results = outcome.results ∧ extended.positional = outcome.positional ∧
      Outcome.sameAll Fault.same extended.faults outcome.faults = true ∧
      extended.faults = outcome.faults.map (Fault.retold switchNameItems) := by
  have hread : ∀ text ∈ ["-v", "--nam", "-i", "a"],
      switchNameItems.read text = switchAndItems.read text := by
    decide +kernel
  exact parse_extended .standard switchNameItems_extends hread

end CommandLine
