import CommandLine.Proofs.Accounting
import CommandLine.Proofs.Match.Anchor
import CommandLine.Proofs.Order.Results
import CommandLine.Proofs.Transcript.Course

namespace CommandLine

/-- Words as those of their texts, moved to other places. -/
theorem Word.exists_eq_map_move (words : List Word) :
    ∃ f : Nat → Nat, words = (ofTexts 0 (words.map text)).map (·.move f) := by
  refine ⟨fun i => (words[i]?.map index).getD 0, List.ext_getElem ?_ fun i hi hi' => ?_⟩
  · simp [ofTexts]
  · simp [ofTexts, move, hi]

theorem Reading.isFlag_eq_false_iff {reading : Reading} :
    reading.isFlag = false ↔ reading = .literal := by
  cases reading <;> simp [isFlag]

section

variable (converter : Converter) {schema : Schema} {words : List Word}
  (hliterals : ∀ w ∈ words, schema.read w.text = .literal)

include hliterals

/-- Words that are all literals are left over one by one. -/
theorem turns_of_literals : turns converter schema words = words.map Turn.left := by
  have hreads := turns_reads converter schema (words ++ [])
  obtain ⟨later, hturns, hnone⟩ := hreads.eq_left_append hliterals
  cases hnone
  rwa [List.append_nil, List.append_nil] at hturns

/-- No flag matches anything on a command line of literals. -/
theorem flagged_of_literals : (transcript converter schema words).flagged = [] := by
  change (turns converter schema words).flatMap Turn.made = []
  rw [turns_of_literals converter hliterals, List.flatMap_map]
  exact List.flatMap_eq_nil_iff.mpr fun _ _ => rfl

theorem leftovers_of_literals : (afterFlags converter schema words).collector.leftovers = words := by
  rw [leftovers_afterFlags, turns_of_literals converter hliterals, List.flatMap_map]
  exact List.flatMap_singleton' words

theorem entries_of_literals : (afterFlags converter schema words).collector.entries = [] := by
  rw [(afterFlags_reaches converter schema words).entries]
  change [] ++ (transcript converter schema words).flagged.map Match.entry = []
  rw [flagged_of_literals converter hliterals]
  rfl

/-- Literals make no faults but those of too few words, of refused conversions and of missing
parameters. -/
theorem kind_of_literals {fault : Fault} (hfault : fault ∈ (collect converter schema words).faults) :
    fault.kind ≠ .unrecognised ∧ fault.kind ≠ .tooMany := by
  have hnone : (transcript converter schema words).turns.flatMap
      (Turn.standing (transcript converter schema words).claimed) = [] := by
    change (turns converter schema words).flatMap _ = []
    rw [turns_of_literals converter hliterals, List.flatMap_map]
    exact List.flatMap_eq_nil_iff.mpr fun _ _ => rfl
  rw [collect_faults_eq_standing, hnone, List.nil_append, List.mem_append] at hfault
  obtain hfault | hfault := hfault
  · obtain ⟨m, hm, hfault⟩ := List.mem_flatMap.mp hfault
    have hmade : m ∈ (transcript converter schema words).made := by
      rw [Transcript.made, List.append_assoc]
      exact List.mem_append_right _ hm
    have hpending : m.resolution.pending = none := by
      obtain hm | hm := List.mem_append.mp hm
      · exact pending_of_mem_bindings hm
      · exact pending_of_mem_fallbacks hm
    obtain ⟨r, hr, rfl⟩ := List.mem_map.mp (List.mem_filter.mp hfault).1
    obtain hkind | hkind :=
      (coherent_of_mem_transcript hmade).kind_of_pending_eq_none hpending hr <;> simp [hkind]
  · obtain ⟨p, _, rfl⟩ := List.mem_map.mp hfault
    simp [Fault.kind]

/-- A command line of literals comes back as a whole. -/
theorem positional_of_literals :
    (collect converter schema words).freeze.positional = words.map Word.text := by
  change (collect ..).leftovers.map Word.text = _
  rw [collect_leftovers, leftovers_of_literals converter hliterals]

end

/-- A word that is left over is a literal. -/
theorem read_of_mem_leftovers {converter : Converter} {schema : Schema} {words : List Word} {w : Word}
    (hw : w ∈ (afterFlags converter schema words).collector.leftovers) :
    schema.read w.text = .literal := by
  have hplays : Plays converter schema words w .left := hw
  exact suits_of_plays hplays

/-- The results of a parse by the phases that they come from; positions keep their values. -/
theorem collect_entries_eq_phases (converter : Converter) (schema : Schema) (words : List Word) :
    let t := transcript converter schema words
    (collect converter schema words).entries =
      t.flagged.map (Match.settled t.claimed) ++ t.bindings.map Match.entry ++
        t.fallbacks.map Match.entry := by
  intro t
  rw [collect_entries_eq_map_settled, Transcript.made, List.map_append, List.map_append,
    List.map_congr_left fun m hm => Match.settled_of_pending (pending_of_mem_bindings hm) _,
    List.map_congr_left fun m hm => Match.settled_of_pending (pending_of_mem_fallbacks hm) _]

/-- What comes of the leftovers of a parse when they are parsed by themselves. -/
structure Reparsed (converter : Converter) (schema : Schema) (texts leftovers : List String) :
    Prop where
  positional : (parse converter schema leftovers).positional = leftovers
  faults : ∀ fault ∈ (parse converter schema leftovers).faults,
    fault.kind ≠ .unrecognised ∧ fault.kind ≠ .tooMany
  flags : (afterFlags converter schema (Word.ofTexts 0 leftovers)).collector.entries = []
  /-- If no flag was there before a position, the positions are bound as in the first parse, by a
  converter that does not remember what the flags asked. -/
  bound : converter.Stateless →
    (∀ p ∈ schema.parameters, p.position.isSome = true →
      (afterFlags converter schema (Word.ofTexts 0 texts)).collector.matched p = false) →
    ∃ flagged bound filled filled',
      (parse converter schema texts).results = flagged ++ bound ++ filled ∧
        (afterFlags converter schema (Word.ofTexts 0 texts)).collector.entries.map Entry.parameter =
          flagged.map Entry.parameter ∧
        (afterBinding converter schema (Word.ofTexts 0 texts)).entries.map Entry.parameter =
          (flagged ++ bound).map Entry.parameter ∧
        (parse converter schema leftovers).results = bound ++ filled' ∧
        (afterBinding converter schema (Word.ofTexts 0 leftovers)).entries = bound

section

variable {converter : Converter} {schema : Schema} {words : List Word} {texts : List String}

/-- Positions that no flag was before bind the leftovers by themselves as they do behind the flags. -/
theorem map_entry_bindings_eq (hstateless : converter.Stateless)
    (hliterals : ∀ w ∈ Word.ofTexts 0 texts, schema.read w.text = .literal)
    (htexts : (afterFlags converter schema words).collector.leftovers.map Word.text = texts)
    (hnew : ∀ p ∈ schema.parameters, p.position.isSome = true →
      (afterFlags converter schema words).collector.matched p = false) :
    (transcript converter schema (Word.ofTexts 0 texts)).bindings.map Match.entry =
      (transcript converter schema words).bindings.map Match.entry := by
  obtain ⟨f, hmove⟩ :=
    Word.exists_eq_map_move (afterFlags converter schema words).collector.leftovers
  rw [htexts] at hmove
  have halike : Collector.AlikeOn converter schema.positionals
      (afterFlags converter schema (Word.ofTexts 0 texts)).collector
      (afterFlags converter schema words).collector := by
    refine ⟨fun p hp => ?_, hstateless.confuses _ _⟩
    obtain ⟨hdeclared, hposition⟩ := schema.mem_positionals_iff.mp hp
    rw [hnew p hdeclared hposition, Collector.matched, entries_of_literals converter hliterals]
    rfl
  obtain ⟨haccounts, _⟩ := Collector.bindEach_move id f _ (Word.ofTexts 0 texts) halike
  rw [← hmove] at haccounts
  have hentries := congrArg (List.map fun a : Match.Account => Entry.mk a.parameter a.value) haccounts
  simp only [List.map_map] at hentries
  have hleft := leftovers_of_literals converter hliterals
  change ((afterFlags ..).collector.bindings converter schema.positionals
    (afterFlags converter schema (Word.ofTexts 0 texts)).collector.leftovers).map Match.entry = _
  rw [hleft]
  exact hentries.symm

/-- What a parse leaves over is parsed to the same leftovers. -/
theorem reparsed_of_leftovers (converter : Converter) (schema : Schema) (texts : List String) :
    Reparsed converter schema texts (parse converter schema texts).positional := by
  have htexts : (afterFlags converter schema (Word.ofTexts 0 texts)).collector.leftovers.map Word.text =
      (parse converter schema texts).positional := by
    rw [← collect_leftovers]
    rfl
  generalize (parse converter schema texts).positional = leftovers at htexts ⊢
  have hread : ∀ text ∈ leftovers, schema.read text = .literal := by
    rw [← htexts, List.forall_mem_map]
    exact fun w hw => read_of_mem_leftovers hw
  have hliterals : ∀ w ∈ Word.ofTexts 0 leftovers, schema.read w.text = .literal :=
    (Word.forall_mem_ofTexts_iff 0).mpr hread
  constructor
  case positional =>
    exact (positional_of_literals converter hliterals).trans (Word.map_text_ofTexts 0 leftovers)
  case faults => exact fun fault hfault => kind_of_literals converter hliterals hfault
  case flags => exact entries_of_literals converter hliterals
  case bound =>
    intro hstateless hnew
    have hbound := map_entry_bindings_eq hstateless hliterals htexts hnew
    have hfirst := collect_entries_eq_phases converter schema (Word.ofTexts 0 texts)
    have hsecond := collect_entries_eq_phases converter schema (Word.ofTexts 0 leftovers)
    dsimp only at hsecond
    rw [flagged_of_literals converter hliterals, hbound] at hsecond
    refine ⟨_, _, _, _, hfirst, ?_, ?_, hsecond, ?_⟩
    · rw [map_parameter_afterFlags, List.map_map]
      rfl
    · rw [map_parameter_afterBinding]
      simp only [List.map_append, List.map_map]
      rfl
    · rw [(afterBinding_eq converter schema _).1, flagged_of_literals converter hliterals, ← hbound]
      rfl

end

/-- The leftovers of a parse are what a parse of them leaves over. -/
theorem parse_leftovers (converter : Converter) (schema : Schema) (texts : List String) :
    Reparsed converter schema texts (parse converter schema texts).positional ∧
      ((∀ text ∈ texts, (schema.read text).isFlag = false) →
        (parse converter schema texts).positional = texts) := by
  refine ⟨reparsed_of_leftovers converter schema texts, fun hplain => ?_⟩
  have hliterals : ∀ w ∈ Word.ofTexts 0 texts, schema.read w.text = .literal :=
    (Word.forall_mem_ofTexts_iff 0).mpr fun text htext =>
      Reading.isFlag_eq_false_iff.mp (hplain text htext)
  exact (positional_of_literals converter hliterals).trans (Word.map_text_ofTexts 0 texts)

end CommandLine
