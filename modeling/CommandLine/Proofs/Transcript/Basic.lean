import CommandLine.Proofs.Cursor.Scan
import CommandLine.Proofs.Transcript.Binding
import CommandLine.Proofs.Transcript.Settlement

namespace CommandLine

/-- The course of a parse of words. -/
structure Transcript where
  turns : List Turn
  /-- The matches of positions. -/
  bindings : List Match
  /-- The places of the words that positions claimed. -/
  claimed : List Nat
  /-- The matches by fallbacks. -/
  fallbacks : List Match
  /-- The required parameters that nothing matched. -/
  missing : List Parameter

namespace Transcript

/-- The matches of flags. -/
def flagged (t : Transcript) : List Match :=
  t.turns.flatMap Turn.made

/-- All matches in their order. -/
def made (t : Transcript) : List Match :=
  t.flagged ++ t.bindings ++ t.fallbacks

/-- The resolutions whose overflow was pending. -/
def overflows (t : Transcript) : List Resolution :=
  (t.flagged.map Match.resolution).filter (·.pending.isSome)

/-- The overflows that were withdrawn. -/
def withdrawn (t : Transcript) : List RecordedFault :=
  withdrawnFaults t.claimed t.overflows

/-- The parameters that lost their value to an overflow. -/
def confirmed (t : Transcript) : List Parameter :=
  confirmedParameters t.claimed t.overflows

/-- The faults that were recorded before the overflows were settled. -/
def early (t : Transcript) : List RecordedFault :=
  t.turns.flatMap Turn.recorded ++ t.bindings.flatMap (·.trail.recorded)

end Transcript

/-- The places of the leftovers that positions claim. -/
def Progress.claimed (converter : Converter) (s : Progress) : List Nat :=
  ((s.collector.bind converter).2.filter (·.claimant.isSome)).map (·.word.index)

section

variable (converter : Converter) (schema : Schema) (words : List Word)

/-- The state of a parse after all flags. -/
def afterFlags : Progress :=
  .ofStream converter schema (.ofWords schema words)

/-- The collector of a parse once the positions are bound. -/
def afterBinding : Collector :=
  ((afterFlags converter schema words).collector.bind converter).1

/-- The collector of a parse once the overflows are settled. -/
def afterSettlement : Collector :=
  (afterFlags converter schema words).bindPositions converter

/-- The collector of a parse once the fallbacks are applied. -/
def afterFallbacks : Collector :=
  schema.parameters.foldl (Collector.applyFallback converter)
    (afterSettlement converter schema words)

/-- The transcript of a parse of words. -/
def transcript : Transcript where
  turns := turns converter schema words
  bindings := (afterFlags converter schema words).collector.bindings converter schema.positionals
    (afterFlags converter schema words).collector.leftovers
  claimed := (afterFlags converter schema words).claimed converter
  fallbacks := (afterSettlement converter schema words).fallbacks converter schema.parameters
  missing := schema.parameters.filter fun p =>
    p.required && !(afterFallbacks converter schema words).matched p

theorem afterSettlement_eq_foldl :
    afterSettlement converter schema words =
      (afterFlags converter schema words).overflows.foldl
        (Collector.settleOverflow (transcript converter schema words).claimed)
        (afterBinding converter schema words) := rfl

theorem collect_eq_foldl :
    collect converter schema words =
      schema.parameters.foldl Collector.reportMissing (afterFallbacks converter schema words) := rfl

/-- The flag loop goes through the turns of the transcript and ends where it ends. -/
theorem afterFlags_reaches :
    Progress.Reaches converter ⟨.new schema, []⟩ (transcript converter schema words).turns
      (afterFlags converter schema words) :=
  ofStream_reaches converter schema words

theorem schema_afterFlags : (afterFlags converter schema words).collector.schema = schema :=
  (Collector.kept_schema schema).ofStream converter schema _ rfl

theorem schema_afterSettlement : (afterSettlement converter schema words).schema = schema :=
  (Collector.kept_schema schema).bindPositions converter _ (schema_afterFlags converter schema words)

/-- What is left over are the leftovers of the turns. -/
theorem leftovers_afterFlags :
    (afterFlags converter schema words).collector.leftovers =
      (turns converter schema words).flatMap Turn.leftovers :=
  (afterFlags_reaches converter schema words).leftovers

/-- Binding accepts the matches that the transcript calls bindings. -/
theorem afterBinding_accepts :
    Collector.Accepts converter (afterFlags converter schema words).collector
      (transcript converter schema words).bindings (afterBinding converter schema words) := by
  have h := Collector.bindEach_accepts converter schema.positionals
    (afterFlags converter schema words).collector.leftovers
    (afterFlags converter schema words).collector
  unfold afterBinding Collector.bind
  rwa [schema_afterFlags]

/-- The bindings of the transcript are those that the leftovers of the flags allow. -/
theorem binds_transcript :
    Collector.Binds converter schema.positionals (afterFlags converter schema words).collector.leftovers
      (transcript converter schema words).bindings :=
  Collector.binds_bindings ..

/-- The fallbacks of the transcript are accepted when the overflows are settled. -/
theorem afterFallbacks_accepts :
    Collector.Accepts converter (afterSettlement converter schema words)
      (transcript converter schema words).fallbacks (afterFallbacks converter schema words) :=
  Collector.applyFallback_accepts converter schema.parameters _

end

namespace Collector

/-- Reporting missing parameters records one fault for each of them and changes nothing else. -/
theorem reportMissing_eq (ps : List Parameter) (c : Collector) :
    (ps.foldl reportMissing c).entries = c.entries ∧
      (ps.foldl reportMissing c).leftovers = c.leftovers ∧
      (ps.foldl reportMissing c).requests = c.requests ∧
      (ps.foldl reportMissing c).faults =
        c.faults ++ (ps.filter fun p => p.required && !c.matched p).map .missing := by
  induction ps generalizing c with
  | nil => simp
  | cons p rest ih =>
    rw [List.foldl_cons, List.filter_cons]
    by_cases hmissing : (p.required && !c.matched p) = true
    · have hstep : c.reportMissing p = (c.record (.missing p)).1 := if_pos hmissing
      obtain ⟨hentries, hleftovers, hrequests, hfaults⟩ := ih (c.reportMissing p)
      have hmatched : ∀ q, (c.reportMissing p).matched q = c.matched q := by
        intro q
        rw [hstep]
        rfl
      rw [hentries, hleftovers, hrequests, hfaults, if_pos hmissing]
      simp only [hmatched]
      rw [hstep]
      simp [record, note, faults]
    · have hstep : c.reportMissing p = c := if_neg hmissing
      rw [hstep, if_neg hmissing]
      exact ih c

end Collector

section

variable {converter : Converter} {schema : Schema} {words : List Word}

/-- Every match of a transcript came about as matches do. -/
theorem made_of_mem_transcript {m : Match} (hm : m ∈ (transcript converter schema words).made) :
    Match.Made converter m := by
  obtain hm | hm := List.mem_append.mp hm
  · obtain hm | hm := List.mem_append.mp hm
    · exact (afterFlags_reaches converter schema words).made m hm
    · exact (afterBinding_accepts converter schema words).made m hm
  · exact (afterFallbacks_accepts converter schema words).made m hm

/-- Every match that a parse makes coheres. -/
theorem coherent_of_mem_transcript {m : Match}
    (hm : m ∈ (transcript converter schema words).made) : m.Coherent :=
  (made_of_mem_transcript hm).coherent

/-- A match of a flag is made at a turn. -/
theorem exists_turn_of_mem_flagged {m : Match}
    (hm : m ∈ (transcript converter schema words).flagged) :
    ∃ flag fresh run made, .matched flag fresh run made ∈ turns converter schema words ∧ m ∈ made := by
  obtain ⟨t, ht, hm⟩ := List.mem_flatMap.mp hm
  cases t with
  | matched flag fresh run made => exact ⟨flag, fresh, run, made, ht, hm⟩
  | _ => cases hm

theorem mem_made_of_mem_flagged {t : Transcript} {m : Match} (hm : m ∈ t.flagged) : m ∈ t.made :=
  List.mem_append_left _ (List.mem_append_left _ hm)

/-- The faults of a match by flag are told before any overflow is settled. -/
theorem recorded_subset_early {t : Transcript} {m : Match} (hm : m ∈ t.flagged) :
    m.trail.recorded ⊆ t.early := by
  intro r hr
  obtain ⟨turn, hturn, hm⟩ := List.mem_flatMap.mp hm
  apply List.mem_append_left
  refine List.mem_flatMap.mpr ⟨turn, hturn, ?_⟩
  cases turn with
  | matched flag fresh run made => exact List.mem_flatMap.mpr ⟨m, hm, hr⟩
  | _ => cases hm

/-- A withdrawn fault is the pending one of a match whose surplus was claimed as a whole. -/
theorem mem_withdrawn {t : Transcript} {r : RecordedFault} :
    r ∈ t.withdrawn ↔
      ∃ m ∈ t.flagged, m.resolution.absorbed t.claimed = true ∧ m.resolution.pending = some r := by
  unfold Transcript.withdrawn
  rw [mem_withdrawnFaults]
  constructor
  · rintro ⟨resolution, hresolution, habsorbed, hpending⟩
    obtain ⟨m, hm, rfl⟩ := List.mem_map.mp (List.mem_filter.mp hresolution).1
    exact ⟨m, hm, habsorbed, hpending⟩
  · rintro ⟨m, hm, habsorbed, hpending⟩
    refine ⟨m.resolution, List.mem_filter.mpr ⟨List.mem_map_of_mem hm, ?_⟩, habsorbed, hpending⟩
    rw [hpending]
    rfl

/-- A confirmed parameter has a pending overflow of which some word was not claimed. -/
theorem mem_confirmed {t : Transcript} {p : Parameter} :
    p ∈ t.confirmed ↔
      ∃ m ∈ t.flagged, m.resolution.pending.isSome = true ∧
        m.resolution.absorbed t.claimed = false ∧ m.parameter = p := by
  unfold Transcript.confirmed
  rw [mem_confirmedParameters]
  constructor
  · rintro ⟨resolution, hresolution, hpending, habsorbed, hp⟩
    obtain ⟨m, hm, rfl⟩ := List.mem_map.mp (List.mem_filter.mp hresolution).1
    exact ⟨m, hm, hpending, habsorbed, hp⟩
  · rintro ⟨m, hm, hpending, habsorbed, hp⟩
    exact ⟨m.resolution, List.mem_filter.mpr ⟨List.mem_map_of_mem hm, hpending⟩, hpending, habsorbed,
      hp⟩

/-- Only overflows are withdrawn. -/
theorem kind_of_mem_withdrawn {r : RecordedFault}
    (hr : r ∈ (transcript converter schema words).withdrawn) : r.fault.kind = .tooMany := by
  obtain ⟨m, hm, _, hpending⟩ := mem_withdrawn.mp hr
  have hcoherent := coherent_of_mem_transcript (mem_made_of_mem_flagged hm)
  exact (hcoherent.pending_eq_some_iff.mp hpending).2

/-- What is withdrawn was told before. -/
theorem withdrawn_subset_early :
    (transcript converter schema words).withdrawn ⊆ (transcript converter schema words).early := by
  intro r hr
  obtain ⟨m, hm, _, hpending⟩ := mem_withdrawn.mp hr
  have hcoherent := coherent_of_mem_transcript (mem_made_of_mem_flagged hm)
  exact recorded_subset_early hm (hcoherent.pending_eq_some_iff.mp hpending).1

end

section

variable (converter : Converter) (schema : Schema) (words : List Word)

/-- What the collector holds before the overflows are settled. -/
theorem afterBinding_eq :
    let t := transcript converter schema words
    (afterBinding converter schema words).entries = (t.flagged ++ t.bindings).map Match.entry ∧
      (afterBinding converter schema words).leftovers = t.turns.flatMap Turn.leftovers ∧
      (afterBinding converter schema words).recorded = t.early ∧
      (afterBinding converter schema words).requests =
        (t.flagged ++ t.bindings).flatMap (·.trail.requests) := by
  have hreach := afterFlags_reaches converter schema words
  obtain ⟨journal, hbound⟩ := (afterBinding_accepts converter schema words).eq
  rw [hbound]
  dsimp only [Collector.accept]
  rw [hreach.entries, hreach.leftovers, hreach.recorded, hreach.requests]
  simp [Collector.new, Transcript.flagged, Transcript.early]

/-- The overflows that the collector keeps are those of the transcript. -/
theorem afterFlags_overflows :
    (afterFlags converter schema words).overflows = (transcript converter schema words).overflows := by
  rw [(afterFlags_reaches converter schema words).overflows]
  rfl

theorem afterBinding_ticketed : (afterBinding converter schema words).Ticketed :=
  Collector.kept_ticketed.bind converter
    (Collector.kept_ticketed.ofStream converter schema _ ⟨.nil, by simp [Collector.new]⟩)

/-- The parameters of pending overflows are entered. -/
theorem matched_of_mem_overflows :
    ∀ r ∈ (transcript converter schema words).overflows,
      (afterBinding converter schema words).matched r.parameter = true := by
  intro r hr
  obtain ⟨m, hm, rfl⟩ := List.mem_map.mp (List.mem_filter.mp hr).1
  rw [Collector.matched_iff, (afterBinding_eq converter schema words).1, List.map_map]
  exact List.mem_map.mpr ⟨m, List.mem_append_left _ hm, rfl⟩

/-- What the collector holds once the overflows are settled. -/
theorem afterSettlement_eq :
    let t := transcript converter schema words
    (afterSettlement converter schema words).entries =
        (t.flagged ++ t.bindings).map (fun m => m.entry.clear t.confirmed) ∧
      (afterSettlement converter schema words).leftovers = t.turns.flatMap Turn.leftovers ∧
      (afterSettlement converter schema words).recorded = t.early.filter (fun r => r ∉ t.withdrawn) ∧
      (afterSettlement converter schema words).requests =
        (t.flagged ++ t.bindings).flatMap (·.trail.requests) := by
  intro t
  obtain ⟨hentries, hleftovers, hrecorded, hrequests⟩ := afterBinding_eq converter schema words
  obtain ⟨journal, hsettle⟩ := Collector.settle_eq t.claimed
    (matched_of_mem_overflows converter schema words)
  have hstand := Collector.filter_ticket_ne t.withdrawn
    (afterBinding_ticketed converter schema words) (by
      rw [hrecorded]
      exact withdrawn_subset_early)
  rw [hrecorded] at hstand
  rw [afterSettlement_eq_foldl, afterFlags_overflows, hsettle]
  refine ⟨?_, hleftovers, ?_, hrequests⟩
  · dsimp only
    rw [hentries, List.map_map]
    rfl
  · dsimp only
    rw [hrecorded]
    exact hstand

/-- The flag loop has an entry for each match by flag, in their order. -/
theorem map_parameter_afterFlags :
    (afterFlags converter schema words).collector.entries.map Entry.parameter =
      (transcript converter schema words).flagged.map Match.parameter := by
  rw [(afterFlags_reaches converter schema words).entries]
  simp [Collector.new, Transcript.flagged, Function.comp_def]

theorem map_parameter_afterBinding :
    (afterBinding converter schema words).entries.map Entry.parameter =
      ((transcript converter schema words).flagged ++
        (transcript converter schema words).bindings).map Match.parameter := by
  rw [(afterBinding_eq converter schema words).1]
  simp [Function.comp_def]

theorem map_parameter_afterSettlement :
    (afterSettlement converter schema words).entries.map Entry.parameter =
      ((transcript converter schema words).flagged ++
        (transcript converter schema words).bindings).map Match.parameter := by
  rw [(afterSettlement_eq converter schema words).1]
  simp [Function.comp_def]

/-- The parameters that were entered are those of the matches, in their order. -/
theorem map_parameter_afterFallbacks :
    (afterFallbacks converter schema words).entries.map Entry.parameter =
      (transcript converter schema words).made.map Match.parameter := by
  obtain ⟨journal, hfallbacks⟩ := (afterFallbacks_accepts converter schema words).eq
  rw [hfallbacks]
  dsimp only [Collector.accept]
  rw [List.map_append, map_parameter_afterSettlement]
  simp [Transcript.made, Function.comp_def]

/-- No parameter is matched twice in a parse. -/
theorem nodup_made : ((transcript converter schema words).made.map Match.parameter).Nodup := by
  have hdistinct : (collect converter schema words).Distinct :=
    Collector.kept_distinct.collect converter schema words List.nodup_nil
  rw [Collector.Distinct, collect_eq_foldl, (Collector.reportMissing_eq _ _).1] at hdistinct
  rwa [map_parameter_afterFallbacks] at hdistinct

/-- A match by a fallback is not among those whose overflow stands. -/
private theorem clear_fallback {m : Match}
    (hm : m ∈ (transcript converter schema words).fallbacks) :
    m.entry.clear (transcript converter schema words).confirmed = m.entry := by
  apply Entry.clear_of_notMem
  intro hconfirmed
  obtain ⟨other, hother, _, _, heq⟩ := mem_confirmed.mp hconfirmed
  have hnodup := nodup_made converter schema words
  rw [Transcript.made, List.map_append] at hnodup
  exact List.disjoint_of_nodup_append hnodup
    (List.mem_map.mpr ⟨other, List.mem_append_left _ hother, heq⟩) (List.mem_map_of_mem hm)

/-- The entries at the end of a parse are those of its matches, in order; a match whose overflow
stands has lost its value. -/
theorem collect_entries :
    (collect converter schema words).entries =
      (transcript converter schema words).made.map
        (fun m => m.entry.clear (transcript converter schema words).confirmed) := by
  rw [collect_eq_foldl, (Collector.reportMissing_eq _ _).1]
  obtain ⟨journal, hfallbacks⟩ := (afterFallbacks_accepts converter schema words).eq
  rw [hfallbacks]
  dsimp only [Collector.accept]
  rw [(afterSettlement_eq converter schema words).1,
    ← List.map_congr_left fun m hm => clear_fallback converter schema words hm]
  exact List.map_append.symm

/-- What is left over after the flags stays over to the end. -/
theorem collect_leftovers :
    (collect converter schema words).leftovers =
      (afterFlags converter schema words).collector.leftovers := by
  rw [collect_eq_foldl, (Collector.reportMissing_eq _ _).2.1]
  obtain ⟨journal, hfallbacks⟩ := (afterFallbacks_accepts converter schema words).eq
  rw [hfallbacks, leftovers_afterFlags]
  exact (afterSettlement_eq converter schema words).2.1

/-- A parse asks the converter for the requests of its matches, in their order. -/
theorem collect_requests :
    (collect converter schema words).requests =
      (transcript converter schema words).made.flatMap (·.trail.requests) := by
  rw [collect_eq_foldl, (Collector.reportMissing_eq _ _).2.2.1]
  obtain ⟨journal, hfallbacks⟩ := (afterFallbacks_accepts converter schema words).eq
  rw [hfallbacks]
  dsimp only [Collector.accept]
  rw [(afterSettlement_eq converter schema words).2.2.2]
  simp [Transcript.made]

/-- The faults of a parse are those of the flags and positions less the withdrawn ones, then those of
the fallbacks, then the missing parameters. -/
theorem collect_faults :
    let t := transcript converter schema words
    (collect converter schema words).faults =
      (t.early.filter (fun r => r ∉ t.withdrawn)).map RecordedFault.fault ++
        (t.fallbacks.flatMap (·.trail.recorded)).map RecordedFault.fault ++
        t.missing.map .missing := by
  intro t
  rw [collect_eq_foldl, (Collector.reportMissing_eq _ _).2.2.2]
  obtain ⟨journal, hfallbacks⟩ := (afterFallbacks_accepts converter schema words).eq
  congr 1
  rw [hfallbacks]
  dsimp only [Collector.accept, Collector.faults]
  rw [(afterSettlement_eq converter schema words).2.2.1, List.map_append]

/-- The matches of a parse know the requests that were made before them. -/
theorem linked_made : Match.Linked [] (transcript converter schema words).made := by
  have hreach := afterFlags_reaches converter schema words
  refine Match.linked_append.mpr ⟨Match.linked_append.mpr ⟨hreach.linked, ?_⟩, ?_⟩
  · have hlinked := (afterBinding_accepts converter schema words).linked
    rwa [hreach.requests] at hlinked
  · have hlinked := (afterFallbacks_accepts converter schema words).linked
    rwa [(afterSettlement_eq converter schema words).2.2.2] at hlinked

end

end CommandLine
