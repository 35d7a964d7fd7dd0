import CommandLine.Proofs.Match.Outline
import CommandLine.Proofs.Transcript.Outcome

namespace CommandLine

namespace Collector

/-- Two collectors that have entered the same parameters, with whatever values. -/
structure Alike (c d : Collector) : Prop where
  schema : c.schema = d.schema
  entered : c.entries.map Entry.parameter = d.entries.map Entry.parameter

namespace Alike

variable {c d : Collector}

theorem matched (h : Alike c d) (p : Parameter) : c.matched p = d.matched p := by
  rw [Bool.eq_iff_iff, matched_iff, matched_iff, h.entered]

theorem note (h : Alike c d) (event : Event) : Alike (c.note event) (d.note event) :=
  ⟨h.schema, h.entered⟩

theorem extend (h : Alike c d) (first second : Trail) : Alike (c.extend first) (d.extend second) :=
  ⟨h.schema, h.entered⟩

/-- Entries stay alike whatever values they get. -/
theorem enter (h : Alike c d) (p : Parameter) (first second : Value) :
    Alike (c.enter p first) (d.enter p second) := by
  cases hc : c.matched p with
  | true =>
    have hd : d.matched p = true := (h.matched p).symm.trans hc
    rw [enter_of_matched hc, enter_of_matched hd]
    exact h.note _
  | false =>
    have hd : d.matched p = false := (h.matched p).symm.trans hc
    rw [enter_of_new hc, enter_of_new hd]
    refine ⟨h.schema, ?_⟩
    dsimp only [Collector.note]
    rw [List.map_append, List.map_append, h.entered]
    rfl

/-- The same members of a group are fresh. -/
theorem freshOf (h : Alike c d) (flag : Word) (fresh ps : List Parameter) :
    (freshOf flag fresh ps c).2 = (freshOf flag fresh ps d).2 := by
  induction ps generalizing c d fresh with
  | nil => rfl
  | cons p rest ih =>
    unfold Collector.freshOf
    rw [h.matched p]
    split
    · exact ih (h.note _) fresh
    · exact ih h _

end Alike

end Collector

/-- What of a turn does not come from a converter. -/
structure Turn.Outline where
  words : List Word
  extent : Nat
  leftovers : List Word
  /-- The report of an undeclared flag. -/
  reported : List Fault
  made : List Match.Outline

/-- The outline of a turn. -/
def Turn.outline (t : Turn) : Turn.Outline where
  words := t.words
  extent := t.extent
  leftovers := t.leftovers
  reported := match t with
    | undeclared _ reported => [reported.fault]
    | _ => []
  made := t.made.map Match.outline

namespace Progress

variable (first second : Converter) {s s' : Progress}

private theorem longest_eq (ms : List Match) :
    Match.longest ms = ((ms.map Match.outline).map (·.taken.length)).foldl max 0 := by
  rw [List.map_map]
  rfl

private theorem outline_matched {flag : Word} {fresh : List Parameter} {run : List Word}
    {made made' : List Match} (hmade : made.map Match.outline = made'.map Match.outline) :
    (Turn.matched flag fresh run made).outline = (Turn.matched flag fresh run made').outline := by
  simp only [Turn.outline, Turn.words, Turn.extent, Turn.leftovers, Turn.made, longest_eq, hmade]

/-- Alike collectors make the same turn. -/
theorem outline_turn (h : Collector.Alike s.collector s'.collector) (w : Word) (rest : List Word) :
    (s.turn first w rest).2.outline = (s'.turn second w rest).2.outline := by
  unfold turn
  rw [← h.schema]
  cases (s.collector.schema.read w.text).flag? with
  | none => rfl
  | some flag =>
    cases flag with
    | unrecognised =>
      simp only [Turn.outline, Collector.record, Collector.unrecognisedFault, h.schema]
      rfl
    | recognised ps =>
      have hfresh := h.freshOf w [] ps
      dsimp only
      cases hs : s.collector.freshOf w [] ps with
      | mk c fresh =>
        cases hs' : s'.collector.freshOf w [] ps with
        | mk d fresh' =>
          rw [hs, hs'] at hfresh
          dsimp only at hfresh
          subst hfresh
          cases fresh with
          | nil => rfl
          | cons p others => exact outline_matched (Match.map_outline_group ..)

/-- Alike collectors are alike after a turn. -/
theorem alike_turn (h : Collector.Alike s.collector s'.collector) (w : Word) (rest : List Word) :
    Collector.Alike (s.turn first w rest).1.collector (s'.turn second w rest).1.collector := by
  have hs := turn_takes first s w rest
  have hs' := turn_takes second s' w rest
  have hmade := congrArg Turn.Outline.made (outline_turn first second h w rest)
  have hparameters := congrArg (List.map Match.Outline.parameter) hmade
  dsimp only [Turn.outline] at hparameters
  rw [List.map_map, List.map_map] at hparameters
  constructor
  · rw [hs.schema, hs'.schema, h.schema]
  · rw [hs.reaches.entries, hs'.reaches.entries, List.map_append, List.map_append, h.entered,
      List.flatMap_singleton, List.flatMap_singleton, List.map_map, List.map_map]
    exact congrArg _ hparameters

/-- Alike collectors make the same turns all the way. -/
theorem map_outline_scan (words : List Word) (s : Progress) (cursor : Nat) :
    ∀ s' : Progress, Collector.Alike s.collector s'.collector →
      (s.scan first words cursor).2.map Turn.outline =
        (s'.scan second words cursor).2.map Turn.outline := by
  fun_induction scan first words s cursor with
  | case1 s cursor hlt step later ih =>
    intro s' h
    have hturn := outline_turn first second h words[cursor] (words.drop (cursor + 1))
    have hextent := congrArg Turn.Outline.extent hturn
    dsimp only [Turn.outline] at hextent
    rw [scan.eq_1 second, dif_pos hlt, List.map_cons, List.map_cons, ← hturn, ← hextent]
    exact congrArg _ (ih _ (alike_turn first second h _ _))
  | case2 s cursor hge =>
    intro s' h
    rw [scan.eq_1 second, dif_neg hge]

end Progress

namespace Collector

variable (first second : Converter) {c d : Collector}

/-- Alike collectors bind the same positions to the same words. -/
theorem map_outline_bindings (ps : List Parameter) (words : List Word) (h : Alike c d) :
    (c.bindings first ps words).map Match.outline = (d.bindings second ps words).map Match.outline ∧
      (c.bindEach first ps words).2 = (d.bindEach second ps words).2 := by
  induction ps generalizing words c d with
  | nil => exact ⟨rfl, rfl⟩
  | cons p rest ih =>
    cases hc : c.matched p with
    | true =>
      have hd : d.matched p = true := (h.matched p).symm.trans hc
      obtain ⟨hbind, hbindings⟩ := bindEach_of_matched first rest words hc
      obtain ⟨hbind', hbindings'⟩ := bindEach_of_matched second rest words hd
      rw [hbind, hbindings, hbind', hbindings']
      exact ih words (h.note _)
    | false =>
      have hd : d.matched p = false := (h.matched p).symm.trans hc
      by_cases hempty : p.eligible words = []
      · obtain ⟨hbind, hbindings⟩ := bindEach_of_empty first rest hc hempty
        obtain ⟨hbind', hbindings'⟩ := bindEach_of_empty second rest hd hempty
        rw [hbind, hbindings, hbind', hbindings']
        exact ih words (h.note _)
      · obtain ⟨anchor, behind, rfl⟩ := exists_cons_of_eligible hempty
        obtain ⟨hbind, hbindings⟩ := bindEach_of_eligible first rest hc hempty
        obtain ⟨hbind', hbindings'⟩ := bindEach_of_eligible second rest hd hempty
        rw [hbind, hbindings, hbind', hbindings']
        simp only [List.map_cons, Match.outline_ofRun, Match.taken_ofRun]
        obtain ⟨hlater, hclaims⟩ :=
          ih ((anchor :: behind).drop (p.take (anchor :: behind)).length)
            ((h.extend _ _).enter p _ _)
        exact ⟨congrArg _ hlater, congrArg (· ++ _) hclaims⟩

/-- Alike collectors apply the same fallbacks. -/
theorem map_outline_fallbacks {ps : List Parameter} (hnodup : ps.Nodup) (h : Alike c d) :
    (c.fallbacks first ps).map Match.outline = (d.fallbacks second ps).map Match.outline := by
  have houtline : ∀ (converter : Converter) (e : Collector),
      (e.fallbacks converter ps).map Match.outline =
        (ps.filter fun p => p.fallback.isSome && !e.matched p).map
          (Match.Outline.ofTexts · []) := by
    intro converter e
    rw [← map_parameter_fallbacks converter hnodup e, List.map_map]
    apply List.map_congr_left
    intro m hm
    obtain ⟨fallback, _, heq⟩ := mem_fallbacks hm
    rw [heq, Match.outline_ofFallback]
    rfl
  simp only [houtline, h.matched]

end Collector

/-- The faults of an outline that stand. -/
def Match.Outline.standing (claimed : List Nat) (o : Match.Outline) : List Fault :=
  o.faults.filter fun fault =>
    fault.kind ≠ .tooMany || !o.surplus.all fun w => claimed.contains w.index

/-- The faults of a match that stay, conversions aside, can be told from its outline. -/
theorem Match.filter_isPlain_standing (claimed : List Nat) (m : Match) :
    (m.standing claimed).filter Fault.isPlain = m.outline.standing claimed := by
  unfold Match.standing Match.Outline.standing Match.outline
  dsimp only
  rw [List.filter_filter, List.filter_filter]
  apply List.filter_congr
  intro fault _
  exact Bool.and_comm ..

/-- The faults of the outline of a turn that stand. -/
def Turn.Outline.standing (claimed : List Nat) (o : Turn.Outline) : List Fault :=
  o.reported.filter Fault.isPlain ++ o.made.flatMap (Match.Outline.standing claimed)

private theorem filter_isPlain_flatMap (claimed : List Nat) (ms : List Match) :
    (ms.flatMap (Match.standing claimed)).filter Fault.isPlain =
      (ms.map Match.outline).flatMap (Match.Outline.standing claimed) := by
  rw [List.filter_flatMap, List.flatMap_map]
  exact List.flatMap_congr fun m _ => Match.filter_isPlain_standing claimed m

theorem Turn.filter_isPlain_standing (claimed : List Nat) (t : Turn) :
    (t.standing claimed).filter Fault.isPlain = t.outline.standing claimed := by
  cases t with
  | undeclared w reported => exact (List.append_nil _).symm
  | matched flag fresh run made => exact filter_isPlain_flatMap claimed made
  | _ => rfl

private theorem map_parameter_eq {ms ns : List Match}
    (h : ms.map Match.outline = ns.map Match.outline) :
    ms.map Match.parameter = ns.map Match.parameter := by
  have hparameters := congrArg (List.map Match.Outline.parameter) h
  rwa [List.map_map, List.map_map] at hparameters

namespace Transcript

variable {t u : Transcript}

/-- Turns of one outline make matches of one outline. -/
theorem map_outline_flagged (h : t.turns.map Turn.outline = u.turns.map Turn.outline) :
    t.flagged.map Match.outline = u.flagged.map Match.outline := by
  have hmade := congrArg (List.flatMap Turn.Outline.made) h
  rw [List.flatMap_map, List.flatMap_map] at hmade
  rw [flagged, flagged, List.map_flatMap, List.map_flatMap]
  exact hmade

theorem flatMap_leftovers (h : t.turns.map Turn.outline = u.turns.map Turn.outline) :
    t.turns.flatMap Turn.leftovers = u.turns.flatMap Turn.leftovers := by
  have hleftovers := congrArg (List.flatMap Turn.Outline.leftovers) h
  rwa [List.flatMap_map, List.flatMap_map] at hleftovers

/-- Transcripts that differ in values and refused conversions alone. -/
structure Alike (t u : Transcript) : Prop where
  turns : t.turns.map Turn.outline = u.turns.map Turn.outline
  bindings : t.bindings.map Match.outline = u.bindings.map Match.outline
  claimed : t.claimed = u.claimed
  fallbacks : t.fallbacks.map Match.outline = u.fallbacks.map Match.outline
  missing : t.missing = u.missing

theorem Alike.made (h : Alike t u) : t.made.map Match.outline = u.made.map Match.outline := by
  simp only [Transcript.made, List.map_append, map_outline_flagged h.turns, h.bindings, h.fallbacks]

private theorem map_fault_withdrawnFaults (claimed : List Nat) (ms : List Match) :
    (withdrawnFaults claimed ((ms.map Match.resolution).filter (·.pending.isSome))).map
        RecordedFault.fault =
      ((ms.map Match.outline).filter fun o =>
        o.surplus.all fun w => claimed.contains w.index).filterMap Match.Outline.overflow := by
  induction ms with
  | nil => rfl
  | cons m rest ih =>
    cases hpending : m.resolution.pending <;>
      cases habsorbed : m.resolution.surplus.all fun w => claimed.contains w.index <;>
      simp_all [withdrawnFaults_cons, Match.outline, Resolution.absorbed]

/-- Alike transcripts withdraw the same faults. -/
theorem Alike.withdrawn (h : Alike t u) :
    t.withdrawn.map RecordedFault.fault = u.withdrawn.map RecordedFault.fault := by
  unfold Transcript.withdrawn Transcript.overflows
  rw [map_fault_withdrawnFaults, map_fault_withdrawnFaults, map_outline_flagged h.turns, h.claimed]

end Transcript

section

variable (first second : Converter) (schema : Schema) (words : List Word)

private theorem map_outline_turns :
    (transcript first schema words).turns.map Turn.outline =
      (transcript second schema words).turns.map Turn.outline :=
  Progress.map_outline_scan first second words _ 0 _ ⟨rfl, rfl⟩

/-- The flags come to alike collectors, whatever the converters answer. -/
theorem afterFlags_alike :
    Collector.Alike (afterFlags first schema words).collector
      (afterFlags second schema words).collector := by
  have hflagged := map_parameter_eq
    (Transcript.map_outline_flagged (map_outline_turns first second schema words))
  constructor
  · rw [schema_afterFlags, schema_afterFlags]
  · rw [map_parameter_afterFlags, map_parameter_afterFlags, hflagged]

private theorem leftovers_afterFlags_eq :
    (afterFlags first schema words).collector.leftovers =
      (afterFlags second schema words).collector.leftovers := by
  rw [leftovers_afterFlags, leftovers_afterFlags]
  exact Transcript.flatMap_leftovers (map_outline_turns first second schema words)

/-- Positions are bound to the same words, whatever the converter gives for them. -/
theorem bindings_alike :
    (transcript first schema words).bindings.map Match.outline =
        (transcript second schema words).bindings.map Match.outline ∧
      ((afterFlags first schema words).collector.bind first).2 =
        ((afterFlags second schema words).collector.bind second).2 := by
  obtain ⟨hbindings, hclaims⟩ := Collector.map_outline_bindings first second schema.positionals
    (afterFlags first schema words).collector.leftovers (afterFlags_alike first second schema words)
  have hleftovers := leftovers_afterFlags_eq first second schema words
  constructor
  · dsimp only [transcript]
    rw [hbindings, hleftovers]
  · dsimp only [Collector.bind]
    rw [schema_afterFlags, schema_afterFlags, hclaims, hleftovers]

/-- Binding and settlement keep the collectors alike. -/
theorem afterSettlement_alike :
    Collector.Alike (afterSettlement first schema words) (afterSettlement second schema words) := by
  have hflagged := map_parameter_eq
    (Transcript.map_outline_flagged (map_outline_turns first second schema words))
  have hbindings := map_parameter_eq (bindings_alike first second schema words).1
  constructor
  · rw [schema_afterSettlement, schema_afterSettlement]
  · rw [map_parameter_afterSettlement, map_parameter_afterSettlement, List.map_append,
      List.map_append, hflagged, hbindings]

/-- The transcripts of two parses with different converters are alike. -/
theorem transcript_alike :
    Transcript.Alike (transcript first schema words) (transcript second schema words) := by
  have hturns := map_outline_turns first second schema words
  obtain ⟨hbindings, hclaims⟩ := bindings_alike first second schema words
  have hfallbacks : (transcript first schema words).fallbacks.map Match.outline =
      (transcript second schema words).fallbacks.map Match.outline :=
    Collector.map_outline_fallbacks first second schema.nodup_parameters
      (afterSettlement_alike first second schema words)
  have hmade : (transcript first schema words).made.map Match.outline =
      (transcript second schema words).made.map Match.outline := by
    simp only [Transcript.made, List.map_append, hbindings, hfallbacks,
      Transcript.map_outline_flagged hturns]
  refine ⟨hturns, hbindings, ?_, hfallbacks, ?_⟩
  · dsimp only [transcript, Progress.claimed]
    rw [hclaims]
  · apply List.filter_congr
    intro p _
    have hmatched : (afterFallbacks first schema words).matched p =
        (afterFallbacks second schema words).matched p := by
      rw [Bool.eq_iff_iff, matched_afterFallbacks, matched_afterFallbacks,
        map_parameter_eq hmade]
    rw [hmatched]

/-- The faults of a parse but refused conversions, told from the outlines of its transcript. -/
theorem filter_isPlain_faults (converter : Converter) :
    let t := transcript converter schema words
    (collect converter schema words).faults.filter Fault.isPlain =
      (t.turns.map Turn.outline).flatMap (Turn.Outline.standing t.claimed) ++
        ((t.bindings ++ t.fallbacks).map Match.outline).flatMap
          (Match.Outline.standing t.claimed) ++
        t.missing.map .missing := by
  intro t
  rw [collect_faults_eq_standing, List.filter_append, List.filter_append, filter_isPlain_flatMap,
    List.filter_flatMap]
  congr 2
  · rw [List.flatMap_map]
    exact List.flatMap_congr fun turn _ => Turn.filter_isPlain_standing _ turn
  · refine List.filter_eq_self.mpr fun fault hfault => ?_
    obtain ⟨p, _, rfl⟩ := List.mem_map.mp hfault
    rfl

/-- A converter decides on values and refused conversions, and on nothing else: not on who is matched
and with which words, on who claims which leftover, on which overflow is withdrawn, on whose fallback
is applied or who is missing. -/
theorem parse_independent_of_converter (texts : List String) :
    let words := Word.ofTexts 0 texts
    let one := transcript first schema words
    let other := transcript second schema words
    (parse first schema texts).positional = (parse second schema texts).positional ∧
      (parse first schema texts).results.map Entry.parameter =
        (parse second schema texts).results.map Entry.parameter ∧
      (parse first schema texts).faults.filter (·.kind ≠ .conversion) =
        (parse second schema texts).faults.filter (·.kind ≠ .conversion) ∧
      one.flagged.map (fun m => (m.parameter, m.taken)) =
        other.flagged.map (fun m => (m.parameter, m.taken)) ∧
      one.bindings.map (fun m => (m.parameter, m.taken)) =
        other.bindings.map (fun m => (m.parameter, m.taken)) ∧
      ((afterFlags first schema words).collector.bind first).2 =
        ((afterFlags second schema words).collector.bind second).2 ∧
      one.withdrawn.map RecordedFault.fault = other.withdrawn.map RecordedFault.fault ∧
      one.fallbacks.map Match.parameter = other.fallbacks.map Match.parameter ∧
      one.missing = other.missing := by
  intro words one other
  have halike : Transcript.Alike one other := transcript_alike first second schema words
  have htaken : ∀ {ms ns : List Match}, ms.map Match.outline = ns.map Match.outline →
      ms.map (fun m => (m.parameter, m.taken)) = ns.map fun m => (m.parameter, m.taken) := by
    intro ms ns h
    have htaken := congrArg (List.map fun o : Match.Outline => (o.parameter, o.taken)) h
    rwa [List.map_map, List.map_map] at htaken
  refine ⟨?_, ?_, ?_, htaken (Transcript.map_outline_flagged halike.turns), htaken halike.bindings,
    (bindings_alike first second schema words).2, halike.withdrawn, map_parameter_eq halike.fallbacks,
    halike.missing⟩
  · change (collect first schema words).leftovers.map Word.text =
      (collect second schema words).leftovers.map Word.text
    rw [collect_leftovers, collect_leftovers, leftovers_afterFlags_eq first second]
  · change (collect first schema words).entries.map Entry.parameter =
      (collect second schema words).entries.map Entry.parameter
    rw [collect_entries_eq_map_settled, collect_entries_eq_map_settled, List.map_map, List.map_map]
    exact map_parameter_eq halike.made
  · change (collect first schema words).faults.filter Fault.isPlain =
      (collect second schema words).faults.filter Fault.isPlain
    rw [filter_isPlain_faults, filter_isPlain_faults, List.map_append, List.map_append]
    rw [halike.turns, halike.bindings, halike.fallbacks, halike.claimed, halike.missing]

end

end CommandLine
