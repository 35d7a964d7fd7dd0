import CommandLine.Proofs.Cursor.Fresh
import CommandLine.Proofs.Match.Anchor
import CommandLine.Proofs.Transcript.Outcome

namespace CommandLine

/-- Keeping some items and each of them once keeps them in the order in which they come first. -/
theorem pairwise_idxOf_eraseDups {α : Type} [BEq α] [LawfulBEq α] (test : α → Bool) (xs : List α) :
    (xs.filter test).eraseDups.Pairwise fun x y => xs.idxOf x < xs.idxOf y := by
  induction xs generalizing test with
  | nil => exact .nil
  | cons a rest ih =>
    -- Of the others, none is `a`, so each stands one place further on than in the rest.
    have hlater : ∀ others : List α, a ∉ others →
        others.Pairwise (fun x y => rest.idxOf x < rest.idxOf y) →
          others.Pairwise fun x y => (a :: rest).idxOf x < (a :: rest).idxOf y := by
      intro others ha hothers
      have hne : ∀ x ∈ others, a ≠ x := fun x hx heq => ha (heq ▸ hx)
      refine hothers.imp_of_mem fun {x y} hx hy hlt => ?_
      rw [List.idxOf_cons_ne _ (hne x hx), List.idxOf_cons_ne _ (hne y hy)]
      exact Nat.succ_lt_succ hlt
    cases ha : test a with
    | true =>
      rw [List.filter_cons_of_pos ha, List.eraseDups_cons, List.filter_filter]
      have hnew : a ∉ (rest.filter fun x => !x == a && test x).eraseDups := by simp
      refine .cons (fun x hx => ?_) (hlater _ hnew (ih _))
      have hne : a ≠ x := fun heq => hnew (heq ▸ hx)
      rw [List.idxOf_cons_self, List.idxOf_cons_ne _ hne]
      exact Nat.succ_pos _
    | false =>
      rw [List.filter_cons_of_neg (by simp [ha])]
      refine hlater _ (fun hmem => ?_) (ih test)
      rw [List.mem_eraseDups, List.mem_filter, ha] at hmem
      cases hmem.2

/-- Items that make one thing each at most make a part of what they stand for, in their order. -/
theorem flatMap_sublist_map {α β : Type} {f : α → List β} {g : α → β} {xs : List α}
    (h : ∀ x ∈ xs, (f x).Sublist [g x]) : (xs.flatMap f).Sublist (xs.map g) := by
  induction xs with
  | nil => exact .slnil
  | cons x rest ih =>
    obtain ⟨hx, hrest⟩ := List.forall_mem_cons.mp h
    exact hx.append (ih hrest)

namespace Word

/-- Words stand in the order of their places. -/
theorem pairwise_ofTexts (texts : List String) :
    (ofTexts 0 texts).Pairwise fun v w => v.index < w.index := by
  rw [List.pairwise_iff_getElem]
  intro i j hi hj hlt
  rwa [index_getElem_ofTexts, index_getElem_ofTexts]

end Word

namespace Fault

/-- Whether a fault is one of a flag: it points at the flag, and reports it as undeclared or is about a
parameter that it spells. -/
def OfFlag (schema : Schema) (w : Word) (f : Fault) : Prop :=
  f.anchor? = some w ∧
    (schema.read w.text = .unrecognised ∧ f.kind = .unrecognised ∨
      ∃ p ∈ (schema.read w.text).parameters, f.parameter? = some p)

/-- Whether the fault of a flag may come before another: its flag stands further to the front, or it is
the same flag and spells the parameter of the first no later than that of the other. -/
def FlagOrder (schema : Schema) (f g : Fault) : Prop :=
  ∃ v w, f.anchor? = some v ∧ g.anchor? = some w ∧
    (v.index < w.index ∨
      v = w ∧ ∃ p q, f.parameter? = some p ∧ g.parameter? = some q ∧
        (schema.read v.text).parameters.idxOf p ≤ (schema.read v.text).parameters.idxOf q)

/-- Whether a fault points no further to the right than another. -/
def NoLater (f g : Fault) : Prop :=
  ∃ v w, f.anchor? = some v ∧ g.anchor? = some w ∧ v.index ≤ w.index

end Fault

namespace Progress

variable {converter : Converter} {s t : Progress} {w : Word} {rest : List Word} {turn : Turn}

/-- A turn records one report of an undeclared flag, or the faults of its matches. -/
theorem Takes.recorded_eq (h : Takes converter s w rest t turn) :
    s.collector.schema.read w.text = .unrecognised ∧
        (∃ r, turn.recorded = [r] ∧ r.fault = s.collector.unrecognisedFault w) ∨
      turn.recorded = turn.made.flatMap (·.trail.recorded) := by
  cases h with
  | undeclared hread => exact .inl ⟨Reading.flag?_eq_unrecognised_iff.mp hread, _, rfl, rfl⟩
  | _ => exact .inr rfl

/-- The faults of the matches of a turn point at its word. -/
theorem Takes.anchor?_of_mem_made (h : Takes converter s w rest t turn) {m : Match}
    (hm : m ∈ turn.made) {r : RecordedFault} (hr : r ∈ m.trail.recorded) :
    r.fault.anchor? = some w ∧ r.fault.parameter? = some m.parameter := by
  cases h with
  | matched journal hread hne hnodup hfresh hrun hmade =>
    rw [Turn.made, hmade] at hm
    exact ⟨Match.anchor?_of_mem_group hnodup hm hr,
      (Match.made_of_mem_group hnodup hm).coherent.about hr⟩
  | _ => cases hm

variable (converter s w rest)

/-- What a turn records are faults of the flag that it reads. -/
theorem ofFlag_of_mem_turn {r : RecordedFault} (hr : r ∈ (s.turn converter w rest).2.recorded) :
    r.fault.OfFlag s.collector.schema w := by
  have htakes := turn_takes converter s w rest
  obtain ⟨hread, only, honly, hfault⟩ | hmade := htakes.recorded_eq
  · rw [honly, List.mem_singleton] at hr
    rw [hr, hfault]
    exact ⟨rfl, .inl ⟨hread, rfl⟩⟩
  · rw [hmade] at hr
    obtain ⟨m, hm, hr⟩ := List.mem_flatMap.mp hr
    obtain ⟨hanchor, habout⟩ := htakes.anchor?_of_mem_made hm hr
    have hparameter := List.mem_map_of_mem (f := Match.parameter) hm
    rw [map_parameter_turn, List.mem_eraseDups] at hparameter
    exact ⟨hanchor, .inr ⟨m.parameter, List.mem_of_mem_filter hparameter, habout⟩⟩

/-- The faults of a turn follow the parameters that its word spells. -/
theorem pairwise_recorded_turn :
    (s.turn converter w rest).2.recorded.Pairwise fun r other =>
      r.fault.FlagOrder s.collector.schema other.fault := by
  have htakes := turn_takes converter s w rest
  obtain ⟨_, only, honly, _⟩ | hmade := htakes.recorded_eq
  · rw [honly]
    exact List.pairwise_singleton ..
  · rw [hmade, List.pairwise_flatMap]
    have horder : ((s.turn converter w rest).2.made.map Match.parameter).Pairwise _ :=
      map_parameter_turn converter s w rest ▸ pairwise_idxOf_eraseDups _ _
    constructor
    · intro m hm
      refine List.pairwise_of_forall_mem_list fun r hr other hother => ?_
      obtain ⟨hanchor, habout⟩ := htakes.anchor?_of_mem_made hm hr
      obtain ⟨hanchor', habout'⟩ := htakes.anchor?_of_mem_made hm hother
      exact ⟨w, w, hanchor, hanchor', .inr ⟨rfl, _, _, habout, habout', Nat.le_refl _⟩⟩
    · refine (List.pairwise_map.mp horder).imp_of_mem fun hm hn hlt r hr other hother => ?_
      obtain ⟨hanchor, habout⟩ := htakes.anchor?_of_mem_made hm hr
      obtain ⟨hanchor', habout'⟩ := htakes.anchor?_of_mem_made hn hother
      exact ⟨w, w, hanchor, hanchor', .inr ⟨rfl, _, _, habout, habout', Nat.le_of_lt hlt⟩⟩

/-- Every turn of a scan is the turn at its word in some state of the scan. -/
theorem exists_turn_of_mem_scan (words : List Word) (s : Progress) (cursor : Nat) {turn : Turn}
    (hturn : turn ∈ (s.scan converter words cursor).2) :
    ∃ (before : Progress) (rest : List Word), before.collector.schema = s.collector.schema ∧
      turn = (before.turn converter turn.head rest).2 := by
  fun_induction scan converter words s cursor with
  | case1 s cursor hlt step later ih =>
    obtain rfl | hturn := List.mem_cons.mp hturn
    · have hhead := (turn_takes converter s words[cursor] (words.drop (cursor + 1))).head_eq
      exact ⟨s, words.drop (cursor + 1), rfl, by rw [hhead]⟩
    · obtain ⟨before, rest, hschema, heq⟩ := ih hturn
      exact ⟨before, rest, hschema.trans (turn_takes converter s _ _).schema, heq⟩
  | case2 s cursor hge => cases hturn

/-- Turns are made at words of the command line, from the first to the last. -/
theorem Reads.map_head_sublist {converter : Converter} {schema : Schema} {words : List Word}
    {turns : List Turn} (h : Reads converter schema words turns) :
    (turns.map Turn.head).Sublist words := by
  induction h with
  | nil => exact .slnil
  | cons hschema hturn hlater ih =>
    rw [List.map_cons, hturn.head_eq]
    exact (ih.trans (List.drop_sublist ..)).cons_cons _

end Progress

namespace Collector.Binds

variable {converter : Converter} {ps : List Parameter} {words : List Word} {ms : List Match}

/-- The faults of a position point at a word that is at hand. -/
theorem exists_anchor (h : Binds converter ps words ms) :
    ∀ m ∈ ms, ∃ w ∈ words, ∀ r ∈ m.trail.recorded, r.fault.anchor? = some w := by
  intro m hm
  obtain ⟨_, before, anchor, behind, hsplit, _, hmatch⟩ := h.exists_split m hm
  refine ⟨anchor, hsplit ▸ List.mem_append_right _ List.mem_cons_self, fun r hr => ?_⟩
  rw [hmatch] at hr
  exact Match.anchor?_of_mem_ofRun hr

/-- Positions are bound from left to right: no fault of a position points to the left of one before it.
Two may point at the same word, when the first of them took none. -/
theorem pairwise (h : Binds converter ps words ms)
    (hwords : words.Pairwise fun v w => v.index < w.index) :
    ms.Pairwise fun m n =>
      ∀ r ∈ m.trail.recorded, ∀ other ∈ n.trail.recorded, r.fault.NoLater other.fault := by
  induction h with
  | nil => exact .nil
  | pass hlater ih => exact ih hwords
  | @bind p rest anchor behind m later heligible hmatch hlater ih =>
    refine .cons (fun n hn r hr other hother => ?_) (ih hwords.drop)
    obtain ⟨w, hw, hanchor⟩ := hlater.exists_anchor n hn
    rw [hmatch] at hr
    refine ⟨anchor, w, Match.anchor?_of_mem_ofRun hr, hanchor other hother, ?_⟩
    obtain rfl | hw := List.mem_cons.mp (List.mem_of_mem_drop hw)
    · exact Nat.le_refl _
    · exact Nat.le_of_lt (List.rel_of_pairwise_cons hwords hw)

end Collector.Binds

section

variable {converter : Converter} {schema : Schema} {words : List Word}

/-- The faults of a turn are those of the flag at its word. -/
theorem ofFlag_of_mem_turns {t : Turn} (ht : t ∈ turns converter schema words) {r : RecordedFault}
    (hr : r ∈ t.recorded) : r.fault.OfFlag schema t.head := by
  obtain ⟨before, rest, hschema, heq⟩ := Progress.exists_turn_of_mem_scan converter words _ 0 ht
  rw [heq] at hr
  have hflag := Progress.ofFlag_of_mem_turn converter before t.head rest hr
  rwa [hschema] at hflag

/-- The faults of the flags stand in the order of the flags. -/
theorem pairwise_recorded_turns (hwords : words.Pairwise fun v w => v.index < w.index) :
    ((turns converter schema words).flatMap Turn.recorded).Pairwise fun r other =>
      r.fault.FlagOrder schema other.fault := by
  rw [List.pairwise_flatMap]
  have hheads := hwords.sublist (turns_reads converter schema words).map_head_sublist
  constructor
  · intro t ht
    obtain ⟨before, rest, hschema, heq⟩ := Progress.exists_turn_of_mem_scan converter words _ 0 ht
    have horder := Progress.pairwise_recorded_turn converter before t.head rest
    rwa [← heq, hschema] at horder
  · refine (List.pairwise_map.mp hheads).imp_of_mem fun ht hu hlt r hr other hother => ?_
    exact ⟨_, _, (ofFlag_of_mem_turns ht hr).1, (ofFlag_of_mem_turns hu hother).1, .inl hlt⟩

/-- The leftovers stand in the order of the command line. -/
theorem leftovers_sublist_words :
    (afterFlags converter schema words).collector.leftovers.Sublist words := by
  have hturns : ∀ ts : List Turn, (ts.flatMap Turn.leftovers).Sublist (ts.flatMap Turn.words) := by
    intro ts
    induction ts with
    | nil => exact .slnil
    | cons t rest ih =>
      refine List.Sublist.append ?_ ih
      cases t with
      | left w => exact .refl _
      | _ => exact List.nil_sublist _
  have hsublist := hturns (turns converter schema words)
  rwa [← leftovers_afterFlags, (turns_reads converter schema words).flatMap_words] at hsublist

/-- The faults of the positions stand in the order of the words that they point at. -/
theorem pairwise_recorded_bindings (hwords : words.Pairwise fun v w => v.index < w.index) :
    ((transcript converter schema words).bindings.flatMap (·.trail.recorded)).Pairwise
      fun r other => r.fault.NoLater other.fault := by
  have hbinds := binds_transcript converter schema words
  rw [List.pairwise_flatMap]
  constructor
  · intro m hm
    obtain ⟨w, _, hanchor⟩ := hbinds.exists_anchor m hm
    refine List.pairwise_of_forall_mem_list fun r hr other hother => ?_
    exact ⟨w, w, hanchor r hr, hanchor other hother, Nat.le_refl _⟩
  · exact hbinds.pairwise (hwords.sublist leftovers_sublist_words)

/-- A fallback makes one fault at most. -/
theorem recorded_of_mem_fallbacks {m : Match}
    (hm : m ∈ (transcript converter schema words).fallbacks) :
    m.trail.recorded = [] ∨
      ∃ r raw failure, m.trail.recorded = [r] ∧
        r.fault = .conversion m.parameter none raw failure := by
  obtain ⟨fallback, _, heq⟩ := Collector.mem_fallbacks hm
  obtain hnone | ⟨raw, failure, hrefused⟩ :=
    Match.recorded_ofFallback converter m.parameter fallback m.earlier m.ticket
  · rw [← heq] at hnone
    exact .inl hnone
  · rw [← heq] at hrefused
    exact .inr ⟨_, raw, failure, hrefused, rfl⟩

/-- A position has too few words or a refused conversion. -/
theorem kind_of_mem_bindings {r : RecordedFault}
    (hr : r ∈ (transcript converter schema words).bindings.flatMap (·.trail.recorded)) :
    r.fault.kind = .notEnough ∨ r.fault.kind = .conversion := by
  obtain ⟨m, hm, hr⟩ := List.mem_flatMap.mp hr
  have hcoherent := coherent_of_mem_transcript (mem_made_of_mem_bindings hm)
  exact hcoherent.kind_of_pending_eq_none (pending_of_mem_bindings hm) hr

theorem kind_ne_tooMany_of_mem_bindings {r : RecordedFault}
    (hr : r ∈ (transcript converter schema words).bindings.flatMap (·.trail.recorded)) :
    r.fault.kind ≠ .tooMany := by
  obtain hkind | hkind := kind_of_mem_bindings hr <;> simp [hkind]

/-- The overflows that are withdrawn are taken from the faults of the flags alone. -/
theorem recorded_afterSettlement :
    let t := transcript converter schema words
    (afterSettlement converter schema words).recorded =
      (t.turns.flatMap Turn.recorded).filter (fun r => r ∉ t.withdrawn) ++
        t.bindings.flatMap (·.trail.recorded) := by
  intro t
  have hstay : (t.bindings.flatMap (·.trail.recorded)).filter (fun r => r ∉ t.withdrawn) =
      t.bindings.flatMap (·.trail.recorded) := by
    refine List.filter_eq_self.mpr fun r hr => decide_eq_true fun hwithdrawn => ?_
    exact kind_ne_tooMany_of_mem_bindings hr (kind_of_mem_withdrawn hwithdrawn)
  rw [(afterSettlement_eq converter schema words).2.2.1]
  change List.filter (fun r => r ∉ t.withdrawn) t.early = _
  rw [Transcript.early, List.filter_append, hstay]

/-- The faults of the fallbacks follow the declaration of their parameters. -/
theorem map_parameter?_fallbacks_sublist :
    ((transcript converter schema words).fallbacks.flatMap (·.trail.recorded)).map
        (·.fault.parameter?) |>.Sublist (schema.parameters.map some) := by
  have hone : ∀ m ∈ (transcript converter schema words).fallbacks,
      (m.trail.recorded.map (·.fault.parameter?)).Sublist [some m.parameter] := by
    intro m hm
    obtain hnone | ⟨r, raw, failure, honly, hfault⟩ := recorded_of_mem_fallbacks hm
    · rw [hnone]
      exact List.nil_sublist _
    · rw [honly, List.map_singleton, hfault]
      exact .refl _
  have hdeclared : ((transcript converter schema words).fallbacks.map Match.parameter).Sublist
      schema.parameters := by
    rw [map_parameter_applied]
    exact List.filter_sublist
  rw [List.map_flatMap]
  refine (flatMap_sublist_map hone).trans ?_
  have hsome := hdeclared.map some
  rw [List.map_map] at hsome
  exact hsome

end

/-- The order in which a parse finds its faults: `flags` are those of flags, `positions` those of
positions, `fallbacks` those of fallbacks and `missing` the parameters that are missing. -/
structure FaultOrder (converter : Converter) (schema : Schema) (texts : List String)
    (recorded : List RecordedFault) (flags positions fallbacks missing : List Fault) : Prop where
  faults : (parse converter schema texts).faults = flags ++ positions ++ fallbacks ++ missing
  /-- The flags are read first. Each of their faults is one of a flag of the command line, and they
  follow the flags from left to right and the parameters that each of them spells. -/
  afterFlags : (afterFlags converter schema (Word.ofTexts 0 texts)).collector.recorded = recorded
  ofFlag : ∀ r ∈ recorded, ∃ w ∈ Word.ofTexts 0 texts, r.fault.OfFlag schema w
  recorded_order : recorded.Pairwise fun r other => r.fault.FlagOrder schema other.fault
  /-- The positions are bound next, and overflows of flags are withdrawn. -/
  afterBinding : (afterBinding converter schema (Word.ofTexts 0 texts)).faults =
    recorded.map RecordedFault.fault ++ positions
  afterSettlement : (afterSettlement converter schema (Word.ofTexts 0 texts)).faults =
    flags ++ positions
  positions_kind : ∀ f ∈ positions, f.kind = .notEnough ∨ f.kind = .conversion
  positions_anchor : ∀ f ∈ positions, ∃ w ∈ Word.ofTexts 0 texts, f.anchor? = some w
  positions_order : positions.Pairwise Fault.NoLater
  /-- Nothing but overflows is withdrawn, and what stands keeps its order. -/
  withdrawn : ∃ withdrawn : List RecordedFault, (∀ r ∈ withdrawn, r.fault.kind = .tooMany) ∧
    flags = (recorded.filter fun r => r ∉ withdrawn).map RecordedFault.fault
  flags_order : flags.Pairwise (Fault.FlagOrder schema)
  /-- The fallbacks are applied by declaration. -/
  afterFallbacks : (afterFallbacks converter schema (Word.ofTexts 0 texts)).faults =
    flags ++ positions ++ fallbacks
  fallbacks_kind : ∀ f ∈ fallbacks, f.kind = .conversion ∧ f.token? = none ∧ f.place? = none
  fallbacks_order : (fallbacks.map Fault.parameter?).Sublist (schema.parameters.map some)
  /-- The parameters that are required and have no result are reported by declaration. -/
  missing_eq : missing = (schema.parameters.filter fun p =>
    p.required && p ∉ (parse converter schema texts).results.map Entry.parameter).map .missing

/-- Every parse finds its faults in this order. -/
theorem parse_orders_faults (converter : Converter) (schema : Schema) (texts : List String) :
    ∃ recorded flags positions fallbacks missing,
      FaultOrder converter schema texts recorded flags positions fallbacks missing := by
  let words := Word.ofTexts 0 texts
  let t := transcript converter schema words
  have hwords := Word.pairwise_ofTexts texts
  have hrecorded : (t.turns.flatMap Turn.recorded).Pairwise fun r other =>
      r.fault.FlagOrder schema other.fault := pairwise_recorded_turns hwords
  have hbound : (afterBinding converter schema words).recorded = t.early :=
    (afterBinding_eq converter schema words).2.2.1
  have hsettled : (afterSettlement converter schema words).recorded = _ := recorded_afterSettlement
  obtain ⟨journal, hfallbacks⟩ := (afterFallbacks_accepts converter schema words).eq
  have hfilled : (afterFallbacks converter schema words).recorded =
      (afterSettlement converter schema words).recorded ++ t.fallbacks.flatMap (·.trail.recorded) := by
    rw [hfallbacks]
    rfl
  refine ⟨t.turns.flatMap Turn.recorded,
    ((t.turns.flatMap Turn.recorded).filter fun r => r ∉ t.withdrawn).map RecordedFault.fault,
    (t.bindings.flatMap (·.trail.recorded)).map RecordedFault.fault,
    (t.fallbacks.flatMap (·.trail.recorded)).map RecordedFault.fault, t.missing.map .missing, ?_⟩
  constructor
  case faults =>
    change (collect converter schema words).faults = _
    rw [collect_eq_foldl, (Collector.reportMissing_eq _ _).2.2.2, Collector.faults, hfilled, hsettled,
      List.map_append, List.map_append]
    rfl
  case afterFlags => exact (afterFlags_reaches converter schema words).recorded
  case ofFlag =>
    intro r hr
    obtain ⟨turn, hturn, hr⟩ := List.mem_flatMap.mp hr
    have hheads := (turns_reads converter schema words).map_head_sublist
    exact ⟨turn.head, hheads.subset (List.mem_map_of_mem hturn), ofFlag_of_mem_turns hturn hr⟩
  case recorded_order => exact hrecorded
  case afterBinding =>
    rw [Collector.faults, hbound, Transcript.early, List.map_append]
  case afterSettlement =>
    rw [Collector.faults, hsettled, List.map_append]
  case positions_kind =>
    intro f hf
    obtain ⟨r, hr, rfl⟩ := List.mem_map.mp hf
    exact kind_of_mem_bindings hr
  case positions_anchor =>
    intro f hf
    obtain ⟨r, hr, rfl⟩ := List.mem_map.mp hf
    obtain ⟨m, hm, hr⟩ := List.mem_flatMap.mp hr
    obtain ⟨w, hw, hanchor⟩ := (binds_transcript converter schema words).exists_anchor m hm
    exact ⟨w, leftovers_sublist_words.subset hw, hanchor r hr⟩
  case positions_order => exact List.pairwise_map.mpr (pairwise_recorded_bindings hwords)
  case withdrawn => exact ⟨t.withdrawn, fun r hr => kind_of_mem_withdrawn hr, rfl⟩
  case flags_order => exact List.pairwise_map.mpr (hrecorded.filter _)
  case afterFallbacks =>
    rw [Collector.faults, hfilled, hsettled, List.map_append, List.map_append]
  case fallbacks_kind =>
    intro f hf
    obtain ⟨r, hr, rfl⟩ := List.mem_map.mp hf
    obtain ⟨m, hm, hr⟩ := List.mem_flatMap.mp hr
    obtain hnone | ⟨only, raw, failure, honly, hfault⟩ := recorded_of_mem_fallbacks hm
    · rw [hnone] at hr
      cases hr
    · rw [honly, List.mem_singleton] at hr
      rw [hr, hfault]
      exact ⟨rfl, rfl, rfl⟩
  case fallbacks_order =>
    rw [List.map_map]
    exact map_parameter?_fallbacks_sublist
  case missing_eq =>
    have hresults : (parse converter schema texts).results =
        (afterFallbacks converter schema words).entries :=
      collect_entries_eq_afterFallbacks converter schema words
    rw [hresults]
    congr 1
    apply List.filter_congr
    intro p _
    congr 1
    rw [Bool.eq_iff_iff, Bool.not_eq_true', Collector.matched_eq_false_iff, decide_eq_true_iff]

end CommandLine
