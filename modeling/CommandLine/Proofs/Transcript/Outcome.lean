import CommandLine.Proofs.Transcript.Basic

namespace CommandLine

namespace Match

/-- Whether the overflow of a match is confirmed. -/
def overflowed (claimed : List Nat) (m : Match) : Bool :=
  m.resolution.pending.isSome && !m.resolution.absorbed claimed

/-- The result of a match: without its value if its overflow is confirmed. -/
def settled (claimed : List Nat) (m : Match) : Entry :=
  ⟨m.parameter, if m.overflowed claimed then .none else m.resolution.value⟩

/-- The faults of a match that stand. -/
def standing (claimed : List Nat) (m : Match) : List Fault :=
  (m.trail.recorded.map RecordedFault.fault).filter fun fault =>
    fault.kind ≠ .tooMany || !m.resolution.absorbed claimed

/-- A match that cannot overflow keeps its value. -/
theorem settled_of_pending {m : Match} (hpending : m.resolution.pending = none)
    (claimed : List Nat) : m.settled claimed = m.entry := by
  unfold settled overflowed
  rw [hpending]
  rfl

/-- All faults of a match without an overflow stay. -/
theorem standing_of_pending {claimed : List Nat} {m : Match} (hcoherent : m.Coherent)
    (hpending : m.resolution.pending = none) :
    m.standing claimed = m.trail.recorded.map RecordedFault.fault := by
  refine List.filter_eq_self.mpr fun fault hfault => ?_
  obtain ⟨r, hr, rfl⟩ := List.mem_map.mp hfault
  have hkind : r.fault.kind ≠ .tooMany := by
    intro hkind
    have hsome := hcoherent.pending_eq_some_iff.mpr ⟨hr, hkind⟩
    rw [hpending] at hsome
    cases hsome
  simp [hkind]

/-- A fault that stands of a match is about its parameter. -/
theorem parameter?_of_mem_standing {claimed : List Nat} {m : Match} (hcoherent : m.Coherent)
    {fault : Fault} (hfault : fault ∈ m.standing claimed) : fault.parameter? = some m.parameter := by
  obtain ⟨r, hr, rfl⟩ := List.mem_map.mp (List.mem_filter.mp hfault).1
  exact hcoherent.about hr

end Match

/-- The faults of a turn that stand. -/
def Turn.standing (claimed : List Nat) : Turn → List Fault
  | undeclared _ reported => [reported.fault]
  | matched _ _ _ made => made.flatMap (Match.standing claimed)
  | _ => []

section

variable {converter : Converter} {schema : Schema} {words : List Word} {m n : Match}

/-- A parameter is matched once at most. -/
theorem eq_of_parameter_eq (hm : m ∈ (transcript converter schema words).made)
    (hn : n ∈ (transcript converter schema words).made) (heq : m.parameter = n.parameter) : m = n :=
  List.inj_on_of_nodup_map (nodup_made converter schema words) hm hn heq

theorem mem_made_of_mem_bindings (hm : m ∈ (transcript converter schema words).bindings) :
    m ∈ (transcript converter schema words).made :=
  List.mem_append_left _ (List.mem_append_right _ hm)

theorem mem_made_of_mem_fallbacks (hm : m ∈ (transcript converter schema words).fallbacks) :
    m ∈ (transcript converter schema words).made :=
  List.mem_append_right _ hm

/-- A binding has no overflow: what it does not take stays left over. -/
theorem pending_of_mem_bindings (hm : m ∈ (transcript converter schema words).bindings) :
    m.resolution.pending = none := by
  obtain ⟨_, anchor, behind, _, heq⟩ := Collector.mem_bindings hm
  rw [heq]
  exact Match.pending_ofRun_of_positional ..

theorem pending_of_mem_fallbacks (hm : m ∈ (transcript converter schema words).fallbacks) :
    m.resolution.pending = none := by
  obtain ⟨fallback, _, heq⟩ := Collector.mem_fallbacks hm
  rw [heq]
  rfl

/-- Only flags overflow. -/
theorem mem_flagged_of_pending {r : RecordedFault}
    (hm : m ∈ (transcript converter schema words).made) (hpending : m.resolution.pending = some r) :
    m ∈ (transcript converter schema words).flagged := by
  obtain hm | hm := List.mem_append.mp hm
  · obtain hm | hm := List.mem_append.mp hm
    · exact hm
    · rw [pending_of_mem_bindings hm] at hpending
      cases hpending
  · rw [pending_of_mem_fallbacks hm] at hpending
    cases hpending

/-- Withdrawing takes away the overflow of a match whose surplus was claimed, and nothing else. -/
theorem mem_withdrawn_iff {r : RecordedFault} (hm : m ∈ (transcript converter schema words).made)
    (hr : r ∈ m.trail.recorded) :
    r ∈ (transcript converter schema words).withdrawn ↔
      r.fault.kind = .tooMany ∧
        m.resolution.absorbed (transcript converter schema words).claimed = true := by
  have hcoherent := coherent_of_mem_transcript hm
  rw [mem_withdrawn]
  constructor
  · rintro ⟨n, hn, habsorbed, hpending⟩
    have hn := mem_made_of_mem_flagged hn
    obtain ⟨hrecorded, hkind⟩ := (coherent_of_mem_transcript hn).pending_eq_some_iff.mp hpending
    have habout := (coherent_of_mem_transcript hn).about hrecorded
    rw [hcoherent.about hr, Option.some_inj] at habout
    rw [eq_of_parameter_eq hm hn habout]
    exact ⟨hkind, habsorbed⟩
  · rintro ⟨hkind, habsorbed⟩
    have hpending := hcoherent.pending_eq_some_iff.mpr ⟨hr, hkind⟩
    exact ⟨m, mem_flagged_of_pending hm hpending, habsorbed, hpending⟩

/-- A match is confirmed as an overflow if its surplus was not claimed as a whole. -/
theorem mem_confirmed_iff (hm : m ∈ (transcript converter schema words).made) :
    m.parameter ∈ (transcript converter schema words).confirmed ↔
      m.overflowed (transcript converter schema words).claimed = true := by
  rw [mem_confirmed, Match.overflowed, Bool.and_eq_true, Bool.not_eq_true']
  constructor
  · rintro ⟨n, hn, hpending, habsorbed, heq⟩
    rw [← eq_of_parameter_eq (mem_made_of_mem_flagged hn) hm heq]
    exact ⟨hpending, habsorbed⟩
  · rintro ⟨hpending, habsorbed⟩
    obtain ⟨r, hr⟩ := Option.isSome_iff_exists.mp hpending
    exact ⟨m, mem_flagged_of_pending hm hr, hpending, habsorbed, rfl⟩

/-- The recorded faults of a match less the withdrawn ones are those that stand. -/
theorem map_fault_filter_withdrawn (hm : m ∈ (transcript converter schema words).made) :
    (m.trail.recorded.filter (fun r => r ∉ (transcript converter schema words).withdrawn)).map
        RecordedFault.fault =
      m.standing (transcript converter schema words).claimed := by
  rw [Match.standing, List.filter_map]
  congr 1
  apply List.filter_congr
  intro r hr
  rw [Bool.eq_iff_iff, decide_eq_true_iff, mem_withdrawn_iff hm hr]
  cases m.resolution.absorbed (transcript converter schema words).claimed <;> simp

/-- A report of an undeclared flag is never withdrawn. -/
theorem kind_of_mem_turns {w : Word} {reported : RecordedFault}
    (ht : .undeclared w reported ∈ (transcript converter schema words).turns) :
    reported.fault.kind = .unrecognised := by
  obtain ⟨before, after, v, rest, _, hturn⟩ := takes_of_mem_turns ht
  cases hturn
  rfl

/-- What is not withdrawn of the faults of a turn is what stays of it. -/
theorem map_fault_filter_turn {t : Turn} (ht : t ∈ (transcript converter schema words).turns) :
    (t.recorded.filter (fun r => r ∉ (transcript converter schema words).withdrawn)).map
        RecordedFault.fault =
      t.standing (transcript converter schema words).claimed := by
  cases t with
  | undeclared w reported =>
    have hstays : reported ∉ (transcript converter schema words).withdrawn := by
      intro hmem
      have hkind := kind_of_mem_withdrawn hmem
      rw [kind_of_mem_turns ht] at hkind
      cases hkind
    simp [Turn.recorded, Turn.standing, hstays]
  | matched flag fresh run made =>
    rw [Turn.recorded, Turn.standing, List.filter_flatMap, List.map_flatMap]
    apply List.flatMap_congr
    intro m hm
    exact map_fault_filter_withdrawn (mem_made_of_mem_flagged (List.mem_flatMap.mpr ⟨_, ht, hm⟩))
  | _ => rfl

end

section

variable (converter : Converter) (schema : Schema) (words : List Word)

/-- Each match makes one result, in the order of the matches. -/
theorem collect_entries_eq_map_settled :
    (collect converter schema words).entries =
      (transcript converter schema words).made.map
        (Match.settled (transcript converter schema words).claimed) := by
  rw [collect_entries]
  apply List.map_congr_left
  intro m hm
  unfold Entry.clear Match.settled
  simp only [Match.parameter_entry, mem_confirmed_iff hm]
  split <;> rfl

/-- The faults of a parse are those that stand of its turns, of its positions and of its fallbacks, and
then the missing parameters. -/
theorem collect_faults_eq_standing :
    let t := transcript converter schema words
    (collect converter schema words).faults =
      t.turns.flatMap (Turn.standing t.claimed) ++
        (t.bindings ++ t.fallbacks).flatMap (Match.standing t.claimed) ++ t.missing.map .missing := by
  intro t
  rw [collect_faults]
  congr 1
  change (t.early.filter fun r => r ∉ t.withdrawn).map RecordedFault.fault ++ _ = _
  rw [Transcript.early, List.filter_append, List.filter_flatMap, List.filter_flatMap, List.map_append,
    List.map_flatMap, List.map_flatMap, List.map_flatMap, List.append_assoc, List.flatMap_append]
  congr 1
  · exact List.flatMap_congr fun turn ht => map_fault_filter_turn ht
  · congr 1
    · exact List.flatMap_congr fun m hm => map_fault_filter_withdrawn (mem_made_of_mem_bindings hm)
    · apply List.flatMap_congr
      intro m hm
      exact (Match.standing_of_pending (coherent_of_mem_transcript (mem_made_of_mem_fallbacks hm))
        (pending_of_mem_fallbacks hm)).symm

/-- The results of a parse are all there once the fallbacks are applied. -/
theorem collect_entries_eq_afterFallbacks :
    (collect converter schema words).entries = (afterFallbacks converter schema words).entries := by
  rw [collect_eq_foldl, (Collector.reportMissing_eq _ _).1]

end

theorem Schema.nodup_parameters (schema : Schema) : schema.parameters.Nodup :=
  schema.compatible.imp And.left

section

variable {converter : Converter} {schema : Schema} {words : List Word} {m : Match} {p : Parameter}

/-- A parameter is matched behind the fallbacks if the transcript has a match of it. -/
theorem matched_afterFallbacks :
    (afterFallbacks converter schema words).matched p = true ↔
      p ∈ (transcript converter schema words).made.map Match.parameter := by
  rw [Collector.matched_iff, map_parameter_afterFallbacks]

/-- A parameter is missing if it is required and no match of it was made. -/
theorem mem_missing_iff :
    p ∈ (transcript converter schema words).missing ↔
      p ∈ schema.parameters ∧ p.required = true ∧
        p ∉ (transcript converter schema words).made.map Match.parameter := by
  change p ∈ schema.parameters.filter _ ↔ _
  rw [List.mem_filter, Bool.and_eq_true, Bool.not_eq_true', ← matched_afterFallbacks,
    Bool.not_eq_true]

/-- Fallbacks are applied for the parameters that have one and are not matched by then. -/
theorem map_parameter_applied :
    (transcript converter schema words).fallbacks.map Match.parameter =
      schema.parameters.filter fun p =>
        p.fallback.isSome && !(afterSettlement converter schema words).matched p :=
  Collector.map_parameter_fallbacks converter schema.nodup_parameters _

/-- A parameter with a fallback is always matched. -/
theorem mem_made_of_fallback (hp : p ∈ schema.parameters) (hfallback : p.fallback.isSome = true) :
    p ∈ (transcript converter schema words).made.map Match.parameter := by
  cases hmatched : (afterSettlement converter schema words).matched p with
  | true =>
    obtain ⟨journal, heq⟩ := (afterFallbacks_accepts converter schema words).eq
    rw [← matched_afterFallbacks, heq, Collector.matched_iff]
    rw [Collector.matched_iff] at hmatched
    simp [Collector.accept, hmatched]
  | false =>
    rw [Transcript.made, List.map_append, map_parameter_applied]
    exact List.mem_append_right _ (List.mem_filter.mpr ⟨hp, by simp [hfallback, hmatched]⟩)

/-- Of things that are about different things, only one is about a given thing. -/
theorem filter_eq_singleton {α β : Type} [DecidableEq β] {about : α → β} {xs : List α} {x : α}
    (hnodup : (xs.map about).Nodup) (hx : x ∈ xs) : xs.filter (about · = about x) = [x] := by
  induction xs with
  | nil => cases hx
  | cons y rest ih =>
    obtain ⟨hnew, hnodup⟩ := List.nodup_cons.mp hnodup
    rw [List.mem_cons] at hx
    by_cases heq : about y = about x
    · have hfirst : x = y := hx.resolve_right fun hx => hnew (heq ▸ List.mem_map_of_mem hx)
      have hrest : rest.filter (about · = about x) = [] := by
        refine List.filter_eq_nil_iff.mpr fun other hother hsame => hnew ?_
        rw [heq, ← of_decide_eq_true hsame]
        exact List.mem_map_of_mem hother
      rw [List.filter_cons_of_pos (by simpa using heq), hrest, hfirst]
    · have hrest : x ∈ rest := hx.resolve_left fun hfirst => heq (by rw [hfirst])
      rw [List.filter_cons_of_neg (by simpa using heq)]
      exact ih hnodup hrest

/-- The faults about a parameter are those that stand of its matches. -/
private theorem filter_about_flatMap {ms : List Match} (claimed : List Nat) (p : Parameter)
    (hcoherent : ∀ m ∈ ms, m.Coherent) :
    (ms.flatMap (Match.standing claimed)).filter (·.parameter? = some p) =
      (ms.filter (·.parameter = p)).flatMap (Match.standing claimed) := by
  induction ms with
  | nil => rfl
  | cons m rest ih =>
    obtain ⟨hm, hrest⟩ := List.forall_mem_cons.mp hcoherent
    rw [List.flatMap_cons, List.filter_append, ih hrest]
    by_cases heq : m.parameter = p
    · rw [List.filter_cons_of_pos (by simpa using heq), List.flatMap_cons]
      congr 1
      refine List.filter_eq_self.mpr fun fault hfault => ?_
      simp [Match.parameter?_of_mem_standing hm hfault, heq]
    · rw [List.filter_cons_of_neg (by simpa using heq)]
      have hnone : (m.standing claimed).filter (·.parameter? = some p) = [] := by
        refine List.filter_eq_nil_iff.mpr fun fault hfault => ?_
        simp [Match.parameter?_of_mem_standing hm hfault, heq]
      rw [hnone, List.nil_append]

/-- The faults that turns leave about a parameter are those of its match. -/
private theorem filter_about_turns (claimed : List Nat) (p : Parameter) :
    ((transcript converter schema words).turns.flatMap (Turn.standing claimed)).filter
        (·.parameter? = some p) =
      ((transcript converter schema words).flagged.flatMap (Match.standing claimed)).filter
        (·.parameter? = some p) := by
  unfold Transcript.flagged
  rw [List.flatMap_assoc, List.filter_flatMap, List.filter_flatMap]
  apply List.flatMap_congr
  intro t ht
  cases t with
  | undeclared w reported =>
    have hkind := kind_of_mem_turns ht
    cases hfault : reported.fault <;> simp_all [Turn.standing, Turn.made, Fault.kind, Fault.parameter?]
  | _ => rfl

theorem faults_about :
    let t := transcript converter schema words
    (collect converter schema words).faults.filter (·.parameter? = some p) =
      (t.made.filter (·.parameter = p)).flatMap (Match.standing t.claimed) ++
        (t.missing.filter (· = p)).map .missing := by
  intro t
  rw [collect_faults_eq_standing, List.filter_append, List.filter_append, filter_about_turns,
    ← List.filter_append, ← List.flatMap_append, ← List.append_assoc, List.filter_map]
  congr 1
  · exact filter_about_flatMap _ p fun m hm => coherent_of_mem_transcript hm
  · congr 1
    apply List.filter_congr
    intro q _
    simp [Fault.parameter?]

/-- What a parse says about a matched parameter is what stands of its match. -/
theorem faults_about_of_mem (hm : m ∈ (transcript converter schema words).made) :
    (collect converter schema words).faults.filter (·.parameter? = some m.parameter) =
      m.standing (transcript converter schema words).claimed := by
  have hmissing : (transcript converter schema words).missing.filter (· = m.parameter) = [] := by
    refine List.filter_eq_nil_iff.mpr fun q hq hsame => ?_
    rw [of_decide_eq_true hsame] at hq
    exact (mem_missing_iff.mp hq).2.2 (List.mem_map_of_mem hm)
  rw [faults_about, filter_eq_singleton (nodup_made converter schema words) hm, hmissing]
  simp

/-- The value of a matched parameter in the outcome is what its match settles on. -/
theorem get?_of_mem (hm : m ∈ (transcript converter schema words).made) :
    (collect converter schema words).freeze.get? (.parameter m.parameter) =
      some (m.settled (transcript converter schema words).claimed).value := by
  have hentries : (collect converter schema words).freeze.results = _ :=
    collect_entries_eq_map_settled converter schema words
  have honly := filter_eq_singleton (nodup_made converter schema words) hm
  have hfind : (transcript converter schema words).made.find? (·.parameter = m.parameter) = some m := by
    rw [← List.head?_filter, honly, List.head?_cons]
  unfold Outcome.get?
  rw [hentries, List.find?_map]
  change (((transcript converter schema words).made.find? (·.parameter = m.parameter)).map _).map _ = _
  rw [hfind]
  rfl

/-- All that a parse can say about a parameter that is not matched is that it is missing. -/
theorem faults_about_of_notMem
    (hp : p ∉ (transcript converter schema words).made.map Match.parameter) :
    (collect converter schema words).faults.filter (·.parameter? = some p) =
      if p ∈ (transcript converter schema words).missing then [.missing p] else [] := by
  have hnone : (transcript converter schema words).made.filter (·.parameter = p) = [] := by
    refine List.filter_eq_nil_iff.mpr fun m hm hsame => hp ?_
    rw [← of_decide_eq_true hsame]
    exact List.mem_map_of_mem hm
  rw [faults_about, hnone, List.flatMap_nil, List.nil_append]
  split
  · next hmem =>
    have hnodup : ((transcript converter schema words).missing.map id).Nodup := by
      rw [List.map_id]
      exact schema.nodup_parameters.filter _
    have honce : (transcript converter schema words).missing.filter (· = p) = [p] :=
      filter_eq_singleton hnodup hmem
    rw [honce, List.map_singleton]
  · next hmem =>
    have hempty : (transcript converter schema words).missing.filter (· = p) = [] := by
      refine List.filter_eq_nil_iff.mpr fun q hq hsame => hmem ?_
      rwa [← of_decide_eq_true hsame]
    rw [hempty, List.map_nil]

end

end CommandLine
