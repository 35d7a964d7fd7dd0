import CommandLine.Parse
import CommandLine.Proofs.Match.Basic
import Mathlib.Data.List.Nodup

namespace CommandLine

namespace Collector

/-- A parameter is matched if it has an entry. -/
theorem matched_iff {c : Collector} {p : Parameter} :
    c.matched p = true ↔ p ∈ c.entries.map Entry.parameter := by
  simp [matched]

theorem matched_eq_false_iff {c : Collector} {p : Parameter} :
    c.matched p = false ↔ p ∉ c.entries.map Entry.parameter := by
  rw [← matched_iff, Bool.not_eq_true]

/-- A second match is refused and told in the journal. -/
theorem enter_of_matched {c : Collector} {p : Parameter} (hp : c.matched p = true) (value : Value) :
    c.enter p value = c.note (.refused p) := by
  simp [enter, match?, hp]

/-- A first match gets an entry behind all others. -/
theorem enter_of_new {c : Collector} {p : Parameter} (hp : c.matched p = false) (value : Value) :
    c.enter p value =
      note { c with entries := c.entries ++ [⟨p, value⟩] } (.matched p value) := by
  simp [enter, match?, hp]

/-- Entering a parameter changes nothing about the others. -/
theorem matched_enter_of_ne {c : Collector} {p q : Parameter} (hne : q ≠ p) (value : Value) :
    (c.enter p value).matched q = c.matched q := by
  cases hp : c.matched p with
  | true => rw [enter_of_matched hp, matched, matched, note]
  | false =>
    rw [enter_of_new hp]
    simp [matched, note, hne.symm]

/-- What is not entered yet stays so when another parameter is entered. -/
theorem new_of_enter {c : Collector} {p : Parameter} {rs : List Resolution}
    (hp : p ∉ rs.map Resolution.parameter) (hnew : ∀ r ∈ rs, c.matched r.parameter = false)
    (value : Value) : ∀ r ∈ rs, (c.enter p value).matched r.parameter = false := by
  intro r hr
  have hne : r.parameter ≠ p := fun heq => hp (heq ▸ List.mem_map_of_mem hr)
  rw [matched_enter_of_ne hne]
  exact hnew r hr

/-- Dropping the repeated members of a group adds to the journal only. -/
theorem freshOf_fst (flag : Word) (fresh ps : List Parameter) (c : Collector) :
    ∃ journal, (freshOf flag fresh ps c).1 = c.noteAll journal := by
  induction ps generalizing c fresh with
  | nil => exact ⟨[], by simp [freshOf, noteAll]⟩
  | cons p rest ih =>
    unfold freshOf
    split
    · obtain ⟨journal, hjournal⟩ := ih fresh (c.note (.repeated p flag.text))
      exact ⟨.repeated p flag.text :: journal, by rw [hjournal]; simp [noteAll, note]⟩
    · exact ih _ c

/-- The fresh parameters are those that the flag spells and that are not matched yet. -/
theorem mem_freshOf (flag : Word) (fresh ps : List Parameter) (c : Collector) (p : Parameter) :
    p ∈ (freshOf flag fresh ps c).2 ↔ p ∈ fresh ∨ p ∈ ps ∧ c.matched p = false := by
  induction ps generalizing c fresh with
  | nil => simp [freshOf]
  | cons q rest ih =>
    unfold freshOf
    split
    · next hknown =>
      rw [ih, show (c.note (.repeated q flag.text)).matched p = c.matched p from rfl, List.mem_cons]
      simp only [Bool.or_eq_true, List.contains_iff_mem] at hknown
      constructor
      · rintro (hp | ⟨hp, hnew⟩)
        · exact .inl hp
        · exact .inr ⟨.inr hp, hnew⟩
      · rintro (hp | ⟨rfl | hp, hnew⟩)
        · exact .inl hp
        · exact .inl (hknown.resolve_left (by simp [hnew]))
        · exact .inr ⟨hp, hnew⟩
    · next hunknown =>
      rw [ih, List.mem_append, List.mem_singleton, List.mem_cons]
      simp only [Bool.or_eq_true, not_or, Bool.not_eq_true] at hunknown
      constructor
      · rintro ((hp | rfl) | ⟨hp, hnew⟩)
        · exact .inl hp
        · exact .inr ⟨.inl rfl, hunknown.1⟩
        · exact .inr ⟨.inr hp, hnew⟩
      · rintro (hp | ⟨rfl | hp, hnew⟩)
        · exact .inl (.inl hp)
        · exact .inl (.inr rfl)
        · exact .inr ⟨hp, hnew⟩

/-- A parameter is fresh at most once, however often the flag spells it. -/
theorem nodup_freshOf (flag : Word) {fresh : List Parameter} (hfresh : fresh.Nodup)
    (ps : List Parameter) (c : Collector) : (freshOf flag fresh ps c).2.Nodup := by
  induction ps generalizing c fresh with
  | nil => exact hfresh
  | cons q rest ih =>
    unfold freshOf
    split
    · exact ih hfresh _
    · next hunknown =>
      simp only [Bool.or_eq_true, not_or, List.contains_iff_mem] at hunknown
      apply ih
      simpa [List.concat_eq_append] using hfresh.concat hunknown.2

/-- The fresh parameters of a flag differ, and none of them is entered. -/
theorem new_of_freshOf {flag : Word} {ps fresh : List Parameter} {c d : Collector}
    (h : c.freshOf flag [] ps = (d, fresh)) : fresh.Nodup ∧ ∀ p ∈ fresh, d.matched p = false := by
  obtain ⟨journal, hnoted⟩ := freshOf_fst flag [] ps c
  have hmem := mem_freshOf flag [] ps c
  have hnodup := nodup_freshOf flag List.nodup_nil ps c
  rw [h] at hnoted hmem hnodup
  refine ⟨hnodup, fun p hp => ?_⟩
  rw [show d = c.noteAll journal from hnoted]
  exact (((hmem p).mp hp).resolve_left List.not_mem_nil).2

/-- Resolving a group comes to one resolution for each parameter. -/
theorem map_parameter_resolveGroup (converter : Converter) (ps : List Parameter) (anchor : Word)
    (run : List Word) (c : Collector) :
    (c.resolveGroup converter ps anchor run).2.map Resolution.parameter = ps := by
  obtain ⟨journal, hgroup⟩ := resolveGroup_eq converter ps anchor run c
  rw [hgroup, List.map_map]
  exact Match.map_parameter_group ..

/-- Resolving parameters that are not entered leaves them so. -/
theorem new_of_resolveGroup (converter : Converter) {ps : List Parameter} (anchor : Word)
    (run : List Word) {c : Collector} (hnew : ∀ p ∈ ps, c.matched p = false) :
    ∀ r ∈ (c.resolveGroup converter ps anchor run).2,
      (c.resolveGroup converter ps anchor run).1.matched r.parameter = false := by
  intro r hr
  have hp := List.mem_map_of_mem (f := Resolution.parameter) hr
  rw [map_parameter_resolveGroup] at hp
  obtain ⟨journal, hgroup⟩ := resolveGroup_eq converter ps anchor run c
  rw [hgroup, matched_extend]
  exact hnew _ hp

/-- A property of collectors that each operation of a parse keeps but the settling of overflows. What a
parse only notes is no news of the outcome, and a parse enters only what is not entered yet. -/
structure Carried (P : Collector → Prop) : Prop where
  note : ∀ {c : Collector} (event : Event), event.channel ≠ .outcome → P c → P (c.note event)
  record : ∀ {c : Collector} (fault : Fault), P c → P (c.record fault).1
  ask : ∀ {c : Collector} (request : Request),
    P c → P { c with requests := c.requests ++ [request] }
  enter : ∀ {c : Collector} (p : Parameter) (value : Value), c.matched p = false →
    P c → P (c.enter p value)
  leaveAll : ∀ {c : Collector} (words : List Word), P c → P (c.leaveAll words)

namespace Carried

variable {P : Collector → Prop} (h : Carried P) (converter : Converter) {c : Collector}

include h

theorem convert (p : Parameter) (anchor : Option Word) (raw : List String) (hc : P c) :
    P (c.convert converter p anchor raw).1 := by
  unfold Collector.convert
  dsimp only
  split
  · exact h.ask _ hc
  · exact h.record _ (h.ask _ hc)

theorem convertTaken (p : Parameter) (anchor : Word) (taken : List Word) (hc : P c) :
    P (c.convertTaken converter p anchor taken).1 := by
  unfold Collector.convertTaken
  split
  · exact h.convert converter _ _ _ hc
  · split
    · exact h.convert converter _ _ _ hc
    · exact hc

theorem recordSurplus (p : Parameter) (anchor : Word) (taken surplus : List Word) (hc : P c) :
    P (c.recordSurplus p anchor taken surplus).1 := by
  unfold Collector.recordSurplus
  split
  · exact h.note _ nofun (h.record _ hc)
  · exact hc

theorem resolve (p : Parameter) (anchor : Word) (run : List Word) (positional : Bool) (hc : P c) :
    P (c.resolve converter p anchor run positional).1 := by
  unfold Collector.resolve
  dsimp only
  split
  · exact h.record _ hc
  · exact h.recordSurplus _ _ _ _ (h.convertTaken converter _ _ _ hc)

theorem resolveEach (anchor : Word) (run : List Word) (ps : List Parameter) (hc : P c) :
    P (c.resolveEach converter anchor run ps).1 := by
  induction ps generalizing c with
  | nil => exact hc
  | cons p rest ih =>
    cases rest with
    | nil => exact h.resolve converter _ _ _ _ hc
    | cons q others => exact ih (h.resolve converter _ _ _ _ hc)

theorem broadcast (anchor literal : Word) (ps : List Parameter) (hc : P c) :
    P (c.broadcast converter anchor literal ps).1 := by
  induction ps generalizing c with
  | nil => exact hc
  | cons p rest ih => exact ih (h.convert converter _ _ _ hc)

theorem resolveGroup (ps : List Parameter) (anchor : Word) (run : List Word) (hc : P c) :
    P (c.resolveGroup converter ps anchor run).1 := by
  unfold Collector.resolveGroup
  split
  · exact h.broadcast converter _ _ _ (h.note _ nofun hc)
  · exact h.resolveEach converter _ _ _ hc

theorem freshOf (flag : Word) (fresh ps : List Parameter) (hc : P c) :
    P (freshOf flag fresh ps c).1 := by
  induction ps generalizing c fresh with
  | nil => exact hc
  | cons p rest ih =>
    unfold Collector.freshOf
    split
    · exact ih _ (h.note _ nofun hc)
    · exact ih _ hc

/-- Entering the matches of a group keeps it, since its members are distinct and new. -/
theorem enterAll {rs : List Resolution} (hnodup : (rs.map Resolution.parameter).Nodup)
    (hnew : ∀ r ∈ rs, c.matched r.parameter = false) (hc : P c) : P (c.enterAll rs) := by
  induction rs generalizing c with
  | nil => exact hc
  | cons r rest ih =>
    obtain ⟨hfirst, hnodup⟩ := List.nodup_cons.mp hnodup
    obtain ⟨hr, hrest⟩ := List.forall_mem_cons.mp hnew
    exact ih hnodup (new_of_enter hfirst hrest r.value) (h.enter _ _ hr hc)

theorem bindEach (ps : List Parameter) (words : List Word) (hc : P c) :
    P (c.bindEach converter ps words).1 := by
  induction ps generalizing c words with
  | nil => exact hc
  | cons p rest ih =>
    unfold Collector.bindEach
    split
    · exact ih _ (h.note _ nofun hc)
    · next hnew =>
      have hstill : ∀ anchor run, (c.resolve converter p anchor run true).1.matched p = false := by
        intro anchor run
        rw [resolve_eq, matched_extend]
        exact Bool.eq_false_iff.mpr hnew
      split
      · exact ih _ (h.enter _ _ (hstill _ _) (h.resolve converter _ _ _ _ hc))
      · exact ih _ (h.note _ nofun hc)

theorem applyFallback (p : Parameter) (hc : P c) : P (c.applyFallback converter p) := by
  unfold Collector.applyFallback
  split
  · exact hc
  · next fallback _ =>
    split
    · exact hc
    · next hnew =>
      have hstill : ((c.note (.applied p fallback)).convert converter p none
          (p.fallbackTokens fallback)).1.matched p = false := by
        rw [convert_eq, matched_extend]
        exact Bool.eq_false_iff.mpr hnew
      exact h.enter _ _ hstill (h.convert converter _ _ _ (h.note _ nofun hc))

theorem reportMissing (p : Parameter) (hc : P c) : P (c.reportMissing p) := by
  unfold Collector.reportMissing
  split
  · exact h.record _ hc
  · exact hc

omit h in
/-- What every step of a fold keeps, the fold keeps. -/
theorem foldl {α : Type} {step : Collector → α → Collector}
    (hstep : ∀ c a, P c → P (step c a)) (xs : List α) (hc : P c) : P (xs.foldl step c) := by
  induction xs generalizing c with
  | nil => exact hc
  | cons x rest ih => exact ih (hstep _ _ hc)

/-- One phrase of the command line keeps it. -/
theorem readPhrase (s : Progress) (phrase : Phrase) (hs : P s.collector) :
    P (s.readPhrase converter phrase).collector := by
  unfold Progress.readPhrase
  split
  · exact h.leaveAll _ (h.record _ hs)
  · next ps _ =>
    have hfresh := h.freshOf phrase.head [] ps hs
    split
    · next c heq =>
      rw [heq] at hfresh
      exact h.leaveAll _ hfresh
    · next c fresh _ heq =>
      rw [heq] at hfresh
      obtain ⟨hnodup, hnew⟩ := new_of_freshOf heq
      have hparameters := map_parameter_resolveGroup converter fresh phrase.head phrase.run c
      exact h.leaveAll _ (h.enterAll (hparameters.symm ▸ hnodup)
        (new_of_resolveGroup converter phrase.head phrase.run hnew) (h.resolveGroup converter _ _ _ hfresh))

/-- A carried property holds after all flags. -/
theorem ofStream (schema : Schema) (stream : Stream) (hnew : P (.new schema)) :
    P (Progress.ofStream converter schema stream).collector := by
  have hread : ∀ (phrases : List Phrase) (s : Progress), P s.collector →
      P (s.readPhrases converter phrases).collector := by
    intro phrases
    induction phrases with
    | nil => exact fun s hs => hs
    | cons phrase rest ih => exact fun s hs => ih _ (h.readPhrase converter s phrase hs)
  exact hread _ _ (h.leaveAll _ hnew)

theorem bind (hc : P c) : P (c.bind converter).1 :=
  h.bindEach converter _ _ hc

theorem applyFallbacks (ps : List Parameter) (hc : P c) :
    P (ps.foldl (Collector.applyFallback converter) c) :=
  foldl (fun _ _ => h.applyFallback converter _) ps hc

theorem reportAllMissing (ps : List Parameter) (hc : P c) : P (ps.foldl Collector.reportMissing c) :=
  foldl (fun _ _ => h.reportMissing _) ps hc

end Carried

/-- A property of collectors that each operation of a parse keeps. -/
structure Kept (P : Collector → Prop) : Prop extends Carried P where
  withdraw : ∀ {c : Collector} (r : RecordedFault), P c → P (c.withdraw r)
  nullify : ∀ {c : Collector} (p : Parameter), P c → P (c.nullify p)

namespace Kept

variable {P : Collector → Prop} (h : Kept P) (converter : Converter) {c : Collector}

include h

/-- Settling an overflow keeps it: either the fault is withdrawn or the value is dropped. -/
theorem settleOverflow (claimed : List Nat) (r : Resolution) (hc : P c) :
    P (c.settleOverflow claimed r) := by
  unfold Collector.settleOverflow
  split
  · exact hc
  · split
    · exact h.withdraw _ hc
    · exact h.nullify _ hc

/-- A kept property holds once the positions are bound and the overflows are settled. -/
theorem bindPositions (s : Progress) (hs : P s.collector) : P (s.bindPositions converter) :=
  Carried.foldl (fun _ _ => h.settleOverflow _ _) _ (h.bind converter hs)

/-- A kept property holds at the end of a parse. -/
theorem collect (schema : Schema) (words : List Word) (hnew : P (.new schema)) :
    P (collect converter schema words) :=
  h.reportAllMissing _ (h.applyFallbacks converter _
    (h.bindPositions converter _ (h.ofStream converter schema _ hnew)))

end Kept

/-- Every parameter is entered at most once. -/
def Distinct (c : Collector) : Prop :=
  (c.entries.map Entry.parameter).Nodup

/-- Nullifying a match changes no parameter. -/
theorem map_parameter_nullify {c : Collector} {p : Parameter} (hp : c.matched p = true) :
    (c.nullify p).entries.map Entry.parameter = c.entries.map Entry.parameter := by
  simp only [nullify, if_pos hp, List.map_map]
  apply List.map_congr_left
  intro entry _
  by_cases heq : entry.parameter = p <;> simp [heq]

private theorem distinct_concat {c : Collector} {p : Parameter} {value : Value} (hc : c.Distinct)
    (hp : c.matched p = false) : ((c.entries ++ [Entry.mk p value]).map Entry.parameter).Nodup := by
  simpa [List.concat_eq_append] using List.Nodup.concat (matched_eq_false_iff.mp hp) hc

/-- No parameter ever gets a second entry. -/
theorem kept_distinct : Kept Distinct where
  note _ _ hc := hc
  record _ hc := hc
  ask _ hc := hc
  leaveAll _ hc := hc
  withdraw _ hc := hc
  enter p value hp hc := by
    rw [enter_of_new hp]
    exact distinct_concat hc hp
  nullify {c} p hc := by
    cases hp : c.matched p with
    | true =>
      rw [Distinct, map_parameter_nullify hp]
      exact hc
    | false =>
      simp only [nullify, hp, Bool.false_eq_true, if_false]
      exact distinct_concat hc hp

/-- Tickets grow along the recorded faults, and the next one is new. -/
structure Ticketed (c : Collector) : Prop where
  increasing : c.recorded.Pairwise (·.ticket < ·.ticket)
  issued : ∀ r ∈ c.recorded, r.ticket < c.issued

/-- Tickets are issued in increasing order, and no fault has one that is still to be issued. -/
theorem kept_ticketed : Kept Ticketed where
  note _ _ hc := ⟨hc.increasing, hc.issued⟩
  ask _ hc := ⟨hc.increasing, hc.issued⟩
  leaveAll _ hc := ⟨hc.increasing, hc.issued⟩
  enter p value hp hc := by
    rw [enter_of_new hp]
    exact ⟨hc.increasing, hc.issued⟩
  nullify {c} p hc := by
    unfold nullify
    split <;> exact ⟨hc.increasing, hc.issued⟩
  record {c} fault hc := by
    constructor
    · refine List.pairwise_append.mpr ⟨hc.increasing, List.pairwise_singleton _ _, ?_⟩
      intro r hr new hnew
      rw [List.mem_singleton.mp hnew]
      exact hc.issued r hr
    · intro r hr
      obtain hr | hr := List.mem_append.mp hr
      · exact Nat.lt_succ_of_lt (hc.issued r hr)
      · rw [List.mem_singleton.mp hr]
        exact Nat.lt_succ_self _
  withdraw {c} r hc := by
    refine ⟨hc.increasing.filter _, ?_⟩
    intro other hother
    exact hc.issued other (List.mem_filter.mp hother).1

/-- No two faults have one ticket. -/
theorem Ticketed.nodup {c : Collector} (hc : c.Ticketed) :
    (c.recorded.map RecordedFault.ticket).Nodup := by
  rw [List.nodup_iff_pairwise_ne, List.pairwise_map]
  exact hc.increasing.imp fun hlt => Nat.ne_of_lt hlt

/-- No two recorded faults have the same ticket. -/
theorem Ticketed.eq_of_ticket_eq {c : Collector} (hc : c.Ticketed) {r other : RecordedFault}
    (hr : r ∈ c.recorded) (hother : other ∈ c.recorded) (heq : r.ticket = other.ticket) :
    r = other :=
  List.inj_on_of_nodup_map hc.nodup hr hother heq

theorem kept_schema (schema : Schema) : Kept (·.schema = schema) where
  note _ _ hc := hc
  record _ hc := hc
  ask _ hc := hc
  leaveAll _ hc := hc
  withdraw _ hc := hc
  enter p value hp hc := by
    rw [enter_of_new hp]
    exact hc
  nullify {c} p hc := by
    unfold nullify
    split <;> exact hc

/-- No parameter was refused. -/
def Unrefused (c : Collector) : Prop :=
  ∀ p, Event.refused p ∉ c.journal

private theorem refused_notMem_concat {journal : List Event} (h : ∀ p, .refused p ∉ journal)
    {event : Event} (hevent : ∀ p, event ≠ .refused p) : ∀ p, .refused p ∉ journal ++ [event] := by
  intro p hp
  obtain hp | hp := List.mem_append.mp hp
  · exact h p hp
  · exact hevent p (List.mem_singleton.mp hp).symm

/-- No operation of a parse refuses a match, since it enters new parameters only. -/
theorem kept_unrefused : Kept Unrefused where
  note _ hevent hc := refused_notMem_concat hc fun p heq => hevent (heq ▸ rfl)
  record _ hc := refused_notMem_concat hc (by simp)
  ask _ hc := hc
  leaveAll _ hc := hc
  withdraw _ hc := refused_notMem_concat hc (by simp)
  enter p value hp hc := by
    rw [enter_of_new hp]
    exact refused_notMem_concat hc (by simp)
  nullify {c} p hc := by
    unfold nullify
    split <;> exact hc

end Collector

end CommandLine
