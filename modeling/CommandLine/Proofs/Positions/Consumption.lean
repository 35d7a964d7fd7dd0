import CommandLine.Proofs.Positions.Segments
import CommandLine.Proofs.Requests

namespace CommandLine

/-- A window leaves nothing of a list only if there is nothing, or if it takes nothing. -/
theorem Window.cut_eq_nil_iff {window : Window} {words : List Word} :
    window.cut words = [] ↔ words = [] ∨ window.maximum = some 0 := by
  unfold cut
  cases window.maximum with
  | none => simp
  | some bound => simp [List.take_eq_nil_iff, or_comm]

/-- Whether a position matches a parameter of a parse: no flag does, and it is there once the positions are
bound. -/
structure BoundByPosition (converter : Converter) (schema : Schema) (words : List Word)
    (p : Parameter) : Prop where
  new : (afterFlags converter schema words).collector.matched p = false
  bound : (afterBinding converter schema words).matched p = true

/-- Whether a position claims a leftover of a parse for a parameter. -/
def ClaimsLeftover (converter : Converter) (schema : Schema) (words : List Word) (p : Parameter) : Prop :=
  ∃ w, ⟨w, some p⟩ ∈ ((afterFlags converter schema words).collector.bind converter).2

/-- What becomes of a parameter that neither a flag nor a position matches. -/
structure LeftToFallback (converter : Converter) (schema : Schema) (texts : List String)
    (p : Parameter) : Prop where
  /-- It is not there before the fallbacks are applied. -/
  unbound : (afterBinding converter schema (Word.ofTexts 0 texts)).matched p = false
  /-- Its value is the answer to the texts of its fallback, when it is their turn. -/
  filled : ∀ fallback, p.fallback = some fallback →
    let request : Request := ⟨p.fallbackTokens fallback, .descriptor p.type⟩
    ∃ earlier later,
      (collect converter schema (Word.ofTexts 0 texts)).requests = earlier ++ request :: later ∧
        (parse converter schema texts).get? (.parameter p) = some (converter.answer earlier request)
  absent : p.fallback = none → (parse converter schema texts).get? (.parameter p) = none
  missing : .missing p ∈ (parse converter schema texts).faults ↔
    p.required = true ∧ p.fallback = none

section

variable {converter : Converter} {schema : Schema} {words : List Word} {p : Parameter} {m : Match}

/-- What a position matches takes nothing exactly if its window takes nothing. -/
theorem taken_eq_nil_iff_of_mem_bindings (hm : m ∈ (transcript converter schema words).bindings) :
    m.taken = [] ↔ m.parameter.window.maximum = some 0 := by
  obtain ⟨_, anchor, behind, heligible, hmatch⟩ := Collector.mem_bindings hm
  have htaken : m.taken = m.parameter.take (anchor :: behind) :=
    (congrArg Match.taken hmatch).trans (Match.taken_ofRun ..)
  rw [htaken, Parameter.take, Window.cut_eq_nil_iff, or_iff_right heligible]

theorem boundByPosition_iff :
    BoundByPosition converter schema words p ↔
      ∃ m ∈ (transcript converter schema words).bindings, m.parameter = p := by
  have hflags := Collector.matched_eq_false_iff (c := (afterFlags converter schema words).collector)
    (p := p)
  have hbinding := Collector.matched_iff (c := afterBinding converter schema words) (p := p)
  rw [map_parameter_afterFlags] at hflags
  rw [map_parameter_afterBinding, List.map_append, List.mem_append] at hbinding
  rw [← List.mem_map]
  constructor
  · rintro ⟨hnew, hbound⟩
    exact (hbinding.mp hbound).resolve_left (hflags.mp hnew)
  · intro hp
    refine ⟨hflags.mpr fun hflagged => ?_, hbinding.mpr (.inr hp)⟩
    have hnodup := nodup_made converter schema words
    rw [Transcript.made, List.map_append, List.map_append] at hnodup
    exact List.disjoint_of_nodup_append hnodup.of_append_left hflagged hp

/-- A parameter that is not matched has no value in the outcome. -/
theorem get?_of_notMem (hp : p ∉ (transcript converter schema words).made.map Match.parameter) :
    (collect converter schema words).freeze.get? (.parameter p) = none := by
  refine Option.map_eq_none_iff.mpr (List.find?_eq_none.mpr fun entry hentry hmeant => hp ?_)
  rw [← mem_results_iff, ← of_decide_eq_true hmeant]
  exact List.mem_map_of_mem hentry

/-- The fallback of a parameter that is matched by it is asked about once, and the answer is the value. -/
theorem get?_of_mem_fallbacks (hm : m ∈ (transcript converter schema words).fallbacks) {fallback : String}
    (hfallback : m.parameter.fallback = some fallback) :
    let request : Request := ⟨m.parameter.fallbackTokens fallback, .descriptor m.parameter.type⟩
    ∃ earlier later, (collect converter schema words).requests = earlier ++ request :: later ∧
      (collect converter schema words).freeze.get? (.parameter m.parameter) =
        some (converter.answer earlier request) := by
  intro request
  have hmem := mem_made_of_mem_fallbacks hm
  obtain ⟨text, htext, hasks⟩ := asks_of_mem_fallbacks hm
  obtain rfl : text = fallback := Option.some_inj.mp (htext.symm.trans hfallback)
  obtain ⟨later, hlater⟩ := (linked_made converter schema words).exists_later hmem
  rw [List.nil_append, ← collect_requests, hasks.requests, List.append_assoc,
    List.singleton_append] at hlater
  refine ⟨m.earlier, later, hlater, ?_⟩
  rw [get?_of_mem hmem, Match.settled_of_pending (pending_of_mem_fallbacks hm)]
  exact congrArg some hasks.value

variable {texts : List String}

/-- A parameter that neither a flag nor a position matches is left to its fallback. -/
theorem leftToFallback_of_new (hp : p ∈ schema.parameters)
    (hnew : (afterBinding converter schema (Word.ofTexts 0 texts)).matched p = false) :
    LeftToFallback converter schema texts p := by
  let t := transcript converter schema (Word.ofTexts 0 texts)
  have hunmatched : p ∉ (t.flagged ++ t.bindings).map Match.parameter := by
    rwa [← map_parameter_afterBinding, ← Collector.matched_eq_false_iff]
  have hmade : p ∈ t.made.map Match.parameter ↔ p.fallback.isSome = true := by
    rw [Transcript.made, List.map_append, List.mem_append, or_iff_right hunmatched,
      map_parameter_filled, List.mem_filter, Bool.and_eq_true, decide_eq_true_iff]
    exact ⟨fun h => h.2.1, fun h => ⟨hp, h, hunmatched⟩⟩
  constructor
  case unbound => exact hnew
  case filled =>
    intro fallback hfallback
    obtain ⟨m, hm, rfl⟩ := List.mem_map.mp (hmade.mpr (by rw [hfallback]; rfl))
    have hm : m ∈ t.fallbacks :=
      (List.mem_append.mp hm).resolve_left fun hm => hunmatched (List.mem_map_of_mem hm)
    exact get?_of_mem_fallbacks hm hfallback
  case absent =>
    intro hnone
    exact get?_of_notMem fun hmatched => by simpa [hnone] using hmade.mp hmatched
  case missing =>
    change .missing p ∈ (collect converter schema (Word.ofTexts 0 texts)).faults ↔ _
    rw [mem_faults_missing_iff, mem_missing_iff, hmade, Bool.not_eq_true, Option.isSome_eq_false_iff,
      Option.isNone_iff_eq_none, and_iff_right hp]

/-- A parameter claims a leftover exactly if a position matches it and its window takes a word. -/
theorem claimsLeftover_iff :
    ClaimsLeftover converter schema (Word.ofTexts 0 texts) p ↔
      BoundByPosition converter schema (Word.ofTexts 0 texts) p ∧ p.window.maximum ≠ some 0 := by
  rw [boundByPosition_iff]
  constructor
  · rintro ⟨w, hclaim⟩
    obtain ⟨v, hv, heq⟩ := List.mem_map.mp hclaim
    rw [Leftover.mk.injEq, schema_afterFlags] at heq
    obtain ⟨rfl, hlookup⟩ := heq
    obtain ⟨m, hm, rfl, hw⟩ := exists_binding_of_lookup rfl hv hlookup
    exact ⟨⟨m, hm, rfl⟩, (taken_eq_nil_iff_of_mem_bindings hm).not.mp (List.ne_nil_of_mem hw)⟩
  · rintro ⟨⟨m, hm, rfl⟩, hmaximum⟩
    obtain ⟨w, hw⟩ :=
      List.exists_mem_of_ne_nil _ ((taken_eq_nil_iff_of_mem_bindings hm).not.mpr hmaximum)
    exact ⟨w, mem_bind_of_mem_taken rfl hm hw⟩

end

/-- That a position matches a parameter only with words: it claims one whenever it is matched, and is left to
its fallback when it claims none. -/
structure Consumes (converter : Converter) (schema : Schema) (texts : List String) (p : Parameter) :
    Prop where
  claims : BoundByPosition converter schema (Word.ofTexts 0 texts) p →
    ClaimsLeftover converter schema (Word.ofTexts 0 texts) p
  leftover : p ∈ schema.parameters →
    (afterFlags converter schema (Word.ofTexts 0 texts)).collector.matched p = false →
      ¬ ClaimsLeftover converter schema (Word.ofTexts 0 texts) p →
        LeftToFallback converter schema texts p

/-- A position matches a parameter only with words, unless the window of the parameter takes none. -/
theorem parse_consumes_iff (converter : Converter) (schema : Schema) (texts : List String)
    (p : Parameter) :
    Consumes converter schema texts p ↔
      (BoundByPosition converter schema (Word.ofTexts 0 texts) p → p.window.maximum ≠ some 0) := by
  constructor
  · intro hconsumes hbound
    exact (claimsLeftover_iff.mp (hconsumes.claims hbound)).2
  · intro hmaximum
    refine ⟨fun hbound => claimsLeftover_iff.mpr ⟨hbound, hmaximum hbound⟩, ?_⟩
    intro hp hnew hnone
    refine leftToFallback_of_new hp (Bool.eq_false_iff.mpr fun hmatched => ?_)
    have hbound : BoundByPosition converter schema (Word.ofTexts 0 texts) p := ⟨hnew, hmatched⟩
    exact hnone (claimsLeftover_iff.mpr ⟨hbound, hmaximum hbound⟩)

/-- A slot for no words at all, with a fallback. -/
def closedSlot : Parameter :=
  { slot 0 (.scalar (.known .string)) (some ⟨0, some 0, by simp⟩) with fallback := some "d" }

/-- A word at hand matches a slot that takes none, which then claims nothing. -/
theorem closedSlot_bound :
    ¬ Consumes .standard ⟨[closedSlot], List.pairwise_singleton _ _⟩ ["x"] closedSlot := by
  let schema : Schema := ⟨[closedSlot], List.pairwise_singleton _ _⟩
  have hbound : BoundByPosition .standard schema (Word.ofTexts 0 ["x"]) closedSlot :=
    ⟨by decide +kernel, by decide +kernel⟩
  have hclaims : ((afterFlags .standard schema (Word.ofTexts 0 ["x"])).collector.bind .standard).2 =
      [⟨⟨"x", 0⟩, none⟩] := by
    decide +kernel
  intro hconsumes
  obtain ⟨w, hw⟩ := hconsumes.claims hbound
  rw [hclaims] at hw
  simp at hw

end CommandLine
