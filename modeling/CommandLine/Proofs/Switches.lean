import CommandLine.Proofs.Windows

namespace CommandLine

open Text

/-- Standard conversion of a boolean literal is whether it spells `true`. -/
theorem Converter.convert_literal {text : String} (hliteral : isBooleanLiteral text = true)
    {p : Parameter} (hboolean : p.isBoolean = true) (earlier : List Request) :
    Converter.standard.convert earlier ⟨[text], .descriptor p.type⟩ =
      .ok (.bool (lower text == "true")) := by
  rw [Parameter.isBoolean, Descriptor.isBoolean_eq_true_iff] at hboolean
  rw [hboolean]
  change (answerWith coerce _).mapError Refusal.failure = _
  simp [answerWith, convertWith, coerce, coerceKind, hliteral, Except.mapError]

/-- Words that a switch may have taken. -/
structure SwitchWords (taken : List Word) : Prop where
  single : taken.length ≤ 1
  literal : ∀ w ∈ taken, isBooleanLiteral w.text = true

namespace SwitchWords

variable {taken : List Word}

/-- A switch converts one literal, and it is on unless it took a word that spells `false`. -/
theorem exists_rawTexts? (h : SwitchWords taken) {p : Parameter} (hboolean : p.isBoolean = true) :
    ∃ text, p.rawTexts? taken = some [text] ∧ isBooleanLiteral text = true ∧
      ((lower text == "true") = false ↔ ∃ w ∈ taken, lower w.text = "false") := by
  obtain ⟨hsingle, hliteral⟩ := h
  cases taken with
  | nil =>
    refine ⟨Collector.impliedLiteral, ?_, by decide +kernel, ?_⟩
    · simp [Parameter.rawTexts?, hboolean]
    · have hon : (lower Collector.impliedLiteral == "true") = true := by decide +kernel
      simp [hon]
  | cons w rest =>
    have hrest : rest = [] := by
      apply List.eq_nil_of_length_eq_zero
      rw [List.length_cons] at hsingle
      omega
    subst hrest
    have hspells := hliteral w List.mem_cons_self
    refine ⟨w.text, by simp [Parameter.rawTexts?], hspells, ?_⟩
    simp only [List.mem_singleton, exists_eq_left, beq_eq_false_iff_ne]
    simp only [isBooleanLiteral, Bool.or_eq_true, beq_iff_eq] at hspells
    constructor
    · intro hoff
      exact hspells.resolve_left hoff
    · intro hfalse htrue
      rw [hfalse] at htrue
      exact absurd htrue (by decide)

end SwitchWords

namespace Parameter

variable {p : Parameter}

/-- A boolean flag that takes one word at most. -/
def IsSwitch (p : Parameter) : Prop :=
  p.isBoolean = true ∧ ∀ arity, p.arity = some arity → ∃ bound ≤ 1, arity.maximum = some bound

theorem IsSwitch.exists_maximum (h : p.IsSwitch) : ∃ bound ≤ 1, p.window.maximum = some bound := by
  obtain ⟨hboolean, harity⟩ := h
  unfold window
  cases hp : p.arity with
  | none =>
    have hitem := Descriptor.isCollection_eq_false_of_isBoolean hboolean
    exact ⟨1, Nat.le_refl 1, by simp [hitem]⟩
  | some arity => exact harity arity hp

/-- A switch takes one word of a run at most, and only a boolean literal. -/
theorem IsSwitch.take (h : p.IsSwitch) (run : List Word) : SwitchWords (p.take run) where
  single := by
    obtain ⟨bound, hone, hbound⟩ := h.exists_maximum
    exact (Window.length_cut_le hbound _).trans hone
  literal w hw := by
    have heligible := (p.window.cut_prefix _).subset hw
    rw [eligible, if_pos h.1] at heligible
    have hliteral := List.mem_takeWhile_imp heligible
    exact hliteral

end Parameter

namespace Match

/-- A match of a switch by the words of a command line: no word is refused, and the converter is asked
about what it took unless that is too few. -/
structure Switched (m : Match) : Prop where
  words : SwitchWords m.taken
  accepted : ∀ r ∈ m.trail.recorded, r.fault.kind ≠ .conversion
  asks : (∀ r ∈ m.trail.recorded, r.fault.kind ≠ .notEnough) →
    ∃ raw, m.Asks .standard raw ∧ m.parameter.rawTexts? m.taken = some raw

variable {m : Match} {p : Parameter}

theorem recorded_ofConversion_literal {text : String} (hliteral : isBooleanLiteral text = true)
    (hboolean : p.isBoolean = true) (anchor : Option Word) (earlier : List Request) (ticket : Nat) :
    (Trail.ofConversion .standard p anchor [text] earlier ticket).recorded = [] := by
  unfold Trail.ofConversion
  rw [Converter.convert_literal hliteral hboolean]

theorem switched_ofLiteral (hboolean : p.isBoolean = true) {literal : Word}
    (hliteral : isBooleanLiteral literal.text = true) (anchor : Word) (earlier : List Request)
    (ticket : Nat) : (ofLiteral .standard p anchor literal earlier ticket).Switched where
  words := ⟨Nat.le_refl 1, fun w hw => List.mem_singleton.mp hw ▸ hliteral⟩
  accepted r hr := by
    change r ∈ (Trail.ofConversion _ _ _ _ _ _).recorded at hr
    rw [recorded_ofConversion_literal hliteral hboolean] at hr
    cases hr
  asks _ := ⟨_, asks_ofLiteral .standard p anchor earlier ticket literal, rfl⟩

theorem switched_ofRun (h : p.IsSwitch) (anchor : Word) (run : List Word) (positional : Bool)
    (earlier : List Request) (ticket : Nat) :
    (ofRun .standard p anchor run positional earlier ticket).Switched := by
  have hwords := h.take run
  obtain ⟨text, hraw, hliteral, _⟩ := hwords.exists_rawTexts? h.1
  constructor
  case words => rwa [taken_ofRun]
  case accepted =>
    intro r hr
    rcases Nat.lt_or_ge (p.take run).length p.window.minimum with hshort | henough
    · rw [ofRun_of_short .standard anchor positional earlier ticket hshort] at hr
      rw [List.mem_singleton.mp hr]
      nofun
    · obtain ⟨hrecorded, hpending, _⟩ :=
        recorded_ofRun_of_enough .standard anchor positional earlier ticket henough
      rw [hrecorded, Trail.ofTaken, hraw] at hr
      dsimp only at hr
      rw [recorded_ofConversion_literal hliteral h.1, List.nil_append, Option.mem_toList] at hr
      rw [hr, Option.map_some] at hpending
      obtain ⟨maximum, _, _, hfault⟩ := Parameter.overflow?_eq_some hpending.symm
      rw [hfault]
      nofun
  case asks =>
    intro hreported
    rcases Nat.lt_or_ge (p.take run).length p.window.minimum with hshort | henough
    · rw [ofRun_of_short .standard anchor positional earlier ticket hshort] at hreported
      exact absurd rfl (hreported _ (List.mem_singleton_self _))
    · rw [taken_ofRun, parameter_ofRun]
      exact ⟨_, asks_ofRun .standard p anchor earlier ticket positional henough hraw, hraw⟩

end Match

section

variable {schema : Schema} {words : List Word} {m : Match}

/-- A switch that a flag or a position matches is matched as a switch. -/
theorem switched_of_mem (h : m.parameter.IsSwitch)
    (hm : m ∈ (transcript .standard schema words).flagged ++ (transcript .standard schema words).bindings) :
    m.Switched := by
  obtain hm | hm := List.mem_append.mp hm
  · obtain ⟨flag, fresh, run, made, ht, hm⟩ := exists_turn_of_mem_flagged hm
    obtain ⟨_, hnodup, _, _, rfl⟩ := exists_group_of_mem_turns ht
    obtain ⟨_, ⟨literal, hshared, heq⟩ | ⟨_, heq⟩⟩ := Match.mem_group hnodup hm
    · have hliteral : isBooleanLiteral literal.text = true := by
        unfold Collector.broadcastLiteral? at hshared
        split at hshared
        · exact (Option.filter_eq_some_iff.mp hshared).2
        · cases hshared
      rw [heq]
      exact Match.switched_ofLiteral h.1 hliteral flag m.earlier m.ticket
    · rw [heq]
      exact Match.switched_ofRun h ..
  · obtain ⟨_, anchor, behind, _, heq⟩ := Collector.mem_bindings hm
    rw [heq]
    exact Match.switched_ofRun h ..

/-- All that standard conversion refuses for a switch is its fallback. -/
theorem token?_of_refused_switch (h : m.parameter.IsSwitch)
    (hm : m ∈ (transcript .standard schema words).made) {claimed : List Nat} {fault : Fault}
    (hfault : fault ∈ m.standing claimed) (hkind : fault.kind = .conversion) : fault.token? = none := by
  obtain ⟨r, hr, rfl⟩ := List.mem_map.mp (List.mem_filter.mp hfault).1
  obtain hm | hm := List.mem_append.mp hm
  · exact absurd hkind ((switched_of_mem h hm).accepted r hr)
  · obtain ⟨fallback, _, heq⟩ := Collector.mem_fallbacks hm
    rw [heq] at hr
    obtain hnone | ⟨raw, failure, hrefused⟩ :=
      Match.recorded_ofFallback .standard m.parameter fallback m.earlier m.ticket
    · rw [hnone] at hr
      cases hr
    · rw [hrefused] at hr
      rw [List.mem_singleton.mp hr]
      rfl

end

/-- What a parse under standard conversion makes of a switch. -/
structure Switched (schema : Schema) (texts : List String) (p : Parameter) : Prop where
  /-- No word of the command line is refused for it. -/
  accepted : ∀ fault ∈ (parse .standard schema texts).faults, fault.parameter? = some p →
    fault.kind = .conversion → fault.token? = none
  /-- It is handed one word at most. -/
  single : (received .standard schema (Word.ofTexts 0 texts) p).length ≤ 1
  /-- If a flag or a position matches it, and it is not reported to have too few words or too many, it is
  on or off, and off exactly if it is handed a word that spells `false`. -/
  switched : (afterBinding .standard schema (Word.ofTexts 0 texts)).matched p = true →
    (∀ fault ∈ (parse .standard schema texts).faults, fault.parameter? = some p →
      fault.kind ≠ .notEnough ∧ fault.kind ≠ .tooMany) →
    ∃ on, (parse .standard schema texts).get? (.parameter p) = some (.bool on) ∧
      (on = false ↔
        ∃ w, Receives .standard schema (Word.ofTexts 0 texts) p w ∧ lower w.text = "false")

/-- No word of a command line is refused for a switch, and a matched switch is on or off. -/
theorem parse_switches (schema : Schema) (texts : List String) {p : Parameter} (h : p.IsSwitch) :
    Switched schema texts p := by
  constructor
  case accepted =>
    intro fault hfault habout hkind
    obtain ⟨m, hm, rfl, hstands⟩ | ⟨_, rfl⟩ := about_cases hfault habout
    · exact token?_of_refused_switch h hm hstands hkind
    · rfl
  case single =>
    by_cases hp : p ∈ (transcript .standard schema (Word.ofTexts 0 texts)).made.map Match.parameter
    · obtain ⟨m, hm, rfl⟩ := List.mem_map.mp hp
      rw [length_received hm]
      obtain hm | hm := List.mem_append.mp hm
      · exact (switched_of_mem h hm).words.single
      · simp [taken_of_mem_fallbacks hm]
    · have hnone : received .standard schema (Word.ofTexts 0 texts) p = [] := by
        refine List.filter_eq_nil_iff.mpr fun w _ hreceives => hp ?_
        obtain ⟨m, hm, hparameter, _⟩ := exists_match_of_receives (of_decide_eq_true hreceives)
        exact List.mem_map.mpr ⟨m, hm, hparameter⟩
      simp [hnone]
  case switched =>
    intro hmatched hreported
    rw [Collector.matched_iff, map_parameter_afterBinding] at hmatched
    obtain ⟨m, hm, rfl⟩ := List.mem_map.mp hmatched
    have hmade : m ∈ (transcript .standard schema (Word.ofTexts 0 texts)).made :=
      List.mem_append_left _ hm
    have hswitched := switched_of_mem h hm
    have henough : ∀ r ∈ m.trail.recorded, r.fault.kind ≠ .notEnough := by
      intro r hr hkind
      obtain ⟨fault, hfault, hkind, habout⟩ := (exists_notEnough_iff hmade).mpr ⟨r, hr, hkind⟩
      exact (hreported fault hfault habout).1 hkind
    obtain ⟨raw, hasks, hraw⟩ := hswitched.asks henough
    obtain ⟨text, htext, hliteral, hoff⟩ := hswitched.words.exists_rawTexts? h.1
    rw [htext, Option.some_inj] at hraw
    subst hraw
    refine ⟨lower text == "true", ?_, ?_⟩
    · have hvalue := get?_of_asks hmade hasks
        fun fault hfault habout => (hreported fault hfault habout).2
      rw [Converter.answer, Converter.convert_literal hliteral h.1] at hvalue
      exact hvalue
    · rw [hoff]
      exact exists_congr fun w => and_congr_left' (mem_taken_iff_receives rfl hmade)

/-- A switch behind which `FALSE` is typed is off. -/
theorem parse_switches_off :
    let switch := shortFlag 0 'v' (.scalar (.known .boolean)) rfl
    let schema : Schema := ⟨[switch], List.pairwise_singleton _ _⟩
    switch.IsSwitch ∧ Switched schema ["-v", "FALSE"] switch ∧
      (parse .standard schema ["-v", "FALSE"]).get? (.parameter switch) = some (.bool false) := by
  intro switch schema
  have hmatched : (afterBinding .standard schema (Word.ofTexts 0 ["-v", "FALSE"])).matched switch =
      true := by
    decide +kernel
  have hfaults : (parse .standard schema ["-v", "FALSE"]).faults = [] := by
    decide +kernel
  have hreceives : Receives .standard schema (Word.ofTexts 0 ["-v", "FALSE"]) switch ⟨"FALSE", 1⟩ := by
    decide +kernel
  have hswitch : switch.IsSwitch := ⟨rfl, nofun⟩
  have hswitched := parse_switches schema ["-v", "FALSE"] hswitch
  obtain ⟨on, hvalue, hoff⟩ := hswitched.switched hmatched (by simp [hfaults])
  have hon : on = false := hoff.mpr ⟨_, hreceives, by decide +kernel⟩
  rw [hon] at hvalue
  exact ⟨hswitch, hswitched, hvalue⟩

end CommandLine
