import CommandLine.Proofs.Match.Basic

namespace CommandLine

namespace Trail

/-- A conversion either is accepted and records nothing, or is refused and comes to no value. -/
theorem recorded_ofConversion (converter : Converter) (p : Parameter) (anchor : Option Word)
    (raw : List String) (earlier : List Request) (ticket : Nat) :
    (ofConversion converter p anchor raw earlier ticket).recorded = [] ∨
      ∃ failure, (ofConversion converter p anchor raw earlier ticket).recorded =
          [⟨ticket, .conversion p anchor raw failure⟩] ∧
        converter.answer earlier ⟨raw, .descriptor p.type⟩ = .none := by
  unfold ofConversion Converter.answer
  cases converter.convert earlier ⟨raw, .descriptor p.type⟩ with
  | ok value => exact .inl rfl
  | error failure => exact .inr ⟨failure, rfl, rfl⟩

/-- Converting what was taken records at most one fault, and then there is no value. -/
theorem recorded_ofTaken (converter : Converter) (p : Parameter) (anchor : Word)
    (taken : List Word) (earlier : List Request) (ticket : Nat) :
    (ofTaken converter p anchor taken earlier ticket).recorded = [] ∨
      ∃ raw failure, (ofTaken converter p anchor taken earlier ticket).recorded =
          [⟨ticket, .conversion p (some anchor) raw failure⟩] ∧
        converter.answerTaken p taken earlier = .none := by
  unfold ofTaken Converter.answerTaken
  cases p.rawTexts? taken with
  | none => exact .inl rfl
  | some raw =>
    obtain hnone | ⟨failure, hrecorded, hvalue⟩ :=
      recorded_ofConversion converter p (some anchor) raw earlier ticket
    · exact .inl hnone
    · exact .inr ⟨raw, failure, hrecorded, hvalue⟩

/-- A surplus records the fault of the overflow, if there is one. -/
theorem recorded_ofSurplus (p : Parameter) (anchor : Word) (taken surplus : List Word)
    (ticket : Nat) :
    (ofSurplus p anchor taken surplus ticket).recorded =
      ((p.overflow? anchor taken surplus).map (RecordedFault.mk ticket)).toList := by
  unfold ofSurplus
  cases p.overflow? anchor taken surplus <;> rfl

end Trail

/-- An overflow is of a parameter with a maximum, and tells the words beyond it. -/
theorem Parameter.overflow?_eq_some {p : Parameter} {anchor : Word} {taken surplus : List Word}
    {fault : Fault} (h : p.overflow? anchor taken surplus = some fault) :
    ∃ maximum : Nat, p.window.maximum = some maximum ∧ surplus ≠ [] ∧
      fault = .tooMany p anchor taken surplus maximum := by
  unfold overflow? at h
  split at h
  · next maximum w rest hmaximum =>
    cases h
    exact ⟨maximum, hmaximum, List.cons_ne_nil _ _, rfl⟩
  · cases h

namespace Match

/-- The ways in which a match comes about. -/
inductive Made (converter : Converter) : Match → Prop where
  | run (p : Parameter) (anchor : Word) (run : List Word) (positional : Bool)
      (earlier : List Request) (ticket : Nat) :
      Made converter (ofRun converter p anchor run positional earlier ticket)
  | literal (p : Parameter) (anchor literal : Word) (earlier : List Request) (ticket : Nat) :
      Made converter (ofLiteral converter p anchor literal earlier ticket)
  | fallback (p : Parameter) (fallback : String) (earlier : List Request) (ticket : Nat) :
      Made converter (ofFallback converter p fallback earlier ticket)

/-- What the faults of a match have to do with its parameter and its value: too few words stand
alone, and otherwise a refused conversion comes before the overflow. -/
inductive Coherent (m : Match) : Prop where
  | short (r : RecordedFault) (hrecorded : m.trail.recorded = [r])
      (habout : r.fault.parameter? = some m.parameter) (hkind : r.fault.kind = .notEnough)
      (hvalue : m.resolution.value = .none) (hpending : m.resolution.pending = none)
  | answered (refused : Option RecordedFault)
      (hrecorded : m.trail.recorded = refused.toList ++ m.resolution.pending.toList)
      (hrefused : ∀ r ∈ refused, r.fault.parameter? = some m.parameter ∧
        r.fault.kind = .conversion ∧ m.resolution.value = .none)
      (hpending : ∀ r ∈ m.resolution.pending, r.fault.parameter? = some m.parameter ∧
        r.fault.kind = .tooMany)

namespace Coherent

variable {m : Match} {r : RecordedFault}

private theorem answered_mem {refused pending : Option RecordedFault}
    (hr : r ∈ refused.toList ++ pending.toList) : r ∈ refused ∨ r ∈ pending := by
  simpa using hr

/-- Every fault of a match is about its parameter. -/
theorem about (h : m.Coherent) (hr : r ∈ m.trail.recorded) :
    r.fault.parameter? = some m.parameter := by
  cases h with
  | short only hrecorded habout =>
    rw [hrecorded, List.mem_singleton] at hr
    rwa [hr]
  | answered refused hrecorded hrefused hpending =>
    rw [hrecorded] at hr
    cases answered_mem hr with
    | inl hr => exact (hrefused r hr).1
    | inr hr => exact (hpending r hr).1

/-- A match records too few words only, or a refused conversion and too many words at most. -/
theorem kinds (h : m.Coherent) :
    m.trail.recorded.map (·.fault.kind) = [.notEnough] ∨
      (m.trail.recorded.map (·.fault.kind)).Sublist [.conversion, .tooMany] := by
  cases h with
  | short only hrecorded _ hkind => simp [hrecorded, hkind]
  | answered refused hrecorded hrefused hpending =>
    right
    rw [hrecorded]
    cases refused <;> cases hm : m.resolution.pending <;> simp_all

/-- Every fault but an overflow leaves the match without a value. -/
theorem value_eq_none (h : m.Coherent) (hr : r ∈ m.trail.recorded)
    (hkind : r.fault.kind ≠ .tooMany) : m.resolution.value = .none := by
  cases h with
  | short _ _ _ _ hvalue => exact hvalue
  | answered refused hrecorded hrefused hpending =>
    rw [hrecorded] at hr
    cases answered_mem hr with
    | inl hr => exact (hrefused r hr).2.2
    | inr hr => exact absurd (hpending r hr).2 hkind

/-- The overflow of a match is what waits to be settled. -/
theorem pending_eq_some_iff (h : m.Coherent) :
    m.resolution.pending = some r ↔ r ∈ m.trail.recorded ∧ r.fault.kind = .tooMany := by
  cases h with
  | short only hrecorded _ hkind _ hpending =>
    rw [hpending, hrecorded, List.mem_singleton]
    constructor
    · intro h
      cases h
    · rintro ⟨rfl, hover⟩
      rw [hkind] at hover
      cases hover
  | answered refused hrecorded hrefused hpending =>
    rw [hrecorded]
    constructor
    · intro hr
      exact ⟨by simp [hr], (hpending r hr).2⟩
    · rintro ⟨hr, hover⟩
      cases answered_mem hr with
      | inl hr =>
        have hkind := (hrefused r hr).2.1
        rw [hover] at hkind
        cases hkind
      | inr hr => exact hr

end Coherent

private theorem coherent_of_conversion {m : Match} {anchor : Option Word} {raw : List String}
    (hpending : m.resolution.pending = none)
    (hrecorded : m.trail.recorded = [] ∨ ∃ failure,
      m.trail.recorded = [⟨m.ticket, .conversion m.parameter anchor raw failure⟩] ∧
        m.resolution.value = .none) : m.Coherent := by
  obtain hrecorded | ⟨failure, hrecorded, hvalue⟩ := hrecorded
  · exact .answered none (by simp [hrecorded, hpending]) (by simp) (by simp [hpending])
  · refine .answered (some ⟨m.ticket, .conversion m.parameter anchor raw failure⟩)
      (by simp [hrecorded, hpending]) ?_ (by simp [hpending])
    intro r hr
    cases hr
    exact ⟨rfl, rfl, hvalue⟩

theorem coherent_ofLiteral (converter : Converter) (p : Parameter) (anchor literal : Word)
    (earlier : List Request) (ticket : Nat) :
    (ofLiteral converter p anchor literal earlier ticket).Coherent :=
  coherent_of_conversion rfl (Trail.recorded_ofConversion ..)

theorem coherent_ofFallback (converter : Converter) (p : Parameter) (fallback : String)
    (earlier : List Request) (ticket : Nat) :
    (ofFallback converter p fallback earlier ticket).Coherent :=
  coherent_of_conversion rfl (Trail.recorded_ofConversion ..)

section

variable (converter : Converter) {p : Parameter} (anchor : Word) {run : List Word}
  (positional : Bool) (earlier : List Request) (ticket : Nat)

/-- A run that is too short is not converted, and its match records the shortage. -/
theorem ofRun_of_short (hshort : (p.take run).length < p.window.minimum) :
    ofRun converter p anchor run positional earlier ticket =
      ⟨earlier, ticket, ⟨p, p.take run, .none, [], none⟩,
        .ofFault ticket (.notEnough p anchor (p.take run) p.window.minimum positional)⟩ := by
  unfold ofRun
  exact if_pos hshort

/-- The fault of a surplus is recorded behind that of the conversion. -/
theorem recorded_ofRun_of_enough (henough : p.window.minimum ≤ (p.take run).length) :
    let m := ofRun converter p anchor run positional earlier ticket
    m.trail.recorded =
        (Trail.ofTaken converter p anchor (p.take run) earlier ticket).recorded ++
          m.resolution.pending.toList ∧
      m.resolution.pending.map RecordedFault.fault =
        p.overflow? anchor (p.take run) (Collector.surplusOf p run positional) ∧
      m.resolution.surplus = Collector.surplusOf p run positional ∧
      m.resolution.value = converter.answerTaken p (p.take run) earlier := by
  unfold ofRun
  simp only [if_neg (Nat.not_lt.mpr henough), Trail.recorded_append, Trail.recorded_ofSurplus]
  simp [Function.comp_def]

/-- A match with enough words asks for what it took and nothing else. -/
theorem requests_ofRun_of_enough (henough : p.window.minimum ≤ (p.take run).length) :
    (ofRun converter p anchor run positional earlier ticket).trail.requests =
      (p.rawTexts? (p.take run)).toList.map (⟨·, .descriptor p.type⟩) := by
  unfold ofRun
  simp only [if_neg (Nat.not_lt.mpr henough), Trail.requests_append]
  have hsurplus : ∀ next, (Trail.ofSurplus p anchor (p.take run)
      (Collector.surplusOf p run positional) next).requests = [] := by
    intro next
    unfold Trail.ofSurplus
    split <;> rfl
  rw [hsurplus, List.append_nil]
  unfold Trail.ofTaken
  cases p.rawTexts? (p.take run) with
  | none => rfl
  | some raw => simp

end

/-- A position has no surplus: what it does not take stays a leftover. -/
theorem pending_ofRun_of_positional (converter : Converter) (p : Parameter) (anchor : Word)
    (run : List Word) (earlier : List Request) (ticket : Nat) :
    (ofRun converter p anchor run true earlier ticket).resolution.pending = none := by
  unfold ofRun
  dsimp only
  split
  · rfl
  · simp [Collector.surplusOf, Parameter.overflow?]

/-- A match by a run of words coheres, in each of its cases. -/
theorem coherent_ofRun (converter : Converter) (p : Parameter) (anchor : Word) (run : List Word)
    (positional : Bool) (earlier : List Request) (ticket : Nat) :
    (ofRun converter p anchor run positional earlier ticket).Coherent := by
  rcases Nat.lt_or_ge (p.take run).length p.window.minimum with hshort | henough
  · rw [ofRun_of_short converter anchor positional earlier ticket hshort]
    exact .short _ rfl rfl rfl rfl rfl
  · obtain ⟨hrecorded, hpending, _, hvalue⟩ :=
      recorded_ofRun_of_enough converter anchor positional earlier ticket henough
    have hoverflow : ∀ r ∈ (ofRun converter p anchor run positional earlier ticket).resolution.pending,
        r.fault.parameter? = some (ofRun converter p anchor run positional earlier ticket).parameter ∧
          r.fault.kind = .tooMany := by
      intro r hr
      rw [hr, Option.map_some] at hpending
      obtain ⟨maximum, _, _, hfault⟩ := Parameter.overflow?_eq_some hpending.symm
      rw [hfault, parameter_ofRun]
      exact ⟨rfl, rfl⟩
    obtain hnone | ⟨raw, failure, hrefused, hnovalue⟩ :=
      Trail.recorded_ofTaken converter p anchor (p.take run) earlier ticket
    · rw [hnone, List.nil_append] at hrecorded
      exact .answered none hrecorded (by simp) hoverflow
    · rw [hrefused] at hrecorded
      refine .answered (some ⟨ticket, .conversion p (some anchor) raw failure⟩) hrecorded ?_ hoverflow
      intro r hr
      cases hr
      exact ⟨by rw [parameter_ofRun]; rfl, rfl, hvalue.trans hnovalue⟩

/-- Every match that is made coheres. -/
theorem Made.coherent {converter : Converter} {m : Match} (h : Made converter m) : m.Coherent := by
  cases h with
  | run => exact coherent_ofRun ..
  | literal => exact coherent_ofLiteral ..
  | fallback => exact coherent_ofFallback ..

end Match

end CommandLine
