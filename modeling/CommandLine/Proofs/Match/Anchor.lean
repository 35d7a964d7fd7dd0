import CommandLine.Proofs.Match.Group

namespace CommandLine

/-- The faults that a parameter can have against a run: it took too few words, the converter refused those
that it took, or there are more than it may take. -/
inductive Fault.OfRun (p : Parameter) (anchor : Word) (run : List Word) (positional : Bool) :
    Fault → Prop where
  | short (hshort : (p.take run).length < p.window.minimum) :
      OfRun p anchor run positional
        (.notEnough p anchor (p.take run) p.window.minimum positional)
  | refused {raw : List String} (failure : Failure) (hraw : p.rawTexts? (p.take run) = some raw) :
      OfRun p anchor run positional (.conversion p (some anchor) raw failure)
  | overflowing (maximum : Nat) (hsurplus : Collector.surplusOf p run positional ≠ []) :
      OfRun p anchor run positional
        (.tooMany p anchor (p.take run) (Collector.surplusOf p run positional) maximum)

namespace Match

variable {converter : Converter} {p : Parameter} {anchor : Word} {run : List Word}
  {earlier : List Request} {ticket : Nat} {r : RecordedFault}

/-- A fault of a conversion is about its parameter and points where the conversion does. -/
theorem fault_of_mem_ofConversion {anchor : Option Word} {raw : List String}
    (hr : r ∈ (Trail.ofConversion converter p anchor raw earlier ticket).recorded) :
    ∃ failure, r.fault = .conversion p anchor raw failure := by
  obtain hnone | ⟨failure, hrefused, _⟩ :=
    Trail.recorded_ofConversion converter p anchor raw earlier ticket
  · rw [hnone] at hr
    cases hr
  · rw [hrefused] at hr
    cases List.mem_singleton.mp hr
    exact ⟨failure, rfl⟩

theorem fault_of_mem_ofTaken {taken : List Word}
    (hr : r ∈ (Trail.ofTaken converter p anchor taken earlier ticket).recorded) :
    ∃ raw failure, p.rawTexts? taken = some raw ∧
      r.fault = .conversion p (some anchor) raw failure := by
  unfold Trail.ofTaken at hr
  cases hraw : p.rawTexts? taken with
  | none =>
    rw [hraw] at hr
    cases hr
  | some raw =>
    rw [hraw] at hr
    obtain ⟨failure, hfault⟩ := fault_of_mem_ofConversion hr
    exact ⟨raw, failure, rfl, hfault⟩

theorem ofRun_of_mem_ofRun {positional : Bool}
    (hr : r ∈ (ofRun converter p anchor run positional earlier ticket).trail.recorded) :
    r.fault.OfRun p anchor run positional := by
  rcases Nat.lt_or_ge (p.take run).length p.window.minimum with hshort | henough
  · rw [ofRun_of_short converter anchor positional earlier ticket hshort] at hr
    cases List.mem_singleton.mp hr
    exact .short hshort
  · obtain ⟨hrecorded, hpending, _, _⟩ :=
      recorded_ofRun_of_enough converter anchor positional earlier ticket henough
    rw [hrecorded, List.mem_append] at hr
    obtain hr | hr := hr
    · obtain ⟨raw, failure, hraw, hfault⟩ := fault_of_mem_ofTaken hr
      rw [hfault]
      exact .refused failure hraw
    · rw [Option.mem_toList] at hr
      rw [hr, Option.map_some] at hpending
      obtain ⟨maximum, _, hsurplus, hfault⟩ := Parameter.overflow?_eq_some hpending.symm
      rw [hfault]
      exact .overflowing maximum hsurplus

theorem anchor?_of_mem_ofRun {positional : Bool}
    (hr : r ∈ (ofRun converter p anchor run positional earlier ticket).trail.recorded) :
    r.fault.anchor? = some anchor := by
  have hof := ofRun_of_mem_ofRun hr
  generalize r.fault = fault at hof ⊢
  cases hof <;> rfl

/-- A fallback can only be refused, and its fault points at nothing. -/
theorem recorded_ofFallback (converter : Converter) (p : Parameter) (fallback : String)
    (earlier : List Request) (ticket : Nat) :
    (ofFallback converter p fallback earlier ticket).trail.recorded = [] ∨
      ∃ raw failure, (ofFallback converter p fallback earlier ticket).trail.recorded =
        [⟨ticket, .conversion p none raw failure⟩] := by
  obtain hnone | ⟨failure, hrefused, _⟩ :=
    Trail.recorded_ofConversion converter p none (p.fallbackTokens fallback) earlier ticket
  · exact .inl hnone
  · exact .inr ⟨_, failure, hrefused⟩

/-- The faults of a flag point at it. -/
theorem anchor?_of_mem_group {ps : List Parameter} {m : Match} (hnodup : ps.Nodup)
    (hm : m ∈ group converter ps anchor run earlier ticket) (hr : r ∈ m.trail.recorded) :
    r.fault.anchor? = some anchor := by
  obtain ⟨_, ⟨literal, _, heq⟩ | ⟨_, heq⟩⟩ := mem_group hnodup hm
  · rw [heq] at hr
    obtain ⟨failure, hfault⟩ := fault_of_mem_ofConversion hr
    rw [hfault]
    rfl
  · rw [heq] at hr
    exact anchor?_of_mem_ofRun hr

/-- A match that cannot overflow has too few words or a refused conversion. -/
theorem Coherent.kind_of_pending_eq_none {m : Match} (h : m.Coherent)
    (hpending : m.resolution.pending = none) (hr : r ∈ m.trail.recorded) :
    r.fault.kind = .notEnough ∨ r.fault.kind = .conversion := by
  cases h with
  | short only hrecorded _ hkind =>
    rw [hrecorded, List.mem_singleton] at hr
    exact .inl (hr ▸ hkind)
  | answered refused hrecorded hrefused =>
    rw [hrecorded, hpending, Option.toList_none, List.append_nil, Option.mem_toList] at hr
    exact .inr (hrefused r hr).2.1

end Match

end CommandLine
