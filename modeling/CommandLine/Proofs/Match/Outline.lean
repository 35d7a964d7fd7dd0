import CommandLine.Proofs.Match.Faults

namespace CommandLine

/-- Whether a fault is told by the words alone, without a converter. -/
def Fault.isPlain (fault : Fault) : Bool :=
  fault.kind ≠ .conversion

namespace Match

/-- What of a match does not come from a converter. -/
structure Outline where
  parameter : Parameter
  taken : List Word
  surplus : List Word
  /-- The overflow that waits to be settled. -/
  overflow : Option Fault
  /-- The recorded faults but a refused conversion. -/
  faults : List Fault

/-- The outline of a match. -/
def outline (m : Match) : Outline where
  parameter := m.parameter
  taken := m.taken
  surplus := m.resolution.surplus
  overflow := m.resolution.pending.map RecordedFault.fault
  faults := (m.trail.recorded.map RecordedFault.fault).filter Fault.isPlain

/-- The outline of a parameter that is resolved against a run. -/
def Outline.ofRun (p : Parameter) (anchor : Word) (run : List Word) (positional : Bool) : Outline :=
  let taken := p.take run
  if taken.length < p.window.minimum then
    ⟨p, taken, [], none, [.notEnough p anchor taken p.window.minimum positional]⟩
  else
    let surplus := Collector.surplusOf p run positional
    let overflow := p.overflow? anchor taken surplus
    ⟨p, taken, surplus, overflow, overflow.toList⟩

/-- The outline of a parameter that asks for the conversion of given words and nothing else. -/
def Outline.ofTexts (p : Parameter) (taken : List Word) : Outline :=
  ⟨p, taken, [], none, []⟩

theorem filter_isPlain_ofConversion (converter : Converter) (p : Parameter) (anchor : Option Word)
    (raw : List String) (earlier : List Request) (ticket : Nat) :
    ((Trail.ofConversion converter p anchor raw earlier ticket).recorded.map
      RecordedFault.fault).filter Fault.isPlain = [] := by
  obtain hnone | ⟨failure, hrefused, _⟩ :=
    Trail.recorded_ofConversion converter p anchor raw earlier ticket
  · rw [hnone]
    rfl
  · rw [hrefused]
    rfl

theorem filter_isPlain_ofTaken (converter : Converter) (p : Parameter) (anchor : Word)
    (taken : List Word) (earlier : List Request) (ticket : Nat) :
    ((Trail.ofTaken converter p anchor taken earlier ticket).recorded.map
      RecordedFault.fault).filter Fault.isPlain = [] := by
  unfold Trail.ofTaken
  split
  · exact filter_isPlain_ofConversion ..
  · rfl

/-- The outline of a match by a run can be told without a converter. -/
theorem outline_ofRun (converter : Converter) (p : Parameter) (anchor : Word) (run : List Word)
    (positional : Bool) (earlier : List Request) (ticket : Nat) :
    (ofRun converter p anchor run positional earlier ticket).outline =
      .ofRun p anchor run positional := by
  unfold Outline.ofRun
  rcases Nat.lt_or_ge (p.take run).length p.window.minimum with hshort | henough
  · rw [if_pos hshort, ofRun_of_short converter anchor positional earlier ticket hshort]
    rfl
  · obtain ⟨hrecorded, hpending, hsurplus, _⟩ :=
      recorded_ofRun_of_enough converter anchor positional earlier ticket henough
    have hplain : (p.overflow? anchor (p.take run)
        (Collector.surplusOf p run positional)).toList.filter Fault.isPlain =
          (p.overflow? anchor (p.take run) (Collector.surplusOf p run positional)).toList := by
      refine List.filter_eq_self.mpr fun fault hfault => ?_
      obtain ⟨maximum, _, _, rfl⟩ := Parameter.overflow?_eq_some (Option.mem_toList.mp hfault)
      rfl
    rw [if_neg (Nat.not_lt.mpr henough)]
    simp only [outline, parameter_ofRun, taken_ofRun, hrecorded, hsurplus, hpending, List.map_append,
      List.filter_append, filter_isPlain_ofTaken, List.nil_append, ← Option.toList_map, hplain]

theorem outline_ofLiteral (converter : Converter) (p : Parameter) (anchor literal : Word)
    (earlier : List Request) (ticket : Nat) :
    (ofLiteral converter p anchor literal earlier ticket).outline = .ofTexts p [literal] := by
  have hplain := filter_isPlain_ofConversion converter p (some anchor) [literal.text] earlier ticket
  unfold outline
  dsimp only [ofLiteral]
  rw [hplain]
  rfl

theorem outline_ofFallback (converter : Converter) (p : Parameter) (fallback : String)
    (earlier : List Request) (ticket : Nat) :
    (ofFallback converter p fallback earlier ticket).outline = .ofTexts p [] := by
  have hplain := filter_isPlain_ofConversion converter p none (p.fallbackTokens fallback) earlier ticket
  unfold outline
  dsimp only [ofFallback]
  rw [Trail.recorded_append, show (Trail.ofEvent (.applied p fallback)).recorded = [] from rfl,
    List.nil_append, hplain]
  rfl

section

variable (first second : Converter) (anchor : Word) (ps : List Parameter)
  (earlier earlier' : List Request) (ticket ticket' : Nat)

/-- The members of a group have the same outlines whatever the converters answer. -/
theorem map_outline_each (run : List Word) :
    (each first anchor run ps earlier ticket).map outline =
      (each second anchor run ps earlier' ticket').map outline := by
  induction ps generalizing earlier earlier' ticket ticket' with
  | nil => rfl
  | cons p rest ih =>
    cases rest with
    | nil => simp only [each, List.map_cons, List.map_nil, outline_ofRun]
    | cons q others =>
      have hne : q :: others ≠ [] := List.cons_ne_nil q others
      rw [each.eq_3 _ _ _ _ _ _ _ hne, each.eq_3 _ _ _ _ _ _ _ hne, List.map_cons, List.map_cons,
        outline_ofRun, outline_ofRun]
      exact congrArg _ (ih ..)

theorem map_outline_sharing (literal : Word) :
    (sharing first anchor literal ps earlier ticket).map outline =
      (sharing second anchor literal ps earlier' ticket').map outline := by
  induction ps generalizing earlier earlier' ticket ticket' with
  | nil => rfl
  | cons p rest ih =>
    rw [sharing, sharing, List.map_cons, List.map_cons, outline_ofLiteral, outline_ofLiteral]
    exact congrArg _ (ih ..)

/-- The outlines of the matches of a flag depend on its parameters and its run alone. -/
theorem map_outline_group (run : List Word) :
    (group first ps anchor run earlier ticket).map outline =
      (group second ps anchor run earlier' ticket').map outline := by
  unfold group
  split
  · exact map_outline_sharing ..
  · exact map_outline_each ..

end

end Match

end CommandLine
