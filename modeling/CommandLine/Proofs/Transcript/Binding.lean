import CommandLine.Proofs.Cursor.Turn

namespace CommandLine

namespace Collector

theorem accept_nil (c : Collector) : c.accept [] [] = c := by
  simp [accept]

theorem accept_accept (c : Collector) (ms ns : List Match) (first second : List Event) :
    (c.accept ms first).accept ns second = c.accept (ms ++ ns) (first ++ second) := by
  simp [accept, Nat.add_assoc]

theorem note_eq_accept (c : Collector) (event : Event) : c.note event = c.accept [] [event] := by
  simp [accept, note]

/-- Entering a new parameter after the trail of its match accepts the match. -/
theorem enter_extend {c : Collector} {m : Match} (hnew : c.matched m.parameter = false) :
    (c.extend m.trail).enter m.parameter m.resolution.value =
      c.accept [m] (m.trail.journal ++ [.matched m.parameter m.resolution.value]) := by
  rw [enter_of_new (by rw [matched_extend]; exact hnew)]
  simp [accept, extend, note, Match.entry, Match.parameter]

/-- What a phase of a parse makes of a collector when it accepts matches: they know the requests made
before them, and they came about as matches do. -/
structure Accepts (converter : Converter) (c : Collector) (ms : List Match) (d : Collector) : Prop where
  eq : ∃ journal, d = c.accept ms journal
  linked : Match.Linked c.requests ms
  made : ∀ m ∈ ms, Match.Made converter m

namespace Accepts

variable {converter : Converter} {c d e : Collector} {ms ns : List Match}

theorem refl (c : Collector) : Accepts converter c [] c :=
  ⟨⟨[], (accept_nil c).symm⟩, trivial, by simp⟩

/-- Accepted matches follow one another. -/
theorem trans (hfirst : Accepts converter c ms d) (hsecond : Accepts converter d ns e) :
    Accepts converter c (ms ++ ns) e := by
  obtain ⟨first, rfl⟩ := hfirst.eq
  obtain ⟨second, rfl⟩ := hsecond.eq
  refine ⟨⟨first ++ second, accept_accept ..⟩, ?_, ?_⟩
  · exact Match.linked_append.mpr ⟨hfirst.linked, hsecond.linked⟩
  · intro m hm
    exact (List.mem_append.mp hm).elim (hfirst.made m) (hsecond.made m)

theorem note (event : Event) : Accepts converter c [] (c.note event) :=
  ⟨⟨[event], note_eq_accept c event⟩, trivial, by simp⟩

/-- A match of a new parameter, made behind the requests so far, is accepted. -/
theorem single {m : Match} (hmade : Match.Made converter m) (hearlier : m.earlier = c.requests)
    (hnew : c.matched m.parameter = false) :
    Accepts converter c [m] ((c.extend m.trail).enter m.parameter m.resolution.value) :=
  ⟨⟨_, enter_extend hnew⟩, ⟨hearlier, trivial⟩, by simpa using hmade⟩

end Accepts

/-- The matches of positions against the leftovers that none before them claimed. -/
def bindings (converter : Converter) : List Parameter → List Word → Collector → List Match
  | [], _, _ => []
  | p :: rest, words, c =>
    if c.matched p then bindings converter rest words (c.note (.positionTaken p))
    else
      match words, p.eligible words with
      | anchor :: _, _ :: _ =>
        let m := Match.ofRun converter p anchor words true c.requests c.issued
        m :: bindings converter rest (words.drop m.taken.length)
          ((c.extend m.trail).enter p m.resolution.value)
      | _, _ => bindings converter rest words (c.note (.positionEmpty p))

section

variable (converter : Converter) {p : Parameter} (rest : List Parameter) {c : Collector}

/-- A parameter that is matched already does not take its position. -/
theorem bindEach_of_matched (words : List Word) (hmatched : c.matched p = true) :
    c.bindEach converter (p :: rest) words =
        (c.note (.positionTaken p)).bindEach converter rest words ∧
      c.bindings converter (p :: rest) words =
        (c.note (.positionTaken p)).bindings converter rest words := by
  simp [bindEach, bindings, hmatched]

/-- A parameter for which no leftover is eligible is passed over. -/
theorem bindEach_of_empty {words : List Word} (hnew : c.matched p = false)
    (hempty : p.eligible words = []) :
    c.bindEach converter (p :: rest) words =
        (c.note (.positionEmpty p)).bindEach converter rest words ∧
      c.bindings converter (p :: rest) words =
        (c.note (.positionEmpty p)).bindings converter rest words := by
  cases words <;> simp [bindEach, bindings, hnew, hempty]

/-- A position that finds an eligible word is bound from the first word that is at hand. -/
theorem bindEach_of_eligible {anchor : Word} {behind : List Word} (hnew : c.matched p = false)
    (heligible : p.eligible (anchor :: behind) ≠ []) :
    let m := Match.ofRun converter p anchor (anchor :: behind) true c.requests c.issued
    let later := (c.extend m.trail).enter p m.resolution.value
    let words := (anchor :: behind).drop m.taken.length
    c.bindEach converter (p :: rest) (anchor :: behind) =
        ((later.bindEach converter rest words).1,
          (later.bindEach converter rest words).2 ++ m.taken.map fun w => (w.index, p)) ∧
      c.bindings converter (p :: rest) (anchor :: behind) =
        m :: later.bindings converter rest words := by
  obtain ⟨w, others, hcons⟩ := List.exists_cons_of_ne_nil heligible
  constructor
  · simp only [bindEach, hnew, Bool.false_eq_true, if_false, hcons, resolve_eq]
    rfl
  · simp only [bindings, hnew, Bool.false_eq_true, if_false, hcons]

end

theorem exists_cons_of_eligible {p : Parameter} {words : List Word} (h : p.eligible words ≠ []) :
    ∃ anchor behind, words = anchor :: behind := by
  apply List.exists_cons_of_ne_nil
  rintro rfl
  exact h (List.prefix_nil.mp (p.eligible_prefix []))

/-- Binding positions accepts their matches. -/
theorem bindEach_accepts (converter : Converter) (ps : List Parameter) (words : List Word)
    (c : Collector) :
    Accepts converter c (c.bindings converter ps words) (c.bindEach converter ps words).1 := by
  induction ps generalizing words c with
  | nil => exact .refl c
  | cons p rest ih =>
    cases hmatched : c.matched p with
    | true =>
      obtain ⟨hbind, hbindings⟩ := bindEach_of_matched converter rest words hmatched
      rw [hbind, hbindings]
      exact (Accepts.note _).trans (ih _ _)
    | false =>
      by_cases hempty : p.eligible words = []
      · obtain ⟨hbind, hbindings⟩ := bindEach_of_empty converter rest hmatched hempty
        rw [hbind, hbindings]
        exact (Accepts.note _).trans (ih _ _)
      · obtain ⟨anchor, behind, rfl⟩ := exists_cons_of_eligible hempty
        obtain ⟨hbind, hbindings⟩ := bindEach_of_eligible converter rest hmatched hempty
        rw [hbind, hbindings]
        have hmade : Match.Made converter
            (.ofRun converter p anchor (anchor :: behind) true c.requests c.issued) := .run ..
        have hsingle := Accepts.single (c := c) hmade (Match.earlier_ofRun ..)
          (by rwa [Match.parameter_ofRun])
        rw [Match.parameter_ofRun] at hsingle
        exact hsingle.trans (ih _ _)

/-- How positions come to matches: each is passed over, or is bound from the first word at hand and
leaves the words behind those that it took. -/
inductive Binds (converter : Converter) : List Parameter → List Word → List Match → Prop where
  | nil {words : List Word} : Binds converter [] words []
  | pass {p : Parameter} {rest : List Parameter} {words : List Word} {later : List Match}
      (hlater : Binds converter rest words later) : Binds converter (p :: rest) words later
  | bind {p : Parameter} {rest : List Parameter} {anchor : Word} {behind : List Word} {m : Match}
      {later : List Match} (heligible : p.eligible (anchor :: behind) ≠ [])
      (hmatch : m = .ofRun converter p anchor (anchor :: behind) true m.earlier m.ticket)
      (hlater : Binds converter rest ((anchor :: behind).drop m.taken.length) later) :
      Binds converter (p :: rest) (anchor :: behind) (m :: later)

/-- The bindings are those that the binding rule allows. -/
theorem binds_bindings (converter : Converter) (ps : List Parameter) (words : List Word)
    (c : Collector) : Binds converter ps words (c.bindings converter ps words) := by
  induction ps generalizing words c with
  | nil => exact .nil
  | cons p rest ih =>
    cases hmatched : c.matched p with
    | true =>
      rw [(bindEach_of_matched converter rest words hmatched).2]
      exact .pass (ih ..)
    | false =>
      by_cases hempty : p.eligible words = []
      · rw [(bindEach_of_empty converter rest hmatched hempty).2]
        exact .pass (ih ..)
      · obtain ⟨anchor, behind, rfl⟩ := exists_cons_of_eligible hempty
        rw [(bindEach_of_eligible converter rest hmatched hempty).2]
        exact .bind hempty (by rw [Match.earlier_ofRun, Match.ticket_ofRun]) (ih ..)

/-- Each match of a position is resolved against the words at hand from its anchor on. -/
theorem Binds.exists_split {converter : Converter} {ps : List Parameter} {words : List Word}
    {ms : List Match} (h : Binds converter ps words ms) :
    ∀ m ∈ ms, m.parameter ∈ ps ∧ ∃ before anchor behind,
      words = before ++ anchor :: behind ∧ m.parameter.eligible (anchor :: behind) ≠ [] ∧
        m = .ofRun converter m.parameter anchor (anchor :: behind) true m.earlier m.ticket := by
  induction h with
  | nil => exact fun _ hm => absurd hm List.not_mem_nil
  | pass hlater ih => exact fun m hm => (ih m hm).imp_left (List.mem_cons_of_mem _)
  | @bind p rest anchor behind first later heligible hmatch hlater ih =>
    intro m hm
    obtain rfl | hm := List.mem_cons.mp hm
    · have hparameter : m.parameter = p := by rw [hmatch, Match.parameter_ofRun]
      rw [hparameter]
      exact ⟨List.mem_cons_self, [], anchor, behind, rfl, heligible, hmatch⟩
    · obtain ⟨hp, before, w, others, hsplit, hresolved⟩ := ih m hm
      refine ⟨List.mem_cons_of_mem p hp, (anchor :: behind).take first.taken.length ++ before, w,
        others, ?_, hresolved⟩
      rw [List.append_assoc, ← hsplit, List.take_append_drop]

/-- Every binding is a match by a run that starts at a leftover word. -/
theorem mem_bindings {converter : Converter} {ps : List Parameter} {words : List Word}
    {c : Collector} {m : Match} (hm : m ∈ c.bindings converter ps words) :
    m.parameter ∈ ps ∧ ∃ anchor behind,
      m.parameter.eligible (anchor :: behind) ≠ [] ∧
        m = .ofRun converter m.parameter anchor (anchor :: behind) true m.earlier m.ticket := by
  obtain ⟨hp, _, anchor, behind, _, hresolved⟩ := (binds_bindings ..).exists_split m hm
  exact ⟨hp, anchor, behind, hresolved⟩

/-- A place is claimed exactly by the parameters that took the word there. -/
theorem mem_claims_iff (converter : Converter) (ps : List Parameter) (words : List Word)
    (c : Collector) (index : Nat) (p : Parameter) :
    (index, p) ∈ (c.bindEach converter ps words).2 ↔
      ∃ m ∈ c.bindings converter ps words, m.parameter = p ∧ ∃ w ∈ m.taken, w.index = index := by
  induction ps generalizing words c with
  | nil => simp [bindEach, bindings]
  | cons q rest ih =>
    cases hmatched : c.matched q with
    | true =>
      obtain ⟨hbind, hbindings⟩ := bindEach_of_matched converter rest words hmatched
      rw [hbind, hbindings]
      exact ih _ _
    | false =>
      by_cases hempty : q.eligible words = []
      · obtain ⟨hbind, hbindings⟩ := bindEach_of_empty converter rest hmatched hempty
        rw [hbind, hbindings]
        exact ih _ _
      · obtain ⟨anchor, behind, rfl⟩ := exists_cons_of_eligible hempty
        obtain ⟨hbind, hbindings⟩ := bindEach_of_eligible converter rest hmatched hempty
        rw [hbind, hbindings, List.mem_append, ih, List.mem_map, or_comm]
        simp only [List.mem_cons, exists_eq_or_imp, Match.parameter_ofRun]
        apply or_congr_left
        constructor
        · rintro ⟨w, hw, heq⟩
          cases heq
          exact ⟨rfl, w, hw, rfl⟩
        · rintro ⟨rfl, w, hw, rfl⟩
          exact ⟨w, hw, rfl⟩

/-- The matches of parameters by their fallbacks. -/
def fallbacks (converter : Converter) : List Parameter → Collector → List Match
  | [], _ => []
  | p :: rest, c =>
    match p.fallback with
    | none => fallbacks converter rest c
    | some fallback =>
      if c.matched p then fallbacks converter rest c
      else
        let m := Match.ofFallback converter p fallback c.requests c.issued
        m :: fallbacks converter rest ((c.extend m.trail).enter p m.resolution.value)

/-- A new parameter with a fallback is entered with what the converter makes of it. -/
theorem applyFallback_of_new (converter : Converter) {c : Collector} {p : Parameter}
    {fallback : String} (hfallback : p.fallback = some fallback) (hnew : c.matched p = false) :
    c.applyFallback converter p =
      (c.extend (Match.ofFallback converter p fallback c.requests c.issued).trail).enter p
        (Match.ofFallback converter p fallback c.requests c.issued).resolution.value := by
  simp only [applyFallback, hfallback, hnew, Bool.false_eq_true, if_false, convert_eq,
    note_eq_extend, Match.ofFallback, extend_append]
  simp [Trail.ofEvent]

/-- Applying fallbacks accepts their matches. -/
theorem applyFallback_accepts (converter : Converter) (ps : List Parameter) (c : Collector) :
    Accepts converter c (c.fallbacks converter ps) (ps.foldl (applyFallback converter) c) := by
  induction ps generalizing c with
  | nil => exact .refl c
  | cons p rest ih =>
    rw [List.foldl_cons]
    unfold fallbacks
    cases hfallback : p.fallback with
    | none =>
      rw [show c.applyFallback converter p = c by simp [applyFallback, hfallback]]
      exact ih c
    | some fallback =>
      cases hmatched : c.matched p with
      | true =>
        rw [show c.applyFallback converter p = c by simp [applyFallback, hfallback, hmatched]]
        simp only [if_true]
        exact ih c
      | false =>
        rw [applyFallback_of_new converter hfallback hmatched]
        simp only [Bool.false_eq_true, if_false]
        have hmade : Match.Made converter
            (.ofFallback converter p fallback c.requests c.issued) := .fallback ..
        exact (Accepts.single hmade rfl hmatched).trans (ih _)

/-- Every match by fallback is of a parameter that has one. -/
theorem mem_fallbacks {converter : Converter} {ps : List Parameter} {c : Collector} {m : Match}
    (hm : m ∈ c.fallbacks converter ps) :
    ∃ fallback, m.parameter.fallback = some fallback ∧
      m = .ofFallback converter m.parameter fallback m.earlier m.ticket := by
  fun_induction fallbacks converter ps c with
  | case1 => cases hm
  | case2 p rest c hnone ih => exact ih hm
  | case3 p rest c fallback hfallback hmatched ih => exact ih hm
  | case4 p rest c fallback hfallback hmatched first ih =>
    rw [List.mem_cons] at hm
    obtain rfl | hm := hm
    · exact ⟨fallback, hfallback, rfl⟩
    · exact ih hm

/-- The fallbacks are applied for exactly the parameters that have one and are not matched. -/
theorem map_parameter_fallbacks (converter : Converter) {ps : List Parameter} (hnodup : ps.Nodup)
    (c : Collector) :
    (c.fallbacks converter ps).map Match.parameter =
      ps.filter fun p => p.fallback.isSome && !c.matched p := by
  fun_induction fallbacks converter ps c with
  | case1 => rfl
  | case2 p rest c hnone ih =>
    rw [List.filter_cons_of_neg (by simp [hnone])]
    exact ih hnodup.of_cons
  | case3 p rest c fallback hfallback hmatched ih =>
    rw [List.filter_cons_of_neg (by simp [hmatched])]
    exact ih hnodup.of_cons
  | case4 p rest c fallback hfallback hmatched m ih =>
    rw [Bool.not_eq_true] at hmatched
    rw [List.filter_cons_of_pos (by simp [hfallback, hmatched]), List.map_cons,
      ih hnodup.of_cons, enter_of_new (by rwa [matched_extend])]
    congr 1
    apply List.filter_congr
    intro q hq
    have hne : p ≠ q := fun heq => (List.nodup_cons.mp hnodup).1 (heq ▸ hq)
    simp [matched, note, hne]

end Collector

end CommandLine
