import CommandLine.Proofs.Cursor.Cover
import CommandLine.Proofs.Transcript.Outcome

namespace CommandLine

/-- What becomes of a word of a command line. -/
inductive Role where
  /-- A flag that spells declared parameters. -/
  | flag
  /-- A flag that is not declared. -/
  | undeclared
  /-- A literal that the parameters of the flag at an index took. -/
  | taken (index : Nat)
  /-- A literal that no flag took. -/
  | left

/-- How a word with a role reads. -/
def Role.Suits : Role → Reading → Prop
  | flag, reading => (∃ p, reading = .long p) ∨ ∃ ps, reading = .group ps
  | undeclared, reading => reading = .unrecognised
  | taken _, reading => reading = .literal
  | left, reading => reading = .literal

/-- Whether a word has a role in a parse. Flags have theirs by how they read, literals by what the turns
of the parse do with them. -/
def Plays (converter : Converter) (schema : Schema) (words : List Word) (w : Word) : Role → Prop
  | .flag => Role.flag.Suits (schema.read w.text)
  | .undeclared => Role.undeclared.Suits (schema.read w.text)
  | .taken index => ∃ flag fresh run made,
      .matched flag fresh run made ∈ turns converter schema words ∧ flag.index = index ∧
        ∃ m ∈ made, w ∈ m.taken
  | .left => w ∈ (afterFlags converter schema words).collector.leftovers

instance (converter : Converter) (schema : Schema) (words : List Word) (w : Word) :
    Decidable (Plays converter schema words w .left) :=
  inferInstanceAs (Decidable (w ∈ (afterFlags converter schema words).collector.leftovers))

/-- The fault of an undeclared flag. -/
def Schema.unrecognisedFault (schema : Schema) (w : Word) : Fault :=
  .unrecognised w (suggestions w.text schema.longSpellings)

/-- What it means that a parse accounts for all texts of a command line. -/
structure Accounted (converter : Converter) (schema : Schema) (texts : List String) : Prop where
  /-- The cursor comes to the end, and the parse is then where it is after all flags. -/
  ends : Progress.scan converter (Word.ofTexts 0 texts) ⟨.new schema, []⟩ 0 =
    (afterFlags converter schema (Word.ofTexts 0 texts),
      turns converter schema (Word.ofTexts 0 texts))
  /-- A turn deals with the words from the cursor on and does not pass the end. -/
  inside : ∀ before turn after,
    turns converter schema (Word.ofTexts 0 texts) = before ++ turn :: after →
      Turn.reach before + turn.extent ≤ texts.length ∧
        turn.words = ((Word.ofTexts 0 texts).drop (Turn.reach before)).take turn.extent
  /-- The turns deal with every word, in the order of the command line. -/
  covered : (turns converter schema (Word.ofTexts 0 texts)).flatMap Turn.words =
    Word.ofTexts 0 texts
  /-- What a turn matched are the resolutions of its flag. -/
  resolved : ∀ flag fresh run made,
    .matched flag fresh run made ∈ turns converter schema (Word.ofTexts 0 texts) →
      ∃ c : Collector, (c.resolveGroup converter fresh flag run).2 = made.map Match.resolution
  /-- Every text has one role. -/
  role : ∀ i (hi : i < texts.length),
    ∃! role, Plays converter schema (Word.ofTexts 0 texts) ⟨texts[i], i⟩ role
  /-- A word reads as its role says: what is taken or left over is a literal. -/
  suits : ∀ w role, Plays converter schema (Word.ofTexts 0 texts) w role →
    role.Suits (schema.read w.text)
  /-- What the parameters of a flag take is a slice right behind it. -/
  slice : ∀ i < texts.length, ∃ n, i + 1 + n ≤ texts.length ∧
    ∀ w, Plays converter schema (Word.ofTexts 0 texts) w (.taken i) ↔
      w ∈ ((Word.ofTexts 0 texts).drop (i + 1)).take n
  /-- Each undeclared flag is reported once, and nothing else is. -/
  reported : (parse converter schema texts).faults.filter (·.kind = .unrecognised) =
    ((Word.ofTexts 0 texts).filter (schema.read ·.text = .unrecognised)).map
      schema.unrecognisedFault
  /-- A report points at the place of its flag, counted from one. -/
  anchored : ∀ i (hi : i < texts.length),
    (schema.unrecognisedFault ⟨texts[i], i⟩).place? = some (i + 1)
  /-- The positional texts are those of the words that are left over, in their order. -/
  positional : (parse converter schema texts).positional =
    ((Word.ofTexts 0 texts).filter
      (Plays converter schema (Word.ofTexts 0 texts) · .left)).map Word.text

section

variable {converter : Converter} {schema : Schema} {words : List Word} {t : Turn} {w : Word}

/-- The flags leave over the words of the turns that leave one. -/
theorem mem_leftovers_afterFlags :
    w ∈ (afterFlags converter schema words).collector.leftovers ↔
      .left w ∈ turns converter schema words := by
  rw [leftovers_afterFlags, List.mem_flatMap]
  constructor
  · rintro ⟨t, ht, hw⟩
    cases t with
    | left v =>
      rw [List.mem_singleton.mp hw]
      exact ht
    | _ => cases hw
  · intro ht
    exact ⟨_, ht, List.mem_singleton.mpr rfl⟩

private theorem mem_words_of_mem_taken {flag : Word} {fresh : List Parameter} {run : List Word}
    {made : List Match} {m : Match}
    (ht : .matched flag fresh run made ∈ turns converter schema words) (hm : m ∈ made)
    (hw : w ∈ m.taken) : w ∈ (Turn.matched flag fresh run made).words := by
  obtain ⟨before, after, v, rest, _, hturn⟩ := takes_of_mem_turns ht
  exact List.mem_cons_of_mem _ ((hturn.exists_mem_taken_iff w).mp ⟨m, hm, hw⟩)

/-- A word that a match of a turn takes is a literal. -/
private theorem read_of_mem_taken {flag : Word} {fresh : List Parameter} {run : List Word}
    {made : List Match} {m : Match}
    (ht : .matched flag fresh run made ∈ turns converter schema words) (hm : m ∈ made)
    (hw : w ∈ m.taken) : schema.read w.text = .literal := by
  obtain ⟨before, after, v, rest, hschema, hturn⟩ := takes_of_mem_turns ht
  have hrun := List.mem_of_mem_take ((hturn.exists_mem_taken_iff w).mp ⟨m, hm, hw⟩)
  cases hturn with
  | matched journal hread hne hnodup hfresh hleading hmade =>
    rw [hleading, hschema] at hrun
    exact Schema.read_of_mem_leadingLiterals hrun

/-- The role of a word suits what its text is read as. -/
theorem suits_of_plays {role : Role} (h : Plays converter schema words w role) :
    role.Suits (schema.read w.text) := by
  cases role with
  | flag => exact h
  | undeclared => exact h
  | taken i =>
    obtain ⟨flag, fresh, run, made, ht, _, m, hm, hw⟩ := h
    exact read_of_mem_taken ht hm hw
  | left =>
    have ht := mem_leftovers_afterFlags.mp h
    cases deals_of_mem_turns ht (List.mem_singleton.mpr rfl) with
    | left hread => exact hread

private theorem read_of_recognised {reading : Reading} {ps : List Parameter}
    (h : reading.flag? = some (.recognised ps)) :
    (∃ p, reading = .long p) ∨ ∃ ps, reading = .group ps := by
  cases reading with
  | long p => exact .inl ⟨p, rfl⟩
  | group qs => exact .inr ⟨qs, rfl⟩
  | _ => cases h

/-- A word that a turn deals with has a role. -/
theorem exists_plays (ht : t ∈ turns converter schema words) (hw : w ∈ t.words) :
    ∃ role, Plays converter schema words w role := by
  cases deals_of_mem_turns ht hw with
  | left hread => exact ⟨.left, mem_leftovers_afterFlags.mpr ht⟩
  | undeclared ticket hread => exact ⟨.undeclared, hread⟩
  | repeated hread => exact ⟨.flag, read_of_recognised hread⟩
  | flag hread => exact ⟨.flag, read_of_recognised hread⟩
  | taken hread hm htaken => exact ⟨.taken _, _, _, _, _, ht, rfl, _, hm, htaken⟩

/-- A flag that took a word took it in a turn that deals with the word. -/
theorem turn_of_plays_taken {i : Nat} (h : Plays converter schema words w (.taken i)) :
    ∃ flag fresh run made, .matched flag fresh run made ∈ turns converter schema words ∧
      flag.index = i ∧ w ∈ (Turn.matched flag fresh run made).words := by
  obtain ⟨flag, fresh, run, made, ht, hindex, m, hm, hw⟩ := h
  exact ⟨flag, fresh, run, made, ht, hindex, mem_words_of_mem_taken ht hm hw⟩

private theorem not_taken_of_left (hwords : words.Nodup) {i : Nat}
    (hleft : Plays converter schema words w .left) : ¬ Plays converter schema words w (.taken i) := by
  intro htaken
  obtain ⟨flag, fresh, run, made, ht, _, hw⟩ := turn_of_plays_taken htaken
  have hu := mem_leftovers_afterFlags.mp hleft
  cases turn_eq_of_mem_words hwords ht hu hw (List.mem_singleton.mpr rfl)

/-- A word that stands once on the command line has one role. -/
theorem role_unique (hwords : words.Nodup) {first second : Role}
    (hfirst : Plays converter schema words w first)
    (hsecond : Plays converter schema words w second) : first = second := by
  have hreads := suits_of_plays hfirst
  have hreads' := suits_of_plays hsecond
  cases first <;> cases second
  case taken.taken i j =>
    obtain ⟨flag, fresh, run, made, ht, hi, hw⟩ := turn_of_plays_taken hfirst
    obtain ⟨other, fresh', run', made', hu, hj, hw'⟩ := turn_of_plays_taken hsecond
    cases turn_eq_of_mem_words hwords ht hu hw hw'
    rw [← hi, ← hj]
  case taken.left => exact absurd hfirst (not_taken_of_left hwords hsecond)
  case left.taken => exact absurd hsecond (not_taken_of_left hwords hfirst)
  -- Any other two roles are the same one, or the word would read in two ways.
  all_goals grind [Role.Suits]

/-- The words that are left over are those of the command line less all others, in their order. -/
theorem leftovers_eq_filter (hwords : words.Nodup) :
    (afterFlags converter schema words).collector.leftovers =
      words.filter (Plays converter schema words · .left) := by
  have hturn : ∀ t ∈ turns converter schema words, t.leftovers =
      t.words.filter (Plays converter schema words · .left) := by
    intro t ht
    by_cases hleft : ∃ v, t = .left v
    · obtain ⟨v, rfl⟩ := hleft
      have hplays : Plays converter schema words v .left := mem_leftovers_afterFlags.mpr ht
      simp [Turn.words, Turn.leftovers, hplays]
    · have hnone : t.leftovers = [] := by
        cases t with
        | left v => exact absurd ⟨v, rfl⟩ hleft
        | _ => rfl
      rw [hnone, eq_comm, List.filter_eq_nil_iff]
      intro v hv hplays
      have hu := mem_leftovers_afterFlags.mp (of_decide_eq_true hplays)
      exact hleft ⟨v, turn_eq_of_mem_words hwords ht hu hv (List.mem_singleton.mpr rfl)⟩
  calc (afterFlags converter schema words).collector.leftovers
      = (turns converter schema words).flatMap Turn.leftovers := leftovers_afterFlags ..
    _ = (turns converter schema words).flatMap _ := List.flatMap_congr hturn
    _ = ((turns converter schema words).flatMap Turn.words).filter _ := List.filter_flatMap.symm
    _ = words.filter _ := congrArg (List.filter _) (turns_reads converter schema words).flatMap_words

private theorem kind_of_mem_standing {claimed : List Nat} {m : Match} (hcoherent : m.Coherent)
    {fault : Fault} (hfault : fault ∈ m.standing claimed) : fault.kind ≠ .unrecognised := by
  have habout := Match.parameter?_of_mem_standing hcoherent hfault
  cases fault <;> simp_all [Fault.kind, Fault.parameter?]

private theorem filter_standing {claimed : List Nat} {ms : List Match}
    (hcoherent : ∀ m ∈ ms, m.Coherent) :
    (ms.flatMap (Match.standing claimed)).filter (·.kind = .unrecognised) = [] := by
  refine List.filter_eq_nil_iff.mpr fun fault hfault hkind => ?_
  obtain ⟨m, hm, hfault⟩ := List.mem_flatMap.mp hfault
  exact kind_of_mem_standing (hcoherent m hm) hfault (of_decide_eq_true hkind)

/-- A turn reports its word exactly if that is an undeclared flag. -/
private theorem filter_standing_turn (claimed : List Nat) (ht : t ∈ turns converter schema words) :
    (t.standing claimed).filter (·.kind = .unrecognised) =
      (t.words.filter (schema.read ·.text = .unrecognised)).map schema.unrecognisedFault := by
  have hdeals : ∀ v ∈ t.words, Progress.Deals schema v t := fun v hv => deals_of_mem_turns ht hv
  by_cases hundeclared : ∃ v reported, t = .undeclared v reported
  · obtain ⟨v, reported, rfl⟩ := hundeclared
    cases hdeals v (List.mem_singleton.mpr rfl) with
    | undeclared ticket hread =>
      simp [Turn.standing, Turn.words, Fault.kind, hread, Schema.unrecognisedFault]
  · have hwords : t.words.filter (schema.read ·.text = .unrecognised) = [] := by
      refine List.filter_eq_nil_iff.mpr fun v hv hread => ?_
      have hread := of_decide_eq_true hread
      cases hdeals v hv <;> simp_all [Reading.flag?]
    rw [hwords, List.map_nil]
    cases t with
    | undeclared v reported => exact absurd ⟨v, reported, rfl⟩ hundeclared
    | matched flag fresh run made =>
      refine filter_standing fun m hm => ?_
      exact coherent_of_mem_transcript
        (mem_made_of_mem_flagged (List.mem_flatMap.mpr ⟨_, ht, hm⟩))
    | _ => rfl

/-- Exactly the undeclared flags are reported as such, each once and in their order. -/
theorem filter_unrecognised :
    (collect converter schema words).faults.filter (·.kind = .unrecognised) =
      (words.filter (schema.read ·.text = .unrecognised)).map schema.unrecognisedFault := by
  have hrest : (((transcript converter schema words).bindings ++
      (transcript converter schema words).fallbacks).flatMap
        (Match.standing (transcript converter schema words).claimed)).filter
          (·.kind = .unrecognised) = [] := by
    refine filter_standing fun m hm => ?_
    obtain hm | hm := List.mem_append.mp hm
    · exact coherent_of_mem_transcript (mem_made_of_mem_bindings hm)
    · exact coherent_of_mem_transcript (mem_made_of_mem_fallbacks hm)
  have hmissing : ((transcript converter schema words).missing.map Fault.missing).filter
      (·.kind = .unrecognised) = [] := by
    simp [Fault.kind]
  rw [collect_faults_eq_standing, List.filter_append, List.filter_append, hrest, hmissing,
    List.append_nil, List.append_nil, List.filter_flatMap]
  conv_rhs => rw [← (turns_reads converter schema words).flatMap_words, List.filter_flatMap,
    List.map_flatMap]
  exact List.flatMap_congr fun t ht => filter_standing_turn _ ht

end

/-- What the parameters of a flag take is a slice right behind the flag. -/
theorem exists_slice (converter : Converter) (schema : Schema) (texts : List String) {i : Nat}
    (hi : i < texts.length) :
    ∃ n, i + 1 + n ≤ texts.length ∧
      ∀ w, Plays converter schema (Word.ofTexts 0 texts) w (.taken i) ↔
        w ∈ ((Word.ofTexts 0 texts).drop (i + 1)).take n := by
  by_cases hflag : ∃ flag fresh run made, .matched flag fresh run made ∈
      turns converter schema (Word.ofTexts 0 texts) ∧ flag.index = i
  · obtain ⟨flag, fresh, run, made, ht, rfl⟩ := hflag
    have hcover := (turns_reads converter schema (Word.ofTexts 0 texts)).flatMap_words
    obtain ⟨before, after, _, hturn⟩ := takes_of_matched ht
    obtain ⟨hextent, hwords⟩ := hturn.words_eq
    dsimp only [Turn.extent, Turn.words] at hextent hwords
    rw [List.length_cons, List.length_drop, Word.length_ofTexts] at hextent
    rw [Nat.add_comm, List.take_succ_cons, List.cons.injEq] at hwords
    refine ⟨Match.longest made, by omega, fun v => ?_⟩
    rw [← hwords.2, ← hturn.exists_mem_taken_iff v]
    constructor
    · rintro ⟨other, fresh', run', made', hu, hindex, hv⟩
      have hother : other ∈ Word.ofTexts 0 texts :=
        hcover ▸ List.mem_flatMap.mpr ⟨_, hu, List.mem_cons_self⟩
      have hmem : flag ∈ Word.ofTexts 0 texts :=
        hcover ▸ List.mem_flatMap.mpr ⟨_, ht, List.mem_cons_self⟩
      cases Word.eq_of_index_eq hother hmem hindex
      cases turn_eq_of_mem_words (Word.nodup_ofTexts texts) ht hu List.mem_cons_self
        List.mem_cons_self
      exact hv
    · intro hv
      exact ⟨flag, fresh, run, made, ht, rfl, hv⟩
  · refine ⟨0, hi, fun w => ?_⟩
    rw [List.take_zero]
    constructor
    · rintro ⟨flag, fresh, run, made, ht, hindex, _⟩
      exact absurd ⟨flag, fresh, run, made, ht, hindex⟩ hflag
    · intro hw
      cases hw

/-- A parse accounts for every text of the command line. -/
theorem parse_accounted (converter : Converter) (schema : Schema) (texts : List String) :
    Accounted converter schema texts where
  ends := scan_eq_ofStream converter schema (Word.ofTexts 0 texts)
  inside before turn after hsplit := by
    have hreads := turns_reads converter schema (Word.ofTexts 0 texts)
    rw [hsplit] at hreads
    rw [← Word.length_ofTexts 0 texts]
    exact hreads.split_words
  covered := (turns_reads converter schema (Word.ofTexts 0 texts)).flatMap_words
  resolved flag fresh run made ht := by
    obtain ⟨before, after, w, rest, _, hturn⟩ := takes_of_mem_turns ht
    cases hturn with
    | matched journal hread hne hnodup hfresh hrun hmade =>
      obtain ⟨noted, hgroup⟩ :=
        Collector.resolveGroup_eq converter fresh flag run before.collector
      exact ⟨before.collector, by rw [hgroup, hmade]⟩
  role i hi := by
    have hmem := Word.getElem_mem_ofTexts hi
    rw [← (turns_reads converter schema (Word.ofTexts 0 texts)).flatMap_words] at hmem
    obtain ⟨t, ht, hw⟩ := List.mem_flatMap.mp hmem
    obtain ⟨role, hrole⟩ := exists_plays ht hw
    exact ⟨role, hrole, fun other hother => role_unique (Word.nodup_ofTexts texts) hother hrole⟩
  suits w role h := suits_of_plays h
  slice i hi := exists_slice converter schema texts hi
  reported := filter_unrecognised
  anchored i hi := rfl
  positional := by
    change (collect converter schema (Word.ofTexts 0 texts)).leftovers.map Word.text = _
    rw [collect_leftovers]
    exact congrArg (List.map Word.text) (leftovers_eq_filter (Word.nodup_ofTexts texts))

end CommandLine
