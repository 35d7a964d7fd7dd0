import CommandLine.Proofs.Cursor.Scan
import Mathlib.Data.List.Pairwise
import Mathlib.Data.List.TakeWhile

namespace CommandLine

namespace Word

theorem length_ofTexts (first : Nat) (texts : List String) :
    (ofTexts first texts).length = texts.length := by
  simp [ofTexts]

/-- A word stands at the place that it was given. -/
theorem index_getElem_ofTexts {i : Nat} {texts : List String}
    (hi : i < (ofTexts 0 texts).length) : ((ofTexts 0 texts)[i]).index = i := by
  simp [ofTexts]

theorem getElem_mem_ofTexts {i : Nat} {texts : List String} (hi : i < texts.length) :
    ⟨texts[i], i⟩ ∈ ofTexts 0 texts := by
  refine List.mem_of_getElem? (i := i) ?_
  simp [ofTexts, hi]

/-- A word of a command line is known by its place. -/
theorem eq_of_index_eq {texts : List String} {v w : Word} (hv : v ∈ ofTexts 0 texts)
    (hw : w ∈ ofTexts 0 texts) (heq : v.index = w.index) : v = w := by
  obtain ⟨i, hi, rfl⟩ := List.getElem_of_mem hv
  obtain ⟨j, hj, rfl⟩ := List.getElem_of_mem hw
  rw [index_getElem_ofTexts, index_getElem_ofTexts] at heq
  subst heq
  rfl

/-- A word stands behind as many words as its place tells. -/
theorem index_of_drop_eq {n : Nat} {texts : List String} {w : Word} {rest : List Word}
    (h : (ofTexts 0 texts).drop n = w :: rest) : w.index = n := by
  have hlength := congrArg List.length h
  rw [List.length_drop, List.length_cons] at hlength
  have hlt : n < (ofTexts 0 texts).length := by omega
  rw [List.drop_eq_getElem_cons hlt, List.cons.injEq] at h
  rw [← h.1, index_getElem_ofTexts]

theorem nodup_ofTexts (texts : List String) : (ofTexts 0 texts).Nodup := by
  rw [List.nodup_iff_injective_getElem]
  intro i j heq
  have hindex := congrArg Word.index heq
  dsimp only at hindex
  rw [index_getElem_ofTexts, index_getElem_ofTexts] at hindex
  exact Fin.ext hindex

end Word

theorem Reading.flag?_eq_none_iff {reading : Reading} :
    reading.flag? = none ↔ reading = .literal := by
  cases reading <;> simp [flag?]

theorem Reading.flag?_eq_unrecognised_iff {reading : Reading} :
    reading.flag? = some .unrecognised ↔ reading = .unrecognised := by
  cases reading <;> simp [flag?]

/-- The run behind a flag holds literals only. -/
theorem Schema.read_of_mem_leadingLiterals {s : Schema} {words : List Word} {w : Word}
    (hw : w ∈ s.leadingLiterals words) : s.read w.text = .literal := by
  have hliteral := List.mem_takeWhile_imp hw
  cases hread : s.read w.text <;> simp_all [Reading.isFlag]

namespace Progress

variable {converter : Converter} {schema : Schema} {s t : Progress} {w : Word} {rest words : List Word}
  {turn : Turn} {turns : List Turn}

private theorem take_run {run : List Word} {n : Nat} (hrun : run <+: rest) (hn : n ≤ run.length) :
    run.take n = rest.take n := by
  obtain ⟨behind, rfl⟩ := hrun
  exact (List.take_append_of_le_length hn).symm

/-- A turn is done with as many words as it moves the cursor, and they are there. -/
theorem Takes.words_eq (h : Takes converter s w rest t turn) :
    turn.extent ≤ (w :: rest).length ∧ turn.words = (w :: rest).take turn.extent := by
  cases h with
  | matched journal hread hne hnodup hfresh hrun hmade =>
    rename_i ps fresh run made
    have hprefix : run <+: rest := hrun ▸ List.takeWhile_prefix _
    have hlongest : Match.longest made ≤ run.length := hmade ▸ Match.longest_group_le hnodup
    have hle := hprefix.length_le
    constructor
    · dsimp only [Turn.extent]
      rw [List.length_cons]
      omega
    · dsimp only [Turn.extent, Turn.words]
      rw [Nat.add_comm, List.take_succ_cons, take_run hprefix hlongest]
  | _ => simp [Turn.extent, Turn.words]

/-- The words of the turns are the words that were read: none is lost, and none comes twice. -/
theorem Reads.flatMap_words (h : Reads converter schema words turns) :
    turns.flatMap Turn.words = words := by
  induction h with
  | nil => rfl
  | cons hschema hturn hlater ih =>
    rename_i s t w rest turn later
    have hpos := turn.extent_pos
    have hbehind : rest.drop (turn.extent - 1) = (w :: rest).drop turn.extent := by
      rw [← Nat.sub_add_cancel hpos, List.drop_succ_cons, Nat.add_sub_cancel]
    rw [List.flatMap_cons, ih, hturn.words_eq.2, hbehind, List.take_append_drop]

/-- A turn takes its words from where the cursor is, and does not pass the end. -/
theorem Reads.split_words {before after : List Turn}
    (h : Reads converter schema words (before ++ turn :: after)) :
    Turn.reach before + turn.extent ≤ words.length ∧
      turn.words = (words.drop (Turn.reach before)).take turn.extent := by
  obtain ⟨s, t, w, rest, hdrop, _, hturn, _⟩ := h.split
  obtain ⟨hextent, hwords⟩ := hturn.words_eq
  rw [← hdrop] at hextent hwords
  rw [List.length_drop] at hextent
  have hpos := turn.extent_pos
  exact ⟨by omega, hwords⟩

/-- Literals that no flag reaches are left over one by one, before the words behind them are read. -/
theorem Reads.eq_left_append {literals : List Word}
    (h : Reads converter schema (literals ++ words) turns)
    (hliterals : ∀ w ∈ literals, schema.read w.text = .literal) :
    ∃ later, turns = literals.map Turn.left ++ later ∧ Reads converter schema words later := by
  induction literals generalizing turns with
  | nil => exact ⟨turns, rfl, h⟩
  | cons v others ih =>
    obtain ⟨hv, hothers⟩ := List.forall_mem_cons.mp hliterals
    cases h with
    | cons hschema hturn hlater =>
      rw [← Reading.flag?_eq_none_iff, ← hschema] at hv
      cases hturn with
      | left hread =>
        obtain ⟨later, rfl, hbehind⟩ := ih hlater hothers
        exact ⟨later, rfl, hbehind⟩
      | undeclared hread => rw [hv] at hread; cases hread
      | repeated journal hread => rw [hv] at hread; cases hread
      | matched journal hread => rw [hv] at hread; cases hread

/-- The ways in which a turn deals with a word, by how the word reads. -/
inductive Deals (schema : Schema) (w : Word) : Turn → Prop where
  | left (hread : schema.read w.text = .literal) : Deals schema w (.left w)
  | undeclared (ticket : Nat) (hread : schema.read w.text = .unrecognised) :
      Deals schema w
        (.undeclared w ⟨ticket, .unrecognised w (suggestions w.text schema.longSpellings)⟩)
  | repeated {ps : List Parameter} (hread : (schema.read w.text).flag? = some (.recognised ps)) :
      Deals schema w (.repeated w)
  | flag {ps fresh : List Parameter} {run : List Word} {made : List Match}
      (hread : (schema.read w.text).flag? = some (.recognised ps)) :
      Deals schema w (.matched w fresh run made)
  | taken {flag : Word} {fresh : List Parameter} {run : List Word} {made : List Match} {m : Match}
      (hread : schema.read w.text = .literal) (hm : m ∈ made) (hw : w ∈ m.taken) :
      Deals schema w (.matched flag fresh run made)

/-- A turn deals with each of its words in one way. -/
theorem Takes.deals (h : Takes converter s w rest t turn) {v : Word} (hv : v ∈ turn.words) :
    Deals s.collector.schema v turn := by
  cases h with
  | left hread =>
    rw [List.mem_singleton.mp hv]
    exact .left (Reading.flag?_eq_none_iff.mp hread)
  | undeclared hread =>
    rw [List.mem_singleton.mp hv]
    exact .undeclared _ (Reading.flag?_eq_unrecognised_iff.mp hread)
  | repeated journal hread hold =>
    rw [List.mem_singleton.mp hv]
    exact .repeated hread
  | matched journal hread hne hnodup hfresh hrun hmade =>
    obtain rfl | hv := List.mem_cons.mp hv
    · exact .flag hread
    · rw [hmade] at hv
      obtain ⟨m, hm, htaken⟩ := (Match.exists_mem_taken_iff hne hnodup v).mpr hv
      rw [← hmade] at hm
      have hliteral := List.mem_of_mem_take hv
      rw [hrun] at hliteral
      exact .taken (Schema.read_of_mem_leadingLiterals hliteral) hm htaken

/-- The matches of a turn take exactly the words that it reaches over. -/
theorem Takes.exists_mem_taken_iff {flag : Word} {fresh : List Parameter} {run : List Word}
    {made : List Match} (h : Takes converter s w rest t (.matched flag fresh run made)) (v : Word) :
    (∃ m ∈ made, v ∈ m.taken) ↔ v ∈ run.take (Match.longest made) := by
  cases h with
  | matched journal hread hne hnodup hfresh hrun hmade =>
    rw [hmade]
    exact Match.exists_mem_taken_iff hne hnodup v

end Progress

section

variable {converter : Converter} {schema : Schema} {words : List Word} {t u : Turn} {w : Word}

/-- Every word that a turn of the parse covers is dealt with by it. -/
theorem deals_of_mem_turns (ht : t ∈ turns converter schema words) (hw : w ∈ t.words) :
    Progress.Deals schema w t := by
  obtain ⟨before, after, v, rest, hschema, hturn⟩ := takes_of_mem_turns ht
  rw [← hschema]
  exact hturn.deals hw

/-- A flag that is matched is matched at its index, with the words behind it. -/
theorem takes_of_matched {texts : List String} {flag : Word} {fresh : List Parameter}
    {run : List Word} {made : List Match}
    (ht : .matched flag fresh run made ∈ turns converter schema (Word.ofTexts 0 texts)) :
    ∃ before after : Progress, before.collector.schema = schema ∧
      Progress.Takes converter before flag ((Word.ofTexts 0 texts).drop (flag.index + 1)) after
        (.matched flag fresh run made) := by
  obtain ⟨earlier, later, hsplit⟩ := List.append_of_mem ht
  obtain ⟨before, after, w, rest, hdrop, hschema, hturn, _⟩ :=
    (hsplit ▸ turns_reads converter schema (Word.ofTexts 0 texts)).split
  have hhead : w = flag := by
    cases hturn
    rfl
  subst hhead
  have hrest : rest = (Word.ofTexts 0 texts).drop (w.index + 1) := by
    rw [Word.index_of_drop_eq hdrop, ← List.drop_drop, hdrop, List.drop_one, List.tail_cons]
  rw [hrest] at hturn
  exact ⟨before, after, hschema, hturn⟩

/-- The run of a flag are the literals behind it. -/
theorem run_eq_leadingLiterals {texts : List String} {flag : Word} {fresh : List Parameter}
    {run : List Word} {made : List Match}
    (ht : .matched flag fresh run made ∈ turns converter schema (Word.ofTexts 0 texts)) :
    run = schema.leadingLiterals ((Word.ofTexts 0 texts).drop (flag.index + 1)) := by
  obtain ⟨before, after, hschema, hturn⟩ := takes_of_matched ht
  cases hturn with
  | matched journal hread hne hnodup hfresh hrun hmade => rw [hrun, hschema]

/-- What turns leave over are words of the command line. -/
theorem mem_words_of_mem_leftovers
    (hw : w ∈ (turns converter schema words).flatMap Turn.leftovers) : w ∈ words := by
  obtain ⟨t, ht, hw⟩ := List.mem_flatMap.mp hw
  rw [← (turns_reads converter schema words).flatMap_words]
  refine List.mem_flatMap.mpr ⟨t, ht, ?_⟩
  cases t with
  | left v => exact hw
  | _ => cases hw

/-- A word that stands once on the command line is dealt with by one turn. -/
theorem turn_eq_of_mem_words (hwords : words.Nodup) (ht : t ∈ turns converter schema words)
    (hu : u ∈ turns converter schema words) (hwt : w ∈ t.words) (hwu : w ∈ u.words) : t = u := by
  have hnodup : ((turns converter schema words).flatMap Turn.words).Nodup := by
    rwa [(turns_reads converter schema words).flatMap_words]
  have hsymm : Std.Symm (Function.onFun List.Disjoint Turn.words) := ⟨fun _ _ h _ hv hu => h hu hv⟩
  by_contra hne
  exact (List.nodup_flatMap.mp hnodup).2.forall ht hu hne hwt hwu

end

end CommandLine
