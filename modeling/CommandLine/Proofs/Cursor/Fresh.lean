import CommandLine.Proofs.Cursor.Cover

namespace CommandLine

section

variable {α : Type} [BEq α] [LawfulBEq α] {xs : List α} {x : α}

/-- Repetitions in a further part are dropped by themselves and against the first part. -/
theorem eraseDups_append_eq_filter (xs ys : List α) :
    (xs ++ ys).eraseDups = xs.eraseDups ++ (ys.filter fun y => !xs.contains y).eraseDups :=
  List.eraseDups_append

theorem eraseDups_eq_self_of_nodup {xs : List α} (hnodup : xs.Nodup) : xs.eraseDups = xs := by
  induction xs with
  | nil => rfl
  | cons x rest ih =>
    obtain ⟨hx, hrest⟩ := List.nodup_cons.mp hnodup
    have hkept : rest.filter (fun y => !y == x) = rest := by
      refine List.filter_eq_self.mpr fun y hy => ?_
      have hne : y ≠ x := fun heq => hx (heq ▸ hy)
      simp [hne]
    rw [List.eraseDups_cons, hkept, ih hrest]

theorem eraseDups_concat_of_mem (hx : x ∈ xs) : (xs ++ [x]).eraseDups = xs.eraseDups := by
  rw [eraseDups_append_eq_filter, List.filter_cons_of_neg (by simpa using hx), List.filter_nil,
    List.eraseDups_nil, List.append_nil]

theorem eraseDups_concat_of_notMem (hx : x ∉ xs) : (xs ++ [x]).eraseDups = xs.eraseDups ++ [x] := by
  rw [eraseDups_append_eq_filter, List.filter_cons_of_pos (by simpa using hx), List.filter_nil]
  rfl

end

namespace Collector

/-- The fresh parameters of a flag are those that it spells and that are not matched, in the order in
which they first come. -/
theorem freshOf_snd (flag : Word) (fresh ps : List Parameter) (c : Collector) :
    (freshOf flag fresh.eraseDups ps c).2 = (fresh ++ ps.filter (!c.matched ·)).eraseDups := by
  induction ps generalizing c fresh with
  | nil => simp [freshOf]
  | cons p rest ih =>
    unfold freshOf
    cases hmatched : c.matched p with
    | true =>
      rw [Bool.true_or, if_pos rfl, ih, List.filter_cons_of_neg (by simp [hmatched])]
      rfl
    | false =>
      have hrest : fresh ++ (p :: rest).filter (!c.matched ·) =
          (fresh ++ [p]) ++ rest.filter (!c.matched ·) := by
        rw [List.filter_cons_of_pos (by simp [hmatched]), List.append_assoc, List.singleton_append]
      rw [hrest]
      by_cases hp : p ∈ fresh
      · rw [if_pos (by simpa using hp), ← eraseDups_concat_of_mem hp, ih]
        rfl
      · rw [if_neg (by simpa using hp), ← eraseDups_concat_of_notMem hp, ih]

end Collector

/-- The parameters that words spell, in the order in which they are spelled. -/
def Schema.spelled (s : Schema) (words : List Word) : List Parameter :=
  words.flatMap fun w => (s.read w.text).parameters

theorem Schema.spelled_append (s : Schema) (words rest : List Word) :
    s.spelled (words ++ rest) = s.spelled words ++ s.spelled rest :=
  List.flatMap_append

/-- A reading spells the parameters of its flag, and nothing if it is no declared flag. -/
theorem Reading.parameters_eq (reading : Reading) :
    reading.parameters =
      match reading.flag? with
      | some (.recognised ps) => ps
      | _ => [] := by
  cases reading <;> rfl

/-- Literals spell nothing. -/
theorem Schema.spelled_of_literals {s : Schema} {words : List Word}
    (h : ∀ w ∈ words, s.read w.text = .literal) : s.spelled words = [] := by
  refine List.flatMap_eq_nil_iff.mpr fun w hw => ?_
  rw [h w hw]
  rfl

namespace Turn

/-- The word at which a turn is made. -/
def head : Turn → Word
  | left w => w
  | undeclared w _ => w
  | repeated flag => flag
  | matched flag _ _ _ => flag

end Turn

namespace Progress

variable (converter : Converter) (s : Progress) (w : Word) (rest : List Word)

/-- A turn at a word matches the fresh parameters of the word. -/
theorem map_parameter_turn :
    (s.turn converter w rest).2.made.map Match.parameter =
      ((s.collector.schema.read w.text).parameters.filter (!s.collector.matched ·)).eraseDups := by
  rw [Reading.parameters_eq]
  unfold turn
  cases (s.collector.schema.read w.text).flag? with
  | none => rfl
  | some flag =>
    cases flag with
    | unrecognised => rfl
    | recognised ps =>
      have hfresh := Collector.freshOf_snd w [] ps s.collector
      rw [List.eraseDups_nil, List.nil_append] at hfresh
      dsimp only
      rw [← hfresh]
      cases s.collector.freshOf w [] ps with
      | mk c fresh =>
        cases fresh with
        | nil => rfl
        | cons p others => exact Match.map_parameter_group ..

/-- A turn is made at the word that it reads. -/
theorem Takes.head_eq {converter : Converter} {s t : Progress} {w : Word} {rest : List Word}
    {turn : Turn} (h : Takes converter s w rest t turn) : turn.head = w := by
  cases h <;> rfl

/-- Behind its word, a turn is done with literals only. -/
theorem Takes.read_of_mem_take {converter : Converter} {s t : Progress} {w v : Word}
    {rest : List Word} {turn : Turn} (h : Takes converter s w rest t turn)
    (hv : v ∈ rest.take (turn.extent - 1)) : s.collector.schema.read v.text = .literal := by
  obtain ⟨_, hwords⟩ := h.words_eq
  cases h with
  | matched journal hread hne hnodup hfresh hrun hmade =>
    rw [Turn.extent, Nat.add_sub_cancel_left] at hv
    rw [Turn.words, Turn.extent, Nat.add_comm, List.take_succ_cons, List.cons.injEq] at hwords
    rw [← hwords.2, hrun] at hv
    exact Schema.read_of_mem_leadingLiterals (List.mem_of_mem_take hv)
  | _ => simp [Turn.extent] at hv

/-- After a turn, its parameters are matched, and those that were matched before. -/
theorem Takes.matched_eq {converter : Converter} {s t : Progress} {w : Word} {rest : List Word}
    {turn : Turn} (h : Takes converter s w rest t turn) (p : Parameter) :
    t.collector.matched p = (s.collector.matched p || (turn.made.map Match.parameter).contains p) := by
  rw [Bool.eq_iff_iff, Bool.or_eq_true, List.contains_iff_mem, Collector.matched_iff,
    Collector.matched_iff, h.reaches.entries, List.map_append, List.mem_append,
    List.flatMap_singleton, List.map_map]
  rfl

/-- A turn is done with what its word spells: the words behind it up to the next turn spell nothing. -/
theorem Takes.spelled_eq {converter : Converter} {s t : Progress} {w : Word} {rest : List Word}
    {turn : Turn} (h : Takes converter s w rest t turn) :
    s.collector.schema.spelled (w :: rest) = (s.collector.schema.read w.text).parameters ++
      s.collector.schema.spelled (rest.drop (turn.extent - 1)) := by
  have hsplit : w :: rest = [w] ++ rest.take (turn.extent - 1) ++ rest.drop (turn.extent - 1) := by
    rw [List.append_assoc, List.take_append_drop, List.singleton_append]
  rw [hsplit, Schema.spelled_append, Schema.spelled_append,
    Schema.spelled_of_literals fun v hv => h.read_of_mem_take hv, List.append_nil]
  congr 1
  exact List.append_nil _

/-- The flags from a cursor on match what the words there spell and what is not matched before, in the
order in which it is spelled first. -/
theorem map_parameter_scan (words : List Word) (s : Progress) (cursor : Nat) :
    ((s.scan converter words cursor).2.flatMap Turn.made).map Match.parameter =
      ((s.collector.schema.spelled (words.drop cursor)).filter
        (!s.collector.matched ·)).eraseDups := by
  fun_induction scan converter words s cursor with
  | case1 s cursor hlt step later ih =>
    have hturn := turn_takes converter s words[cursor] (words.drop (cursor + 1))
    have hmade := map_parameter_turn converter s words[cursor] (words.drop (cursor + 1))
    have hmatched := hturn.matched_eq
    rw [hmade] at hmatched
    rw [List.drop_eq_getElem_cons hlt, hturn.spelled_eq, drop_behind, List.flatMap_cons,
      List.map_append, hmade, ih, hturn.schema, List.filter_append, eraseDups_append_eq_filter,
      List.filter_filter]
    congr 2
    apply List.filter_congr
    intro p _
    change (!(s.turn converter words[cursor] (words.drop (cursor + 1))).1.collector.matched p) = _
    rw [hmatched, Bool.not_or, Bool.and_comm]
    congr 2
    rw [Bool.eq_iff_iff, List.contains_iff_mem, List.contains_iff_mem, List.mem_eraseDups]
  | case2 s cursor hge =>
    rw [List.drop_eq_nil_of_le (Nat.le_of_not_lt hge)]
    rfl

end Progress

end CommandLine
