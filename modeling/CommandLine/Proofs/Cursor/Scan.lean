import CommandLine.Proofs.Cursor.Turn

namespace CommandLine

namespace Stream

/-- What a stream opens with are the literals at the front of its words. -/
theorem opening_ofWords (s : Schema) (ws : List Word) :
    (ofWords s ws).opening = s.leadingLiterals ws := by
  induction ws with
  | nil => rfl
  | cons w rest ih =>
    unfold ofWords cons Schema.leadingLiterals
    cases hread : s.read w.text <;> simp [hread, Reading.flag?, Reading.isFlag, ih,
      Schema.leadingLiterals]

/-- Dropping literals from the front of words drops them from what the stream opens with. -/
theorem ofWords_drop (s : Schema) {ws : List Word} {n : Nat}
    (hn : n ≤ (s.leadingLiterals ws).length) :
    ofWords s (ws.drop n) = ⟨(s.leadingLiterals ws).drop n, (ofWords s ws).phrases⟩ := by
  induction n generalizing ws with
  | zero => simp [← opening_ofWords]
  | succ n ih =>
    cases ws with
    | nil => simp [Schema.leadingLiterals] at hn
    | cons w rest =>
      rw [List.drop_succ_cons]
      cases hread : s.read w.text with
      | literal =>
        have hleading : s.leadingLiterals (w :: rest) = w :: s.leadingLiterals rest := by
          simp [Schema.leadingLiterals, hread, Reading.isFlag]
        rw [hleading, List.length_cons] at hn
        rw [ih (Nat.le_of_succ_le_succ hn), hleading, List.drop_succ_cons]
        simp [ofWords, cons, hread, Reading.flag?]
      | _ => simp [Schema.leadingLiterals, hread, Reading.isFlag] at hn

end Stream

namespace Progress

/-- Reads a stream from a state on: what it opens with is left over, then the phrases are read. -/
def readStream (converter : Converter) (s : Progress) (stream : Stream) : Progress :=
  readPhrases converter { s with collector := s.collector.leaveAll stream.opening } stream.phrases

/-- Reads words with a cursor: a turn at the word of the cursor, then on from behind the turn. -/
def scan (converter : Converter) (words : List Word) (s : Progress) (cursor : Nat) :
    Progress × List Turn :=
  if h : cursor < words.length then
    let step := s.turn converter words[cursor] (words.drop (cursor + 1))
    let later := scan converter words step.1 (cursor + step.2.extent)
    (later.1, step.2 :: later.2)
  else (s, [])
termination_by words.length - cursor
decreasing_by exact Nat.sub_lt_sub_left h (Nat.lt_add_of_pos_right (Turn.extent_pos _))

private theorem leaveAll_nil (c : Collector) : c.leaveAll [] = c := by
  simp [Collector.leaveAll]

/-- Reading a stream begins with the turn at its first word. -/
theorem readStream_cons (converter : Converter) (s : Progress) (w : Word) (rest : List Word) :
    s.readStream converter (.ofWords s.collector.schema (w :: rest)) =
      (s.turn converter w rest).1.readStream converter
        (.ofWords s.collector.schema (rest.drop ((s.turn converter w rest).2.extent - 1))) := by
  unfold turn readStream
  rw [Stream.ofWords, Stream.cons]
  cases hread : (s.collector.schema.read w.text).flag? with
  | none =>
    simp only [Turn.extent, Nat.sub_self, List.drop_zero, Collector.leaveAll_cons]
  | some flag =>
    cases flag with
    | unrecognised =>
      simp only [leaveAll_nil, Turn.extent, Nat.sub_self, List.drop_zero, readPhrases,
        List.foldl_cons, readPhrase]
    | recognised ps =>
      simp only [leaveAll_nil, readPhrases, List.foldl_cons, readPhrase]
      cases hfresh : s.collector.freshOf w [] ps with
      | mk c fresh =>
        cases fresh with
        | nil => simp only [Turn.extent, Nat.sub_self, List.drop_zero]
        | cons p others =>
          have hnodup : (p :: others).Nodup := by
            have h := Collector.nodup_freshOf w List.nodup_nil ps s.collector
            rwa [hfresh] at h
          have hlongest : Match.longest (Match.group converter (p :: others) w
              (s.collector.schema.leadingLiterals rest) c.requests c.issued) ≤
                (s.collector.schema.leadingLiterals rest).length :=
            Match.longest_group_le hnodup
          obtain ⟨journal, hgroup⟩ := Collector.resolveGroup_eq converter (p :: others) w
            (s.collector.schema.leadingLiterals rest) c
          simp only [Turn.extent, Nat.add_sub_cancel_left, Stream.ofWords_drop _ hlongest,
            matchGroup, Stream.opening_ofWords, hgroup, List.map_map]
          rfl

theorem Takes.schema {converter : Converter} {s t : Progress} {w : Word} {rest : List Word}
    {turn : Turn} (h : Takes converter s w rest t turn) :
    t.collector.schema = s.collector.schema := by
  cases h <;> rfl

/-- The words behind a turn are those from where it moves the cursor to. -/
theorem drop_behind (t : Turn) (words : List Word) (cursor : Nat) :
    (words.drop (cursor + 1)).drop (t.extent - 1) = words.drop (cursor + t.extent) := by
  have hpos := t.extent_pos
  rw [List.drop_drop]
  congr 1
  omega

/-- The state that a cursor comes to is that of reading the words phrase by phrase. -/
theorem scan_fst (converter : Converter) (words : List Word) (s : Progress) (cursor : Nat) :
    (s.scan converter words cursor).1 =
      s.readStream converter (.ofWords s.collector.schema (words.drop cursor)) := by
  fun_induction scan converter words s cursor with
  | case1 s cursor h step later ih =>
    rw [List.drop_eq_getElem_cons h, readStream_cons, drop_behind,
      ← (turn_takes converter s _ _).schema]
    exact ih
  | case2 s cursor h =>
    rw [List.drop_eq_nil_of_le (Nat.le_of_not_lt h)]
    simp [readStream, Stream.ofWords, leaveAll_nil, readPhrases]

/-- What turns make of a state: they append their matches, leftovers and faults, and nothing that
was there before is changed. -/
structure Reaches (converter : Converter) (s : Progress) (turns : List Turn) (t : Progress) : Prop where
  entries : t.collector.entries =
    s.collector.entries ++ (turns.flatMap Turn.made).map Match.entry
  leftovers : t.collector.leftovers = s.collector.leftovers ++ turns.flatMap Turn.leftovers
  recorded : t.collector.recorded = s.collector.recorded ++ turns.flatMap Turn.recorded
  requests : t.collector.requests =
    s.collector.requests ++ (turns.flatMap Turn.made).flatMap (·.trail.requests)
  overflows : t.overflows = s.overflows ++
    ((turns.flatMap Turn.made).map Match.resolution).filter (·.pending.isSome)
  linked : Match.Linked s.collector.requests (turns.flatMap Turn.made)
  made : ∀ m ∈ turns.flatMap Turn.made, Match.Made converter m

namespace Reaches

variable {converter : Converter}

theorem refl (s : Progress) : Reaches converter s [] s := by
  constructor <;> simp [Match.Linked]

theorem trans {s t u : Progress} {first second : List Turn} (hfirst : Reaches converter s first t)
    (hsecond : Reaches converter t second u) : Reaches converter s (first ++ second) u where
  entries := by rw [hsecond.entries, hfirst.entries]; simp
  leftovers := by rw [hsecond.leftovers, hfirst.leftovers]; simp
  recorded := by rw [hsecond.recorded, hfirst.recorded]; simp
  requests := by rw [hsecond.requests, hfirst.requests]; simp
  overflows := by rw [hsecond.overflows, hfirst.overflows]; simp
  linked := by
    have hlinked := hsecond.linked
    rw [hfirst.requests] at hlinked
    rw [List.flatMap_append]
    exact Match.linked_append.mpr ⟨hfirst.linked, hlinked⟩
  made := by
    intro m hm
    rw [List.flatMap_append, List.mem_append] at hm
    exact hm.elim (hfirst.made m) (hsecond.made m)

end Reaches

/-- Turns that read words from the first to the last, each from behind the turn before it. -/
inductive Reads (converter : Converter) (schema : Schema) : List Word → List Turn → Prop where
  | nil : Reads converter schema [] []
  | cons {s t : Progress} {w : Word} {rest : List Word} {turn : Turn} {later : List Turn}
      (hschema : s.collector.schema = schema) (hturn : Takes converter s w rest t turn)
      (hlater : Reads converter schema (rest.drop (turn.extent - 1)) later) :
      Reads converter schema (w :: rest) (turn :: later)

/-- The turns of a scan read the words from the cursor on, one behind the other. -/
theorem scan_reads (converter : Converter) (words : List Word) (s : Progress) (cursor : Nat) :
    Reads converter s.collector.schema (words.drop cursor) (s.scan converter words cursor).2 := by
  fun_induction scan converter words s cursor with
  | case1 s cursor h step later ih =>
    have hturn := turn_takes converter s words[cursor] (words.drop (cursor + 1))
    rw [List.drop_eq_getElem_cons h]
    refine .cons rfl hturn ?_
    rw [drop_behind, ← hturn.schema]
    exact ih
  | case2 s cursor h =>
    rw [List.drop_eq_nil_of_le (Nat.le_of_not_lt h)]
    exact .nil

/-- Each turn is taken at the word to which the turns before it have moved the cursor, and the turns
after it read on from behind it. -/
theorem Reads.split {converter : Converter} {schema : Schema} {words : List Word}
    {before after : List Turn} {turn : Turn}
    (h : Reads converter schema words (before ++ turn :: after)) :
    ∃ (s t : Progress) (w : Word) (rest : List Word),
      words.drop (Turn.reach before) = w :: rest ∧ s.collector.schema = schema ∧
        Takes converter s w rest t turn ∧
        Reads converter schema (rest.drop (turn.extent - 1)) after := by
  induction before generalizing words with
  | nil =>
    cases h with
    | cons hschema hturn hlater => exact ⟨_, _, _, _, rfl, hschema, hturn, hlater⟩
  | cons first others ih =>
    cases h with
    | cons hschema hturn hlater =>
      obtain ⟨s, t, w, rest, hdrop, hturn⟩ := ih hlater
      refine ⟨s, t, w, rest, ?_, hturn⟩
      have hpos := first.extent_pos
      rw [← hdrop, List.drop_drop, Turn.reach, ← Nat.sub_add_cancel hpos, Nat.add_right_comm,
        List.drop_succ_cons, Nat.add_sub_cancel]

theorem Takes.reaches {converter : Converter} {s t : Progress} {w : Word} {rest : List Word}
    {turn : Turn} (h : Takes converter s w rest t turn) : Reaches converter s [turn] t := by
  cases h with
  | left hread => constructor <;> simp [Turn.made, Turn.leftovers, Turn.recorded, Collector.leave,
      Match.Linked]
  | undeclared hread => constructor <;> simp [Turn.made, Turn.leftovers, Turn.recorded,
      Collector.record, Collector.note, Match.Linked]
  | repeated journal hread hold => constructor <;> simp [Turn.made, Turn.leftovers, Turn.recorded,
      Collector.noteAll, Match.Linked]
  | matched journal hread hne hnodup hfresh hrun hmade =>
    constructor
    case linked =>
      rw [hmade]
      simpa [Turn.made] using Match.linked_group
    case made =>
      intro m hm
      rw [List.flatMap_singleton, Turn.made, hmade] at hm
      exact Match.made_of_mem_group hnodup hm
    all_goals simp [Turn.made, Turn.leftovers, Turn.recorded, Collector.accept]

/-- A scan reaches by its turns what it comes to. -/
theorem scan_reaches (converter : Converter) (words : List Word) (s : Progress) (cursor : Nat) :
    Reaches converter s (s.scan converter words cursor).2 (s.scan converter words cursor).1 := by
  fun_induction scan converter words s cursor with
  | case1 s cursor h step later ih => exact (turn_takes converter s _ _).reaches.trans ih
  | case2 s cursor h => exact .refl s

end Progress

/-- The turns of a parse of words. -/
def turns (converter : Converter) (schema : Schema) (words : List Word) : List Turn :=
  (Progress.scan converter words ⟨.new schema, []⟩ 0).2

/-- The cursor loop from the start of the words ends in the state of a parse after all flags. -/
theorem scan_eq_ofStream (converter : Converter) (schema : Schema) (words : List Word) :
    Progress.scan converter words ⟨.new schema, []⟩ 0 =
      (.ofStream converter schema (.ofWords schema words), turns converter schema words) := by
  apply Prod.ext
  · exact Progress.scan_fst ..
  · rfl

/-- The turns of a parse read the whole command line. -/
theorem turns_reads (converter : Converter) (schema : Schema) (words : List Word) :
    Progress.Reads converter schema words (turns converter schema words) :=
  Progress.scan_reads converter words ⟨.new schema, []⟩ 0

/-- Every turn of a parse is taken by its schema. -/
theorem takes_of_mem_turns {converter : Converter} {schema : Schema} {words : List Word} {t : Turn}
    (ht : t ∈ turns converter schema words) :
    ∃ (before after : Progress) (w : Word) (rest : List Word),
      before.collector.schema = schema ∧ Progress.Takes converter before w rest after t := by
  obtain ⟨earlier, later, hsplit⟩ := List.append_of_mem ht
  obtain ⟨before, after, w, rest, _, hschema, hturn, _⟩ :=
    (hsplit ▸ turns_reads converter schema words).split
  exact ⟨before, after, w, rest, hschema, hturn⟩

/-- A flag that matches parameters matches some, each once. -/
theorem exists_group_of_mem_turns {converter : Converter} {schema : Schema} {words : List Word}
    {flag : Word} {fresh : List Parameter} {run : List Word} {made : List Match}
    (ht : .matched flag fresh run made ∈ turns converter schema words) :
    fresh ≠ [] ∧ fresh.Nodup ∧
      ∃ earlier ticket, made = Match.group converter fresh flag run earlier ticket := by
  obtain ⟨_, _, _, _, _, hturn⟩ := takes_of_mem_turns ht
  cases hturn with
  | matched journal hread hne hnodup hfresh hrun hmade => exact ⟨hne, hnodup, _, _, hmade⟩

/-- The turns of a parse make up its state after all flags. -/
theorem ofStream_reaches (converter : Converter) (schema : Schema) (words : List Word) :
    Progress.Reaches converter ⟨.new schema, []⟩ (turns converter schema words)
      (.ofStream converter schema (.ofWords schema words)) := by
  have h := Progress.scan_reaches converter words ⟨.new schema, []⟩ 0
  rwa [scan_eq_ofStream] at h

end CommandLine
