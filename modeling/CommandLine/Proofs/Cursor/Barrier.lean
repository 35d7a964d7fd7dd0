import CommandLine.Proofs.Cursor.Shift
import CommandLine.Proofs.Transcript.Basic

namespace CommandLine

/-- Whether texts are cut off from those before them: there is none, or the first one is a flag. -/
def Schema.CutsOff (s : Schema) (texts : List String) : Prop :=
  ∀ text ∈ texts.head?, (s.read text).isFlag = true

theorem Schema.cutsOff_cons {s : Schema} {text : String} (h : (s.read text).isFlag = true)
    (rest : List String) : s.CutsOff (text :: rest) := by
  rintro _ ⟨⟩
  exact h

/-- The run behind a flag ends at the next flag. -/
theorem Schema.leadingLiterals_append {s : Schema} {behind : List Word}
    (hbehind : s.CutsOff (behind.map Word.text)) (words : List Word) :
    s.leadingLiterals (words ++ behind) = s.leadingLiterals words := by
  unfold leadingLiterals
  rw [List.takeWhile_append]
  split
  · next hall =>
    have hnone : behind.takeWhile (fun w => !(s.read w.text).isFlag) = [] := by
      cases behind with
      | nil => rfl
      | cons w rest => exact List.takeWhile_cons_of_neg (by simpa [CutsOff] using hbehind)
    rw [hnone, List.append_nil]
    exact (List.takeWhile_sublist _).eq_of_length hall |>.symm
  · rfl

namespace Progress

variable (converter : Converter)

/-- A turn does not see what stands from the next flag on. -/
theorem turn_append {s : Progress} {behind : List Word}
    (hbehind : s.collector.schema.CutsOff (behind.map Word.text)) (w : Word) (rest : List Word) :
    s.turn converter w (rest ++ behind) = s.turn converter w rest := by
  unfold turn
  rw [Schema.leadingLiterals_append hbehind]

/-- A scan from a cursor on is a scan of the words from there. -/
theorem scan_drop (n : Nat) (words : List Word) (s : Progress) (cursor : Nat) :
    s.scan converter (words.drop n) cursor = s.scan converter words (n + cursor) := by
  fun_induction scan converter (words.drop n) s cursor with
  | case1 s cursor hlt step later ih =>
    rw [List.length_drop] at hlt
    have hstep : step = s.turn converter words[n + cursor] (words.drop (n + cursor + 1)) := by
      simp only [step, List.getElem_drop, List.drop_drop, Nat.add_assoc]
    rw [scan.eq_1 _ words, dif_pos (Nat.add_lt_of_lt_sub' hlt)]
    dsimp only
    rw [← hstep, Nat.add_assoc, ← ih]
  | case2 s cursor hge =>
    rw [List.length_drop] at hge
    rw [scan.eq_1, dif_neg (by omega)]

/-- Reading words and then, from the state there, what is cut off from them, is reading all in one go. -/
theorem scan_append (words behind : List Word) (s : Progress) (cursor : Nat)
    (hcursor : cursor ≤ words.length)
    (hbehind : s.collector.schema.CutsOff (behind.map Word.text)) :
    s.scan converter (words ++ behind) cursor =
      (((s.scan converter words cursor).1.scan converter behind 0).1,
        (s.scan converter words cursor).2 ++
          ((s.scan converter words cursor).1.scan converter behind 0).2) := by
  fun_induction scan converter words s cursor with
  | case1 s cursor hlt step later ih =>
    have hturn := turn_takes converter s words[cursor] (words.drop (cursor + 1))
    have hextent := hturn.words_eq.1
    rw [List.length_cons, List.length_drop] at hextent
    have hstep := turn_append converter hbehind words[cursor] (words.drop (cursor + 1))
    rw [← List.drop_append_of_le_length (Nat.succ_le_of_lt hlt)] at hstep
    rw [scan.eq_1, dif_pos (by rw [List.length_append]; omega)]
    simp only [List.getElem_append_left hlt, hstep]
    have hlater := ih (by dsimp only [step]; omega) (hturn.schema ▸ hbehind)
    rw [hlater]
    rfl
  | case2 s cursor hge =>
    obtain rfl : cursor = words.length := by omega
    rw [← Nat.add_zero words.length, ← scan_drop, List.drop_left]
    rfl

/-- A cursor over words that are cut off reads the phrases that they are cut into. -/
theorem scan_fst_of_cutsOff {s : Progress} {behind : List Word}
    (hbehind : s.collector.schema.CutsOff (behind.map Word.text)) :
    (s.scan converter behind 0).1 =
      s.readPhrases converter (Stream.ofWords s.collector.schema behind).phrases := by
  have hopening : (Stream.ofWords s.collector.schema behind).opening = [] := by
    rw [Stream.opening_ofWords, ← List.nil_append behind, Schema.leadingLiterals_append hbehind]
    rfl
  rw [scan_fst, List.drop_zero, readStream, hopening]
  simp [Collector.leaveAll]

/-- What two runs from one state add to it: the second adds what the first does, with every word `n`
places further on. -/
structure AddsShifted (n : Nat) (base first second : Progress) : Prop where
  entries : ∃ added, first.collector.entries = base.collector.entries ++ added ∧
    second.collector.entries = base.collector.entries ++ added
  leftovers : ∃ added, first.collector.leftovers = base.collector.leftovers ++ added ∧
    second.collector.leftovers = base.collector.leftovers ++ added.map (·.shift n)
  recorded : ∃ added, first.collector.recorded = base.collector.recorded ++ added ∧
    second.collector.recorded = base.collector.recorded ++ added.map (·.shift n)
  overflows : ∃ added, first.overflows = base.overflows ++ added ∧
    second.overflows = base.overflows ++ added.map (·.shift n)
  requests : second.collector.requests = first.collector.requests

/-- Reading words that stand further on adds the same, so much further on. -/
theorem scan_addsShifted (n : Nat) (words : List Word) (s : Progress) :
    AddsShifted n s (s.scan converter words 0).1
      (s.scan converter (words.map (·.shift n)) 0).1 := by
  have hfirst := scan_reaches converter words s 0
  have hsecond := scan_reaches converter (words.map (·.shift n)) s 0
  rw [scan_map_shift n converter words s 0 s (.refl s)] at hsecond
  have hmade := Turn.flatMap_made_map_shift n (s.scan converter words 0).2
  constructor
  case entries =>
    refine ⟨_, hfirst.entries, ?_⟩
    rw [hsecond.entries, hmade]
    simp [Function.comp_def]
  case leftovers =>
    refine ⟨_, hfirst.leftovers, ?_⟩
    rw [hsecond.leftovers, Turn.flatMap_leftovers_map_shift]
  case recorded =>
    refine ⟨_, hfirst.recorded, ?_⟩
    rw [hsecond.recorded, Turn.flatMap_recorded_map_shift]
  case overflows =>
    refine ⟨_, hfirst.overflows, ?_⟩
    rw [hsecond.overflows, hmade]
    simp [List.filter_map, Function.comp_def, Match.shift, Resolution.shift]
  case requests =>
    rw [hsecond.requests, hfirst.requests, hmade]
    simp [List.flatMap_map]

end Progress

/-- A command line that is cut before a flag is read in two parts: the flags before the cut make the
turns that they make without the others, and the others go on from the state in which those end. What
they add to it is what they add when they stand at the front, as far on as the cut is. -/
theorem afterFlags_append_of_cutsOff (converter : Converter) {schema : Schema} (texts : List String)
    {behind : List String} (hbehind : schema.CutsOff behind) :
    let words := Word.ofTexts 0 texts
    let further := Word.ofTexts texts.length behind
    let before := afterFlags converter schema words
    let whole := afterFlags converter schema (Word.ofTexts 0 (texts ++ behind))
    whole = before.readPhrases converter (Stream.ofWords schema further).phrases ∧
      whole = (before.scan converter further 0).1 ∧
      turns converter schema (Word.ofTexts 0 (texts ++ behind)) =
        turns converter schema words ++ (before.scan converter further 0).2 ∧
      Progress.AddsShifted texts.length before
        (before.scan converter (Word.ofTexts 0 behind) 0).1 whole := by
  intro words further before whole
  have hwords : Word.ofTexts 0 (texts ++ behind) = words ++ further := by
    rw [Word.ofTexts_append, Nat.zero_add]
  have hcut : schema.CutsOff (further.map Word.text) := by
    rwa [Word.map_text_ofTexts]
  have hscan := Progress.scan_append converter words further ⟨.new schema, []⟩ 0 (Nat.zero_le _) hcut
  rw [← hwords, scan_eq_ofStream, scan_eq_ofStream, Prod.mk.injEq] at hscan
  have hwhole : whole = (before.scan converter further 0).1 := hscan.1
  have hschema : before.collector.schema = schema := schema_afterFlags converter schema words
  refine ⟨?phrases, hwhole, hscan.2, ?shifted⟩
  case phrases =>
    rw [hwhole, Progress.scan_fst_of_cutsOff converter (by rwa [hschema]), hschema]
  case shifted =>
    rw [hwhole]
    dsimp only [further]
    rw [Word.ofTexts_eq_map_shift texts.length behind]
    exact Progress.scan_addsShifted converter texts.length (Word.ofTexts 0 behind) before

/-- A flag for any number of words. -/
def manyWordsFlag : Parameter where
  key := 0
  longs := ["items"]
  shorts := ['i']
  type := .list .raw
  required := false
  fallback := none
  position := none
  arity := none
  description := none
  longs_valid := fun _ hname => List.mem_singleton.mp hname ▸ rfl
  shorts_valid := fun _ hname => List.mem_singleton.mp hname ▸ rfl
  longs_nodup := List.nodup_singleton _
  shorts_nodup := List.nodup_singleton _
  named_or_placed := .inl (List.cons_ne_nil _ _)

/-- Even a flag for any number of words ends at a flag that is dropped: the word behind that one is
left over. -/
theorem manyWordsFlag_cutOff :
    let schema : Schema := ⟨[manyWordsFlag], List.pairwise_singleton _ _⟩
    schema.CutsOff ["--items", "b"] ∧
      (afterFlags .standard schema
        (Word.ofTexts 0 (["--items", "a"] ++ ["--items", "b"]))).collector.leftovers = [⟨"b", 3⟩] := by
  intro schema
  have hcut : schema.CutsOff ["--items", "b"] := by
    intro text htext
    cases htext
    decide +kernel
  obtain ⟨_, _, _, hadds⟩ := afterFlags_append_of_cutsOff .standard ["--items", "a"] hcut
  obtain ⟨added, halone, hadded⟩ := hadds.leftovers
  have hbefore : (afterFlags .standard schema
      (Word.ofTexts 0 ["--items", "a"])).collector.leftovers = [] := by
    decide +kernel
  have hfront : ((afterFlags .standard schema (Word.ofTexts 0 ["--items", "a"])).scan .standard
      (Word.ofTexts 0 ["--items", "b"]) 0).1.collector.leftovers = [⟨"b", 1⟩] := by
    decide +kernel
  rw [hbefore, List.nil_append] at halone hadded
  refine ⟨hcut, ?_⟩
  rw [hadded, ← halone, hfront]
  rfl

end CommandLine
