import CommandLine.Proofs.Cursor.Barrier
import CommandLine.Proofs.Transcript.Course

namespace CommandLine

/-- Words that are cut off from those before them leave these no run. -/
theorem Schema.leadingLiterals_of_cutsOff {s : Schema} {words : List Word}
    (h : s.CutsOff (words.map Word.text)) : s.leadingLiterals words = [] :=
  leadingLiterals_append h []

/-- A face that shows nothing: faults are compared without the texts of the words that they point at. -/
def concealed (_ : String) : String := ""

theorem concealed_eq (first second : String) : concealed first = concealed second := rfl

/-- The places behind a place, moved on by a number of places. -/
def pushBehind (place count i : Nat) : Nat :=
  if i ≤ place then i else i + count

theorem injective_pushBehind (place count : Nat) : (pushBehind place count).Injective := by
  intro i j heq
  unfold pushBehind at heq
  split at heq <;> split at heq <;> omega

namespace Progress

theorem schema_scan (converter : Converter) (words : List Word) (s : Progress) (cursor : Nat) :
    (s.scan converter words cursor).1.collector.schema = s.collector.schema := by
  fun_induction scan converter words s cursor with
  | case1 s cursor hlt step later ih => exact ih.trans (turn_takes converter s _ _).schema
  | case2 s cursor hge => rfl

/-- The turn at a flag that spells only new parameters, each once, matches all of them. -/
theorem turn_of_new (converter : Converter) {s : Progress} {w : Word} {ps : List Parameter}
    (hflag : (s.collector.schema.read w.text).flag? = some (.recognised ps)) (hne : ps ≠ [])
    (hnodup : ps.Nodup) (hnew : ∀ p ∈ ps, s.collector.matched p = false) (rest : List Word) :
    let run := s.collector.schema.leadingLiterals rest
    (s.turn converter w rest).2 =
      .matched w ps run (Match.group converter ps w run s.collector.requests s.collector.issued) := by
  have hall : ps.filter (!s.collector.matched ·) = ps :=
    List.filter_eq_self.mpr fun p hp => by rw [hnew p hp]; rfl
  rw [turn_recognised converter s hflag, hall, eraseDups_eq_self_of_nodup hnodup, if_neg hne]

/-- What a scan opens with: turns that lead to a state from which it goes on over the other words. -/
structure Opens (converter : Converter) (s : Progress) (words : List Word) (turns : List Turn)
    (t : Progress) (rest : List Word) : Prop where
  reaches : Reaches converter s turns t
  schema : t.collector.schema = s.collector.schema
  scan : s.scan converter words 0 =
    ((t.scan converter rest 0).1, turns ++ (t.scan converter rest 0).2)

namespace Opens

variable {converter : Converter} {s t u : Progress} {words behind rest : List Word}
  {turns later : List Turn}

theorem refl (s : Progress) (words : List Word) : Opens converter s words [] s words :=
  ⟨.refl s, rfl, rfl⟩

theorem trans (hfirst : Opens converter s words turns t behind)
    (hsecond : Opens converter t behind later u rest) :
    Opens converter s words (turns ++ later) u rest where
  reaches := hfirst.reaches.trans hsecond.reaches
  schema := hsecond.schema.trans hfirst.schema
  scan := by rw [hfirst.scan, hsecond.scan, List.append_assoc]

/-- A scan opens with the turn at the first word. -/
theorem turn (converter : Converter) (s : Progress) (w : Word) (rest : List Word) :
    Opens converter s (w :: rest) [(s.turn converter w rest).2] (s.turn converter w rest).1
      (rest.drop ((s.turn converter w rest).2.extent - 1)) where
  reaches := (turn_takes converter s w rest).reaches
  schema := (turn_takes converter s w rest).schema
  scan := by
    have hbehind := drop_behind (s.turn converter w rest).2 (w :: rest) 0
    rw [scan.eq_1, dif_pos (by simp)]
    simp only [List.getElem_cons_zero, Nat.zero_add, List.drop_succ_cons, List.drop_zero] at hbehind ⊢
    rw [hbehind, scan_drop, Nat.add_zero]
    rfl

/-- A scan of words that are cut off from others opens with the turns over the first ones. -/
theorem ofCutsOff (converter : Converter) (s : Progress) (words : List Word)
    (hbehind : s.collector.schema.CutsOff (behind.map Word.text)) :
    Opens converter s (words ++ behind) (s.scan converter words 0).2 (s.scan converter words 0).1
      behind where
  reaches := scan_reaches ..
  schema := schema_scan ..
  scan := scan_append converter words behind s 0 (Nat.zero_le _) hbehind

/-- A scan opens with a flag for one new parameter by matching it against the literals behind it. -/
theorem single {face : String → String} {w : Word} {p : Parameter} {a : Match.Account}
    (hread : s.collector.schema.read w.text = .group [p]) (hnew : s.collector.matched p = false)
    (haccount : (Match.ofRun converter p w (s.collector.schema.leadingLiterals rest) false
      s.collector.requests s.collector.issued).account face = a) :
    ∃ turn t, Opens converter s (w :: rest) [turn] t (rest.drop a.taken.length) ∧
      Turn.parts face turn = [.made a] ∧ turn.leftovers = [] ∧
        (∀ q, q ≠ p → t.collector.matched q = s.collector.matched q) ∧
          t.collector.requests = s.collector.requests ++ a.requests := by
  let run := s.collector.schema.leadingLiterals rest
  let m := Match.ofRun converter p w run false s.collector.requests s.collector.issued
  have hturn : (s.turn converter w rest).2 = .matched w [p] run [m] :=
    turn_of_new converter (by rw [hread]; rfl) (List.cons_ne_nil p []) (List.nodup_singleton p)
      (by simpa using hnew) rest
  have hextent : (Turn.matched w [p] run [m]).extent - 1 = a.taken.length := by
    simp [← haccount, Turn.extent, Match.longest, Match.account, m, run]
  have hopens := turn converter s w rest
  have htakes := turn_takes converter s w rest
  rw [hturn] at hopens htakes
  rw [hextent] at hopens
  refine ⟨.matched w [p] run [m], _, hopens, ?_, rfl, fun q hq => ?_, ?_⟩
  · rw [← haccount]
    rfl
  · rw [htakes.matched_eq]
    simp [Turn.made, m, hq]
  · rw [htakes.reaches.requests, ← haccount]
    simp [Turn.made, Match.account, m, run]

end Opens

end Progress

section

variable {converter : Converter} {schema : Schema} {f : Nat → Nat} {first second rest : List Word}
  {earlier later : List Turn} {s t : Progress} (face : String → String)

/-- Behind turns that come to the same, the same words come to the same at other places. -/
theorem leftAlike_of_opens (hf : f.Injective)
    (hfirst : Progress.Opens converter ⟨.new schema, []⟩ first earlier s rest)
    (hsecond : Progress.Opens converter ⟨.new schema, []⟩ second later t (rest.map (·.move f)))
    (hcourse : (Turn.course face later).Perm ((Turn.course face earlier).map (·.move f)))
    (hleftovers : later.flatMap Turn.leftovers = (earlier.flatMap Turn.leftovers).map (·.move f))
    (hconfused : converter.Confuses t.collector.requests s.collector.requests) :
    LeftAlike converter schema f first second ∧
      ∃ behind, Turn.course face (turns converter schema first) =
          Turn.course face earlier ++ behind ∧
        Turn.course face (turns converter schema second) =
          Turn.course face later ++ behind.map (·.move f) := by
  have hstart := Progress.interchangeable_of_perm face
    (.refl converter (Collector.new schema)) hfirst.reaches hsecond.reaches hfirst.schema
    hsecond.schema hcourse hconfused
  obtain ⟨hbehind, hleft, hend⟩ := Progress.scan_move face f rest s 0 t hstart
  have hscan := hfirst.scan
  have hscan' := hsecond.scan
  rw [scan_eq_ofStream, Prod.mk.injEq] at hscan hscan'
  obtain ⟨hstate, hturns⟩ := hscan
  obtain ⟨hstate', hturns'⟩ := hscan'
  refine ⟨⟨hf, ?_, ?_⟩, Turn.course face (s.scan converter rest 0).2, ?_, ?_⟩
  · rw [leftovers_afterFlags, leftovers_afterFlags, hturns, hturns', List.flatMap_append,
      List.flatMap_append, hleftovers, hleft, List.map_append]
  · unfold afterFlags
    rw [hstate, hstate']
    exact hend
  · rw [hturns, Turn.course_append]
  · rw [hturns', Turn.course_append, hbehind]

end

/-- The turns over words that stay where they are come to what they come to. -/
theorem Progress.course_scan_move_self (converter : Converter) (face : String → String)
    {f : Nat → Nat} {words : List Word} (hwords : words = words.map (·.move f)) (s : Progress) :
    let turns := (s.scan converter words 0).2
    Turn.course face turns = (Turn.course face turns).map (·.move f) ∧
      turns.flatMap Turn.leftovers = (turns.flatMap Turn.leftovers).map (·.move f) := by
  have hmove := scan_move face f words s 0 s (.refl converter s.collector)
  rw [← hwords] at hmove
  exact ⟨hmove.1, hmove.2.1⟩

/-- A command line that is cut before a flag opens with the turns over the words before the cut. -/
theorem opens_append (converter : Converter) {schema : Schema} (before : List String)
    {first : List String} (hcut : schema.CutsOff first) :
    Progress.Opens converter ⟨.new schema, []⟩ (Word.ofTexts 0 (before ++ first))
      (turns converter schema (Word.ofTexts 0 before))
      (afterFlags converter schema (Word.ofTexts 0 before)) (Word.ofTexts before.length first) := by
  have hbehind : schema.CutsOff ((Word.ofTexts before.length first).map Word.text) := by
    rwa [Word.map_text_ofTexts]
  have hopens := Progress.Opens.ofCutsOff converter ⟨.new schema, []⟩ (Word.ofTexts 0 before) hbehind
  rw [Word.ofTexts_append, Nat.zero_add]
  rwa [scan_eq_ofStream] at hopens

/-- Two command lines that begin with the same words and then open with turns that leave the same words
over. Behind these they have the same words again, at the places that `f` tells. -/
structure Detour (converter : Converter) (schema : Schema) (before first second : List String)
    (f : Nat → Nat) (earlier later : List Turn) (s t : Progress) : Prop where
  injective : f.Injective
  fixed : ∀ i < before.length, f i = i
  cut : schema.CutsOff first
  cut' : schema.CutsOff second
  opens : ∃ rest,
    Progress.Opens converter (afterFlags converter schema (Word.ofTexts 0 before))
        (Word.ofTexts before.length first) earlier s rest ∧
      Progress.Opens converter (afterFlags converter schema (Word.ofTexts 0 before))
        (Word.ofTexts before.length second) later t (rest.map (·.move f))
  leftovers : later.flatMap Turn.leftovers = (earlier.flatMap Turn.leftovers).map (·.move f)

namespace Detour

variable {converter : Converter} {schema : Schema} {before first second : List String}
  {f : Nat → Nat} {earlier later : List Turn} {s t : Progress} (face : String → String)

/-- If the turns come to the same in some order, all flags of the two command lines do. -/
theorem leftAlike (h : Detour converter schema before first second f earlier later s t)
    (hcourse : (Turn.course face later).Perm ((Turn.course face earlier).map (·.move f)))
    (hconfused : converter.Confuses t.collector.requests s.collector.requests) :
    LeftAlike converter schema f (Word.ofTexts 0 (before ++ first))
        (Word.ofTexts 0 (before ++ second)) ∧
      ∃ ahead behind,
        Turn.course face (turns converter schema (Word.ofTexts 0 (before ++ first))) =
          ahead ++ Turn.course face earlier ++ behind ∧
        Turn.course face (turns converter schema (Word.ofTexts 0 (before ++ second))) =
          ahead.map (·.move f) ++ Turn.course face later ++ behind.map (·.move f) := by
  have hsame : Word.ofTexts 0 before = (Word.ofTexts 0 before).map (·.move f) :=
    Word.ofTexts_eq_map_move fun i hi => by rw [Nat.zero_add, h.fixed i hi]
  obtain ⟨hahead, hleft⟩ :=
    Progress.course_scan_move_self converter face hsame ⟨.new schema, []⟩
  rw [scan_eq_ofStream] at hahead hleft
  dsimp only at hahead hleft
  obtain ⟨rest, hfirst, hsecond⟩ := h.opens
  obtain ⟨halike, behind, hwhole, hwhole'⟩ := leftAlike_of_opens face h.injective
    ((opens_append converter before h.cut).trans hfirst)
    ((opens_append converter before h.cut').trans hsecond)
    (by
      rw [Turn.course_append, Turn.course_append, List.map_append, ← hahead]
      exact hcourse.append_left _)
    (by rw [List.flatMap_append, List.flatMap_append, List.map_append, ← hleft, h.leftovers])
    hconfused
  refine ⟨halike, Turn.course face (turns converter schema (Word.ofTexts 0 before)), behind,
    hwhole.trans ?_, hwhole'.trans ?_⟩
  · rw [Turn.course_append]
  · rw [Turn.course_append, ← hahead]

/-- If the turns come to the same but for the texts of their flags, the parses come to the same results,
leave the same words over and find the same faults, but for the words that these point at. -/
theorem outcome_eq (h : Detour converter schema before first second f earlier later s t)
    (hcourse : Turn.course concealed later = (Turn.course concealed earlier).map (·.move f)) :
    let one := parse converter schema (before ++ first)
    let other := parse converter schema (before ++ second)
    other.results = one.results ∧ other.positional = one.positional ∧
      other.faults.map Fault.substance = one.faults.map Fault.substance := by
  obtain ⟨rest, hfirst, hsecond⟩ := h.opens
  have hend := Progress.interchangeable_of_course concealed (.refl converter _) hfirst.reaches
    hsecond.reaches hfirst.schema hsecond.schema hcourse
  obtain ⟨halike, ahead, behind, hwhole, hwhole'⟩ :=
    h.leftAlike concealed (.of_eq hcourse) hend.confused
  obtain ⟨hentries, hfaults⟩ := halike.outcome_eq concealed (by
    rw [hwhole, hwhole', List.map_append, List.map_append, hcourse])
  refine ⟨hentries, halike.positional_eq, ?_⟩
  have hsubstance := congrArg (List.map Prod.fst) hfaults
  rwa [List.map_map, List.map_map] at hsubstance

/-- If the turns come to the same in some order, the parses do. -/
theorem outcome_perm (h : Detour converter schema before first second f earlier later s t)
    (hcourse : (Turn.course face later).Perm ((Turn.course face earlier).map (·.move f)))
    (hconfused : converter.Confuses t.collector.requests s.collector.requests) :
    let one := parse converter schema (before ++ first)
    let other := parse converter schema (before ++ second)
    other.results.Perm one.results ∧ other.positional = one.positional ∧
      (other.faults.map (Fault.seen face)).Perm (one.faults.map (Fault.seen face)) := by
  obtain ⟨halike, ahead, behind, hwhole, hwhole'⟩ := h.leftAlike face hcourse hconfused
  obtain ⟨hentries, hfaults⟩ := halike.outcome_perm face (by
    rw [hwhole, hwhole', List.map_append, List.map_append]
    exact (hcourse.append_left _).append_right _)
  exact ⟨hentries, halike.positional_eq, hfaults⟩

end Detour

end CommandLine
