import CommandLine.Proofs.Cursor.Fresh
import CommandLine.Proofs.Match.Account

namespace CommandLine

namespace Turn

/-- One thing that a turn adds. -/
inductive Part where
  /-- The report of an undeclared flag. -/
  | reported (seen : Fault.Substance × Option String)
  | made (account : Match.Account)

namespace Part

/-- A part with its surplus at other places. -/
def move (f : Nat → Nat) : Part → Part
  | reported seen => reported seen
  | made account => made (account.move f)

/-- The parameter that a part matches. -/
def parameter? : Part → Option Parameter
  | reported _ => none
  | made account => some account.parameter

/-- The requests that a part makes of the converter. -/
def requests : Part → List Request
  | reported _ => []
  | made account => account.requests

@[simp] theorem parameter?_move (f : Nat → Nat) (part : Part) :
    (part.move f).parameter? = part.parameter? := by
  cases part <;> rfl

@[simp] theorem requests_move (f : Nat → Nat) (part : Part) :
    (part.move f).requests = part.requests := by
  cases part <;> rfl

end Part

/-- What a turn adds, in order. -/
def parts (face : String → String) : Turn → List Part
  | undeclared _ reported => [.reported (reported.fault.seen face)]
  | matched _ _ _ made => made.map fun m => .made (m.account face)
  | _ => []

/-- What turns add, in order. -/
def course (face : String → String) (turns : List Turn) : List Part :=
  turns.flatMap (parts face)

variable (face : String → String)

@[simp] theorem course_nil : course face [] = [] := rfl

@[simp] theorem course_cons (t : Turn) (rest : List Turn) :
    course face (t :: rest) = t.parts face ++ course face rest :=
  List.flatMap_cons

@[simp] theorem course_append (first second : List Turn) :
    course face (first ++ second) = course face first ++ course face second :=
  List.flatMap_append

theorem requests_parts (t : Turn) :
    (t.parts face).flatMap Part.requests = t.made.flatMap (·.trail.requests) := by
  cases t <;> simp [parts, made, List.flatMap_map, Part.requests, Match.account]

theorem mem_parameters_parts (t : Turn) (p : Parameter) :
    some p ∈ (t.parts face).map Part.parameter? ↔ p ∈ t.made.map Match.parameter := by
  cases t <;> simp [parts, made, Part.parameter?, Match.account]

/-- Two turns that come to the same but for the places of words. -/
structure Moved (f : Nat → Nat) (t u : Turn) : Prop where
  parts : u.parts face = (t.parts face).map (·.move f)
  leftovers : u.leftovers = t.leftovers.map (·.move f)
  extent : u.extent = t.extent

end Turn

/-- Whether a parse goes on alike from two collectors: they have matched the same parameters, and the
converter cannot tell the requests of one from those of the other. -/
structure Collector.Interchangeable (converter : Converter) (c d : Collector) : Prop where
  schema : d.schema = c.schema
  matched : ∀ p, d.matched p = c.matched p
  confused : converter.Confuses d.requests c.requests

theorem Collector.Interchangeable.refl (converter : Converter) (c : Collector) :
    Interchangeable converter c c :=
  ⟨rfl, fun _ => rfl, .refl _⟩

namespace Progress

variable {converter : Converter} {s t s' t' : Progress} {turns others : List Turn}
  (face : String → String)

/-- Turns ask the converter what their course says. -/
theorem Reaches.requests_course (h : Reaches converter s turns t) :
    t.collector.requests =
      s.collector.requests ++ (Turn.course face turns).flatMap Turn.Part.requests := by
  rw [h.requests, Turn.course, List.flatMap_assoc, List.flatMap_assoc]
  simp only [Turn.requests_parts]

/-- Turns match the parameters that their course says. -/
theorem Reaches.matched_course (h : Reaches converter s turns t) (p : Parameter) :
    t.collector.matched p = true ↔
      s.collector.matched p = true ∨ some p ∈ (Turn.course face turns).map Turn.Part.parameter? := by
  rw [Collector.matched_iff, Collector.matched_iff, h.entries, List.map_append, List.mem_append,
    Turn.course]
  simp only [List.map_flatMap, List.mem_flatMap, Turn.mem_parameters_parts, List.map_map]
  rfl

/-- After turns that add the same in some order, a parse goes on alike. -/
theorem interchangeable_of_perm {f : Nat → Nat}
    (h : Collector.Interchangeable converter s.collector t.collector)
    (hs : Reaches converter s turns s') (ht : Reaches converter t others t')
    (hschema : s'.collector.schema = s.collector.schema)
    (hschema' : t'.collector.schema = t.collector.schema)
    (hcourse : (Turn.course face others).Perm ((Turn.course face turns).map (·.move f)))
    (hconfused : converter.Confuses t'.collector.requests s'.collector.requests) :
    Collector.Interchangeable converter s'.collector t'.collector := by
  refine ⟨by rw [hschema', h.schema, hschema], fun p => ?_, hconfused⟩
  have hparameters := (hcourse.map Turn.Part.parameter?).mem_iff (a := some p)
  rw [List.map_map] at hparameters
  simp only [Function.comp_def, Turn.Part.parameter?_move] at hparameters
  rw [Bool.eq_iff_iff, hs.matched_course face, ht.matched_course face, h.matched, hparameters]

/-- After turns that add the same, a parse goes on alike. -/
theorem interchangeable_of_course {f : Nat → Nat}
    (h : Collector.Interchangeable converter s.collector t.collector)
    (hs : Reaches converter s turns s') (ht : Reaches converter t others t')
    (hschema : s'.collector.schema = s.collector.schema)
    (hschema' : t'.collector.schema = t.collector.schema)
    (hcourse : Turn.course face others = (Turn.course face turns).map (·.move f)) :
    Collector.Interchangeable converter s'.collector t'.collector := by
  refine interchangeable_of_perm face h hs ht hschema hschema' (.of_eq hcourse) ?_
  rw [hs.requests_course face, ht.requests_course face, hcourse, List.flatMap_map]
  simp only [Turn.Part.requests_move]
  exact h.confused.append _

/-- The turn at a declared flag matches what it spells and what is not matched before, each parameter
once, or drops the flag if there is nothing of that kind. -/
theorem turn_recognised (converter : Converter) (s : Progress) {w : Word} {ps : List Parameter}
    (hread : (s.collector.schema.read w.text).flag? = some (.recognised ps)) (rest : List Word) :
    let fresh := (ps.filter (!s.collector.matched ·)).eraseDups
    let run := s.collector.schema.leadingLiterals rest
    (s.turn converter w rest).2 =
      if fresh = [] then .repeated w
      else .matched w fresh run
        (Match.group converter fresh w run s.collector.requests s.collector.issued) := by
  have hfresh := Collector.freshOf_snd w [] ps s.collector
  obtain ⟨journal, hnoted⟩ := Collector.freshOf_fst w [] ps s.collector
  rw [List.eraseDups_nil, List.nil_append] at hfresh
  unfold turn
  simp only [hread]
  rw [← hfresh]
  cases hof : s.collector.freshOf w [] ps with
  | mk c fresh =>
    rw [hof] at hnoted
    dsimp only at hnoted
    subst hnoted
    cases fresh <;> rfl

/-- A turn over words at other places comes to the same, if the parameters that its word spells are
matched or not as they were. -/
theorem turn_move (f : Nat → Nat) {w : Word} (hschema : t.collector.schema = s.collector.schema)
    (hmatched : ∀ p ∈ (s.collector.schema.read w.text).parameters,
      t.collector.matched p = s.collector.matched p)
    (hconfused : converter.Confuses t.collector.requests s.collector.requests) (rest : List Word) :
    Turn.Moved face f (s.turn converter w rest).2
      (t.turn converter (w.move f) (rest.map (·.move f))).2 := by
  cases hread : (s.collector.schema.read w.text).flag? with
  | none =>
    unfold turn
    simp only [hschema, Word.text_move, hread]
    exact ⟨rfl, rfl, rfl⟩
  | some flag =>
    cases flag with
    | unrecognised =>
      have hreport := Fault.seen_unrecognised (v := w.move f) (w := w)
        (congrArg face (w.text_move f)) (suggestions w.text s.collector.schema.longSpellings)
      unfold turn
      simp only [hschema, Word.text_move, hread, Collector.record, Collector.unrecognisedFault]
      refine ⟨?_, rfl, rfl⟩
      simp only [Turn.parts, hreport, List.map_singleton, Turn.Part.move]
    | recognised ps =>
      have hread' : (t.collector.schema.read (w.move f).text).flag? = some (.recognised ps) := by
        rwa [hschema, Word.text_move]
      rw [Reading.parameters_eq, hread] at hmatched
      have hfresh : ps.filter (!t.collector.matched ·) = ps.filter (!s.collector.matched ·) :=
        List.filter_congr fun p hp => congrArg (!·) (hmatched p hp)
      rw [turn_recognised converter s hread, turn_recognised converter t hread', hfresh, hschema,
        Schema.leadingLiterals_map_move]
      split
      · exact ⟨rfl, rfl, rfl⟩
      · next hne =>
        have hmade := Match.map_account_group_move (v := w.move f) (w := w) f t.collector.issued
          s.collector.issued (congrArg face (w.text_move f))
          (s.collector.schema.leadingLiterals rest) (ps.filter (!s.collector.matched ·)).eraseDups
          hconfused
        refine ⟨?_, rfl, ?_⟩
        · simpa [Turn.parts, Function.comp_def, Turn.Part.move] using
            congrArg (List.map Turn.Part.made) hmade
        · simp only [Turn.extent, Match.longest_eq_of_accounts face, hmade, List.map_map]
          rfl

/-- From interchangeable states, a scan over words at other places takes the same course, and ends in
interchangeable states. -/
theorem scan_move (f : Nat → Nat) (words : List Word) (s : Progress) (cursor : Nat) :
    ∀ t : Progress, Collector.Interchangeable converter s.collector t.collector →
      let first := s.scan converter words cursor
      let second := t.scan converter (words.map (·.move f)) cursor
      Turn.course face second.2 = (Turn.course face first.2).map (·.move f) ∧
        second.2.flatMap Turn.leftovers = (first.2.flatMap Turn.leftovers).map (·.move f) ∧
        Collector.Interchangeable converter first.1.collector second.1.collector := by
  fun_induction scan converter words s cursor with
  | case1 s cursor hlt step later ih =>
    intro t h
    obtain ⟨hparts, hleftovers, hextent⟩ := turn_move face f h.schema (fun p _ => h.matched p)
      h.confused (w := words[cursor]) (words.drop (cursor + 1))
    have hs := turn_takes converter s words[cursor] (words.drop (cursor + 1))
    have ht := turn_takes converter t (words[cursor].move f)
      ((words.drop (cursor + 1)).map (·.move f))
    have hnext := interchangeable_of_course face h hs.reaches ht.reaches hs.schema ht.schema
      (f := f) (by simpa [Turn.course] using hparts)
    obtain ⟨hcourse, hleft, hend⟩ := ih _ hnext
    rw [List.map_drop] at hparts hleftovers hextent hcourse hleft hend
    rw [scan.eq_1 _ (words.map _), dif_pos (by rwa [List.length_map])]
    simp only [List.getElem_map, hextent]
    refine ⟨?_, ?_, hend⟩
    · rw [Turn.course_cons, Turn.course_cons, hparts, List.map_append, hcourse]
    · rw [List.flatMap_cons, List.flatMap_cons, hleftovers, List.map_append, hleft]
  | case2 s cursor hge =>
    intro t h
    rw [scan.eq_1, dif_neg (by rwa [List.length_map])]
    exact ⟨rfl, rfl, h⟩

end Progress

end CommandLine
