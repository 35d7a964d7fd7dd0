import CommandLine.Proofs.Accounting
import CommandLine.Proofs.Cursor.Course
import CommandLine.Proofs.Cursor.Shift
import CommandLine.Proofs.Transcript.Course

namespace CommandLine

/-- A fault as a parse by another schema records it: the report of an undeclared flag has the suggestions
of that schema. -/
def Fault.retold (t : Schema) : Fault → Fault
  | unrecognised w _ => t.unrecognisedFault w
  | fault => fault

/-- A recorded fault as a parse by another schema records it. -/
def RecordedFault.retold (t : Schema) (r : RecordedFault) : RecordedFault :=
  ⟨r.ticket, r.fault.retold t⟩

/-- A turn as a parse by another schema makes it. -/
def Turn.retold (t : Schema) : Turn → Turn
  | undeclared w reported => undeclared w (reported.retold t)
  | turn => turn

/-- Suggestions do not make a fault another one. -/
theorem Fault.same_retold (t : Schema) (fault : Fault) : (fault.retold t).same fault = true := by
  cases fault <;> exact decide_eq_true rfl

/-- A fault of a parameter is told alike by every schema. -/
theorem Fault.retold_of_parameter? {t : Schema} {fault : Fault} {p : Parameter}
    (h : fault.parameter? = some p) : fault.retold t = fault := by
  cases fault with
  | unrecognised w suggestions => cases h
  | _ => rfl

/-- What stands of a match does not tell of undeclared flags. -/
theorem Match.map_retold_standing (t : Schema) {m : Match} (hcoherent : m.Coherent)
    (claimed : List Nat) : (m.standing claimed).map (Fault.retold t) = m.standing claimed := by
  refine (List.map_congr_left fun fault hfault => ?_).trans (List.map_id _)
  exact Fault.retold_of_parameter? (parameter?_of_mem_standing hcoherent hfault)

namespace Turn

variable (t : Schema) (turn : Turn) (turns : List Turn)

@[simp] theorem made_retold : (turn.retold t).made = turn.made := by
  cases turn <;> rfl

@[simp] theorem leftovers_retold : (turn.retold t).leftovers = turn.leftovers := by
  cases turn <;> rfl

@[simp] theorem extent_retold : (turn.retold t).extent = turn.extent := by
  cases turn <;> rfl

theorem length_recorded_retold : (turn.retold t).recorded.length = turn.recorded.length := by
  cases turn <;> rfl

theorem flatMap_made_map_retold : (turns.map (retold t)).flatMap made = turns.flatMap made := by
  simp [List.flatMap_map]

theorem flatMap_leftovers_map_retold :
    (turns.map (retold t)).flatMap leftovers = turns.flatMap leftovers := by
  simp [List.flatMap_map]

/-- The faults of a turn that stand are retold with it: those of its matches stay what they are. -/
theorem standing_retold {turn : Turn} (hcoherent : ∀ m ∈ turn.made, m.Coherent) (claimed : List Nat) :
    (turn.retold t).standing claimed = (turn.standing claimed).map (Fault.retold t) := by
  cases turn with
  | matched flag fresh run made =>
    change made.flatMap _ = (made.flatMap _).map _
    rw [List.map_flatMap]
    exact List.flatMap_congr fun m hm => (Match.map_retold_standing t (hcoherent m hm) claimed).symm
  | _ => rfl

end Turn

/-- Two schemas that read words alike. -/
def Schema.ReadAlike (s t : Schema) (words : List Word) : Prop :=
  ∀ w ∈ words, t.read w.text = s.read w.text

/-- Schemas that read the words alike have the same words stand as literals. -/
theorem Schema.ReadAlike.leadingLiterals_eq {s t : Schema} {words : List Word}
    (h : s.ReadAlike t words) : t.leadingLiterals words = s.leadingLiterals words := by
  induction words with
  | nil => rfl
  | cons w rest ih =>
    obtain ⟨hw, hrest⟩ := List.forall_mem_cons.mp h
    have hlater := ih hrest
    unfold leadingLiterals at hlater ⊢
    rw [List.takeWhile_cons, List.takeWhile_cons, hw, hlater]

/-- Two collectors that hold the same, but for their schemas and the suggestions in what they record. -/
structure Collector.Abreast (c d : Collector) : Prop where
  entries : d.entries = c.entries
  requests : d.requests = c.requests
  issued : d.issued = c.issued

namespace Progress

variable (converter : Converter) {s t : Progress}

/-- The turn at a word is the same by a schema that reads the words alike. -/
theorem turn_retold (h : s.collector.Abreast t.collector) {w : Word} {rest : List Word}
    (hread : s.collector.schema.ReadAlike t.collector.schema (w :: rest)) :
    (t.turn converter w rest).2 = (s.turn converter w rest).2.retold t.collector.schema := by
  obtain ⟨hw, hrest⟩ := List.forall_mem_cons.mp hread
  cases hflag : (s.collector.schema.read w.text).flag? with
  | none =>
    unfold turn
    simp only [hw, hflag]
    rfl
  | some flag =>
    cases flag with
    | unrecognised =>
      unfold turn
      simp only [hw, hflag, Collector.record, Collector.unrecognisedFault, h.issued]
      rfl
    | recognised ps =>
      have hflag' : (t.collector.schema.read w.text).flag? = some (.recognised ps) := by
        rwa [hw]
      have hmatched : t.collector.matched = s.collector.matched := by
        funext p
        rw [Collector.matched, Collector.matched, h.entries]
      rw [turn_recognised converter s hflag, turn_recognised converter t hflag', hmatched,
        Schema.ReadAlike.leadingLiterals_eq hrest, h.requests, h.issued]
      split <;> rfl

/-- A turn keeps collectors abreast if the schemas read the words alike. -/
theorem abreast_turn (h : s.collector.Abreast t.collector) {w : Word} {rest : List Word}
    (hread : s.collector.schema.ReadAlike t.collector.schema (w :: rest)) :
    (s.turn converter w rest).1.collector.Abreast (t.turn converter w rest).1.collector := by
  have hs := turn_takes converter s w rest
  have ht := turn_takes converter t w rest
  rw [turn_retold converter h hread] at ht
  constructor
  case entries =>
    rw [hs.reaches.entries, ht.reaches.entries, h.entries]
    simp
  case requests =>
    rw [hs.reaches.requests, ht.reaches.requests, h.requests]
    simp
  case issued => rw [hs.issued, ht.issued, h.issued, Turn.length_recorded_retold]

/-- All turns from a cursor on are the same. -/
theorem scan_retold (words : List Word) (s : Progress) (cursor : Nat) :
    ∀ t : Progress, s.collector.Abreast t.collector →
      s.collector.schema.ReadAlike t.collector.schema words →
        (t.scan converter words cursor).2 =
            (s.scan converter words cursor).2.map (Turn.retold t.collector.schema) ∧
          (s.scan converter words cursor).1.collector.Abreast
            (t.scan converter words cursor).1.collector := by
  fun_induction scan converter words s cursor with
  | case1 s cursor hlt step later ih =>
    intro t h hread
    have hbehind : s.collector.schema.ReadAlike t.collector.schema
        (words[cursor] :: words.drop (cursor + 1)) := by
      rw [← List.drop_eq_getElem_cons hlt]
      exact fun w hw => hread w (List.mem_of_mem_drop hw)
    have hturn := turn_retold converter h hbehind
    have hs := turn_takes converter s words[cursor] (words.drop (cursor + 1))
    have ht := turn_takes converter t words[cursor] (words.drop (cursor + 1))
    obtain ⟨hlater, hend⟩ := ih (t.turn converter words[cursor] (words.drop (cursor + 1))).1
      (abreast_turn converter h hbehind) (by rwa [hs.schema, ht.schema])
    rw [ht.schema] at hlater
    rw [scan.eq_1 _ _ t, dif_pos hlt]
    simp only [hturn, Turn.extent_retold]
    exact ⟨congrArg _ hlater, hend⟩
  | case2 s cursor hge =>
    intro t h _
    rw [scan.eq_1 _ _ t, dif_neg hge]
    exact ⟨rfl, h⟩

end Progress

namespace Collector.Abreast

variable (converter : Converter) {c d : Collector}

theorem matched (h : Abreast c d) (p : Parameter) : d.matched p = c.matched p := by
  rw [Collector.matched, Collector.matched, h.entries]

theorem note (h : Abreast c d) (first second : Event) : Abreast (c.note first) (d.note second) :=
  ⟨h.entries, h.requests, h.issued⟩

/-- The same match keeps them abreast. -/
theorem enter (h : Abreast c d) {p : Parameter} (hnew : c.matched p = false) (trail : Trail)
    (value : Value) :
    Abreast ((c.extend trail).enter p value) ((d.extend trail).enter p value) := by
  have hnew' := (h.matched p).trans hnew
  rw [enter_of_new (by rwa [matched_extend]), enter_of_new (by rwa [matched_extend])]
  constructor
  case entries => simp only [Collector.note, entries_extend, h.entries]
  case requests => simp only [Collector.note, requests_extend, h.requests]
  case issued => simp only [Collector.note, issued_extend, h.issued]

/-- The positions are bound in the same way. -/
theorem bindEach (ps : List Parameter) (words : List Word) (h : Abreast c d) :
    d.bindings converter ps words = c.bindings converter ps words ∧
      (d.bindEach converter ps words).2 = (c.bindEach converter ps words).2 ∧
      Abreast (c.bindEach converter ps words).1 (d.bindEach converter ps words).1 := by
  induction ps generalizing words c d with
  | nil => exact ⟨rfl, rfl, h⟩
  | cons p rest ih =>
    cases hmatched : c.matched p with
    | true =>
      obtain ⟨hbind, hbindings⟩ := bindEach_of_matched converter rest words hmatched
      obtain ⟨hbind', hbindings'⟩ := bindEach_of_matched converter rest words
        ((h.matched p).trans hmatched)
      rw [hbind, hbindings, hbind', hbindings']
      exact ih words (h.note _ _)
    | false =>
      have hmatched' := (h.matched p).trans hmatched
      by_cases hempty : p.eligible words = []
      · obtain ⟨hbind, hbindings⟩ := bindEach_of_empty converter rest hmatched hempty
        obtain ⟨hbind', hbindings'⟩ := bindEach_of_empty converter rest hmatched' hempty
        rw [hbind, hbindings, hbind', hbindings']
        exact ih words (h.note _ _)
      · obtain ⟨anchor, behind, rfl⟩ := exists_cons_of_eligible hempty
        obtain ⟨hbind, hbindings⟩ := bindEach_of_eligible converter rest hmatched hempty
        obtain ⟨hbind', hbindings'⟩ := bindEach_of_eligible converter rest hmatched' hempty
        rw [h.requests, h.issued] at hbind' hbindings'
        obtain ⟨hmade, hclaims, hend⟩ := ih _ (h.enter hmatched _ _)
        rw [hbind, hbindings, hbind', hbindings']
        exact ⟨congrArg _ hmade, congrArg (· ++ _) hclaims, hend⟩

/-- The same parameters are filled in by their fallbacks. -/
theorem fallbacks (ps : List Parameter) (h : Abreast c d) :
    d.fallbacks converter ps = c.fallbacks converter ps := by
  induction ps generalizing c d with
  | nil => rfl
  | cons p rest ih =>
    unfold Collector.fallbacks
    cases p.fallback with
    | none => exact ih h
    | some fallback =>
      cases hmatched : c.matched p with
      | true =>
        simp only [h.matched p, hmatched, if_true]
        exact ih h
      | false =>
        simp only [h.matched p, hmatched, h.requests, h.issued, Bool.false_eq_true, if_false]
        exact congrArg _ (ih (h.enter hmatched _ _))

end Collector.Abreast

/-- Settling an overflow records nothing. -/
theorem Collector.issued_settleOverflow (claimed : List Nat) (c : Collector) (r : Resolution) :
    (c.settleOverflow claimed r).issued = c.issued := by
  unfold settleOverflow nullify
  split
  · rfl
  · split
    · rfl
    · split <;> rfl

/-- Settlement issues no ticket. -/
theorem issued_afterSettlement (converter : Converter) (schema : Schema) (words : List Word) :
    (afterSettlement converter schema words).issued =
      (afterBinding converter schema words).issued := by
  rw [afterSettlement_eq_foldl]
  exact List.foldlRecOn (motive := fun c => c.issued = (afterBinding converter schema words).issued)
    _ _ rfl fun c hc r _ => (Collector.issued_settleOverflow _ c r).trans hc

/-- Two schemas that a parse of words cannot tell apart until it comes to the fallbacks, but by what they
suggest for undeclared flags. -/
structure Schema.Agree (s t : Schema) (words : List Word) : Prop where
  read : s.ReadAlike t words
  positionals : t.positionals = s.positionals

namespace Schema.Agree

variable {s t : Schema} {words : List Word} (h : s.Agree t words) (converter : Converter)

include h

/-- All flags are read in the same way. -/
theorem turns_eq_and_abreast :
    turns converter t words = (turns converter s words).map (Turn.retold t) ∧
      (afterFlags converter s words).collector.Abreast (afterFlags converter t words).collector := by
  have hscan := Progress.scan_retold converter words ⟨.new s, []⟩ 0 ⟨.new t, []⟩ ⟨rfl, rfl, rfl⟩ h.read
  rwa [scan_eq_ofStream, scan_eq_ofStream] at hscan

/-- The turns are the same but for the suggestions in them. -/
theorem turns_eq : turns converter t words = (turns converter s words).map (Turn.retold t) :=
  (h.turns_eq_and_abreast converter).1

theorem flagged_eq :
    (transcript converter t words).flagged = (transcript converter s words).flagged := by
  change (turns converter t words).flatMap _ = (turns converter s words).flatMap _
  rw [h.turns_eq, Turn.flatMap_made_map_retold]

theorem leftovers_eq :
    (afterFlags converter t words).collector.leftovers =
      (afterFlags converter s words).collector.leftovers := by
  rw [leftovers_afterFlags, leftovers_afterFlags, h.turns_eq, Turn.flatMap_leftovers_map_retold]

/-- The same positions are bound, and claim the same words. -/
theorem bindings_eq :
    (transcript converter t words).bindings = (transcript converter s words).bindings ∧
      (transcript converter t words).claimed = (transcript converter s words).claimed ∧
      (afterBinding converter s words).Abreast (afterBinding converter t words) := by
  have hbind := (h.turns_eq_and_abreast converter).2.bindEach converter s.positionals
    (afterFlags converter s words).collector.leftovers
  obtain ⟨hmade, hclaims, hend⟩ := hbind
  refine ⟨?_, ?_, ?_⟩
  · change Collector.bindings converter t.positionals _ _ = _
    rw [h.positionals, h.leftovers_eq]
    exact hmade
  · change Progress.claimed converter _ = Progress.claimed converter _
    rw [Progress.claimed_eq, Progress.claimed_eq, schema_afterFlags, schema_afterFlags,
      h.positionals, h.leftovers_eq, hclaims]
  · unfold afterBinding Collector.bind
    rw [schema_afterFlags, schema_afterFlags, h.positionals, h.leftovers_eq]
    exact hend

/-- The same overflows are settled. -/
theorem afterSettlement_abreast :
    (afterSettlement converter s words).Abreast (afterSettlement converter t words) := by
  obtain ⟨hbindings, hclaimed, hbound⟩ := h.bindings_eq converter
  obtain ⟨hentries, _, _, hrequests⟩ := afterSettlement_eq converter s words
  obtain ⟨hentries', _, _, hrequests'⟩ := afterSettlement_eq converter t words
  constructor
  case entries =>
    rw [hentries, hentries', h.flagged_eq, hbindings]
    unfold Transcript.confirmed Transcript.overflows
    rw [h.flagged_eq, hclaimed]
  case requests => rw [hrequests, hrequests', h.flagged_eq, hbindings]
  case issued => rw [issued_afterSettlement, issued_afterSettlement, hbound.issued]

/-- The faults of the flags are the same, but for the suggestions. -/
theorem flatMap_standing_turns (claimed : List Nat) :
    (turns converter t words).flatMap (Turn.standing claimed) =
      ((turns converter s words).flatMap (Turn.standing claimed)).map (Fault.retold t) := by
  rw [h.turns_eq, List.flatMap_map, List.map_flatMap]
  refine List.flatMap_congr fun turn hturn => Turn.standing_retold t (fun m hm => ?_) claimed
  exact coherent_of_mem_transcript (mem_made_of_mem_flagged (List.mem_flatMap.mpr ⟨turn, hturn, hm⟩))

end Schema.Agree

end CommandLine
