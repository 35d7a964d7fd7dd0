import CommandLine.Proofs.Collector.Invariant
import CommandLine.Proofs.Match.Group

namespace CommandLine

namespace Collector

/-- Entering resolutions of new parameters appends their entries. -/
theorem enterAll_of_new {rs : List Resolution} {c : Collector}
    (hnodup : (rs.map Resolution.parameter).Nodup)
    (hnew : ∀ r ∈ rs, c.matched r.parameter = false) :
    ∃ journal, c.enterAll rs =
      { c with
        entries := c.entries ++ rs.map fun r => ⟨r.parameter, r.value⟩
        journal := c.journal ++ journal } := by
  induction rs generalizing c with
  | nil => exact ⟨[], by simp [enterAll]⟩
  | cons r rest ih =>
    rw [List.map_cons, List.nodup_cons] at hnodup
    have henter := enter_of_new (hnew r List.mem_cons_self) r.value
    have hrest := new_of_enter hnodup.1 (fun other hother => hnew other (List.mem_cons_of_mem _ hother))
      r.value
    obtain ⟨journal, hjournal⟩ := ih hnodup.2 hrest
    refine ⟨.matched r.parameter r.value :: journal, ?_⟩
    change (c.enter r.parameter r.value).enterAll rest = _
    rw [hjournal, henter]
    simp [note]

end Collector

/-- What the reader of a command line does at one place. -/
inductive Turn where
  /-- A literal that no flag took is left over. -/
  | left (w : Word)
  /-- An undeclared flag is reported. -/
  | undeclared (w : Word) (reported : RecordedFault)
  /-- A flag whose parameters are all matched before is dropped. -/
  | repeated (flag : Word)
  /-- The fresh parameters of a flag are matched against the run of literals after it. -/
  | matched (flag : Word) (fresh : List Parameter) (run : List Word) (made : List Match)

namespace Turn

/-- The matches of a turn. -/
def made : Turn → List Match
  | matched _ _ _ made => made
  | _ => []

/-- The words that a turn leaves over. -/
def leftovers : Turn → List Word
  | left w => [w]
  | _ => []

/-- The faults that a turn records. -/
def recorded : Turn → List RecordedFault
  | undeclared _ reported => [reported]
  | matched _ _ _ made => made.flatMap (·.trail.recorded)
  | _ => []

/-- The words that a turn is done with. -/
def words : Turn → List Word
  | left w => [w]
  | undeclared w _ => [w]
  | repeated flag => [flag]
  | matched flag _ run made => flag :: run.take (Match.longest made)

/-- By how many words a turn moves the cursor. -/
def extent : Turn → Nat
  | matched _ _ _ made => 1 + Match.longest made
  | _ => 1

theorem extent_pos (t : Turn) : 0 < t.extent := by
  cases t with
  | matched flag fresh run made => exact Nat.lt_of_lt_of_le Nat.zero_lt_one (Nat.le_add_right ..)
  | _ => exact Nat.zero_lt_one

/-- By how many words turns move the cursor together. -/
def reach : List Turn → Nat
  | [] => 0
  | t :: rest => t.extent + reach rest

end Turn

namespace Progress

/-- The turn at a word, with the words behind it. -/
def turn (converter : Converter) (s : Progress) (w : Word) (rest : List Word) : Progress × Turn :=
  match (s.collector.schema.read w.text).flag? with
  | none => ({ s with collector := s.collector.leave w }, .left w)
  | some .unrecognised =>
    let (c, reported) := s.collector.record (s.collector.unrecognisedFault w)
    ({ s with collector := c }, .undeclared w reported)
  | some (.recognised parameters) =>
    match s.collector.freshOf w [] parameters with
    | (c, []) => ({ s with collector := c }, .repeated w)
    | (c, fresh) =>
      let run := s.collector.schema.leadingLiterals rest
      let (d, resolutions) := c.resolveGroup converter fresh w run
      (⟨d.enterAll resolutions, s.overflows ++ resolutions.filter (·.pending.isSome)⟩,
        .matched w fresh run (Match.group converter fresh w run c.requests c.issued))

end Progress

/-- A collector with matches added: their entries behind the others, and their trails. -/
def Collector.accept (c : Collector) (ms : List Match) (journal : List Event) : Collector :=
  { c with
    entries := c.entries ++ ms.map Match.entry
    recorded := c.recorded ++ ms.flatMap (·.trail.recorded)
    issued := c.issued + (ms.flatMap (·.trail.recorded)).length
    requests := c.requests ++ ms.flatMap (·.trail.requests)
    journal := c.journal ++ journal }

theorem Collector.accept_noteAll (c : Collector) (noted journal : List Event) (ms : List Match) :
    (c.noteAll noted).accept ms journal = c.accept ms (noted ++ journal) := by
  simp [accept, noteAll]

namespace Progress

/-- The four ways in which a turn goes, each with the state that it ends in. -/
inductive Takes (converter : Converter) (s : Progress) (w : Word) (rest : List Word) :
    Progress → Turn → Prop where
  | left (hread : (s.collector.schema.read w.text).flag? = none) :
      Takes converter s w rest { s with collector := s.collector.leave w } (.left w)
  | undeclared (hread : (s.collector.schema.read w.text).flag? = some .unrecognised) :
      Takes converter s w rest
        { s with collector := (s.collector.record (s.collector.unrecognisedFault w)).1 }
        (.undeclared w ⟨s.collector.issued, s.collector.unrecognisedFault w⟩)
  | repeated {ps : List Parameter} (journal : List Event)
      (hread : (s.collector.schema.read w.text).flag? = some (.recognised ps))
      (hold : ∀ p ∈ ps, s.collector.matched p = true) :
      Takes converter s w rest { s with collector := s.collector.noteAll journal }
        (.repeated w)
  | matched {ps fresh : List Parameter} {run : List Word} {made : List Match}
      (journal : List Event)
      (hread : (s.collector.schema.read w.text).flag? = some (.recognised ps))
      (hne : fresh ≠ []) (hnodup : fresh.Nodup)
      (hfresh : ∀ p, p ∈ fresh ↔ p ∈ ps ∧ s.collector.matched p = false)
      (hrun : run = s.collector.schema.leadingLiterals rest)
      (hmade : made = Match.group converter fresh w run s.collector.requests s.collector.issued) :
      Takes converter s w rest
        ⟨s.collector.accept made journal,
          s.overflows ++ (made.map Match.resolution).filter (·.pending.isSome)⟩
        (.matched w fresh run made)

/-- Matching the fresh parameters of a flag accepts their matches. -/
theorem resolveGroup_enterAll (converter : Converter) {fresh : List Parameter} (hnodup : fresh.Nodup)
    (w : Word) (run : List Word) {c : Collector} (hnew : ∀ p ∈ fresh, c.matched p = false) :
    let made := Match.group converter fresh w run c.requests c.issued
    (c.resolveGroup converter fresh w run).2 = made.map Match.resolution ∧
      ∃ journal, (c.resolveGroup converter fresh w run).1.enterAll
        (c.resolveGroup converter fresh w run).2 = c.accept made journal := by
  intro made
  obtain ⟨noted, hgroup⟩ := Collector.resolveGroup_eq converter fresh w run c
  rw [hgroup]
  refine ⟨rfl, ?_⟩
  have hparameters : (made.map Match.resolution).map Resolution.parameter = fresh := by
    rw [List.map_map]
    exact Match.map_parameter_group ..
  have hmade : ∀ r ∈ made.map Match.resolution,
      ((c.noteAll noted).extend (Match.trails made)).matched r.parameter = false := by
    intro r hr
    apply hnew
    rw [← hparameters]
    exact List.mem_map_of_mem hr
  obtain ⟨entered, henter⟩ := Collector.enterAll_of_new (by rw [hparameters]; exact hnodup) hmade
  refine ⟨noted ++ (Match.trails made).journal ++ entered, ?_⟩
  dsimp only
  rw [henter]
  simp [Collector.extend, Collector.noteAll, Collector.accept, Match.recorded_trails, Match.requests_trails,
    Function.comp_def, Match.entry]

theorem turn_takes (converter : Converter) (s : Progress) (w : Word) (rest : List Word) :
    Takes converter s w rest (s.turn converter w rest).1 (s.turn converter w rest).2 := by
  unfold turn
  cases hread : (s.collector.schema.read w.text).flag? with
  | none => exact .left hread
  | some flag =>
    cases flag with
    | unrecognised => exact .undeclared hread
    | recognised ps =>
      obtain ⟨journal, hnoted⟩ := Collector.freshOf_fst w [] ps s.collector
      have hmem := Collector.mem_freshOf w [] ps s.collector
      have hnodup := Collector.nodup_freshOf w List.nodup_nil ps s.collector
      dsimp only
      cases hfresh : s.collector.freshOf w [] ps with
      | mk c fresh =>
        rw [hfresh] at hnoted hmem hnodup
        change c = s.collector.noteAll journal at hnoted
        subst hnoted
        dsimp only at hmem hnodup
        cases fresh with
        | nil =>
          refine .repeated journal hread ?_
          intro p hp
          have hnone := (hmem p).not.mp List.not_mem_nil
          simpa [hp] using hnone
        | cons p others =>
          have hfresh : ∀ q, q ∈ p :: others ↔ q ∈ ps ∧ s.collector.matched q = false := by
            intro q
            rw [hmem, or_iff_right List.not_mem_nil]
          obtain ⟨hresolutions, entered, henter⟩ := resolveGroup_enterAll converter hnodup w
            (s.collector.schema.leadingLiterals rest) (c := s.collector.noteAll journal)
            (fun q hq => ((hfresh q).mp hq).2)
          rw [Collector.accept_noteAll] at henter
          change Takes converter s w rest ⟨Collector.enterAll _ _, s.overflows ++ _⟩ (.matched ..)
          rw [henter, hresolutions]
          exact .matched (journal ++ entered) hread (List.cons_ne_nil p others) hnodup hfresh rfl rfl

end Progress

end CommandLine
