import CommandLine.Proofs.Cursor.Course
import CommandLine.Proofs.Transcript.Outcome

namespace CommandLine

namespace Match.Account

variable {f : Nat → Nat} (claimed : List Nat) (a : Account)

/-- Whether positions claimed all of the surplus of a match. -/
def absorbed : Bool :=
  a.surplus.all fun w => claimed.contains w.index

/-- The result of a match: without its value if its overflow is confirmed. -/
def settled : Entry :=
  ⟨a.parameter, if a.overflows && !a.absorbed claimed then .none else a.value⟩

/-- The faults of a match that stand. -/
def standing : List (Fault.Substance × Option String) :=
  a.faults.filter fun seen => seen.1.kind ≠ .tooMany || !a.absorbed claimed

/-- A surplus at other places is claimed as before, if the claims are at the same other places. -/
theorem absorbed_move (hf : f.Injective) :
    (a.move f).absorbed (claimed.map f) = a.absorbed claimed := by
  unfold absorbed move
  rw [List.all_map]
  congr 1
  funext w
  change (claimed.map f).contains (f w.index) = claimed.contains w.index
  rw [Bool.eq_iff_iff, List.contains_iff_mem, List.contains_iff_mem,
    List.mem_map_of_injective hf]

/-- Moved words are claimed where their images are, so a settlement comes to the same. -/
theorem settled_move (hf : f.Injective) :
    (a.move f).settled (claimed.map f) = a.settled claimed := by
  unfold settled
  rw [absorbed_move claimed a hf]
  rfl

theorem standing_move (hf : f.Injective) :
    (a.move f).standing (claimed.map f) = a.standing claimed := by
  unfold standing
  rw [absorbed_move claimed a hf]
  rfl

end Match.Account

theorem Match.settled_account (claimed : List Nat) (face : String → String) (m : Match) :
    (m.account face).settled claimed = m.settled claimed := rfl

/-- What stays of a match is seen in its account. -/
theorem Match.standing_account (claimed : List Nat) (face : String → String) (m : Match) :
    (m.account face).standing claimed = (m.standing claimed).map (Fault.seen face) := by
  unfold Account.standing standing
  rw [List.filter_map, List.map_map, account, List.filter_map]
  rfl

namespace Turn

namespace Part

variable {f : Nat → Nat} (claimed : List Nat)

/-- The results of a part. -/
def entries : Part → List Entry
  | reported _ => []
  | made account => [account.settled claimed]

/-- The faults of a part that stand. -/
def standing : Part → List (Fault.Substance × Option String)
  | reported seen => [seen]
  | made account => account.standing claimed

/-- A part of a course gives the same entries when its words are moved. -/
theorem entries_move (hf : f.Injective) (part : Part) :
    (part.move f).entries (claimed.map f) = part.entries claimed := by
  cases part with
  | reported seen => rfl
  | made account => exact congrArg (fun entry => [entry]) (account.settled_move claimed hf)

theorem standing_move (hf : f.Injective) (part : Part) :
    (part.move f).standing (claimed.map f) = part.standing claimed := by
  cases part with
  | reported seen => rfl
  | made account => exact account.standing_move claimed hf

end Part

variable (face : String → String) (claimed : List Nat) (turns : List Turn)

theorem flatMap_entries_course :
    (course face turns).flatMap (Part.entries claimed) =
      (turns.flatMap made).map (Match.settled claimed) := by
  rw [course, List.flatMap_assoc, List.map_flatMap]
  congr 1
  funext t
  cases t with
  | matched flag fresh run made =>
    simp only [parts, List.flatMap_map, Part.entries, Match.settled_account, Turn.made]
    exact List.map_eq_flatMap.symm
  | _ => rfl

/-- The faults of a course are those that stay of its turns. -/
theorem flatMap_standing_course :
    (course face turns).flatMap (Part.standing claimed) =
      (turns.flatMap (standing claimed)).map (Fault.seen face) := by
  rw [course, List.flatMap_assoc, List.map_flatMap]
  congr 1
  funext t
  cases t with
  | matched flag fresh run made =>
    simp only [parts, List.flatMap_map, Part.standing, Match.standing_account, standing,
      List.map_flatMap]
  | _ => rfl

end Turn

namespace Collector

variable {converter : Converter} {c d : Collector} (face : String → String) (f : Nat → Nat)

/-- After matches that come to the same, a parse goes on alike. -/
theorem Interchangeable.accepts (h : Interchangeable converter c d) {c' d' : Collector}
    {ms ns : List Match} (hc : Accepts converter c ms c') (hd : Accepts converter d ns d')
    (haccounts : ns.map (Match.account face) = (ms.map (Match.account face)).map (·.move f)) :
    Interchangeable converter c' d' := by
  obtain ⟨first, rfl⟩ := hc.eq
  obtain ⟨second, rfl⟩ := hd.eq
  have hparameters := congrArg (List.map Match.Account.parameter) haccounts
  have hrequests := congrArg (List.flatMap Match.Account.requests) haccounts
  simp only [List.map_map, List.flatMap_map] at hparameters hrequests
  refine ⟨h.schema, fun p => ?_, ?_⟩
  · have hp := h.matched p
    rw [Bool.eq_iff_iff, matched_iff, matched_iff] at hp ⊢
    dsimp only [accept]
    rw [List.map_append, List.map_append, List.mem_append, List.mem_append, hp, List.map_map,
      List.map_map]
    exact or_congr_right (iff_of_eq (congrArg (p ∈ ·) hparameters))
  · have hsame : ns.flatMap (·.trail.requests) = ms.flatMap (·.trail.requests) := hrequests
    dsimp only [accept]
    rw [hsame]
    exact h.confused.append _

/-- Whether a parse goes on alike from two collectors with some parameters: they have matched the same of
these, and the converter cannot tell the requests of one from those of the other. -/
structure AlikeOn (converter : Converter) (ps : List Parameter) (c d : Collector) : Prop where
  matched : ∀ p ∈ ps, d.matched p = c.matched p
  confused : converter.Confuses d.requests c.requests

theorem Interchangeable.alikeOn (h : Interchangeable converter c d) (ps : List Parameter) :
    AlikeOn converter ps c d :=
  ⟨fun p _ => h.matched p, h.confused⟩

namespace AlikeOn

variable {p : Parameter} {rest : List Parameter}

theorem tail (h : AlikeOn converter (p :: rest) c d) : AlikeOn converter rest c d :=
  ⟨fun q hq => h.matched q (List.mem_cons_of_mem p hq), h.confused⟩

theorem note (h : AlikeOn converter (p :: rest) c d) (first second : Event) :
    AlikeOn converter rest (c.note first) (d.note second) :=
  ⟨h.tail.matched, h.confused⟩

/-- Matches of the parameter in front that make the same requests keep the rest alike. -/
theorem enter (h : AlikeOn converter (p :: rest) c d) {m n : Match} (hnew : c.matched p = false)
    (hrequests : n.trail.requests = m.trail.requests) :
    AlikeOn converter rest ((c.extend m.trail).enter p m.resolution.value)
      ((d.extend n.trail).enter p n.resolution.value) := by
  have hnew' : d.matched p = false := by rw [h.matched p List.mem_cons_self, hnew]
  rw [enter_of_new (by rwa [matched_extend]), enter_of_new (by rwa [matched_extend])]
  refine ⟨fun q hq => ?_, ?_⟩
  · have hq := h.matched q (List.mem_cons_of_mem p hq)
    unfold Collector.matched at hq ⊢
    simp only [Collector.note, entries_extend, List.any_append, hq]
    rfl
  · simp only [Collector.note, requests_extend, hrequests]
    exact h.confused.append _

end AlikeOn

/-- The positions claim the same of leftovers at other places. -/
theorem bindEach_move (ps : List Parameter) (words : List Word) (h : AlikeOn converter ps c d) :
    (d.bindings converter ps (words.map (·.move f))).map (Match.account face) =
        ((c.bindings converter ps words).map (Match.account face)).map (·.move f) ∧
      (d.bindEach converter ps (words.map (·.move f))).2 =
        (c.bindEach converter ps words).2.map (Prod.map f id) := by
  induction ps generalizing words c d with
  | nil => exact ⟨rfl, rfl⟩
  | cons p rest ih =>
    have hsame := h.matched p List.mem_cons_self
    cases hmatched : c.matched p with
    | true =>
      obtain ⟨hbind, hbindings⟩ := bindEach_of_matched converter rest words hmatched
      obtain ⟨hbind', hbindings'⟩ := bindEach_of_matched converter rest (words.map (·.move f))
        (hsame.trans hmatched)
      rw [hbind, hbindings, hbind', hbindings']
      exact ih words (h.note _ _)
    | false =>
      have hmatched' := hsame.trans hmatched
      by_cases hempty : p.eligible words = []
      · have hempty' : p.eligible (words.map (·.move f)) = [] := by
          rw [Parameter.eligible_map_move, hempty, List.map_nil]
        obtain ⟨hbind, hbindings⟩ := bindEach_of_empty converter rest hmatched hempty
        obtain ⟨hbind', hbindings'⟩ := bindEach_of_empty converter rest hmatched' hempty'
        rw [hbind, hbindings, hbind', hbindings']
        exact ih words (h.note _ _)
      · obtain ⟨anchor, behind, rfl⟩ := exists_cons_of_eligible hempty
        have hempty' : p.eligible (anchor.move f :: behind.map (·.move f)) ≠ [] := by
          rw [← List.map_cons, Parameter.eligible_map_move]
          exact fun hnil => hempty (List.map_eq_nil_iff.mp hnil)
        obtain ⟨hbind, hbindings⟩ := bindEach_of_eligible converter rest hmatched hempty
        obtain ⟨hbind', hbindings'⟩ := bindEach_of_eligible converter rest hmatched' hempty'
        rw [← List.map_cons] at hbind' hbindings'
        have haccount := Match.account_ofRun_move (v := anchor.move f) (w := anchor) f p d.issued
          c.issued h.confused (congrArg face (anchor.text_move f)) (anchor :: behind) true
        have htaken := p.take_map_move f (anchor :: behind)
        rw [← Match.taken_ofRun converter p (anchor.move f) _ true d.requests d.issued,
          ← Match.taken_ofRun converter p anchor (anchor :: behind) true c.requests c.issued] at htaken
        generalize Match.ofRun converter p anchor _ true c.requests c.issued = m at *
        generalize Match.ofRun converter p (anchor.move f) _ true d.requests d.issued = n at *
        obtain ⟨hmade, hclaims⟩ := ih ((anchor :: behind).drop m.taken.length)
          (h.enter hmatched (Match.requests_eq_of_account f haccount))
        rw [hbind, hbindings, hbind', hbindings', htaken, List.length_map, ← List.map_drop]
        constructor
        · rw [List.map_cons, List.map_cons, List.map_cons, haccount, hmade]
        · simp only [hclaims, List.map_append, List.map_map]
          rfl

/-- What fills in the parameters that are not matched comes to the same. -/
theorem fallbacks_move (ps : List Parameter) (h : AlikeOn converter ps c d) :
    (d.fallbacks converter ps).map (Match.account face) =
      ((c.fallbacks converter ps).map (Match.account face)).map (·.move f) := by
  induction ps generalizing c d with
  | nil => rfl
  | cons p rest ih =>
    unfold fallbacks
    cases p.fallback with
    | none => exact ih h.tail
    | some fallback =>
      have hsame := h.matched p List.mem_cons_self
      cases hmatched : c.matched p with
      | true =>
        simp only [hsame, hmatched, if_true]
        exact ih h.tail
      | false =>
        simp only [hsame, hmatched, Bool.false_eq_true, if_false, List.map_cons]
        have haccount : (Match.ofFallback converter p fallback d.requests d.issued).account face = _ :=
          Match.account_ofFallback_move f p d.issued c.issued h.confused fallback
        rw [haccount, ih (h.enter hmatched (Match.requests_eq_of_account f haccount))]

end Collector

/-- A word is claimed at another place as before, if all claims are at such places. -/
theorem isSome_lookup_map {f : Nat → Nat} (hf : f.Injective) (claims : Claims) (i : Nat) :
    ((claims.map (Prod.map f id)).lookup (f i)).isSome = (claims.lookup i).isSome := by
  rw [Bool.eq_iff_iff, List.lookup_isSome_iff, List.lookup_isSome_iff]
  simp [hf.eq_iff]

/-- The places that positions claim are those of the leftovers that have a claim. -/
theorem Progress.claimed_eq (converter : Converter) (s : Progress) :
    s.claimed converter =
      (s.collector.leftovers.filter fun w => ((s.collector.bindEach converter
        s.collector.schema.positionals s.collector.leftovers).2.lookup w.index).isSome).map
          Word.index := by
  unfold claimed Collector.bind
  simp only [List.filter_map, List.map_map]
  rfl

/-- Two command lines that a parse goes on alike from, once their flags are read: the same words are left
over, at places that `f` tells, and the same parameters are matched. -/
structure LeftAlike (converter : Converter) (schema : Schema) (f : Nat → Nat)
    (first second : List Word) : Prop where
  injective : f.Injective
  leftovers : (afterFlags converter schema second).collector.leftovers =
    (afterFlags converter schema first).collector.leftovers.map (·.move f)
  interchangeable : Collector.Interchangeable converter (afterFlags converter schema first).collector
    (afterFlags converter schema second).collector

section

variable (converter : Converter) (schema : Schema) (words : List Word)

/-- Settlement matches no parameter and unmatches none. -/
theorem matched_afterSettlement (p : Parameter) :
    (afterSettlement converter schema words).matched p =
      (afterBinding converter schema words).matched p := by
  rw [Bool.eq_iff_iff, Collector.matched_iff, Collector.matched_iff, map_parameter_afterSettlement,
    map_parameter_afterBinding]

end

namespace LeftAlike

variable {converter : Converter} {schema : Schema} {f : Nat → Nat} {first second : List Word}

/-- Positions claim the same words at their other places, and come to the same by them. -/
theorem bindings (h : LeftAlike converter schema f first second) (face : String → String) :
    (transcript converter schema second).bindings.map (Match.account face) =
        ((transcript converter schema first).bindings.map (Match.account face)).map (·.move f) ∧
      (transcript converter schema second).claimed =
        (transcript converter schema first).claimed.map f ∧
      Collector.Interchangeable converter (afterBinding converter schema first)
        (afterBinding converter schema second) := by
  have hmove := Collector.bindEach_move face f schema.positionals
    (afterFlags converter schema first).collector.leftovers (h.interchangeable.alikeOn _)
  rw [← h.leftovers] at hmove
  obtain ⟨hmade, hclaims⟩ := hmove
  refine ⟨hmade, ?_, h.interchangeable.accepts face f (afterBinding_accepts ..)
    (afterBinding_accepts ..) hmade⟩
  · change Progress.claimed converter _ = (Progress.claimed converter _).map f
    rw [Progress.claimed_eq, Progress.claimed_eq, schema_afterFlags, schema_afterFlags, hclaims,
      h.leftovers, List.filter_map, List.map_map, List.map_map]
    simp only [Function.comp_def, Word.move, isSome_lookup_map h.injective]

/-- What is filled in and what is missing at the end is the same. -/
theorem fallbacks (h : LeftAlike converter schema f first second) (face : String → String) :
    (transcript converter schema second).fallbacks.map (Match.account face) =
        ((transcript converter schema first).fallbacks.map (Match.account face)).map (·.move f) ∧
      (transcript converter schema second).missing = (transcript converter schema first).missing := by
  have hbound := (h.bindings face).2.2
  have hsettled : Collector.Interchangeable converter (afterSettlement converter schema first)
      (afterSettlement converter schema second) := by
    refine ⟨by rw [schema_afterSettlement, schema_afterSettlement], fun p => ?_, ?_⟩
    · rw [matched_afterSettlement, matched_afterSettlement, hbound.matched]
    · have hconfused := hbound.confused
      rw [(afterBinding_eq ..).2.2.2, (afterBinding_eq ..).2.2.2] at hconfused
      rwa [(afterSettlement_eq ..).2.2.2, (afterSettlement_eq ..).2.2.2]
  have hmade := Collector.fallbacks_move face f schema.parameters (hsettled.alikeOn _)
  have hend := hsettled.accepts face f (afterFallbacks_accepts ..) (afterFallbacks_accepts ..) hmade
  refine ⟨hmade, ?_⟩
  change List.filter _ _ = List.filter _ _
  simp only [hend.matched]

/-- What is left over of alike command lines are the same texts. -/
theorem positional_eq (h : LeftAlike converter schema f first second) :
    (collect converter schema second).freeze.positional =
      (collect converter schema first).freeze.positional := by
  change (collect ..).leftovers.map Word.text = (collect ..).leftovers.map Word.text
  rw [collect_leftovers, collect_leftovers, h.leftovers, Word.map_text_map_move]

end LeftAlike

/-- What all matches of a parse come to, and the reports of undeclared flags, in order. -/
def Transcript.course (face : String → String) (t : Transcript) : List Turn.Part :=
  Turn.course face t.turns ++ (t.bindings ++ t.fallbacks).map fun m => .made (m.account face)

section

variable (converter : Converter) (schema : Schema) (words : List Word) (face : String → String)

/-- The results of a parse are read off from its course. -/
theorem collect_entries_eq_course :
    let t := transcript converter schema words
    (collect converter schema words).entries =
      (t.course face).flatMap (Turn.Part.entries t.claimed) := by
  intro t
  rw [collect_entries_eq_map_settled, Transcript.course, List.flatMap_append,
    Turn.flatMap_entries_course, Transcript.made, List.append_assoc, List.map_append,
    List.flatMap_map]
  simp only [Turn.Part.entries, Match.settled_account]
  exact congrArg _ List.map_eq_flatMap

/-- The faults of a parse are read off from its course, but for the missing parameters. -/
theorem collect_faults_eq_course :
    let t := transcript converter schema words
    (collect converter schema words).faults.map (Fault.seen face) =
      (t.course face).flatMap (Turn.Part.standing t.claimed) ++
        t.missing.map fun p => (Fault.missing p).seen face := by
  intro t
  rw [Transcript.course, List.flatMap_append, Turn.flatMap_standing_course,
    collect_faults_eq_standing, List.map_append, List.map_append, List.map_map, List.flatMap_map]
  simp only [Turn.Part.standing, Match.standing_account, List.map_flatMap]
  rfl

end

namespace LeftAlike

variable {converter : Converter} {schema : Schema} {f : Nat → Nat} {first second : List Word}
  (face : String → String)

/-- Behind the flags, two such parses take the same course. -/
theorem course_eq_append (h : LeftAlike converter schema f first second) :
    (transcript converter schema second).course face =
      Turn.course face (turns converter schema second) ++
        (((transcript converter schema first).bindings ++
          (transcript converter schema first).fallbacks).map fun m =>
            Turn.Part.made (m.account face)).map (·.move f) := by
  have hmade : ∀ {ms ns : List Match},
      ns.map (Match.account face) = (ms.map (Match.account face)).map (·.move f) →
        ns.map (fun m => Turn.Part.made (m.account face)) =
          (ms.map fun m => Turn.Part.made (m.account face)).map (·.move f) := by
    intro ms ns heq
    simpa [Function.comp_def, Turn.Part.move] using congrArg (List.map Turn.Part.made) heq
  rw [Transcript.course, List.map_append, hmade (h.bindings face).1, hmade (h.fallbacks face).1,
    List.map_append, List.map_append]
  rfl

/-- If the flags of two such parses take the same course, the parses come to the same. -/
theorem outcome_eq (h : LeftAlike converter schema f first second)
    (hcourse : Turn.course face (turns converter schema second) =
      (Turn.course face (turns converter schema first)).map (·.move f)) :
    (collect converter schema second).entries = (collect converter schema first).entries ∧
      (collect converter schema second).faults.map (Fault.seen face) =
        (collect converter schema first).faults.map (Fault.seen face) := by
  have hwhole : (transcript converter schema second).course face =
      ((transcript converter schema first).course face).map (·.move f) := by
    rw [h.course_eq_append face, hcourse]
    exact List.map_append.symm
  rw [collect_entries_eq_course _ _ second face, collect_entries_eq_course _ _ first face,
    collect_faults_eq_course, collect_faults_eq_course, (h.bindings face).2.1, (h.fallbacks face).2,
    hwhole, List.flatMap_map, List.flatMap_map]
  simp only [Turn.Part.entries_move _ h.injective, Turn.Part.standing_move _ h.injective, and_self]

/-- If the flags of two such parses take the same course in some order, the parses come to the same, in
some order. -/
theorem outcome_perm (h : LeftAlike converter schema f first second)
    (hcourse : (Turn.course face (turns converter schema second)).Perm
      ((Turn.course face (turns converter schema first)).map (·.move f))) :
    (collect converter schema second).entries.Perm (collect converter schema first).entries ∧
      ((collect converter schema second).faults.map (Fault.seen face)).Perm
        ((collect converter schema first).faults.map (Fault.seen face)) := by
  have hwhole : ((transcript converter schema second).course face).Perm
      (((transcript converter schema first).course face).map (·.move f)) := by
    rw [h.course_eq_append face]
    exact (hcourse.append_right _).trans (.of_eq List.map_append.symm)
  have hentries := hwhole.flatMap_right
    (Turn.Part.entries ((transcript converter schema first).claimed.map f))
  have hstanding := hwhole.flatMap_right
    (Turn.Part.standing ((transcript converter schema first).claimed.map f))
  rw [List.flatMap_map] at hentries hstanding
  simp only [Turn.Part.entries_move _ h.injective] at hentries
  simp only [Turn.Part.standing_move _ h.injective] at hstanding
  rw [collect_entries_eq_course _ _ second face, collect_entries_eq_course _ _ first face,
    collect_faults_eq_course, collect_faults_eq_course, (h.bindings face).2.1, (h.fallbacks face).2]
  exact ⟨hentries, hstanding.append_right _⟩

end LeftAlike

end CommandLine
