import CommandLine.Proofs.Accounting
import CommandLine.Proofs.Labels
import CommandLine.Proofs.Order.Faults
import CommandLine.Proofs.Overflow
import CommandLine.Proofs.Suggestion
import Mathlib.Tactic.NormNum

namespace CommandLine

open Text

/-- How similar a candidate is to what was typed: twice the matched characters, of all characters of both. -/
def similarity (typed candidate : String) : ℚ :=
  let eligible (c : Char) := !(Similarity.frequentChars typed.toList).contains c
  2 * Similarity.matched eligible candidate.toList typed.toList / (candidate.length + typed.length)

/-- Similarity is the share of matched characters. -/
theorem similarity_eq (typed candidate : String) :
    similarity typed candidate = (ScoredCandidate.of typed candidate).ratio.matched /
      (ScoredCandidate.of typed candidate).ratio.total := by
  simp [similarity, ScoredCandidate.of, Similarity.ratio, ← String.length_toList]

/-- Candidates are ranked by similarity, then by their texts. -/
theorem ScoredCandidate.rank_of (typed candidate : String) :
    (of typed candidate).rank = toLex (similarity typed candidate, candidate) := by
  rw [rank, similarity_eq]
  rfl

theorem Similarity.Ratio.isClose_iff {r : Ratio} (hpos : 0 < r.total) :
    r.isClose = true ↔ 3 / 5 ≤ (r.matched : ℚ) / r.total := by
  rw [isClose, decide_eq_true_iff, div_le_div_iff₀ (by norm_num) (Nat.cast_pos.mpr hpos),
    Nat.mul_comm 5]
  norm_cast

/-- A ranking of candidates: those that are similar enough to what was typed, in descending order of
similarity and text. -/
structure Ranking (typed : String) (candidates ranked : List String) : Prop where
  close : ranked.Perm (candidates.filter fun candidate => 3 / 5 ≤ similarity typed candidate)
  descending : ranked.Pairwise fun a b =>
    toLex (similarity typed b, b) < toLex (similarity typed a, a)

namespace Ranking

variable {typed : String} {candidates ranked others : List String}

theorem mem_iff (h : Ranking typed candidates ranked) {s : String} :
    s ∈ ranked ↔ s ∈ candidates ∧ 3 / 5 ≤ similarity typed s := by
  simp [h.close.mem_iff]

theorem nodup (h : Ranking typed candidates ranked) : ranked.Nodup := by
  refine h.descending.imp fun hlt heq => ?_
  rw [heq] at hlt
  exact lt_irrefl _ hlt

/-- Candidates can be ranked in one way only. -/
theorem eq (h : Ranking typed candidates ranked) (h' : Ranking typed candidates others) :
    ranked = others :=
  List.Perm.eq_of_pairwise (fun _ _ _ _ hab hba => absurd hab hba.asymm) h.descending h'.descending
    (h.close.trans h'.close.symm)

end Ranking

/-- Sorting the candidates that are similar enough ranks them. -/
theorem ranking_mergeSort (typed : String) {candidates : List String}
    (hne : ∀ candidate ∈ candidates, candidate ≠ "") (hnodup : candidates.Nodup) :
    Ranking typed candidates
      ((((candidates.map (ScoredCandidate.of typed)).filter (·.ratio.isClose)).mergeSort
        ScoredCandidate.precedes).map ScoredCandidate.text) := by
  generalize hclose : (candidates.map (ScoredCandidate.of typed)).filter (·.ratio.isClose) = scored
  have hscored : ∀ c ∈ scored, 0 < c.ratio.total ∧ c = .of typed c.text := by
    intro c hc
    rw [← hclose] at hc
    exact ScoredCandidate.of_mem_scored hne hc
  have hperm : ((scored.mergeSort ScoredCandidate.precedes).map ScoredCandidate.text).Perm
      (candidates.filter fun candidate => 3 / 5 ≤ similarity typed candidate) := by
    have htexts : scored.map ScoredCandidate.text =
        candidates.filter fun candidate => 3 / 5 ≤ similarity typed candidate := by
      rw [← hclose, List.filter_map, List.map_map,
        show ScoredCandidate.text ∘ ScoredCandidate.of typed = id from rfl, List.map_id]
      apply List.filter_congr
      intro candidate hcandidate
      have hpos := ScoredCandidate.total_of_pos typed (hne candidate hcandidate)
      rw [Bool.eq_iff_iff, decide_eq_true_iff, similarity_eq]
      exact Similarity.Ratio.isClose_iff hpos
    rw [← htexts]
    exact (List.mergeSort_perm ..).map _
  constructor
  case close => exact hperm
  case descending =>
    have hdistinct := List.pairwise_map.mp (hperm.nodup_iff.mpr (hnodup.filter _))
    have hsorted := pairwise_rank_mergeSort fun c hc => (hscored c hc).1
    rw [List.pairwise_map]
    refine (hsorted.and hdistinct).imp_of_mem fun {a b} ha hb hpair => ?_
    have hrank : ∀ c ∈ scored, c.rank = toLex (similarity typed c.text, c.text) := by
      intro c hc
      conv_lhs => rw [(hscored c hc).2, ScoredCandidate.rank_of]
    rw [← hrank a (List.mem_mergeSort.mp ha), ← hrank b (List.mem_mergeSort.mp hb)]
    exact lt_of_le_of_ne hpair.1 fun heq => hpair.2 (ScoredCandidate.text_eq_of_rank_eq heq.symm)

namespace Schema

variable {s : Schema} {spelling : String}

/-- No long spelling is declared twice. -/
theorem nodup_longSpellings (s : Schema) : s.longSpellings.Nodup := by
  rw [longSpellings, List.nodup_flatMap]
  constructor
  · intro p _
    exact p.longs_nodup.map fun name other heq => (String.append_right_inj _).mp heq
  · refine s.compatible.imp fun {p q} hcompatible => ?_
    intro spelling hp hq
    obtain ⟨name, hname, rfl⟩ := List.mem_map.mp hp
    obtain ⟨other, hother, heq⟩ := List.mem_map.mp hq
    obtain rfl := (String.append_right_inj _).mp heq
    exact hcompatible.2.1 _ hname hother

/-- A long spelling is the flag of the parameter that declares it. -/
theorem exists_read_of_mem_longSpellings (h : spelling ∈ s.longSpellings) :
    ∃ p ∈ s.parameters, s.read spelling = .long p := by
  obtain ⟨p, hp, name, hname, rfl⟩ := mem_longSpellings.mp h
  exact ⟨p, hp, read_long hp hname⟩

theorem isSpelling_of_mem_longSpellings (h : spelling ∈ s.longSpellings) :
    ∀ c ∈ spelling.toList, isSpelling c = true := by
  obtain ⟨p, _, name, hname, rfl⟩ := mem_longSpellings.mp h
  have hvalid : (Spelling.long name).Valid := p.longs_valid name hname
  exact Spelling.isSpelling_of_mem_text hvalid

/-- The suggestions for a word are the best of the ranking of all long spellings. -/
theorem ranking_longSpellings (s : Schema) (typed : String) :
    ∃ ranked, Ranking typed s.longSpellings ranked ∧
      suggestions typed s.longSpellings = ranked.take suggestionLimit :=
  ⟨_, ranking_mergeSort typed (fun _ => ne_empty_of_mem_longSpellings) s.nodup_longSpellings,
    List.map_take⟩

end Schema

namespace Fault

variable {w : Word} {suggested : List String}

theorem hint_unrecognised_nil :
    (unrecognised w []).hint = "remove it or declare the option in the command schema" := rfl

theorem hint_unrecognised_cons (best : String) (rest : List String) :
    (unrecognised w (best :: rest)).hint =
      "did you mean " ++ quoted best ++ "? otherwise remove it or declare the option" := rfl

/-- The hint of an undeclared flag offers the first suggestion, as it is typed. -/
theorem hint_eq_iff_head? (hplain : ∀ s ∈ suggested, ∀ c ∈ s.toList, isSpelling c = true)
    (s : String) :
    (unrecognised w suggested).hint =
        "did you mean '" ++ s ++ "'? otherwise remove it or declare the option" ↔
      suggested.head? = some s := by
  cases suggested with
  | nil =>
    refine iff_of_false (fun heq => ?_) nofun
    rw [hint_unrecognised_nil] at heq
    have hhead := congrArg (fun text => text.toList.head?) heq
    simp at hhead
  | cons best rest =>
    have hquoted := toList_quoted_of_isSpelling (hplain best List.mem_cons_self)
    have hopen : "did you mean '".toList = "did you mean ".toList ++ ['\''] := by decide
    have hclose : "'? otherwise remove it or declare the option".toList =
        '\'' :: "? otherwise remove it or declare the option".toList := by decide
    rw [hint_unrecognised_cons, ← String.toList_inj]
    simp only [String.toList_append, hquoted, hopen, hclose, List.append_assoc, List.cons_append,
      List.nil_append, List.append_cancel_left_eq, List.cons.injEq, true_and, List.head?_cons,
      List.append_cancel_right_eq, String.toList_inj, Option.some_inj]

/-- Without a suggestion the hint does without an offer. -/
theorem hint_eq_iff_nil :
    (unrecognised w suggested).hint = "remove it or declare the option in the command schema" ↔
      suggested = [] := by
  cases suggested with
  | nil => exact iff_of_true rfl rfl
  | cons best rest =>
    refine iff_of_false (fun heq => ?_) nofun
    rw [hint_unrecognised_cons] at heq
    have hhead := congrArg (fun text => text.toList.head?) heq
    simp at hhead

end Fault

/-- What the fault of an undeclared flag suggests to type in its place. -/
structure Fault.Suggests (fault : Fault) (schema : Schema) (texts : List String) (i : Nat)
    (typed : String) (suggested : List String) : Prop where
  told : fault.token? = some typed ∧ fault.suggestions? = some suggested
  distinct : suggested.Nodup
  few : suggested.length ≤ 5
  /-- It is never what was typed already. -/
  other : typed ∉ suggested
  /-- Typed in place of the undeclared flag, each suggestion is a declared long flag. -/
  usable : ∀ s ∈ suggested, ∃ p ∈ schema.parameters,
    schema.classify (texts.set i s) i = some (⟨s, i⟩, .long p)
  /-- The declared long spellings can be ranked in one way. -/
  ranked : ∃! ranked, Ranking typed schema.longSpellings ranked
  /-- The first five of the ranking are suggested. -/
  first : ∀ ranked, Ranking typed schema.longSpellings ranked → suggested = ranked.take 5
  /-- The hint offers the first suggestion, and makes no offer if there is none. -/
  offered : ∀ s, fault.hint = "did you mean '" ++ s ++ "'? otherwise remove it or declare the option" ↔
    suggested.head? = some s
  silent : fault.hint = "remove it or declare the option in the command schema" ↔ suggested = []

/-- The report of an undeclared flag suggests what the ranking tells. -/
theorem Schema.unrecognisedFault_suggests {schema : Schema} {texts : List String} {i : Nat}
    (hi : i < texts.length) (hread : schema.read texts[i] = .unrecognised) :
    (schema.unrecognisedFault ⟨texts[i], i⟩).Suggests schema texts i texts[i]
      (suggestions texts[i] schema.longSpellings) := by
  obtain ⟨ranked, hranking, hfirst⟩ := schema.ranking_longSpellings texts[i]
  have hdeclared : ∀ s ∈ suggestions texts[i] schema.longSpellings, s ∈ schema.longSpellings := by
    intro s hs
    rw [hfirst] at hs
    exact (hranking.mem_iff.mp (List.mem_of_mem_take hs)).1
  constructor
  case told => exact ⟨rfl, rfl⟩
  case distinct =>
    rw [hfirst]
    exact hranking.nodup.take
  case few =>
    rw [hfirst]
    exact List.length_take_le ..
  case other =>
    intro hmem
    obtain ⟨p, _, hlong⟩ := exists_read_of_mem_longSpellings (hdeclared _ hmem)
    rw [hread] at hlong
    cases hlong
  case usable =>
    intro s hs
    obtain ⟨p, hp, hlong⟩ := exists_read_of_mem_longSpellings (hdeclared s hs)
    refine ⟨p, hp, ?_⟩
    rw [classify_eq, List.getElem?_set_self hi, Option.map_some, hlong]
  case ranked => exact ⟨ranked, hranking, fun others hothers => hothers.eq hranking⟩
  case first =>
    intro others hothers
    rw [hothers.eq hranking]
    exact hfirst
  case offered =>
    exact Fault.hint_eq_iff_head? fun s hs => isSpelling_of_mem_longSpellings (hdeclared s hs)
  case silent => exact Fault.hint_eq_iff_nil

/-- Each undeclared flag has one fault at its place, with usable suggestions in the order of their rank. -/
theorem parse_suggests (converter : Converter) {schema : Schema} {texts : List String} {i : Nat}
    (hi : i < texts.length) (hread : schema.read texts[i] = .unrecognised) :
    ∃ fault suggested, (parse converter schema texts).faults.filter
        (fun fault => fault.kind = .unrecognised ∧ fault.place? = some (i + 1)) = [fault] ∧
      fault.Suggests schema texts i texts[i] suggested := by
  refine ⟨_, _, ?_, schema.unrecognisedFault_suggests hi hread⟩
  have hword : ⟨texts[i], i⟩ ∈ (Word.ofTexts 0 texts).filter (schema.read ·.text = .unrecognised) :=
    List.mem_filter.mpr ⟨Word.getElem_mem_ofTexts hi, decide_eq_true hread⟩
  have hplaces : (((Word.ofTexts 0 texts).filter (schema.read ·.text = .unrecognised)).map
      Word.index).Nodup := by
    rw [List.nodup_iff_pairwise_ne, List.pairwise_map]
    exact ((Word.pairwise_ofTexts texts).filter _).imp Nat.ne_of_lt
  have hplace : ∀ w : Word, (schema.unrecognisedFault w).place? = some (i + 1) ↔ w.index = i := by
    simp [Schema.unrecognisedFault, Fault.place?, Fault.anchor?, Word.place]
  calc (collect converter schema (Word.ofTexts 0 texts)).faults.filter
        (fun fault => fault.kind = .unrecognised ∧ fault.place? = some (i + 1))
      = ((collect converter schema (Word.ofTexts 0 texts)).faults.filter
          (·.kind = .unrecognised)).filter (·.place? = some (i + 1)) := by
        simp only [List.filter_filter, Bool.decide_and, Bool.and_comm]
    _ = (((Word.ofTexts 0 texts).filter (schema.read ·.text = .unrecognised)).filter
          (·.index = i)).map schema.unrecognisedFault := by
        rw [filter_unrecognised, List.filter_map]
        simp only [Function.comp_def, hplace]
    _ = [schema.unrecognisedFault ⟨texts[i], i⟩] :=
        congrArg (List.map _) (filter_eq_singleton hplaces hword)

/-- A flag that is mistyped by one character is told the declared one. -/
theorem parse_suggests_name :
    let schema : Schema := ⟨[oneWordFlag], List.pairwise_singleton _ _⟩
    schema.read "--nam" = .unrecognised ∧
      ∃ fault suggested, (parse .standard schema ["--nam"]).faults.filter
          (fun fault => fault.kind = .unrecognised ∧ fault.place? = some 1) = [fault] ∧
        fault.Suggests schema ["--nam"] 0 "--nam" suggested ∧ suggested = ["--name"] := by
  intro schema
  have hread : schema.read ["--nam"][0] = .unrecognised := by decide +kernel
  obtain ⟨fault, suggested, hfault, hsuggests⟩ := parse_suggests .standard Nat.zero_lt_one hread
  have hreported : (parse .standard schema ["--nam"]).faults =
      [.unrecognised ⟨"--nam", 0⟩ ["--name"]] := by
    decide +kernel
  have hmem : fault ∈ (parse .standard schema ["--nam"]).faults :=
    (List.mem_filter.mp (hfault ▸ List.mem_singleton_self fault)).1
  rw [hreported, List.mem_singleton] at hmem
  have htold := hsuggests.told.2
  rw [hmem] at htold
  exact ⟨hread, fault, suggested, hfault, hsuggests, (Option.some_inj.mp htold).symm⟩

end CommandLine
