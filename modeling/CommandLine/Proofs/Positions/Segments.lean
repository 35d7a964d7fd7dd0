import CommandLine.Parameter.Declaration
import CommandLine.Proofs.Guarded
import CommandLine.Proofs.Match.Anchor
import CommandLine.Proofs.Order.Results

namespace CommandLine

/-- A stretch of leftovers with the parameter that takes it. -/
structure Segment where
  owner : Parameter
  words : List Word
  deriving DecidableEq

namespace Segment

/-- The leftovers of a segment, all claimed by its owner. -/
def leftovers (segment : Segment) : List Leftover :=
  segment.words.map fun w => ⟨w, some segment.owner⟩

/-- The claims of a segment, by the places of its words. -/
def claims (segment : Segment) : Claims :=
  segment.words.map fun w => (w.index, segment.owner)

/-- The words of segments, one segment behind the other. -/
def covered (segments : List Segment) : List Word :=
  segments.flatMap words

theorem covered_cons (segment : Segment) (rest : List Segment) :
    covered (segment :: rest) = segment.words ++ covered rest :=
  List.flatMap_cons

/-- Cuts words into segments for parameters in order. A parameter that is matched before, or that finds
no eligible word where it is its turn, gets none. -/
def cut (matched : Parameter → Bool) : List Parameter → List Word → List Segment
  | [], _ => []
  | p :: rest, words =>
    if matched p || (p.eligible words).isEmpty then cut matched rest words
    else ⟨p, p.take words⟩ :: cut matched rest (words.drop (p.take words).length)

section

variable {matched : Parameter → Bool} {p : Parameter} {ps : List Parameter} {words : List Word}

/-- A matched parameter has no segment. -/
theorem cut_of_matched (rest : List Parameter) (words : List Word) (hmatched : matched p = true) :
    cut matched (p :: rest) words = cut matched rest words :=
  if_pos (by rw [hmatched, Bool.true_or])

/-- A parameter for which no word is eligible has no segment. -/
theorem cut_of_empty (rest : List Parameter) (hempty : p.eligible words = []) :
    cut matched (p :: rest) words = cut matched rest words :=
  if_pos (by rw [hempty, List.isEmpty_nil, Bool.or_true])

/-- Any other parameter has what it takes as its segment, and the next one goes on behind it. -/
theorem cut_of_eligible (rest : List Parameter) (hnew : matched p = false)
    (heligible : p.eligible words ≠ []) :
    cut matched (p :: rest) words =
      ⟨p, p.take words⟩ :: cut matched rest (words.drop (p.take words).length) :=
  if_neg (by simpa [hnew] using heligible)

/-- Only what is matched of the parameters at hand matters. -/
theorem cut_congr {matched' : Parameter → Bool} (h : ∀ p ∈ ps, matched' p = matched p) :
    cut matched' ps words = cut matched ps words := by
  induction ps generalizing words with
  | nil => rfl
  | cons p rest ih =>
    obtain ⟨hp, hrest⟩ := List.forall_mem_cons.mp h
    unfold cut
    rw [hp, ih hrest, ih hrest]

/-- Segments cover the front of the words. -/
theorem covered_cut_prefix (matched : Parameter → Bool) (ps : List Parameter) (words : List Word) :
    covered (cut matched ps words) <+: words := by
  fun_induction cut matched ps words with
  | case1 => exact List.nil_prefix
  | case2 p rest words hpassed ih => exact ih
  | case3 p rest words hbound ih =>
    have hsplit := List.prefix_iff_eq_append.mp (p.take_prefix words)
    rw [covered_cons]
    conv_rhs => rw [← hsplit]
    exact (List.prefix_append_right_inj _).mpr ih

/-- The owners stand in the order in which the parameters take their turns. -/
theorem map_owner_cut_sublist (matched : Parameter → Bool) (ps : List Parameter)
    (words : List Word) : ((cut matched ps words).map owner).Sublist ps := by
  fun_induction cut matched ps words with
  | case1 => exact .slnil
  | case2 p rest words hpassed ih => exact ih.cons _
  | case3 p rest words hbound ih => exact ih.cons_cons _

/-- Only parameters that are not matched own segments. -/
theorem matched_owner_of_mem_cut {segment : Segment} (hsegment : segment ∈ cut matched ps words) :
    matched segment.owner = false := by
  fun_induction cut matched ps words with
  | case1 => cases hsegment
  | case2 p rest words hpassed ih => exact ih hsegment
  | case3 p rest words hbound ih =>
    obtain rfl | hsegment := List.mem_cons.mp hsegment
    · exact Bool.eq_false_iff.mpr fun hmatched => hbound (by rw [hmatched, Bool.true_or])
    · exact ih hsegment

/-- A segment is what its owner takes of the words behind the segments before it, where it finds an
eligible word. -/
theorem words_of_split {before after : List Segment} {segment : Segment}
    (hsplit : cut matched ps words = before ++ segment :: after) :
    segment.owner.eligible (words.drop (covered before).length) ≠ [] ∧
      segment.words = segment.owner.take (words.drop (covered before).length) := by
  fun_induction cut matched ps words generalizing before with
  | case1 => simp at hsplit
  | case2 p rest words hpassed ih => exact ih hsplit
  | case3 p rest words hbound ih =>
    cases before with
    | nil =>
      obtain ⟨rfl, _⟩ := List.cons_eq_cons.mp hsplit
      refine ⟨fun hempty => hbound ?_, rfl⟩
      rw [show p.eligible words = [] from hempty, List.isEmpty_nil, Bool.or_true]
    | cons first others =>
      obtain ⟨rfl, hothers⟩ := List.cons_eq_cons.mp hsplit
      rw [covered_cons, List.length_append, ← List.drop_drop]
      exact ih hothers

/-- A parameter that is passed over though it is not matched before finds no eligible word behind the
segments of those before it. -/
theorem exists_split_of_passed (hps : ps.Pairwise Parameter.PlacedBefore) (hp : p ∈ ps)
    (hnew : matched p = false) (hpassed : p ∉ (cut matched ps words).map owner) :
    ∃ before after, cut matched ps words = before ++ after ∧
      (∀ segment ∈ before, segment.owner.PlacedBefore p) ∧
      (∀ segment ∈ after, p.PlacedBefore segment.owner) ∧
      p.eligible (words.drop (covered before).length) = [] := by
  induction ps generalizing words with
  | nil => cases hp
  | cons q rest ih =>
    obtain ⟨hbehind, hrest⟩ := List.pairwise_cons.mp hps
    obtain rfl | hp := List.mem_cons.mp hp
    · -- It is its turn: had it found an eligible word, it would own the first segment.
      have hempty : p.eligible words = [] := by
        by_contra heligible
        rw [cut_of_eligible rest hnew heligible] at hpassed
        exact hpassed List.mem_cons_self
      refine ⟨[], cut matched rest words, cut_of_empty rest hempty, by simp, ?_, hempty⟩
      intro segment hsegment
      exact hbehind _ ((map_owner_cut_sublist ..).subset (List.mem_map_of_mem hsegment))
    · unfold cut at hpassed ⊢
      split at hpassed
      · next hq =>
        rw [if_pos hq]
        exact ih hrest hp hpassed
      · next hq =>
        rw [if_neg hq]
        obtain ⟨before, after, hsplit, hbefore, hafter, hempty⟩ :=
          ih hrest hp fun hmem => hpassed (List.mem_cons_of_mem _ hmem)
        refine ⟨⟨q, q.take words⟩ :: before, after, by rw [hsplit, List.cons_append], ?_, hafter, ?_⟩
        · exact List.forall_mem_cons.mpr ⟨hbehind p hp, hbefore⟩
        · rwa [covered_cons, List.length_append, ← List.drop_drop]

end

/-- The claim of a word of a segment leads to the owner. -/
theorem lookup_claims_of_mem {segment : Segment} {w : Word} (hw : w ∈ segment.words) :
    segment.claims.lookup w.index = some segment.owner := by
  have hclaim : (w.index, segment.owner) ∈ segment.claims := List.mem_map.mpr ⟨w, hw, rfl⟩
  obtain ⟨p, hp⟩ := Option.isSome_iff_exists.mp
    (List.lookup_isSome_iff.mpr ⟨_, hclaim, beq_self_eq_true w.index⟩)
  obtain ⟨before, after, hsplit, _⟩ := List.lookup_eq_some_iff.mp hp
  obtain ⟨v, _, heq⟩ := List.mem_map.mp (hsplit ▸ List.mem_append_right before List.mem_cons_self)
  rw [hp, ← (Prod.mk.inj heq).2]

/-- A word outside of all segments is claimed by none. -/
theorem lookup_claims_eq_none {segments : List Segment} {i : Nat}
    (hi : i ∉ (covered segments).map Word.index) :
    (segments.reverse.flatMap claims).lookup i = none := by
  refine List.lookup_eq_none_iff.mpr fun claim hclaim => ?_
  obtain ⟨segment, hsegment, hclaim⟩ := List.mem_flatMap.mp hclaim
  obtain ⟨w, hw, rfl⟩ := List.mem_map.mp hclaim
  refine bne_iff_ne.mpr fun heq => hi (heq ▸ List.mem_map_of_mem ?_)
  exact List.mem_flatMap.mpr ⟨segment, List.mem_reverse.mp hsegment, hw⟩

/-- Looking up the claims of segments at the places of their words and of those behind them finds the owners
for the ones and nobody for the others, if no two words share a place. -/
theorem map_lookup_claims {segments : List Segment} {rest : List Word}
    (hnodup : ((covered segments ++ rest).map Word.index).Nodup) :
    (covered segments ++ rest).map
        (fun w => (⟨w, (segments.reverse.flatMap claims).lookup w.index⟩ : Leftover)) =
      segments.flatMap leftovers ++ rest.map fun w => ⟨w, none⟩ := by
  induction segments with
  | nil => rfl
  | cons segment others ih =>
    rw [covered_cons, List.append_assoc] at hnodup ⊢
    rw [List.map_append, List.nodup_append'] at hnodup
    obtain ⟨_, hbehind, hdisjoint⟩ := hnodup
    have hclaims : (segment :: others).reverse.flatMap claims =
        others.reverse.flatMap claims ++ segment.claims := by
      simp
    rw [hclaims, List.map_append, List.flatMap_cons, List.append_assoc, ← ih hbehind]
    congr 1
    · refine List.map_congr_left fun w hw => ?_
      have hnone : (others.reverse.flatMap claims).lookup w.index = none := by
        refine lookup_claims_eq_none fun hmem => hdisjoint (List.mem_map_of_mem hw) ?_
        rw [List.map_append]
        exact List.mem_append_left _ hmem
      rw [List.lookup_append, hnone, lookup_claims_of_mem hw, Option.none_or]
    · refine List.map_congr_left fun w hw => ?_
      have hnone : segment.claims.lookup w.index = none := by
        have halone : ([segment].reverse.flatMap claims).lookup w.index = none := by
          refine lookup_claims_eq_none fun hmem => ?_
          rw [covered_cons, covered, List.flatMap_nil, List.append_nil] at hmem
          exact hdisjoint hmem (List.mem_map_of_mem hw)
        simpa using halone
      rw [List.lookup_append, hnone, Option.or_none]

end Segment

/-- The stretch of words that a match takes. -/
def Match.segment (m : Match) : Segment :=
  ⟨m.parameter, m.taken⟩

theorem Schema.nodup_positionals (s : Schema) : s.positionals.Nodup :=
  (List.mergeSort_perm ..).nodup_iff.mpr (s.nodup_parameters.filter _)

namespace Collector

/-- Binding positions cuts the words at hand into the segments of the matches, and claims these. -/
theorem bindEach_cut (converter : Converter) {ps : List Parameter} (hnodup : ps.Nodup)
    (words : List Word) (c : Collector) :
    (c.bindings converter ps words).map Match.segment = Segment.cut c.matched ps words ∧
      (c.bindEach converter ps words).2 =
        (Segment.cut c.matched ps words).reverse.flatMap Segment.claims := by
  induction ps generalizing words c with
  | nil => exact ⟨rfl, rfl⟩
  | cons p rest ih =>
    obtain ⟨hp, hrest⟩ := List.nodup_cons.mp hnodup
    cases hmatched : c.matched p with
    | true =>
      obtain ⟨hbind, hbindings⟩ := bindEach_of_matched converter rest words hmatched
      rw [hbind, hbindings, Segment.cut_of_matched rest words hmatched]
      exact ih hrest words _
    | false =>
      by_cases hempty : p.eligible words = []
      · obtain ⟨hbind, hbindings⟩ := bindEach_of_empty converter rest hmatched hempty
        rw [hbind, hbindings, Segment.cut_of_empty rest hempty]
        exact ih hrest words _
      · obtain ⟨anchor, behind, rfl⟩ := exists_cons_of_eligible hempty
        obtain ⟨hbind, hbindings⟩ := bindEach_of_eligible converter rest hmatched hempty
        let m := Match.ofRun converter p anchor (anchor :: behind) true c.requests c.issued
        let later := (c.extend m.trail).enter p m.resolution.value
        have hlater : ∀ q ∈ rest, later.matched q = c.matched q := by
          intro q hq
          have hne : q ≠ p := fun heq => hp (heq ▸ hq)
          rw [matched_enter_of_ne hne, matched_extend]
        obtain ⟨hsegments, hclaims⟩ :=
          ih hrest ((anchor :: behind).drop (p.take (anchor :: behind)).length) later
        rw [Segment.cut_congr hlater] at hsegments hclaims
        rw [hbind, hbindings, Segment.cut_of_eligible rest hmatched hempty, Match.taken_ofRun]
        constructor
        · rw [List.map_cons, hsegments, Match.segment, Match.parameter_ofRun, Match.taken_ofRun]
        · change (later.bindEach converter rest _).2 ++ _ = _
          rw [hclaims, List.reverse_cons, List.flatMap_append, List.flatMap_singleton]
          rfl

/-- The segments that the positions of a collector cut its leftovers into. -/
def segments (c : Collector) : List Segment :=
  Segment.cut c.matched c.schema.positionals c.leftovers

/-- What binding the positions of a collector comes to: `segments` are the stretches of its leftovers that
positions claim. -/
structure Segmented (converter : Converter) (c : Collector) (segments : List Segment) : Prop where
  /-- Nothing stops the positions from being bound. -/
  unstopped : Guarded.bind converter c = .ok (c.bind converter)
  /-- Every leftover is told once, in its place. -/
  told : (c.bind converter).2.map Leftover.word = c.leftovers
  /-- The claimed ones are the front: segment after segment, each claimed by its owner, and then those
  that nobody claims. -/
  front : ∃ rest : List Word, (c.bind converter).2 =
    segments.flatMap Segment.leftovers ++ rest.map fun w => ⟨w, none⟩
  increasing : (segments.map Segment.owner).Pairwise Parameter.PlacedBefore
  new : ∀ segment ∈ segments,
    segment.owner ∈ c.schema.parameters ∧ c.matched segment.owner = false
  /-- A segment holds the eligible words from where it begins, up to the maximum of its owner. -/
  longest : ∀ before segment after, segments = before ++ segment :: after →
    let eligible := segment.owner.eligible (c.leftovers.drop (Segment.covered before).length)
    eligible ≠ [] ∧ segment.words = segment.owner.window.cut eligible
  /-- A position that is left without a match found no eligible word behind the segments of the positions
  before it. -/
  passed : ∀ p ∈ c.schema.positionals, (c.bind converter).1.matched p = false →
    ∃ before after, segments = before ++ after ∧
      (∀ segment ∈ before, segment.owner.PlacedBefore p) ∧
      (∀ segment ∈ after, p.PlacedBefore segment.owner) ∧
      p.eligible (c.leftovers.drop (Segment.covered before).length) = []
  leftovers : (c.bind converter).1.leftovers = c.leftovers
  /-- The entries before stay as they are, and each owner is entered behind them. -/
  entries : ∃ added, (c.bind converter).1.entries = c.entries ++ added ∧
    added.map Entry.parameter = segments.map Segment.owner
  recorded : ∃ added, (c.bind converter).1.recorded = c.recorded ++ added ∧
    ∀ r ∈ added, r.fault.kind = .notEnough ∨ r.fault.kind = .conversion

/-- Who claimed which leftover: the front goes to the owners of the segments. -/
theorem snd_bind (converter : Converter) {c : Collector}
    (hplaces : (c.leftovers.map Word.index).Nodup) :
    ∃ rest : List Word, (c.bind converter).2 =
      c.segments.flatMap Segment.leftovers ++ rest.map fun w => ⟨w, none⟩ := by
  obtain ⟨rest, hrest⟩ : Segment.covered c.segments <+: c.leftovers := Segment.covered_cut_prefix ..
  have hclaims := (bindEach_cut converter c.schema.nodup_positionals c.leftovers c).2
  refine ⟨rest, ?_⟩
  rw [← hrest] at hplaces
  rw [← Segment.map_lookup_claims hplaces, hrest]
  change c.leftovers.map _ = _
  rw [hclaims]
  rfl

/-- The positions that are bound are the owners of the segments. -/
theorem map_parameter_bindings (converter : Converter) (c : Collector) :
    (c.bindings converter c.schema.positionals c.leftovers).map Match.parameter =
      c.segments.map Segment.owner := by
  have hsegments := (bindEach_cut converter c.schema.nodup_positionals c.leftovers c).1
  rw [segments, ← hsegments, List.map_map]
  rfl

/-- Positions claim the front of the leftovers, each as much as it may. -/
theorem bind_segmented (converter : Converter) {c : Collector}
    (hplaces : (c.leftovers.map Word.index).Nodup) : c.Segmented converter c.segments := by
  have hparameters := c.map_parameter_bindings converter
  have hincreasing : (c.segments.map Segment.owner).Pairwise Parameter.PlacedBefore :=
    c.schema.pairwise_positionals.sublist (Segment.map_owner_cut_sublist ..)
  obtain ⟨journal, hbound⟩ : ∃ journal, (c.bind converter).1 = c.accept _ journal :=
    (bindEach_accepts converter c.schema.positionals c.leftovers c).eq
  have hadded : ((c.bindings converter c.schema.positionals c.leftovers).map Match.entry).map
      Entry.parameter = c.segments.map Segment.owner := by
    rw [← hparameters, List.map_map]
    rfl
  constructor
  case unstopped =>
    unfold Guarded.bind
    rw [Guarded.bindEach_eq]
    rfl
  case told => simp [bind, Function.comp_def]
  case front => exact snd_bind converter hplaces
  case increasing => exact hincreasing
  case new =>
    intro segment hsegment
    have howner := (Segment.map_owner_cut_sublist ..).subset (List.mem_map_of_mem hsegment)
    exact ⟨(c.schema.mem_positionals_iff.mp howner).1, Segment.matched_owner_of_mem_cut hsegment⟩
  case longest => exact fun before segment after hsplit => Segment.words_of_split hsplit
  case passed =>
    intro p hp hleft
    rw [matched_eq_false_iff, hbound, accept, List.map_append, hadded, List.mem_append, not_or] at hleft
    obtain ⟨hnew, hpassed⟩ := hleft
    exact Segment.exists_split_of_passed c.schema.pairwise_positionals hp
      (matched_eq_false_iff.mpr hnew) hpassed
  case leftovers =>
    rw [hbound]
    rfl
  case entries => exact ⟨_, by rw [hbound]; rfl, hadded⟩
  case recorded =>
    refine ⟨_, by rw [hbound]; rfl, fun r hr => ?_⟩
    obtain ⟨m, hm, hr⟩ := List.mem_flatMap.mp hr
    obtain ⟨_, anchor, behind, _, hmatch⟩ := mem_bindings hm
    have hpending : m.resolution.pending = none := by
      rw [hmatch]
      exact Match.pending_ofRun_of_positional ..
    have hcoherent : m.Coherent := by
      rw [hmatch]
      exact Match.coherent_ofRun ..
    exact hcoherent.kind_of_pending_eq_none hpending hr

end Collector

/-- A parameter that has a position and no name. -/
def slot (position : Nat) (type : Descriptor) (arity : Option Arity) : Parameter where
  key := position
  longs := []
  shorts := []
  type := type
  required := false
  fallback := none
  position := some position
  arity := arity
  description := none
  longs_valid := NameSet.empty.longs_valid
  shorts_valid := NameSet.empty.shorts_valid
  longs_nodup := List.nodup_nil
  shorts_nodup := List.nodup_nil
  named_or_placed := .inr (.inr (Option.some_ne_none position))

theorem compatible_slot {m n : Nat} {type type' : Descriptor} {arity arity' : Option Arity}
    (hne : m ≠ n) : (slot m type arity).Compatible (slot n type' arity') := by
  refine ⟨fun heq => hne (congrArg Parameter.key heq), by simp [slot], by simp [slot], ?_⟩
  simpa [slot] using hne.symm

/-- One word or two. -/
def upToTwo : Arity :=
  ⟨1, some 2, by simp⟩

/-- A slot that is matched before, one for a boolean, one for two words at most, and one for the rest. -/
def fourSlots : Schema where
  parameters := [slot 0 (.list .raw) none, slot 1 (.scalar (.known .boolean)) none,
    slot 2 (.list .raw) (some upToTwo), slot 3 (.list .raw) none]
  compatible := by simp [compatible_slot]

theorem positionals_fourSlots : fourSlots.positionals = fourSlots.parameters :=
  List.mergeSort_of_pairwise (by simp [fourSlots, slot])

/-- The first slot is matched before and the second one finds no boolean, so the third one takes two words
and the fourth one the last. -/
theorem Collector.bind_fourSlots :
    let c : Collector :=
      { new fourSlots with
        entries := [⟨slot 0 (.list .raw) none, .none⟩]
        leftovers := [⟨"a", 2⟩, ⟨"b", 5⟩, ⟨"c", 7⟩] }
    (c.leftovers.map Word.index).Nodup ∧
      c.Segmented .standard
        [⟨slot 2 (.list .raw) (some upToTwo), [⟨"a", 2⟩, ⟨"b", 5⟩]⟩,
          ⟨slot 3 (.list .raw) none, [⟨"c", 7⟩]⟩] := by
  intro c
  have hplaces : (c.leftovers.map Word.index).Nodup := by decide
  have hsegments : c.segments =
      [⟨slot 2 (.list .raw) (some upToTwo), [⟨"a", 2⟩, ⟨"b", 5⟩]⟩,
        ⟨slot 3 (.list .raw) none, [⟨"c", 7⟩]⟩] := by
    rw [Collector.segments, show c.schema = fourSlots from rfl, positionals_fourSlots]
    decide +kernel
  exact ⟨hplaces, hsegments ▸ bind_segmented .standard hplaces⟩

end CommandLine
