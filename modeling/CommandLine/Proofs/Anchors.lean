import CommandLine.Proofs.Accounting
import CommandLine.Proofs.Order.Faults

namespace CommandLine

namespace Parameter

/-- The bounds of a window are in order. -/
theorem window_ordered (p : Parameter) {bound : Nat} (hbound : p.window.maximum = some bound) :
    p.window.minimum ≤ bound := by
  unfold window at hbound ⊢
  cases harity : p.arity with
  | none => exact Nat.zero_le _
  | some arity =>
    rw [harity] at hbound
    exact arity.ordered bound hbound

/-- Whoever finds a word and still has too few takes some. -/
theorem take_ne_nil_of_short {p : Parameter} {run : List Word} (heligible : p.eligible run ≠ [])
    (hshort : (p.take run).length < p.window.minimum) : p.take run ≠ [] := by
  unfold take Window.cut at hshort ⊢
  cases hbound : p.window.maximum with
  | none => exact heligible
  | some bound =>
    have hle := p.window_ordered hbound
    rw [hbound] at hshort
    have hpos := List.length_pos_iff.mpr heligible
    rw [List.length_take] at hshort
    rw [← List.length_pos_iff, List.length_take]
    omega

/-- What is taken and what is too much stand at the front of the run. -/
theorem take_append_surplusOf_prefix (p : Parameter) (run : List Word) (positional : Bool) :
    p.take run ++ Collector.surplusOf p run positional <+: run := by
  unfold Collector.surplusOf
  split
  · have htake : p.take run <+: p.eligible run := p.window.cut_prefix _
    rw [List.prefix_iff_eq_append.mp htake]
    exact p.eligible_prefix run
  · rw [List.append_nil]
    exact p.take_prefix run

end Parameter

namespace Fault

/-- Whether a fault tells the truth about a command line: if it has a place, that is one of the command
line, counted from one, and the token of the fault is the text there. -/
def Truthful (texts : List String) (fault : Fault) : Prop :=
  ∀ i, fault.place? = some i → 1 ≤ i ∧ i ≤ texts.length ∧ fault.token? = texts[i - 1]?

variable {texts : List String} {fault : Fault}

theorem truthful_of_anchor?_eq_none (h : fault.anchor? = none) : fault.Truthful texts := by
  intro i hi
  rw [place?, h] at hi
  cases hi

theorem truthful_of_mem_words {w : Word} (hw : w ∈ Word.ofTexts 0 texts)
    (h : fault.anchor? = some w) : fault.Truthful texts := by
  obtain ⟨i, hi, rfl⟩ := List.getElem_of_mem hw
  intro place hplace
  rw [place?, h, Option.map_some, Option.some_inj, Word.place, Word.index_getElem_ofTexts] at hplace
  rw [Word.length_ofTexts] at hi
  subst hplace
  refine ⟨Nat.le_add_left .., hi, ?_⟩
  rw [token?, h, Nat.add_sub_cancel, List.getElem?_eq_getElem hi]
  simp [Word.ofTexts]

/-- The report of an undeclared flag has no tokens. -/
theorem tokens_eq_nil (hkind : fault.kind = .unrecognised) : fault.tokens = [] := by
  cases fault with
  | unrecognised => rfl
  | _ => cases hkind

/-- Too few words and too many are words at the front of the run. -/
theorem OfRun.prefix_tokens {p : Parameter} {anchor : Word} {run : List Word} {positional : Bool}
    (h : fault.OfRun p anchor run positional) (hkind : fault.kind ≠ .conversion) :
    fault.tokens <+: run.map Word.text := by
  cases h with
  | short => exact (p.take_prefix run).map Word.text
  | refused => exact absurd rfl hkind
  | overflowing => exact (p.take_append_surplusOf_prefix run positional).map Word.text

/-- The tokens of a fault of a position are the words that it took, or the literal that a switch implies
when it may take none. -/
theorem OfRun.tokens_of_positional {p : Parameter} {anchor : Word} {run : List Word}
    (h : fault.OfRun p anchor run true) (heligible : p.eligible run ≠ []) :
    fault.tokens = (p.take run).map Word.text ∧ p.take run ≠ [] ∨
      fault.tokens = [Collector.impliedLiteral] ∧ p.take run = [] := by
  cases h with
  | short hshort => exact .inl ⟨rfl, Parameter.take_ne_nil_of_short heligible hshort⟩
  | refused failure hraw =>
    unfold Parameter.rawTexts? at hraw
    cases htaken : p.take run <;> grind [tokens]
  | overflowing maximum hsurplus =>
    rw [Collector.surplusOf, Bool.not_true, Bool.and_false] at hsurplus
    exact absurd rfl hsurplus

end Fault

namespace Match

variable {converter : Converter} {ps : List Parameter} {anchor : Word} {run : List Word}
  {earlier : List Request} {ticket : Nat} {m : Match} {r : RecordedFault}

theorem prefix_tokens_of_mem_group (hnodup : ps.Nodup)
    (hm : m ∈ group converter ps anchor run earlier ticket) (hr : r ∈ m.trail.recorded)
    (hkind : r.fault.kind ≠ .conversion) : r.fault.tokens <+: run.map Word.text := by
  obtain ⟨_, ⟨literal, _, heq⟩ | ⟨_, heq⟩⟩ := mem_group hnodup hm
  · rw [heq] at hr
    obtain ⟨failure, hfault⟩ := fault_of_mem_ofConversion hr
    rw [hfault] at hkind
    exact absurd rfl hkind
  · rw [heq] at hr
    exact ((ofRun_of_mem_ofRun hr).prefix_tokens hkind).trans ((prefix_given ..).map Word.text)

end Match

section

variable {converter : Converter} {schema : Schema} {texts : List String}

/-- The tokens of a fault of a flag stand right behind the flag, unless they were refused. -/
theorem prefix_tokens_of_mem_turns {t : Turn}
    (ht : t ∈ turns converter schema (Word.ofTexts 0 texts)) {r : RecordedFault}
    (hr : r ∈ t.recorded) (hkind : r.fault.kind ≠ .conversion) :
    r.fault.tokens <+: texts.drop (t.head.index + 1) := by
  cases t with
  | undeclared w reported =>
    have hreported := kind_of_mem_turns ht
    rw [← List.mem_singleton.mp hr] at hreported
    rw [Fault.tokens_eq_nil hreported]
    exact List.nil_prefix
  | matched flag fresh run made =>
    obtain ⟨before, after, _, hturn⟩ := takes_of_matched ht
    cases hturn with
    | matched journal hread hne hnodup hfresh hrun hmade =>
      obtain ⟨m, hm, hr⟩ := List.mem_flatMap.mp hr
      rw [hmade] at hm
      have hbehind : run <+: (Word.ofTexts 0 texts).drop (flag.index + 1) :=
        hrun ▸ List.takeWhile_prefix _
      have htexts := hbehind.map Word.text
      rw [List.map_drop, Word.map_text_ofTexts] at htexts
      exact (Match.prefix_tokens_of_mem_group hnodup hm hr hkind).trans htexts
  | _ => cases hr

/-- Every fault of a parse that has a place tells the truth about the command line. -/
theorem truthful_of_mem_faults {fault : Fault}
    (hfault : fault ∈ (parse converter schema texts).faults) : fault.Truthful texts := by
  change fault ∈ (collect converter schema (Word.ofTexts 0 texts)).faults at hfault
  rw [collect_faults, List.mem_append, List.mem_append] at hfault
  obtain (hfault | hfault) | hfault := hfault
  · obtain ⟨r, hr, rfl⟩ := List.mem_map.mp hfault
    obtain hr | hr := List.mem_append.mp (List.mem_of_mem_filter hr)
    · obtain ⟨t, ht, hr⟩ := List.mem_flatMap.mp hr
      have hheads := (turns_reads converter schema (Word.ofTexts 0 texts)).map_head_sublist
      exact Fault.truthful_of_mem_words (hheads.subset (List.mem_map_of_mem ht))
        (ofFlag_of_mem_turns ht hr).1
    · obtain ⟨m, hm, hr⟩ := List.mem_flatMap.mp hr
      obtain ⟨w, hw, hanchor⟩ := (binds_transcript ..).exists_anchor m hm
      exact Fault.truthful_of_mem_words (leftovers_sublist_words.subset hw) (hanchor r hr)
  · obtain ⟨r, hr, rfl⟩ := List.mem_map.mp hfault
    obtain ⟨m, hm, hr⟩ := List.mem_flatMap.mp hr
    obtain hnone | ⟨only, raw, failure, honly, hrefused⟩ := recorded_of_mem_fallbacks hm
    · rw [hnone] at hr
      cases hr
    · rw [honly, List.mem_singleton] at hr
      rw [hr, hrefused]
      exact Fault.truthful_of_anchor?_eq_none rfl
  · obtain ⟨p, _, rfl⟩ := List.mem_map.mp hfault
    exact Fault.truthful_of_anchor?_eq_none rfl

end

/-- What a fault of a position has to do with what is left over: it points at a word that is left over,
and the words that the position took, if they are its tokens, are a segment that begins there. -/
structure AnchoredAt (leftovers : List Word) (m : Match) (fault : Fault) (anchor : Word) : Prop where
  mem : anchor ∈ leftovers
  anchor? : fault.anchor? = some anchor
  /-- The tokens are the words that the position took, or they are the literal that a switch implies which
  may take none. -/
  tokens : fault.tokens = m.taken.map Word.text ∨
    m.taken = [] ∧ fault.tokens = [Collector.impliedLiteral]
  segment : fault.tokens = m.taken.map Word.text → ∃ before behind,
    leftovers = before ++ m.taken ++ behind ∧ m.taken.head? = some anchor ∧
      leftovers.map Word.text = before.map Word.text ++ fault.tokens ++ behind.map Word.text ∧
      fault.tokens.head? = some anchor.text

/-- Every fault of a position is anchored at one of the words at hand. -/
theorem Collector.Binds.anchoredAt {converter : Converter} {ps : List Parameter} {words : List Word}
    {ms : List Match} (h : Binds converter ps words ms) {m : Match} (hm : m ∈ ms) {r : RecordedFault}
    (hr : r ∈ m.trail.recorded) : ∃ anchor, AnchoredAt words m r.fault anchor := by
  obtain ⟨_, before, anchor, behind, rfl, heligible, hmatch⟩ := h.exists_split m hm
  have htaken : m.taken = m.parameter.take (anchor :: behind) :=
    (congrArg Match.taken hmatch).trans (Match.taken_ofRun ..)
  rw [hmatch] at hr
  have htokens := (Match.ofRun_of_mem_ofRun hr).tokens_of_positional heligible
  rw [← htaken] at htokens
  refine ⟨anchor, List.mem_append_right _ List.mem_cons_self, Match.anchor?_of_mem_ofRun hr, ?tokens,
    fun hsame => ?segment⟩
  case tokens => exact htokens.imp And.left And.symm
  case segment =>
    have hne : m.taken ≠ [] := by
      obtain ⟨_, hne⟩ | ⟨himplied, hnil⟩ := htokens
      · exact hne
      · rw [himplied, hnil] at hsame
        cases hsame
    have hprefix : m.taken <+: anchor :: behind := htaken ▸ m.parameter.take_prefix _
    obtain ⟨others, hothers⟩ := hprefix
    have hhead : m.taken.head? = some anchor := by
      rw [← List.head?_append_of_ne_nil _ hne, hothers, List.head?_cons]
    refine ⟨before, others, ?_, hhead, ?_, ?_⟩
    · rw [← hothers, List.append_assoc]
    · rw [← hothers, hsame, List.map_append, List.map_append, List.append_assoc]
    · rw [hsame, List.head?_map, hhead, Option.map_some]

/-- What it means that the faults of a parse point where they say. -/
structure Anchored (converter : Converter) (schema : Schema) (texts : List String) : Prop where
  /-- A place is one of the command line, counted from one, and the token is the text there. -/
  truthful : ∀ fault ∈ (parse converter schema texts).faults, ∀ i, fault.place? = some i →
    1 ≤ i ∧ i ≤ texts.length ∧ fault.token? = texts[i - 1]?
  /-- The reports of undeclared flags are one for each of them, in the order of the command line. -/
  undeclared : ((parse converter schema texts).faults.filter (·.kind = .unrecognised)).map
      (fun fault => (fault.token?, fault.place?)) =
    ((Word.ofTexts 0 texts).filter (schema.read ·.text = .unrecognised)).map
      fun w => (some w.text, some w.place)
  /-- The words of which a flag has too few or too many stand right behind it. -/
  flags : ∀ r ∈ (afterFlags converter schema (Word.ofTexts 0 texts)).collector.recorded,
    r.fault.kind = .notEnough ∨ r.fault.kind = .tooMany →
      ∃ i, r.fault.place? = some i ∧
        r.fault.tokens = (texts.drop i).take r.fault.tokens.length
  /-- Binding the positions records the faults of their matches, which are anchored in what is left
  over. -/
  positions : (afterBinding converter schema (Word.ofTexts 0 texts)).recorded =
    (afterFlags converter schema (Word.ofTexts 0 texts)).collector.recorded ++
      (transcript converter schema (Word.ofTexts 0 texts)).bindings.flatMap (·.trail.recorded)
  anchoredAt : ∀ m ∈ (transcript converter schema (Word.ofTexts 0 texts)).bindings,
    ∀ r ∈ m.trail.recorded, ∃ anchor,
      AnchoredAt (collect converter schema (Word.ofTexts 0 texts)).leftovers m r.fault anchor
  /-- The positional texts are those of the words that are left over. -/
  positional : (parse converter schema texts).positional =
    (collect converter schema (Word.ofTexts 0 texts)).leftovers.map Word.text

/-- The faults of every parse point where they say. -/
theorem parse_anchors_faults (converter : Converter) (schema : Schema) (texts : List String) :
    Anchored converter schema texts := by
  let words := Word.ofTexts 0 texts
  have hrecorded : (afterFlags converter schema words).collector.recorded =
      (turns converter schema words).flatMap Turn.recorded :=
    (afterFlags_reaches converter schema words).recorded
  constructor
  case truthful => exact fun fault hfault => truthful_of_mem_faults hfault
  case undeclared =>
    change List.map _ ((collect converter schema words).faults.filter _) = _
    rw [filter_unrecognised, List.map_map]
    rfl
  case flags =>
    intro r hr hkind
    rw [hrecorded] at hr
    obtain ⟨t, ht, hr⟩ := List.mem_flatMap.mp hr
    have hprefix := prefix_tokens_of_mem_turns ht hr (by grind)
    refine ⟨t.head.place, ?_, List.prefix_iff_eq_take.mp hprefix⟩
    rw [Fault.place?, (ofFlag_of_mem_turns ht hr).1, Option.map_some]
  case positions =>
    rw [(afterBinding_eq converter schema words).2.2.1, hrecorded]
    rfl
  case anchoredAt =>
    intro m hm r hr
    rw [collect_leftovers]
    exact (binds_transcript converter schema words).anchoredAt hm hr
  case positional => rfl

end CommandLine
