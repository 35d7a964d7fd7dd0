import CommandLine.Proofs.Cursor.Cover
import CommandLine.Proofs.Transcript.Outcome

namespace CommandLine

/-- Whether a position claims a word once the flags of a parse are read. -/
def Claimed (converter : Converter) (schema : Schema) (words : List Word) (w : Word) : Prop :=
  ∃ p, ⟨w, some p⟩ ∈ ((afterFlags converter schema words).collector.bind converter).2

/-- The reports of an outcome that a parameter was given too many words. -/
def Outcome.overflowsOf (outcome : Outcome) (p : Parameter) : List Fault :=
  outcome.faults.filter fun fault => fault.kind = .tooMany && fault.parameter? = some p

section

variable {converter : Converter} {schema : Schema} {p : Parameter} {arity : Arity} {maximum : Nat}

theorem Parameter.window_of_arity (harity : p.arity = some arity) :
    p.window = ⟨arity.minimum, arity.maximum, true⟩ := by
  simp [window, harity]

/-- A parameter with a declared maximum takes as many of the eligible words. -/
theorem Parameter.take_of_maximum (harity : p.arity = some arity)
    (hmaximum : arity.maximum = some maximum) (run : List Word) :
    p.take run = (p.eligible run).take maximum := by
  simp [take, Window.cut, window_of_arity harity, hmaximum]

/-- The surplus of a flag are the eligible words beyond its maximum. -/
theorem Parameter.surplusOf_of_maximum (harity : p.arity = some arity)
    (hmaximum : arity.maximum = some maximum) (run : List Word) :
    Collector.surplusOf p run false = (p.eligible run).drop maximum := by
  have hwindow := window_of_arity harity
  unfold Collector.surplusOf
  rw [take_of_maximum harity hmaximum, hwindow]
  simp only [Bool.not_false, Bool.and_true, if_true, List.length_take]
  rcases Nat.le_total maximum (p.eligible run).length with hle | hle
  · rw [Nat.min_eq_left hle]
  · rw [Nat.min_eq_right hle, List.drop_length, List.drop_eq_nil_of_le hle]

/-- A parameter that is given no more words than it may take does not overflow. -/
theorem Match.pending_ofRun_of_le (converter : Converter) (harity : p.arity = some arity)
    (hmaximum : arity.maximum = some maximum) (anchor : Word) (run : List Word)
    (earlier : List Request) (ticket : Nat) (hle : (p.eligible run).length ≤ maximum) :
    (ofRun converter p anchor run false earlier ticket).resolution.pending = none := by
  rcases Nat.lt_or_ge (p.take run).length p.window.minimum with hshort | henough
  · rw [ofRun_of_short converter anchor false earlier ticket hshort]
  · obtain ⟨_, hpending, _, _⟩ :=
      recorded_ofRun_of_enough converter anchor false earlier ticket henough
    rw [Parameter.surplusOf_of_maximum harity hmaximum, List.drop_eq_nil_of_le hle] at hpending
    rw [← Option.map_eq_none_iff, hpending]
    simp [Parameter.overflow?]

/-- A parameter that is given more words than it may take has enough of them, and overflows. -/
theorem Match.ofRun_of_lt (converter : Converter) (harity : p.arity = some arity)
    (hmaximum : arity.maximum = some maximum) (anchor : Word) (run : List Word)
    (earlier : List Request) (ticket : Nat) (hlt : maximum < (p.eligible run).length) :
    let m := ofRun converter p anchor run false earlier ticket
    let taken := (p.eligible run).take maximum
    let surplus := (p.eligible run).drop maximum
    m.resolution.surplus = surplus ∧
      m.resolution.pending.map RecordedFault.fault =
        some (.tooMany p anchor taken surplus maximum) ∧
      m.resolution.value = converter.answerTaken p taken earlier ∧
      m.trail.requests = (p.rawTexts? taken).toList.map (⟨·, .descriptor p.type⟩) := by
  have htake := Parameter.take_of_maximum harity hmaximum run
  have hsurplus := Parameter.surplusOf_of_maximum harity hmaximum run
  have henough : p.window.minimum ≤ (p.take run).length := by
    have hordered := arity.ordered maximum hmaximum
    rw [Parameter.window_of_arity harity, htake, List.length_take, Nat.min_eq_left (Nat.le_of_lt hlt)]
    exact hordered
  obtain ⟨_, hpending, hleft, hvalue⟩ :=
    recorded_ofRun_of_enough converter anchor false earlier ticket henough
  have hrequests := requests_ofRun_of_enough converter anchor false earlier ticket henough
  rw [htake] at hpending hvalue hrequests
  rw [hsurplus] at hpending hleft
  refine ⟨hleft, ?_, hvalue, hrequests⟩
  obtain ⟨w, behind, hcons⟩ := List.exists_cons_of_length_pos
    (show 0 < ((p.eligible run).drop maximum).length by rw [List.length_drop]; omega)
  rw [hpending, hcons]
  simp [Parameter.overflow?, Parameter.window_of_arity harity, hmaximum]

/-- The overflow of a match stands unless its surplus was claimed. -/
theorem Match.filter_tooMany_standing {m : Match} (hcoherent : m.Coherent) (claimed : List Nat) :
    (m.standing claimed).filter (·.kind = .tooMany) =
      if m.resolution.absorbed claimed then []
      else (m.resolution.pending.map RecordedFault.fault).toList := by
  unfold standing
  cases hcoherent with
  | short r hrecorded _ hkind _ hpending => simp [hrecorded, hpending, hkind]
  | answered refused hrecorded hrefused hpending =>
    rw [hrecorded]
    cases refused <;> cases hm : m.resolution.pending <;>
      cases m.resolution.absorbed claimed <;> simp_all

/-- The value of a match is absent if its overflow stands. -/
theorem Match.value_settled (m : Match) (claimed : List Nat) :
    (m.settled claimed).value =
      if m.resolution.pending.isSome && !m.resolution.absorbed claimed then .none
      else m.resolution.value := rfl

end

section

variable {converter : Converter} {schema : Schema} {words : List Word} {flag : Word}
  {fresh : List Parameter} {run : List Word} {made : List Match} {p : Parameter} {m : Match}

/-- The matches of a flag whose parameters do not share a literal. -/
theorem made_eq_ofRun (ht : .matched flag fresh run made ∈ turns converter schema words)
    (halone : Collector.broadcastLiteral? fresh run = none) :
    made.map Match.parameter = fresh ∧ ∀ m ∈ made, m = .ofRun converter m.parameter flag
      (Match.given fresh run m.parameter) false m.earlier m.ticket := by
  obtain ⟨_, hnodup, _, _, rfl⟩ := exists_group_of_mem_turns ht
  refine ⟨Match.map_parameter_group .., fun m hm => ?_⟩
  obtain ⟨_, ⟨literal, hshared, _⟩ | ⟨_, heq⟩⟩ := Match.mem_group hnodup hm
  · rw [halone] at hshared
    cases hshared
  · exact heq

/-- Without a shared literal, a flag reaches as far as its last parameter does. -/
theorem longest_le_of_last (ht : .matched flag fresh run made ∈ turns converter schema words)
    (halone : Collector.broadcastLiteral? fresh run = none) (hlast : fresh.getLast? = some p) :
    Match.longest made ≤ (p.take run).length := by
  rw [Match.longest_le_iff]
  intro m hm
  rw [(made_eq_ofRun ht halone).2 m hm, Match.taken_ofRun, Match.given]
  split
  · next hlast' =>
    rw [hlast, Option.some_inj] at hlast'
    rw [hlast']
  · rw [List.prefix_nil.mp (m.parameter.take_prefix [])]
    exact Nat.zero_le _

/-- What a flag reaches over is left over behind it, one word after another. -/
theorem drop_longest_sublist_leftovers
    (ht : .matched flag fresh run made ∈ turns converter schema words) :
    (run.drop (Match.longest made)).Sublist
      (afterFlags converter schema words).collector.leftovers := by
  obtain ⟨before, after, hsplit⟩ := List.append_of_mem ht
  have hreads := turns_reads converter schema words
  rw [hsplit] at hreads
  obtain ⟨s, t, w, rest, _, hschema, hturn, hlater⟩ := hreads.split
  cases hturn with
  | matched journal hread hne hnodup hfresh hrun hmade =>
    have hprefix : run <+: rest := hrun ▸ List.takeWhile_prefix _
    obtain ⟨behind, rfl⟩ := hprefix
    have hlongest : Match.longest made ≤ run.length := hmade ▸ Match.longest_group_le hnodup
    rw [Turn.extent, Nat.add_sub_cancel_left, List.drop_append_of_le_length hlongest] at hlater
    obtain ⟨later, rfl, _⟩ := hlater.eq_left_append fun v hv => by
      have hv := List.mem_of_mem_drop hv
      rw [hrun, hschema] at hv
      exact Schema.read_of_mem_leadingLiterals hv
    have hleft : ((run.drop (Match.longest made)).map Turn.left).flatMap Turn.leftovers =
        run.drop (Match.longest made) := by
      rw [List.flatMap_map]
      exact List.flatMap_singleton' _
    rw [leftovers_afterFlags, hsplit, List.flatMap_append, List.flatMap_cons, List.flatMap_append, hleft]
    refine .trans ?_ (List.sublist_append_right _ _)
    refine .trans ?_ (List.sublist_append_right _ _)
    exact List.sublist_append_left _ _

/-- The surplus of a flag is left over. -/
theorem surplus_sublist_leftovers
    (ht : .matched flag fresh run made ∈ turns converter schema words)
    (halone : Collector.broadcastLiteral? fresh run = none) (p : Parameter) :
    (Collector.surplusOf p (Match.given fresh run p) false).Sublist
      (afterFlags converter schema words).collector.leftovers := by
  refine .trans ?_ (drop_longest_sublist_leftovers ht)
  unfold Collector.surplusOf Match.given
  split
  · split
    · next hlast =>
      obtain ⟨behind, hrun⟩ := p.eligible_prefix run
      have hlongest := longest_le_of_last ht halone hlast
      have htaken : (p.take run).length ≤ (p.eligible run).length :=
        (p.window.cut_prefix _).length_le
      have hdrop : run.drop (p.take run).length =
          (p.eligible run).drop (p.take run).length ++ behind := by
        rw [← List.drop_append_of_le_length htaken, hrun]
      have hmore := List.drop_sublist_drop_left run hlongest
      rw [hdrop] at hmore
      exact (List.sublist_append_left _ _).trans hmore
    · rw [List.prefix_nil.mp (p.eligible_prefix []), List.drop_nil]
      exact List.nil_sublist _
  · exact List.nil_sublist _

/-- A place is claimed exactly if a position claims the word there. -/
theorem contains_claimed_iff {texts : List String} {w : Word}
    (hw : w ∈ (afterFlags converter schema (Word.ofTexts 0 texts)).collector.leftovers) :
    (transcript converter schema (Word.ofTexts 0 texts)).claimed.contains w.index = true ↔
      Claimed converter schema (Word.ofTexts 0 texts) w := by
  have hwords : ∀ v ∈ (afterFlags converter schema (Word.ofTexts 0 texts)).collector.leftovers,
      v ∈ Word.ofTexts 0 texts := by
    intro v hv
    rw [leftovers_afterFlags] at hv
    exact mem_words_of_mem_leftovers hv
  rw [List.contains_iff_mem]
  constructor
  · intro hindex
    obtain ⟨leftover, hleftover, hindex⟩ := List.mem_map.mp hindex
    obtain ⟨hleftover, hclaimed⟩ := List.mem_filter.mp hleftover
    obtain ⟨v, hv, rfl⟩ := List.mem_map.mp hleftover
    obtain ⟨p, hp⟩ := Option.isSome_iff_exists.mp hclaimed
    cases Word.eq_of_index_eq (hwords v hv) (hwords w hw) hindex
    dsimp only at hp
    rw [hp] at hleftover
    exact ⟨p, hleftover⟩
  · rintro ⟨p, hp⟩
    exact List.mem_map.mpr ⟨_, List.mem_filter.mpr ⟨hp, rfl⟩, rfl⟩

theorem absorbed_iff {texts : List String} {m : Match}
    (hsurplus : m.resolution.surplus ⊆
      (afterFlags converter schema (Word.ofTexts 0 texts)).collector.leftovers) :
    m.resolution.absorbed (transcript converter schema (Word.ofTexts 0 texts)).claimed = true ↔
      ∀ w ∈ m.resolution.surplus, Claimed converter schema (Word.ofTexts 0 texts) w := by
  unfold Resolution.absorbed
  rw [List.all_eq_true]
  exact forall₂_congr fun w hw => contains_claimed_iff (hsurplus hw)

/-- What a parse reports of the overflow of a matched parameter. -/
theorem overflowsOf_of_mem (hm : m ∈ (transcript converter schema words).made) :
    (collect converter schema words).freeze.overflowsOf m.parameter =
      if m.resolution.absorbed (transcript converter schema words).claimed then []
      else (m.resolution.pending.map RecordedFault.fault).toList := by
  rw [← Match.filter_tooMany_standing (coherent_of_mem_transcript hm), ← faults_about_of_mem hm,
    List.filter_filter]
  rfl

/-- The surplus of every match of a flag is left over. -/
theorem surplus_subset_of_mem_flagged
    (hm : m ∈ (transcript converter schema words).flagged) :
    m.resolution.surplus ⊆ (afterFlags converter schema words).collector.leftovers := by
  obtain ⟨flag, fresh, run, made, ht, hm⟩ := exists_turn_of_mem_flagged hm
  obtain ⟨_, hnodup, _, _, rfl⟩ := exists_group_of_mem_turns ht
  obtain ⟨_, ⟨literal, _, heq⟩ | ⟨halone, heq⟩⟩ := Match.mem_group hnodup hm
  · rw [heq]
    exact List.nil_subset _
  · have hsublist := surplus_sublist_leftovers ht halone m.parameter
    rcases Nat.lt_or_ge (m.parameter.take (Match.given fresh run m.parameter)).length
      m.parameter.window.minimum with hshort | henough
    · rw [heq, Match.ofRun_of_short converter _ false _ _ hshort]
      exact List.nil_subset _
    · obtain ⟨_, _, hsurplus, _⟩ := Match.recorded_ofRun_of_enough converter flag false m.earlier
        m.ticket henough
      rw [heq, hsurplus]
      exact hsublist.subset

end

/-- What a parse makes of a parameter of a flag that is given eligible words and has a maximum. -/
structure Settles (converter : Converter) (schema : Schema) (texts : List String) (flag : Word)
    (made : List Match) (p : Parameter) (eligible : List Word) (maximum : Nat) : Prop where
  /-- The parameter takes as many of the words as it may. -/
  taken : ∃ m ∈ made, m.parameter = p ∧ m.taken = eligible.take maximum
  /-- No overflow is reported when there are no more. -/
  within : eligible.length ≤ maximum → (parse converter schema texts).overflowsOf p = []
  /-- The words beyond the maximum are among the positional ones. -/
  left : maximum < eligible.length →
    (eligible.drop maximum).Sublist (collect converter schema (Word.ofTexts 0 texts)).leftovers ∧
      ((eligible.drop maximum).map Word.text).Sublist (parse converter schema texts).positional
  /-- The overflow is reported once, and the value is lost, when some word is not claimed. -/
  confirmed : maximum < eligible.length →
    (∃ w ∈ eligible.drop maximum, ¬ Claimed converter schema (Word.ofTexts 0 texts) w) →
      (parse converter schema texts).overflowsOf p =
          [.tooMany p flag (eligible.take maximum) (eligible.drop maximum) maximum] ∧
        (∀ fault ∈ (parse converter schema texts).overflowsOf p,
          fault.tokens = eligible.map Word.text) ∧
        (parse converter schema texts).get? (.parameter p) = some .none
  /-- The overflow is not reported when every word is claimed, and the value is what the converter
  answers at its turn. -/
  withdrawn : maximum < eligible.length →
    (∀ w ∈ eligible.drop maximum, Claimed converter schema (Word.ofTexts 0 texts) w) →
      (parse converter schema texts).overflowsOf p = [] ∧
        ∃ earlier later, (collect converter schema (Word.ofTexts 0 texts)).requests =
            earlier ++ (p.rawTexts? (eligible.take maximum)).toList.map (⟨·, .descriptor p.type⟩) ++
              later ∧
          (parse converter schema texts).get? (.parameter p) =
            some (converter.answerTaken p (eligible.take maximum) earlier)

/-- A parse settles the overflow of every parameter of a flag that has a declared maximum. -/
theorem settles_of_mem_turns {converter : Converter} {schema : Schema} {texts : List String}
    {flag : Word} {fresh : List Parameter} {run : List Word} {made : List Match} {p : Parameter}
    {arity : Arity} {maximum : Nat}
    (ht : .matched flag fresh run made ∈ turns converter schema (Word.ofTexts 0 texts))
    (halone : Collector.broadcastLiteral? fresh run = none) (hp : p ∈ fresh)
    (harity : p.arity = some arity) (hmaximum : arity.maximum = some maximum) :
    Settles converter schema texts flag made p (p.eligible (Match.given fresh run p)) maximum := by
  obtain ⟨hparameters, hmade⟩ := made_eq_ofRun ht halone
  rw [← hparameters] at hp
  obtain ⟨m, hm, rfl⟩ := List.mem_map.mp hp
  have heq := hmade m hm
  have hflagged : m ∈ (transcript converter schema (Word.ofTexts 0 texts)).flagged :=
    List.mem_flatMap.mpr ⟨_, ht, hm⟩
  have hmem := mem_made_of_mem_flagged hflagged
  have hoverflows := overflowsOf_of_mem hmem
  have hvalue := get?_of_mem hmem
  rw [Match.value_settled] at hvalue
  have hleft := surplus_sublist_leftovers ht halone m.parameter
  rw [Parameter.surplusOf_of_maximum harity hmaximum] at hleft
  have habsorbed := absorbed_iff (surplus_subset_of_mem_flagged hflagged)
  constructor
  case taken =>
    refine ⟨m, hm, rfl, (congrArg Match.taken heq).trans ?_⟩
    rw [Match.taken_ofRun, Parameter.take_of_maximum harity hmaximum]
  case within =>
    intro hle
    have hpending : m.resolution.pending = none := (congrArg (·.resolution.pending) heq).trans
      (Match.pending_ofRun_of_le converter harity hmaximum _ _ _ _ hle)
    rw [hpending] at hoverflows
    exact hoverflows.trans (ite_self [])
  case left =>
    intro _
    rw [collect_leftovers]
    refine ⟨hleft, ?_⟩
    change (List.map _ _).Sublist
      ((collect converter schema (Word.ofTexts 0 texts)).leftovers.map Word.text)
    rw [collect_leftovers]
    exact hleft.map Word.text
  case confirmed =>
    intro hlt hunclaimed
    obtain ⟨hsurplus, hpending, _, _⟩ :=
      Match.ofRun_of_lt converter harity hmaximum flag _ m.earlier m.ticket hlt
    rw [← heq] at hsurplus hpending
    have hstands : m.resolution.absorbed
        (transcript converter schema (Word.ofTexts 0 texts)).claimed = false := by
      rw [← Bool.not_eq_true, habsorbed, hsurplus]
      obtain ⟨w, hw, hfree⟩ := hunclaimed
      exact fun hall => hfree (hall w hw)
    have hsome : m.resolution.pending.isSome = true := by
      rw [← Option.isSome_map, hpending]
      rfl
    rw [hstands, hpending] at hoverflows
    rw [hstands, hsome] at hvalue
    refine ⟨hoverflows, ?_, hvalue⟩
    intro fault hfault
    change fault ∈ (collect converter schema (Word.ofTexts 0 texts)).freeze.overflowsOf _ at hfault
    rw [hoverflows] at hfault
    rw [List.mem_singleton.mp hfault, Fault.tokens, List.take_append_drop]
  case withdrawn =>
    intro hlt hclaimed
    obtain ⟨hsurplus, _, hanswer, hrequests⟩ :=
      Match.ofRun_of_lt converter harity hmaximum flag _ m.earlier m.ticket hlt
    rw [← heq] at hsurplus hanswer hrequests
    have hwithdrawn : m.resolution.absorbed
        (transcript converter schema (Word.ofTexts 0 texts)).claimed = true := by
      rw [habsorbed, hsurplus]
      exact hclaimed
    rw [hwithdrawn] at hoverflows hvalue
    obtain ⟨later, hlater⟩ := (linked_made converter schema (Word.ofTexts 0 texts)).exists_later hmem
    rw [List.nil_append, ← collect_requests, hrequests] at hlater
    refine ⟨hoverflows, m.earlier, later, hlater, ?_⟩
    rw [Bool.not_true, Bool.and_false, hanswer] at hvalue
    exact hvalue

/-- A parse confirms or withdraws every overflow by what positions claim of its surplus. Withdrawing
takes the overflow out of the faults, and all others stay in their order. -/
theorem parse_settles_overflows (converter : Converter) (schema : Schema) (texts : List String) :
    let words := Word.ofTexts 0 texts
    let t := transcript converter schema words
    (∀ flag fresh run made, .matched flag fresh run made ∈ turns converter schema words →
      run = schema.leadingLiterals (words.drop (flag.index + 1)) ∧
        (Collector.broadcastLiteral? fresh run = none →
          ∀ p ∈ fresh, ∀ arity maximum, p.arity = some arity → arity.maximum = some maximum →
            Settles converter schema texts flag made p (p.eligible (Match.given fresh run p))
              maximum)) ∧
      (∀ r, r ∈ t.withdrawn ↔ ∃ m ∈ t.flagged, m.resolution.pending = some r ∧
        ∀ w ∈ m.resolution.surplus, Claimed converter schema words w) ∧
      (afterSettlement converter schema words).recorded =
        (afterBinding converter schema words).recorded.filter (fun r => r ∉ t.withdrawn) ∧
      ∃ later, (parse converter schema texts).faults =
        (afterSettlement converter schema words).faults ++ later := by
  intro words t
  refine ⟨?_, ?_, ?_, ?_⟩
  · intro flag fresh run made ht
    refine ⟨run_eq_leadingLiterals ht, fun halone p hp arity maximum harity hmaximum => ?_⟩
    exact settles_of_mem_turns ht halone hp harity hmaximum
  · intro r
    rw [mem_withdrawn]
    constructor
    · rintro ⟨m, hm, habsorbed, hpending⟩
      exact ⟨m, hm, hpending, (absorbed_iff (surplus_subset_of_mem_flagged hm)).mp habsorbed⟩
    · rintro ⟨m, hm, hpending, hclaimed⟩
      exact ⟨m, hm, (absorbed_iff (surplus_subset_of_mem_flagged hm)).mpr hclaimed, hpending⟩
  · rw [(afterSettlement_eq converter schema words).2.2.1, (afterBinding_eq converter schema words).2.2.1]
  · refine ⟨(t.fallbacks.flatMap (·.trail.recorded)).map RecordedFault.fault ++
      t.missing.map .missing, ?_⟩
    change (collect converter schema words).faults = _
    rw [collect_faults, Collector.faults, (afterSettlement_eq converter schema words).2.2.1,
      List.append_assoc]

/-- A flag for one word at most. -/
def oneWordFlag : Parameter where
  key := 0
  longs := ["name"]
  shorts := ['n']
  type := .scalar (.known .string)
  required := false
  fallback := none
  position := none
  arity := some ⟨0, some 1, fun _ _ => Nat.zero_le _⟩
  description := none
  longs_valid := fun _ hname => List.mem_singleton.mp hname ▸ rfl
  shorts_valid := fun _ hname => List.mem_singleton.mp hname ▸ rfl
  longs_nodup := List.nodup_singleton _
  shorts_nodup := List.nodup_singleton _
  named_or_placed := .inl (List.cons_ne_nil _ _)

/-- Two words behind a flag for one: the second one is left over, and the flag has no value. -/
theorem oneWordFlag_overflows :
    let schema : Schema := ⟨[oneWordFlag], List.pairwise_singleton _ _⟩
    let outcome := parse .standard schema ["--name", "a", "b"]
    outcome.overflowsOf oneWordFlag = [.tooMany oneWordFlag ⟨"--name", 0⟩ [⟨"a", 1⟩] [⟨"b", 2⟩] 1] ∧
      outcome.get? (.parameter oneWordFlag) = some .none := by
  intro schema outcome
  have hturn : (turns .standard schema (Word.ofTexts 0 ["--name", "a", "b"])).any fun t =>
      t.words = [⟨"--name", 0⟩, ⟨"a", 1⟩] ∧ t.made.map Match.parameter = [oneWordFlag] := by
    decide +kernel
  have hclaims : ((afterFlags .standard schema (Word.ofTexts 0 ["--name", "a", "b"])).collector.bind
      .standard).2 = [⟨⟨"b", 2⟩, none⟩] := by
    decide +kernel
  obtain ⟨t, ht, hmatched⟩ := List.any_eq_true.mp hturn
  cases t with
  | matched flag fresh run made =>
    obtain ⟨hwords, hparameters⟩ := of_decide_eq_true hmatched
    obtain ⟨rfl, _⟩ := List.cons_eq_cons.mp hwords
    obtain ⟨hrun, hsettles⟩ :=
      (parse_settles_overflows .standard schema ["--name", "a", "b"]).1 _ _ _ _ ht
    have hfresh : fresh = [oneWordFlag] := by
      obtain ⟨_, _, _, _, _, hturn⟩ := takes_of_mem_turns ht
      cases hturn with
      | matched journal hread hne hnodup hfresh hrun hmade =>
        rw [← hparameters, Turn.made, hmade, Match.map_parameter_group]
    have hrun : run = [⟨"a", 1⟩, ⟨"b", 2⟩] := hrun.trans (by decide +kernel)
    subst hfresh hrun
    have hsettles := hsettles (by decide) oneWordFlag List.mem_cons_self _ 1 rfl rfl
    obtain ⟨hoverflows, _, hvalue⟩ := hsettles.confirmed (by decide)
      ⟨⟨"b", 2⟩, by decide, by simp [Claimed, hclaims]⟩
    exact ⟨hoverflows, hvalue⟩
  | _ => cases (of_decide_eq_true hmatched).1

end CommandLine
