import CommandLine.Proofs.Accounting
import CommandLine.Proofs.Paraphrase.Bundle

namespace CommandLine

/-- A declared flag with the literals that are typed behind it. -/
structure Block (schema : Schema) where
  flag : String
  literals : List String
  declared : ∃ ps, (schema.read flag).flag? = some (.recognised ps)
  literal : ∀ text ∈ literals, schema.read text = .literal

instance (converter : Converter) (schema : Schema) (words : List Word) (w : Word) (index : Nat) :
    Decidable (Plays converter schema words w (.taken index)) :=
  decidable_of_iff (∃ t ∈ turns converter schema words, t.head.index = index ∧
      ∃ m ∈ t.made, w ∈ m.taken) <| by
    constructor
    · rintro ⟨t, ht, hindex, m, hm, hw⟩
      cases t with
      | matched flag fresh run made => exact ⟨flag, fresh, run, made, ht, hindex, m, hm, hw⟩
      | _ => cases hm
    · rintro ⟨flag, fresh, run, made, ht, hindex, m, hm, hw⟩
      exact ⟨_, ht, hindex, m, hm, hw⟩

namespace Block

variable {schema : Schema} (block : Block schema)

/-- The texts of a block. -/
def texts : List String :=
  block.flag :: block.literals

/-- The parameters that a block spells. -/
def parameters : List Parameter :=
  (schema.read block.flag).parameters

/-- The words of the literals of a block whose flag stands at a place. -/
def literalsAt (place : Nat) : List Word :=
  Word.ofTexts (place + 1) block.literals

/-- Whether the flag of a block takes all literals of the block on a command line on which it stands at a
place. -/
def TakesAll (converter : Converter) (texts : List String) (place : Nat) : Prop :=
  ∀ w ∈ block.literalsAt place, Plays converter schema (Word.ofTexts 0 texts) w (.taken place)

instance (converter : Converter) (texts : List String) (place : Nat) :
    Decidable (block.TakesAll converter texts place) :=
  inferInstanceAs (Decidable (∀ w ∈ block.literalsAt place, _))

theorem ofTexts_texts (place : Nat) :
    Word.ofTexts place block.texts = ⟨block.flag, place⟩ :: block.literalsAt place := rfl

theorem cutsOff (behind : List String) : schema.CutsOff (block.texts ++ behind) := by
  obtain ⟨ps, hflag⟩ := block.declared
  refine Schema.cutsOff_cons ?_ _
  cases hread : schema.read block.flag <;> simp_all [Reading.flag?, Reading.isFlag]

end Block

/-- The places of two blocks of words that stand one behind the other, exchanged. -/
def exchange (place first second i : Nat) : Nat :=
  if i < place then i
  else if i < place + first then i + second
  else if i < place + first + second then i - first
  else i

theorem injective_exchange (place first second : Nat) : (exchange place first second).Injective := by
  intro i j heq
  unfold exchange at heq
  split_ifs at heq <;> omega

/-- The turn at a block that is read from a state, and the state behind it. -/
def Progress.turnAt (converter : Converter) (s : Progress) {schema : Schema} (block : Block schema)
    (place : Nat) : Progress × Turn :=
  s.turn converter ⟨block.flag, place⟩ (block.literalsAt place)

/-- A scan opens with the turn at a block, which does not see what is cut off from the block. -/
theorem Progress.Opens.turnAt (converter : Converter) {schema : Schema} (block : Block schema)
    {s : Progress} (place : Nat) {behind : List String} (hschema : s.collector.schema = schema)
    (hcut : schema.CutsOff behind) :
    Opens converter s (Word.ofTexts place (block.texts ++ behind)) [(s.turnAt converter block place).2]
      (s.turnAt converter block place).1
      ((block.literalsAt place ++ Word.ofTexts (place + block.texts.length) behind).drop
        ((s.turnAt converter block place).2.extent - 1)) := by
  have hcut' : s.collector.schema.CutsOff
      ((Word.ofTexts (place + block.texts.length) behind).map Word.text) := by
    rwa [hschema, Word.map_text_ofTexts]
  have hopens := turn converter s ⟨block.flag, place⟩
    (block.literalsAt place ++ Word.ofTexts (place + block.texts.length) behind)
  rwa [turn_append converter hcut', ← List.cons_append, ← Block.ofTexts_texts,
    ← Word.ofTexts_append] at hopens

/-- A scan opens with a block whose turn is done with all of it. -/
theorem Progress.Opens.block {converter : Converter} {schema : Schema} {block : Block schema}
    {s : Progress} {place : Nat} {behind : List String} (hschema : s.collector.schema = schema)
    (hcut : schema.CutsOff behind)
    (hextent : (s.turnAt converter block place).2.extent = block.texts.length) :
    Opens converter s (Word.ofTexts place (block.texts ++ behind)) [(s.turnAt converter block place).2]
      (s.turnAt converter block place).1 (Word.ofTexts (place + block.texts.length) behind) := by
  have hopens := turnAt converter block place hschema hcut
  have hlength : (block.literalsAt place).length = block.texts.length - 1 := by
    simp [Block.literalsAt, Block.texts, Word.length_ofTexts]
  rwa [hextent, ← hlength, List.drop_left] at hopens

/-- The first words of texts stand at the first places. -/
theorem Word.index_lt_of_mem_take {first n : Nat} {texts : List String} {w : Word}
    (hw : w ∈ (ofTexts first texts).take n) : w.index < first + n := by
  obtain ⟨i, hi, rfl⟩ := List.getElem_of_mem hw
  rw [List.length_take] at hi
  simp [ofTexts]
  omega

/-- The turns that a scan opens with are among the turns of the parse. -/
theorem Progress.Opens.mem_turns {converter : Converter} {schema : Schema} {words rest : List Word}
    {earlier : List Turn} {s : Progress} {turn : Turn}
    (h : Opens converter ⟨.new schema, []⟩ words earlier s rest) (hturn : turn ∈ earlier) :
    turn ∈ turns converter schema words := by
  unfold turns
  rw [h.scan]
  exact List.mem_append_left _ hturn

namespace Block

variable {converter : Converter} {schema : Schema} {block : Block schema} {texts : List String}
  {place : Nat}

/-- The turn at a block whose literals are all taken is done with all of the block. -/
theorem extent_of_takesAll (h : block.TakesAll converter texts place) {s : Progress}
    (hmem : (s.turnAt converter block place).2 ∈ turns converter schema (Word.ofTexts 0 texts)) :
    (s.turnAt converter block place).2.extent = block.texts.length := by
  have htakes := Progress.turn_takes converter s ⟨block.flag, place⟩ (block.literalsAt place)
  obtain ⟨hle, hwords⟩ := htakes.words_eq
  change (s.turnAt converter block place).2.extent ≤ (Word.ofTexts place block.texts).length at hle
  change (s.turnAt converter block place).2.words = (Word.ofTexts place block.texts).take
    (s.turnAt converter block place).2.extent at hwords
  generalize (s.turnAt converter block place).2 = turn at *
  rw [Word.length_ofTexts] at hle
  refine Nat.le_antisymm hle (Nat.le_of_not_lt fun hlt => ?_)
  -- The literal right behind the turn would be taken too, so the turn would be done with it.
  obtain ⟨n, hn⟩ := Nat.exists_eq_add_of_le' turn.extent_pos
  rw [hn, Block.texts, List.length_cons, Nat.add_lt_add_iff_right] at hlt
  have hi : n < (block.literalsAt place).length := by rwa [literalsAt, Word.length_ofTexts]
  obtain ⟨flag, fresh, run, made, ht, hindex, hword⟩ :=
    turn_of_plays_taken (h _ (List.getElem_mem hi))
  have hhead : ⟨block.flag, place⟩ ∈ turn.words := by
    rw [hwords, hn, ofTexts_texts, List.take_succ_cons]
    exact List.mem_cons_self
  have hcover := (turns_reads converter schema (Word.ofTexts 0 texts)).flatMap_words
  obtain rfl : flag = ⟨block.flag, place⟩ :=
    Word.eq_of_index_eq (hcover ▸ List.mem_flatMap.mpr ⟨_, ht, List.mem_cons_self⟩)
      (hcover ▸ List.mem_flatMap.mpr ⟨_, hmem, hhead⟩) hindex
  have hsame := turn_eq_of_mem_words (Word.nodup_ofTexts texts) ht hmem List.mem_cons_self hhead
  rw [hsame, hwords] at hword
  have hplace := Word.index_lt_of_mem_take hword
  simp [literalsAt, Word.ofTexts] at hplace
  omega

end Block

/-- A block that takes all of its literals opens what is read behind the words before it. -/
theorem Progress.Opens.append_block {converter : Converter} {schema : Schema} {block : Block schema}
    {texts behind : List String} {earlier : List Turn} {s : Progress} {place : Nat}
    (h : Opens converter ⟨.new schema, []⟩ (Word.ofTexts 0 texts) earlier s
      (Word.ofTexts place (block.texts ++ behind)))
    (htakes : block.TakesAll converter texts place) (hcut : schema.CutsOff behind) :
    (s.turnAt converter block place).2.extent = block.texts.length ∧
      Opens converter s (Word.ofTexts place (block.texts ++ behind))
        [(s.turnAt converter block place).2] (s.turnAt converter block place).1
        (Word.ofTexts (place + block.texts.length) behind) := by
  have hschema : s.collector.schema = schema := h.schema
  have hturn := turnAt converter block place hschema hcut
  have hextent := Block.extent_of_takesAll htakes
    ((h.trans hturn).mem_turns (List.mem_append_right _ (List.mem_singleton_self _)))
  exact ⟨hextent, .block hschema hcut hextent⟩

namespace Progress

variable (converter : Converter) {s : Progress}

/-- The turn at a block matches nothing that the block does not spell. -/
theorem matched_turnAt_of_notMem {schema : Schema} {block : Block schema}
    (hschema : s.collector.schema = schema) (place : Nat) {p : Parameter}
    (hp : p ∉ block.parameters) :
    (s.turnAt converter block place).1.collector.matched p = s.collector.matched p := by
  subst hschema
  have hspelled : p ∉ (s.collector.schema.read block.flag).parameters := hp
  rw [turnAt, (turn_takes ..).matched_eq, map_parameter_turn]
  simp [hspelled]

/-- A declared flag is not left over, nor are the literals that it takes. -/
theorem leftovers_turnAt {schema : Schema} (block : Block schema) (hschema : s.collector.schema = schema)
    (place : Nat) : (s.turnAt converter block place).2.leftovers = [] := by
  obtain ⟨ps, hread⟩ := block.declared
  subst hschema
  rw [turnAt, turn_recognised converter s hread]
  split <;> rfl

end Progress

/-- The turn at a block comes to the same at another place, whatever was matched before but for the
parameters of the block. -/
theorem Progress.turnAt_moved {converter : Converter} (hstateless : converter.Stateless)
    (face : String → String) {schema : Schema} {block : Block schema} {s t : Progress}
    {f : Nat → Nat} {place other : Nat} (hschema : s.collector.schema = schema)
    (hschema' : t.collector.schema = schema)
    (hmatched : ∀ p ∈ block.parameters, t.collector.matched p = s.collector.matched p)
    (hplaces : ∀ i < block.texts.length, f (place + i) = other + i) :
    Turn.Moved face f (s.turnAt converter block place).2 (t.turnAt converter block other).2 := by
  have hwords := Word.ofTexts_eq_map_move hplaces
  rw [Block.ofTexts_texts, Block.ofTexts_texts, List.map_cons, List.cons.injEq] at hwords
  have hmoved := turn_move face f (w := ⟨block.flag, place⟩) (hschema'.trans hschema.symm)
    (by rwa [hschema]) (hstateless.confuses _ _) (block.literalsAt place)
  rwa [← hwords.1, ← hwords.2] at hmoved

section

variable {converter : Converter} {schema : Schema} {first second : Block schema}
  {before after : List String}

/-- Exchanging two blocks is a detour, whose turns come to the same in the other order. -/
theorem exists_detour_of_exchange (hstateless : converter.Stateless) (before : List String)
    (hdisjoint : first.parameters.Disjoint second.parameters) (hcut : schema.CutsOff after)
    (hfirst : first.TakesAll converter (before ++ (first.texts ++ (second.texts ++ after)))
      before.length)
    (hsecond : second.TakesAll converter (before ++ (first.texts ++ (second.texts ++ after)))
      (before.length + first.texts.length)) (face : String → String) :
    ∃ f earlier later s t,
      Detour converter schema before (first.texts ++ (second.texts ++ after))
          (second.texts ++ (first.texts ++ after)) f earlier later s t ∧
        (Turn.course face later).Perm ((Turn.course face earlier).map (·.move f)) := by
  let n := before.length
  let f := exchange n first.texts.length second.texts.length
  let s := afterFlags converter schema (Word.ofTexts 0 before)
  let one := s.turnAt converter first n
  let two := one.1.turnAt converter second (n + first.texts.length)
  let two' := s.turnAt converter second n
  let one' := two'.1.turnAt converter first (n + second.texts.length)
  have hschema : s.collector.schema = schema := schema_afterFlags ..
  have hschemaOne : one.1.collector.schema = schema :=
    (Progress.turn_takes converter s _ _).schema.trans hschema
  have hschemaTwo : two'.1.collector.schema = schema :=
    (Progress.turn_takes converter s _ _).schema.trans hschema
  -- In the first order, the blocks take all of their literals.
  have hahead := opens_append converter before (first.cutsOff (second.texts ++ after))
  obtain ⟨hextentOne, hone⟩ := hahead.append_block hfirst (second.cutsOff after)
  obtain ⟨hextentTwo, htwo⟩ := (hahead.trans hone).append_block hsecond hcut
  -- In the other order, the turn at each block is the same one at the other place.
  have hmovedTwo : Turn.Moved face f two.2 two'.2 := by
    refine Progress.turnAt_moved hstateless face hschemaOne hschema (fun p hp => ?_) fun i hi => ?_
    · exact (Progress.matched_turnAt_of_notMem converter hschema n fun hfirst =>
        hdisjoint hfirst hp).symm
    · grind [exchange]
  have hmovedOne : Turn.Moved face f one.2 one'.2 := by
    refine Progress.turnAt_moved hstateless face hschema hschemaTwo (fun p hp => ?_) fun i hi => ?_
    · exact Progress.matched_turnAt_of_notMem converter hschema n fun hsecond =>
        hdisjoint hp hsecond
    · grind [exchange]
  have htwo' := Progress.Opens.block hschema (first.cutsOff after) (hmovedTwo.extent.trans hextentTwo)
  have hone' := Progress.Opens.block hschemaTwo hcut (hmovedOne.extent.trans hextentOne)
  have hrest : Word.ofTexts (n + second.texts.length + first.texts.length) after =
      (Word.ofTexts (n + first.texts.length + second.texts.length) after).map (·.move f) :=
    Word.ofTexts_eq_map_move fun i _ => by grind [exchange]
  rw [hrest] at hone'
  refine ⟨f, [one.2, two.2], [two'.2, one'.2], _, _, ⟨injective_exchange .., ?fixed, first.cutsOff _,
    second.cutsOff _, ⟨_, hone.trans htwo, htwo'.trans hone'⟩, ?leftovers⟩, ?course⟩
  case fixed => exact fun i hi => if_pos hi
  case leftovers =>
    rw [List.flatMap_cons, List.flatMap_singleton, List.flatMap_cons, List.flatMap_singleton,
      Progress.leftovers_turnAt converter second hschema,
      Progress.leftovers_turnAt converter first hschemaTwo,
      Progress.leftovers_turnAt converter first hschema,
      Progress.leftovers_turnAt converter second hschemaOne]
    rfl
  case course =>
    rw [Turn.course_cons, Turn.course_cons, Turn.course_cons, Turn.course_cons]
    simp only [Turn.course_nil, List.append_nil, List.map_append, hmovedOne.parts, hmovedTwo.parts]
    exact List.perm_append_comm

end

/-- Results in another order tell the same value of every parameter, as long as no parameter has two. -/
theorem Outcome.get?_eq_of_perm {one other : Outcome} (hperm : other.results.Perm one.results)
    (hnodup : (one.results.map Entry.parameter).Nodup) (p : Parameter) :
    other.get? (.parameter p) = one.get? (.parameter p) := by
  have hfilter := hperm.filter (·.parameter = p)
  have hsame : other.results.filter (·.parameter = p) = one.results.filter (·.parameter = p) := by
    by_cases hp : p ∈ one.results.map Entry.parameter
    · obtain ⟨entry, hentry, rfl⟩ := List.mem_map.mp hp
      rw [filter_eq_singleton hnodup hentry] at hfilter ⊢
      exact List.perm_singleton.mp hfilter
    · have hnone : one.results.filter (·.parameter = p) = [] :=
        List.filter_eq_nil_iff.mpr fun entry hentry heq =>
          hp (of_decide_eq_true heq ▸ List.mem_map_of_mem hentry)
      rw [hnone] at hfilter ⊢
      exact hfilter.eq_nil
  unfold get?
  rw [← List.head?_filter, ← List.head?_filter]
  exact congrArg (fun entries => Option.map Entry.value entries.head?) hsame

/-- Two flags that spell different parameters and take all of the literals behind them can be typed in
either order, if the words behind them begin with a flag: for a converter without a memory, every
parameter has the same value, the same words are left over, and the same faults are found, but for their
places. -/
theorem parse_exchange_blocks {converter : Converter} (hstateless : converter.Stateless)
    {schema : Schema} (first second : Block schema) (before : List String) {after : List String}
    (hdisjoint : first.parameters.Disjoint second.parameters) (hcut : schema.CutsOff after)
    (hfirst : first.TakesAll converter (before ++ (first.texts ++ (second.texts ++ after)))
      before.length)
    (hsecond : second.TakesAll converter (before ++ (first.texts ++ (second.texts ++ after)))
      (before.length + first.texts.length)) :
    let one := parse converter schema (before ++ (first.texts ++ (second.texts ++ after)))
    let other := parse converter schema (before ++ (second.texts ++ (first.texts ++ after)))
    (∀ p, other.get? (.parameter p) = one.get? (.parameter p)) ∧
      other.positional = one.positional ∧
      (other.faults.map fun fault => (fault.substance, fault.token?)).Perm
        (one.faults.map fun fault => (fault.substance, fault.token?)) := by
  obtain ⟨f, earlier, later, s, t, hdetour, hcourse⟩ :=
    exists_detour_of_exchange hstateless before hdisjoint hcut hfirst hsecond id
  obtain ⟨hresults, hpositional, hfaults⟩ :=
    hdetour.outcome_perm id hcourse (hstateless.confuses _ _)
  have hdistinct := Collector.kept_distinct.collect converter schema
    (Word.ofTexts 0 (before ++ (first.texts ++ (second.texts ++ after)))) List.nodup_nil
  have hseen : Fault.seen id = fun fault => (fault.substance, fault.token?) := by
    funext fault
    rw [Fault.seen, Option.map_id]
    rfl
  rw [hseen] at hfaults
  exact ⟨Outcome.get?_eq_of_perm hresults hdistinct, hpositional, hfaults⟩

/-- A switch with its literal. -/
def switchBlock : Block switchAndItems where
  flag := "-v"
  literals := ["true"]
  declared := ⟨switchAndItems.parameters.take 1, by decide +kernel⟩
  literal := by decide +kernel

/-- A flag for words with two of them. -/
def itemsBlock : Block switchAndItems where
  flag := "-i"
  literals := ["a", "b"]
  declared := ⟨switchAndItems.parameters.drop 1, by decide +kernel⟩
  literal := by decide +kernel

/-- A switch and a flag for words are exchanged in front of an undeclared flag. -/
theorem parse_exchange_switch_items :
    let one := parse .standard switchAndItems
      (["x"] ++ (switchBlock.texts ++ (itemsBlock.texts ++ ["--w"])))
    let other := parse .standard switchAndItems
      (["x"] ++ (itemsBlock.texts ++ (switchBlock.texts ++ ["--w"])))
    (∀ p, other.get? (.parameter p) = one.get? (.parameter p)) ∧
      other.positional = one.positional ∧
      (other.faults.map fun fault => (fault.substance, fault.token?)).Perm
        (one.faults.map fun fault => (fault.substance, fault.token?)) := by
  have hdisjoint : switchBlock.parameters.Disjoint itemsBlock.parameters := by
    have hswitch : switchBlock.parameters = switchAndItems.parameters.take 1 := by decide +kernel
    have hitems : itemsBlock.parameters = switchAndItems.parameters.drop 1 := by decide +kernel
    rw [hswitch, hitems]
    exact List.disjoint_take_drop switchAndItems.nodup_parameters (Nat.le_refl 1)
  have hcut : switchAndItems.CutsOff ["--w"] := Schema.cutsOff_cons (by decide +kernel) []
  exact parse_exchange_blocks Converter.stateless_standard switchBlock itemsBlock ["x"] hdisjoint hcut
    (by decide +kernel) (by decide +kernel)

end CommandLine
