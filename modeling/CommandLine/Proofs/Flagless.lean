import CommandLine.Proofs.Leftovers
import CommandLine.Proofs.Overflow
import CommandLine.Proofs.Paraphrase.Bundle

namespace CommandLine

/-- Whether a parameter can take all of some texts: a boolean takes its literals only, and nothing takes
more than its maximum. -/
structure Parameter.Holds (p : Parameter) (texts : List String) : Prop where
  eligible : p.isBoolean = true → ∀ text ∈ texts, isBooleanLiteral text = true
  fits : ∀ maximum, p.window.maximum = some maximum → texts.length ≤ maximum

namespace Parameter.Holds

variable {p : Parameter} {words : List Word} (h : p.Holds (words.map Word.text))

include h

theorem eligible_eq : p.eligible words = words := by
  unfold Parameter.eligible
  split
  · next hboolean =>
    exact List.takeWhile_eq_self_iff.mpr fun w hw =>
      h.eligible hboolean w.text (List.mem_map_of_mem hw)
  · rfl

theorem take_eq : p.take words = words := by
  unfold Parameter.take Window.cut
  rw [h.eligible_eq]
  split
  · next maximum hmaximum =>
    exact List.take_of_length_le (by simpa using h.fits maximum hmaximum)
  · rfl

/-- Nothing is left of the words, so a flag has no surplus either. -/
theorem surplusOf_eq_nil (positional : Bool) : Collector.surplusOf p words positional = [] := by
  unfold Collector.surplusOf
  rw [h.eligible_eq, h.take_eq, List.drop_length, ite_self]

/-- A position and a flag differ in the surplus that they leave, so words that are all taken come to the
same by both of them. -/
theorem account_ofRun (face : String → String) (converter : Converter) (w : Word)
    (earlier : List Request) (ticket : Nat) :
    (Match.ofRun converter p w words true earlier ticket).account face =
      (Match.ofRun converter p w words false earlier ticket).account face := by
  rcases Nat.lt_or_ge (p.take words).length p.window.minimum with hshort | henough
  · rw [Match.ofRun_of_short converter w true earlier ticket hshort,
      Match.ofRun_of_short converter w false earlier ticket hshort]
    rfl
  · unfold Match.ofRun
    rw [if_neg (Nat.not_lt.mpr henough), if_neg (Nat.not_lt.mpr henough), h.surplusOf_eq_nil true,
      h.surplusOf_eq_nil false]

omit h in
/-- Words come to the same behind a flag as they do by themselves, one place further on. -/
theorem account_flag {texts : List String} (h : p.Holds texts) (converter : Converter)
    (flag anchor : Word) (ticket ticket' : Nat) :
    (Match.ofRun converter p flag (Word.ofTexts 1 texts) false [] ticket).account concealed =
      ((Match.ofRun converter p anchor (Word.ofTexts 0 texts) true [] ticket').account
        concealed).move (· + 1) := by
  have hwords : p.Holds ((Word.ofTexts 0 texts).map Word.text) := by rwa [Word.map_text_ofTexts]
  have hmove : Word.ofTexts 1 texts = (Word.ofTexts 0 texts).map (·.move (· + 1)) :=
    Word.ofTexts_eq_map_move fun i _ => by omega
  rw [hwords.account_ofRun, hmove]
  exact Match.account_ofRun_move _ p ticket ticket' (.refl []) (concealed_eq ..) _ false

end Parameter.Holds

/-- The lowest position is bound first. -/
theorem Schema.positionals_eq_cons {schema : Schema} {p : Parameter} {k : Nat}
    (hp : p ∈ schema.parameters) (hposition : p.position = some k)
    (hfirst : ∀ q ∈ schema.parameters, ∀ n, q.position = some n → k ≤ n) :
    ∃ rest, schema.positionals = p :: rest := by
  have hmem : p ∈ schema.positionals :=
    schema.mem_positionals_iff.mpr ⟨hp, by rw [hposition]; rfl⟩
  have hpairwise := schema.pairwise_positionals
  have hdeclared : ∀ q ∈ schema.positionals, q ∈ schema.parameters :=
    fun q hq => (schema.mem_positionals_iff.mp hq).1
  cases hpositionals : schema.positionals with
  | nil =>
    rw [hpositionals] at hmem
    cases hmem
  | cons q rest =>
    rw [hpositionals] at hmem hpairwise hdeclared
    obtain rfl | hrest := List.mem_cons.mp hmem
    · exact ⟨rest, rfl⟩
    · obtain ⟨m, n, hm, hn, hlt⟩ := List.rel_of_pairwise_cons hpairwise hrest
      have hle := hfirst q (hdeclared q List.mem_cons_self) m hm
      rw [hposition, Option.some_inj] at hn
      omega

theorem Progress.scan_nil (converter : Converter) (s : Progress) : s.scan converter [] 0 = (s, []) := by
  rw [scan.eq_1, dif_neg (by simp)]

/-- Without words no position is bound. -/
theorem Collector.Binds.eq_nil {converter : Converter} {ps : List Parameter} {ms : List Match}
    (h : Binds converter ps [] ms) : ms = [] := by
  refine List.eq_nil_iff_forall_not_mem.mpr fun m hm => ?_
  obtain ⟨_, before, anchor, behind, hsplit, _⟩ := h.exists_split m hm
  cases List.append_eq_nil_iff.mp hsplit.symm |>.2

/-- What an outcome tells about a parameter: its value, and the substance of the faults about it. -/
structure Outcome.Tells (outcome : Outcome) (p : Parameter) (value : Value)
    (faults : List Fault.Substance) : Prop where
  value : outcome.get? (.parameter p) = some value
  faults : (outcome.faults.filter (·.parameter? = some p)).map Fault.substance = faults

/-- An outcome tells about a parameter what its match comes to, if that cannot overflow. -/
theorem tells_of_mem {converter : Converter} {schema : Schema} {words : List Word} {m : Match}
    (hm : m ∈ (transcript converter schema words).made) (hpending : m.resolution.pending = none)
    (face : String → String) :
    (collect converter schema words).freeze.Tells m.parameter (m.account face).value
      ((m.account face).faults.map Prod.fst) where
  value := by
    rw [get?_of_mem hm, Match.settled_of_pending hpending]
    rfl
  faults := by
    change ((collect converter schema words).faults.filter _).map _ = _
    rw [faults_about_of_mem hm, Match.standing_of_pending (coherent_of_mem_transcript hm) hpending,
      Match.account, List.map_map, List.map_map]
    rfl

section

variable (converter : Converter) {schema : Schema} {p : Parameter} {words : List Word}
  (hliterals : ∀ w ∈ words, schema.read w.text = .literal) (hholds : p.Holds (words.map Word.text))

include hliterals hholds

/-- A flag that takes all of the words behind it is the only one to match anything. -/
theorem made_of_flag {w : Word} (hflag : (schema.read w.text).flag? = some (.recognised [p])) :
    let m := Match.ofRun converter p w words false [] 0
    (transcript converter schema (w :: words)).flagged = [m] ∧
      (transcript converter schema (w :: words)).bindings = [] := by
  intro m
  have hrun : schema.leadingLiterals words = words :=
    List.takeWhile_eq_self_iff.mpr fun v hv => by rw [hliterals v hv]; rfl
  have hturn := Progress.turn_of_new converter (s := ⟨.new schema, []⟩) hflag (List.cons_ne_nil p [])
    (List.nodup_singleton p) (fun _ _ => rfl) words
  have hopens := Progress.Opens.turn converter ⟨.new schema, []⟩ w words
  have hlongest : Match.longest [m] = words.length := by
    simp [Match.longest, m, hholds.take_eq]
  change _ = Turn.matched w [p] (schema.leadingLiterals words)
    [Match.ofRun converter p w (schema.leadingLiterals words) false [] 0] at hturn
  rw [hturn, hrun, Turn.extent, hlongest, Nat.add_sub_cancel_left, List.drop_length] at hopens
  have hturns : turns converter schema (w :: words) = [.matched w [p] words [m]] := by
    rw [turns, hopens.scan, Progress.scan_nil]
    rfl
  have hbinds := binds_transcript converter schema (w :: words)
  rw [leftovers_afterFlags, hturns] at hbinds
  refine ⟨?_, hbinds.eq_nil⟩
  change (turns converter schema (w :: words)).flatMap Turn.made = [m]
  rw [hturns]
  rfl

/-- The first position takes all of the words, and no other one is bound. -/
theorem bindings_of_literals (hne : words ≠ []) {rest : List Parameter}
    (hpositionals : schema.positionals = p :: rest) :
    ∃ anchor ticket, (transcript converter schema words).bindings =
      [Match.ofRun converter p anchor words true [] ticket] := by
  let c := (afterFlags converter schema words).collector
  have hnew : c.matched p = false := by
    rw [Collector.matched, entries_of_literals converter hliterals]
    rfl
  have hrequests : c.requests = [] := by
    rw [(afterFlags_reaches converter schema words).requests]
    change [] ++ (transcript converter schema words).flagged.flatMap _ = []
    rw [flagged_of_literals converter hliterals]
    rfl
  obtain ⟨anchor, behind, rfl⟩ := List.exists_cons_of_ne_nil hne
  obtain ⟨_, hbindings⟩ := Collector.bindEach_of_eligible converter rest (c := c) hnew
    (by rw [hholds.eligible_eq]; exact hne)
  rw [Match.taken_ofRun, hholds.take_eq, List.drop_length, hrequests,
    (Collector.binds_bindings ..).eq_nil] at hbindings
  refine ⟨anchor, c.issued, ?_⟩
  change c.bindings converter schema.positionals c.leftovers = _
  rw [hpositionals, leftovers_of_literals converter hliterals]
  exact hbindings

end

/-- The parameter with the lowest position may be given words without its flag: a command line of the flag
and words that the parameter can take tells the same about it as the words alone, and in both of them
the words match nothing else. -/
theorem parse_flagless (converter : Converter) {schema : Schema} {p : Parameter} {name : String}
    {k : Nat} {texts : List String} (hp : p ∈ schema.parameters) (hname : name ∈ p.longs)
    (hposition : p.position = some k)
    (hfirst : ∀ q ∈ schema.parameters, ∀ n, q.position = some n → k ≤ n)
    (hne : texts ≠ []) (hliterals : ∀ text ∈ texts, schema.read text = .literal)
    (hholds : p.Holds texts) :
    let flagged := ("--" ++ name) :: texts
    (∃ value faults, (parse converter schema flagged).Tells p value faults ∧
        (parse converter schema texts).Tells p value faults) ∧
      (afterBinding converter schema (Word.ofTexts 0 flagged)).entries.map Entry.parameter = [p] ∧
      (afterBinding converter schema (Word.ofTexts 0 texts)).entries.map Entry.parameter = [p] := by
  intro flagged
  let w : Word := ⟨"--" ++ name, 0⟩
  have hread : ∀ first, ∀ v ∈ Word.ofTexts first texts, schema.read v.text = .literal :=
    fun first => (Word.forall_mem_ofTexts_iff first).mpr hliterals
  have hwords : ∀ first, p.Holds ((Word.ofTexts first texts).map Word.text) := by
    intro first
    rwa [Word.map_text_ofTexts]
  have hflag : (schema.read w.text).flag? = some (.recognised [p]) := by
    rw [Schema.read_long hp hname]
    rfl
  obtain ⟨hflagged, hnone⟩ := made_of_flag converter (hread 1) (hwords 1) hflag
  obtain ⟨rest, hpositionals⟩ := Schema.positionals_eq_cons hp hposition hfirst
  obtain ⟨anchor, ticket, hbound⟩ := bindings_of_literals converter (hread 0) (hwords 0)
    (by simpa [Word.ofTexts] using hne) hpositionals
  have hempty := flagged_of_literals converter (hread 0)
  let m := Match.ofRun converter p w (Word.ofTexts 1 texts) false [] 0
  let n := Match.ofRun converter p anchor (Word.ofTexts 0 texts) true [] ticket
  have hm : m ∈ (transcript converter schema (Word.ofTexts 0 flagged)).made :=
    mem_made_of_mem_flagged (hflagged ▸ List.mem_singleton_self m)
  have hn : n ∈ (transcript converter schema (Word.ofTexts 0 texts)).bindings :=
    hbound ▸ List.mem_singleton_self n
  have haccount : m.account concealed = (n.account concealed).move (· + 1) :=
    hholds.account_flag converter w anchor 0 ticket
  have hpending : n.resolution.pending = none := pending_of_mem_bindings hn
  have htold := tells_of_mem hm (Match.pending_eq_none_of_account _ haccount hpending) concealed
  have htold' := tells_of_mem (mem_made_of_mem_bindings hn) hpending concealed
  rw [haccount, Match.parameter_ofRun] at htold
  rw [Match.parameter_ofRun] at htold'
  refine ⟨⟨_, _, htold, htold'⟩, ?_, ?_⟩
  · have hentries := map_parameter_afterBinding converter schema (w :: Word.ofTexts 1 texts)
    rw [hflagged, hnone, List.append_nil, List.map_singleton, Match.parameter_ofRun] at hentries
    exact hentries
  · have hentries := map_parameter_afterBinding converter schema (Word.ofTexts 0 texts)
    rw [hempty, hbound, List.nil_append, List.map_singleton, Match.parameter_ofRun] at hentries
    exact hentries

/-- A flag for two or three words that is bound before all others by its position. -/
def pairFlag : Parameter :=
  { oneWordFlag with
    type := .list .raw
    position := some 0
    arity := some ⟨2, some 3, fun _ hbound => Option.some_inj.mp hbound ▸ by decide⟩
    named_or_placed := .inl (List.cons_ne_nil _ _) }

/-- A flag for any number of words that is bound behind it. -/
def itemsBehind : Parameter :=
  { shortFlag 1 'b' (.list .raw) rfl with
    position := some 1
    named_or_placed := .inr (.inl (List.cons_ne_nil _ _)) }

theorem compatible_pairFlag : pairFlag.Compatible itemsBehind :=
  ⟨by decide, by simp [itemsBehind, shortFlag], by simp [itemsBehind, shortFlag, pairFlag, oneWordFlag],
    by simp [itemsBehind, pairFlag]⟩

/-- A flag for a pair, and one for the words behind the pair. -/
def pairAndItems : Schema :=
  ⟨[pairFlag, itemsBehind], List.pairwise_pair.mpr compatible_pairFlag⟩

/-- One word is too few for a pair, with the flag in front and without it. -/
theorem parse_flagless_pair :
    let flagged := ("--" ++ "name") :: ["a"]
    (∃ value faults, (parse .standard pairAndItems flagged).Tells pairFlag value faults ∧
        (parse .standard pairAndItems ["a"]).Tells pairFlag value faults) ∧
      (afterBinding .standard pairAndItems (Word.ofTexts 0 flagged)).entries.map Entry.parameter =
        [pairFlag] ∧
      (afterBinding .standard pairAndItems (Word.ofTexts 0 ["a"])).entries.map Entry.parameter =
        [pairFlag] := by
  have hread : ∀ text ∈ ["a"], pairAndItems.read text = .literal := by decide +kernel
  have hholds : pairFlag.Holds ["a"] :=
    ⟨nofun, fun maximum hmaximum => Option.some_inj.mp hmaximum ▸ by decide⟩
  exact parse_flagless .standard List.mem_cons_self List.mem_cons_self rfl
    (fun _ _ _ _ => Nat.zero_le _) (List.cons_ne_nil _ _) hread hholds

end CommandLine
