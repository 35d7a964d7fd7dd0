import CommandLine.Parameter.Declaration
import CommandLine.Proofs.Paraphrase.Basic
import CommandLine.Proofs.Reading

namespace CommandLine

open Text

namespace Schema

variable {s : Schema}

/-- A declared short name behind a hyphen is read as its parameter. -/
theorem read_short {p : Parameter} {name : Char} (h : s.short? name = some p) :
    s.read (Spelling.short name).text = .group [p] := by
  have hmem : p ∈ s.parameters := List.mem_of_find?_eq_some h
  have hletter := p.shorts_valid name ((short?_eq_some_iff hmem name).mp h)
  have hdigit : isDecimal name = false := by
    by_contra hdecimal
    rw [isLetter_eq_false_of_isDecimal (by simpa using hdecimal)] at hletter
    cases hletter
  have hhyphen : name ≠ '-' := by
    rintro rfl
    have hword := isWord_of_isLetter hletter
    rw [isWord_hyphen] at hword
    cases hword
  have hnumber : startsNumber [name] = false := by
    unfold startsNumber
    split
    · next heq => cases heq
    · next heq =>
      cases heq
      exact hdigit
    · rfl
  have hgroup : s.shorts? [name] = some [p] := by
    simp [shorts?, h]
  have htext : (Spelling.short name).text.toList = ['-', name] := String.toList_ofList
  unfold read
  rw [htext]
  split
  · next heq => cases heq
  · next heq =>
    cases heq
    exact absurd rfl hhyphen
  · next heq =>
    cases heq
    simp only [hnumber, hgroup, Bool.false_eq_true, if_false]
  · next hother => exact absurd rfl (hother name [])

/-- A bundle has at least one name. -/
theorem ne_nil_of_read_eq_group {text : String} {ps : List Parameter} (h : s.read text = .group ps) :
    ps ≠ [] := by
  rintro rfl
  have htail : text.toList.tail = [] :=
    List.map_eq_nil_iff.mp (map_short?_of_shorts? (read_eq_group h))
  unfold read at h
  split at h
  case h_4 => cases h
  all_goals next heq => rw [heq] at htail; cases htail

end Schema

namespace Progress

/-- A short name behind a hyphen of its own opens a scan with what its parameter comes to behind any other
flag, over the words that it is given. -/
theorem Opens.short {converter : Converter} {schema : Schema} {s : Progress} {v : Word} {name : Char}
    {p : Parameter} {rest run : List Word} {requests : List Request} (f : Nat → Nat) (w : Word)
    (ticket : Nat) (hschema : s.collector.schema = schema) (hname : schema.short? name = some p)
    (hv : v.text = (Spelling.short name).text) (hnew : s.collector.matched p = false)
    (hconfused : converter.Confuses s.collector.requests requests)
    (hrun : schema.leadingLiterals rest = run.map (·.move f)) :
    let m := Match.ofRun converter p w run false requests ticket
    ∃ turn t, Opens converter s (v :: rest) [turn] t (rest.drop m.taken.length) ∧
      Turn.parts concealed turn = [.made ((m.account concealed).move f)] ∧ turn.leftovers = [] ∧
        (∀ q, q ≠ p → t.collector.matched q = s.collector.matched q) ∧
          t.collector.requests = s.collector.requests ++ m.trail.requests := by
  have hread : s.collector.schema.read v.text = .group [p] := by
    rw [hschema, hv]
    exact Schema.read_short hname
  have haccount := Match.account_ofRun_move f p s.collector.issued ticket hconfused
    (concealed_eq v.text w.text) run false
  rw [← hrun, ← hschema] at haccount
  obtain ⟨turn, t, hopens, hparts, hleft, hkept, hrequests⟩ := Opens.single hread hnew haccount
  refine ⟨turn, t, ?_, hparts, hleft, hkept, hrequests⟩
  simpa [Match.account, Match.Account.move] using hopens

/-- Short names behind hyphens of their own open a scan with what a bundle of them comes to. -/
theorem opens_singles (converter : Converter) {schema : Schema} (f : Nat → Nat) (rest : List Word)
    {names : List Char} {ps : List Parameter}
    (hnames : names.map schema.short? = ps.map some) (hne : ps ≠ []) (hnodup : ps.Nodup) :
    ∀ (s : Progress) (words : List Word) (requests : List Request) (w : Word) (ticket : Nat),
      s.collector.schema = schema → (∀ p ∈ ps, s.collector.matched p = false) →
      converter.Confuses s.collector.requests requests →
      words.map Word.text = names.map (fun name => (Spelling.short name).text) →
      let made := Match.each converter w (schema.leadingLiterals rest) ps requests ticket
      ∃ turns t, Opens converter s (words ++ rest.map (·.move f)) turns t
          ((rest.map (·.move f)).drop (Match.longest made)) ∧
        Turn.course concealed turns =
          made.map (fun m => .made ((m.account concealed).move f)) ∧
        turns.flatMap Turn.leftovers = [] := by
  induction ps generalizing names with
  | nil => exact absurd rfl hne
  | cons p others ih =>
    intro s words requests w ticket hschema hnew hconfused hwords
    obtain ⟨name, names, rfl, hname, hnames⟩ := List.map_eq_cons_iff.mp hnames
    obtain ⟨v, words, rfl, hv, hwords⟩ := List.map_eq_cons_iff.mp hwords
    obtain ⟨hfirst, hnew⟩ := List.forall_mem_cons.mp hnew
    obtain ⟨hp, hnodup⟩ := List.nodup_cons.mp hnodup
    cases others with
    | nil =>
      -- The last name is given what stands behind all of them.
      obtain rfl : names = [] := List.map_eq_nil_iff.mp hnames
      obtain rfl : words = [] := List.map_eq_nil_iff.mp hwords
      obtain ⟨turn, t, hopens, hparts, hleft, _⟩ := Opens.short f w ticket hschema hname hv hfirst
        hconfused (schema.leadingLiterals_map_move f rest)
      refine ⟨[turn], t, ?_, ?_, by simp [hleft]⟩
      · simpa [Match.each, Match.longest] using hopens
      · simp [Turn.course, hparts, Match.each]
    | cons q others =>
      -- Behind any other name stands a flag, so the name is given nothing.
      have hcut : schema.CutsOff ((words ++ rest.map (·.move f)).map Word.text) := by
        obtain ⟨name', names, rfl, hname', _⟩ := List.map_eq_cons_iff.mp hnames
        obtain ⟨v', words, rfl, hv', _⟩ := List.map_eq_cons_iff.mp hwords
        refine Schema.cutsOff_cons ?_ _
        rw [hv', Schema.read_short hname']
        rfl
      let m := Match.ofRun converter p w [] false requests ticket
      have hempty : m.taken = [] := Match.taken_ofRun_nil p false
      have hnothing : schema.leadingLiterals (words ++ rest.map (·.move f)) =
          ([] : List Word).map (·.move f) := Schema.leadingLiterals_of_cutsOff hcut
      obtain ⟨turn, t, hopens, hparts, hleft, hkept, hrequests⟩ := Opens.short f w ticket hschema hname
        hv hfirst hconfused hnothing
      rw [hempty, List.length_nil, List.drop_zero] at hopens
      have hnew' : ∀ q' ∈ q :: others, t.collector.matched q' = false := fun q' hq' => by
        rw [hkept q' fun heq => hp (heq ▸ hq'), hnew q' hq']
      obtain ⟨turns, u, hlater, hcourse, hleftovers⟩ := ih hnames (List.cons_ne_nil q others) hnodup t
        words (requests ++ m.trail.requests) w (ticket + m.trail.recorded.length)
        (hopens.schema.trans hschema) hnew' (by rw [hrequests]; exact hconfused.append _) hwords
      rw [Match.each.eq_3 _ _ _ _ _ _ _ (List.cons_ne_nil q others)]
      refine ⟨turn :: turns, u, ?_, ?_, by simp [hleft, hleftovers]⟩
      · rw [Match.longest_cons_of_taken_eq_nil hempty]
        exact hopens.trans hlater
      · rw [Turn.course_cons, hparts, hcourse, List.map_cons]
        rfl

end Progress

/-- The short names of a bundle, each behind a hyphen of its own. -/
def singles (bundle : String) : List String :=
  bundle.toList.tail.map fun name => (Spelling.short name).text

/-- A bundle has as many names as parameters. -/
theorem length_singles {s : Schema} {bundle : String} {ps : List Parameter}
    (hread : s.read bundle = .group ps) : (singles bundle).length = ps.length := by
  have hlengths := congrArg List.length (Schema.map_short?_of_shorts? (Schema.read_eq_group hread))
  rw [List.length_map, List.length_map] at hlengths
  rw [singles, List.length_map, hlengths]

/-- The names of a bundle begin with a flag. -/
theorem exists_singles_eq_cons {s : Schema} {bundle : String} {ps : List Parameter}
    (hread : s.read bundle = .group ps) :
    ∃ first others, singles bundle = first :: others ∧ (s.read first).isFlag = true := by
  have hnames := Schema.map_short?_of_shorts? (Schema.read_eq_group hread)
  obtain ⟨p, others, rfl⟩ := List.exists_cons_of_ne_nil (Schema.ne_nil_of_read_eq_group hread)
  obtain ⟨name, names, htail, hname, _⟩ := List.map_eq_cons_iff.mp hnames
  refine ⟨_, _, congrArg (List.map fun name => (Spelling.short name).text) htail, ?_⟩
  rw [Schema.read_short hname]
  rfl

/-- Whether the parameters of a bundle share the text behind it: there are two or more of them, all are
boolean flags, and the text is a literal that spells a boolean. -/
def Schema.Shares (s : Schema) (ps : List Parameter) (after : List String) : Prop :=
  2 ≤ ps.length ∧ (∀ p ∈ ps, p.isBoolean = true) ∧
    ∃ text ∈ after.head?, s.read text = .literal ∧ isBooleanLiteral text = true

theorem broadcastLiteral?_eq_none {s : Schema} {ps : List Parameter} {after : List String}
    (h : ¬ s.Shares ps after) (first : Nat) :
    Collector.broadcastLiteral? ps (s.leadingLiterals (Word.ofTexts first after)) = none := by
  by_contra hsome
  obtain ⟨literal, hshared⟩ := Option.ne_none_iff_exists'.mp hsome
  apply h
  unfold Collector.broadcastLiteral? at hshared
  split at hshared
  · next hboolean =>
    rw [Bool.and_eq_true, decide_eq_true_iff, List.all_eq_true] at hboolean
    obtain ⟨hhead, hliteral⟩ := Option.filter_eq_some_iff.mp hshared
    refine ⟨hboolean.1, hboolean.2, literal.text, ?_, ?_, hliteral⟩
    · obtain ⟨run, hrun⟩ := List.head?_eq_some_iff.mp hhead
      have hprefix : literal :: run <+: Word.ofTexts first after :=
        hrun ▸ List.takeWhile_prefix _
      obtain ⟨behind, hbehind⟩ := hprefix
      rw [← Word.map_text_ofTexts first after, ← hbehind]
      rfl
    · exact Schema.read_of_mem_leadingLiterals (List.mem_of_mem_head? hhead)
  · cases hshared

/-- Taking the names of a bundle apart is a detour, whose turns come to what the turn of the bundle comes
to. -/
theorem exists_detour_of_bundle (converter : Converter) {schema : Schema} (before after : List String)
    {bundle : String} {ps : List Parameter} (hread : schema.read bundle = .group ps)
    (hnodup : ps.Nodup)
    (hnew : ∀ p ∈ ps,
      (afterFlags converter schema (Word.ofTexts 0 before)).collector.matched p = false)
    (hshares : ¬ schema.Shares ps after) :
    ∃ f earlier later s t,
      Detour converter schema before (bundle :: after) (singles bundle ++ after) f earlier later s t ∧
        Turn.course concealed later = (Turn.course concealed earlier).map (·.move f) := by
  let n := before.length
  let s := afterFlags converter schema (Word.ofTexts 0 before)
  let f := pushBehind n ((singles bundle).length - 1)
  have hschema : s.collector.schema = schema := schema_afterFlags ..
  have hnames := Schema.map_short?_of_shorts? (Schema.read_eq_group hread)
  have hne := Schema.ne_nil_of_read_eq_group hread
  have hlength : 0 < (singles bundle).length := by
    rw [length_singles hread]
    exact List.length_pos_iff.mpr hne
  have hmoved : Word.ofTexts (n + (singles bundle).length) after =
      (Word.ofTexts (n + 1) after).map (·.move f) :=
    Word.ofTexts_eq_map_move fun i _ => by grind [pushBehind]
  obtain ⟨later, t, hsecond, hcourse, hleft⟩ := Progress.opens_singles converter f
    (Word.ofTexts (n + 1) after) hnames hne hnodup s (Word.ofTexts n (singles bundle))
    s.collector.requests ⟨bundle, n⟩ s.collector.issued hschema hnew (.refl _)
    (Word.map_text_ofTexts ..)
  have hturn := Progress.turn_of_new converter (s := s) (w := ⟨bundle, n⟩) (by rw [hschema, hread]; rfl)
    hne hnodup hnew (Word.ofTexts (n + 1) after)
  have hfirst := Progress.Opens.turn converter s ⟨bundle, n⟩ (Word.ofTexts (n + 1) after)
  rw [hturn, hschema, Match.group, broadcastLiteral?_eq_none hshares] at hfirst
  refine ⟨f, _, later, _, t,
    ⟨injective_pushBehind _ _, ?fixed, ?cut, ?cut', ⟨_, hfirst, ?opens⟩, hleft⟩, ?course⟩
  case fixed => exact fun i hi => if_pos (Nat.le_of_lt hi)
  case cut => exact Schema.cutsOff_cons (by rw [hread]; rfl) _
  case cut' =>
    obtain ⟨first, others, hsingles, hflag⟩ := exists_singles_eq_cons hread
    rw [hsingles]
    exact Schema.cutsOff_cons hflag _
  case opens =>
    rw [Word.ofTexts_append, hmoved, List.map_drop]
    simpa [Turn.extent] using hsecond
  case course =>
    rw [hcourse]
    simp [Turn.course, Turn.parts, Turn.Part.move, Function.comp_def]

/-- A bundle of short names that are given for the first time says what the names say one by one, unless
they share the text behind them: the parse comes to the same results, leaves the same words over and
finds the same faults, but for the words that these point at. -/
theorem parse_bundle_eq_singles (converter : Converter) {schema : Schema} (before after : List String)
    {bundle : String} {ps : List Parameter} (hread : schema.read bundle = .group ps)
    (hnodup : ps.Nodup)
    (hnew : ∀ p ∈ ps,
      (afterFlags converter schema (Word.ofTexts 0 before)).collector.matched p = false)
    (hshares : ¬ schema.Shares ps after) :
    let bundled := parse converter schema (before ++ bundle :: after)
    let apart := parse converter schema (before ++ (singles bundle ++ after))
    apart.results = bundled.results ∧ apart.positional = bundled.positional ∧
      apart.faults.map Fault.substance = bundled.faults.map Fault.substance := by
  obtain ⟨f, earlier, later, s, t, hdetour, hcourse⟩ :=
    exists_detour_of_bundle converter before after hread hnodup hnew hshares
  exact hdetour.outcome_eq hcourse

/-- A flag that has one short name and no other demands. -/
def shortFlag (key : Nat) (name : Char) (type : Descriptor) (hname : isLetter name = true) :
    Parameter where
  key := key
  longs := []
  shorts := [name]
  type := type
  required := false
  fallback := none
  position := none
  arity := none
  description := none
  longs_valid := NameSet.empty.longs_valid
  shorts_valid := by simpa using hname
  longs_nodup := List.nodup_nil
  shorts_nodup := List.nodup_singleton name
  named_or_placed := .inr (.inl (List.cons_ne_nil name []))

theorem compatible_shortFlag {first second : Nat} {name other : Char} {type type' : Descriptor}
    {hname : isLetter name = true} {hother : isLetter other = true} (hne : name ≠ other) :
    (shortFlag first name type hname).Compatible (shortFlag second other type' hother) := by
  refine ⟨fun heq => hne ?_, by simp [shortFlag], by simp [shortFlag, hne], by simp [shortFlag]⟩
  simpa [shortFlag] using congrArg Parameter.shorts heq

/-- A switch and a flag for any number of words. -/
def switchAndItems : Schema where
  parameters := [shortFlag 0 'v' (.scalar (.known .boolean)) rfl, shortFlag 1 'i' (.list .raw) rfl]
  compatible := List.pairwise_pair.mpr (compatible_shortFlag (by decide))

/-- A switch that is bundled with a flag for words leaves these to the flag. -/
theorem parse_bundled_switch :
    let bundled := parse .standard switchAndItems (["x"] ++ "-vi" :: ["a", "b"])
    let apart := parse .standard switchAndItems (["x"] ++ (["-v", "-i"] ++ ["a", "b"]))
    apart.results = bundled.results ∧ apart.positional = bundled.positional ∧
      apart.faults.map Fault.substance = bundled.faults.map Fault.substance := by
  have hread : switchAndItems.read "-vi" = .group switchAndItems.parameters := by decide +kernel
  have hnodup : switchAndItems.parameters.Nodup := switchAndItems.nodup_parameters
  have hnew : ∀ p ∈ switchAndItems.parameters,
      (afterFlags .standard switchAndItems (Word.ofTexts 0 ["x"])).collector.matched p = false := by
    decide +kernel
  have hshares : ¬ switchAndItems.Shares switchAndItems.parameters ["a", "b"] := by
    rintro ⟨_, hboolean, _⟩
    cases hboolean _ (List.mem_cons_of_mem _ (List.mem_singleton_self _))
  have hsingles : singles "-vi" = ["-v", "-i"] := by decide +kernel
  rw [← hsingles]
  exact parse_bundle_eq_singles .standard ["x"] ["a", "b"] hread hnodup hnew hshares

end CommandLine
