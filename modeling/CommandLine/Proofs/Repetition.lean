import CommandLine.Proofs.Accounting
import CommandLine.Proofs.Order.Results
import CommandLine.Proofs.Overflow
import CommandLine.Proofs.Paraphrase.Bundle

namespace CommandLine

/-- A reading that spells parameters is a declared flag for them. -/
theorem Reading.flag?_of_parameters {reading : Reading} (hne : reading.parameters ≠ []) :
    reading.flag? = some (.recognised reading.parameters) := by
  cases reading with
  | long p => rfl
  | group ps => rfl
  | unrecognised => exact absurd rfl hne
  | literal => exact absurd rfl hne

theorem Reading.isFlag_of_parameters {reading : Reading} (hne : reading.parameters ≠ []) :
    reading.isFlag = true := by
  cases reading <;> first | rfl | exact absurd rfl hne

/-- Whether parameters that a flag matches have no use for the run behind it: they share no literal of it, and
the last of them takes none. -/
def TakeNothing (ps : List Parameter) (run : List Word) : Prop :=
  Collector.broadcastLiteral? ps run = none ∧ ∀ p, ps.getLast? = some p → p.take run = []

theorem takeNothing_nil (run : List Word) : TakeNothing [] run :=
  ⟨rfl, by simp⟩

namespace Match

variable {converter : Converter} {anchor : Word} {run : List Word} {ps : List Parameter}
  {earlier : List Request} {ticket : Nat}

/-- The parameters of a flag reach over nothing exactly if they have no use for the run. -/
theorem longest_group_eq_zero_iff (hnodup : ps.Nodup) :
    longest (group converter ps anchor run earlier ticket) = 0 ↔ TakeNothing ps run := by
  have hparameters := map_parameter_group converter ps anchor run earlier ticket
  rw [← Nat.le_zero, longest_le_iff]
  constructor
  · intro hnothing
    have hempty : ∀ m ∈ group converter ps anchor run earlier ticket, m.taken = [] :=
      fun m hm => List.eq_nil_of_length_eq_zero (Nat.le_zero.mp (hnothing m hm))
    have hmatch : ∀ p ∈ ps, ∃ m ∈ group converter ps anchor run earlier ticket, m.parameter = p := by
      intro p hp
      rw [← hparameters] at hp
      exact List.mem_map.mp hp
    cases hshared : Collector.broadcastLiteral? ps run with
    | some literal =>
      have hne : ps ≠ [] := by
        rintro rfl
        cases hshared
      obtain ⟨p, hp⟩ := List.exists_mem_of_ne_nil ps hne
      obtain ⟨m, hm, _⟩ := hmatch p hp
      obtain ⟨_, ⟨_, _, heq⟩ | ⟨halone, _⟩⟩ := mem_group hnodup hm
      · have htaken := hempty m hm
        rw [heq] at htaken
        cases htaken
      · rw [hshared] at halone
        cases halone
    | none =>
      refine ⟨hshared, fun p hlast => ?_⟩
      obtain ⟨m, hm, rfl⟩ := hmatch p (List.mem_of_getLast? hlast)
      obtain ⟨_, ⟨literal, hliteral, _⟩ | ⟨_, heq⟩⟩ := mem_group hnodup hm
      · rw [hshared] at hliteral
        cases hliteral
      · have htaken := hempty m hm
        rwa [heq, taken_ofRun, given, if_pos hlast] at htaken
  · rintro ⟨halone, hlast⟩ m hm
    obtain ⟨_, ⟨literal, hshared, _⟩ | ⟨_, heq⟩⟩ := mem_group hnodup hm
    · rw [halone] at hshared
      cases hshared
    · have hempty : m.taken = [] := by
        rw [heq, taken_ofRun, given]
        split
        · next hp => exact hlast _ hp
        · exact List.prefix_nil.mp (m.parameter.take_prefix [])
      rw [hempty, List.length_nil]

end Match

/-- The literals behind a flag, up to the next flag. -/
def Schema.runBehind (s : Schema) (before behind : List String) : List Word :=
  s.leadingLiterals (Word.ofTexts (before.length + 1) behind)

/-- Those of some parameters that no text before spells, each once. -/
def Schema.unspelled (s : Schema) (before : List String) (ps : List Parameter) : List Parameter :=
  (ps.filter (· ∉ s.spelled (Word.ofTexts 0 before))).eraseDups

/-- A parameter that comes again at the end is not new there. -/
theorem Schema.unspelled_concat {s : Schema} {before : List String} {ps : List Parameter} {p : Parameter}
    (hrepeated : p ∈ s.spelled (Word.ofTexts 0 before) ∨ p ∈ ps) :
    s.unspelled before (ps ++ [p]) = s.unspelled before ps := by
  unfold unspelled
  rw [List.filter_append]
  by_cases hold : p ∈ s.spelled (Word.ofTexts 0 before)
  · rw [List.filter_cons_of_neg (by simpa using hold), List.filter_nil, List.append_nil]
  · have hmem : p ∈ ps.filter (· ∉ s.spelled (Word.ofTexts 0 before)) :=
      List.mem_filter.mpr ⟨hrepeated.resolve_left hold, by simpa using hold⟩
    rw [List.filter_cons_of_pos (by simpa using hold), List.filter_nil, eraseDups_concat_of_mem hmem]

/-- Whether all literals behind a flag are left over, up to the next flag. -/
def LeavesRun (converter : Converter) (schema : Schema) (before : List String) (flag : String)
    (behind : List String) : Prop :=
  let words := Word.ofTexts 0 (before ++ flag :: behind)
  ∀ v ∈ schema.runBehind before behind,
    Plays converter schema words v .left ∧ ∀ index, ¬ Plays converter schema words v (.taken index)

section

variable {converter : Converter} {schema : Schema} {words : List Word} {flag : Word}
  {fresh : List Parameter} {run : List Word} {made : List Match}

/-- The flags of a parse match what its words spell. -/
theorem matched_afterFlags_iff (p : Parameter) :
    (afterFlags converter schema words).collector.matched p = true ↔ p ∈ schema.spelled words := by
  rw [Collector.matched_iff, map_parameter_afterFlags, map_parameter_flagged, List.mem_eraseDups]

/-- The run behind a flag is left over exactly if the parameters that the flag matches have no use for it. -/
theorem left_run_iff (hwords : words.Nodup)
    (ht : .matched flag fresh run made ∈ turns converter schema words) :
    (∀ v ∈ run, Plays converter schema words v .left) ↔ TakeNothing fresh run := by
  obtain ⟨_, hnodup, _, _, hmade⟩ := exists_group_of_mem_turns ht
  rw [← Match.longest_group_eq_zero_iff hnodup, ← hmade, ← Nat.le_zero, Match.longest_le_iff]
  constructor
  · intro hleft m hm
    by_contra hlong
    obtain ⟨v, hv⟩ := List.exists_mem_of_length_pos (Nat.lt_of_not_le hlong)
    have hfront : m.taken <+: run := Match.taken_prefix_of_mem_group hnodup (hmade ▸ hm)
    have htaken : Plays converter schema words v (.taken flag.index) :=
      ⟨flag, fresh, run, made, ht, rfl, m, hm, hv⟩
    cases role_unique hwords (hleft v (hfront.subset hv)) htaken
  · intro hnothing v hv
    have hzero : Match.longest made = 0 := Nat.le_zero.mp ((Match.longest_le_iff made 0).mpr hnothing)
    have hsublist := drop_longest_sublist_leftovers ht
    rw [hzero, List.drop_zero] at hsublist
    exact hsublist.subset hv

end

section

variable (converter : Converter) {schema : Schema} (before behind : List String) {flag : String}

/-- The turn at a flag comes behind those at the words before, and those at the words that it leaves come
behind it. -/
theorem turns_append_flag (hflag : (schema.read flag).isFlag = true) :
    let s := afterFlags converter schema (Word.ofTexts 0 before)
    let rest := Word.ofTexts (before.length + 1) behind
    let turn := (s.turn converter ⟨flag, before.length⟩ rest).2
    ∃ later, turns converter schema (Word.ofTexts 0 (before ++ flag :: behind)) =
        turns converter schema (Word.ofTexts 0 before) ++ turn :: later ∧
      Progress.Reads converter schema (rest.drop (turn.extent - 1)) later := by
  intro s rest turn
  have hwords : Word.ofTexts 0 (before ++ flag :: behind) =
      Word.ofTexts 0 before ++ ⟨flag, before.length⟩ :: rest := by
    rw [Word.ofTexts_append, Nat.zero_add]
    rfl
  have hcut : schema.CutsOff ((⟨flag, before.length⟩ :: rest).map Word.text) :=
    Schema.cutsOff_cons hflag _
  have hfront := Progress.Opens.ofCutsOff converter ⟨.new schema, []⟩ (Word.ofTexts 0 before) hcut
  rw [scan_eq_ofStream] at hfront
  have hopens := hfront.trans (Progress.Opens.turn converter s ⟨flag, before.length⟩ rest)
  have hreads := Progress.scan_reads converter (rest.drop (turn.extent - 1))
    (s.turn converter ⟨flag, before.length⟩ rest).1 0
  rw [hopens.schema, List.drop_zero] at hreads
  refine ⟨_, ?_, hreads⟩
  rw [turns, hwords, hopens.scan, List.append_assoc]
  rfl

/-- The literals behind a flag are left over exactly if those of its parameters that no text before spells
have no use for them. -/
theorem leavesRun_iff (hne : (schema.read flag).parameters ≠ []) :
    LeavesRun converter schema before flag behind ↔
      TakeNothing (schema.unspelled before (schema.read flag).parameters)
        (schema.runBehind before behind) := by
  let run := schema.runBehind before behind
  let fresh := schema.unspelled before (schema.read flag).parameters
  let s := afterFlags converter schema (Word.ofTexts 0 before)
  let words := Word.ofTexts 0 (before ++ flag :: behind)
  have hwords : words.Nodup := Word.nodup_ofTexts _
  have hleaves : LeavesRun converter schema before flag behind ↔
      ∀ v ∈ run, Plays converter schema words v .left := by
    refine forall₂_congr fun v _ => and_iff_left_of_imp fun hleft index htaken => ?_
    cases role_unique hwords hleft htaken
  have hread : (s.collector.schema.read flag).flag? = some (.recognised (schema.read flag).parameters) := by
    rw [schema_afterFlags]
    exact Reading.flag?_of_parameters hne
  have hfresh : ((schema.read flag).parameters.filter (!s.collector.matched ·)).eraseDups = fresh := by
    refine congrArg List.eraseDups (List.filter_congr fun p _ => ?_)
    rw [Bool.eq_iff_iff, Bool.not_eq_true', ← Bool.not_eq_true, matched_afterFlags_iff,
      decide_eq_true_iff]
  have hturn := Progress.turn_recognised converter s (w := ⟨flag, before.length⟩) hread
    (Word.ofTexts (before.length + 1) behind)
  dsimp only at hturn
  rw [hfresh, schema_afterFlags] at hturn
  obtain ⟨later, hturns, hlater⟩ := turns_append_flag converter before behind
    (Reading.isFlag_of_parameters hne)
  rw [hleaves]
  by_cases hnone : fresh = []
  · -- Nothing is new, so the flag is dropped and the literals behind it are read one by one.
    rw [if_pos hnone] at hturn
    rw [hturn] at hturns hlater
    obtain ⟨others, hrest⟩ : run <+: Word.ofTexts (before.length + 1) behind := List.takeWhile_prefix _
    change Progress.Reads converter schema (Word.ofTexts (before.length + 1) behind) later at hlater
    rw [← hrest] at hlater
    obtain ⟨_, hleft, _⟩ := hlater.eq_left_append fun v hv => Schema.read_of_mem_leadingLiterals hv
    have hnothing : TakeNothing fresh run := hnone ▸ takeNothing_nil run
    refine iff_of_true (fun v hv => ?_) hnothing
    rw [Plays, mem_leftovers_afterFlags, hturns, hleft]
    simp [hv]
  · rw [if_neg hnone] at hturn
    rw [hturn] at hturns
    obtain ⟨made, ht⟩ : ∃ made, .matched ⟨flag, before.length⟩ fresh run made ∈
        turns converter schema (Word.ofTexts 0 (before ++ flag :: behind)) := by
      rw [hturns]
      exact ⟨_, List.mem_append_right _ List.mem_cons_self⟩
    exact left_run_iff hwords ht

/-- A flag leaves the literals behind it if all that it spells is spelled before. -/
theorem leavesRun_of_spelled (hne : (schema.read flag).parameters ≠ [])
    (hold : ∀ p ∈ (schema.read flag).parameters, p ∈ schema.spelled (Word.ofTexts 0 before)) :
    LeavesRun converter schema before flag behind := by
  have hnone : (schema.read flag).parameters.filter (· ∉ schema.spelled (Word.ofTexts 0 before)) = [] :=
    List.filter_eq_nil_iff.mpr fun p hp => by simpa using hold p hp
  rw [leavesRun_iff converter before behind hne, Schema.unspelled, hnone, List.eraseDups_nil]
  exact takeNothing_nil _

/-- The names of a bundle one by one: the last one spells the last parameter, and each parameter before that
is spelled by a name before it. -/
theorem exists_names_of_singles {bundle name : String} {names : List String} {front : List Parameter}
    {last : Parameter} (hread : schema.read bundle = .group (front ++ [last]))
    (hsingles : singles bundle = names ++ [name]) :
    schema.read name = .group [last] ∧
      ∀ p ∈ front, ∃ other ∈ names, schema.read other = .group [p] := by
  have hlooked := Schema.map_short?_of_shorts? (Schema.read_eq_group hread)
  obtain ⟨cs, others, htail, rfl, hothers⟩ := List.map_eq_append_iff.mp hsingles
  obtain ⟨c, rest, rfl, rfl, hrest⟩ := List.map_eq_cons_iff.mp hothers
  obtain rfl : rest = [] := List.map_eq_nil_iff.mp hrest
  rw [htail, List.map_append, List.map_append] at hlooked
  obtain ⟨hfront, hlast⟩ := List.append_inj' hlooked rfl
  refine ⟨Schema.read_short (List.singleton_inj.mp hlast), fun p hp => ?_⟩
  have hmem : some p ∈ cs.map schema.short? := hfront ▸ List.mem_map_of_mem hp
  obtain ⟨d, hd, hshort⟩ := List.mem_map.mp hmem
  exact ⟨_, List.mem_map_of_mem hd, Schema.read_short hshort⟩

/-- A flag whose last name is a repetition leaves the literals behind it exactly if its other parameters, as
far as they are new, share none of them and the last of these takes none. The same names typed one by one
leave all of the literals. -/
theorem leavesRun_of_repeated_iff {front : List Parameter} {last : Parameter}
    (hspelled : (schema.read flag).parameters = front ++ [last])
    (hrepeated : last ∈ schema.spelled (Word.ofTexts 0 before) ∨ last ∈ front) :
    (LeavesRun converter schema before flag behind ↔
        TakeNothing (schema.unspelled before front) (schema.runBehind before behind)) ∧
      ∀ ps names name, schema.read flag = .group ps → singles flag = names ++ [name] →
        LeavesRun converter schema (before ++ names) name behind := by
  have hne : (schema.read flag).parameters ≠ [] := by
    rw [hspelled]
    exact List.append_ne_nil_of_right_ne_nil _ (List.cons_ne_nil _ _)
  constructor
  · rw [leavesRun_iff converter before behind hne, hspelled, Schema.unspelled_concat hrepeated]
  · intro ps names name hread hsingles
    rw [hread, Reading.parameters] at hspelled
    rw [hspelled] at hread
    obtain ⟨hname, hnames⟩ := exists_names_of_singles hread hsingles
    have hparameters : (schema.read name).parameters = [last] := by
      rw [hname]
      rfl
    refine leavesRun_of_spelled converter _ behind (hparameters ▸ List.cons_ne_nil _ _) fun p hp => ?_
    rw [hparameters, List.mem_singleton] at hp
    subst hp
    have hdeclared : p ∈ schema.parameters := by
      refine schema.parameters_read_subset name ?_
      rw [hparameters]
      exact List.mem_singleton_self p
    rw [Schema.mem_spelled_iff] at hrepeated ⊢
    refine ⟨hdeclared, ?_⟩
    obtain ⟨_, text, htext, hspells⟩ | hfront := hrepeated
    · exact ⟨text, List.mem_append_left _ htext, hspells⟩
    · obtain ⟨other, hother, hread⟩ := hnames p hfront
      refine ⟨other, List.mem_append_right _ hother, ?_⟩
      rw [← Schema.mem_parameters_read_iff hdeclared, hread]
      exact List.mem_singleton_self p

end

/-- A switch does not take a text that spells no boolean, so a bundle of it with a repeated name leaves the
text. -/
theorem leavesRun_switch :
    let switch := shortFlag 0 'v' (.scalar (.known .boolean)) rfl
    let items := shortFlag 1 'i' (.list .raw) rfl
    (switchAndItems.read "-vi").parameters = [switch] ++ [items] ∧
      items ∈ switchAndItems.spelled (Word.ofTexts 0 ["-i", "a"]) ∧
      LeavesRun .standard switchAndItems ["-i", "a"] "-vi" ["b"] := by
  intro switch items
  have hspelled : (switchAndItems.read "-vi").parameters = [switch] ++ [items] := by decide +kernel
  have hrepeated : items ∈ switchAndItems.spelled (Word.ofTexts 0 ["-i", "a"]) := by decide +kernel
  refine ⟨hspelled, hrepeated, ?_⟩
  refine (leavesRun_of_repeated_iff .standard ["-i", "a"] ["b"] hspelled (.inl hrepeated)).1.mpr ?_
  refine ⟨by decide +kernel, fun p hlast => ?_⟩
  obtain rfl : switch = p := Option.some_inj.mp (Eq.trans (by decide +kernel) hlast)
  decide +kernel

/-- Two flags for a text each. -/
def twoTexts : Schema where
  parameters :=
    [shortFlag 0 's' (.scalar (.known .string)) rfl, shortFlag 1 't' (.scalar (.known .string)) rfl]
  compatible := List.pairwise_pair.mpr (compatible_shortFlag (by decide))

/-- A text behind a bundle whose last name is a repetition goes to the name in front of it, though it is left
over when the names are typed one by one. -/
theorem bundle_gives_front :
    (twoTexts.read "-st").parameters =
        [shortFlag 0 's' (.scalar (.known .string)) rfl] ++
          [shortFlag 1 't' (.scalar (.known .string)) rfl] ∧
      shortFlag 1 't' (.scalar (.known .string)) rfl ∈ twoTexts.spelled (Word.ofTexts 0 ["-t"]) ∧
      ¬ LeavesRun .standard twoTexts ["-t"] "-st" ["x"] ∧
      LeavesRun .standard twoTexts ["-t", "-s"] "-t" ["x"] := by
  refine ⟨by decide +kernel, by decide +kernel, fun hleaves => ?_, ?_⟩
  · have hrun : ⟨"x", 2⟩ ∈ twoTexts.runBehind ["-t"] ["x"] := by decide +kernel
    have htaken : ¬ Plays .standard twoTexts (Word.ofTexts 0 (["-t"] ++ "-st" :: ["x"])) ⟨"x", 2⟩ .left := by
      decide +kernel
    exact htaken (hleaves _ hrun).1
  · exact leavesRun_of_spelled .standard ["-t", "-s"] ["x"] (by decide +kernel) (by decide +kernel)

end CommandLine
