import CommandLine.Proofs.Paraphrase.Bundle

namespace CommandLine

open Text

/-- A text that begins with a hyphen spells no boolean. -/
theorem isBooleanLiteral_of_hyphen {text : String} {rest : List Char}
    (h : text.toList = '-' :: rest) : isBooleanLiteral text = false := by
  rw [← Bool.not_eq_true]
  intro hliteral
  have hhyphen : '-' ∈ text.toList := h ▸ List.mem_cons_self
  exact absurd (isAlpha_of_isBooleanLiteral hliteral hhyphen (by decide)) (by decide)

/-- A boolean literal is never read as a flag. -/
theorem Schema.read_of_isBooleanLiteral (s : Schema) {text : String}
    (h : isBooleanLiteral text = true) : s.read text = .literal := by
  unfold read
  split
  case h_2 => rfl
  case h_4 => rfl
  all_goals
    next heq =>
      rw [isBooleanLiteral_of_hyphen heq] at h
      cases h

theorem Schema.leadingLiterals_cons_of_isBooleanLiteral (s : Schema) {w : Word}
    (h : isBooleanLiteral w.text = true) (rest : List Word) :
    s.leadingLiterals (w :: rest) = w :: s.leadingLiterals rest := by
  simp [leadingLiterals, s.read_of_isBooleanLiteral h, Reading.isFlag]

/-- Two boolean flags or more share the boolean literal behind them. -/
theorem broadcastLiteral?_eq_some {ps : List Parameter} {w : Word} (htwo : 2 ≤ ps.length)
    (hboolean : ∀ p ∈ ps, p.isBoolean = true) (h : isBooleanLiteral w.text = true)
    (rest : List Word) : Collector.broadcastLiteral? ps (w :: rest) = some w := by
  have hall : ps.all Parameter.isBoolean = true := List.all_eq_true.mpr hboolean
  simp [Collector.broadcastLiteral?, Nat.lt_of_succ_le htwo, hall, h]

namespace Match

/-- A boolean flag without an arity takes the one boolean literal behind it, as it takes a shared one. -/
theorem account_ofRun_of_boolean (converter : Converter) {p : Parameter} {given literal : Word}
    (hboolean : p.isBoolean = true) (harity : p.arity = none)
    (hliteral : isBooleanLiteral literal.text = true) (htext : given.text = literal.text)
    {earlier requests : List Request} (hconfused : converter.Confuses earlier requests)
    (behind : List Word) (v w : Word) (ticket ticket' : Nat) :
    (ofRun converter p v (given :: behind) false earlier ticket).account concealed =
      (ofLiteral converter p w literal requests ticket').account concealed := by
  have hwindow : p.window = ⟨0, some 1, false⟩ := by
    simp [Parameter.window, harity, Descriptor.isCollection_eq_false_of_isBoolean hboolean]
  have htake : p.take (given :: behind) = [given] := by
    simp [Parameter.take, Parameter.eligible, hboolean, hwindow, Window.cut, htext, hliteral]
  have hsurplus : Collector.surplusOf p (given :: behind) false = [] := by
    simp [Collector.surplusOf, hwindow]
  have hraw : p.rawTexts? [given] = some [literal.text] := by
    simp [Parameter.rawTexts?, htext]
  have hrun : ofRun converter p v (given :: behind) false earlier ticket =
      ⟨earlier, ticket,
        ⟨p, [given], converter.answer earlier ⟨[literal.text], .descriptor p.type⟩, [], none⟩,
        .ofConversion converter p (some v) [literal.text] earlier ticket ++ .empty⟩ := by
    unfold ofRun
    simp [htake, hsurplus, hwindow, hraw, Trail.ofTaken, Converter.answerTaken, Parameter.overflow?,
      Trail.ofSurplus]
  have hanchor : (some v).map (concealed ·.text) = (some w).map (concealed ·.text) := rfl
  have hfaults := map_seen_ofConversion p ticket ticket' hconfused hanchor [literal.text]
  rw [hrun]
  simp [account, ofLiteral, Match.parameter, Match.taken, Trail.empty, hfaults, htext,
    hconfused.answer_eq]

section

variable {converter : Converter} {anchor literal : Word} {ps : List Parameter}
  {earlier : List Request} {ticket : Nat}

/-- Flags that share a literal reach over that literal. -/
theorem longest_sharing (hne : ps ≠ []) :
    longest (sharing converter anchor literal ps earlier ticket) = 1 := by
  have htaken : ∀ m ∈ sharing converter anchor literal ps earlier ticket, m.taken = [literal] := by
    intro m hm
    rw [(mem_sharing hm).2]
    rfl
  have hsome : sharing converter anchor literal ps earlier ticket ≠ [] := by
    intro hnil
    have hmap := map_parameter_sharing converter anchor literal ps earlier ticket
    rw [hnil] at hmap
    exact hne hmap.symm
  obtain ⟨m, hm, hlongest⟩ := exists_length_taken_eq_longest hsome
  rw [← hlongest, htaken m hm]
  rfl

/-- Flags that share a literal leave no surplus that could stand elsewhere. -/
theorem map_made_sharing_move (f : Nat → Nat) (face : String → String) :
    ((sharing converter anchor literal ps earlier ticket).map fun m =>
        Turn.Part.made (m.account face)).map (·.move f) =
      (sharing converter anchor literal ps earlier ticket).map fun m => .made (m.account face) := by
  rw [List.map_map]
  apply List.map_congr_left
  intro m hm
  rw [(mem_sharing hm).2]
  rfl

end

end Match

namespace Progress

/-- Short names, each with the same boolean literal behind it, open a scan with what they come to when they
share the literal. -/
theorem opens_repeated (converter : Converter) {schema : Schema} (rest : List Word) {text : String}
    (hliteral : isBooleanLiteral text = true) {names : List Char} {ps : List Parameter}
    (hnames : names.map schema.short? = ps.map some) (hnodup : ps.Nodup)
    (hboolean : ∀ p ∈ ps, p.isBoolean = true ∧ p.arity = none) :
    ∀ (s : Progress) (words : List Word) (requests : List Request) (w literal : Word) (ticket : Nat),
      literal.text = text → s.collector.schema = schema →
      (∀ p ∈ ps, s.collector.matched p = false) →
      converter.Confuses s.collector.requests requests →
      words.map Word.text = names.flatMap (fun name => [(Spelling.short name).text, text]) →
      ∃ turns t, Opens converter s (words ++ rest) turns t rest ∧
        Turn.course concealed turns = (Match.sharing converter w literal ps requests ticket).map
          (fun m => .made (m.account concealed)) ∧
        turns.flatMap Turn.leftovers = [] := by
  induction ps generalizing names with
  | nil =>
    intro s words requests w literal ticket _ _ _ _ hwords
    obtain rfl : names = [] := List.map_eq_nil_iff.mp hnames
    obtain rfl : words = [] := List.map_eq_nil_iff.mp hwords
    exact ⟨[], s, .refl s rest, rfl, rfl⟩
  | cons p others ih =>
    intro s words requests w literal ticket htext hschema hnew hconfused hwords
    obtain ⟨name, names, rfl, hname, hnames⟩ := List.map_eq_cons_iff.mp hnames
    obtain ⟨hp, hnodup⟩ := List.nodup_cons.mp hnodup
    obtain ⟨⟨hpboolean, harity⟩, hboolean⟩ := List.forall_mem_cons.mp hboolean
    obtain ⟨hfirst, hnew⟩ := List.forall_mem_cons.mp hnew
    rw [List.flatMap_cons] at hwords
    obtain ⟨v, hwords', rfl, hv, hmore⟩ := List.map_eq_cons_iff.mp hwords
    obtain ⟨given, words, rfl, hgiven, hwords⟩ := List.map_eq_cons_iff.mp hmore
    have hread : s.collector.schema.read v.text = .group [p] := by
      rw [hschema, hv]
      exact Schema.read_short hname
    have haccount := Match.account_ofRun_of_boolean converter hpboolean harity (htext ▸ hliteral)
      (hgiven.trans htext.symm) hconfused
      (s.collector.schema.leadingLiterals (words ++ rest)) v w s.collector.issued ticket
    rw [← Schema.leadingLiterals_cons_of_isBooleanLiteral _ (hgiven ▸ hliteral)] at haccount
    obtain ⟨turn, t, hopens, hparts, hleft, hkept, hrequests⟩ := Opens.single hread hfirst haccount
    have hnew' : ∀ q ∈ others, t.collector.matched q = false := fun q hq => by
      rw [hkept q fun heq => hp (heq ▸ hq), hnew q hq]
    obtain ⟨turns, u, hlater, hcourse, hleftovers⟩ := ih hnames hnodup hboolean t words _ w literal
      (ticket + (Match.ofLiteral converter p w literal requests ticket).trail.recorded.length) htext
      (hopens.schema.trans hschema) hnew' (by rw [hrequests]; exact hconfused.append _) hwords
    refine ⟨turn :: turns, u, hopens.trans hlater, ?_, by simp [hleft, hleftovers]⟩
    rw [Turn.course_cons, hparts, hcourse]
    rfl

end Progress

/-- The short names of a bundle, each behind a hyphen of its own and with the same text behind it. -/
def repeated (bundle text : String) : List String :=
  (singles bundle).flatMap fun single => [single, text]

/-- Typing the literal that a bundle shares behind each of its names is a detour, whose turns come to what
the turn of the bundle comes to. -/
theorem exists_detour_of_shared (converter : Converter) {schema : Schema} (before after : List String)
    {bundle text : String} {ps : List Parameter} (hread : schema.read bundle = .group ps)
    (hnodup : ps.Nodup) (htwo : 2 ≤ ps.length)
    (hboolean : ∀ p ∈ ps, p.isBoolean = true ∧ p.arity = none)
    (hnew : ∀ p ∈ ps,
      (afterFlags converter schema (Word.ofTexts 0 before)).collector.matched p = false)
    (hliteral : isBooleanLiteral text = true) :
    ∃ f earlier later s t,
      Detour converter schema before (bundle :: text :: after) (repeated bundle text ++ after) f
          earlier later s t ∧
        Turn.course concealed later = (Turn.course concealed earlier).map (·.move f) := by
  let n := before.length
  let s := afterFlags converter schema (Word.ofTexts 0 before)
  let f := pushBehind (n + 1) ((repeated bundle text).length - 2)
  have hschema : s.collector.schema = schema := schema_afterFlags ..
  have hnames := Schema.map_short?_of_shorts? (Schema.read_eq_group hread)
  have hne := Schema.ne_nil_of_read_eq_group hread
  have hlength : 2 ≤ (repeated bundle text).length := by
    have hsingles := length_singles hread
    simp [repeated, hsingles]
    omega
  have hmoved : Word.ofTexts (n + (repeated bundle text).length) after =
      (Word.ofTexts (n + 2) after).map (·.move f) :=
    Word.ofTexts_eq_map_move fun i _ => by grind [pushBehind]
  have hshared : Collector.broadcastLiteral? ps (schema.leadingLiterals
      (⟨text, n + 1⟩ :: Word.ofTexts (n + 2) after)) = some ⟨text, n + 1⟩ := by
    rw [schema.leadingLiterals_cons_of_isBooleanLiteral (w := ⟨text, n + 1⟩) hliteral]
    exact broadcastLiteral?_eq_some (w := ⟨text, n + 1⟩) htwo (fun p hp => (hboolean p hp).1)
      hliteral _
  obtain ⟨later, t, hsecond, hcourse, hleft⟩ := Progress.opens_repeated converter
    (Word.ofTexts (n + (repeated bundle text).length) after) hliteral hnames hnodup hboolean s
    (Word.ofTexts n (repeated bundle text)) s.collector.requests ⟨bundle, n⟩ ⟨text, n + 1⟩
    s.collector.issued rfl hschema hnew (.refl _) (by
      rw [Word.map_text_ofTexts, repeated, singles, List.flatMap_map])
  have hturn := Progress.turn_of_new converter (s := s) (w := ⟨bundle, n⟩) (by rw [hschema, hread]; rfl)
    hne hnodup hnew (⟨text, n + 1⟩ :: Word.ofTexts (n + 2) after)
  have hfirst := Progress.Opens.turn converter s ⟨bundle, n⟩
    (⟨text, n + 1⟩ :: Word.ofTexts (n + 2) after)
  rw [hturn, hschema, Match.group, hshared] at hfirst
  refine ⟨f, _, later, _, t,
    ⟨injective_pushBehind _ _, ?fixed, ?cut, ?cut', ⟨_, hfirst, ?opens⟩, hleft⟩, ?course⟩
  case fixed => exact fun i hi => if_pos (by omega)
  case cut => exact Schema.cutsOff_cons (by rw [hread]; rfl) _
  case cut' =>
    obtain ⟨first, others, hsingles, hflag⟩ := exists_singles_eq_cons hread
    rw [repeated, hsingles]
    exact Schema.cutsOff_cons hflag _
  case opens =>
    rw [hmoved] at hsecond
    rw [Word.ofTexts_append, hmoved, List.map_drop]
    simpa [Turn.extent, Match.longest_sharing hne] using hsecond
  case course =>
    rw [hcourse, ← Match.map_made_sharing_move f]
    simp only [Turn.course, Turn.parts, List.flatMap_singleton]

/-- Boolean flags that are bundled for the first time share the boolean literal behind them as if it were
typed behind each of them: the parse comes to the same results, leaves the same words over and finds the
same faults, but for the words that these point at. -/
theorem parse_shared_eq_repeated (converter : Converter) {schema : Schema} (before after : List String)
    {bundle text : String} {ps : List Parameter} (hread : schema.read bundle = .group ps)
    (hnodup : ps.Nodup) (htwo : 2 ≤ ps.length)
    (hboolean : ∀ p ∈ ps, p.isBoolean = true ∧ p.arity = none)
    (hnew : ∀ p ∈ ps,
      (afterFlags converter schema (Word.ofTexts 0 before)).collector.matched p = false)
    (hliteral : isBooleanLiteral text = true) :
    let shared := parse converter schema (before ++ bundle :: text :: after)
    let apart := parse converter schema (before ++ (repeated bundle text ++ after))
    apart.results = shared.results ∧ apart.positional = shared.positional ∧
      apart.faults.map Fault.substance = shared.faults.map Fault.substance := by
  obtain ⟨f, earlier, later, s, t, hdetour, hcourse⟩ := exists_detour_of_shared converter before after
    hread hnodup htwo hboolean hnew hliteral
  exact hdetour.outcome_eq hcourse

/-- Two switches. -/
def twoSwitches : Schema where
  parameters :=
    [shortFlag 0 'f' (.scalar (.known .boolean)) rfl, shortFlag 1 'q' (.scalar (.known .boolean)) rfl]
  compatible := List.pairwise_pair.mpr (compatible_shortFlag (by decide))

/-- Two switches share the literal behind them, whatever its case. -/
theorem parse_shared_switches :
    let shared := parse .standard twoSwitches (["x"] ++ "-fq" :: "False" :: ["true"])
    let apart := parse .standard twoSwitches
      (["x"] ++ (["-f", "False", "-q", "False"] ++ ["true"]))
    apart.results = shared.results ∧ apart.positional = shared.positional ∧
      apart.faults.map Fault.substance = shared.faults.map Fault.substance := by
  have hread : twoSwitches.read "-fq" = .group twoSwitches.parameters := by decide +kernel
  have hnodup : twoSwitches.parameters.Nodup := twoSwitches.nodup_parameters
  have hboolean : ∀ p ∈ twoSwitches.parameters, p.isBoolean = true ∧ p.arity = none := by
    decide +kernel
  have hnew : ∀ p ∈ twoSwitches.parameters,
      (afterFlags .standard twoSwitches (Word.ofTexts 0 ["x"])).collector.matched p = false := by
    decide +kernel
  have hliteral : isBooleanLiteral "False" = true := by decide +kernel
  have hrepeated : repeated "-fq" "False" = ["-f", "False", "-q", "False"] := by decide +kernel
  rw [← hrepeated]
  exact parse_shared_eq_repeated .standard ["x"] ["true"] hread hnodup (Nat.le_refl 2) hboolean hnew
    hliteral

end CommandLine
