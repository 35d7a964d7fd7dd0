import CommandLine.Proofs.Flagless

namespace CommandLine

/-- What a converter without a memory reports of raw texts that it refuses for a parameter. -/
def Converter.refusals (converter : Converter) (p : Parameter) (raw : List String) :
    List Fault.Substance :=
  match converter.convert [] ⟨raw, .descriptor p.type⟩ with
  | .ok _ => []
  | .error failure => [(Fault.conversion p none raw failure).substance]

/-- A refusal says the same of raw texts wherever they come from. -/
theorem Trail.map_substance_ofConversion {converter : Converter} (hstateless : converter.Stateless)
    (p : Parameter) (raw : List String) (earlier : List Request) (anchor : Option Word)
    (ticket : Nat) :
    (Trail.ofConversion converter p anchor raw earlier ticket).recorded.map (·.fault.substance) =
      converter.refusals p raw := by
  unfold Trail.ofConversion Converter.refusals
  rw [hstateless earlier]
  cases converter.convert [] ⟨raw, .descriptor p.type⟩ with
  | ok value => rfl
  | error failure => rfl

/-- A parameter that can take all of some words, and need not have more, asks for the words. -/
theorem Parameter.Holds.ofRun_eq {p : Parameter} {words : List Word}
    (hholds : p.Holds (words.map Word.text)) (hne : words ≠ [])
    (henough : p.window.minimum ≤ words.length) (converter : Converter) (anchor : Word)
    (earlier : List Request) (ticket : Nat) :
    let m := Match.ofRun converter p anchor words false earlier ticket
    let raw := words.map Word.text
    m.resolution.pending = none ∧
      m.resolution.value = converter.answer earlier ⟨raw, .descriptor p.type⟩ ∧
      m.trail.recorded =
        (Trail.ofConversion converter p (some anchor) raw earlier ticket).recorded := by
  intro m raw
  have hraw : p.rawTexts? words = some raw := by
    unfold rawTexts?
    rw [if_pos (by simpa using hne)]
  have henough' : p.window.minimum ≤ (p.take words).length := by rwa [hholds.take_eq]
  obtain ⟨hrecorded, hpending, _, hvalue⟩ :=
    Match.recorded_ofRun_of_enough converter anchor false earlier ticket henough'
  rw [hholds.take_eq, hholds.surplusOf_eq_nil] at hpending
  have hnone : m.resolution.pending = none := by
    rw [← Option.map_eq_none_iff (f := RecordedFault.fault), hpending]
    unfold overflow?
    split <;> trivial
  refine ⟨hnone, ?_, ?_⟩
  · rw [hvalue, hholds.take_eq, Converter.answerTaken, hraw]
  · rw [hrecorded, hnone, Option.toList_none, List.append_nil, hholds.take_eq, Trail.ofTaken, hraw]

/-- An outcome tells about a parameter what its trail tells, if that cannot overflow. -/
theorem tells_of_trail {converter : Converter} {schema : Schema} {words : List Word} {m : Match}
    {p : Parameter} {value : Value} {faults : List Fault.Substance}
    (hm : m ∈ (transcript converter schema words).made) (hparameter : m.parameter = p)
    (hpending : m.resolution.pending = none) (hvalue : m.resolution.value = value)
    (hfaults : m.trail.recorded.map (·.fault.substance) = faults) :
    (collect converter schema words).freeze.Tells p value faults := by
  have hseen : (m.account concealed).faults.map Prod.fst = faults := by
    rw [← hfaults, Match.account, List.map_map]
    rfl
  have htold := tells_of_mem hm hpending concealed
  rwa [hseen, hparameter, show (m.account concealed).value = value from hvalue] at htold

/-- Without words, a parameter that has a fallback is matched by it. -/
theorem exists_fallback_of_nil (converter : Converter) {schema : Schema} {p : Parameter}
    {fallback : String} (hp : p ∈ schema.parameters) (hfallback : p.fallback = some fallback) :
    ∃ m ∈ (transcript converter schema []).fallbacks,
      m = .ofFallback converter p fallback m.earlier m.ticket := by
  have hnone : ∀ w ∈ ([] : List Word), schema.read w.text = .literal := nofun
  have hmatched : p ∈ (transcript converter schema []).made.map Match.parameter :=
    mem_made_of_fallback hp (by rw [hfallback]; rfl)
  obtain ⟨m, hm, rfl⟩ := List.mem_map.mp hmatched
  have hbindings : (transcript converter schema []).bindings = [] := by
    have hbinds := binds_transcript converter schema []
    rw [leftovers_of_literals converter hnone] at hbinds
    exact hbinds.eq_nil
  rw [Transcript.made, flagged_of_literals converter hnone, hbindings] at hm
  obtain ⟨text, htext, heq⟩ := Collector.mem_fallbacks hm
  rw [hfallback, Option.some_inj] at htext
  rw [← htext] at heq
  exact ⟨m, hm, heq⟩

section

variable {converter : Converter} (hstateless : converter.Stateless) {schema : Schema} {p : Parameter}
  (hp : p ∈ schema.parameters)

include hstateless hp

/-- Texts behind a flag that takes all of them are answered by the converter. -/
theorem tells_of_flag {name : String} {texts : List String} (hname : name ∈ p.longs)
    (hne : texts ≠ []) (hliterals : ∀ text ∈ texts, schema.read text = .literal)
    (hholds : p.Holds texts) (henough : p.window.minimum ≤ texts.length) :
    (parse converter schema (("--" ++ name) :: texts)).Tells p
      (converter.answer [] ⟨texts, .descriptor p.type⟩) (converter.refusals p texts) := by
  let w : Word := ⟨"--" ++ name, 0⟩
  let words := Word.ofTexts 1 texts
  have htexts : words.map Word.text = texts := Word.map_text_ofTexts 1 texts
  have hread : ∀ v ∈ words, schema.read v.text = .literal :=
    (Word.forall_mem_ofTexts_iff 1).mpr hliterals
  have hholds' : p.Holds (words.map Word.text) := by rwa [htexts]
  have hflag : (schema.read w.text).flag? = some (.recognised [p]) := by
    rw [Schema.read_long hp hname]
    rfl
  have hne' : words ≠ [] := by
    intro hnil
    rw [hnil] at htexts
    exact hne htexts.symm
  have henough' : p.window.minimum ≤ words.length := by
    rwa [← List.length_map (f := Word.text), htexts]
  obtain ⟨hflagged, _⟩ := made_of_flag converter hread hholds' hflag
  obtain ⟨hpending, hvalue, hrecorded⟩ := hholds'.ofRun_eq hne' henough' converter w [] 0
  rw [htexts] at hvalue hrecorded
  have hm := mem_made_of_mem_flagged (hflagged ▸ List.mem_singleton_self _)
  refine tells_of_trail hm (Match.parameter_ofRun ..) hpending hvalue ?_
  rw [hrecorded]
  exact Trail.map_substance_ofConversion hstateless p texts [] (some w) 0

/-- Where nothing is given, the texts of a fallback are answered by the converter. -/
theorem tells_of_fallback {fallback : String} (hfallback : p.fallback = some fallback) :
    (parse converter schema []).Tells p
      (converter.answer [] ⟨p.fallbackTokens fallback, .descriptor p.type⟩)
      (converter.refusals p (p.fallbackTokens fallback)) := by
  obtain ⟨m, hm, hfell⟩ := exists_fallback_of_nil converter hp hfallback
  have hparameter : m.parameter = p := by
    rw [hfell]
    rfl
  have hvalue : m.resolution.value =
      converter.answer [] ⟨p.fallbackTokens fallback, .descriptor p.type⟩ := by
    rw [hfell]
    exact (hstateless.confuses m.earlier []).answer_eq _
  refine tells_of_trail (mem_made_of_mem_fallbacks hm) hparameter (pending_of_mem_fallbacks hm)
    hvalue ?_
  rw [hfell]
  exact Trail.map_substance_ofConversion hstateless p _ m.earlier none m.ticket

end

/-- A fallback converts as if it had been typed behind the flag. If its texts are literals that the
flag may take, and as many as it takes, a parse of the flag with them and a parse of nothing tell the same
about the parameter: the answer of the converter, or that it refuses the texts and why. -/
theorem parse_fallback_typed {converter : Converter} (hstateless : converter.Stateless)
    {schema : Schema} {p : Parameter} {name fallback : String} (hp : p ∈ schema.parameters)
    (hname : name ∈ p.longs) (hfallback : p.fallback = some fallback)
    (hliterals : ∀ text ∈ p.fallbackTokens fallback, schema.read text = .literal)
    (hboolean : p.isBoolean = true →
      ∀ text ∈ p.fallbackTokens fallback, isBooleanLiteral text = true)
    (hadmits : p.window.Admits (p.fallbackTokens fallback).length) :
    let raw := p.fallbackTokens fallback
    let value := converter.answer [] ⟨raw, .descriptor p.type⟩
    let refusals := converter.refusals p raw
    (parse converter schema (("--" ++ name) :: raw)).Tells p value refusals ∧
      (parse converter schema []).Tells p value refusals := by
  have hholds : p.Holds (p.fallbackTokens fallback) := ⟨hboolean, hadmits.2⟩
  have hne := p.fallbackTokens_ne_nil fallback
  exact ⟨tells_of_flag hstateless hp hname hne hliterals hholds hadmits.1,
    tells_of_fallback hstateless hp hfallback⟩

/-- A flag for two or three numbers, whose fallback has two texts, one of which is no number. -/
def numbersFlag : Parameter :=
  { pairFlag with
    type := .list (.known .integer)
    fallback := some "1,none" }

/-- The fallback of a flag for numbers is refused as the same texts behind the flag are. -/
theorem parse_fallback_numbers :
    let schema : Schema := ⟨[numbersFlag], List.pairwise_singleton _ _⟩
    let raw := numbersFlag.fallbackTokens "1,none"
    let value := Converter.standard.answer [] ⟨raw, .descriptor numbersFlag.type⟩
    let refusals := Converter.standard.refusals numbersFlag raw
    raw = ["1", "none"] ∧
      (parse .standard schema (("--" ++ "name") :: raw)).Tells numbersFlag value refusals ∧
        (parse .standard schema []).Tells numbersFlag value refusals := by
  intro schema raw value refusals
  have hraw : raw = ["1", "none"] := by decide +kernel
  have hliterals : ∀ text ∈ raw, schema.read text = .literal := by decide +kernel
  have hadmits : numbersFlag.window.Admits raw.length := by
    rw [hraw]
    exact ⟨by decide, fun bound hbound => Option.some_inj.mp hbound ▸ by decide⟩
  exact ⟨hraw, parse_fallback_typed Converter.stateless_standard List.mem_cons_self
    List.mem_cons_self rfl hliterals nofun hadmits⟩

end CommandLine
