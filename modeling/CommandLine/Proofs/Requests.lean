import CommandLine.Proofs.Order.Faults
import CommandLine.Proofs.Order.Results
import CommandLine.Proofs.Coherence

namespace CommandLine

/-- A request to the converter with the parameter that it is made for. -/
structure Call where
  parameter : Parameter
  request : Request

namespace Match

/-- The requests that a match makes of the converter. -/
def calls (m : Match) : List Call :=
  m.trail.requests.map (⟨m.parameter, ·⟩)

/-- The calls of matches are their requests. -/
theorem map_request_calls (ms : List Match) :
    (ms.flatMap calls).map Call.request = ms.flatMap (·.trail.requests) := by
  rw [List.map_flatMap]
  congr 1
  funext m
  rw [calls, List.map_map]
  exact List.map_id _

/-- A call comes from one match, and the calls before it from the matches before that, if every match
makes one call at most. -/
theorem exists_split_of_calls {ms : List Match} {before after : List Call} {call : Call}
    (honce : ∀ m ∈ ms, m.calls.length ≤ 1) (h : ms.flatMap calls = before ++ call :: after) :
    ∃ earlier m later, ms = earlier ++ m :: later ∧ call ∈ m.calls ∧ earlier.flatMap calls = before := by
  induction ms generalizing before with
  | nil => simp at h
  | cons m rest ih =>
    obtain ⟨hm, hrest⟩ := List.forall_mem_cons.mp honce
    rw [List.flatMap_cons] at h
    cases hcalls : m.calls with
    | nil =>
      rw [hcalls, List.nil_append] at h
      obtain ⟨earlier, n, later, rfl, hcall, rfl⟩ := ih hrest h
      exact ⟨m :: earlier, n, later, rfl, hcall, by rw [List.flatMap_cons, hcalls, List.nil_append]⟩
    | cons only others =>
      have hothers : others = [] := by
        rw [hcalls, List.length_cons] at hm
        exact List.eq_nil_of_length_eq_zero (by omega)
      rw [hcalls, hothers, List.singleton_append] at h
      cases before with
      | nil =>
        rw [List.nil_append, List.cons.injEq] at h
        exact ⟨[], m, rest, rfl, by rw [hcalls, h.1]; exact List.mem_cons_self, rfl⟩
      | cons first before =>
        rw [List.cons_append, List.cons.injEq] at h
        obtain ⟨earlier, n, later, rfl, hcall, rfl⟩ := ih hrest h.2
        refine ⟨m :: earlier, n, later, rfl, hcall, ?_⟩
        rw [List.flatMap_cons, hcalls, hothers, h.1, List.singleton_append]

/-- A match that asks the converter does so once. Its value is the answer, and it had enough words. -/
structure Asks (converter : Converter) (m : Match) (raw : List String) : Prop where
  requests : m.trail.requests = [⟨raw, .descriptor m.parameter.type⟩]
  value : m.resolution.value = converter.answer m.earlier ⟨raw, .descriptor m.parameter.type⟩
  enough : ∀ r ∈ m.trail.recorded, r.fault.kind ≠ .notEnough

/-- What a conversion records is that the converter refuses the texts, never that they are too few. -/
theorem kind_ne_notEnough_of_mem_ofConversion {converter : Converter} {p : Parameter}
    {anchor : Option Word} {raw : List String} {earlier : List Request} {ticket : Nat}
    {r : RecordedFault}
    (hr : r ∈ (Trail.ofConversion converter p anchor raw earlier ticket).recorded) :
    r.fault.kind ≠ .notEnough := by
  obtain ⟨failure, hfault⟩ := fault_of_mem_ofConversion hr
  rw [hfault]
  nofun

section

variable (converter : Converter) (p : Parameter) (anchor : Word) (earlier : List Request)
  (ticket : Nat)

/-- A match by a shared literal asks for its text alone. -/
theorem asks_ofLiteral (literal : Word) :
    (ofLiteral converter p anchor literal earlier ticket).Asks converter [literal.text] where
  requests := Trail.requests_ofConversion ..
  value := rfl
  enough _ := kind_ne_notEnough_of_mem_ofConversion

theorem asks_ofFallback (fallback : String) :
    (ofFallback converter p fallback earlier ticket).Asks converter (p.fallbackTokens fallback) where
  requests := Trail.requests_ofConversion ..
  value := rfl
  enough _ := kind_ne_notEnough_of_mem_ofConversion

/-- A run of words that is long enough is asked about if there are raw texts to ask about. -/
theorem asks_ofRun {run : List Word} (positional : Bool) {raw : List String}
    (henough : p.window.minimum ≤ (p.take run).length) (hraw : p.rawTexts? (p.take run) = some raw) :
    (ofRun converter p anchor run positional earlier ticket).Asks converter raw where
  requests := by
    rw [requests_ofRun_of_enough converter anchor positional earlier ticket henough, hraw,
      parameter_ofRun]
    rfl
  value := by
    obtain ⟨_, _, _, hvalue⟩ :=
      recorded_ofRun_of_enough converter anchor positional earlier ticket henough
    rw [hvalue, Converter.answerTaken, hraw, parameter_ofRun, earlier_ofRun]
  enough r hr := by
    have hfault := ofRun_of_mem_ofRun hr
    generalize r.fault = fault at hfault
    cases hfault with
    | short hshort => omega
    | refused => nofun
    | overflowing => nofun

end

variable {converter : Converter} {m : Match} {anchor : Word} {run : List Word} {positional : Bool}

/-- A match of a run asks about the words that it takes, or about the literal that they imply. -/
theorem asks_of_mem_requests_ofRun
    (hm : m = ofRun converter m.parameter anchor run positional m.earlier m.ticket)
    {request : Request} (hrequest : request ∈ m.trail.requests) :
    ∃ raw, m.Asks converter raw ∧ m.parameter.rawTexts? m.taken = some raw := by
  have htaken : m.taken = m.parameter.take run :=
    (congrArg Match.taken hm).trans (taken_ofRun ..)
  rw [hm] at hrequest
  rcases Nat.lt_or_ge (m.parameter.take run).length m.parameter.window.minimum with hshort | henough
  · rw [ofRun_of_short converter anchor positional m.earlier m.ticket hshort] at hrequest
    cases hrequest
  · cases hraw : m.parameter.rawTexts? (m.parameter.take run) with
    | none =>
      rw [requests_ofRun_of_enough converter anchor positional m.earlier m.ticket henough, hraw]
        at hrequest
      cases hrequest
    | some raw =>
      have hasks := asks_ofRun converter m.parameter anchor m.earlier m.ticket positional henough hraw
      rw [← hm] at hasks
      exact ⟨raw, hasks, by rw [htaken, hraw]⟩

end Match

namespace Collector

/-- The positions take words of the command line in their order, and share none. -/
theorem Binds.taken_sublist {converter : Converter} {ps : List Parameter} {words : List Word}
    {ms : List Match} (h : Binds converter ps words ms) :
    (ms.flatMap Match.taken).Sublist words := by
  induction h with
  | nil => exact List.nil_sublist _
  | pass hlater ih => exact ih
  | @bind p rest anchor behind m later heligible hmatch hlater ih =>
    have hfront : m.taken <+: anchor :: behind := by
      rw [hmatch, Match.taken_ofRun]
      exact p.take_prefix _
    have hsplit : m.taken ++ (anchor :: behind).drop m.taken.length = anchor :: behind :=
      List.prefix_iff_eq_append.mp hfront
    rw [List.flatMap_cons]
    conv_rhs => rw [← hsplit]
    exact (List.Sublist.refl _).append ih

end Collector

section

variable {converter : Converter} {schema : Schema} {words : List Word} {m : Match} {w : Word}

/-- What a flag takes are words of the command line, in their order. -/
theorem taken_sublist_of_mem_flagged (hm : m ∈ (transcript converter schema words).flagged) :
    m.taken.Sublist words := by
  obtain ⟨flag, fresh, run, made, ht, hm⟩ := exists_turn_of_mem_flagged hm
  obtain ⟨_, hnodup, _, _, hmade⟩ := exists_group_of_mem_turns ht
  have hfront : m.taken <+: run := Match.taken_prefix_of_mem_group hnodup (hmade ▸ hm)
  have hreach : m.taken <+: run.take (Match.longest made) :=
    List.prefix_take_iff.mpr ⟨hfront, Match.length_taken_le_longest hm⟩
  have hturns := List.sublist_flatten_of_mem (List.mem_map_of_mem (f := Turn.words) ht)
  have hwords := (turns_reads converter schema words).flatMap_words
  rw [List.flatMap_def] at hwords
  rw [hwords] at hturns
  exact (hreach.sublist.cons flag).trans hturns

theorem taken_of_mem_fallbacks (hm : m ∈ (transcript converter schema words).fallbacks) :
    m.taken = [] := by
  obtain ⟨fallback, _, heq⟩ := Collector.mem_fallbacks hm
  rw [heq]
  rfl

/-- What a match takes are words of the command line, in their order. -/
theorem taken_sublist_words (hm : m ∈ (transcript converter schema words).made) :
    m.taken.Sublist words := by
  obtain hm | hm := List.mem_append.mp hm
  · obtain hm | hm := List.mem_append.mp hm
    · exact taken_sublist_of_mem_flagged hm
    · have hbinds := (binds_transcript converter schema words).taken_sublist
      rw [List.flatMap_def] at hbinds
      exact ((List.sublist_flatten_of_mem (List.mem_map_of_mem hm)).trans hbinds).trans
        leftovers_sublist_words
  · rw [taken_of_mem_fallbacks hm]
    exact List.nil_sublist _

section

variable {texts : List String} (hwords : words = Word.ofTexts 0 texts)

include hwords

/-- No two positions take one word. -/
theorem eq_of_mem_taken {n : Match} (hm : m ∈ (transcript converter schema words).bindings)
    (hn : n ∈ (transcript converter schema words).bindings) (hw : w ∈ m.taken) (hw' : w ∈ n.taken) :
    m = n := by
  have hnodup : ((transcript converter schema words).bindings.flatMap Match.taken).Nodup := by
    refine List.Nodup.sublist (binds_transcript converter schema words).taken_sublist ?_
    refine List.Nodup.sublist leftovers_sublist_words ?_
    rw [hwords]
    exact Word.nodup_ofTexts texts
  have hdisjoint := (List.nodup_flatMap.mp hnodup).2
  have : Std.Symm (Function.onFun List.Disjoint Match.taken) := ⟨fun _ _ => List.disjoint_symm⟩
  by_contra hne
  exact hdisjoint.forall hm hn hne hw hw'

/-- The parameter that claims the place of a leftover took the leftover. -/
theorem exists_binding_of_lookup {p : Parameter}
    (hw : w ∈ (afterFlags converter schema words).collector.leftovers)
    (hlookup : ((afterFlags converter schema words).collector.bindEach converter schema.positionals
      (afterFlags converter schema words).collector.leftovers).2.lookup w.index = some p) :
    ∃ m ∈ (transcript converter schema words).bindings, m.parameter = p ∧ w ∈ m.taken := by
  obtain ⟨before, after, hsplit, _⟩ := List.lookup_eq_some_iff.mp hlookup
  obtain ⟨m, hm, hp, v, hv, hindex⟩ := (Collector.mem_claims_iff ..).mp
    (hsplit ▸ List.mem_append_right before List.mem_cons_self)
  have hplace : ∀ u ∈ (afterFlags converter schema words).collector.leftovers,
      u ∈ Word.ofTexts 0 texts := by
    intro u hu
    rw [← hwords]
    exact leftovers_sublist_words.subset hu
  have hleft := (binds_transcript converter schema words).taken_sublist.subset
    (List.mem_flatMap.mpr ⟨m, hm, hv⟩)
  rw [Word.eq_of_index_eq (hplace v hleft) (hplace w hw) hindex] at hv
  exact ⟨m, hm, hp, hv⟩

/-- A word that a position takes is left over by the flags and claimed for the position. -/
theorem mem_bind_of_mem_taken (hm : m ∈ (transcript converter schema words).bindings)
    (hw : w ∈ m.taken) :
    ⟨w, some m.parameter⟩ ∈ ((afterFlags converter schema words).collector.bind converter).2 := by
  have hleft : w ∈ (afterFlags converter schema words).collector.leftovers :=
    (binds_transcript converter schema words).taken_sublist.subset
      (List.mem_flatMap.mpr ⟨m, hm, hw⟩)
  have hclaim := (Collector.mem_claims_iff converter schema.positionals
    (afterFlags converter schema words).collector.leftovers
    (afterFlags converter schema words).collector w.index m.parameter).mpr ⟨m, hm, rfl, w, hw, rfl⟩
  obtain ⟨p, hp⟩ := Option.isSome_iff_exists.mp
    (List.lookup_isSome_iff.mpr ⟨_, hclaim, beq_self_eq_true w.index⟩)
  obtain ⟨n, hn, rfl, hw'⟩ := exists_binding_of_lookup hwords hleft hp
  rw [eq_of_mem_taken hwords hm hn hw hw']
  refine List.mem_map.mpr ⟨w, hleft, congrArg (Leftover.mk w) ?_⟩
  rw [schema_afterFlags]
  exact hp

/-- What a parameter receives, a match of it takes. -/
theorem mem_taken_of_receives {p : Parameter} (h : Receives converter schema words p w) :
    ∃ m ∈ (transcript converter schema words).made, m.parameter = p ∧ w ∈ m.taken := by
  obtain ⟨flag, fresh, run, made, ht, m, hm, hp, hw⟩ | hclaim := h
  · have hflagged : m ∈ (transcript converter schema words).flagged :=
      List.mem_flatMap.mpr ⟨_, ht, hm⟩
    exact ⟨m, mem_made_of_mem_flagged hflagged, hp, hw⟩
  · obtain ⟨v, hv, heq⟩ := List.mem_map.mp hclaim
    rw [Leftover.mk.injEq, schema_afterFlags] at heq
    obtain ⟨rfl, hlookup⟩ := heq
    obtain ⟨m, hm, hp, hw⟩ := exists_binding_of_lookup hwords hv hlookup
    exact ⟨m, mem_made_of_mem_bindings hm, hp, hw⟩

/-- The words that a match takes are the words that the parse hands to its parameter. -/
theorem mem_taken_iff_receives (hm : m ∈ (transcript converter schema words).made) :
    w ∈ m.taken ↔ Receives converter schema words m.parameter w := by
  constructor
  · intro hw
    obtain hm | hm := List.mem_append.mp hm
    · obtain hm | hm := List.mem_append.mp hm
      · obtain ⟨flag, fresh, run, made, ht, hm⟩ := exists_turn_of_mem_flagged hm
        exact .inl ⟨flag, fresh, run, made, ht, m, hm, rfl, hw⟩
      · exact .inr (mem_bind_of_mem_taken hwords hm hw)
    · rw [taken_of_mem_fallbacks hm] at hw
      cases hw
  · intro hreceives
    obtain ⟨n, hn, hparameter, hw⟩ := mem_taken_of_receives hwords hreceives
    rwa [← eq_of_parameter_eq hn hm hparameter]

end

end

/-- The requests of a parse in their order, each with its parameter. -/
def Transcript.calls (t : Transcript) : List Call :=
  t.made.flatMap Match.calls

/-- Where the raw texts of a parameter come from. -/
inductive Source (converter : Converter) (schema : Schema) (words : List Word) (p : Parameter) :
    List String → Prop where
  /-- The words that the parse hands to the parameter, in their order on the command line. -/
  | received (taken : List Word) (hne : taken ≠ []) (horder : taken.Sublist words)
      (hreceived : ∀ w, w ∈ taken ↔ Receives converter schema words p w) :
      Source converter schema words p (taken.map Word.text)
  /-- The literal that a boolean flag without words implies. -/
  | implied (hboolean : p.isBoolean = true) (hnone : ∀ w, ¬ Receives converter schema words p w) :
      Source converter schema words p [Collector.impliedLiteral]
  /-- The fallback of a parameter without words. -/
  | fallback {text : String} (hfallback : p.fallback = some text)
      (hnone : ∀ w, ¬ Receives converter schema words p w) :
      Source converter schema words p (p.fallbackTokens text)

section

variable {converter : Converter} {schema : Schema} {words : List Word} {m : Match}

/-- A flag and a position ask about the words that they take, or about the literal that they imply. -/
theorem asks_of_mem_words (hm : m ∈ (transcript converter schema words).flagged ∨
      m ∈ (transcript converter schema words).bindings)
    {request : Request} (hrequest : request ∈ m.trail.requests) :
    ∃ raw, m.Asks converter raw ∧ m.parameter.rawTexts? m.taken = some raw := by
  obtain hm | hm := hm
  · obtain ⟨flag, fresh, run, made, ht, hm⟩ := exists_turn_of_mem_flagged hm
    obtain ⟨_, hnodup, _, _, rfl⟩ := exists_group_of_mem_turns ht
    obtain ⟨_, ⟨literal, _, heq⟩ | ⟨_, heq⟩⟩ := Match.mem_group hnodup hm
    · have hasks := Match.asks_ofLiteral converter m.parameter flag m.earlier m.ticket literal
      rw [← heq] at hasks
      have htaken : m.taken = [literal] := by
        rw [heq]
        rfl
      exact ⟨_, hasks, by rw [htaken]; rfl⟩
    · exact Match.asks_of_mem_requests_ofRun heq hrequest
  · obtain ⟨_, anchor, behind, _, heq⟩ := Collector.mem_bindings hm
    exact Match.asks_of_mem_requests_ofRun heq hrequest

theorem asks_of_mem_fallbacks (hm : m ∈ (transcript converter schema words).fallbacks) :
    ∃ text, m.parameter.fallback = some text ∧
      m.Asks converter (m.parameter.fallbackTokens text) := by
  obtain ⟨text, hfallback, heq⟩ := Collector.mem_fallbacks hm
  have hasks := Match.asks_ofFallback converter m.parameter m.earlier m.ticket text
  rw [← heq] at hasks
  exact ⟨text, hfallback, hasks⟩

variable {texts : List String} (hwords : words = Word.ofTexts 0 texts)

include hwords

/-- A match that asks the converter has its raw texts from words of the parameter or from what stands in
for them. -/
theorem source_of_mem_requests (hm : m ∈ (transcript converter schema words).made)
    {request : Request} (hrequest : request ∈ m.trail.requests) :
    ∃ raw, m.Asks converter raw ∧ Source converter schema words m.parameter raw := by
  have hreceived : ∀ w, w ∈ m.taken ↔ Receives converter schema words m.parameter w :=
    fun w => mem_taken_iff_receives hwords hm
  have hnone : m.taken = [] → ∀ w, ¬ Receives converter schema words m.parameter w := by
    intro htaken w hw
    have hmem := (hreceived w).mpr hw
    rw [htaken] at hmem
    cases hmem
  have horder := taken_sublist_words hm
  obtain hm | hm := List.mem_append.mp hm
  · obtain ⟨raw, hasks, hraw⟩ := asks_of_mem_words (List.mem_append.mp hm) hrequest
    refine ⟨raw, hasks, ?_⟩
    unfold Parameter.rawTexts? at hraw
    split at hraw
    · next htaken =>
      rw [← Option.some_inj.mp hraw]
      exact .received m.taken (by simpa using htaken) horder hreceived
    · next htaken =>
      split at hraw
      · next hboolean =>
        rw [← Option.some_inj.mp hraw]
        exact .implied hboolean (hnone (by simpa using htaken))
      · cases hraw
  · obtain ⟨text, hfallback, hasks⟩ := asks_of_mem_fallbacks hm
    exact ⟨_, hasks, .fallback hfallback (hnone (taken_of_mem_fallbacks hm))⟩

omit hwords in
/-- The matches of a parse are about parameters of the schema. -/
theorem parameter_mem_of_mem_made (hm : m ∈ (transcript converter schema words).made) :
    m.parameter ∈ schema.parameters := by
  have hp := List.mem_map_of_mem (f := Match.parameter) hm
  rw [Transcript.made, List.map_append, List.map_append, List.mem_append, List.mem_append,
    map_parameter_flagged, map_parameter_applied, List.mem_eraseDups] at hp
  obtain (hp | hp) | hp := hp
  · obtain ⟨w, _, hread⟩ := List.mem_flatMap.mp hp
    exact schema.parameters_read_subset w.text hread
  · have hsublist := (binds_transcript converter schema words).map_parameter_sublist
    exact (schema.mem_positionals_iff.mp (hsublist.subset hp)).1
  · exact (List.mem_filter.mp hp).1

end

/-- How a parse comes to a call of its converter, and what becomes of it; `before` are the calls that it
made before. -/
structure Call.Proper (converter : Converter) (schema : Schema) (texts : List String)
    (before : List Call) (call : Call) : Prop where
  declared : call.parameter ∈ schema.parameters
  /-- The converter is asked for the type of the parameter. -/
  target : call.request.target = .descriptor call.parameter.type
  /-- It is never asked about nothing. -/
  nonempty : call.request.tokens ≠ []
  source : Source converter schema (Word.ofTexts 0 texts) call.parameter call.request.tokens
  /-- It is not asked about a parameter that took too few words. -/
  enough : ∀ fault ∈ (parse converter schema texts).faults,
    fault.parameter? = some call.parameter → fault.kind ≠ .notEnough
  /-- Its answer is the value of the parameter, if that was not given too many words. -/
  answered : (∀ fault ∈ (parse converter schema texts).faults,
      fault.parameter? = some call.parameter → fault.kind ≠ .tooMany) →
    (parse converter schema texts).get? (.parameter call.parameter) =
      some (converter.answer (before.map Call.request) call.request)

/-- No source of tokens is empty. -/
theorem Source.ne_nil {converter : Converter} {schema : Schema} {words : List Word} {p : Parameter}
    {raw : List String} (h : Source converter schema words p raw) : raw ≠ [] := by
  cases h with
  | received taken hne => simpa using hne
  | implied => exact List.cons_ne_nil _ _
  | fallback => exact p.fallbackTokens_ne_nil _

section

variable {converter : Converter} {schema : Schema} {words : List Word} {m : Match} {raw : List String}
  (hm : m ∈ (transcript converter schema words).made) (hasks : m.Asks converter raw)

include hm hasks

/-- A parse does not report too few words for a parameter that it asks about. -/
theorem kind_ne_notEnough_of_asks {fault : Fault}
    (hfault : fault ∈ (collect converter schema words).faults)
    (habout : fault.parameter? = some m.parameter) : fault.kind ≠ .notEnough := by
  obtain ⟨n, hn, hparameter, hstands⟩ | ⟨_, rfl⟩ := about_cases hfault habout
  · rw [eq_of_parameter_eq hn hm hparameter] at hstands
    obtain ⟨r, hr, rfl⟩ := List.mem_map.mp (List.mem_filter.mp hstands).1
    exact hasks.enough r hr
  · nofun

/-- The answer about a parameter is its value, if it is not reported to have too many words. -/
theorem get?_of_asks
    (hfaults : ∀ fault ∈ (collect converter schema words).faults,
      fault.parameter? = some m.parameter → fault.kind ≠ .tooMany) :
    (collect converter schema words).freeze.get? (.parameter m.parameter) =
      some (converter.answer m.earlier ⟨raw, .descriptor m.parameter.type⟩) := by
  have hkept : m.overflowed (transcript converter schema words).claimed = false := by
    rw [← Bool.not_eq_true, ← mem_confirmed_iff hm]
    intro hconfirmed
    obtain ⟨fault, hfault, hkind, habout⟩ := overflow_of_mem_confirmed converter schema _ hconfirmed
    exact hfaults fault hfault habout hkind
  have hvalue := get?_of_mem hm
  rwa [Match.settled, hkept, hasks.value] at hvalue

end

section

variable {converter : Converter} {schema : Schema} {texts : List String}

/-- A match makes one call at most. -/
theorem calls_sublist {m : Match}
    (hm : m ∈ (transcript converter schema (Word.ofTexts 0 texts)).made) :
    (m.calls.map Call.parameter).Sublist [m.parameter] := by
  cases hrequests : m.trail.requests with
  | nil =>
    rw [Match.calls, hrequests]
    exact List.nil_sublist _
  | cons request others =>
    obtain ⟨raw, hasks, _⟩ := source_of_mem_requests rfl hm (hrequests ▸ List.mem_cons_self)
    rw [Match.calls, hasks.requests]
    exact List.Sublist.refl _

/-- A call is made by a match that asks the converter, and follows on the calls before it. -/
theorem exists_asks_of_split {before after : List Call} {call : Call}
    (h : (transcript converter schema (Word.ofTexts 0 texts)).calls = before ++ call :: after) :
    ∃ m ∈ (transcript converter schema (Word.ofTexts 0 texts)).made, ∃ raw, m.Asks converter raw ∧
      Source converter schema (Word.ofTexts 0 texts) m.parameter raw ∧
        m.earlier = before.map Call.request ∧
          call = ⟨m.parameter, raw, .descriptor m.parameter.type⟩ := by
  have honce : ∀ m ∈ (transcript converter schema (Word.ofTexts 0 texts)).made,
      m.calls.length ≤ 1 := by
    intro m hm
    rw [← List.length_map (f := Call.parameter)]
    exact (calls_sublist hm).length_le
  obtain ⟨earlier, m, later, hsplit, hcall, hbefore⟩ := Match.exists_split_of_calls honce h
  have hm : m ∈ (transcript converter schema (Word.ofTexts 0 texts)).made := by
    rw [hsplit]
    exact List.mem_append_right earlier List.mem_cons_self
  obtain ⟨request, hrequest, rfl⟩ := List.mem_map.mp hcall
  obtain ⟨raw, hasks, hsource⟩ := source_of_mem_requests rfl hm hrequest
  rw [hasks.requests, List.mem_singleton] at hrequest
  refine ⟨m, hm, raw, hasks, hsource, ?_, by rw [hrequest]⟩
  have hlinked := linked_made converter schema (Word.ofTexts 0 texts)
  rw [hsplit, Match.linked_append] at hlinked
  rw [hlinked.2.1, ← hbefore, Match.map_request_calls, List.nil_append]

end

/-- A parse calls its converter once at most for each parameter, and every call is a proper one. -/
theorem parse_calls (converter : Converter) (schema : Schema) (texts : List String) :
    let calls := (transcript converter schema (Word.ofTexts 0 texts)).calls
    (collect converter schema (Word.ofTexts 0 texts)).requests = calls.map Call.request ∧
      (calls.map Call.parameter).Nodup ∧
        ∀ before call after, calls = before ++ call :: after →
          call.Proper converter schema texts before := by
  intro calls
  refine ⟨?_, ?_, ?_⟩
  · rw [collect_requests]
    exact (Match.map_request_calls _).symm
  · have hsublist : (calls.map Call.parameter).Sublist
        ((transcript converter schema (Word.ofTexts 0 texts)).made.map Match.parameter) := by
      change (((transcript converter schema _).made.flatMap Match.calls).map _).Sublist _
      rw [List.map_flatMap]
      exact flatMap_sublist_map fun m hm => calls_sublist hm
    exact (nodup_made ..).sublist hsublist
  · intro before call after hsplit
    obtain ⟨m, hm, raw, hasks, hsource, hearlier, rfl⟩ := exists_asks_of_split hsplit
    constructor
    case declared => exact parameter_mem_of_mem_made hm
    case target => rfl
    case nonempty => exact hsource.ne_nil
    case source => exact hsource
    case enough => exact fun fault hfault habout => kind_ne_notEnough_of_asks hm hasks hfault habout
    case answered =>
      intro hfaults
      rw [← hearlier]
      exact get?_of_asks hm hasks hfaults

end CommandLine
