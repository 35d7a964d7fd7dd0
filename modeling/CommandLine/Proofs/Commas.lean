import CommandLine.Proofs.Numeral.Decimal
import CommandLine.Proofs.Numeral.Integer
import CommandLine.Proofs.Overflow
import CommandLine.Proofs.Positions.Segments
import CommandLine.Proofs.Windows

namespace CommandLine

open Numeral Text

section

variable {kind : Kind} {text : String} {tokens : List String}

/-- A comma stays where the blanks around a number are taken off. -/
theorem comma_mem_plainText (h : ',' ∈ text.toList) : ',' ∈ plainText text := by
  have hplain : ',' ∈ text.toList.map plainChar := List.mem_map_of_mem (f := plainChar) h
  exact mem_trim hplain rfl

theorem not_isNumeral_comma : ¬ IsNumeral ',' := by
  unfold IsNumeral
  decide

/-- A text with a comma is malformed for every kind but that of texts. -/
theorem coerceKind_of_comma (hkind : kind ≠ .string) (h : ',' ∈ text.toList) :
    ∃ refusal, coerceKind kind text = .error refusal ∧ refusal.failure.category = .value := by
  cases kind with
  | string => exact absurd rfl hkind
  | boolean =>
    have hliteral : isBooleanLiteral text = false := by
      rw [← Bool.not_eq_true]
      intro hliteral
      exact absurd (isAlpha_of_isBooleanLiteral hliteral h (by decide)) (by decide)
    exact ⟨.invalidBoolean text, by simp [coerceKind, hliteral], rfl⟩
  | integer =>
    have hread : readInteger? text = none := by
      rw [Option.eq_none_iff_forall_ne_some]
      intro n hn
      have hform := readInteger?_eq_some_iff_integerForm.mp hn
      exact not_isNumeral_comma (hform.numeral _ (comma_mem_plainText h))
    exact ⟨.invalidInteger text, by rw [coerceKind, hread], rfl⟩
  | float =>
    have hread : readFloat? text = none := by
      rw [Option.eq_none_iff_forall_ne_some]
      intro x hx
      exact not_isNumeral_comma (numeral_of_readFloat? hx _ (comma_mem_plainText h))
    exact ⟨.invalidFloat text, by rw [coerceKind, hread], rfl⟩

theorem comma_mem_intercalate (h : 2 ≤ tokens.length) : ',' ∈ (",".intercalate tokens).toList := by
  match tokens, h with
  | first :: second :: rest, _ =>
    rw [String.toList_intercalate, List.map_cons, List.map_cons, List.intercalate_cons_cons]
    exact List.mem_append_left _ (List.mem_append_right _ (List.mem_singleton_self _))

/-- Standard conversion refuses two tokens or more for a scalar of every kind but that of texts. -/
theorem Converter.standard_of_several (hkind : kind ≠ .string) (h : 2 ≤ tokens.length)
    (earlier : List Request) :
    ∃ failure, Converter.standard.convert earlier ⟨tokens, .descriptor (.scalar (.known kind))⟩ =
      .error failure ∧ failure.category = .value := by
  obtain ⟨refusal, hrefusal, hcategory⟩ := coerceKind_of_comma hkind (comma_mem_intercalate h)
  have hsome : tokens.isEmpty = false := by
    cases tokens with
    | nil => cases h
    | cons => rfl
  refine ⟨refusal.failure, ?_, hcategory⟩
  change (answerWith coerce _).mapError Refusal.failure = _
  simp [answerWith, convertWith, coerce, hsome, hrefusal, Except.mapError]

end

namespace Match

variable {converter : Converter} {m : Match} {failure : Failure}

/-- A match whose words are enough and are refused has no value and records the refusal; what else it
records is an overflow. -/
theorem Made.recorded_of_refused (hmade : Made converter m) (hne : m.taken ≠ [])
    (henough : m.parameter.window.minimum ≤ m.taken.length)
    (hrefused : converter.convert m.earlier ⟨m.taken.map Word.text, .descriptor m.parameter.type⟩ =
      .error failure) :
    m.resolution.value = .none ∧ ∃ anchor, m.trail.recorded =
      ⟨m.ticket, .conversion m.parameter (some anchor) (m.taken.map Word.text) failure⟩ ::
        m.resolution.pending.toList := by
  cases hmade with
  | run p anchor run positional earlier ticket =>
    rw [taken_ofRun] at hne henough hrefused ⊢
    rw [parameter_ofRun] at henough hrefused ⊢
    rw [earlier_ofRun] at hrefused
    rw [ticket_ofRun]
    have hraw : p.rawTexts? (p.take run) = some ((p.take run).map Word.text) := by
      simp [Parameter.rawTexts?, hne]
    obtain ⟨hrecorded, _, _, hvalue⟩ :=
      recorded_ofRun_of_enough converter anchor positional earlier ticket henough
    refine ⟨?_, anchor, ?_⟩
    · rw [hvalue, Converter.answerTaken, hraw]
      simp [Converter.answer, hrefused]
    · rw [hrecorded, Trail.ofTaken, hraw]
      simp [Trail.ofConversion, hrefused]
  | literal p anchor literal earlier ticket =>
    change converter.convert earlier ⟨[literal.text], .descriptor p.type⟩ = _ at hrefused
    refine ⟨?_, anchor, ?_⟩
    · simp [ofLiteral, Converter.answer, hrefused]
    · simp [ofLiteral, Trail.ofConversion, hrefused, Match.taken, Match.parameter]
  | fallback => exact absurd rfl hne

/-- A refused conversion stands whatever becomes of an overflow. -/
theorem filter_conversion_standing (m : Match) (claimed : List Nat) :
    (m.standing claimed).filter (·.kind = .conversion) =
      (m.trail.recorded.map RecordedFault.fault).filter (·.kind = .conversion) := by
  rw [standing, List.filter_filter]
  apply List.filter_congr
  intro fault _
  cases fault.kind <;> simp

end Match

/-- The reports of an outcome that the converter refused the texts of a parameter. -/
def Outcome.refusalsOf (outcome : Outcome) (p : Parameter) : List Fault :=
  outcome.faults.filter fun fault => fault.kind = .conversion && fault.parameter? = some p

section

variable {converter : Converter} {schema : Schema} {words : List Word} {m : Match} {failure : Failure}

/-- A parse leaves a matched parameter whose words the converter refuses without a value, and reports the
refusal once. -/
theorem refusalsOf_of_refused (hm : m ∈ (transcript converter schema words).made) (hne : m.taken ≠ [])
    (henough : m.parameter.window.minimum ≤ m.taken.length)
    (hrefused : converter.convert m.earlier ⟨m.taken.map Word.text, .descriptor m.parameter.type⟩ =
      .error failure) :
    (collect converter schema words).freeze.get? (.parameter m.parameter) = some .none ∧
      ∃ anchor, (collect converter schema words).freeze.refusalsOf m.parameter =
        [.conversion m.parameter (some anchor) (m.taken.map Word.text) failure] := by
  obtain ⟨hvalue, anchor, hrecorded⟩ :=
    (made_of_mem_transcript hm).recorded_of_refused hne henough hrefused
  constructor
  · rw [get?_of_mem hm, Match.value_settled, hvalue, ite_self]
  · have hoverflow : (m.resolution.pending.toList.map RecordedFault.fault).filter
        (·.kind = .conversion) = [] := by
      refine List.filter_eq_nil_iff.mpr fun fault hfault hkind => ?_
      obtain ⟨r, hr, rfl⟩ := List.mem_map.mp hfault
      have hover := (coherent_of_mem_transcript hm).pending_eq_some_iff.mp (Option.mem_toList.mp hr)
      rw [of_decide_eq_true hkind] at hover
      cases hover.2
    have hstanding := m.filter_conversion_standing (transcript converter schema words).claimed
    rw [← faults_about_of_mem hm, List.filter_filter, hrecorded, List.map_cons] at hstanding
    refine ⟨anchor, hstanding.trans ?_⟩
    rw [List.filter_cons_of_pos, hoverflow]
    rfl

end

/-- Standard conversion refuses two tokens or more for a scalar of every kind but that of texts. So a
parameter of such a type that is handed two words or more, and not too few, has no value, and the parse
reports once that its words were refused. -/
theorem parse_refuses_several :
    (∀ kind, kind ≠ .string → ∀ tokens : List String, 2 ≤ tokens.length → ∀ earlier, ∃ failure,
      Converter.standard.convert earlier ⟨tokens, .descriptor (.scalar (.known kind))⟩ =
        .error failure ∧ failure.category = .value) ∧
      ∀ (schema : Schema) (texts : List String) (p : Parameter) (kind : Kind),
        p.type = .scalar (.known kind) → kind ≠ .string →
          let taken := received .standard schema (Word.ofTexts 0 texts) p
          2 ≤ taken.length → p.window.minimum ≤ taken.length →
            (parse .standard schema texts).get? (.parameter p) = some .none ∧
              ∃ anchor failure, failure.category = .value ∧
                (parse .standard schema texts).refusalsOf p =
                  [.conversion p (some anchor) (taken.map Word.text) failure] := by
  refine ⟨fun kind hkind tokens hseveral => Converter.standard_of_several hkind hseveral, ?_⟩
  intro schema texts p kind htype hkind taken hseveral henough
  obtain ⟨w, hw⟩ := List.exists_mem_of_length_pos (Nat.zero_lt_of_lt hseveral)
  obtain ⟨m, hm, rfl, hne⟩ :=
    exists_match_of_receives (of_decide_eq_true (List.mem_filter.mp hw).2)
  have htaken : taken = m.taken := received_eq_taken hm
  rw [htaken] at hseveral henough ⊢
  have hmany : 2 ≤ (m.taken.map Word.text).length := by rwa [List.length_map]
  obtain ⟨failure, hrefused, hcategory⟩ := Converter.standard_of_several hkind hmany m.earlier
  rw [← htype] at hrefused
  obtain ⟨hvalue, anchor, hreported⟩ := refusalsOf_of_refused hm hne henough hrefused
  exact ⟨hvalue, anchor, failure, hcategory, hreported⟩

/-- A flag for an integer that may be given in two words. -/
def splitNumber : Parameter :=
  { shortFlag 0 'n' (.scalar (.known .integer)) rfl with
    arity := some upToTwo
    named_or_placed := .inr (.inl (List.cons_ne_nil _ _)) }

/-- Three words behind a flag for two are not too many where a position claims the last one, and the first
two are refused all the same. -/
theorem parse_refuses_splitNumber :
    let schema : Schema := ⟨[splitNumber, slot 1 (.list .raw) none],
      List.pairwise_pair.mpr ⟨by decide, by simp [slot], by simp [slot], nofun⟩⟩
    let outcome := parse .standard schema ["-n", "1", "2", "3"]
    received .standard schema (Word.ofTexts 0 ["-n", "1", "2", "3"]) splitNumber = [⟨"1", 1⟩, ⟨"2", 2⟩] ∧
      outcome.overflowsOf splitNumber = [] ∧ outcome.get? (.parameter splitNumber) = some .none ∧
        ∃ anchor failure, failure.category = .value ∧
          outcome.refusalsOf splitNumber = [.conversion splitNumber (some anchor) ["1", "2"] failure] := by
  intro schema outcome
  have hreceived : received .standard schema (Word.ofTexts 0 ["-n", "1", "2", "3"]) splitNumber =
      [⟨"1", 1⟩, ⟨"2", 2⟩] := by
    decide +kernel
  have hrefused := parse_refuses_several.2 schema ["-n", "1", "2", "3"] splitNumber .integer rfl nofun
  rw [hreceived] at hrefused
  exact ⟨hreceived, by decide +kernel, hrefused (by decide) (by decide)⟩

end CommandLine
