import CommandLine.Proofs.Checked
import CommandLine.Proofs.Overflow

namespace CommandLine

open Numeral

/-- A number is equal to itself unless it is a not-a-number. -/
theorem Numeral.Binary64.equal_self (x : Binary64) : x.equal x = decide (x ≠ .nan) := by
  cases x <;> simp [equal]

namespace Value

/-- The values of single texts. -/
inductive IsItem : Value → Prop where
  | bool (b : Bool) : IsItem (.bool b)
  | int (n : Int) : IsItem (.int n)
  | float (x : Binary64) : IsItem (.float x)
  | text (s : String) : IsItem (.text s)

/-- The values that standard conversion can come to: nothing, an item, or a sequence of items. -/
inductive IsFlat : Value → Prop where
  | none : IsFlat .none
  | item {v : Value} (h : IsItem v) : IsFlat v
  | list {items : List Value} (h : ∀ v ∈ items, IsItem v) : IsFlat (.list items)
  | tuple {items : List Value} (h : ∀ v ∈ items, IsItem v) : IsFlat (.tuple items)

/-- An item is equal to itself unless it is a not-a-number. -/
theorem IsItem.same_self {v : Value} (h : IsItem v) : v.same v = !v.hasNaN := by
  cases h with
  | bool b => simp [same, sameNumber, integer?, hasNaN]
  | int n => simp [same, sameNumber, integer?, hasNaN]
  | float x => cases x <;> simp [same, sameNumber, Binary64.equal_self, hasNaN]
  | text s => simp [same, hasNaN]

/-- A sequence of items is equal to itself place by place if none of them is a not-a-number. -/
theorem sameItems_self {items : List Value} (h : ∀ v ∈ items, IsItem v) :
    sameItems items items = !anyNaN items := by
  induction items with
  | nil => rfl
  | cons v rest ih =>
    obtain ⟨hv, hrest⟩ := List.forall_mem_cons.mp h
    rw [sameItems, anyNaN, hv.same_self, ih hrest, Bool.not_or]

/-- A value of standard conversion is equal to itself unless a not-a-number is in it. -/
theorem IsFlat.same_self {v : Value} (h : IsFlat v) : v.same v = !v.hasNaN := by
  cases h with
  | none => rfl
  | item h => exact h.same_self
  | list h => exact sameItems_self h
  | tuple h => exact sameItems_self h

end Value

/-- Coercion comes to an item, whatever the kind. -/
theorem isItem_of_coerceKind {kind : Kind} {text : String} {value : Value}
    (h : coerceKind kind text = .ok value) : value.IsItem := by
  cases kind with
  | string =>
    cases h
    exact .text text
  | boolean =>
    dsimp only [coerceKind] at h
    split at h
    · cases h
      exact .bool _
    · cases h
  | integer =>
    dsimp only [coerceKind] at h
    split at h
    · cases h
      exact .int _
    · cases h
  | float =>
    dsimp only [coerceKind] at h
    split at h
    · cases h
      exact .float _
    · cases h

theorem isItem_of_coerce {text : String} {kind : ItemKind} {value : Value}
    (h : coerce text kind = .ok value) : value.IsItem := by
  cases kind with
  | raw =>
    cases h
    exact .text text
  | known kind => exact isItem_of_coerceKind h
  | foreign name => cases h

theorem isItem_of_mapM_coerce {tokens : List String} {kind : ItemKind} {items : List Value}
    (h : tokens.mapM (coerce · kind) = .ok items) : ∀ v ∈ items, v.IsItem := by
  have hitems := mapM_eq_ok_iff.mp h
  clear h
  induction hitems with
  | nil => exact fun _ hv => absurd hv List.not_mem_nil
  | cons hfirst _ ih => exact List.forall_mem_cons.mpr ⟨isItem_of_coerce hfirst, ih⟩

/-- Standard conversion comes to flat values only. -/
theorem isFlat_of_convertWith {tokens : List String} {d : Descriptor} {value : Value}
    (h : convertWith coerce tokens d = .ok value) : value.IsFlat := by
  cases d with
  | unspecified =>
    dsimp only [convertWith] at h
    split at h
    · cases h
      exact .item (.text _)
    · cases h
      refine .list fun v hv => ?_
      obtain ⟨text, _, rfl⟩ := List.mem_map.mp hv
      exact .text text
  | scalar kind => exact .item (isItem_of_coerce h)
  | array kind =>
    obtain ⟨items, hitems, rfl⟩ := Except.map_eq_ok_iff.mp h
    exact .tuple (isItem_of_mapM_coerce hitems)
  | list kind =>
    obtain ⟨items, hitems, rfl⟩ := Except.map_eq_ok_iff.mp h
    exact .list (isItem_of_mapM_coerce hitems)

/-- Standard conversion comes to an item or to a sequence of items. -/
theorem isFlat_of_standard {earlier : List Request} {request : Request} {value : Value}
    (h : Converter.standard.convert earlier request = .ok value) : value.IsFlat := by
  change (answerWith coerce request).mapError Refusal.failure = .ok value at h
  unfold answerWith at h
  split at h
  · cases h
  · split at h
    · next d _ =>
      cases hconvert : convertWith coerce request.tokens d with
      | error refusal => rw [hconvert] at h; cases h
      | ok converted =>
        rw [hconvert] at h
        cases h
        exact isFlat_of_convertWith hconvert
    · cases h

section

variable {converter : Converter} {P : Value → Prop} (hnone : P .none)
  (hanswers : ∀ earlier request value, converter.convert earlier request = .ok value → P value)

include hnone hanswers

theorem value_answer (earlier : List Request) (request : Request) :
    P (converter.answer earlier request) := by
  unfold Converter.answer
  cases hconvert : converter.convert earlier request with
  | ok value => exact hanswers earlier request value hconvert
  | error failure => exact hnone

/-- What holds of all answers of a converter, and of the absent value, holds of the values of matches. -/
theorem Match.Made.value {m : Match} (hmade : Made converter m) : P m.resolution.value := by
  cases hmade with
  | literal p anchor literal earlier ticket => exact value_answer hnone hanswers ..
  | fallback p fallback earlier ticket => exact value_answer hnone hanswers ..
  | run p anchor run positional earlier ticket =>
    rcases Nat.lt_or_ge (p.take run).length p.window.minimum with hshort | henough
    · rw [ofRun_of_short converter anchor positional earlier ticket hshort]
      exact hnone
    · obtain ⟨_, _, _, hvalue⟩ :=
        recorded_ofRun_of_enough converter anchor positional earlier ticket henough
      rw [hvalue, Converter.answerTaken]
      split
      · exact value_answer hnone hanswers ..
      · exact hnone

/-- What holds of the absent value and of all answers of a converter holds of all values of a parse. -/
theorem value_of_mem_entries {schema : Schema} {words : List Word} {entry : Entry}
    (hentry : entry ∈ (collect converter schema words).entries) : P entry.value := by
  rw [collect_entries_eq_map_settled] at hentry
  obtain ⟨m, hm, rfl⟩ := List.mem_map.mp hentry
  rw [Match.value_settled]
  split
  · exact hnone
  · exact (made_of_mem_transcript hm).value hnone hanswers

end

theorem Outcome.sameAll_self_iff {α : Type} {same : α → α → Bool} {xs : List α} :
    sameAll same xs xs = true ↔ ∀ x ∈ xs, same x x = true := by
  induction xs with
  | nil => simp [sameAll]
  | cons x rest ih => rw [sameAll, Bool.and_eq_true, ih, List.forall_mem_cons]

/-- A fault is equal to itself, since faults are compared by their identities. -/
theorem Fault.same_self (fault : Fault) : fault.same fault = true :=
  decide_eq_true rfl

/-- Two parses of one command line under standard conversion have equal leftovers and faults, and they
have equal results exactly if no value is a not-a-number or has one among its items. -/
theorem parse_same_iff (schema : Schema) (texts : List String) :
    let first := parse .standard schema texts
    let second := parse .standard schema texts
    (first.same second = true ↔ ∀ entry ∈ first.results, entry.value.hasNaN = false) ∧
      first.positional = second.positional ∧
        Outcome.sameAll Fault.same first.faults second.faults = true := by
  intro first second
  have hfaults : Outcome.sameAll Fault.same first.faults second.faults = true :=
    Outcome.sameAll_self_iff.mpr fun fault _ => fault.same_self
  refine ⟨?_, rfl, hfaults⟩
  have hvalues : ∀ entry ∈ first.results, entry.value.IsFlat := fun entry hentry =>
    value_of_mem_entries .none (fun _ _ _ => isFlat_of_standard) hentry
  rw [Outcome.same, hfaults, beq_self_eq_true, Bool.and_true, Bool.and_true, Outcome.sameResults,
    Outcome.sameAll_self_iff]
  refine forall₂_congr fun entry hentry => ?_
  rw [Outcome.sameEntry, decide_eq_true rfl, Bool.true_and, (hvalues entry hentry).same_self,
    Bool.not_eq_true']

example :
    let floats : Parameter := { oneWordFlag with type := .list (.known .float), arity := none }
    let schema : Schema := ⟨[floats], List.pairwise_singleton _ _⟩
    let outcome := parse .standard schema ["--name", "1", "nan"]
    outcome.same outcome = false ∧ outcome.faults = [] := by
  decide +kernel

end CommandLine
