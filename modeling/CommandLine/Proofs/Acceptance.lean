import CommandLine.Proofs.Order.Results
import CommandLine.Proofs.Suggestion

namespace CommandLine

namespace Schema

/-- A parameter can be added to a schema exactly if it is compatible with all parameters there. -/
theorem conflict?_eq_none_iff {s : Schema} {p : Parameter} :
    s.conflict? p = none ↔ ∀ q ∈ s.parameters, q.Compatible p := by
  refine ⟨compatible_of_conflict?, fun h => ?_⟩
  have hnew : p ∉ s.parameters := fun hp => (h p hp).1 rfl
  simp only [conflict?, if_neg hnew, Option.or_eq_none_iff, Option.map_eq_none_iff,
    List.find?_eq_none, Option.filter_eq_none_iff, long?, short?, at?, List.find?_isSome,
    decide_eq_true_eq]
  refine ⟨⟨?_, ?_⟩, ?_⟩
  · rintro name hp ⟨q, hq, hqname⟩
    exact (h q hq).2.1 name hqname hp
  · rintro name hp ⟨q, hq, hqname⟩
    exact (h q hq).2.2.1 name hqname hp
  · rintro n hp ⟨q, hq, hqn⟩
    exact (h q hq).2.2.2 n hqn hp

/-- A schema is known by its parameters. -/
theorem eq_of_parameters_eq {s t : Schema} (h : s.parameters = t.parameters) : s = t := by
  cases s
  cases t
  cases h
  rfl

/-- A parameter is added at the end, or refused. -/
theorem add_parameter_eq_ok_iff {s t : Schema} {p : Parameter} :
    s.add (.parameter p) = .ok t ↔
      s.conflict? p = none ∧ t.parameters = s.parameters ++ [p] := by
  simp only [add]
  split
  · next e hconflict => simp [hconflict]
  · next hnone =>
    rw [Except.ok.injEq]
    exact ⟨fun heq => ⟨hnone, heq ▸ rfl⟩, fun h => eq_of_parameters_eq h.2.symm⟩

/-- Adding parameters to a schema comes to the schema with all of them, if there is one. -/
theorem foldlM_add_eq_ok_iff {ps : List Parameter} {s t : Schema} :
    (ps.map SchemaEntry.parameter).foldlM add s = .ok t ↔ t.parameters = s.parameters ++ ps := by
  induction ps generalizing s with
  | nil =>
    rw [List.map_nil, List.foldlM_nil, List.append_nil]
    exact ⟨fun heq => by cases heq; rfl, fun h => congrArg Except.ok (eq_of_parameters_eq h.symm)⟩
  | cons p rest ih =>
    rw [List.map_cons, List.foldlM_cons]
    cases hadd : s.add (.parameter p) with
    | error e =>
      refine ⟨nofun, fun h => ?_⟩
      -- Where the parameter conflicts, no schema has all of them.
      have hcompatible := t.compatible
      rw [h, List.append_cons] at hcompatible
      have hfront := (List.pairwise_append.mp hcompatible).1
      have hnone : s.conflict? p = none := conflict?_eq_none_iff.mpr fun q hq =>
        (List.pairwise_append.mp hfront).2.2 q hq p (List.mem_singleton_self p)
      have hok : s.add (.parameter p) = .ok ⟨s.parameters ++ [p], hfront⟩ :=
        add_parameter_eq_ok_iff.mpr ⟨hnone, rfl⟩
      rw [hadd] at hok
      cases hok
    | ok u =>
      obtain ⟨_, hu⟩ := add_parameter_eq_ok_iff.mp hadd
      have hrest := ih (s := u)
      rw [hu, List.append_assoc, List.singleton_append] at hrest
      exact hrest

/-- A list of parameters is accepted exactly if there is a schema that declares them in this order. -/
theorem ofList_eq_ok_iff {ps : List Parameter} {s : Schema} :
    ofList (ps.map .parameter) = .ok s ↔ s.parameters = ps :=
  foldlM_add_eq_ok_iff

/-- A long name leads to the parameter that has it. -/
theorem long?_eq_some_iff_mem {s : Schema} {name : String} {p : Parameter} :
    s.long? name = some p ↔ p ∈ s.parameters ∧ name ∈ p.longs := by
  constructor
  · intro h
    have hp := List.mem_of_find?_eq_some h
    exact ⟨hp, (long?_eq_some_iff hp name).mp h⟩
  · rintro ⟨hp, hname⟩
    exact (long?_eq_some_iff hp name).mpr hname

theorem short?_eq_some_iff_mem {s : Schema} {name : Char} {p : Parameter} :
    s.short? name = some p ↔ p ∈ s.parameters ∧ name ∈ p.shorts := by
  constructor
  · intro h
    have hp := List.mem_of_find?_eq_some h
    exact ⟨hp, (short?_eq_some_iff hp name).mp h⟩
  · rintro ⟨hp, hname⟩
    exact (short?_eq_some_iff hp name).mpr hname

/-- A short name given as a text leads to a parameter only if it is one character. -/
theorem shortText?_eq_some_iff_mem {s : Schema} {text : String} {p : Parameter} :
    s.shortText? text = some p ↔
      p ∈ s.parameters ∧ ∃ c ∈ p.shorts, text = String.ofList [c] := by
  unfold shortText?
  split
  · next c htext =>
    obtain rfl : text = String.ofList [c] :=
      String.toList_inj.mp (by rw [htext, String.toList_ofList])
    simp [short?_eq_some_iff_mem]
  · next htext =>
    refine ⟨nofun, ?_⟩
    rintro ⟨_, c, _, rfl⟩
    exact absurd String.toList_ofList (htext c)

theorem shortText?_ofList_singleton (s : Schema) (c : Char) :
    s.shortText? (String.ofList [c]) = s.short? c := by
  unfold shortText?
  rw [String.toList_ofList]

section

variable {s t : Schema} (hperm : t.parameters.Perm s.parameters)

include hperm

end

end Schema

end CommandLine
