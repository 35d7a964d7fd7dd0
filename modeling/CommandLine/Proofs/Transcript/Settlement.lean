import CommandLine.Proofs.Collector.Invariant

namespace CommandLine

/-- Whether positions claimed all of the surplus of a resolution. -/
def Resolution.absorbed (claimed : List Nat) (r : Resolution) : Bool :=
  r.surplus.all fun w => claimed.contains w.index

/-- The faults of the overflows that are withdrawn. -/
def withdrawnFaults (claimed : List Nat) (rs : List Resolution) : List RecordedFault :=
  (rs.filter (·.absorbed claimed)).filterMap Resolution.pending

/-- The parameters that lose their value to an overflow. -/
def confirmedParameters (claimed : List Nat) (rs : List Resolution) : List Parameter :=
  (rs.filter fun r => r.pending.isSome && !r.absorbed claimed).map Resolution.parameter

/-- An entry without its value if its parameter is among those that lose it. -/
def Entry.clear (lost : List Parameter) (entry : Entry) : Entry :=
  if entry.parameter ∈ lost then ⟨entry.parameter, .none⟩ else entry

@[simp] theorem Entry.parameter_clear (lost : List Parameter) (entry : Entry) :
    (entry.clear lost).parameter = entry.parameter := by
  unfold clear
  split <;> rfl

theorem Entry.clear_of_notMem {lost : List Parameter} {entry : Entry}
    (h : entry.parameter ∉ lost) : entry.clear lost = entry :=
  if_neg h

theorem withdrawnFaults_cons (claimed : List Nat) (r : Resolution) (rest : List Resolution) :
    withdrawnFaults claimed (r :: rest) =
      (if r.absorbed claimed then r.pending.toList else []) ++ withdrawnFaults claimed rest := by
  unfold withdrawnFaults
  rw [List.filter_cons]
  split
  · cases hpending : r.pending <;> simp [hpending]
  · rfl

theorem confirmedParameters_cons (claimed : List Nat) (r : Resolution) (rest : List Resolution) :
    confirmedParameters claimed (r :: rest) =
      (if r.pending.isSome && !r.absorbed claimed then [r.parameter] else []) ++
        confirmedParameters claimed rest := by
  unfold confirmedParameters
  rw [List.filter_cons]
  split <;> rfl

/-- A fault is withdrawn for a resolution that it is pending in and whose surplus was claimed. -/
theorem mem_withdrawnFaults {claimed : List Nat} {rs : List Resolution} {fault : RecordedFault} :
    fault ∈ withdrawnFaults claimed rs ↔
      ∃ r ∈ rs, r.absorbed claimed = true ∧ r.pending = some fault := by
  simp [withdrawnFaults, and_assoc]

/-- A parameter is confirmed for a pending resolution of it whose surplus was not claimed. -/
theorem mem_confirmedParameters {claimed : List Nat} {rs : List Resolution} {p : Parameter} :
    p ∈ confirmedParameters claimed rs ↔
      ∃ r ∈ rs, r.pending.isSome = true ∧ r.absorbed claimed = false ∧ r.parameter = p := by
  simp [confirmedParameters, and_assoc]

namespace Collector

variable {c : Collector}

/-- Nullifying clears the value of the entry. -/
theorem nullify_of_matched {p : Parameter} (hp : c.matched p = true) :
    c.nullify p = { c with entries := c.entries.map (Entry.clear [p]) } := by
  simp only [nullify, hp, if_true]
  congr 1
  apply List.map_congr_left
  intro entry _
  by_cases heq : entry.parameter = p
  · simp [Entry.clear, heq]
  · simp [Entry.clear, heq]

private theorem clear_cons (p : Parameter) (lost : List Parameter) (entry : Entry) :
    (entry.clear [p]).clear lost = entry.clear (p :: lost) := by
  by_cases hp : entry.parameter = p <;> by_cases hlost : entry.parameter ∈ lost <;>
    simp_all [Entry.clear]

/-- Settling overflows of matched parameters clears the values of the confirmed ones and takes out
the faults of the withdrawn ones. -/
theorem settle_eq (claimed : List Nat) {rs : List Resolution}
    (hmatched : ∀ r ∈ rs, c.matched r.parameter = true) :
    ∃ journal, rs.foldl (settleOverflow claimed) c =
      { c with
        entries := c.entries.map (Entry.clear (confirmedParameters claimed rs))
        recorded := c.recorded.filter fun r =>
          (withdrawnFaults claimed rs).all fun withdrawn => r.ticket ≠ withdrawn.ticket
        journal := c.journal ++ journal } := by
  induction rs generalizing c with
  | nil =>
    have hclear : Entry.clear (confirmedParameters claimed []) = id := by
      funext entry
      exact Entry.clear_of_notMem List.not_mem_nil
    refine ⟨[], ?_⟩
    rw [hclear]
    simp [withdrawnFaults]
  | cons r rest ih =>
    obtain ⟨hr, hrest⟩ := List.forall_mem_cons.mp hmatched
    rw [List.foldl_cons, withdrawnFaults_cons, confirmedParameters_cons]
    cases hpending : r.pending with
    | none =>
      have hstep : c.settleOverflow claimed r = c := by simp [settleOverflow, hpending]
      obtain ⟨journal, hjournal⟩ := ih hrest
      refine ⟨journal, ?_⟩
      rw [hstep, hjournal]
      simp
    | some fault =>
      cases habsorbed : r.absorbed claimed with
      | true =>
        have hstep : c.settleOverflow claimed r = c.withdraw fault := by
          simp only [settleOverflow, hpending]
          exact if_pos habsorbed
        obtain ⟨journal, hjournal⟩ := ih (c := c.withdraw fault) hrest
        refine ⟨.withdrew fault.fault :: journal, ?_⟩
        rw [hstep, hjournal]
        simp [withdraw, note, List.filter_filter, Bool.and_comm]
      | false =>
        have hstep : c.settleOverflow claimed r = c.nullify r.parameter := by
          simp only [settleOverflow, hpending]
          exact if_neg (Bool.eq_false_iff.mp habsorbed)
        rw [nullify_of_matched hr] at hstep
        have hkept : ∀ other ∈ rest, (c.settleOverflow claimed r).matched other.parameter = true := by
          intro other hother
          have hold := hrest other hother
          rw [hstep]
          rw [matched_iff] at hold ⊢
          simpa [Function.comp_def] using hold
        obtain ⟨journal, hjournal⟩ := ih hkept
        refine ⟨journal, ?_⟩
        rw [hjournal, hstep]
        simp [clear_cons]

/-- The faults that stand are the recorded ones that are not withdrawn. -/
theorem filter_ticket_ne (withdrawn : List RecordedFault) (hc : c.Ticketed)
    (hsub : ∀ r ∈ withdrawn, r ∈ c.recorded) :
    (c.recorded.filter fun r => withdrawn.all fun other => r.ticket ≠ other.ticket) =
      c.recorded.filter fun r => r ∉ withdrawn := by
  apply List.filter_congr
  intro r hr
  rw [Bool.eq_iff_iff, List.all_eq_true, decide_eq_true_iff]
  constructor
  · intro hall hmem
    simpa using hall r hmem
  · intro hnotMem other hother
    rw [decide_eq_true_iff]
    intro heq
    exact hnotMem (hc.eq_of_ticket_eq hr (hsub other hother) heq ▸ hother)

end Collector

end CommandLine
