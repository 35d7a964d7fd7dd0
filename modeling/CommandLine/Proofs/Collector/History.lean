import CommandLine.Proofs.Collector.Invariant
import CommandLine.Proofs.Cursor.Fresh

namespace CommandLine

namespace Collector

/-- What a collector can be asked to report. -/
inductive Report where
  | unrecognised (w : Word)
  | missing (p : Parameter)
  | notEnough (p : Parameter) (anchor : Word) (taken : List Word) (minimum : Int) (positional : Bool)
  | tooMany (p : Parameter) (anchor : Word) (taken surplus : List Word) (maximum : Int)
  | conversion (p : Parameter) (anchor : Option Word) (raw : List String) (failure : Failure)

/-- The fault that a collector makes of a report. -/
def Report.fault (c : Collector) : Report → Fault
  | unrecognised w => c.unrecognisedFault w
  | missing p => .missing p
  | notEnough p anchor taken minimum positional => .notEnough p anchor taken minimum positional
  | tooMany p anchor taken surplus maximum => .tooMany p anchor taken surplus maximum
  | conversion p anchor raw failure => .conversion p anchor raw failure

/-- The operations of a collector. -/
inductive Operation where
  | enter (p : Parameter) (value : Value)
  | nullify (p : Parameter)
  | leave (w : Word)
  | report (report : Report)
  | withdraw (r : RecordedFault)
  | freeze

/-- What an operation gives back. -/
inductive Answer where
  | done
  | refused (e : AlreadyMatched)
  | recorded (r : RecordedFault)
  | frozen (outcome : Outcome)

/-- Carries an operation out. A refusal leaves the collector as it is. -/
def apply (c : Collector) : Operation → Collector × Answer
  | .enter p value =>
    match c.match? p value with
    | .ok d => (d, .done)
    | .error e => (c, .refused e)
  | .nullify p => (c.nullify p, .done)
  | .leave w => (c.leave w, .done)
  | .report report =>
    let (d, r) := c.record (report.fault c)
    (d, .recorded r)
  | .withdraw r => (c.withdraw r, .done)
  | .freeze => (c, .frozen c.freeze)

/-- An operation with its answer. -/
structure Step where
  operation : Operation
  answer : Answer

/-- The step of an operation. -/
def step (c : Collector) (operation : Operation) : Step :=
  ⟨operation, (c.apply operation).2⟩

/-- Carries operations out one after another. -/
def run (c : Collector) : List Operation → Collector × List Step
  | [] => (c, [])
  | operation :: rest =>
    let (d, steps) := run (c.apply operation).1 rest
    (d, c.step operation :: steps)

namespace Step

/-- The entry that a step writes. -/
def write? : Step → Option Entry
  | ⟨.enter p value, .done⟩ => some ⟨p, value⟩
  | ⟨.nullify p, _⟩ => some ⟨p, .none⟩
  | _ => none

/-- The word that a step leaves over. -/
def left? : Step → Option Word
  | ⟨.leave w, _⟩ => some w
  | _ => none

/-- The fault that a step records. -/
def recorded? : Step → Option RecordedFault
  | ⟨_, .recorded r⟩ => some r
  | _ => none

/-- The report that a step is asked for. -/
def report? : Step → Option Report
  | ⟨.report report, _⟩ => some report
  | _ => none

/-- Whether a step withdraws a recorded fault. Equal faults are told apart by their tickets. -/
def withdraws (r : RecordedFault) : Step → Bool
  | ⟨.withdraw other, _⟩ => r.ticket = other.ticket
  | _ => false

end Step

/-- The faults that steps record, each with the steps behind it. -/
def recordings : List Step → List (RecordedFault × List Step)
  | [] => []
  | step :: rest => step.recorded?.toList.map (·, rest) ++ recordings rest

/-- Whether none of the steps behind a recorded fault withdraws it. -/
def stands : RecordedFault × List Step → Bool
  | (r, later) => later.all (!·.withdraws r)

/-- Operations in two rows run as the one row behind the other. -/
theorem run_append (c : Collector) (first second : List Operation) :
    c.run (first ++ second) =
      (((c.run first).1.run second).1, (c.run first).2 ++ ((c.run first).1.run second).2) := by
  induction first generalizing c with
  | nil => rfl
  | cons operation rest ih =>
    simp only [List.cons_append, run, ih]

/-- A run takes the operations as they are given, one step for each. -/
theorem map_operation_run (c : Collector) (operations : List Operation) :
    (c.run operations).2.map Step.operation = operations := by
  induction operations generalizing c with
  | nil => rfl
  | cons operation rest ih => exact congrArg (operation :: ·) (ih _)

/-- A further step comes behind every recording, and may be a recording itself. -/
theorem recordings_concat (steps : List Step) (step : Step) :
    recordings (steps ++ [step]) =
      (recordings steps).map (fun (r, later) => (r, later ++ [step])) ++
        step.recorded?.toList.map (·, []) := by
  induction steps with
  | nil => simp [recordings]
  | cons first rest ih =>
    rw [List.cons_append, recordings, ih, recordings, List.map_append, List.map_map,
      List.append_assoc]
    rfl

/-- Writes an entry over that of its parameter, or at the end. -/
def overwrite (entries : List Entry) (entry : Entry) : List Entry :=
  if entry.parameter ∈ entries.map Entry.parameter then
    entries.map fun old => if old.parameter = entry.parameter then entry else old
  else entries ++ [entry]

section

variable (c : Collector) {p : Parameter}

/-- Nullifying writes an absent value over the entry. -/
theorem nullify_eq : c.nullify p = { c with entries := overwrite c.entries ⟨p, .none⟩ } := by
  unfold nullify overwrite
  cases hp : c.matched p with
  | true => rw [if_pos rfl, if_pos (matched_iff.mp hp)]
  | false => rw [if_neg Bool.false_ne_true, if_neg (matched_eq_false_iff.mp hp)]

/-- A second match is refused, and nothing else changes. -/
theorem apply_enter_of_matched (hp : c.matched p = true) (value : Value) :
    c.apply (.enter p value) = (c, .refused ⟨p⟩) := by
  simp [apply, match?, hp]

/-- A first match writes an entry. -/
theorem apply_enter_of_new (hp : c.matched p = false) (value : Value) :
    c.apply (.enter p value) =
      (note { c with entries := overwrite c.entries ⟨p, value⟩ } (.matched p value), .done) := by
  have hnew : overwrite c.entries ⟨p, value⟩ = c.entries ++ [⟨p, value⟩] :=
    if_neg (matched_eq_false_iff.mp hp)
  simp [apply, match?, hp, hnew]

/-- The ways in which an operation goes, each with the collector that it leads to and the answer. -/
inductive Applies : Operation → Collector → Answer → Prop where
  | entered (p : Parameter) (value : Value) (hnew : c.matched p = false) :
      Applies (.enter p value)
        (note { c with entries := overwrite c.entries ⟨p, value⟩ } (.matched p value)) .done
  | refused (p : Parameter) (value : Value) (hold : c.matched p = true) :
      Applies (.enter p value) c (.refused ⟨p⟩)
  | nullified (p : Parameter) :
      Applies (.nullify p) { c with entries := overwrite c.entries ⟨p, .none⟩ } .done
  | left (w : Word) : Applies (.leave w) (c.leave w) .done
  | recorded (report : Report) :
      Applies (.report report) (c.record (report.fault c)).1 (.recorded ⟨c.issued, report.fault c⟩)
  | withdrew (r : RecordedFault) : Applies (.withdraw r) (c.withdraw r) .done
  | frozen : Applies .freeze c (.frozen c.freeze)

/-- Every operation does what the cases tell. -/
theorem applies_apply (operation : Operation) :
    Applies c operation (c.apply operation).1 (c.apply operation).2 := by
  cases operation with
  | enter p value =>
    cases hp : c.matched p with
    | true =>
      rw [apply_enter_of_matched c hp]
      exact .refused p value hp
    | false =>
      rw [apply_enter_of_new c hp]
      exact .entered p value hp
  | nullify p =>
    change Applies c _ (c.nullify p) .done
    rw [nullify_eq]
    exact .nullified p
  | leave w => exact .left w
  | report report => exact .recorded report
  | withdraw r => exact .withdrew r
  | freeze => exact .frozen

variable {c : Collector} {d : Collector} {operation : Operation} {answer : Answer}
  (h : Applies c operation d answer)

include h

/-- An operation writes one entry at most. -/
theorem Applies.entries_eq :
    d.entries = (Step.write? ⟨operation, answer⟩).elim c.entries (overwrite c.entries) := by
  cases h <;> rfl

/-- An operation leaves one word over at most. -/
theorem Applies.leftovers_eq :
    d.leftovers = c.leftovers ++ (Step.left? ⟨operation, answer⟩).toList := by
  cases h with
  | left w => rfl
  | _ => exact (List.append_nil _).symm

/-- An operation withdraws the fault of one ticket at most, and records one fault at most. -/
theorem Applies.recorded_eq :
    d.recorded = c.recorded.filter (!Step.withdraws · ⟨operation, answer⟩) ++
      (Step.recorded? ⟨operation, answer⟩).toList := by
  cases h with
  | recorded report =>
    change _ = c.recorded.filter (fun _ => true) ++ _
    rw [List.filter_true]
    rfl
  | withdrew r =>
    refine .trans (List.filter_congr fun other _ => ?_) (List.append_nil _).symm
    exact decide_not
  | _ =>
    change _ = c.recorded.filter (fun _ => true) ++ _
    rw [List.filter_true]
    exact (List.append_nil _).symm

theorem Applies.schema_eq : d.schema = c.schema := by
  cases h <;> rfl

/-- The next ticket is that of the fault that an operation records, if it records one. -/
theorem Applies.issued_eq :
    (List.range d.issued) = List.range c.issued ++
      (Step.recorded? ⟨operation, answer⟩).toList.map RecordedFault.ticket := by
  cases h with
  | recorded report => exact List.range_succ
  | _ => exact (List.append_nil _).symm

/-- What an operation records is what it is asked to report. -/
theorem Applies.reported_eq :
    (Step.recorded? ⟨operation, answer⟩).map RecordedFault.fault =
      (Step.report? ⟨operation, answer⟩).map (Report.fault c) := by
  cases h <;> rfl

end

/-- Entries reflect writes: each parameter stands where it was written first, with what was written
last. -/
structure Reflects (writes entries : List Entry) : Prop where
  order : entries.map Entry.parameter = (writes.map Entry.parameter).eraseDups
  latest : ∀ entry ∈ entries,
    writes.reverse.find? (·.parameter = entry.parameter) = some entry

/-- Writing over an entry keeps the entries what the writes tell. -/
theorem Reflects.overwrite {writes entries : List Entry} (h : Reflects writes entries)
    (entry : Entry) : Reflects (writes ++ [entry]) (overwrite entries entry) := by
  have hwritten : entry.parameter ∈ entries.map Entry.parameter ↔
      entry.parameter ∈ writes.map Entry.parameter := by
    rw [h.order, List.mem_eraseDups]
  have hnewest : (writes ++ [entry]).reverse.find? (·.parameter = entry.parameter) = some entry := by
    simp
  have hothers : ∀ other ∈ entries, other.parameter ≠ entry.parameter →
      (writes ++ [entry]).reverse.find? (·.parameter = other.parameter) = some other := by
    intro other hother hne
    rw [List.reverse_append, List.reverse_singleton, List.singleton_append,
      List.find?_cons_of_neg (by simpa using hne.symm)]
    exact h.latest other hother
  by_cases hold : entry.parameter ∈ entries.map Entry.parameter
  · rw [Collector.overwrite, if_pos hold]
    constructor
    case order =>
      have hkept : ∀ old : Entry,
          (if old.parameter = entry.parameter then entry else old).parameter = old.parameter := by
        intro old
        split
        · next heq => exact heq.symm
        · rfl
      rw [List.map_map, List.map_append, List.map_singleton,
        eraseDups_concat_of_mem (hwritten.mp hold), ← h.order]
      exact List.map_congr_left fun old _ => hkept old
    case latest =>
      intro other hother
      obtain ⟨old, hmem, rfl⟩ := List.mem_map.mp hother
      split
      · exact hnewest
      · next hne => exact hothers old hmem hne
  · rw [Collector.overwrite, if_neg hold]
    constructor
    case order =>
      rw [List.map_append, List.map_append, List.map_singleton,
        eraseDups_concat_of_notMem (hwritten.not.mp hold), ← h.order]
    case latest =>
      intro other hother
      obtain hother | hother := List.mem_append.mp hother
      · exact hothers other hother fun heq => hold (heq ▸ List.mem_map_of_mem hother)
      · rw [List.mem_singleton.mp hother]
        exact hnewest

/-- What a collector has come to by steps from its start. -/
structure Tracks (schema : Schema) (steps : List Step) (c : Collector) : Prop where
  schema_eq : c.schema = schema
  entries : Reflects (steps.filterMap Step.write?) c.entries
  leftovers : c.leftovers = steps.filterMap Step.left?
  recorded : c.recorded = ((recordings steps).filter stands).map Prod.fst
  tickets : (recordings steps).map (·.1.ticket) = List.range c.issued
  reported : (recordings steps).map (·.1.fault) =
    (steps.filterMap Step.report?).map (Report.fault (.new schema))

theorem tracks_new (schema : Schema) : Tracks schema [] (.new schema) where
  schema_eq := rfl
  entries := ⟨List.eraseDups_nil.symm, fun _ hentry => absurd hentry List.not_mem_nil⟩
  leftovers := rfl
  recorded := rfl
  tickets := rfl
  reported := rfl

/-- The wording of a report depends on the collector's schema only. -/
theorem Report.fault_eq_of_schema {c d : Collector} (h : c.schema = d.schema) (report : Report) :
    report.fault c = report.fault d := by
  cases report with
  | unrecognised w =>
    unfold Report.fault unrecognisedFault
    rw [h]
  | _ => rfl

/-- One more step takes away the fault that it withdraws, and adds the one that it records. -/
theorem standing_concat (steps : List Step) (step : Step) :
    ((recordings (steps ++ [step])).filter stands).map Prod.fst =
      (((recordings steps).filter stands).map Prod.fst).filter (!step.withdraws ·) ++
        step.recorded?.toList := by
  have hstands : ∀ recording : RecordedFault × List Step,
      stands (recording.1, recording.2 ++ [step]) =
        (!step.withdraws recording.1 && stands recording) := by
    intro recording
    simp [stands, Bool.and_comm]
  rw [recordings_concat, List.filter_append, List.map_append]
  congr 1
  · rw [List.filter_map, List.filter_map, List.map_map, List.filter_filter]
    exact congrArg (List.map _) (List.filter_congr fun recording _ => hstands recording)
  · cases step.recorded? <;> rfl

private theorem filterMap_concat {α β : Type} (f : α → Option β) (xs : List α) (x : α) :
    (xs ++ [x]).filterMap f = xs.filterMap f ++ (f x).toList := by
  rw [List.filterMap_append]
  cases hx : f x <;> simp [hx]

/-- A step keeps what a collector has come to in agreement with its steps. -/
theorem Tracks.apply {schema : Schema} {steps : List Step} {c d : Collector} {operation : Operation}
    {answer : Answer} (h : Tracks schema steps c) (happlies : Applies c operation d answer) :
    Tracks schema (steps ++ [⟨operation, answer⟩]) d := by
  constructor
  case schema_eq => rw [happlies.schema_eq, h.schema_eq]
  case entries =>
    rw [happlies.entries_eq, filterMap_concat]
    cases Step.write? ⟨operation, answer⟩ with
    | none => simpa using h.entries
    | some entry => exact h.entries.overwrite entry
  case leftovers => rw [happlies.leftovers_eq, h.leftovers, filterMap_concat]
  case recorded => rw [happlies.recorded_eq, h.recorded, standing_concat]
  case tickets =>
    rw [happlies.issued_eq, ← h.tickets, recordings_concat, List.map_append, List.map_map,
      List.map_map]
    rfl
  case reported =>
    have hreported := congrArg Option.toList happlies.reported_eq
    rw [Option.toList_map, Option.toList_map] at hreported
    rw [recordings_concat, filterMap_concat, List.map_append, List.map_append, List.map_map,
      List.map_map]
    congr 1
    · exact h.reported
    · exact hreported.trans (List.map_congr_left fun report _ =>
        report.fault_eq_of_schema h.schema_eq)

/-- A run keeps its collector tracked, by one step after the other. -/
theorem Tracks.run {schema : Schema} {steps : List Step} {c : Collector} (h : Tracks schema steps c)
    (operations : List Operation) :
    Tracks schema (steps ++ (c.run operations).2) (c.run operations).1 := by
  induction operations generalizing steps c with
  | nil =>
    change Tracks schema (steps ++ []) c
    rwa [List.append_nil]
  | cons operation rest ih =>
    have hlater := ih (h.apply (applies_apply c operation))
    rwa [List.append_assoc] at hlater

/-- No two faults that stand have one ticket. -/
theorem Tracks.nodup_tickets {schema : Schema} {steps : List Step} {c : Collector}
    (h : Tracks schema steps c) : (c.recorded.map RecordedFault.ticket).Nodup := by
  have hsublist : (c.recorded.map RecordedFault.ticket).Sublist
      ((recordings steps).map (·.1.ticket)) := by
    rw [h.recorded, List.map_map]
    exact List.filter_sublist.map _
  rw [h.tickets] at hsublist
  exact List.nodup_range.sublist hsublist

/-- A withdrawal takes away the fault of its ticket and no other one. -/
theorem recorded_withdraw {c : Collector} (hnodup : (c.recorded.map RecordedFault.ticket).Nodup)
    {before after : List RecordedFault} {r : RecordedFault}
    (hsplit : c.recorded = before ++ r :: after) : (c.withdraw r).recorded = before ++ after := by
  rw [hsplit, List.map_append, List.map_cons, List.nodup_middle, List.nodup_cons, ← List.map_append]
    at hnodup
  have hkept : (before ++ after).filter (·.ticket ≠ r.ticket) = before ++ after := by
    refine List.filter_eq_self.mpr fun other hother => decide_eq_true fun heq => ?_
    exact hnodup.1 (heq ▸ List.mem_map_of_mem hother)
  change c.recorded.filter (·.ticket ≠ r.ticket) = _
  rw [hsplit, List.filter_append, List.filter_cons_of_neg (by simp), ← List.filter_append, hkept]

/-- The parts of an outcome. -/
inductive Component where
  | results
  | positional
  | faults
  deriving DecidableEq

/-- The part of the outcome that an operation is about. -/
def Operation.component? : Operation → Option Component
  | enter .. | nullify _ => some .results
  | leave _ => some .positional
  | report _ | withdraw _ => some .faults
  | freeze => none

/-- An operation leaves the parts of the outcome as they are that it is not about. -/
structure Confined (c : Collector) (operation : Operation) : Prop where
  results : operation.component? ≠ some .results →
    (c.apply operation).1.freeze.results = c.freeze.results
  positional : operation.component? ≠ some .positional →
    (c.apply operation).1.freeze.positional = c.freeze.positional
  faults : operation.component? ≠ some .faults →
    (c.apply operation).1.freeze.faults = c.freeze.faults

/-- Every operation is confined to its own part of the collector. -/
theorem confined_apply (c : Collector) (operation : Operation) : Confined c operation := by
  have happlies := applies_apply c operation
  constructor
  all_goals
    intro hother
    generalize (c.apply operation).1 = d at happlies ⊢
    generalize (c.apply operation).2 = answer at happlies
    cases happlies <;> first | rfl | exact absurd rfl hother

/-- A frozen outcome is that of the operations before it, whatever comes behind it. -/
theorem frozen_of_split {c : Collector} {operations : List Operation} {before after : List Step}
    {outcome : Outcome} (h : (c.run operations).2 = before ++ ⟨.freeze, .frozen outcome⟩ :: after) :
    outcome = (c.run (before.map Step.operation)).1.freeze := by
  have hoperations := map_operation_run c operations
  rw [h, List.map_append, List.map_cons] at hoperations
  rw [← hoperations, run_append] at h
  have hlength : (c.run (before.map Step.operation)).2.length = before.length := by
    rw [← List.length_map (f := Step.operation), map_operation_run, List.length_map]
  have hbehind := List.append_inj_right h hlength
  have hstep := (List.cons.inj hbehind).1
  exact (Answer.frozen.inj (congrArg Step.answer hstep)).symm

/-- What is told of a collector that has come from its start by operations. -/
structure Told (schema : Schema) (operations : List Operation) (c : Collector)
    (steps : List Step) : Prop where
  asked : steps.map Step.operation = operations
  /-- The results are the entered parameters, each once and in the order of their first writes. -/
  order : c.freeze.results.map Entry.parameter =
    ((steps.filterMap Step.write?).map Entry.parameter).eraseDups
  /-- Each of them has the value that was written last. -/
  latest : ∀ entry ∈ c.freeze.results,
    (steps.filterMap Step.write?).reverse.find? (·.parameter = entry.parameter) = some entry
  /-- The literals are the leftovers in the order in which they came. -/
  positional : c.freeze.positional = (steps.filterMap Step.left?).map Word.text
  /-- The faults are the recorded ones that were not withdrawn after that, in their order. -/
  faults : c.freeze.faults = ((recordings steps).filter stands).map (·.1.fault)
  /-- Each recorded fault has a ticket of its own. -/
  tickets : (recordings steps).map (·.1.ticket) = List.range (recordings steps).length
  /-- Each report is recorded. -/
  reported : (recordings steps).map (·.1.fault) =
    (steps.filterMap Step.report?).map (Report.fault (.new schema))
  /-- To enter a parameter a second time is refused, and leaves everything as it is. -/
  refuses : ∀ p value, p ∈ c.freeze.results.map Entry.parameter →
    c.apply (.enter p value) = (c, .refused ⟨p⟩)
  accepts : ∀ p value, p ∉ c.freeze.results.map Entry.parameter →
    (c.apply (.enter p value)).2 = .done
  /-- Withdrawing a fault that stands takes away that fault, and none that is equal to it. -/
  withdraws : ∀ before r after, c.recorded = before ++ r :: after →
    (c.apply (.withdraw r)).1.freeze.faults = (before ++ after).map RecordedFault.fault
  confined : ∀ operation, Confined c operation
  /-- An outcome that was frozen is still the one at that time. -/
  frozen : ∀ before outcome after, steps = before ++ ⟨.freeze, .frozen outcome⟩ :: after →
    outcome = ((Collector.new schema).run (before.map Step.operation)).1.freeze
  /-- What was answered stays so, whatever is asked later. -/
  kept : ∀ later, steps <+: ((Collector.new schema).run (operations ++ later)).2

/-- Whatever is asked of a collector, its outcome is told by what was asked and answered. -/
theorem run_told (schema : Schema) (operations : List Operation) :
    Told schema operations ((Collector.new schema).run operations).1
      ((Collector.new schema).run operations).2 := by
  have htracks := (tracks_new schema).run operations
  rw [List.nil_append] at htracks
  constructor
  case asked => exact map_operation_run ..
  case order => exact htracks.entries.order
  case latest => exact htracks.entries.latest
  case positional => exact congrArg (List.map Word.text) htracks.leftovers
  case faults =>
    change List.map _ _ = _
    rw [htracks.recorded, List.map_map]
    rfl
  case tickets =>
    have hlength := congrArg List.length htracks.tickets
    rw [List.length_map, List.length_range] at hlength
    rw [hlength, htracks.tickets]
  case reported => exact htracks.reported
  case refuses =>
    intro p value hp
    exact apply_enter_of_matched _ (matched_iff.mpr hp) value
  case accepts =>
    intro p value hp
    rw [apply_enter_of_new _ (matched_eq_false_iff.mpr hp)]
  case withdraws =>
    intro before r after hsplit
    exact congrArg _ (recorded_withdraw htracks.nodup_tickets hsplit)
  case confined => exact confined_apply _
  case frozen => exact fun before outcome after hsplit => frozen_of_split hsplit
  case kept =>
    intro later
    rw [run_append]
    exact List.prefix_append _ _

end Collector

end CommandLine
