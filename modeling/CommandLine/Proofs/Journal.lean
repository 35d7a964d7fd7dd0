import CommandLine.Proofs.Collector.History
import CommandLine.Proofs.Labels
import CommandLine.Proofs.Order.Faults
import CommandLine.Proofs.Requests

namespace CommandLine

/-- A fault as the log tells it: its class and its message. -/
def Fault.digest (fault : Fault) : String × String :=
  (fault.kind.name, fault.message)

/-- A log record about the outcome. -/
inductive Record where
  | matched (label : String)
  | refused (label : String)
  | recorded (digest : String × String)
  | withdrew (digest : String × String)

/-- The log record of an event about the outcome. -/
def Event.record? : Event → Option Record
  | matched p _ => some (.matched p.label)
  | refused p => some (.refused p.label)
  | recorded fault => some (.recorded fault.digest)
  | withdrew fault => some (.withdrew fault.digest)
  | _ => none

/-- An event has a record exactly if it is told to the outcome channel. -/
theorem Event.record?_eq_none_iff {event : Event} : event.record? = none ↔ event.channel ≠ .outcome := by
  cases event <;> simp [record?, channel]

namespace Record

/-- The label that a record tells of a match. -/
def label? : Record → Option String
  | matched label => some label
  | _ => none

/-- The faults that stand after a record. Only an overflow can be withdrawn, and only if exactly one such
fault stands; a refusal is not expected at all. -/
def replay? (standing : List (String × String)) : Record → Option (List (String × String))
  | matched _ => some standing
  | refused _ => none
  | recorded digest => some (standing ++ [digest])
  | withdrew digest =>
    if digest.1 = FaultKind.tooMany.name ∧ standing.count digest = 1 then some (standing.erase digest)
    else none

/-- The faults that stand after records, from none. -/
def replayAll? (records : List Record) : Option (List (String × String)) :=
  records.foldlM replay? []

/-- Records in two rows are replayed one row after the other. -/
theorem replayAll?_append (before after : List Record) :
    replayAll? (before ++ after) = (replayAll? before).bind (after.foldlM replay? ·) :=
  List.foldlM_append

theorem replayAll?_concat (records : List Record) (record : Record) :
    replayAll? (records ++ [record]) = (replayAll? records).bind (record.replay? ·) := by
  rw [replayAll?_append]
  congr 1
  funext standing
  simp

end Record

namespace Collector

/-- The log records about the outcome. -/
def records (c : Collector) : List Record :=
  c.journal.filterMap Event.record?

/-- The records tell what a collector has come to. -/
structure Replayable (c : Collector) : Prop where
  labels : c.records.filterMap Record.label? = c.entries.map (·.parameter.label)
  faults : Record.replayAll? c.records = some (c.recorded.map (·.fault.digest))

section

variable {c : Collector}

/-- A noted event puts its record, if it has one, behind the others. -/
theorem records_note (c : Collector) (event : Event) :
    (c.note event).records = c.records ++ event.record?.toList := by
  rw [records, note, List.filterMap_append]
  cases hrecord : event.record? <;> simp [records, hrecord]

theorem replayable_new (schema : Schema) : (new schema).Replayable :=
  ⟨rfl, rfl⟩

/-- The journal stays replayable under every operation of a parse but the settling of overflows. -/
theorem carried_replayable : Carried Replayable where
  note {c} event hchannel hc := by
    have hsame : (c.note event).records = c.records := by
      rw [records_note, Event.record?_eq_none_iff.mpr hchannel]
      exact List.append_nil _
    constructor
    · rw [hsame]
      exact hc.labels
    · rw [hsame]
      exact hc.faults
  record {c} fault hc := by
    have hrecords : (c.record fault).1.records = c.records ++ [.recorded fault.digest] :=
      records_note ..
    constructor
    · rw [hrecords, List.filterMap_append, hc.labels]
      exact List.append_nil _
    · rw [hrecords, Record.replayAll?_concat, hc.faults]
      simp [Record.replay?, record, note]
  ask _ hc := ⟨hc.labels, hc.faults⟩
  enter {c} p value hp hc := by
    have hrecords : (c.enter p value).records = c.records ++ [.matched p.label] := by
      rw [enter_of_new hp]
      exact records_note ..
    constructor
    · rw [hrecords, List.filterMap_append, hc.labels, enter_of_new hp]
      simp [Record.label?, note]
    · rw [hrecords, Record.replayAll?_concat, hc.faults, enter_of_new hp]
      rfl
  leaveAll _ hc := ⟨hc.labels, hc.faults⟩

/-- Taking the value of an entered parameter away is nothing that records tell, and changes nothing that
they tell. -/
theorem Replayable.nullify (hc : c.Replayable) {p : Parameter} (hp : c.matched p = true) :
    (c.nullify p).Replayable := by
  have hparameters := congrArg (List.map Parameter.label) (map_parameter_nullify hp)
  rw [List.map_map, List.map_map] at hparameters
  rw [nullify_of_matched hp] at hparameters ⊢
  exact ⟨hc.labels.trans hparameters.symm, hc.faults⟩

/-- What is told of a fault stands once if nothing else is told in the same way, and erasing it leaves what
is told of the others. -/
theorem erase_digest {before after : List RecordedFault} {r : RecordedFault}
    (hothers : ∀ other ∈ before ++ after, other.fault.digest ≠ r.fault.digest) :
    ((before ++ r :: after).map (·.fault.digest)).count r.fault.digest = 1 ∧
      ((before ++ r :: after).map (·.fault.digest)).erase r.fault.digest =
        (before ++ after).map (·.fault.digest) := by
  have habsent : r.fault.digest ∉ (before ++ after).map (·.fault.digest) := by
    intro hmem
    obtain ⟨other, hother, hdigest⟩ := List.mem_map.mp hmem
    exact hothers other hother hdigest
  rw [List.map_append, List.mem_append, not_or] at habsent
  obtain ⟨hbefore, hafter⟩ := habsent
  rw [List.map_append, List.map_cons, List.map_append]
  constructor
  · rw [List.count_append, List.count_cons_self, List.count_eq_zero_of_not_mem hbefore,
      List.count_eq_zero_of_not_mem hafter]
  · rw [List.erase_append_right _ hbefore, List.erase_cons_head]

/-- A withdrawn overflow is told by its class and message if no other fault has them. -/
theorem Replayable.withdraw (hc : c.Replayable) (hnodup : (c.recorded.map RecordedFault.ticket).Nodup)
    {r : RecordedFault} (hr : r ∈ c.recorded) (hkind : r.fault.kind = .tooMany)
    (hsingle : ∀ other ∈ c.recorded, other.fault.digest = r.fault.digest → other = r) :
    (c.withdraw r).Replayable := by
  have hrecords : (c.withdraw r).records = c.records ++ [.withdrew r.fault.digest] := records_note ..
  constructor
  case labels =>
    rw [hrecords, List.filterMap_append, hc.labels]
    exact List.append_nil _
  case faults =>
    obtain ⟨before, after, hsplit⟩ := List.append_of_mem hr
    have hothers : ∀ other ∈ before ++ after, other.fault.digest ≠ r.fault.digest := by
      intro other hother hdigest
      have hstood : other ∈ c.recorded := by
        rw [hsplit, List.mem_append, List.mem_cons]
        exact (List.mem_append.mp hother).imp_right .inr
      obtain rfl := hsingle other hstood hdigest
      have hnodup := hnodup.of_map
      rw [hsplit, List.nodup_middle] at hnodup
      exact (List.nodup_cons.mp hnodup).1 hother
    obtain ⟨hcount, herase⟩ := erase_digest hothers
    rw [← hsplit] at hcount herase
    have hname : r.fault.digest.1 = FaultKind.tooMany.name := congrArg FaultKind.name hkind
    rw [hrecords, Record.replayAll?_concat, hc.faults, Option.bind_some, Record.replay?,
      if_pos ⟨hname, hcount⟩, herase, recorded_withdraw hnodup hsplit]

/-- What holds while overflows are settled: each one that is still pending belongs to a parameter of its own,
which is entered, and its fault is told by its class and message. -/
structure Unsettled (c : Collector) (rs : List Resolution) : Prop where
  replayable : c.Replayable
  ticketed : c.Ticketed
  distinct : (rs.map Resolution.parameter).Nodup
  entered : ∀ r ∈ rs, c.matched r.parameter = true
  pending : ∀ r ∈ rs, ∀ excess ∈ r.pending, excess ∈ c.recorded ∧ excess.fault.kind = .tooMany ∧
    excess.fault.parameter? = some r.parameter
  single : ∀ excess ∈ c.recorded, excess.fault.kind = .tooMany →
    ∀ other ∈ c.recorded, other.fault.digest = excess.fault.digest → other = excess

namespace Unsettled

variable {r : Resolution} {rs rest : List Resolution}

theorem tail (h : Unsettled c (r :: rest)) : Unsettled c rest where
  replayable := h.replayable
  ticketed := h.ticketed
  distinct := (List.nodup_cons.mp h.distinct).2
  entered := (List.forall_mem_cons.mp h.entered).2
  pending := (List.forall_mem_cons.mp h.pending).2
  single := h.single

/-- To withdraw an overflow that is not pending any more leaves the others pending. -/
theorem withdraw (h : Unsettled c rs) {excess : RecordedFault} (hmem : excess ∈ c.recorded)
    (hkind : excess.fault.kind = .tooMany) (hsettled : ∀ r ∈ rs, excess ∉ r.pending) :
    Unsettled (c.withdraw excess) rs := by
  have hsub : (c.withdraw excess).recorded ⊆ c.recorded := List.filter_sublist.subset
  constructor
  case replayable => exact h.replayable.withdraw h.ticketed.nodup hmem hkind (h.single excess hmem hkind)
  case ticketed => exact kept_ticketed.withdraw excess h.ticketed
  case distinct => exact h.distinct
  case entered => exact h.entered
  case pending =>
    intro r hr other hother
    obtain ⟨hstood, hpending⟩ := h.pending r hr other hother
    refine ⟨List.mem_filter.mpr ⟨hstood, decide_eq_true fun hticket => ?_⟩, hpending⟩
    obtain rfl := h.ticketed.eq_of_ticket_eq hstood hmem hticket
    exact hsettled r hr hother
  case single =>
    intro first hfirst hover second hsecond
    exact h.single first (hsub hfirst) hover second (hsub hsecond)

/-- Dropping a value leaves the other overflows unsettled. -/
theorem nullify (h : Unsettled c rs) {p : Parameter} (hp : c.matched p = true) :
    Unsettled (c.nullify p) rs := by
  have hrecorded : (c.nullify p).recorded = c.recorded := by rw [nullify_of_matched hp]
  constructor
  case replayable => exact h.replayable.nullify hp
  case ticketed => exact kept_ticketed.nullify p h.ticketed
  case distinct => exact h.distinct
  case entered =>
    intro r hr
    rw [matched_iff, map_parameter_nullify hp, ← matched_iff]
    exact h.entered r hr
  case pending =>
    rw [hrecorded]
    exact h.pending
  case single =>
    rw [hrecorded]
    exact h.single

/-- Settling the first overflow leaves the others unsettled. -/
theorem settleOverflow (h : Unsettled c (r :: rest)) (claimed : List Nat) :
    Unsettled (c.settleOverflow claimed r) rest := by
  unfold Collector.settleOverflow
  split
  · exact h.tail
  · next excess hexcess =>
    obtain ⟨hmem, hkind, habout⟩ := h.pending r List.mem_cons_self excess hexcess
    split
    · apply h.tail.withdraw hmem hkind
      intro later hlater hpending
      obtain ⟨_, _, habout'⟩ := h.tail.pending later hlater excess hpending
      rw [habout, Option.some_inj] at habout'
      exact (List.nodup_cons.mp h.distinct).1 (habout' ▸ List.mem_map_of_mem hlater)
    · exact h.tail.nullify (h.entered r List.mem_cons_self)

/-- Settling all overflows leaves a collector that its records tell. -/
theorem settle (h : Unsettled c rs) (claimed : List Nat) :
    (rs.foldl (Collector.settleOverflow claimed) c).Replayable := by
  induction rs generalizing c with
  | nil => exact h.replayable
  | cons r rest ih => exact ih (h.settleOverflow claimed)

end Unsettled

end

end Collector

/-- Kinds of faults have names of their own. -/
theorem FaultKind.name_injective : Function.Injective FaultKind.name := by
  intro first second h
  cases first <;> cases second <;> first | rfl | exact absurd h (by decide)

/-- The message of an overflow begins with its parameter. -/
theorem Fault.exists_message_of_tooMany {fault : Fault} {p : Parameter} (hkind : fault.kind = .tooMany)
    (habout : fault.parameter? = some p) :
    ∃ xs, fault.message.toList = p.mention.toList ++ ' ' :: xs := by
  cases fault with
  | tooMany q anchor taken surplus maximum =>
    obtain rfl : q = p := Option.some_inj.mp habout
    have hat : " at ".toList = ' ' :: "at ".toList := by decide
    unfold message
    simp only [String.toList_append, List.append_assoc, hat, List.cons_append]
    exact ⟨_, rfl⟩
  | _ => cases hkind

section

variable {converter : Converter} {schema : Schema} {words : List Word}

/-- A recorded overflow is the pending one of a flag. -/
theorem exists_flagged_of_overflow {excess : RecordedFault}
    (hover : excess ∈ (transcript converter schema words).early) (hkind : excess.fault.kind = .tooMany) :
    ∃ m ∈ (transcript converter schema words).flagged, m.resolution.pending = some excess := by
  obtain hover | hover := List.mem_append.mp hover
  · obtain ⟨turn, hturn, hover⟩ := List.mem_flatMap.mp hover
    cases turn with
    | undeclared w reported =>
      rw [List.mem_singleton.mp hover, kind_of_mem_turns hturn] at hkind
      cases hkind
    | matched flag fresh run made =>
      obtain ⟨m, hm, hover⟩ := List.mem_flatMap.mp hover
      have hflagged : m ∈ (transcript converter schema words).flagged :=
        List.mem_flatMap.mpr ⟨_, hturn, hm⟩
      have hcoherent := coherent_of_mem_transcript (mem_made_of_mem_flagged hflagged)
      exact ⟨m, hflagged, hcoherent.pending_eq_some_iff.mpr ⟨hover, hkind⟩⟩
    | _ => cases hover
  · obtain hother | hother := kind_of_mem_bindings hover <;>
    · rw [hkind] at hother
      cases hother

/-- A pending overflow is about the parameter of its match. -/
theorem parameter?_of_pending {m : Match} (hm : m ∈ (transcript converter schema words).made)
    {excess : RecordedFault} (hpending : m.resolution.pending = some excess) :
    excess.fault.parameter? = some m.parameter := by
  have hcoherent := coherent_of_mem_transcript hm
  exact hcoherent.about (hcoherent.pending_eq_some_iff.mp hpending).1

/-- An overflow is told by its class and message. -/
theorem eq_of_digest_eq {excess other : RecordedFault}
    (hover : excess ∈ (transcript converter schema words).early) (hkind : excess.fault.kind = .tooMany)
    (hother : other ∈ (transcript converter schema words).early)
    (h : other.fault.digest = excess.fault.digest) : other = excess := by
  obtain ⟨hname, hmessage⟩ := Prod.mk.inj h
  have hsame := FaultKind.name_injective hname
  obtain ⟨m, hm, hpending⟩ := exists_flagged_of_overflow hover hkind
  obtain ⟨n, hn, hwaiting⟩ := exists_flagged_of_overflow hother (hsame.trans hkind)
  have hm := mem_made_of_mem_flagged hm
  have hn := mem_made_of_mem_flagged hn
  obtain ⟨xs, hxs⟩ := Fault.exists_message_of_tooMany hkind (parameter?_of_pending hm hpending)
  obtain ⟨ys, hys⟩ := Fault.exists_message_of_tooMany (hsame.trans hkind)
    (parameter?_of_pending hn hwaiting)
  rw [hmessage, hxs] at hys
  have hparameter := Schema.eq_of_mention_eq (parameter_mem_of_mem_made hm)
    (parameter_mem_of_mem_made hn) hys
  rw [eq_of_parameter_eq hm hn hparameter, hwaiting] at hpending
  exact Option.some_inj.mp hpending

end

section

variable (converter : Converter) (schema : Schema) (words : List Word)

/-- All overflows of the flags are unsettled when the positions are bound. -/
theorem unsettled_afterBinding :
    (afterBinding converter schema words).Unsettled (transcript converter schema words).overflows := by
  have hrecorded := (afterBinding_eq converter schema words).2.2.1
  constructor
  case replayable =>
    exact Collector.carried_replayable.bind converter
      (Collector.carried_replayable.ofStream converter schema _ (Collector.replayable_new schema))
  case ticketed => exact afterBinding_ticketed converter schema words
  case distinct =>
    have hnodup := nodup_made converter schema words
    rw [Transcript.made, List.map_append, List.map_append] at hnodup
    have hsublist : ((transcript converter schema words).overflows.map Resolution.parameter).Sublist
        ((transcript converter schema words).flagged.map Match.parameter) := by
      rw [show Match.parameter = Resolution.parameter ∘ Match.resolution from rfl, ← List.map_map]
      exact List.filter_sublist.map _
    exact hnodup.of_append_left.of_append_left.sublist hsublist
  case entered => exact matched_of_mem_overflows converter schema words
  case pending =>
    intro r hr excess hover
    obtain ⟨m, hm, rfl⟩ := List.mem_map.mp (List.mem_filter.mp hr).1
    have hmade := mem_made_of_mem_flagged hm
    have hcoherent := coherent_of_mem_transcript hmade
    obtain ⟨htrail, hkind⟩ := hcoherent.pending_eq_some_iff.mp hover
    rw [hrecorded]
    exact ⟨recorded_subset_early hm htrail, hkind, parameter?_of_pending hmade hover⟩
  case single =>
    rw [hrecorded]
    exact fun excess hover hkind other hother => eq_of_digest_eq hover hkind hother

/-- The records of a parse tell what its collector has come to. -/
theorem replayable_collect : (collect converter schema words).Replayable := by
  have hsettled : (afterSettlement converter schema words).Replayable := by
    rw [afterSettlement_eq_foldl, afterFlags_overflows]
    exact (unsettled_afterBinding converter schema words).settle _
  exact Collector.carried_replayable.reportAllMissing schema.parameters
    (Collector.carried_replayable.applyFallbacks converter schema.parameters hsettled)

/-- No two results of a parse have one label. -/
theorem nodup_labels :
    ((collect converter schema words).entries.map (·.parameter.label)).Nodup := by
  have hdistinct := nodup_made converter schema words
  have hlabels : ((transcript converter schema words).made.map (·.parameter.label)).Nodup := by
    refine List.Nodup.map_on ?_ (.of_map _ hdistinct)
    intro m hm n hn hlabel
    exact eq_of_parameter_eq hm hn (Schema.eq_of_label_eq (parameter_mem_of_mem_made hm)
      (parameter_mem_of_mem_made hn) hlabel)
  rw [collect_entries, List.map_map]
  simpa [Function.comp_def] using hlabels

end

/-- Records give an outcome when they are replayed. -/
structure Outcome.ReplayedBy (outcome : Outcome) (records : List Record) : Prop where
  /-- The matches told are the results, in their order. -/
  labels : records.filterMap Record.label? = outcome.results.map (·.parameter.label)
  /-- A label tells one result. -/
  distinct : (outcome.results.map (·.parameter.label)).Nodup
  /-- Adding the recorded faults and taking out the withdrawn ones gives the faults, in their order. -/
  faults : Record.replayAll? records = some (outcome.faults.map Fault.digest)
  /-- What is withdrawn is an overflow that was recorded before and stands, and no other fault is told in the
  same way. -/
  withdrawals : ∀ before digest after, records = before ++ .withdrew digest :: after →
    digest.1 = FaultKind.tooMany.name ∧
      ∃ standing, Record.replayAll? before = some standing ∧ standing.count digest = 1

/-- The log of a parse replays to its outcome. -/
theorem parse_replayed (converter : Converter) (schema : Schema) (texts : List String) :
    (parse converter schema texts).ReplayedBy
      (collect converter schema (Word.ofTexts 0 texts)).records := by
  have hreplayable := replayable_collect converter schema (Word.ofTexts 0 texts)
  have hfaults : Record.replayAll? (collect converter schema (Word.ofTexts 0 texts)).records =
      some ((parse converter schema texts).faults.map Fault.digest) := by
    rw [hreplayable.faults, ← Function.comp_def, ← List.map_map]
    rfl
  constructor
  case labels => exact hreplayable.labels
  case distinct => exact nodup_labels converter schema (Word.ofTexts 0 texts)
  case faults => exact hfaults
  case withdrawals =>
    intro before digest after hsplit
    rw [hsplit, Record.replayAll?_append, Option.bind_eq_some_iff] at hfaults
    obtain ⟨standing, hstanding, hlater⟩ := hfaults
    rw [List.foldlM_cons] at hlater
    obtain ⟨next, hnext, _⟩ := Option.bind_eq_some_iff.mp hlater
    rw [Record.replay?, Option.ite_none_right_eq_some] at hnext
    exact ⟨hnext.1.1, standing, hstanding, hnext.1.2⟩

end CommandLine
