import CommandLine.Collector.Resolution

namespace CommandLine

/-- What an operation adds: faults under their tickets, requests to the converter, and events. -/
structure Trail where
  recorded : List RecordedFault
  requests : List Request
  journal : List Event

namespace Trail

/-- The trail of an operation that adds nothing. -/
def empty : Trail :=
  ⟨[], [], []⟩

/-- One trail after another. -/
def append (first second : Trail) : Trail :=
  ⟨first.recorded ++ second.recorded, first.requests ++ second.requests,
    first.journal ++ second.journal⟩

instance : Append Trail := ⟨append⟩

/-- The trail of an event. -/
def ofEvent (event : Event) : Trail :=
  ⟨[], [], [event]⟩

/-- The trail of a fault that is recorded under a ticket. -/
def ofFault (ticket : Nat) (fault : Fault) : Trail :=
  ⟨[⟨ticket, fault⟩], [], [.recorded fault]⟩

/-- The trail of a list of trails. -/
def concat (trails : List Trail) : Trail :=
  trails.foldr (· ++ ·) empty

@[simp] theorem recorded_append (first second : Trail) :
    (first ++ second).recorded = first.recorded ++ second.recorded := rfl

@[simp] theorem requests_append (first second : Trail) :
    (first ++ second).requests = first.requests ++ second.requests := rfl

@[simp] theorem journal_append (first second : Trail) :
    (first ++ second).journal = first.journal ++ second.journal := rfl

theorem recorded_concat (trails : List Trail) :
    (concat trails).recorded = trails.flatMap recorded := by
  induction trails with
  | nil => rfl
  | cons trail rest ih =>
    rw [List.flatMap_cons, ← ih]
    rfl

theorem requests_concat (trails : List Trail) :
    (concat trails).requests = trails.flatMap requests := by
  induction trails with
  | nil => rfl
  | cons trail rest ih =>
    rw [List.flatMap_cons, ← ih]
    rfl

end Trail

namespace Collector

/-- A collector with events written behind its journal. -/
def noteAll (c : Collector) (events : List Event) : Collector :=
  { c with journal := c.journal ++ events }

/-- A collector with a trail added to it. -/
def extend (c : Collector) (trail : Trail) : Collector :=
  { c with
    recorded := c.recorded ++ trail.recorded
    issued := c.issued + trail.recorded.length
    requests := c.requests ++ trail.requests
    journal := c.journal ++ trail.journal }

@[simp] theorem schema_extend (c : Collector) (trail : Trail) :
    (c.extend trail).schema = c.schema := rfl

@[simp] theorem entries_extend (c : Collector) (trail : Trail) :
    (c.extend trail).entries = c.entries := rfl

@[simp] theorem leftovers_extend (c : Collector) (trail : Trail) :
    (c.extend trail).leftovers = c.leftovers := rfl

@[simp] theorem recorded_extend (c : Collector) (trail : Trail) :
    (c.extend trail).recorded = c.recorded ++ trail.recorded := rfl

@[simp] theorem issued_extend (c : Collector) (trail : Trail) :
    (c.extend trail).issued = c.issued + trail.recorded.length := rfl

@[simp] theorem requests_extend (c : Collector) (trail : Trail) :
    (c.extend trail).requests = c.requests ++ trail.requests := rfl

@[simp] theorem matched_extend (c : Collector) (trail : Trail) (p : Parameter) :
    (c.extend trail).matched p = c.matched p := rfl

@[simp] theorem extend_empty (c : Collector) : c.extend .empty = c := by
  simp [extend, Trail.empty]

theorem extend_append (c : Collector) (first second : Trail) :
    c.extend (first ++ second) = (c.extend first).extend second := by
  simp [extend, Nat.add_assoc]

/-- A noted event is a trail of its own. -/
theorem note_eq_extend (c : Collector) (event : Event) :
    c.note event = c.extend (.ofEvent event) := by
  simp [note, extend, Trail.ofEvent]

/-- A recorded fault is a trail of its own, under the next ticket. -/
theorem record_eq_extend (c : Collector) (fault : Fault) :
    c.record fault = (c.extend (.ofFault c.issued fault), ⟨c.issued, fault⟩) := by
  simp [record, note, extend, Trail.ofFault]

end Collector

/-- The value that an answer comes to; a refusal comes to none. -/
def Converter.answer (converter : Converter) (earlier : List Request) (request : Request) : Value :=
  match converter.convert earlier request with
  | .ok value => value
  | .error _ => .none

namespace Trail

/-- The trail of a conversion: the request, and a fault if the converter refuses it. -/
def ofConversion (converter : Converter) (p : Parameter) (anchor : Option Word) (raw : List String)
    (earlier : List Request) (ticket : Nat) : Trail :=
  match converter.convert earlier ⟨raw, .descriptor p.type⟩ with
  | .ok _ => ⟨[], [⟨raw, .descriptor p.type⟩], []⟩
  | .error failure =>
    ⟨[⟨ticket, .conversion p anchor raw failure⟩], [⟨raw, .descriptor p.type⟩],
      [.recorded (.conversion p anchor raw failure)]⟩

/-- A conversion makes exactly one request, for the type of its parameter. -/
@[simp] theorem requests_ofConversion (converter : Converter) (p : Parameter) (anchor : Option Word)
    (raw : List String) (earlier : List Request) (ticket : Nat) :
    (ofConversion converter p anchor raw earlier ticket).requests = [⟨raw, .descriptor p.type⟩] := by
  unfold ofConversion
  split <;> rfl

end Trail

/-- The raw texts that a parameter asks the converter about for the words that it took. -/
def Parameter.rawTexts? (p : Parameter) (taken : List Word) : Option (List String) :=
  if !taken.isEmpty then some (taken.map Word.text)
  else if p.isBoolean then some [Collector.impliedLiteral]
  else none

/-- The value of the words that a parameter took. -/
def Converter.answerTaken (converter : Converter) (p : Parameter) (taken : List Word)
    (earlier : List Request) : Value :=
  match p.rawTexts? taken with
  | some raw => converter.answer earlier ⟨raw, .descriptor p.type⟩
  | none => .none

namespace Trail

/-- The trail of the conversion of the words that a parameter took. -/
def ofTaken (converter : Converter) (p : Parameter) (anchor : Word) (taken : List Word)
    (earlier : List Request) (ticket : Nat) : Trail :=
  match p.rawTexts? taken with
  | some raw => ofConversion converter p (some anchor) raw earlier ticket
  | none => empty

end Trail

/-- The fault of a surplus, if there is one. -/
def Parameter.overflow? (p : Parameter) (anchor : Word) (taken surplus : List Word) : Option Fault :=
  match p.window.maximum, surplus with
  | some maximum, _ :: _ => some (.tooMany p anchor taken surplus maximum)
  | _, _ => none

namespace Trail

/-- The trail of a surplus. -/
def ofSurplus (p : Parameter) (anchor : Word) (taken surplus : List Word) (ticket : Nat) : Trail :=
  match p.overflow? anchor taken surplus with
  | some fault => ⟨[⟨ticket, fault⟩], [], [.recorded fault, .overflowed p surplus.length]⟩
  | none => empty

end Trail

namespace Collector

/-- A conversion gives the answer of the converter and adds its trail. -/
theorem convert_eq (converter : Converter) (p : Parameter) (anchor : Option Word)
    (raw : List String) (c : Collector) :
    c.convert converter p anchor raw =
      (c.extend (.ofConversion converter p anchor raw c.requests c.issued),
        converter.answer c.requests ⟨raw, .descriptor p.type⟩) := by
  unfold convert Trail.ofConversion Converter.answer
  cases hanswer : converter.convert c.requests ⟨raw, .descriptor p.type⟩ with
  | ok value => simp [hanswer, extend]
  | error failure => simp [hanswer, record, note, extend]

/-- Converting what a parameter took leaves the trail of it and comes to the converter's answer. -/
theorem convertTaken_eq (converter : Converter) (p : Parameter) (anchor : Word) (taken : List Word)
    (c : Collector) :
    c.convertTaken converter p anchor taken =
      (c.extend (.ofTaken converter p anchor taken c.requests c.issued),
        converter.answerTaken p taken c.requests) := by
  unfold convertTaken Trail.ofTaken Converter.answerTaken Parameter.rawTexts?
  split
  · exact convert_eq ..
  · split
    · exact convert_eq ..
    · simp

/-- Recording a surplus leaves the trail of it and gives the fault back, which may be withdrawn later. -/
theorem recordSurplus_eq (p : Parameter) (anchor : Word) (taken surplus : List Word)
    (c : Collector) :
    c.recordSurplus p anchor taken surplus =
      (c.extend (.ofSurplus p anchor taken surplus c.issued),
        (p.overflow? anchor taken surplus).map (⟨c.issued, ·⟩)) := by
  unfold recordSurplus Trail.ofSurplus Parameter.overflow?
  cases p.window.maximum with
  | none => simp
  | some maximum =>
    cases surplus with
    | nil => simp
    | cons w rest => simp [record, note, extend]

end Collector

end CommandLine
