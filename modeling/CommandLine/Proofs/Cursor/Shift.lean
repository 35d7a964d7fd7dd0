import CommandLine.Proofs.Cursor.Fresh
import CommandLine.Proofs.Relocation

namespace CommandLine

/-- A word that stands `n` places further on. -/
def Word.shift (n : Nat) (w : Word) : Word :=
  ⟨w.text, w.index + n⟩

/-- A fault whose words stand further on. -/
def Fault.shift (n : Nat) : Fault → Fault
  | unrecognised w suggestions => unrecognised (w.shift n) suggestions
  | missing p => missing p
  | notEnough p anchor taken minimum positional =>
    notEnough p (anchor.shift n) (taken.map (·.shift n)) minimum positional
  | tooMany p anchor taken surplus maximum =>
    tooMany p (anchor.shift n) (taken.map (·.shift n)) (surplus.map (·.shift n)) maximum
  | conversion p anchor raw failure => conversion p (anchor.map (·.shift n)) raw failure

/-- A recorded fault whose words stand further on. -/
def RecordedFault.shift (n : Nat) (r : RecordedFault) : RecordedFault :=
  ⟨r.ticket, r.fault.shift n⟩

/-- An event whose words stand further on. -/
def Event.shift (n : Nat) : Event → Event
  | recorded fault => recorded (fault.shift n)
  | withdrew fault => withdrew (fault.shift n)
  | event => event

/-- A trail whose words stand further on. -/
def Trail.shift (n : Nat) (trail : Trail) : Trail :=
  ⟨trail.recorded.map (·.shift n), trail.requests, trail.journal.map (·.shift n)⟩

/-- A resolution whose words stand further on. -/
def Resolution.shift (n : Nat) (r : Resolution) : Resolution where
  parameter := r.parameter
  taken := r.taken.map (·.shift n)
  value := r.value
  surplus := r.surplus.map (·.shift n)
  pending := r.pending.map (·.shift n)

/-- A match whose words stand further on. -/
def Match.shift (n : Nat) (m : Match) : Match :=
  ⟨m.earlier, m.ticket, m.resolution.shift n, m.trail.shift n⟩

/-- A turn whose words stand further on. -/
def Turn.shift (n : Nat) : Turn → Turn
  | left w => left (w.shift n)
  | undeclared w reported => undeclared (w.shift n) (reported.shift n)
  | repeated flag => repeated (flag.shift n)
  | matched flag fresh run made =>
    matched (flag.shift n) fresh (run.map (·.shift n)) (made.map (·.shift n))

variable (n : Nat)

@[simp] theorem Word.text_shift (w : Word) : (w.shift n).text = w.text := rfl

/-- The words of texts that begin at a place are those that begin at zero, so much further on. -/
theorem Word.ofTexts_eq_map_shift (texts : List String) :
    ofTexts n texts = (ofTexts 0 texts).map (·.shift n) :=
  ofTexts_eq_map_move (f := (· + n)) fun i _ => by rw [Nat.zero_add, Nat.add_comm]

theorem Schema.leadingLiterals_map_shift (s : Schema) (words : List Word) :
    s.leadingLiterals (words.map (·.shift n)) = (s.leadingLiterals words).map (·.shift n) :=
  s.leadingLiterals_map_move (· + n) words

namespace Trail

theorem recorded_shift (trail : Trail) :
    (trail.shift n).recorded = trail.recorded.map (·.shift n) := rfl

theorem shift_append (first second : Trail) :
    (first ++ second).shift n = first.shift n ++ second.shift n := by
  change shift n ⟨_, _, _⟩ = Trail.mk _ _ _
  simp [shift]

theorem shift_ofConversion (converter : Converter) (p : Parameter) (anchor : Option Word)
    (raw : List String) (earlier : List Request) (ticket : Nat) :
    ofConversion converter p (anchor.map (·.shift n)) raw earlier ticket =
      (ofConversion converter p anchor raw earlier ticket).shift n := by
  unfold ofConversion
  split <;> rfl

end Trail

section

variable (p : Parameter) (anchor : Word) (taken surplus run : List Word) (positional : Bool)
  (earlier : List Request) (ticket : Nat) (converter : Converter)

theorem Parameter.take_map_shift :
    p.take (run.map (·.shift n)) = (p.take run).map (·.shift n) :=
  p.take_map_move (· + n) run

/-- What is converted are texts, which have no place. -/
theorem Parameter.rawTexts?_map_shift :
    p.rawTexts? (taken.map (·.shift n)) = p.rawTexts? taken :=
  p.rawTexts?_map_move (· + n) taken

theorem Parameter.overflow?_map_shift :
    p.overflow? (anchor.shift n) (taken.map (·.shift n)) (surplus.map (·.shift n)) =
      (p.overflow? anchor taken surplus).map (·.shift n) := by
  unfold overflow?
  cases p.window.maximum <;> cases surplus <;> rfl

theorem Collector.surplusOf_map_shift :
    surplusOf p (run.map (·.shift n)) positional = (surplusOf p run positional).map (·.shift n) :=
  surplusOf_map_move (· + n) p run positional

theorem Collector.broadcastLiteral?_map_shift (ps : List Parameter) :
    broadcastLiteral? ps (run.map (·.shift n)) = (broadcastLiteral? ps run).map (·.shift n) :=
  broadcastLiteral?_map_move (· + n) run ps

theorem Trail.shift_ofTaken :
    ofTaken converter p (anchor.shift n) (taken.map (·.shift n)) earlier ticket =
      (ofTaken converter p anchor taken earlier ticket).shift n := by
  unfold ofTaken
  rw [Parameter.rawTexts?_map_shift]
  cases p.rawTexts? taken with
  | none => rfl
  | some raw => exact shift_ofConversion n converter p (some anchor) raw earlier ticket

theorem Trail.shift_ofSurplus :
    ofSurplus p (anchor.shift n) (taken.map (·.shift n)) (surplus.map (·.shift n)) ticket =
      (ofSurplus p anchor taken surplus ticket).shift n := by
  unfold ofSurplus
  rw [Parameter.overflow?_map_shift]
  cases p.overflow? anchor taken surplus with
  | none => rfl
  | some fault => simp [shift, RecordedFault.shift, Event.shift]

namespace Match

theorem shift_ofRun :
    ofRun converter p (anchor.shift n) (run.map (·.shift n)) positional earlier ticket =
      (ofRun converter p anchor run positional earlier ticket).shift n := by
  unfold ofRun
  simp only [Parameter.take_map_shift, Collector.surplusOf_map_shift, List.length_map,
    Trail.shift_ofTaken, Trail.shift_ofSurplus, Parameter.overflow?_map_shift]
  split
  · rfl
  · rw [shift, Trail.shift_append, Trail.recorded_shift, List.length_map]
    simp [Resolution.shift, Converter.answerTaken, Parameter.rawTexts?_map_shift,
      RecordedFault.shift, Function.comp_def]

theorem shift_ofLiteral (literal : Word) :
    ofLiteral converter p (anchor.shift n) (literal.shift n) earlier ticket =
      (ofLiteral converter p anchor literal earlier ticket).shift n := by
  unfold ofLiteral shift
  congr 1
  exact Trail.shift_ofConversion n converter p (some anchor) [literal.text] earlier ticket

@[simp] theorem parameter_shift (m : Match) : (m.shift n).parameter = m.parameter := rfl

@[simp] theorem entry_shift (m : Match) : (m.shift n).entry = m.entry := rfl

@[simp] theorem requests_shift (m : Match) : (m.shift n).trail.requests = m.trail.requests := rfl

@[simp] theorem recorded_shift (m : Match) :
    (m.shift n).trail.recorded = m.trail.recorded.map (·.shift n) := rfl

theorem each_map_shift (ps : List Parameter) :
    each converter (anchor.shift n) (run.map (·.shift n)) ps earlier ticket =
      (each converter anchor run ps earlier ticket).map (·.shift n) := by
  fun_induction each converter anchor run ps earlier ticket with
  | case1 => rfl
  | case2 => simp only [each, shift_ofRun, List.map_cons, List.map_nil]
  | case3 p rest earlier ticket hrest m ih =>
    have hm : ofRun converter p (anchor.shift n) [] false earlier ticket = m.shift n :=
      shift_ofRun n p anchor [] false earlier ticket converter
    rw [each.eq_3 _ _ _ _ _ _ _ hrest, List.map_cons, hm, requests_shift, recorded_shift,
      List.length_map, ih]

theorem sharing_map_shift (literal : Word) (ps : List Parameter) :
    sharing converter (anchor.shift n) (literal.shift n) ps earlier ticket =
      (sharing converter anchor literal ps earlier ticket).map (·.shift n) := by
  fun_induction sharing converter anchor literal ps earlier ticket with
  | case1 => rfl
  | case2 p rest earlier ticket m ih =>
    have hm : ofLiteral converter p (anchor.shift n) (literal.shift n) earlier ticket = m.shift n :=
      shift_ofLiteral n p anchor earlier ticket converter literal
    rw [sharing, List.map_cons, hm, requests_shift, recorded_shift, List.length_map, ih]

/-- A group comes to the same matches at another place. -/
theorem group_map_shift (ps : List Parameter) :
    group converter ps (anchor.shift n) (run.map (·.shift n)) earlier ticket =
      (group converter ps anchor run earlier ticket).map (·.shift n) := by
  unfold group
  rw [Collector.broadcastLiteral?_map_shift]
  cases Collector.broadcastLiteral? ps run with
  | none => exact each_map_shift ..
  | some literal => exact sharing_map_shift ..

/-- How far the cursor moves behind a group does not depend on the place. -/
theorem longest_map_shift (ms : List Match) : longest (ms.map (·.shift n)) = longest ms := by
  unfold longest
  rw [List.map_map]
  congr 1
  apply List.map_congr_left
  intro m _
  exact List.length_map ..

end Match

end

namespace Turn

variable (turns : List Turn)

@[simp] theorem extent_shift (t : Turn) : (t.shift n).extent = t.extent := by
  cases t with
  | matched flag fresh run made => simp only [shift, extent, Match.longest_map_shift]
  | _ => rfl

@[simp] theorem made_shift (t : Turn) : (t.shift n).made = t.made.map (·.shift n) := by
  cases t <;> rfl

@[simp] theorem leftovers_shift (t : Turn) : (t.shift n).leftovers = t.leftovers.map (·.shift n) := by
  cases t <;> rfl

@[simp] theorem recorded_shift (t : Turn) : (t.shift n).recorded = t.recorded.map (·.shift n) := by
  cases t with
  | matched flag fresh run made =>
    simp only [shift, recorded, List.flatMap_map, List.map_flatMap, Match.recorded_shift]
  | _ => rfl

theorem flatMap_made_map_shift :
    (turns.map (·.shift n)).flatMap made = (turns.flatMap made).map (·.shift n) := by
  simp [List.flatMap_map, List.map_flatMap]

theorem flatMap_leftovers_map_shift :
    (turns.map (·.shift n)).flatMap leftovers = (turns.flatMap leftovers).map (·.shift n) := by
  simp [List.flatMap_map, List.map_flatMap]

theorem flatMap_recorded_map_shift :
    (turns.map (·.shift n)).flatMap recorded = (turns.flatMap recorded).map (·.shift n) := by
  simp [List.flatMap_map, List.map_flatMap]

end Turn

namespace Progress

/-- Two states that a turn cannot tell apart: all that it reads of them is the same. -/
structure Level (s t : Progress) : Prop where
  schema : t.collector.schema = s.collector.schema
  entries : t.collector.entries = s.collector.entries
  requests : t.collector.requests = s.collector.requests
  issued : t.collector.issued = s.collector.issued

theorem Level.refl (s : Progress) : Level s s :=
  ⟨rfl, rfl, rfl, rfl⟩

/-- A turn issues one ticket for each fault it records. -/
theorem Takes.issued {converter : Converter} {s t : Progress} {w : Word} {rest : List Word}
    {turn : Turn} (h : Takes converter s w rest t turn) :
    t.collector.issued = s.collector.issued + turn.recorded.length := by
  cases h <;> rfl

variable (converter : Converter) {s t : Progress}

/-- Progress at one level knows the same matched parameters. -/
theorem Level.matched (h : Level s t) (p : Parameter) :
    t.collector.matched p = s.collector.matched p := by
  unfold Collector.matched
  rw [h.entries]

/-- The same members of a group are fresh, whichever word spells the group. -/
theorem Level.freshOf (h : Level s t) (first second : Word) (ps : List Parameter) :
    (t.collector.freshOf first [] ps).2 = (s.collector.freshOf second [] ps).2 := by
  have hfirst := Collector.freshOf_snd first [] ps t.collector
  have hsecond := Collector.freshOf_snd second [] ps s.collector
  rw [List.eraseDups_nil] at hfirst hsecond
  rw [hfirst, hsecond]
  simp only [h.matched]

/-- States that cannot be told apart make the same turn over words that stand further on. -/
theorem turn_map_shift (h : Level s t) (w : Word) (rest : List Word) :
    (t.turn converter (w.shift n) (rest.map (·.shift n))).2 = (s.turn converter w rest).2.shift n := by
  unfold turn
  rw [h.schema, Word.text_shift]
  cases (s.collector.schema.read w.text).flag? with
  | none => rfl
  | some flag =>
    cases flag with
    | unrecognised =>
      simp only [Collector.record, Collector.unrecognisedFault, h.schema, h.issued]
      rfl
    | recognised ps =>
      have hfresh := h.freshOf (w.shift n) w ps
      obtain ⟨first, hfirst⟩ := Collector.freshOf_fst (w.shift n) [] ps t.collector
      obtain ⟨second, hsecond⟩ := Collector.freshOf_fst w [] ps s.collector
      dsimp only
      cases ht : t.collector.freshOf (w.shift n) [] ps with
      | mk d fresh' =>
        cases hs : s.collector.freshOf w [] ps with
        | mk c fresh =>
          rw [ht, hs] at hfresh
          rw [ht] at hfirst
          rw [hs] at hsecond
          dsimp only at hfresh hfirst hsecond
          subst hfresh hfirst hsecond
          cases fresh' with
          | nil => rfl
          | cons p others =>
            dsimp only [Collector.noteAll, Turn.shift]
            rw [h.requests, h.issued, Schema.leadingLiterals_map_shift, Match.group_map_shift]

/-- States that cannot be told apart before a turn cannot be told apart after it. -/
theorem Level.turn (h : Level s t) (w : Word) (rest : List Word) :
    Level (s.turn converter w rest).1
      (t.turn converter (w.shift n) (rest.map (·.shift n))).1 := by
  have hs := turn_takes converter s w rest
  have ht := turn_takes converter t (w.shift n) (rest.map (·.shift n))
  have hturn := turn_map_shift n converter h w rest
  rw [hturn] at ht
  constructor
  case schema => rw [hs.schema, ht.schema, h.schema]
  case entries =>
    rw [hs.reaches.entries, ht.reaches.entries, h.entries]
    simp [Function.comp_def]
  case requests =>
    rw [hs.reaches.requests, ht.reaches.requests, h.requests]
    simp [List.flatMap_map]
  case issued => rw [hs.issued, ht.issued, h.issued, Turn.recorded_shift, List.length_map]

/-- Over words that stand further on, a scan makes the same turns. -/
theorem scan_map_shift (words : List Word) (s : Progress) (cursor : Nat) :
    ∀ t : Progress, Level s t →
      (t.scan converter (words.map (·.shift n)) cursor).2 =
        (s.scan converter words cursor).2.map (·.shift n) := by
  fun_induction scan converter words s cursor with
  | case1 s cursor hlt step later ih =>
    intro t h
    have hturn := turn_map_shift n converter h words[cursor] (words.drop (cursor + 1))
    have hlevel := h.turn n converter words[cursor] (words.drop (cursor + 1))
    rw [List.map_drop] at hturn hlevel
    rw [scan.eq_1, dif_pos (by rwa [List.length_map]), List.map_cons]
    simp only [List.getElem_map]
    rw [hturn, Turn.extent_shift]
    exact congrArg _ (ih _ hlevel)
  | case2 s cursor hge =>
    intro t h
    rw [scan.eq_1, dif_neg (by rwa [List.length_map])]
    rfl

end Progress

end CommandLine
