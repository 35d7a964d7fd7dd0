import CommandLine.Parser
import CommandLine.Proofs.Transcript.Binding

namespace CommandLine

/-- What stops a guarded parse. -/
inductive Misuse where
  /-- The label of a parameter that has neither a name nor a position. -/
  | unlabelled (p : Parameter)
  /-- A second result for a parameter. -/
  | alreadyMatched (e : AlreadyMatched)
  /-- The last parameter of none. -/
  | emptyGroup (e : EmptyGroup)
  /-- The longest of no resolutions. -/
  | noResolution
  /-- The first word of an empty run. -/
  | emptyRun
  /-- The maximum of a window that has no bound. -/
  | unbounded (p : Parameter)

namespace Guarded

/-- Steps that never stop do not stop together. -/
theorem foldlM_eq_ok {α σ : Type} {step : σ → α → Except Misuse σ} {plain : σ → α → σ}
    (hstep : ∀ s a, step s a = .ok (plain s a)) (xs : List α) (s : σ) :
    xs.foldlM step s = .ok (xs.foldl plain s) := by
  obtain rfl : step = fun s a => pure (plain s a) := by
    funext s a
    exact hstep s a
  exact List.foldlM_pure

/-- The label of a parameter: its canonical spelling, else its position. -/
def label (p : Parameter) : Except Misuse String :=
  match p.canonical?, p.position with
  | some spelling, _ => .ok spelling.text
  | none, some position => .ok ("<positional " ++ toString position ++ ">")
  | none, none => .error (.unlabelled p)

/-- Every parameter has a name or a position, so the guarded label never stops. -/
theorem label_eq (p : Parameter) : label p = .ok p.label := by
  unfold label Parameter.label
  cases hcanonical : p.canonical? with
  | some spelling => rfl
  | none =>
    obtain ⟨position, hposition⟩ :=
      Option.ne_none_iff_exists'.mp (Parameter.position_ne_none_of_canonical? hcanonical)
    simp only [hposition, Parameter.positionText, Option.getD_some]

/-- Records a fault; its wording labels the parameter that it is about. -/
def record (fault : Fault) (c : Collector) : Except Misuse (Collector × RecordedFault) :=
  match fault.parameter? with
  | some p => do
    let _ ← label p
    .ok (c.record fault)
  | none => .ok (c.record fault)

theorem record_eq (fault : Fault) (c : Collector) : record fault c = .ok (c.record fault) := by
  unfold record
  split
  · rw [label_eq]
    rfl
  · rfl

/-- Enters a parameter, which must not be there. -/
def enter (p : Parameter) (value : Value) (c : Collector) : Except Misuse Collector := do
  let _ ← label p
  (c.match? p value).mapError .alreadyMatched

/-- A new parameter is entered without a stop. -/
theorem enter_eq {p : Parameter} {c : Collector} (hnew : c.matched p = false) (value : Value) :
    enter p value c = .ok (c.enter p value) := by
  unfold enter Collector.enter
  rw [label_eq]
  simp only [Collector.match?, hnew, Bool.false_eq_true, if_false]
  rfl

/-- Enters the values of resolutions. -/
def enterAll (resolutions : List Resolution) (c : Collector) : Except Misuse Collector :=
  resolutions.foldlM (fun c r => enter r.parameter r.value c) c

/-- Different parameters that are not there can be entered one after another. -/
theorem enterAll_eq {rs : List Resolution} {c : Collector}
    (hnodup : (rs.map Resolution.parameter).Nodup)
    (hnew : ∀ r ∈ rs, c.matched r.parameter = false) : enterAll rs c = .ok (c.enterAll rs) := by
  induction rs generalizing c with
  | nil => rfl
  | cons r rest ih =>
    obtain ⟨hfirst, hnodup⟩ := List.nodup_cons.mp hnodup
    obtain ⟨hr, hrest⟩ := List.forall_mem_cons.mp hnew
    unfold enterAll
    rw [List.foldlM_cons, enter_eq hr]
    exact ih hnodup (Collector.new_of_enter hfirst hrest r.value)

section

variable (converter : Converter)

/-- Asks a converter for the value of raw tokens; its refusal is recorded. -/
def convert (p : Parameter) (anchor : Option Word) (raw : List String) (c : Collector) :
    Except Misuse (Collector × Value) :=
  let request : Request := ⟨raw, .descriptor p.type⟩
  let asked := { c with requests := c.requests ++ [request] }
  match converter.convert c.requests request with
  | .ok value => .ok (asked, value)
  | .error failure => do
    let (c, _) ← record (.conversion p anchor raw failure) asked
    .ok (c, .none)

theorem convert_eq (p : Parameter) (anchor : Option Word) (raw : List String) (c : Collector) :
    convert converter p anchor raw c = .ok (c.convert converter p anchor raw) := by
  unfold convert Collector.convert
  dsimp only
  cases converter.convert c.requests ⟨raw, .descriptor p.type⟩ with
  | ok value => rfl
  | error failure =>
    dsimp only
    rw [record_eq]
    rfl

/-- Converts the words that a parameter took, or the literal that a boolean flag implies. -/
def convertTaken (p : Parameter) (anchor : Word) (taken : List Word) (c : Collector) :
    Except Misuse (Collector × Value) :=
  if !taken.isEmpty then convert converter p (some anchor) (taken.map Word.text) c
  else if p.isBoolean then convert converter p (some anchor) [Collector.impliedLiteral] c
  else .ok (c, .none)

theorem convertTaken_eq (p : Parameter) (anchor : Word) (taken : List Word) (c : Collector) :
    convertTaken converter p anchor taken c = .ok (c.convertTaken converter p anchor taken) := by
  unfold convertTaken Collector.convertTaken
  rw [convert_eq, convert_eq]
  split
  · rfl
  · split <;> rfl

/-- Records the fault of a surplus, which tells the maximum that was passed. -/
def recordSurplus (p : Parameter) (anchor : Word) (taken surplus : List Word) (c : Collector) :
    Except Misuse (Collector × Option RecordedFault) :=
  match surplus, p.window.maximum with
  | [], _ => .ok (c, none)
  | _ :: _, none => .error (.unbounded p)
  | _ :: _, some maximum => do
    let (c, r) ← record (.tooMany p anchor taken surplus maximum) c
    .ok (c.note (.overflowed p surplus.length), some r)

/-- Only a parameter with a maximum has a surplus. -/
theorem surplusOf_of_unbounded {p : Parameter} (hmaximum : p.window.maximum = none)
    (run : List Word) (positional : Bool) : Collector.surplusOf p run positional = [] := by
  unfold Collector.surplusOf Parameter.take Window.cut
  rw [hmaximum]
  split
  · exact List.drop_length
  · rfl

/-- A surplus is recorded without a stop, since a parameter that has one has a maximum. -/
theorem recordSurplus_eq (p : Parameter) (anchor : Word) (run : List Word) (positional : Bool)
    (c : Collector) :
    recordSurplus p anchor (p.take run) (Collector.surplusOf p run positional) c =
      .ok (c.recordSurplus p anchor (p.take run) (Collector.surplusOf p run positional)) := by
  cases hmaximum : p.window.maximum with
  | none =>
    rw [surplusOf_of_unbounded hmaximum]
    simp [recordSurplus, Collector.recordSurplus]
  | some maximum =>
    cases hsurplus : Collector.surplusOf p run positional with
    | nil => simp [recordSurplus, Collector.recordSurplus]
    | cons w rest =>
      simp only [recordSurplus, Collector.recordSurplus, hmaximum, record_eq]
      rfl

/-- Resolves a parameter against a run of literals. -/
def resolve (p : Parameter) (anchor : Word) (run : List Word) (positional : Bool) (c : Collector) :
    Except Misuse (Collector × Resolution) :=
  let taken := p.take run
  if taken.length < p.window.minimum then do
    let (c, _) ← record (.notEnough p anchor taken p.window.minimum positional) c
    .ok (c, ⟨p, taken, .none, [], none⟩)
  else do
    let surplus := Collector.surplusOf p run positional
    let (c, value) ← convertTaken converter p anchor taken c
    let (c, pending) ← recordSurplus p anchor taken surplus c
    .ok (c, ⟨p, taken, value, surplus, pending⟩)

theorem resolve_eq (p : Parameter) (anchor : Word) (run : List Word) (positional : Bool)
    (c : Collector) :
    resolve converter p anchor run positional c =
      .ok (c.resolve converter p anchor run positional) := by
  unfold resolve Collector.resolve
  dsimp only
  split
  · rw [record_eq]
    rfl
  · rw [convertTaken_eq]
    change (recordSurplus p anchor _ _ _ >>= _) = _
    rw [recordSurplus_eq]
    rfl

/-- Resolves the last parameter of a flag against the run and those before it against nothing; there
must be a last one. -/
def resolveEach (anchor : Word) (run : List Word) :
    List Parameter → Collector → Except Misuse (Collector × List Resolution)
  | [], _ => .error (.emptyGroup {})
  | [p], c => do
    let (c, r) ← resolve converter p anchor run false c
    .ok (c, [r])
  | p :: rest, c => do
    let (c, r) ← resolve converter p anchor [] false c
    let (c, rs) ← resolveEach anchor run rest c
    .ok (c, r :: rs)

/-- A group that is not empty is resolved without a stop. -/
theorem resolveEach_eq (anchor : Word) (run : List Word) {ps : List Parameter} (hps : ps ≠ [])
    (c : Collector) :
    resolveEach converter anchor run ps c = .ok (c.resolveEach converter anchor run ps) := by
  fun_induction Collector.resolveEach converter anchor run ps c with
  | case1 c => exact absurd rfl hps
  | case2 p c d r hresolve =>
    rw [resolveEach, resolve_eq, hresolve]
    rfl
  | case3 p rest c hrest d r hresolve e rs heach ih =>
    rw [resolveEach.eq_3 _ _ _ _ _ _ hrest, resolve_eq, hresolve]
    change (resolveEach converter anchor run rest d >>= _) = _
    rw [ih hrest, heach]
    rfl

/-- Gives one boolean literal to every parameter of a group. -/
def broadcast (anchor literal : Word) :
    List Parameter → Collector → Except Misuse (Collector × List Resolution)
  | [], c => .ok (c, [])
  | p :: rest, c => do
    let (c, value) ← convert converter p (some anchor) [literal.text] c
    let (c, rs) ← broadcast anchor literal rest c
    .ok (c, ⟨p, [literal], value, [], none⟩ :: rs)

theorem broadcast_eq (anchor literal : Word) (ps : List Parameter) (c : Collector) :
    broadcast converter anchor literal ps c = .ok (c.broadcast converter anchor literal ps) := by
  induction ps generalizing c with
  | nil => rfl
  | cons p rest ih =>
    unfold broadcast
    rw [convert_eq]
    change (broadcast converter anchor literal rest _ >>= _) = _
    rw [ih]
    rfl

/-- Resolves the parameters of one flag against the literals after it. -/
def resolveGroup (ps : List Parameter) (anchor : Word) (run : List Word) (c : Collector) :
    Except Misuse (Collector × List Resolution) :=
  match Collector.broadcastLiteral? ps run with
  | some literal =>
    broadcast converter anchor literal ps (c.note (.broadcast literal.text anchor.text))
  | none => resolveEach converter anchor run ps c

theorem resolveGroup_eq {ps : List Parameter} (hps : ps ≠ []) (anchor : Word) (run : List Word)
    (c : Collector) :
    resolveGroup converter ps anchor run c = .ok (c.resolveGroup converter ps anchor run) := by
  unfold resolveGroup Collector.resolveGroup
  cases Collector.broadcastLiteral? ps run with
  | some literal => exact broadcast_eq ..
  | none => exact resolveEach_eq converter anchor run hps c

end

/-- How many words the longest of some resolutions took; there must be one. -/
def longest (rs : List Resolution) : Except Misuse Nat :=
  match (rs.map (·.taken.length)).max? with
  | some n => .ok n
  | none => .error .noResolution

/-- The longest run of some matches can be told if there is one. -/
theorem longest_eq {rs : List Resolution} (hrs : rs ≠ []) :
    longest rs = .ok ((rs.map (·.taken.length)).foldl max 0) := by
  obtain ⟨r, rest, rfl⟩ := List.exists_cons_of_ne_nil hrs
  unfold longest
  rw [List.map_cons, List.max?_cons', List.foldl_cons, Nat.zero_max]

section

variable (converter : Converter)

/-- Matches fresh parameters of a flag against the run after it. -/
def matchGroup (fresh : List Parameter) (phrase : Phrase) (s : Progress) : Except Misuse Progress := do
  let (c, resolutions) ← resolveGroup converter fresh phrase.head phrase.run s.collector
  let c ← enterAll resolutions c
  let taken ← longest resolutions
  .ok ⟨c.leaveAll (phrase.run.drop taken), s.overflows ++ resolutions.filter (·.pending.isSome)⟩

/-- Fresh parameters of a flag are not there yet, so each of them is entered. -/
theorem matchGroup_eq {fresh : List Parameter} (hne : fresh ≠ []) (hnodup : fresh.Nodup)
    (phrase : Phrase) {s : Progress} (hnew : ∀ p ∈ fresh, s.collector.matched p = false) :
    matchGroup converter fresh phrase s = .ok (s.matchGroup converter fresh phrase) := by
  have hparameters :=
    Collector.map_parameter_resolveGroup converter fresh phrase.head phrase.run s.collector
  have hnew := Collector.new_of_resolveGroup converter phrase.head phrase.run hnew
  unfold matchGroup Progress.matchGroup
  rw [resolveGroup_eq converter hne]
  generalize s.collector.resolveGroup converter fresh phrase.head phrase.run = resolved
    at hparameters hnew
  obtain ⟨c, resolutions⟩ := resolved
  have hresolutions : resolutions ≠ [] := by
    rintro rfl
    exact hne hparameters.symm
  change (enterAll resolutions c >>= _) = _
  rw [enterAll_eq (hparameters.symm ▸ hnodup) hnew]
  change (longest resolutions >>= _) = _
  rw [longest_eq hresolutions]
  rfl

/-- Reads a phrase. -/
def readPhrase (s : Progress) (phrase : Phrase) : Except Misuse Progress :=
  match phrase.flag with
  | .unrecognised => do
    let (c, _) ← record (s.collector.unrecognisedFault phrase.head) s.collector
    .ok { s with collector := c.leaveAll phrase.run }
  | .recognised parameters =>
    match s.collector.freshOf phrase.head [] parameters with
    | (c, []) => .ok { s with collector := c.leaveAll phrase.run }
    | (c, fresh) => matchGroup converter fresh phrase { s with collector := c }

/-- No phrase of the command line stops the guarded parse. -/
theorem readPhrase_eq (s : Progress) (phrase : Phrase) :
    readPhrase converter s phrase = .ok (s.readPhrase converter phrase) := by
  unfold readPhrase Progress.readPhrase
  cases phrase.flag with
  | unrecognised =>
    dsimp only
    rw [record_eq]
    rfl
  | recognised ps =>
    dsimp only
    cases hfound : s.collector.freshOf phrase.head [] ps with
    | mk c fresh =>
      obtain ⟨hnodup, hnew⟩ := Collector.new_of_freshOf hfound
      cases fresh with
      | nil => rfl
      | cons p others => exact matchGroup_eq converter (List.cons_ne_nil p others) hnodup phrase hnew

/-- The state after all flags of a command line. -/
def ofStream (schema : Schema) (stream : Stream) : Except Misuse Progress :=
  stream.phrases.foldlM (readPhrase converter) (.start schema stream.opening)

theorem ofStream_eq (schema : Schema) (stream : Stream) :
    ofStream converter schema stream = .ok (.ofStream converter schema stream) :=
  foldlM_eq_ok (readPhrase_eq converter) stream.phrases _

/-- Binds parameters in order against the leftovers that none before them claimed. -/
def bindEach : List Parameter → List Word → Collector → Except Misuse (Collector × Claims)
  | [], _, c => .ok (c, [])
  | p :: rest, words, c =>
    if c.matched p then bindEach rest words (c.note (.positionTaken p))
    else if (p.eligible words).isEmpty then bindEach rest words (c.note (.positionEmpty p))
    else
      match words with
      | [] => .error .emptyRun
      | anchor :: _ => do
        let (c, r) ← resolve converter p anchor words true c
        let c ← enter p r.value c
        let (c, later) ← bindEach rest (words.drop r.taken.length) c
        .ok (c, later ++ r.taken.map fun w => (w.index, p))

/-- A position is bound only if it is not there yet and finds a word. -/
theorem bindEach_eq (ps : List Parameter) (words : List Word) (c : Collector) :
    bindEach converter ps words c = .ok (c.bindEach converter ps words) := by
  induction ps generalizing words c with
  | nil => rfl
  | cons p rest ih =>
    unfold bindEach
    cases hmatched : c.matched p with
    | true =>
      rw [if_pos rfl, (Collector.bindEach_of_matched converter rest words hmatched).1]
      exact ih words _
    | false =>
      rw [if_neg Bool.false_ne_true]
      by_cases hempty : p.eligible words = []
      · rw [if_pos (by rw [hempty, List.isEmpty_nil]),
          (Collector.bindEach_of_empty converter rest hmatched hempty).1]
        exact ih words _
      · obtain ⟨anchor, behind, rfl⟩ := Collector.exists_cons_of_eligible hempty
        rw [if_neg (by rwa [List.isEmpty_iff]),
          (Collector.bindEach_of_eligible converter rest hmatched hempty).1]
        dsimp only
        rw [resolve_eq, Collector.resolve_eq]
        change (enter p _ (c.extend _) >>= _) = _
        rw [enter_eq (by rwa [Collector.matched_extend])]
        change (bindEach converter rest _ _ >>= _) = _
        rw [ih]
        rfl

/-- Binds the positions of the schema and tells who claimed each leftover. -/
def bind (c : Collector) : Except Misuse (Collector × List Leftover) := do
  let (bound, claims) ← bindEach converter c.schema.positionals c.leftovers c
  .ok (bound, c.leftovers.map fun w => ⟨w, claims.lookup w.index⟩)

/-- Binds the positions, then confirms or withdraws the pending overflows. -/
def bindPositions (s : Progress) : Except Misuse Collector := do
  let (c, leftovers) ← bind converter s.collector
  let claimed := (leftovers.filter (·.claimant.isSome)).map (·.word.index)
  .ok (s.overflows.foldl (Collector.settleOverflow claimed) c)

theorem bindPositions_eq (s : Progress) :
    bindPositions converter s = .ok (s.bindPositions converter) := by
  unfold bindPositions bind
  rw [bindEach_eq]
  rfl

/-- Applies the fallback of a parameter that is not matched. -/
def applyFallback (c : Collector) (p : Parameter) : Except Misuse Collector :=
  match p.fallback with
  | none => .ok c
  | some fallback =>
    if c.matched p then .ok c
    else do
      let (c, value) ← convert converter p none (p.fallbackTokens fallback)
        (c.note (.applied p fallback))
      enter p value c

/-- Filling in a fallback does not stop, since matched parameters are passed over. -/
theorem applyFallback_eq (c : Collector) (p : Parameter) :
    applyFallback converter c p = .ok (c.applyFallback converter p) := by
  unfold applyFallback Collector.applyFallback
  cases p.fallback with
  | none => rfl
  | some fallback =>
    cases hmatched : c.matched p with
    | true => rfl
    | false =>
      dsimp only
      rw [if_neg Bool.false_ne_true, if_neg Bool.false_ne_true, convert_eq]
      refine enter_eq ?_ _
      rw [Collector.convert_eq, Collector.matched_extend]
      exact hmatched

/-- Reports a required parameter that is not matched. -/
def reportMissing (c : Collector) (p : Parameter) : Except Misuse Collector :=
  if p.required && !c.matched p then do
    let (c, _) ← record (.missing p) c
    .ok c
  else .ok c

theorem reportMissing_eq (c : Collector) (p : Parameter) :
    reportMissing c p = .ok (c.reportMissing p) := by
  unfold reportMissing Collector.reportMissing
  rw [record_eq]
  split <;> rfl

/-- The collector at the end of a guarded parse of words. -/
def collect (schema : Schema) (words : List Word) : Except Misuse Collector := do
  let read ← ofStream converter schema (.ofWords schema words)
  let bound ← bindPositions converter read
  let filled ← schema.parameters.foldlM (applyFallback converter) bound
  schema.parameters.foldlM reportMissing filled

/-- The guarded parse never stops and comes to what the parse comes to. -/
theorem collect_eq (schema : Schema) (words : List Word) :
    collect converter schema words = .ok (CommandLine.collect converter schema words) := by
  unfold collect
  rw [ofStream_eq]
  change (bindPositions converter _ >>= _) = _
  rw [bindPositions_eq]
  change (schema.parameters.foldlM (applyFallback converter) _ >>= _) = _
  rw [foldlM_eq_ok (applyFallback_eq converter)]
  exact foldlM_eq_ok reportMissing_eq schema.parameters _

end

end Guarded

/-- Texts against whatever makes a schema are parsed, and only the schema can be refused. Nothing that a
parse asks for is absent: a parse that looks for each thing that need not be there goes the same way,
and the journal has no parameter that was refused for being matched before. -/
theorem parse_unstopped (parser : Parser) (source : SchemaSource) (texts : List String) :
    let words := Word.ofTexts 0 texts
    parser.run source (texts.map .text) =
        source.toSchema.map (fun schema => collect parser.converter schema words) ∧
      ∀ schema, Guarded.collect parser.converter schema words =
          .ok (collect parser.converter schema words) ∧
        ∀ p, .refused p ∉ (collect parser.converter schema words).journal := by
  intro words
  refine ⟨?_, fun schema => ⟨Guarded.collect_eq parser.converter schema words, ?_⟩⟩
  · unfold Parser.run
    rw [textTokens_map_text]
    cases source.toSchema with
    | error cause => rfl
    | ok schema => rfl
  · exact Collector.kept_unrefused.collect parser.converter schema words fun _ => List.not_mem_nil

end CommandLine
