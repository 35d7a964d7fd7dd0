import CommandLine.Proofs.Match.Trail

namespace CommandLine

/-- How a parameter was resolved, and what that added to the collector. -/
structure Match where
  /-- The requests that were made before. -/
  earlier : List Request
  /-- The ticket of the next fault. -/
  ticket : Nat
  resolution : Resolution
  trail : Trail

namespace Match

/-- The matched parameter. -/
def parameter (m : Match) : Parameter :=
  m.resolution.parameter

/-- The words that the parameter took. -/
def taken (m : Match) : List Word :=
  m.resolution.taken

/-- The entry that a match makes. -/
def entry (m : Match) : Entry :=
  ⟨m.resolution.parameter, m.resolution.value⟩

@[simp] theorem parameter_entry (m : Match) : m.entry.parameter = m.parameter :=
  rfl

/-- The trail of matches that follow one another. -/
def trails (ms : List Match) : Trail :=
  .concat (ms.map trail)

theorem recorded_trails (ms : List Match) :
    (trails ms).recorded = ms.flatMap (·.trail.recorded) := by
  simp [trails, Trail.recorded_concat, List.flatMap_map]

theorem requests_trails (ms : List Match) :
    (trails ms).requests = ms.flatMap (·.trail.requests) := by
  simp [trails, Trail.requests_concat, List.flatMap_map]

/-- The match of a parameter against a run of literals. -/
def ofRun (converter : Converter) (p : Parameter) (anchor : Word) (run : List Word)
    (positional : Bool) (earlier : List Request) (ticket : Nat) : Match :=
  let taken := p.take run
  if taken.length < p.window.minimum then
    ⟨earlier, ticket, ⟨p, taken, .none, [], none⟩,
      .ofFault ticket (.notEnough p anchor taken p.window.minimum positional)⟩
  else
    let surplus := Collector.surplusOf p run positional
    let asked := Trail.ofTaken converter p anchor taken earlier ticket
    let next := ticket + asked.recorded.length
    ⟨earlier, ticket, ⟨p, taken, converter.answerTaken p taken earlier, surplus,
        (p.overflow? anchor taken surplus).map (⟨next, ·⟩)⟩,
      asked ++ .ofSurplus p anchor taken surplus next⟩

/-- The match of a parameter that shares one literal with the others of its group. -/
def ofLiteral (converter : Converter) (p : Parameter) (anchor literal : Word)
    (earlier : List Request) (ticket : Nat) : Match :=
  ⟨earlier, ticket,
    ⟨p, [literal], converter.answer earlier ⟨[literal.text], .descriptor p.type⟩, [], none⟩,
    .ofConversion converter p (some anchor) [literal.text] earlier ticket⟩

/-- The match of a parameter by its fallback. -/
def ofFallback (converter : Converter) (p : Parameter) (fallback : String)
    (earlier : List Request) (ticket : Nat) : Match :=
  let raw := p.fallbackTokens fallback
  ⟨earlier, ticket, ⟨p, [], converter.answer earlier ⟨raw, .descriptor p.type⟩, [], none⟩,
    .ofEvent (.applied p fallback) ++ .ofConversion converter p none raw earlier ticket⟩

/-- The matches of the parameters of a flag, the last one against the run. -/
def each (converter : Converter) (anchor : Word) (run : List Word) :
    List Parameter → List Request → Nat → List Match
  | [], _, _ => []
  | [p], earlier, ticket => [ofRun converter p anchor run false earlier ticket]
  | p :: rest, earlier, ticket =>
    let m := ofRun converter p anchor [] false earlier ticket
    m :: each converter anchor run rest (earlier ++ m.trail.requests)
      (ticket + m.trail.recorded.length)

/-- The matches of parameters that share a literal. -/
def sharing (converter : Converter) (anchor literal : Word) :
    List Parameter → List Request → Nat → List Match
  | [], _, _ => []
  | p :: rest, earlier, ticket =>
    let m := ofLiteral converter p anchor literal earlier ticket
    m :: sharing converter anchor literal rest (earlier ++ m.trail.requests)
      (ticket + m.trail.recorded.length)

/-- The matches of the parameters of one flag. -/
def group (converter : Converter) (parameters : List Parameter) (anchor : Word) (run : List Word)
    (earlier : List Request) (ticket : Nat) : List Match :=
  match Collector.broadcastLiteral? parameters run with
  | some literal => sharing converter anchor literal parameters earlier ticket
  | none => each converter anchor run parameters earlier ticket

section

variable (converter : Converter) (p : Parameter) (anchor : Word) (run : List Word)
  (positional : Bool) (earlier : List Request) (ticket : Nat)

@[simp] theorem earlier_ofRun :
    (ofRun converter p anchor run positional earlier ticket).earlier = earlier := by
  unfold ofRun
  dsimp only
  split <;> rfl

@[simp] theorem ticket_ofRun :
    (ofRun converter p anchor run positional earlier ticket).ticket = ticket := by
  unfold ofRun
  dsimp only
  split <;> rfl

@[simp] theorem parameter_ofRun :
    (ofRun converter p anchor run positional earlier ticket).parameter = p := by
  unfold ofRun
  dsimp only
  split <;> rfl

@[simp] theorem taken_ofRun :
    (ofRun converter p anchor run positional earlier ticket).taken = p.take run := by
  unfold ofRun
  dsimp only
  split <;> rfl

end

/-- A group makes one match for each member, in their order. -/
theorem map_parameter_each (converter : Converter) (anchor : Word) (run : List Word)
    (ps : List Parameter) (earlier : List Request) (ticket : Nat) :
    (each converter anchor run ps earlier ticket).map parameter = ps := by
  fun_induction each converter anchor run ps earlier ticket with
  | case1 => rfl
  | case2 => simp
  | case3 p rest earlier ticket hrest m ih => simp [ih, m]

theorem map_parameter_sharing (converter : Converter) (anchor literal : Word)
    (ps : List Parameter) (earlier : List Request) (ticket : Nat) :
    (sharing converter anchor literal ps earlier ticket).map parameter = ps := by
  fun_induction sharing converter anchor literal ps earlier ticket with
  | case1 => rfl
  | case2 p rest earlier ticket m ih =>
    rw [List.map_cons, ih]
    rfl

/-- A flag matches its parameters, each once and in their order. -/
theorem map_parameter_group (converter : Converter) (ps : List Parameter) (anchor : Word)
    (run : List Word) (earlier : List Request) (ticket : Nat) :
    (group converter ps anchor run earlier ticket).map parameter = ps := by
  unfold group
  split
  · exact map_parameter_sharing ..
  · exact map_parameter_each ..

end Match

namespace Collector

/-- A resolution adds the trail of its match. -/
theorem resolve_eq (converter : Converter) (p : Parameter) (anchor : Word) (run : List Word)
    (positional : Bool) (c : Collector) :
    c.resolve converter p anchor run positional =
      (c.extend (Match.ofRun converter p anchor run positional c.requests c.issued).trail,
        (Match.ofRun converter p anchor run positional c.requests c.issued).resolution) := by
  unfold resolve Match.ofRun
  dsimp only
  split
  · rw [record_eq_extend]
  · rw [convertTaken_eq]
    dsimp only
    rw [recordSurplus_eq, extend_append]
    rfl

/-- Resolving members one by one leaves their trails and comes to their resolutions. -/
theorem resolveEach_eq (converter : Converter) (anchor : Word) (run : List Word)
    (ps : List Parameter) (c : Collector) :
    c.resolveEach converter anchor run ps =
      (c.extend (Match.trails (Match.each converter anchor run ps c.requests c.issued)),
        (Match.each converter anchor run ps c.requests c.issued).map Match.resolution) := by
  fun_induction resolveEach converter anchor run ps c with
  | case1 c => simp [Match.each, Match.trails, Trail.concat]
  | case2 c p d r hresolve =>
    rw [resolve_eq] at hresolve
    cases hresolve
    simp only [Match.each, Match.trails, Trail.concat, List.map_cons, List.map_nil, List.foldr_cons,
      List.foldr_nil, extend_append, extend_empty]
  | case3 c p rest hrest d r hresolve e rs heach ih =>
    rw [resolve_eq] at hresolve
    cases hresolve
    rw [ih] at heach
    cases heach
    rw [Match.each.eq_3 _ _ _ _ _ _ _ hrest]
    simp only [Match.trails, Trail.concat, List.map_cons, List.foldr_cons, extend_append,
      requests_extend, issued_extend]

theorem broadcast_eq (converter : Converter) (anchor literal : Word) (ps : List Parameter)
    (c : Collector) :
    c.broadcast converter anchor literal ps =
      (c.extend (Match.trails (Match.sharing converter anchor literal ps c.requests c.issued)),
        (Match.sharing converter anchor literal ps c.requests c.issued).map Match.resolution) := by
  induction ps generalizing c with
  | nil => simp [broadcast, Match.sharing, Match.trails, Trail.concat]
  | cons p rest ih =>
    simp only [broadcast, convert_eq, ih, Match.sharing, Match.trails, Trail.concat, List.map_cons,
      List.foldr_cons, extend_append, requests_extend, issued_extend, Match.ofLiteral]

/-- Resolving the parameters of a flag adds the trails of their matches, after a note when they
share a literal. -/
theorem resolveGroup_eq (converter : Converter) (ps : List Parameter) (anchor : Word)
    (run : List Word) (c : Collector) :
    ∃ journal, c.resolveGroup converter ps anchor run =
      ((c.noteAll journal).extend
          (Match.trails (Match.group converter ps anchor run c.requests c.issued)),
        (Match.group converter ps anchor run c.requests c.issued).map Match.resolution) := by
  unfold resolveGroup Match.group
  cases broadcastLiteral? ps run with
  | some literal =>
    refine ⟨[.broadcast literal.text anchor.text], ?_⟩
    dsimp only
    rw [broadcast_eq]
    rfl
  | none =>
    refine ⟨[], ?_⟩
    dsimp only
    rw [resolveEach_eq]
    simp [noteAll]

end Collector

end CommandLine
