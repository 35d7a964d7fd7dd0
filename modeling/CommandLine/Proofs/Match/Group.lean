import CommandLine.Proofs.Match.Faults
import Mathlib.Data.List.Nodup

namespace CommandLine

namespace Match

variable {converter : Converter} {anchor : Word} {run : List Word} {ps : List Parameter}
  {earlier : List Request} {ticket : Nat} {m : Match}

/-- What a parameter of a flag is given: the last one gets the run, the others get nothing. -/
def given (ps : List Parameter) (run : List Word) (p : Parameter) : List Word :=
  if ps.getLast? = some p then run else []

/-- How many words of the run the matches of a flag reach over. -/
def longest (ms : List Match) : Nat :=
  (ms.map (·.taken.length)).foldl max 0

theorem taken_ofRun_nil (p : Parameter) (positional : Bool) :
    (ofRun converter p anchor [] positional earlier ticket).taken = [] := by
  rw [taken_ofRun]
  exact List.prefix_nil.mp (p.take_prefix [])

/-- A match that takes nothing does not make a flag reach further. -/
theorem longest_cons_of_taken_eq_nil (h : m.taken = []) (ms : List Match) :
    longest (m :: ms) = longest ms := by
  simp [longest, h]

/-- What is given to a member of a group is a part of the run from its start on. -/
theorem prefix_given (ps : List Parameter) (run : List Word) (p : Parameter) :
    given ps run p <+: run := by
  unfold given
  split
  · exact List.prefix_rfl
  · exact List.nil_prefix

/-- A member of a group makes a match by what it is given. -/
theorem mem_each (hnodup : ps.Nodup) (hm : m ∈ each converter anchor run ps earlier ticket) :
    m.parameter ∈ ps ∧
      m = ofRun converter m.parameter anchor (given ps run m.parameter) false m.earlier m.ticket := by
  fun_induction each converter anchor run ps earlier ticket with
  | case1 => cases hm
  | case2 earlier ticket p =>
    rw [List.mem_singleton] at hm
    subst hm
    simp [given]
  | case3 p rest earlier ticket hrest first ih =>
    obtain ⟨hnew, hnodup⟩ := List.nodup_cons.mp hnodup
    obtain ⟨q, others, rfl⟩ := List.exists_cons_of_ne_nil hrest
    rw [List.mem_cons] at hm
    cases hm with
    | inl hfirst =>
      subst hfirst
      have hlast : (q :: others).getLast? ≠ some p :=
        fun hlast => hnew (List.mem_of_getLast? hlast)
      simp [given, List.getLast?_cons_cons, if_neg hlast, first]
    | inr hm =>
      obtain ⟨hmem, heq⟩ := ih hnodup hm
      refine ⟨List.mem_cons_of_mem _ hmem, ?_⟩
      rwa [given, List.getLast?_cons_cons]

theorem mem_sharing {literal : Word} (hm : m ∈ sharing converter anchor literal ps earlier ticket) :
    m.parameter ∈ ps ∧ m = ofLiteral converter m.parameter anchor literal m.earlier m.ticket := by
  fun_induction sharing converter anchor literal ps earlier ticket with
  | case1 => cases hm
  | case2 p rest earlier ticket first ih =>
    rw [List.mem_cons] at hm
    cases hm with
    | inl hfirst =>
      subst hfirst
      exact ⟨List.mem_cons_self, rfl⟩
    | inr hm =>
      obtain ⟨hmem, heq⟩ := ih hm
      exact ⟨List.mem_cons_of_mem _ hmem, heq⟩

/-- A match of a flag either shares the literal of its group or was resolved against what it was
given. -/
theorem mem_group (hnodup : ps.Nodup) (hm : m ∈ group converter ps anchor run earlier ticket) :
    m.parameter ∈ ps ∧
      ((∃ literal, Collector.broadcastLiteral? ps run = some literal ∧
          m = ofLiteral converter m.parameter anchor literal m.earlier m.ticket) ∨
        (Collector.broadcastLiteral? ps run = none ∧
          m = ofRun converter m.parameter anchor (given ps run m.parameter) false m.earlier
            m.ticket)) := by
  unfold group at hm
  cases hshared : Collector.broadcastLiteral? ps run with
  | some literal =>
    rw [hshared] at hm
    obtain ⟨hmem, heq⟩ := mem_sharing hm
    exact ⟨hmem, .inl ⟨literal, rfl, heq⟩⟩
  | none =>
    rw [hshared] at hm
    obtain ⟨hmem, heq⟩ := mem_each hnodup hm
    exact ⟨hmem, .inr ⟨rfl, heq⟩⟩

/-- Every match of a group is made in one of the ways in which matches are made. -/
theorem made_of_mem_group (hnodup : ps.Nodup)
    (hm : m ∈ group converter ps anchor run earlier ticket) : Made converter m := by
  obtain ⟨_, ⟨literal, _, heq⟩ | ⟨_, heq⟩⟩ := mem_group hnodup hm
  · rw [heq]
    exact .literal ..
  · rw [heq]
    exact .run ..

theorem broadcastLiteral?_prefix {literal : Word}
    (hshared : Collector.broadcastLiteral? ps run = some literal) : [literal] <+: run := by
  unfold Collector.broadcastLiteral? at hshared
  split at hshared
  · obtain ⟨hhead, _⟩ := Option.filter_eq_some_iff.mp hshared
    obtain ⟨rest, rfl⟩ := List.head?_eq_some_iff.mp hhead
    exact ⟨rest, rfl⟩
  · cases hshared

/-- Every parameter of a flag takes words from the front of the run. -/
theorem taken_prefix_of_mem_group (hnodup : ps.Nodup)
    (hm : m ∈ group converter ps anchor run earlier ticket) : m.taken <+: run := by
  obtain ⟨_, ⟨literal, hshared, heq⟩ | ⟨_, heq⟩⟩ := mem_group hnodup hm
  · rw [heq]
    exact broadcastLiteral?_prefix hshared
  · rw [heq, taken_ofRun]
    exact (Parameter.take_prefix ..).trans (prefix_given ..)

private theorem foldl_max_le_iff (ns : List Nat) (start bound : Nat) :
    ns.foldl max start ≤ bound ↔ start ≤ bound ∧ ∀ n ∈ ns, n ≤ bound := by
  induction ns generalizing start with
  | nil => simp
  | cons n rest ih => rw [List.foldl_cons, ih, Nat.max_le, List.forall_mem_cons, and_assoc]

/-- Nothing is longer than the longest run. -/
theorem longest_le_iff (ms : List Match) (bound : Nat) :
    longest ms ≤ bound ↔ ∀ m ∈ ms, m.taken.length ≤ bound := by
  simp [longest, foldl_max_le_iff]

theorem length_taken_le_longest {ms : List Match} (hm : m ∈ ms) : m.taken.length ≤ longest ms :=
  (longest_le_iff ms _).mp (Nat.le_refl _) m hm

/-- Some match of a flag reaches as far as the flag does. -/
theorem exists_length_taken_eq_longest {ms : List Match} (hms : ms ≠ []) :
    ∃ m ∈ ms, m.taken.length = longest ms := by
  by_contra hnone
  have hshort : ∀ m ∈ ms, m.taken.length + 1 ≤ longest ms := by
    intro m hm
    have hle := length_taken_le_longest hm
    have hne : m.taken.length ≠ longest ms := fun heq => hnone ⟨m, hm, heq⟩
    omega
  obtain ⟨m, rest, rfl⟩ := List.exists_cons_of_ne_nil hms
  have hfirst := hshort m List.mem_cons_self
  have hbound : longest (m :: rest) ≤ longest (m :: rest) - 1 := by
    rw [longest_le_iff]
    intro n hn
    have := hshort n hn
    omega
  omega

/-- A flag never reaches over the end of its run. -/
theorem longest_group_le (hnodup : ps.Nodup) :
    longest (group converter ps anchor run earlier ticket) ≤ run.length := by
  rw [longest_le_iff]
  intro m hm
  exact (taken_prefix_of_mem_group hnodup hm).length_le

/-- A word is taken by some match of a flag exactly when it is among the words that the flag reaches
over. -/
theorem exists_mem_taken_iff (hps : ps ≠ []) (hnodup : ps.Nodup) (w : Word) :
    (∃ m ∈ group converter ps anchor run earlier ticket, w ∈ m.taken) ↔
      w ∈ run.take (longest (group converter ps anchor run earlier ticket)) := by
  constructor
  · rintro ⟨m, hm, hw⟩
    have hprefix := taken_prefix_of_mem_group hnodup hm
    have hle := length_taken_le_longest hm
    rw [List.prefix_iff_eq_take.mp hprefix] at hw
    exact (List.take_subset_take_left _ hle) hw
  · intro hw
    have hne : group converter ps anchor run earlier ticket ≠ [] := by
      intro hnil
      have hmap := map_parameter_group converter ps anchor run earlier ticket
      rw [hnil] at hmap
      exact hps hmap.symm
    obtain ⟨m, hm, hlength⟩ := exists_length_taken_eq_longest hne
    refine ⟨m, hm, ?_⟩
    rw [List.prefix_iff_eq_take.mp (taken_prefix_of_mem_group hnodup hm), hlength]
    exact hw

/-- The requests of matches follow one another: each match knows those that were made before it. -/
def Linked : List Request → List Match → Prop
  | _, [] => True
  | earlier, m :: rest => m.earlier = earlier ∧ Linked (earlier ++ m.trail.requests) rest

theorem linked_append {first second : List Match} :
    Linked earlier (first ++ second) ↔
      Linked earlier first ∧ Linked (earlier ++ first.flatMap (·.trail.requests)) second := by
  induction first generalizing earlier with
  | nil => simp [Linked]
  | cons m rest ih => simp [Linked, ih, and_assoc]

/-- The requests of a match stand behind those that it knows. -/
theorem Linked.exists_later {ms : List Match} (h : Linked earlier ms) (hm : m ∈ ms) :
    ∃ later, earlier ++ ms.flatMap (·.trail.requests) = m.earlier ++ m.trail.requests ++ later := by
  obtain ⟨before, after, rfl⟩ := List.append_of_mem hm
  obtain ⟨hearlier, _⟩ := (linked_append.mp h).2
  refine ⟨after.flatMap (·.trail.requests), ?_⟩
  rw [hearlier]
  simp

/-- The members of a group ask one behind the other. -/
theorem linked_each : Linked earlier (each converter anchor run ps earlier ticket) := by
  fun_induction each converter anchor run ps earlier ticket with
  | case1 => trivial
  | case2 => simp [Linked]
  | case3 p rest earlier ticket hrest first ih => exact ⟨by simp [first], ih⟩

theorem linked_sharing {literal : Word} :
    Linked earlier (sharing converter anchor literal ps earlier ticket) := by
  fun_induction sharing converter anchor literal ps earlier ticket with
  | case1 => trivial
  | case2 p rest earlier ticket first ih => exact ⟨rfl, ih⟩

/-- A group asks one request behind the other, in either way. -/
theorem linked_group : Linked earlier (group converter ps anchor run earlier ticket) := by
  unfold group
  split
  · exact linked_sharing
  · exact linked_each

end Match

end CommandLine
