import CommandLine.Proofs.Paraphrase.Bundle
import CommandLine.Proofs.Requests

namespace CommandLine

theorem Window.length_cut_le {window : Window} {bound : Nat} (hbound : window.maximum = some bound)
    (words : List Word) : (window.cut words).length ≤ bound := by
  rw [cut, hbound]
  exact List.length_take_le ..

/-- Whether a literal goes to a parameter of a parse as to all others of its flag. -/
def SharesLiteral (converter : Converter) (schema : Schema) (words : List Word) (p : Parameter) : Prop :=
  ∃ flag fresh run made literal, .matched flag fresh run made ∈ turns converter schema words ∧
    Collector.broadcastLiteral? fresh run = some literal ∧ p ∈ fresh

section

variable {converter : Converter} {schema : Schema} {words : List Word} {p : Parameter} {m : Match}
  {w : Word}

theorem receives_iff :
    Receives converter schema words p w ↔
      (∃ t ∈ turns converter schema words, ∃ m ∈ t.made, m.parameter = p ∧ w ∈ m.taken) ∨
        ⟨w, some p⟩ ∈ ((afterFlags converter schema words).collector.bind converter).2 := by
  unfold Receives
  apply or_congr_left
  constructor
  · rintro ⟨flag, fresh, run, made, ht, hmade⟩
    exact ⟨_, ht, hmade⟩
  · rintro ⟨t, ht, m, hm, hreceived⟩
    cases t with
    | matched flag fresh run made => exact ⟨flag, fresh, run, made, ht, m, hm, hreceived⟩
    | _ => cases hm

instance : Decidable (Receives converter schema words p w) :=
  decidable_of_iff' _ receives_iff

/-- The words of a command line that a parse hands to a parameter. -/
def received (converter : Converter) (schema : Schema) (words : List Word) (p : Parameter) : List Word :=
  words.filter (Receives converter schema words p)

/-- What a match takes of a run lies in the window of its parameter, or is reported to be too few. -/
theorem Match.admits_or_short (converter : Converter) (p : Parameter) (anchor : Word) (run : List Word)
    (positional : Bool) (earlier : List Request) (ticket : Nat) :
    let m := ofRun converter p anchor run positional earlier ticket
    p.window.Admits m.taken.length ∨ ∃ r ∈ m.trail.recorded, r.fault.kind = .notEnough := by
  intro m
  have htaken : m.taken = p.take run := taken_ofRun ..
  rcases Nat.lt_or_ge (p.take run).length p.window.minimum with hshort | henough
  · have hm : m = _ := ofRun_of_short converter anchor positional earlier ticket hshort
    rw [hm]
    exact .inr ⟨_, List.mem_singleton_self _, rfl⟩
  · rw [htaken]
    exact .inl ⟨henough, fun bound hbound => Window.length_cut_le hbound _⟩

/-- A parse reports that a matched parameter has too few words exactly if its match recorded it. -/
theorem exists_notEnough_iff (hm : m ∈ (transcript converter schema words).made) :
    (∃ fault ∈ (collect converter schema words).faults,
        fault.kind = .notEnough ∧ fault.parameter? = some m.parameter) ↔
      ∃ r ∈ m.trail.recorded, r.fault.kind = .notEnough := by
  have hfaults := faults_about_of_mem hm
  constructor
  · rintro ⟨fault, hfault, hkind, habout⟩
    have hstands : fault ∈ m.standing (transcript converter schema words).claimed := by
      rw [← hfaults, List.mem_filter, decide_eq_true_iff]
      exact ⟨hfault, habout⟩
    obtain ⟨r, hr, rfl⟩ := List.mem_map.mp (List.mem_filter.mp hstands).1
    exact ⟨r, hr, hkind⟩
  · rintro ⟨r, hr, hkind⟩
    have hstands : r.fault ∈ m.standing (transcript converter schema words).claimed :=
      List.mem_filter.mpr ⟨List.mem_map_of_mem hr, by simp [hkind]⟩
    rw [← hfaults, List.mem_filter, decide_eq_true_iff] at hstands
    exact ⟨r.fault, hstands.1, hkind, hstands.2⟩

/-- A parameter that shares a literal takes it and nothing else, and is never reported to have too few. -/
theorem exists_match_of_sharesLiteral (hshares : SharesLiteral converter schema words p) :
    ∃ m ∈ (transcript converter schema words).flagged, m.parameter = p ∧ m.taken.length = 1 ∧
      ¬ ∃ r ∈ m.trail.recorded, r.fault.kind = .notEnough := by
  obtain ⟨flag, fresh, run, made, literal, ht, hshared, hp⟩ := hshares
  obtain ⟨_, hnodup, earlier, ticket, rfl⟩ := exists_group_of_mem_turns ht
  rw [← Match.map_parameter_group converter fresh flag run earlier ticket] at hp
  obtain ⟨m, hm, rfl⟩ := List.mem_map.mp hp
  refine ⟨m, List.mem_flatMap.mpr ⟨_, ht, hm⟩, rfl, ?_⟩
  obtain ⟨_, ⟨literal, _, heq⟩ | ⟨halone, _⟩⟩ := Match.mem_group hnodup hm
  · rw [heq]
    refine ⟨rfl, fun ⟨r, hr, hkind⟩ => ?_⟩
    exact Match.kind_ne_notEnough_of_mem_ofConversion hr hkind
  · rw [halone] at hshared
    cases hshared

/-- A match of a flag or of a position keeps to the window of its parameter, unless the parameter shares a
literal. -/
theorem admits_or_short_of_mem
    (hm : m ∈ (transcript converter schema words).flagged ++ (transcript converter schema words).bindings) :
    SharesLiteral converter schema words m.parameter ∨
      (m.parameter.window.Admits m.taken.length ∨ ∃ r ∈ m.trail.recorded, r.fault.kind = .notEnough) := by
  obtain hm | hm := List.mem_append.mp hm
  · obtain ⟨flag, fresh, run, made, ht, hm⟩ := exists_turn_of_mem_flagged hm
    obtain ⟨_, hnodup, _, _, rfl⟩ := exists_group_of_mem_turns ht
    obtain ⟨hp, ⟨literal, hshared, _⟩ | ⟨_, heq⟩⟩ := Match.mem_group hnodup hm
    · exact .inl ⟨flag, fresh, run, _, literal, ht, hshared, hp⟩
    · have hwithin := Match.admits_or_short converter m.parameter flag
        (Match.given fresh run m.parameter) false m.earlier m.ticket
      rw [← heq] at hwithin
      exact .inr hwithin
  · obtain ⟨_, anchor, behind, _, heq⟩ := Collector.mem_bindings hm
    have hwithin := Match.admits_or_short converter m.parameter anchor (anchor :: behind) true m.earlier
      m.ticket
    rw [← heq] at hwithin
    exact .inr hwithin

variable {texts : List String}

/-- The words that a parse hands to a matched parameter are as many as its match takes. -/
theorem length_received (hm : m ∈ (transcript converter schema (Word.ofTexts 0 texts)).made) :
    (received converter schema (Word.ofTexts 0 texts) m.parameter).length = m.taken.length := by
  have hnodup := Word.nodup_ofTexts texts
  refine List.Perm.length_eq ((List.perm_ext_iff_of_nodup (hnodup.filter _)
    ((taken_sublist_words hm).nodup hnodup)).mpr fun w => ?_)
  rw [List.mem_filter, decide_eq_true_iff, ← mem_taken_iff_receives rfl hm]
  exact and_iff_right_of_imp fun hw => (taken_sublist_words hm).subset hw

/-- The words that a parse hands to a matched parameter are those that its match takes, in their order. -/
theorem received_eq_taken (hm : m ∈ (transcript converter schema (Word.ofTexts 0 texts)).made) :
    received converter schema (Word.ofTexts 0 texts) m.parameter = m.taken := by
  have hreceived : ∀ w ∈ m.taken,
      decide (Receives converter schema (Word.ofTexts 0 texts) m.parameter w) = true :=
    fun w hw => decide_eq_true ((mem_taken_iff_receives rfl hm).mp hw)
  have hsublist : m.taken.Sublist (received converter schema (Word.ofTexts 0 texts) m.parameter) := by
    rw [← List.filter_eq_self.mpr hreceived]
    exact (taken_sublist_words hm).filter _
  exact (hsublist.eq_of_length (length_received hm).symm).symm

end

/-- That a parse keeps to the window of a parameter: if a flag or a position matches the parameter, the words
that it is handed lie in the window, or it is reported to have too few. -/
def Windowed (converter : Converter) (schema : Schema) (texts : List String) (p : Parameter) : Prop :=
  (afterBinding converter schema (Word.ofTexts 0 texts)).matched p = true →
    p.window.Admits (received converter schema (Word.ofTexts 0 texts) p).length ∨
      ∃ fault ∈ (parse converter schema texts).faults,
        fault.kind = .notEnough ∧ fault.parameter? = some p

/-- A parse keeps to the window of every parameter but of those that share a literal and whose window does not
admit one word. -/
theorem parse_windowed_iff (converter : Converter) (schema : Schema) (texts : List String) (p : Parameter) :
    Windowed converter schema texts p ↔
      (SharesLiteral converter schema (Word.ofTexts 0 texts) p → p.window.Admits 1) := by
  constructor
  · intro hwindowed hshares
    obtain ⟨m, hm, rfl, hone, hnone⟩ := exists_match_of_sharesLiteral hshares
    have hmade := mem_made_of_mem_flagged hm
    have hmatched : (afterBinding converter schema (Word.ofTexts 0 texts)).matched m.parameter = true := by
      rw [Collector.matched_iff, map_parameter_afterBinding, List.map_append]
      exact List.mem_append_left _ (List.mem_map_of_mem hm)
    have hunreported := (exists_notEnough_iff hmade).not.mpr hnone
    have hwithin := (hwindowed hmatched).resolve_right hunreported
    rwa [length_received hmade, hone] at hwithin
  · intro hadmits hmatched
    rw [Collector.matched_iff, map_parameter_afterBinding] at hmatched
    obtain ⟨m, hm, rfl⟩ := List.mem_map.mp hmatched
    have hmade : m ∈ (transcript converter schema (Word.ofTexts 0 texts)).made :=
      List.mem_append_left _ hm
    rw [length_received hmade]
    obtain hshares | hadmitted | hshort := admits_or_short_of_mem hm
    · obtain ⟨n, hn, hparameter, hone, _⟩ := exists_match_of_sharesLiteral hshares
      rw [← eq_of_parameter_eq (mem_made_of_mem_flagged hn) hmade hparameter, hone]
      exact .inl (hparameter ▸ hadmits hshares)
    · exact .inl hadmitted
    · exact .inr ((exists_notEnough_iff hmade).mpr hshort)

/-- A switch that asks for two literals. -/
def doubleSwitch : Parameter :=
  { shortFlag 0 'd' (.scalar (.known .boolean)) rfl with
    arity := some ⟨2, some 2, by simp⟩
    named_or_placed := .inr (.inl (List.cons_ne_nil _ _)) }

/-- A switch that asks for two literals, and one that takes one. -/
def doubleAndSingle : Schema where
  parameters := [doubleSwitch, shortFlag 1 'e' (.scalar (.known .boolean)) rfl]
  compatible := List.pairwise_pair.mpr
    ⟨by decide, by simp [doubleSwitch, shortFlag], by simp [doubleSwitch, shortFlag],
      by simp [doubleSwitch, shortFlag]⟩

/-- A literal behind a bundle goes to a switch that asks for two, and nothing is reported. -/
theorem doubleSwitch_shares : ¬ Windowed .standard doubleAndSingle ["-de", "true"] doubleSwitch := by
  have hmatched : (afterBinding .standard doubleAndSingle (Word.ofTexts 0 ["-de", "true"])).matched
      doubleSwitch = true := by
    decide +kernel
  have hreceived : received .standard doubleAndSingle (Word.ofTexts 0 ["-de", "true"]) doubleSwitch =
      [⟨"true", 1⟩] := by
    decide +kernel
  have hfaults : (parse .standard doubleAndSingle ["-de", "true"]).faults = [] := by
    decide +kernel
  intro hwindowed
  obtain ⟨hminimum, _⟩ | ⟨fault, hfault, _⟩ := hwindowed hmatched
  · rw [hreceived] at hminimum
    exact absurd hminimum (by decide)
  · rw [hfaults] at hfault
    cases hfault

end CommandLine
