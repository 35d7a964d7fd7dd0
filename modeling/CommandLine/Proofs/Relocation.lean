import CommandLine.Proofs.Match.Trail

namespace CommandLine

/-- A word at the place where `f` puts it. -/
def Word.move (f : Nat → Nat) (w : Word) : Word :=
  ⟨w.text, f w.index⟩

variable (f : Nat → Nat)

@[simp] theorem Word.text_move (w : Word) : (w.move f).text = w.text := rfl

theorem Word.map_text_map_move (words : List Word) :
    (words.map (·.move f)).map Word.text = words.map Word.text := by
  simp

/-- The words of texts that begin at a place are those that begin at another one, moved there. -/
theorem Word.ofTexts_eq_map_move {f : Nat → Nat} {first other : Nat} {texts : List String}
    (h : ∀ i < texts.length, f (first + i) = other + i) :
    ofTexts other texts = (ofTexts first texts).map (·.move f) := by
  apply List.ext_getElem
  · simp [ofTexts]
  · intro i hi _
    have hlt : i < texts.length := by simpa [ofTexts] using hi
    simp [ofTexts, move, h i hlt]

theorem Schema.leadingLiterals_map_move (s : Schema) (words : List Word) :
    s.leadingLiterals (words.map (·.move f)) = (s.leadingLiterals words).map (·.move f) := by
  unfold leadingLiterals
  rw [List.takeWhile_map]
  rfl

section

variable (p : Parameter) (taken run : List Word)

theorem Parameter.eligible_map_move :
    p.eligible (run.map (·.move f)) = (p.eligible run).map (·.move f) := by
  unfold eligible
  rw [List.takeWhile_map]
  split <;> rfl

theorem Parameter.take_map_move :
    p.take (run.map (·.move f)) = (p.take run).map (·.move f) := by
  unfold take Window.cut
  rw [eligible_map_move]
  split
  · rw [List.map_take]
  · rfl

theorem Parameter.rawTexts?_map_move :
    p.rawTexts? (taken.map (·.move f)) = p.rawTexts? taken := by
  unfold rawTexts?
  rw [Word.map_text_map_move, List.isEmpty_map]

theorem Collector.surplusOf_map_move (positional : Bool) :
    surplusOf p (run.map (·.move f)) positional = (surplusOf p run positional).map (·.move f) := by
  unfold surplusOf
  rw [Parameter.eligible_map_move, Parameter.take_map_move, List.length_map]
  split
  · rw [List.map_drop]
  · rfl

theorem Collector.broadcastLiteral?_map_move (ps : List Parameter) :
    broadcastLiteral? ps (run.map (·.move f)) = (broadcastLiteral? ps run).map (·.move f) := by
  unfold broadcastLiteral?
  split
  · cases run with
    | nil => rfl
    | cons w rest =>
      simp only [List.map_cons, List.head?_cons, Option.filter_some, Word.text_move,
        apply_ite (Option.map _)]
      rfl
  · rfl

end

end CommandLine
