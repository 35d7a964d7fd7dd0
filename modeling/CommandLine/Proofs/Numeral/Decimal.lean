import CommandLine.Numeral.Decimal
import CommandLine.Proofs.Numeral.Digits
import CommandLine.Text.Case

namespace CommandLine.Numeral

variable {before : Option Char} {c : Char} {cs kept : List Char} {n : Int} {negative : Bool}
  {x : Binary64} {s : String}

theorem IsNumeral.of_isDigit (h : c.isDigit = true) : IsNumeral c :=
  .inl (by simp [Char.isAlphanum, h])

theorem IsNumeral.of_isAlpha (h : c.isAlpha = true) : IsNumeral c :=
  .inl (by simp [Char.isAlphanum, h])

/-- What is dropped of a text are underscores. -/
theorem numeral_of_dropUnderscores? (h : dropUnderscores? before cs = some kept)
    (hkept : ∀ c ∈ kept, IsNumeral c) : ∀ c ∈ cs, IsNumeral c := by
  fun_induction dropUnderscores? before cs generalizing kept with
  | case1 => exact List.forall_mem_nil _
  | case2 before rest hbetween ih =>
    exact List.forall_mem_cons.mpr ⟨.inr (by decide), ih h hkept⟩
  | case3 => cases h
  | case4 before c rest hother ih =>
    obtain ⟨others, hothers, rfl⟩ := Option.map_eq_some_iff.mp h
    obtain ⟨hc, hrest⟩ := List.forall_mem_cons.mp hkept
    exact List.forall_mem_cons.mpr ⟨hc, ih hothers hrest⟩

/-- What is split off a text is a sign. -/
theorem numeral_of_splitSign (h : ∀ c ∈ (splitSign cs).2, IsNumeral c) : ∀ c ∈ cs, IsNumeral c := by
  unfold splitSign at h
  split at h
  · exact List.forall_mem_cons.mpr ⟨.inr (by decide), h⟩
  · exact List.forall_mem_cons.mpr ⟨.inr (by decide), h⟩
  · exact h

theorem numeral_of_readExponent? (h : readExponent? cs = some n) : ∀ c ∈ cs, IsNumeral c := by
  unfold readExponent? at h
  split at h
  · exact List.forall_mem_nil _
  · next c rest =>
    split at h
    · next hmarker =>
      dsimp only at h
      split at h
      · next hdigits =>
        have hall := List.all_eq_true.mp (Bool.and_eq_true_iff.mp hdigits).2
        have hrest : ∀ c ∈ rest, IsNumeral c :=
          numeral_of_splitSign fun c hc => .of_isDigit (hall c hc)
        obtain rfl | rfl := hmarker <;> exact List.forall_mem_cons.mpr ⟨.inl (by decide), hrest⟩
      · cases h
    · cases h

/-- Digits in front of what has the characters of numbers. -/
theorem numeral_of_spanDigits (h : ∀ c ∈ (spanDigits cs).2, IsNumeral c) : ∀ c ∈ cs, IsNumeral c := by
  intro c hc
  rw [← List.takeWhile_append_dropWhile (p := Char.isDigit) (l := cs)] at hc
  obtain hdigit | hrest := List.mem_append.mp hc
  · exact .of_isDigit (List.mem_takeWhile_imp hdigit)
  · exact h c hrest

theorem numeral_of_readMagnitude? (h : readMagnitude? negative cs = some x) :
    ∀ c ∈ cs, IsNumeral c := by
  -- with a fraction and without one, the exponent stands behind the digits
  have hbehind : ∀ (empty : Bool) (behind : List Char) (number : Int → Binary64),
      (if empty then none
        else do
          let exponent ← readExponent? behind
          some (number exponent)) = some x → ∀ c ∈ behind, IsNumeral c := by
    intro empty behind number hread
    split at hread
    · cases hread
    · obtain ⟨exponent, hexponent, _⟩ := Option.bind_eq_some_iff.mp hread
      exact numeral_of_readExponent? hexponent
  apply numeral_of_spanDigits
  unfold readMagnitude? at h
  generalize spanDigits cs = parts at h ⊢
  obtain ⟨whole, rest⟩ := parts
  dsimp only at h ⊢
  split at h
  · exact List.forall_mem_cons.mpr ⟨.inr (by decide), numeral_of_spanDigits (hbehind _ _ _ h)⟩
  · exact hbehind _ _ _ h

/-- Words are written in letters of either case. -/
theorem numeral_of_map_toLower {word : String} (hword : word.toList.all Char.isAlpha = true)
    (h : cs.map Char.toLower = word.toList) : ∀ c ∈ cs, IsNumeral c := by
  intro c hc
  have hlower := List.all_eq_true.mp hword _ (h ▸ List.mem_map_of_mem hc)
  exact .of_isAlpha (Text.isAlpha_of_isAlpha_toLower hlower)

/-- A text that is read as a number has no other characters than numbers have, but for the blanks around. -/
theorem numeral_of_readFloat? (h : readFloat? s = some x) : ∀ c ∈ plainText s, IsNumeral c := by
  unfold readFloat? readPlainFloat? at h
  obtain ⟨kept, hkept, h⟩ := Option.bind_eq_some_iff.mp h
  apply numeral_of_dropUnderscores? hkept
  apply numeral_of_splitSign
  dsimp only at h
  split at h
  · next hinfinity =>
    obtain hword | hword := hinfinity
    · exact numeral_of_map_toLower (by decide) hword
    · exact numeral_of_map_toLower (by decide) hword
  · split at h
    · next hword => exact numeral_of_map_toLower (by decide) hword
    · exact numeral_of_readMagnitude? h

end CommandLine.Numeral
