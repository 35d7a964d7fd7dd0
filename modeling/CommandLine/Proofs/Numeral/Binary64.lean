import CommandLine.Numeral.Binary64
import Mathlib.Tactic.Ring

namespace CommandLine.Numeral

/-- Rounding goes up by one at most. -/
theorem roundHalfEven_le (num den : Nat) : roundHalfEven num den ≤ num / den + 1 := by
  simp only [roundHalfEven]
  split
  · exact Nat.le_succ _
  · split
    · exact Nat.le_refl _
    · exact Nat.add_le_add_left (Nat.le_of_lt_succ (Nat.mod_lt _ Nat.two_pos)) _

namespace Binary64

variable {num den a b : Nat}

theorem unitsPerOne_pos : 0 < unitsPerOne := by
  decide +kernel

theorem unitsPerOne_mul_lt_unitsBound : unitsPerOne * 2 ^ 100 < unitsBound := by
  decide +kernel

theorem spacing_le (units : Nat) : spacing units ≤ units + 1 := by
  by_cases hzero : units = 0
  · rw [hzero]
    exact Nat.le_refl 1
  · calc
      spacing units ≤ 2 ^ units.log2 := Nat.pow_le_pow_right Nat.two_pos (Nat.sub_le ..)
      _ ≤ units := Nat.log2_self_le hzero
      _ ≤ units + 1 := Nat.le_succ _

/-- A quotient that is far enough below the bound is rounded to a finite number of about its size. -/
theorem exists_ofRatio_finite (negative : Bool) (h : 2 * (num * unitsPerOne / den) + 1 < unitsBound) :
    ∃ units ≤ 2 * (num * unitsPerOne / den) + 1, ofRatio negative num den = .finite negative units := by
  let quotient := num * unitsPerOne / den
  let gap := spacing quotient
  let units := roundHalfEven (num * unitsPerOne) (den * gap) * gap
  have hunits : units ≤ 2 * quotient + 1 := by
    calc
      units ≤ (num * unitsPerOne / (den * gap) + 1) * gap :=
        Nat.mul_le_mul_right gap (roundHalfEven_le ..)
      _ = quotient / gap * gap + gap := by rw [Nat.succ_mul, ← Nat.div_div_eq_div_mul]
      _ ≤ quotient + (quotient + 1) := Nat.add_le_add (Nat.div_mul_le_self ..) (spacing_le quotient)
      _ = 2 * quotient + 1 := by omega
  refine ⟨units, hunits, ?_⟩
  rw [ofRatio]
  exact if_pos (Nat.lt_of_le_of_lt hunits h)

/-- A machine integer becomes a finite number. -/
theorem exists_ofInt_finite {n : Int} (h : n.natAbs < 2 ^ 64) :
    ∃ units ≤ 2 ^ 66 * unitsPerOne, ofInt n = .finite (n < 0) units := by
  have hone := unitsPerOne_pos
  have hbound := unitsPerOne_mul_lt_unitsBound
  have hproduct : n.natAbs * unitsPerOne ≤ 2 ^ 64 * unitsPerOne := Nat.mul_le_mul_right _ (Nat.le_of_lt h)
  have hquotient : n.natAbs * unitsPerOne / 1 = n.natAbs * unitsPerOne := Nat.div_one _
  have hsmall : 2 * (n.natAbs * unitsPerOne / 1) + 1 < unitsBound := by omega
  obtain ⟨units, hunits, hfinite⟩ := exists_ofRatio_finite (n < 0) hsmall
  exact ⟨units, by omega, hfinite⟩

/-- A share of a whole is a finite number. -/
theorem exists_ofRatio_share (negative : Bool) (hshare : num ≤ den) :
    ∃ units ≤ 4 * unitsPerOne, ofRatio negative num den = .finite negative units := by
  have hone := unitsPerOne_pos
  have hbound := unitsPerOne_mul_lt_unitsBound
  have hquotient : num * unitsPerOne / den ≤ unitsPerOne :=
    Nat.div_le_of_le_mul (Nat.mul_le_mul_right _ hshare)
  have hsmall : 2 * (num * unitsPerOne / den) + 1 < unitsBound := by omega
  obtain ⟨units, hunits, hfinite⟩ := exists_ofRatio_finite negative hsmall
  exact ⟨units, by omega, hfinite⟩

/-- What a machine integer is multiplied by may be a little above one. -/
theorem exists_times_finite (n m : Bool) (ha : a ≤ 2 ^ 66 * unitsPerOne) (hb : b ≤ 4 * unitsPerOne) :
    ∃ negative units, times (.finite n a) (.finite m b) = .finite negative units := by
  have hone := unitsPerOne_pos
  have hbound := unitsPerOne_mul_lt_unitsBound
  have hquotient : a * b * unitsPerOne / (unitsPerOne * unitsPerOne) ≤ 2 ^ 68 * unitsPerOne := by
    rw [Nat.mul_div_mul_right _ _ hone]
    refine Nat.div_le_of_le_mul ?_
    calc
      a * b ≤ 2 ^ 66 * unitsPerOne * (4 * unitsPerOne) := Nat.mul_le_mul ha hb
      _ = unitsPerOne * (2 ^ 68 * unitsPerOne) := by ring
  have hsmall : 2 * (a * b * unitsPerOne / (unitsPerOne * unitsPerOne)) + 1 < unitsBound := by omega
  obtain ⟨units, _, hfinite⟩ := exists_ofRatio_finite (n != m) hsmall
  exact ⟨n != m, units, hfinite⟩

end Binary64

end CommandLine.Numeral
