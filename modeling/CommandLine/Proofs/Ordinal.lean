import CommandLine.Fault.Basic
import CommandLine.Proofs.Numeral.Integer

namespace CommandLine

namespace Text

/-- The suffix of a number in English. It goes by the last digit, but eleven, twelve and thirteen and what
ends in them have `th`. -/
def englishSuffix (n : Int) : String :=
  if n % 100 ∈ [11, 12, 13] then "th"
  else
    match n % 10 with
    | 1 => "st"
    | 2 => "nd"
    | 3 => "rd"
    | _ => "th"

variable {m n : Int}

/-- From fourteen to nineteen the teens have the suffix of their last digit anyway. -/
theorem ordinalSuffix_eq (n : Int) : ordinalSuffix n = englishSuffix n := by
  have hhundred : Int.fmod n 100 = n % 100 := Int.fmod_eq_emod_of_nonneg n (by decide)
  have hten : Int.fmod n 10 = n % 10 := Int.fmod_eq_emod_of_nonneg n (by decide)
  unfold ordinalSuffix englishSuffix
  have hteens : 13 < n % 100 → n % 100 < 20 → 3 < n % 10 := by omega
  rw [hhundred, hten]
  simp only [List.mem_cons, List.not_mem_nil, or_false]
  grind

/-- Past the tenth an ordinal is its number with a suffix. -/
theorem ordinal_of_gt (h : 10 < n) : ordinal n = toString n ++ ordinalSuffix n := by
  have hnone : ordinalWords[(n - 1).toNat]? = none := by
    rw [List.getElem?_eq_none_iff]
    change 10 ≤ _
    omega
  rw [ordinal, hnone]

/-- Up to the tenth an ordinal is a word. -/
theorem getElem?_ordinalWords (hpos : 0 < n) (h : n ≤ 10) :
    ordinalWords[(n - 1).toNat]? = some (ordinal n) := by
  have hlt : (n - 1).toNat < ordinalWords.length := by
    change _ < 10
    omega
  rw [ordinal, List.getElem?_eq_getElem hlt]
  exact congrArg some (if_pos hpos).symm

/-- Words have no digits in front. -/
theorem takeWhile_ordinal_of_le (hpos : 0 < n) (h : n ≤ 10) :
    (ordinal n).toList.takeWhile Char.isDigit = [] := by
  have hall : ∀ word ∈ ordinalWords, word.toList.takeWhile Char.isDigit = [] := by decide
  exact hall _ (List.mem_of_getElem? (getElem?_ordinalWords hpos h))

theorem takeWhile_ordinalSuffix (n : Int) : (ordinalSuffix n).toList.takeWhile Char.isDigit = [] := by
  unfold ordinalSuffix
  repeat' split
  all_goals rfl

/-- Past the tenth an ordinal has the digits of its number in front. -/
theorem takeWhile_ordinal_of_gt (h : 10 < n) :
    (ordinal n).toList.takeWhile Char.isDigit = Nat.toDigits 10 n.natAbs := by
  have hdigits : ∀ c ∈ Nat.toDigits 10 n.natAbs, c.isDigit = true :=
    fun c hc => Nat.isDigit_of_mem_toDigits (by decide) (by decide) hc
  rw [ordinal_of_gt h, String.toList_append, Numeral.toList_toString, if_neg (by omega), List.nil_append,
    List.takeWhile_append_of_pos hdigits, takeWhile_ordinalSuffix, List.append_nil]

/-- The digits in front tell words from numbers, and numbers from one another. -/
theorem eq_of_ordinal_eq (hm : 0 < m) (hn : 0 < n) (h : ordinal m = ordinal n) : m = n := by
  have hfront : (ordinal m).toList.takeWhile Char.isDigit = (ordinal n).toList.takeWhile Char.isDigit := by
    rw [h]
  rcases Int.lt_or_le 10 m with hm' | hm' <;> rcases Int.lt_or_le 10 n with hn' | hn'
  · rw [takeWhile_ordinal_of_gt hm', takeWhile_ordinal_of_gt hn'] at hfront
    have hsame : m.natAbs = n.natAbs := Numeral.eq_of_toDigits_eq hfront
    omega
  · rw [takeWhile_ordinal_of_gt hm', takeWhile_ordinal_of_le hn hn'] at hfront
    exact absurd hfront Nat.toDigits_ne_nil
  · rw [takeWhile_ordinal_of_le hm hm', takeWhile_ordinal_of_gt hn'] at hfront
    exact absurd hfront.symm Nat.toDigits_ne_nil
  · have hword : ordinalWords[(m - 1).toNat]? = ordinalWords[(n - 1).toNat]? := by
      rw [getElem?_ordinalWords hm hm', getElem?_ordinalWords hn hn', h]
    have hlt : (m - 1).toNat < ordinalWords.length := by
      change _ < 10
      omega
    have hindex := (List.getElem?_inj hlt (by decide)).mp hword
    omega

end Text

open Text

/-- Past the tenth an ordinal is its number with the suffix of English, and no two positive numbers have one
ordinal. So places that messages word alike are the same. -/
theorem ordinal_tells_places :
    (∀ n : Int, 10 < n → ordinal n = toString n ++ englishSuffix n) ∧
      (∀ m n : Int, 0 < m → 0 < n → ordinal m = ordinal n → m = n) ∧
      ∀ v w : Word, Fault.placeText v = Fault.placeText w → v.index = w.index := by
  refine ⟨?_, ?_, ?_⟩
  · intro n hn
    rw [ordinal_of_gt hn, ordinalSuffix_eq]
  · exact fun m n => eq_of_ordinal_eq
  · intro v w h
    have hpos : ∀ u : Word, 0 < (u.place : Int) := fun u => Int.natCast_pos.mpr (Nat.succ_pos u.index)
    have hplace : v.index + 1 = w.index + 1 := Int.ofNat.inj (eq_of_ordinal_eq (hpos v) (hpos w) h)
    exact Nat.succ.inj hplace

/-- What ends in twelve is no second, and what ends in twenty-two is one. -/
theorem ordinal_hundred_and_twelve :
    (10 : Int) < 112 ∧ ordinal 112 = "112th" ∧ ordinal 122 = "122nd" ∧ ordinal 112 ≠ ordinal 2 := by
  obtain ⟨htext, hinjective, _⟩ := ordinal_tells_places
  refine ⟨by decide, ?_, ?_, fun h => ?_⟩
  · exact (htext 112 (by decide)).trans (by decide +kernel)
  · exact (htext 122 (by decide)).trans (by decide +kernel)
  · exact absurd (hinjective 112 2 (by decide) (by decide) h) (by decide)

end CommandLine
