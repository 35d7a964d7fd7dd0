import CommandLine.Schema
import CommandLine.Suggestion.Basic
import Mathlib.Algebra.Order.Field.Rat
import Mathlib.Data.List.Perm.Basic
import Mathlib.Data.Prod.Lex
import Mathlib.Data.String.Basic

namespace CommandLine

namespace ScoredCandidate

/-- The rank of a candidate: its similarity, then its text. -/
def rank (c : ScoredCandidate) : ℚ ×ₗ String :=
  toLex ((c.ratio.matched : ℚ) / c.ratio.total, c.text)

variable {a b : ScoredCandidate}

/-- Ratios are compared by cross multiplication. -/
theorem ratio_lt_iff (ha : 0 < a.ratio.total) (hb : 0 < b.ratio.total) :
    a.ratio.lt b.ratio = true ↔
      (a.ratio.matched : ℚ) / a.ratio.total < (b.ratio.matched : ℚ) / b.ratio.total := by
  rw [div_lt_div_iff₀ (Nat.cast_pos.mpr ha) (Nat.cast_pos.mpr hb), Similarity.Ratio.lt,
    decide_eq_true_iff, ← Nat.cast_mul, ← Nat.cast_mul, Nat.cast_lt]

/-- Shares of something are compared as numbers, so a candidate comes before another one if its rank is
greater. Shares of nothing would not compare as numbers do. -/
theorem precedes_iff_rank_le (ha : 0 < a.ratio.total) (hb : 0 < b.ratio.total) :
    a.precedes b = true ↔ b.rank ≤ a.rank := by
  rw [precedes, Bool.or_eq_true, Bool.and_eq_true, Bool.not_eq_true', ← Bool.not_eq_true,
    ratio_lt_iff hb ha, ratio_lt_iff ha hb, not_lt, decide_eq_true_iff, rank, rank, Prod.Lex.le_iff]
  constructor
  · rintro (hlt | ⟨hle, htext⟩)
    · exact .inl hlt
    · obtain hlt | heq := lt_or_eq_of_le hle
      · exact .inl hlt
      · exact .inr ⟨heq, htext⟩
  · rintro (hlt | ⟨heq, htext⟩)
    · exact .inl hlt
    · exact .inr ⟨le_of_eq heq, htext⟩

theorem total_of_pos (typed : String) {candidate : String} (hcandidate : candidate ≠ "") :
    0 < (of typed candidate).ratio.total := by
  have hlength : 0 < candidate.toList.length :=
    List.length_pos_iff.mpr fun hnil => hcandidate (String.toList_eq_nil_iff.mp hnil)
  exact Nat.add_pos_left hlength _

/-- What is scored is a candidate, and its similarity is a share of something. -/
theorem of_mem_scored {typed : String} {candidates : List String}
    (hne : ∀ candidate ∈ candidates, candidate ≠ "")
    (ha : a ∈ (candidates.map (of typed)).filter (·.ratio.isClose)) :
    0 < a.ratio.total ∧ a = of typed a.text := by
  obtain ⟨text, htext, rfl⟩ := List.mem_map.mp (List.mem_filter.mp ha).1
  exact ⟨total_of_pos typed (hne text htext), rfl⟩

/-- Candidates of one rank have one text. -/
theorem text_eq_of_rank_eq (h : a.rank = b.rank) : a.text = b.text :=
  congrArg (fun r => (ofLex r).2) h

end ScoredCandidate

/-- Candidates of positive totals are sorted by rank. -/
theorem pairwise_rank_mergeSort {scored : List ScoredCandidate}
    (hpos : ∀ c ∈ scored, 0 < c.ratio.total) :
    (scored.mergeSort ScoredCandidate.precedes).Pairwise fun a b => b.rank ≤ a.rank := by
  let descends (a b : ScoredCandidate) : Bool := decide (b.rank ≤ a.rank)
  have hsame : scored.mergeSort ScoredCandidate.precedes = scored.mergeSort descends := by
    have hagree : ∀ a ∈ scored, ∀ b ∈ scored, a.precedes b = descends (id a) (id b) := by
      intro a ha b hb
      rw [Bool.eq_iff_iff, ScoredCandidate.precedes_iff_rank_le (hpos a ha) (hpos b hb)]
      exact decide_eq_true_iff.symm
    simpa using List.map_mergeSort hagree
  have htrans : ∀ a b c, descends a b = true → descends b c = true → descends a c = true :=
    fun a b c hab hbc => decide_eq_true (le_trans (of_decide_eq_true hbc) (of_decide_eq_true hab))
  have htotal : ∀ a b, (descends a b || descends b a) = true := fun a b => by
    simpa [descends] using le_total b.rank a.rank
  rw [hsame]
  exact (List.pairwise_mergeSort htrans htotal scored).imp of_decide_eq_true

namespace Schema

variable {s : Schema} {spelling : String}

/-- The long spellings are those of the parameters. -/
theorem mem_longSpellings :
    spelling ∈ s.longSpellings ↔ ∃ p ∈ s.parameters, ∃ name ∈ p.longs, "--" ++ name = spelling := by
  simp only [longSpellings, List.mem_flatMap, List.mem_map]

theorem ne_empty_of_mem_longSpellings (h : spelling ∈ s.longSpellings) : spelling ≠ "" := by
  obtain ⟨p, _, name, _, rfl⟩ := mem_longSpellings.mp h
  intro heq
  simpa using congrArg String.toList heq

end Schema

end CommandLine
