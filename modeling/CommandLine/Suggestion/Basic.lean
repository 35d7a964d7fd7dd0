import CommandLine.Suggestion.Similarity

namespace CommandLine

/-- A candidate and how similar it is to what was typed. -/
structure ScoredCandidate where
  ratio : Similarity.Ratio
  text : String
  deriving DecidableEq, Repr

/-- Whether a candidate comes before another one: by similarity, then by text, greatest first. -/
def ScoredCandidate.precedes (a b : ScoredCandidate) : Bool :=
  b.ratio.lt a.ratio || (!a.ratio.lt b.ratio && b.text ≤ a.text)

/-- A candidate with its similarity to a typed text. -/
def ScoredCandidate.of (typed candidate : String) : ScoredCandidate :=
  ⟨Similarity.ratio candidate.toList typed.toList, candidate⟩

/-- The most suggestions that are made. -/
def suggestionLimit : Nat := 5

/-- The candidates that are similar enough to a typed text, the best ones first. -/
def suggestions (typed : String) (candidates : List String) : List String :=
  ((((candidates.map (ScoredCandidate.of typed)).filter (·.ratio.isClose)).mergeSort
    ScoredCandidate.precedes).take suggestionLimit).map ScoredCandidate.text

end CommandLine
