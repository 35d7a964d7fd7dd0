namespace CommandLine.Text

/-- The ordinals that are written as words, from the first on. -/
def ordinalWords : List String :=
  ["first", "second", "third", "fourth", "fifth", "sixth", "seventh", "eighth", "ninth", "tenth"]

/-- The suffix of a number: the teens have `th`, the others go by their last digit. -/
def ordinalSuffix (n : Int) : String :=
  if 10 < Int.fmod n 100 ∧ Int.fmod n 100 < 20 then "th"
  else if Int.fmod n 10 = 1 then "st"
  else if Int.fmod n 10 = 2 then "nd"
  else if Int.fmod n 10 = 3 then "rd"
  else "th"

/-- The ordinal of a position counted from one: `first` to `tenth`, then `11th`, `21st`, `22nd`. -/
def ordinal (n : Int) : String :=
  match ordinalWords[(n - 1).toNat]? with
  | some word => if 1 ≤ n then word else toString n ++ ordinalSuffix n
  | none => toString n ++ ordinalSuffix n

end CommandLine.Text
