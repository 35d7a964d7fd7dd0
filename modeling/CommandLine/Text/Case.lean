import CommandLine.Text.CaseTable

namespace CommandLine.Text

/-- Characters that are upper, lower or title case. -/
def isCased (c : Char) : Bool :=
  if c.toNat < 0x80 then c.isAlpha else inRanges casedRanges c.toNat

/-- Characters that a word-final test looks through. -/
def isCaseIgnorable (c : Char) : Bool :=
  inRanges caseIgnorableRanges c.toNat

/-- The image of a character under a case table; a character in no entry is its own image. -/
def caseImage (expansions : List (Nat × List Nat)) (runs : List CaseRun) (c : Char) : List Char :=
  match expansions.lookup c.toNat with
  | some codes => codes.map Char.ofNat
  | none => [((runs.findSome? (·.imageOf? c.toNat)).map Char.ofNat).getD c]

/-- The lower form of a character by itself. -/
def lowerChar (c : Char) : List Char :=
  if c.toNat < 0x80 then [c.toLower] else caseImage lowerExpansions lowerRuns c

/-- The title form of a character. -/
def titleChar (c : Char) : List Char :=
  if c.toNat < 0x80 then [c.toUpper] else caseImage titleExpansions titleRuns c

/-- Whether the first character that is not looked through has case. -/
def meetsCased (cs : List Char) : Bool :=
  (cs.dropWhile isCaseIgnorable).head?.any isCased

/-- The lower form of a character between the text before it, read backwards, and the text after. -/
def lowerBetween (before : List Char) (c : Char) (after : List Char) : List Char :=
  if c = 'Σ' then
    [if meetsCased before && !meetsCased after then 'ς' else 'σ']
  else lowerChar c

/-- Lower-cases a text that follows `before`, which is read backwards. -/
def lowerAfter (before : List Char) : List Char → List Char
  | [] => []
  | c :: rest => lowerBetween before c rest ++ lowerAfter (c :: before) rest

/-- Lower-cases a text. -/
def lower (s : String) : String :=
  String.ofList (lowerAfter [] s.toList)

/-- Title-cases a text that follows `before`, which is read backwards: a character goes to its
lower form right after a cased one, else to its title form. -/
def titleAfter (before : List Char) : List Char → List Char
  | [] => []
  | c :: rest =>
    (if before.head?.any isCased then lowerBetween before c rest else titleChar c) ++
      titleAfter (c :: before) rest

/-- Writes each run of cased characters with its first in title case and the others in lower case. -/
def title (s : String) : String :=
  String.ofList (titleAfter [] s.toList)

theorem isAlpha_of_isAlpha_toLower {c : Char} (h : c.toLower.isAlpha = true) : c.isAlpha = true := by
  unfold Char.toLower at h
  split at h
  · next hcapital =>
    have hupper : c.isUpper = true := decide_eq_true hcapital
    exact Bool.or_eq_true_iff.mpr (.inl hupper)
  · exact h

theorem toLower_mem_lowerAfter {c : Char} {cs : List Char} (hascii : c.toNat < 0x80) (h : c ∈ cs)
    (before : List Char) : c.toLower ∈ lowerAfter before cs := by
  induction cs generalizing before with
  | nil => cases h
  | cons d rest ih =>
    rw [lowerAfter, List.mem_append]
    obtain rfl | hrest := List.mem_cons.mp h
    · have hsigma : c ≠ 'Σ' := by
        rintro rfl
        exact absurd hascii (by decide)
      left
      simp [lowerBetween, lowerChar, hsigma, hascii]
    · exact .inr (ih hrest (d :: before))

/-- Lower-casing works on ASCII character by character. -/
theorem toLower_mem_lower {c : Char} {s : String} (hascii : c.toNat < 0x80) (h : c ∈ s.toList) :
    c.toLower ∈ (lower s).toList := by
  rw [lower, String.toList_ofList]
  exact toLower_mem_lowerAfter hascii h []

end CommandLine.Text
