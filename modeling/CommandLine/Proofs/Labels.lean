import CommandLine.Proofs.Classification
import CommandLine.Proofs.Lookup
import CommandLine.Proofs.Naming
import CommandLine.Proofs.Numeral.Digits

namespace CommandLine

namespace Text

/-- Letters and digits below 0x80 are printable, by one check of them all. -/
private theorem isPrintable_ofNat :
    ∀ n < 0x80, (Char.ofNat n).isAlphanum = true → 0x20 ≤ n ∧ n < 0x7f := by
  decide +kernel

/-- What is left of ranges when those that wider ranges cover are taken off the front, wider range by wider
range. -/
def uncovered (ranges wider : List (Nat × Nat)) : List (Nat × Nat) :=
  wider.foldl (fun rest cover => rest.dropWhile fun range => cover.1 ≤ range.1 && range.2 ≤ cover.2) ranges

/-- Ranges of which nothing is uncovered lie in wider ones each. -/
theorem exists_cover {ranges wider : List (Nat × Nat)} (h : uncovered ranges wider = []) :
    ∀ range ∈ ranges, ∃ cover ∈ wider, cover.1 ≤ range.1 ∧ range.2 ≤ cover.2 := by
  induction wider generalizing ranges with
  | nil =>
    intro range hrange
    rw [show ranges = [] from h] at hrange
    cases hrange
  | cons first others ih =>
    intro range hrange
    rw [← List.takeWhile_append_dropWhile (l := ranges)
      (p := fun range => first.1 ≤ range.1 && range.2 ≤ first.2), List.mem_append] at hrange
    obtain hfront | hbehind := hrange
    · have hcovers := List.mem_takeWhile_imp hfront
      exact ⟨first, List.mem_cons_self, by simpa using hcovers⟩
    · obtain ⟨cover, hcover, hcovers⟩ := ih h range hbehind
      exact ⟨cover, List.mem_cons_of_mem _ hcover, hcovers⟩

/-- Word characters print as themselves. -/
theorem isPrintable_of_isWord {c : Char} (h : isWord c = true) : isPrintable c = true := by
  unfold isWord at h
  unfold isPrintable
  split at h
  · next hascii =>
    have hprints := isPrintable_ofNat c.toNat hascii (by rwa [Char.ofNat_toNat])
    rw [if_pos hascii]
    simpa using hprints
  · next hbeyond =>
    rw [if_neg hbeyond]
    obtain ⟨range, hrange, hlow, hhigh⟩ := inRanges_eq_true_iff.mp h
    have hcovered : uncovered wordRanges printableRanges = [] := by decide +kernel
    obtain ⟨cover, hcover, hfirst, hlast⟩ := exists_cover hcovered range hrange
    exact inRanges_eq_true_iff.mpr ⟨cover, hcover, hfirst.trans hlow, hhigh.trans hlast⟩

/-- The characters of spellings: word characters and hyphens. -/
def isSpelling (c : Char) : Bool :=
  c = '-' || isWord c

theorem isSpelling_of_isWord {c : Char} (h : isWord c = true) : isSpelling c = true := by
  simp [isSpelling, h]

/-- No character of a spelling is escaped between quotes. -/
theorem escapeChar_of_isSpelling {c : Char} (h : isSpelling c = true) : escapeChar '\'' c = [c] := by
  have hne : ∀ d, isSpelling d = false → c ≠ d := by
    rintro d hd rfl
    rw [hd] at h
    cases h
  have hprints : isPrintable c = true := by
    simp only [isSpelling, Bool.or_eq_true, decide_eq_true_eq] at h
    obtain rfl | hword := h
    · decide
    · exact isPrintable_of_isWord hword
  have hquote := hne '\'' (by decide)
  have hbackslash := hne '\\' (by decide)
  have htab := hne '\t' (by decide)
  have hfeed := hne '\n' (by decide)
  have hreturn := hne '\r' (by decide)
  simp [escapeChar, hquote, hbackslash, htab, hfeed, hreturn, hprints]

/-- A spelling stands between quotes as it is. -/
theorem toList_quoted_of_isSpelling {s : String} (h : ∀ c ∈ s.toList, isSpelling c = true) :
    (quoted s).toList = '\'' :: (s.toList ++ ['\'']) := by
  have hquote : quoteFor s.toList = '\'' := by
    have hnone : '\'' ∉ s.toList := fun hmem => absurd (h _ hmem) (by decide)
    simp [quoteFor, hnone]
  have hescaped : s.toList.flatMap (escapeChar '\'') = s.toList := by
    rw [List.flatMap_congr fun c hc => escapeChar_of_isSpelling (h c hc), List.flatMap_singleton']
  rw [quoted, hquote, hescaped, String.toList_ofList]

end Text

open Text

/-- Long names consist of characters of spellings. -/
theorem isSpelling_of_isLongName {name : List Char} (h : isLongName name = true) :
    ∀ c ∈ name, isSpelling c = true := by
  obtain ⟨segments, hne, hsegments, rfl, _⟩ := isLongName_iff_longForm.mp h
  obtain ⟨segment, segments, rfl⟩ := List.exists_cons_of_ne_nil hne
  obtain ⟨⟨_, hword⟩, hrest⟩ := List.forall_mem_cons.mp hsegments
  rw [intercalate_hyphen_cons]
  intro c hc
  obtain hc | hc := List.mem_append.mp hc
  · exact isSpelling_of_isWord (hword c hc)
  · obtain ⟨later, hlater, hc⟩ := List.mem_flatMap.mp hc
    obtain rfl | hc := List.mem_cons.mp hc
    · rfl
    · exact isSpelling_of_isWord ((hrest later hlater).2 c hc)

namespace Spelling

theorem isSpelling_of_mem_text {spelling : Spelling} (h : spelling.Valid) :
    ∀ c ∈ spelling.text.toList, isSpelling c = true := by
  cases spelling with
  | long name =>
    rw [text, Schema.toList_long]
    exact List.forall_mem_cons.mpr ⟨rfl, List.forall_mem_cons.mpr ⟨rfl, isSpelling_of_isLongName h⟩⟩
  | short c =>
    have hc : isLetter c = true := h
    rw [text, String.toList_ofList]
    exact List.forall_mem_cons.mpr ⟨rfl, List.forall_mem_singleton.mpr
      (isSpelling_of_isWord (isWord_of_isLetter hc))⟩

theorem head?_text (spelling : Spelling) : spelling.text.toList.head? = some '-' := by
  cases spelling with
  | long name => rw [text, Schema.toList_long, List.head?_cons]
  | short c => rw [text, String.toList_ofList, List.head?_cons]

end Spelling

namespace Parameter

variable {p : Parameter} {spelling : Spelling}

theorem mem_spellings_of_canonical? (h : p.canonical? = some spelling) : spelling ∈ p.spellings :=
  List.mem_of_head? h

theorem label_of_canonical? (h : p.canonical? = some spelling) : p.label = spelling.text := by
  rw [label, h]

/-- A parameter without a name is labelled by its position. -/
theorem toList_label_of_placed (h : p.canonical? = none) :
    p.label.toList = "<positional ".toList ++ (p.positionText.toList ++ ['>']) := by
  simp [label, h]

/-- A label begins with a hyphen if it is a spelling. -/
theorem head?_label (p : Parameter) :
    p.label.toList.head? = some (if p.canonical?.isSome then '-' else '<') := by
  cases h : p.canonical? with
  | some spelling =>
    rw [label_of_canonical? h, spelling.head?_text]
    rfl
  | none =>
    rw [toList_label_of_placed h]
    rfl

/-- A message mentions a parameter with a spelling by the spelling, between quotes. -/
theorem toList_mention_of_spelled (h : p.canonical? = some spelling) :
    p.mention.toList = "option '".toList ++ (spelling.text.toList ++ ['\'']) := by
  have hplain := Spelling.isSpelling_of_mem_text (valid_of_mem_spellings (mem_spellings_of_canonical? h))
  simp [mention, h, label_of_canonical? h, toList_quoted_of_isSpelling hplain]

theorem toList_mention_of_placed (h : p.canonical? = none) :
    p.mention.toList = "positional option at slot ".toList ++ p.positionText.toList := by
  simp [mention, h]

/-- A message begins in one way with a spelling and in another with a position. -/
theorem head?_mention (p : Parameter) :
    p.mention.toList.head? = some (if p.canonical?.isSome then 'o' else 'p') := by
  cases h : p.canonical? with
  | some spelling =>
    rw [toList_mention_of_spelled h]
    rfl
  | none =>
    rw [toList_mention_of_placed h]
    rfl

/-- A position is written in digits. -/
theorem isDigit_of_mem_positionText {c : Char} (hc : c ∈ p.positionText.toList) : c.isDigit = true := by
  have hrepr : p.positionText = (p.position.getD 0).repr := rfl
  rw [hrepr, Nat.toList_repr] at hc
  exact Nat.isDigit_of_mem_toDigits (by decide) (by decide) hc

end Parameter

/-- What stands before the first separator can be told. -/
theorem eq_of_append_cons_eq {xs ys as bs : List Char} {c : Char} (hxs : c ∉ xs) (hys : c ∉ ys)
    (h : xs ++ c :: as = ys ++ c :: bs) : xs = ys := by
  have hfront : ∀ {front : List Char} (behind : List Char), c ∉ front →
      (front ++ c :: behind).takeWhile (· ≠ c) = front := by
    intro front behind hnone
    have hother : ∀ d ∈ front, decide (d ≠ c) = true := by
      intro d hd
      exact decide_eq_true fun heq => hnone (heq ▸ hd)
    rw [List.takeWhile_append_of_pos hother]
    simp
  rw [← hfront as hxs, h, hfront bs hys]

namespace Schema

variable {s : Schema} {p q : Parameter}

/-- A spelling belongs to one parameter. -/
theorem eq_of_spelling_eq (hp : p ∈ s.parameters) (hq : q ∈ s.parameters) {first second : Spelling}
    (hfirst : first ∈ p.spellings) (hsecond : second ∈ q.spellings) (h : first.text = second.text) :
    p = q := by
  have hread := flag?_read_spelling hp hfirst
  rw [h, flag?_read_spelling hq hsecond] at hread
  simpa using hread.symm

/-- A position belongs to one parameter. -/
theorem eq_of_positionText_eq (hp : p ∈ s.parameters) (hq : q ∈ s.parameters)
    (hfirst : p.canonical? = none) (hsecond : q.canonical? = none)
    (h : p.positionText = q.positionText) : p = q := by
  obtain ⟨m, hm⟩ := Option.ne_none_iff_exists'.mp (Parameter.position_ne_none_of_canonical? hfirst)
  obtain ⟨n, hn⟩ := Option.ne_none_iff_exists'.mp (Parameter.position_ne_none_of_canonical? hsecond)
  have hsame : m = n := by
    rw [Parameter.positionText, Parameter.positionText, hm, hn] at h
    have hdigits : m.repr.toList = n.repr.toList := congrArg String.toList h
    rw [Nat.toList_repr, Nat.toList_repr] at hdigits
    exact Numeral.eq_of_toDigits_eq hdigits
  exact eq_of_not_compatible hp hq fun hcompatible => hcompatible.2.2.2 m hm (hsame ▸ hn)

/-- A parameter is told by its canonical spelling, or if it has none by its position. -/
theorem eq_of_told (hp : p ∈ s.parameters) (hq : q ∈ s.parameters)
    (hform : p.canonical?.isSome = q.canonical?.isSome)
    (hspelled : ∀ first second, p.canonical? = some first → q.canonical? = some second →
      first.text = second.text)
    (hplaced : p.canonical? = none → q.canonical? = none → p.positionText = q.positionText) : p = q := by
  cases hfirst : p.canonical? with
  | some first =>
    rw [hfirst, Option.isSome_some, eq_comm, Option.isSome_iff_exists] at hform
    obtain ⟨second, hsecond⟩ := hform
    exact eq_of_spelling_eq hp hq (Parameter.mem_spellings_of_canonical? hfirst)
      (Parameter.mem_spellings_of_canonical? hsecond) (hspelled first second hfirst hsecond)
  | none =>
    rw [hfirst, Option.isSome_none, eq_comm, Option.isSome_eq_false_iff, Option.isNone_iff_eq_none]
      at hform
    exact eq_of_positionText_eq hp hq hfirst hform (hplaced hfirst hform)

/-- Two parameters of a schema with one label are the same. -/
theorem eq_of_label_eq (hp : p ∈ s.parameters) (hq : q ∈ s.parameters) (h : p.label = q.label) :
    p = q := by
  apply eq_of_told hp hq
  case hform =>
    have hhead : p.label.toList.head? = q.label.toList.head? := by rw [h]
    rw [p.head?_label, q.head?_label] at hhead
    cases hfirst : p.canonical?.isSome <;> cases hsecond : q.canonical?.isSome <;> simp_all
  case hspelled =>
    intro first second hfirst hsecond
    rwa [Parameter.label_of_canonical? hfirst, Parameter.label_of_canonical? hsecond] at h
  case hplaced =>
    intro hfirst hsecond
    rwa [← String.toList_inj, Parameter.toList_label_of_placed hfirst,
      Parameter.toList_label_of_placed hsecond, List.append_cancel_left_eq,
      List.append_cancel_right_eq, String.toList_inj] at h

/-- The parameter that a message begins with can be told, if a blank follows it. -/
theorem eq_of_mention_eq (hp : p ∈ s.parameters) (hq : q ∈ s.parameters) {xs ys : List Char}
    (h : p.mention.toList ++ ' ' :: xs = q.mention.toList ++ ' ' :: ys) : p = q := by
  apply eq_of_told hp hq
  case hform =>
    have hhead := congrArg List.head? h
    rw [List.head?_append, List.head?_append, p.head?_mention, q.head?_mention] at hhead
    cases hfirst : p.canonical?.isSome <;> cases hsecond : q.canonical?.isSome <;> simp_all
  case hspelled =>
    intro first second hfirst hsecond
    have hquote : ∀ {r : Parameter} {spelling : Spelling}, r.canonical? = some spelling →
        '\'' ∉ spelling.text.toList := by
      intro r spelling hspelling hmem
      have hvalid := Parameter.valid_of_mem_spellings (Parameter.mem_spellings_of_canonical? hspelling)
      exact absurd (Spelling.isSpelling_of_mem_text hvalid _ hmem) (by decide)
    rw [Parameter.toList_mention_of_spelled hfirst, Parameter.toList_mention_of_spelled hsecond] at h
    simp only [List.append_assoc, List.append_cancel_left_eq, List.singleton_append] at h
    exact String.toList_inj.mp (eq_of_append_cons_eq (hquote hfirst) (hquote hsecond) h)
  case hplaced =>
    intro hfirst hsecond
    have hblank : ∀ r : Parameter, ' ' ∉ r.positionText.toList := by
      intro r hmem
      exact absurd (Parameter.isDigit_of_mem_positionText hmem) (by decide)
    rw [Parameter.toList_mention_of_placed hfirst, Parameter.toList_mention_of_placed hsecond] at h
    simp only [List.append_assoc, List.append_cancel_left_eq] at h
    exact String.toList_inj.mp (eq_of_append_cons_eq (hblank p) (hblank q) h)

end Schema

end CommandLine
