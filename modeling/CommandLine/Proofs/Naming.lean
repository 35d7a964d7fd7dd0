import Mathlib.Computability.Language
import CommandLine.Parameter.Spelling

namespace CommandLine

open Text
open scoped Computability

/-- A segment of a long name: word characters, at least one. -/
def IsSegment (cs : List Char) : Prop :=
  cs ≠ [] ∧ ∀ c ∈ cs, isWord c = true

/-- The form of a long name: segments joined by single hyphens, without a decimal digit in front. -/
def LongForm (name : List Char) : Prop :=
  ∃ segments : List (List Char), segments ≠ [] ∧ (∀ segment ∈ segments, IsSegment segment) ∧
    name = ['-'].intercalate segments ∧ ∀ c ∈ name.head?, isDecimal c = false

namespace Pattern

/-- One character of a class. -/
def oneOf (accepts : Char → Bool) : Language Char :=
  {cs | ∃ c, cs = [c] ∧ accepts c = true}

/-- A hyphen or nothing, and then word characters, at least one. -/
def block : Language Char :=
  (1 + {['-']}) * (oneOf isWord * (oneOf isWord)∗)

/-- The pattern of long names: a letter and then blocks. -/
def longName : Language Char :=
  oneOf isLetter * block∗

theorem mem_kstar_oneOf_iff {accepts : Char → Bool} {cs : List Char} :
    cs ∈ (oneOf accepts)∗ ↔ ∀ c ∈ cs, accepts c = true := by
  rw [Language.mem_kstar]
  constructor
  · rintro ⟨parts, rfl, hparts⟩ c hc
    obtain ⟨part, hpart, hc⟩ := List.mem_flatten.mp hc
    obtain ⟨d, rfl, hd⟩ := hparts part hpart
    rwa [List.mem_singleton.mp hc]
  · intro hall
    refine ⟨cs.map fun c => [c], ?_, ?_⟩
    · rw [← List.flatMap_def, List.flatMap_singleton']
    · intro part hpart
      obtain ⟨c, hc, rfl⟩ := List.mem_map.mp hpart
      exact ⟨c, rfl, hall c hc⟩

/-- A segment of a name is one word character or more. -/
theorem mem_oneOf_mul_kstar_iff {cs : List Char} :
    cs ∈ oneOf isWord * (oneOf isWord)∗ ↔ IsSegment cs := by
  rw [Language.mem_mul]
  constructor
  · rintro ⟨_, ⟨c, rfl, hc⟩, rest, hrest, rfl⟩
    exact ⟨List.cons_ne_nil c rest, List.forall_mem_cons.mpr ⟨hc, mem_kstar_oneOf_iff.mp hrest⟩⟩
  · rintro ⟨hne, hword⟩
    obtain ⟨c, rest, rfl⟩ := List.exists_cons_of_ne_nil hne
    obtain ⟨hc, hrest⟩ := List.forall_mem_cons.mp hword
    exact ⟨[c], ⟨c, rfl, hc⟩, rest, mem_kstar_oneOf_iff.mpr hrest, rfl⟩

/-- A block is a segment, or a segment behind a hyphen. -/
theorem mem_block_iff {cs : List Char} :
    cs ∈ block ↔ ∃ segment, IsSegment segment ∧ (cs = segment ∨ cs = '-' :: segment) := by
  unfold block
  rw [Language.mem_mul]
  constructor
  · rintro ⟨front, hfront, segment, hsegment, rfl⟩
    refine ⟨segment, mem_oneOf_mul_kstar_iff.mp hsegment, ?_⟩
    obtain rfl | rfl := hfront
    · exact .inl rfl
    · exact .inr rfl
  · rintro ⟨segment, hsegment, rfl | rfl⟩
    · exact ⟨[], .inl rfl, cs, mem_oneOf_mul_kstar_iff.mpr hsegment, rfl⟩
    · exact ⟨['-'], .inr rfl, segment, mem_oneOf_mul_kstar_iff.mpr hsegment, rfl⟩

end Pattern

open Pattern

theorem isSegment_singleton {c : Char} (hc : isWord c = true) : IsSegment [c] :=
  ⟨List.cons_ne_nil c [], by simpa using hc⟩

/-- Joined segments are the first one and the others, each behind a hyphen. -/
theorem intercalate_hyphen_cons (segment : List Char) (segments : List (List Char)) :
    ['-'].intercalate (segment :: segments) = segment ++ segments.flatMap ('-' :: ·) := by
  induction segments generalizing segment with
  | nil => simp
  | cons next rest ih => rw [List.intercalate_cons_cons, ih, List.flatMap_cons]; simp

/-- What is read as the rest of a long name is a sequence of blocks, one a word character. -/
theorem mem_kstar_block_of_isLongNameTail {cs : List Char} (h : isLongNameTail cs = true) :
    cs ∈ block∗ := by
  have hstep : ∀ {front rest : List Char}, front ∈ block → rest ∈ block∗ → front ++ rest ∈ block∗ :=
    fun hfront hrest =>
      Set.mem_of_mem_of_subset (Language.append_mem_mul hfront hrest) (mul_kstar_le_kstar (a := block))
  fun_induction isLongNameTail cs with
  | case1 => exact Language.nil_mem_kstar block
  | case2 c rest ih =>
    obtain ⟨hc, hrest⟩ := Bool.and_eq_true_iff.mp h
    exact hstep (mem_block_iff.mpr ⟨[c], isSegment_singleton hc, .inr rfl⟩) (ih hrest)
  | case3 c rest _ ih =>
    obtain ⟨hc, hrest⟩ := Bool.and_eq_true_iff.mp h
    exact hstep (mem_block_iff.mpr ⟨[c], isSegment_singleton hc, .inl rfl⟩) (ih hrest)

/-- Blocks come to word characters and then segments, each behind a hyphen: a block without a hyphen
continues what is in front of it. -/
theorem exists_segments_of_mem_kstar_block {cs : List Char} (h : cs ∈ block∗) :
    ∃ (front : List Char) (segments : List (List Char)), (∀ c ∈ front, isWord c = true) ∧
      (∀ segment ∈ segments, IsSegment segment) ∧ cs = front ++ segments.flatMap ('-' :: ·) := by
  obtain ⟨blocks, rfl, hblocks⟩ := Language.mem_kstar.mp h
  clear h
  induction blocks with
  | nil => exact ⟨[], [], by simp, by simp, rfl⟩
  | cons first rest ih =>
    obtain ⟨hfirst, hrest⟩ := List.forall_mem_cons.mp hblocks
    obtain ⟨front, segments, hfront, hsegments, heq⟩ := ih hrest
    rw [List.flatten_cons, heq]
    obtain ⟨segment, ⟨hne, hword⟩, rfl | rfl⟩ := mem_block_iff.mp hfirst
    · exact ⟨first ++ front, segments, List.forall_mem_append.mpr ⟨hword, hfront⟩, hsegments,
        (List.append_assoc ..).symm⟩
    · refine ⟨[], (segment ++ front) :: segments, by simp, ?_, by simp⟩
      exact List.forall_mem_cons.mpr ⟨⟨by simp [hne], List.forall_mem_append.mpr ⟨hword, hfront⟩⟩,
        hsegments⟩

theorem isLongNameTail_append {front rest : List Char} (hfront : ∀ c ∈ front, isWord c = true)
    (hrest : isLongNameTail rest = true) : isLongNameTail (front ++ rest) = true := by
  induction front with
  | nil => exact hrest
  | cons c front ih =>
    obtain ⟨hc, hfront⟩ := List.forall_mem_cons.mp hfront
    have hne : c ≠ '-' := by
      rintro rfl
      exact absurd hc (by simp [isWord_hyphen])
    simp [isLongNameTail, hne, hc, ih hfront]

/-- Segments, each behind a hyphen, are the tail of a long name. -/
theorem isLongNameTail_flatMap {segments : List (List Char)}
    (h : ∀ segment ∈ segments, IsSegment segment) :
    isLongNameTail (segments.flatMap ('-' :: ·)) = true := by
  induction segments with
  | nil => rfl
  | cons segment rest ih =>
    obtain ⟨⟨hne, hword⟩, hrest⟩ := List.forall_mem_cons.mp h
    obtain ⟨c, cs, rfl⟩ := List.exists_cons_of_ne_nil hne
    obtain ⟨hc, hcs⟩ := List.forall_mem_cons.mp hword
    rw [List.flatMap_cons, List.cons_append, List.cons_append, isLongNameTail, hc, Bool.true_and]
    exact isLongNameTail_append hcs (ih hrest)

/-- What the reader accepts as a long name is in the language of long names. -/
theorem mem_longName_of_isLongName {name : List Char} (h : isLongName name = true) :
    name ∈ longName := by
  cases name with
  | nil => cases h
  | cons c rest =>
    obtain ⟨hc, hrest⟩ := Bool.and_eq_true_iff.mp h
    have hletter : [c] ∈ oneOf isLetter := ⟨c, rfl, hc⟩
    exact Language.append_mem_mul hletter (mem_kstar_block_of_isLongNameTail hrest)

/-- What is in the language of long names has their form. -/
theorem longForm_of_mem_longName {name : List Char} (h : name ∈ longName) : LongForm name := by
  obtain ⟨_, ⟨c, rfl, hc⟩, rest, hrest, rfl⟩ := Language.mem_mul.mp h
  obtain ⟨front, segments, hfront, hsegments, rfl⟩ := exists_segments_of_mem_kstar_block hrest
  refine ⟨(c :: front) :: segments, List.cons_ne_nil _ _, ?_, ?_, ?_⟩
  · exact List.forall_mem_cons.mpr ⟨⟨List.cons_ne_nil c front,
      List.forall_mem_cons.mpr ⟨isWord_of_isLetter hc, hfront⟩⟩, hsegments⟩
  · rw [intercalate_hyphen_cons]
    rfl
  · intro d hd
    obtain rfl : c = d := Option.some_inj.mp hd
    simp only [isLetter, Bool.and_eq_true, Bool.not_eq_true'] at hc
    exact hc.2

/-- What has the form of long names the reader accepts. -/
theorem isLongName_of_longForm {name : List Char} (h : LongForm name) : isLongName name = true := by
  obtain ⟨segments, hne, hsegments, rfl, hhead⟩ := h
  obtain ⟨segment, segments, rfl⟩ := List.exists_cons_of_ne_nil hne
  obtain ⟨⟨hsegment, hword⟩, hrest⟩ := List.forall_mem_cons.mp hsegments
  obtain ⟨c, cs, rfl⟩ := List.exists_cons_of_ne_nil hsegment
  obtain ⟨hc, hcs⟩ := List.forall_mem_cons.mp hword
  rw [intercalate_hyphen_cons] at hhead ⊢
  have hletter : isLetter c = true := by
    simp [isLetter, hc, hhead c rfl]
  rw [List.cons_append, isLongName, hletter, Bool.true_and]
  exact isLongNameTail_append hcs (isLongNameTail_flatMap hrest)

/-- The characters of a name are read one by one to tell whether it has the form of a long name. -/
theorem isLongName_iff_longForm {name : List Char} : isLongName name = true ↔ LongForm name :=
  ⟨fun h => longForm_of_mem_longName (mem_longName_of_isLongName h), isLongName_of_longForm⟩

/-- The pattern matches exactly the long names. -/
theorem mem_longName_iff_isLongName {name : List Char} : name ∈ longName ↔ isLongName name = true :=
  ⟨fun h => isLongName_of_longForm (longForm_of_mem_longName h), mem_longName_of_isLongName⟩

end CommandLine
