import CommandLine.Converter.Standard
import CommandLine.Proofs.Numeral.Digits

namespace CommandLine

namespace Numeral

open Text

/-- That a character marks a base: it is the marker of the base in either case. -/
def Radix.Marks (radix : Radix) (c : Char) : Prop :=
  c = radix.marker ∨ c = radix.marker.toUpper

/-- Decimal digits, not too many of them; leading zeros count. -/
inductive DecimalForm : List Char → Nat → Prop where
  | intro {cs : List Char} {values : List Nat} (digits : DigitForm 10 cs values)
      (few : values.length ≤ 4300) :
    DecimalForm cs (Nat.ofDigits 10 values.reverse)

/-- A zero, a marker and digits of the base that it marks, with at most one underscore before them. -/
inductive MarkedForm : List Char → Nat → Prop where
  | intro (radix : Radix) {marker : Char} {gap cs : List Char} {values : List Nat}
      (marks : radix.Marks marker) (narrow : gap = [] ∨ gap = ['_'])
      (digits : DigitForm radix.base cs values) :
    MarkedForm ('0' :: marker :: (gap ++ cs)) (Nat.ofDigits radix.base values.reverse)

/-- Unsigned integers. -/
inductive MagnitudeForm (cs : List Char) (n : Nat) : Prop where
  | decimal (form : DecimalForm cs n)
  | marked (form : MarkedForm cs n)

/-- Integers: a magnitude, with or without a sign. -/
inductive IntegerForm : List Char → Int → Prop where
  | unsigned {cs : List Char} {n : Nat} (magnitude : MagnitudeForm cs n) : IntegerForm cs n
  | plus {cs : List Char} {n : Nat} (magnitude : MagnitudeForm cs n) : IntegerForm ('+' :: cs) n
  | minus {cs : List Char} {n : Nat} (magnitude : MagnitudeForm cs n) : IntegerForm ('-' :: cs) (-n)

/-- That a text, its characters in plain form, spells an integer between blanks. -/
def Spells (s : String) (n : Int) : Prop :=
  ∃ before body behind, s.toList.map plainChar = before ++ body ++ behind ∧
    (∀ c ∈ before ++ behind, isNumberBlank c = true) ∧ IntegerForm body n

theorem Radix.base_le (radix : Radix) : radix.base ≤ 16 := by
  cases radix <;> decide

variable {c : Char} {cs : List Char} {n : Nat} {k : Int} {radix : Radix} {s : String}

private theorem toNat_marker (radix : Radix) :
    radix.marker.toNat < 0x80 ∧ radix.marker.toUpper.toNat < 0x80 := by
  cases radix <;> decide

/-- A marker of either case selects its base, and no other character does. -/
theorem Radix.ofMarker?_eq_some_iff : ofMarker? c = some radix ↔ radix.Marks c := by
  have hascii : ∀ n < 0x80, ∀ radix ∈ [hexadecimal, octal, binary],
      (ofMarker? (Char.ofNat n) = some radix ↔
        Char.ofNat n = radix.marker ∨ Char.ofNat n = radix.marker.toUpper) := by
    decide +kernel
  by_cases hsmall : c.toNat < 0x80
  · have hradix : radix ∈ [hexadecimal, octal, binary] := by cases radix <;> decide
    simpa [Marks] using hascii c.toNat hsmall radix hradix
  · -- past ASCII no character has a lower case here, and markers are ASCII
    obtain ⟨hlower, hupper⟩ := toNat_marker radix
    refine iff_of_false (fun h => ?_) ?_
    · have hmarker : radix.marker = c.toLower := by simpa using List.find?_some h
      unfold Char.toLower at hmarker
      split at hmarker
      · next hcapital =>
        have hlast : c.toNat ≤ 90 := hcapital.2
        omega
      · exact hsmall (hmarker ▸ hlower)
    · rintro (rfl | rfl)
      · exact hsmall hlower
      · exact hsmall hupper

/-- What is read as a decimal magnitude is digits, with single underscores between them, that are not too
many. -/
theorem readDecimalMagnitude?_eq_some_iff : readDecimalMagnitude? cs = some n ↔ DecimalForm cs n := by
  simp only [readDecimalMagnitude?, maxDecimalDigits, Option.bind_eq_bind, Option.bind_eq_some_iff,
    Option.ite_none_right_eq_some, Option.some.injEq, ofDigits_eq,
    readDigits?_eq_some_iff (show 10 ≤ 16 by decide)]
  constructor
  · rintro ⟨values, hdigits, hfew, rfl⟩
    exact .intro hdigits hfew
  · rintro ⟨hdigits, hfew⟩
    exact ⟨_, hdigits, hfew, rfl⟩

/-- What is read as a marked magnitude is a marker, perhaps an underscore, and digits of its base. -/
theorem readMarkedMagnitude?_eq_some_iff : readMarkedMagnitude? cs = some n ↔ MarkedForm cs n := by
  constructor
  · intro h
    unfold readMarkedMagnitude? at h
    split at h
    · next marker rest =>
      simp only [Option.bind_eq_bind, Option.bind_eq_some_iff, Option.some.injEq, ofDigits_eq] at h
      obtain ⟨radix, hradix, values, hvalues, rfl⟩ := h
      have hmarks := Radix.ofMarker?_eq_some_iff.mp hradix
      have hdigits := (readDigits?_eq_some_iff radix.base_le).mp hvalues
      split at hdigits
      · exact .intro radix hmarks (.inr rfl) hdigits
      · exact .intro radix hmarks (.inl rfl) hdigits
    · cases h
  · rintro ⟨radix, hmarks, hnarrow, hdigits⟩
    obtain ⟨c, rest, value, rfl, hc⟩ := hdigits.exists_head
    have hunderscore := hc.ne_underscore radix.base_le
    have hradix := Radix.ofMarker?_eq_some_iff.mpr hmarks
    have hread := (readDigits?_eq_some_iff radix.base_le).mpr hdigits
    obtain rfl | rfl := hnarrow
    · simp [readMarkedMagnitude?, hradix, hunderscore, hread, ofDigits_eq]
    · simp [readMarkedMagnitude?, hradix, hread, ofDigits_eq]

/-- Marked digits are no decimal ones: a marker is neither a decimal digit nor an underscore. -/
theorem readDecimalMagnitude?_of_markedForm (h : MarkedForm cs n) : readDecimalMagnitude? cs = none := by
  cases h with
  | @intro radix marker gap cs values hmarks =>
    obtain ⟨hunderscore, hdigit⟩ : marker ≠ '_' ∧ digitValue? 10 marker = none := by
      obtain rfl | rfl := hmarks <;> cases radix <;> decide
    have hrest : readDigits? 10 (marker :: (gap ++ cs)) = none := by
      unfold readDigits?
      split <;> simp_all
    simp [readDecimalMagnitude?, readDigits?_cons hunderscore, hrest]

/-- What a reader that lets the text tell its base adds to a decimal one is marked. -/
theorem or_readBasedMagnitude? (cs : List Char) :
    (readDecimalMagnitude? cs).or (readBasedMagnitude? cs) =
      (readDecimalMagnitude? cs).or (readMarkedMagnitude? cs) := by
  cases hdecimal : readDecimalMagnitude? cs with
  | some n => rfl
  | none => simp [readBasedMagnitude?, hdecimal]

/-- Reading in the base that the text tells adds nothing to decimal digits but the marked forms. -/
theorem or_readBasedMagnitude?_eq_some_iff :
    (readDecimalMagnitude? cs).or (readBasedMagnitude? cs) = some n ↔ MagnitudeForm cs n := by
  rw [or_readBasedMagnitude?, Option.or_eq_some_iff, readDecimalMagnitude?_eq_some_iff,
    readMarkedMagnitude?_eq_some_iff]
  constructor
  · rintro (hdecimal | ⟨_, hmarked⟩)
    · exact .decimal hdecimal
    · exact .marked hmarked
  · rintro (hdecimal | hmarked)
    · exact .inl hdecimal
    · exact .inr ⟨readDecimalMagnitude?_of_markedForm hmarked, hmarked⟩

/-- A magnitude starts with a decimal digit: a marker stands behind a zero. -/
theorem MagnitudeForm.exists_head (h : MagnitudeForm cs n) :
    ∃ c rest value, cs = c :: rest ∧ IsDigit 10 c value := by
  obtain ⟨hdigits, _⟩ | ⟨_, _, _, _⟩ := h
  · exact hdigits.exists_head
  · exact ⟨'0', _, 0, rfl, by decide, .inl rfl⟩

/-- A magnitude has no sign. -/
theorem splitSign_of_magnitudeForm (h : MagnitudeForm cs n) : splitSign cs = (false, cs) := by
  obtain ⟨c, rest, value, rfl, hc⟩ := h.exists_head
  have hvalue := (digitValue?_eq_some_iff (by decide)).mpr hc
  have hne : ∀ sign, digitValue? 10 sign = none → c ≠ sign := by
    rintro sign hsign rfl
    rw [hsign] at hvalue
    cases hvalue
  unfold splitSign
  split
  · exact absurd (List.cons.inj ‹_›).1 (hne '-' rfl)
  · exact absurd (List.cons.inj ‹_›).1 (hne '+' rfl)
  · rfl

/-- Reading a sign and a magnitude accepts integers and nothing else. -/
theorem map_splitSign_eq_some_iff :
    ((readDecimalMagnitude? (splitSign cs).2).or (readBasedMagnitude? (splitSign cs).2)).map
        (signed (splitSign cs).1) = some k ↔ IntegerForm cs k := by
  rw [Option.map_eq_some_iff]
  simp only [or_readBasedMagnitude?_eq_some_iff]
  constructor
  · rintro ⟨n, hmagnitude, rfl⟩
    unfold splitSign at hmagnitude ⊢
    split at hmagnitude
    · exact .minus hmagnitude
    · exact .plus hmagnitude
    · exact .unsigned hmagnitude
  · rintro (hmagnitude | hmagnitude | hmagnitude)
    · rw [splitSign_of_magnitudeForm hmagnitude]
      exact ⟨_, hmagnitude, rfl⟩
    · exact ⟨_, hmagnitude, rfl⟩
    · exact ⟨_, hmagnitude, rfl⟩

theorem MarkedForm.numeral (h : MarkedForm cs n) : ∀ c ∈ cs, IsNumeral c := by
  obtain ⟨radix, hmarks, hnarrow, hdigits⟩ := h
  intro c hc
  simp only [List.mem_cons, List.mem_append] at hc
  obtain rfl | rfl | hgap | hdigit := hc
  · exact .inl (by decide)
  · obtain rfl | rfl := hmarks <;> cases radix <;> exact .inl (by decide)
  · obtain rfl | rfl := hnarrow
    · cases hgap
    · rw [List.mem_singleton.mp hgap]
      exact .inr (by decide)
  · exact hdigits.numeral radix.base_le c hdigit

theorem MagnitudeForm.numeral (h : MagnitudeForm cs n) : ∀ c ∈ cs, IsNumeral c := by
  obtain ⟨hdigits, _⟩ | hmarked := h
  · exact hdigits.numeral (by decide)
  · exact hmarked.numeral

theorem IntegerForm.ne_nil (h : IntegerForm cs k) : cs ≠ [] := by
  cases h with
  | unsigned magnitude =>
    obtain ⟨c, rest, _, hcs, _⟩ := magnitude.exists_head
    exact hcs ▸ List.cons_ne_nil c rest
  | plus magnitude => exact List.cons_ne_nil _ _
  | minus magnitude => exact List.cons_ne_nil _ _

theorem IntegerForm.numeral (h : IntegerForm cs k) : ∀ c ∈ cs, IsNumeral c := by
  cases h with
  | unsigned magnitude => exact magnitude.numeral
  | plus magnitude => exact List.forall_mem_cons.mpr ⟨.inr (by decide), magnitude.numeral⟩
  | minus magnitude => exact List.forall_mem_cons.mpr ⟨.inr (by decide), magnitude.numeral⟩

/-- The reader accepts the integers of the grammar in the plain form of a text, and no others. -/
theorem readInteger?_eq_some_iff_integerForm :
    readInteger? s = some k ↔ IntegerForm (plainText s) k := by
  rw [← map_splitSign_eq_some_iff, Option.map_or]
  rfl

/-- Reading accepts the texts that spell integers and no others. -/
theorem readInteger?_eq_some_iff : readInteger? s = some k ↔ Spells s k := by
  rw [readInteger?_eq_some_iff_integerForm]
  constructor
  · intro hform
    obtain ⟨before, behind, hplain, hblank⟩ := exists_trim isNumberBlank (s.toList.map plainChar)
    exact ⟨before, plainText s, behind, hplain, hblank, hform⟩
  · rintro ⟨before, body, behind, hplain, hblank, hform⟩
    have hbody : ∀ c ∈ body, isNumberBlank c = false := fun c hc => (hform.numeral c hc).solid.2
    rwa [plainText, hplain, trim_append hform.ne_nil hbody hblank]

/-- A sign stands in front of what is negative. -/
theorem IntegerForm.of_natAbs (h : MagnitudeForm cs k.natAbs) :
    IntegerForm ((if k < 0 then ['-'] else []) ++ cs) k := by
  by_cases hnegative : k < 0
  · have hk : -(k.natAbs : Int) = k := by omega
    have hform := IntegerForm.minus h
    rw [hk] at hform
    rwa [if_pos hnegative]
  · have hk : (k.natAbs : Int) = k := by omega
    have hform := IntegerForm.unsigned h
    rw [hk] at hform
    rwa [if_neg hnegative]

/-- What has the form of an integer is in plain form, so it spells the integer as it stands. -/
theorem Spells.of_integerForm (h : IntegerForm s.toList k) : Spells s k := by
  have hplain : s.toList.map plainChar = s.toList := by
    conv_rhs => rw [← List.map_id s.toList]
    exact List.map_congr_left fun c hc => if_pos (h.numeral c hc).solid.1
  exact ⟨[], s.toList, [], by simpa using hplain, by simp, h⟩

/-- An integer is written in decimal digits behind its sign. -/
theorem toList_toString (k : Int) :
    (toString k).toList = (if k < 0 then ['-'] else []) ++ Nat.toDigits 10 k.natAbs := by
  cases k with
  | ofNat n => exact Nat.toList_repr
  | negSucc n =>
    have htext : toString (Int.negSucc n) = "-" ++ (n + 1).repr := rfl
    rw [htext, String.toList_append, Nat.toList_repr, if_pos (Int.negSucc_lt_zero n)]
    rfl

/-- The usual text of an integer spells it, as long as its digits are not too many. -/
theorem spells_toString (hfew : (Nat.toDigits 10 k.natAbs).length ≤ 4300) :
    Spells (toString k) k := by
  obtain ⟨values, hdigits, hlength, hdenotes⟩ :=
    exists_digitForm_toDigits (show 1 < 10 by decide) k.natAbs
  have hform := DecimalForm.intro hdigits (hlength ▸ hfew)
  rw [hdenotes] at hform
  apply Spells.of_integerForm
  rw [toList_toString]
  exact .of_natAbs (.decimal hform)

/-- The text of an integer in a marked base spells it, however long it is. -/
theorem spells_write (radix : Radix) (k : Int) : Spells (radix.write k) k := by
  have hlow : 1 < radix.base := by cases radix <;> decide
  obtain ⟨values, hdigits, _, hdenotes⟩ := exists_digitForm_toDigits hlow k.natAbs
  have hform := MarkedForm.intro radix (.inl rfl) (.inl (Eq.refl [])) hdigits
  rw [hdenotes] at hform
  apply Spells.of_integerForm
  rw [Radix.write, String.toList_ofList]
  exact .of_natAbs (.marked hform)

/-- That a text has a marked magnitude between blanks, with or without a sign. -/
def Marked (s : String) : Prop :=
  ∃ before sign magnitude behind, s.toList.map plainChar = before ++ (sign ++ magnitude) ++ behind ∧
    (∀ c ∈ before ++ behind, isNumberBlank c = true) ∧ sign ∈ [[], ['+'], ['-']] ∧
    ∃ n, MarkedForm magnitude n

/-- What has no decimal reading but one by its base is marked. -/
theorem marked_of_readSigned? (hdecimal : readSigned? readDecimalMagnitude? s = none)
    (hbased : readSigned? readBasedMagnitude? s = some k) : Marked s := by
  have hnone : readDecimalMagnitude? (splitSign (plainText s)).2 = none :=
    Option.map_eq_none_iff.mp hdecimal
  obtain ⟨n, hn, _⟩ : ∃ n, readBasedMagnitude? (splitSign (plainText s)).2 = some n ∧ _ :=
    Option.map_eq_some_iff.mp hbased
  have hmarked := or_readBasedMagnitude? (splitSign (plainText s)).2
  rw [hnone, hn, Option.none_or, Option.none_or, eq_comm, readMarkedMagnitude?_eq_some_iff] at hmarked
  have hsign : ∃ sign ∈ [[], ['+'], ['-']], plainText s = sign ++ (splitSign (plainText s)).2 := by
    unfold splitSign
    split <;> simp [*]
  obtain ⟨sign, hsign, htext⟩ := hsign
  obtain ⟨before, behind, hplain, hblank⟩ := exists_trim isNumberBlank (s.toList.map plainChar)
  exact ⟨before, sign, _, behind, htext ▸ hplain, hblank, hsign, n, hmarked⟩

end Numeral

open Numeral

/-- Texts coerce to integers exactly if they spell them, and all others are refused as malformed. The reader
that takes what the decimal one refuses takes marked texts only. Integers are read back from their decimal
texts, if they are not too long, and from their texts in the marked bases. -/
theorem coerceKind_integer_exact :
    (∀ s n, coerceKind .integer s = .ok (.int n) ↔ Spells s n) ∧
      (∀ s, (∀ n, ¬ Spells s n) → ∃ refusal, coerceKind .integer s = .error refusal ∧
        refusal.failure.category = .value) ∧
      (∀ s n, readSigned? readDecimalMagnitude? s = none →
        readSigned? readBasedMagnitude? s = some n → Marked s) ∧
      (∀ n : Int, (Nat.toDigits 10 n.natAbs).length ≤ 4300 →
        coerceKind .integer (toString n) = .ok (.int n)) ∧
      ∀ (radix : Radix) (n : Int), coerceKind .integer (radix.write n) = .ok (.int n) := by
  have hexact : ∀ s n, coerceKind .integer s = .ok (.int n) ↔ Spells s n := by
    intro s n
    rw [← readInteger?_eq_some_iff, coerceKind]
    cases readInteger? s <;> simp
  refine ⟨hexact, ?_, ?_, ?_, ?_⟩
  · intro s hnone
    have hread : readInteger? s = none :=
      Option.eq_none_iff_forall_ne_some.mpr fun n hn => hnone n (readInteger?_eq_some_iff.mp hn)
    exact ⟨.invalidInteger s, by rw [coerceKind, hread], rfl⟩
  · exact fun s n => marked_of_readSigned?
  · exact fun n hfew => (hexact _ n).mpr (spells_toString hfew)
  · exact fun radix n => (hexact _ n).mpr (spells_write radix n)

end CommandLine
