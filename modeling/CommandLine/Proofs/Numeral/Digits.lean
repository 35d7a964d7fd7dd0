import CommandLine.Numeral.Digits
import Mathlib.Data.List.Forall2
import Mathlib.Data.List.TakeWhile
import Mathlib.Data.Nat.Digits.Lemmas

namespace CommandLine.Numeral

open Text

/-- That a character is the digit of a value in a base; letters are digits in either case. -/
def IsDigit (base : Nat) (c : Char) (value : Nat) : Prop :=
  value < base ∧ (c = value.digitChar ∨ c = value.digitChar.toUpper)

/-- Digits of a base and their values: groups of digits with single underscores between them. -/
def DigitForm (base : Nat) (cs : List Char) (values : List Nat) : Prop :=
  ∃ groups : List (List Char), groups ≠ [] ∧ (∀ group ∈ groups, group ≠ []) ∧
    cs = ['_'].intercalate groups ∧ List.Forall₂ (IsDigit base) groups.flatten values

/-- The digits below 0x80, by one check of them all; every other digit is among these. -/
private theorem digitValue?_ofNat : ∀ n < 0x80, ∀ value < 16,
    (digitValue? 16 (Char.ofNat n) = some value ↔
      Char.ofNat n = value.digitChar ∨ Char.ofNat n = value.digitChar.toUpper) := by
  decide +kernel

private theorem toNat_digitChar : ∀ value < 16,
    value.digitChar.toNat < 0x80 ∧ value.digitChar.toUpper.toNat < 0x80 := by
  decide +kernel

variable {base : Nat} {c d : Char} {cs rest : List Char} {value : Nat} {values : List Nat}

/-- Letters and digits in the narrow sense are ASCII. -/
theorem toNat_lt_of_isAlphanum (h : c.isAlphanum = true) : c.toNat < 0x80 := by
  obtain hletter | hdigit := Bool.or_eq_true_iff.mp h
  · obtain hupper | hlower := Bool.or_eq_true_iff.mp hletter
    · have hlast : c.val ≤ 'Z'.val := (of_decide_eq_true hupper).2
      exact Nat.lt_of_le_of_lt (UInt32.le_iff_toNat_le.mp hlast) (by decide)
    · have hlast : c.val ≤ 'z'.val := of_decide_eq_true (Bool.and_eq_true_iff.mp hlower).2
      exact Nat.lt_of_le_of_lt (UInt32.le_iff_toNat_le.mp hlast) (by decide)
  · exact Nat.lt_of_le_of_lt (Char.isDigit_iff_toNat.mp hdigit).2 (by decide)

/-- What has a value as a digit is a letter or a digit. -/
theorem isAlphanum_of_digitValue? (h : digitValue? base c = some value) : c.isAlphanum = true := by
  obtain ⟨hclass, _⟩ := Option.filter_eq_some_iff.mp h
  split at hclass
  · next hdigit => exact Bool.or_eq_true_iff.mpr (.inr hdigit)
  · split at hclass
    · next hlower => exact Bool.or_eq_true_iff.mpr (.inl (Bool.or_eq_true_iff.mpr (.inr hlower)))
    · split at hclass
      · next hupper => exact Bool.or_eq_true_iff.mpr (.inl (Bool.or_eq_true_iff.mpr (.inl hupper)))
      · cases hclass

/-- A character has a value as a digit if it is the digit of that value, in either case. -/
theorem digitValue?_eq_some_iff (hbase : base ≤ 16) :
    digitValue? base c = some value ↔ IsDigit base c value := by
  have hwidest : digitValue? base c = some value ↔ value < base ∧ digitValue? 16 c = some value := by
    simp only [digitValue?, Option.filter_eq_some_iff, decide_eq_true_eq]
    constructor
    · rintro ⟨hvalue, hlt⟩
      exact ⟨hlt, hvalue, by omega⟩
    · rintro ⟨hlt, hvalue, _⟩
      exact ⟨hvalue, hlt⟩
  rw [hwidest, IsDigit, and_congr_right_iff]
  intro hlt
  have hsmall : value < 16 := by omega
  by_cases hascii : c.toNat < 0x80
  · simpa using digitValue?_ofNat c.toNat hascii value hsmall
  · obtain ⟨hlower, hupper⟩ := toNat_digitChar value hsmall
    refine iff_of_false (fun hvalue => hascii ?_) ?_
    · exact toNat_lt_of_isAlphanum (isAlphanum_of_digitValue? hvalue)
    · rintro (rfl | rfl)
      · exact hascii hlower
      · exact hascii hupper

theorem IsDigit.ne_underscore (h : IsDigit base c value) (hbase : base ≤ 16) : c ≠ '_' := by
  rintro rfl
  have hvalue := (digitValue?_eq_some_iff hbase).mpr h
  have hnone : digitValue? base '_' = none := rfl
  rw [hnone] at hvalue
  cases hvalue

/-- Between two digits without an underscore the reader goes on digit by digit. -/
theorem readDigits?_cons (hd : d ≠ '_') :
    readDigits? base (c :: d :: rest) =
      (digitValue? base c).bind fun value => (readDigits? base (d :: rest)).map (value :: ·) := by
  rw [readDigits?]
  · simp [Option.map_eq_bind]
  · simp
  · rintro _ h
    simp at h
    exact hd h.1

/-- Digits without underscores are read as their values. -/
theorem readDigits?_group {group : List Char} (hbase : base ≤ 16) (hne : group ≠ [])
    (h : List.Forall₂ (IsDigit base) group values) : readDigits? base group = some values := by
  induction h with
  | nil => exact absurd rfl hne
  | @cons c value group values hc hgroup ih =>
    have hvalue := (digitValue?_eq_some_iff hbase).mpr hc
    cases hgroup with
    | nil => simp [readDigits?, hvalue]
    | cons hd _ =>
      rw [readDigits?_cons (hd.ne_underscore hbase), hvalue, ih (by simp)]
      rfl

/-- Digits before an underscore are read as their values, in front of those behind it. -/
theorem readDigits?_group_append {group : List Char} (hbase : base ≤ 16) (hne : group ≠ [])
    (h : List.Forall₂ (IsDigit base) group values) :
    readDigits? base (group ++ '_' :: rest) = (readDigits? base rest).map (values ++ ·) := by
  induction h with
  | nil => exact absurd rfl hne
  | @cons c value group values hc hgroup ih =>
    have hvalue := (digitValue?_eq_some_iff hbase).mpr hc
    cases hgroup with
    | nil => simp [readDigits?, hvalue, Option.map_eq_bind]
    | cons hd _ =>
      rw [List.cons_append, List.cons_append, readDigits?_cons (hd.ne_underscore hbase), hvalue,
        ← List.cons_append, ih (by simp)]
      simp [Function.comp_def]

/-- Reading digits accepts digits in groups and nothing else. -/
theorem readDigits?_eq_some_iff (hbase : base ≤ 16) :
    readDigits? base cs = some values ↔ DigitForm base cs values := by
  constructor
  · intro h
    induction cs using readDigits?.induct generalizing values with
    | case1 => simp [readDigits?] at h
    | case2 c =>
      obtain ⟨value, hvalue, rfl⟩ := Option.map_eq_some_iff.mp h
      exact ⟨[[c]], by simp, by simp, by simp, by simpa using (digitValue?_eq_some_iff hbase).mp hvalue⟩
    | case3 c rest ih =>
      simp only [readDigits?, Option.bind_eq_bind, Option.bind_eq_some_iff, Option.some.injEq] at h
      obtain ⟨value, hvalue, values, hrest, rfl⟩ := h
      obtain ⟨groups, hne, hgroups, rfl, hvalues⟩ := ih hrest
      refine ⟨[c] :: groups, by simp, by simpa using hgroups, ?_, ?_⟩
      · rw [List.intercalate_cons_of_ne_nil hne]
        rfl
      · simpa using ⟨(digitValue?_eq_some_iff hbase).mp hvalue, hvalues⟩
    | case4 c rest hmore hnext ih =>
      obtain ⟨d, rest, rfl⟩ := List.exists_cons_of_ne_nil hmore
      rw [readDigits?_cons fun heq => hnext rest (heq ▸ rfl)] at h
      obtain ⟨value, hvalue, hrest⟩ := Option.bind_eq_some_iff.mp h
      obtain ⟨others, hread, rfl⟩ := Option.map_eq_some_iff.mp hrest
      obtain ⟨groups, hne, hgroups, hform, hvalues⟩ := ih hread
      obtain ⟨group, groups, rfl⟩ := List.exists_cons_of_ne_nil hne
      have hothers := (List.forall_mem_cons.mp hgroups).2
      refine ⟨(c :: group) :: groups, by simp, by simpa using hothers, ?_, ?_⟩
      · rw [hform, List.intercalate_cons_cons_left]
      · simpa using ⟨(digitValue?_eq_some_iff hbase).mp hvalue, hvalues⟩
  · rintro ⟨groups, hne, hgroups, rfl, hvalues⟩
    induction groups generalizing values with
    | nil => exact absurd rfl hne
    | cons group groups ih =>
      obtain ⟨hgroup, hothers⟩ := List.forall_mem_cons.mp hgroups
      cases groups with
      | nil => simpa using readDigits?_group hbase hgroup (by simpa using hvalues)
      | cons next groups =>
        have hfront := List.forall₂_take_append _ _ _ hvalues.flip
        have hbehind := List.forall₂_drop_append _ _ _ hvalues.flip
        rw [List.intercalate_cons_cons, List.append_assoc, List.singleton_append,
          readDigits?_group_append hbase hgroup hfront.flip, ih (by simp) hothers hbehind.flip]
        simp

/-- A number starts with a digit. -/
theorem DigitForm.exists_head (h : DigitForm base cs values) :
    ∃ c rest value, cs = c :: rest ∧ IsDigit base c value := by
  obtain ⟨groups, hne, hgroups, rfl, hvalues⟩ := h
  obtain ⟨group, groups, rfl⟩ := List.exists_cons_of_ne_nil hne
  obtain ⟨c, group, rfl⟩ := List.exists_cons_of_ne_nil (hgroups group List.mem_cons_self)
  rw [List.flatten_cons, List.cons_append] at hvalues
  cases hvalues with
  | cons hc _ => exact ⟨c, _, _, List.intercalate_cons_cons_left, hc⟩

/-- Digits are read with the most significant one first, the other way round than `Nat.ofDigits` does. -/
theorem ofDigits_eq (base : Nat) (values : List Nat) :
    ofDigits base values = Nat.ofDigits base values.reverse := by
  rw [Nat.ofDigits_eq_foldr, List.foldr_reverse]
  simp [ofDigits, Nat.add_comm, Nat.mul_comm]

section Blanks

variable {drop : Char → Bool} {before body behind : List Char}

/-- What trimming takes off is to be dropped. -/
theorem exists_trim (drop : Char → Bool) (cs : List Char) :
    ∃ before behind, cs = before ++ trim drop cs ++ behind ∧
      ∀ c ∈ before ++ behind, drop c = true := by
  refine ⟨cs.takeWhile drop, ((cs.dropWhile drop).reverse.takeWhile drop).reverse, ?_, ?_⟩
  · rw [trim, List.append_assoc, ← List.reverse_append, List.takeWhile_append_dropWhile,
      List.reverse_reverse, List.takeWhile_append_dropWhile]
  · intro c hc
    rw [List.mem_append, List.mem_reverse] at hc
    obtain hc | hc := hc
    · exact List.mem_takeWhile_imp hc
    · exact List.mem_takeWhile_imp hc

/-- Trimming drops nothing that is not to be dropped. -/
theorem mem_trim (hc : c ∈ cs) (hkept : drop c = false) : c ∈ trim drop cs := by
  obtain ⟨before, behind, htext, haround⟩ := exists_trim drop cs
  have houter : c ∉ before ++ behind := fun hmem => by simp [haround c hmem] at hkept
  rw [htext] at hc
  grind

theorem dropWhile_append_cons {c : Char} {cs : List Char} (hbefore : ∀ c ∈ before, drop c = true)
    (hc : drop c = false) : (before ++ c :: cs).dropWhile drop = c :: cs := by
  rw [List.dropWhile_append_of_pos hbefore, List.dropWhile_cons_of_neg]
  simp [hc]

/-- Trimming takes off what stands around a body that has nothing to drop. -/
theorem trim_append (hne : body ≠ []) (hbody : ∀ c ∈ body, drop c = false)
    (haround : ∀ c ∈ before ++ behind, drop c = true) : trim drop (before ++ body ++ behind) = body := by
  obtain ⟨hbefore, hbehind⟩ := List.forall_mem_append.mp haround
  obtain ⟨first, rest, hfirst⟩ := List.exists_cons_of_ne_nil hne
  obtain ⟨last, others, hlast⟩ := List.exists_cons_of_ne_nil (List.reverse_ne_nil_iff.mpr hne)
  have hfront : (before ++ body ++ behind).dropWhile drop = body ++ behind := by
    rw [List.append_assoc, hfirst, List.cons_append]
    exact dropWhile_append_cons hbefore (hbody first (hfirst ▸ List.mem_cons_self))
  have hback : (body ++ behind).reverse.dropWhile drop = body.reverse := by
    rw [List.reverse_append, hlast]
    refine dropWhile_append_cons (by simpa using hbehind) (hbody last ?_)
    rw [← List.mem_reverse, hlast]
    exact List.mem_cons_self
  rw [trim, hfront, hback, List.reverse_reverse]

end Blanks

/-- A character that no reader changes: it is ASCII and no blank. -/
def IsSolid (c : Char) : Prop :=
  c.toNat < 0x80 ∧ isNumberBlank c = false

/-- A character that numbers may have: a letter or a digit of ASCII, a point, an underscore or a sign. -/
def IsNumeral (c : Char) : Prop :=
  c.isAlphanum = true ∨ c ∈ ['.', '_', '+', '-']

theorem IsNumeral.solid (h : IsNumeral c) : IsSolid c := by
  have hall : ∀ n < 0x80, (Char.ofNat n).isAlphanum = true → isNumberBlank (Char.ofNat n) = false := by
    decide +kernel
  obtain halphanum | hother := h
  · have hascii := toNat_lt_of_isAlphanum halphanum
    refine ⟨hascii, ?_⟩
    have hblank := hall c.toNat hascii
    rw [Char.ofNat_toNat] at hblank
    exact hblank halphanum
  · simp only [List.mem_cons, List.not_mem_nil, or_false] at hother
    obtain rfl | rfl | rfl | rfl := hother <;> exact ⟨by decide, rfl⟩

theorem IsDigit.isAlphanum (hbase : base ≤ 16) (h : IsDigit base c value) : c.isAlphanum = true :=
  isAlphanum_of_digitValue? ((digitValue?_eq_some_iff hbase).mpr h)

/-- A character of joined groups belongs to a group or joins two. -/
theorem eq_or_mem_of_mem_intercalate {x : Char} {groups : List (List Char)}
    (hc : c ∈ [x].intercalate groups) : c = x ∨ c ∈ groups.flatten := by
  induction groups with
  | nil => simp at hc
  | cons group groups ih =>
    cases groups with
    | nil => exact .inr (by simpa using hc)
    | cons next groups =>
      rw [List.intercalate_cons_cons, List.mem_append, List.mem_append, List.mem_singleton] at hc
      obtain (hgroup | heq) | hothers := hc
      · exact .inr (List.mem_append_left _ hgroup)
      · exact .inl heq
      · obtain heq | hmem := ih hothers
        · exact .inl heq
        · exact .inr (List.mem_append_right _ hmem)

theorem exists_value_of_mem {group : List Char} (h : List.Forall₂ (IsDigit base) group values)
    (hc : c ∈ group) : ∃ value, IsDigit base c value := by
  induction h with
  | nil => cases hc
  | cons hfirst _ ih =>
    obtain rfl | hc := List.mem_cons.mp hc
    · exact ⟨_, hfirst⟩
    · exact ih hc

theorem DigitForm.numeral (hbase : base ≤ 16) (h : DigitForm base cs values) :
    ∀ c ∈ cs, IsNumeral c := by
  obtain ⟨groups, _, _, rfl, hvalues⟩ := h
  intro c hc
  obtain rfl | hdigit := eq_or_mem_of_mem_intercalate hc
  · exact .inr (by decide)
  · obtain ⟨value, hvalue⟩ := exists_value_of_mem hvalues hdigit
    exact .inl (hvalue.isAlphanum hbase)

/-- The digits in which a number is written are digits of the base, and they denote the number. -/
theorem forall₂_toDigits (hlow : 1 < base) (n : Nat) :
    ∃ values, List.Forall₂ (IsDigit base) (Nat.toDigits base n) values ∧
      Nat.ofDigits base values.reverse = n := by
  induction n using Nat.strong_induction_on with
  | _ n ih =>
    rw [Nat.toDigits_eq_if hlow]
    by_cases hlt : n < base
    · rw [if_pos hlt]
      exact ⟨[n], .cons ⟨hlt, .inl rfl⟩ .nil, by simp⟩
    · rw [if_neg hlt]
      obtain ⟨values, hvalues, hdenotes⟩ := ih (n / base) (Nat.div_lt_self (by omega) hlow)
      refine ⟨values ++ [n % base], ?_, ?_⟩
      · exact List.rel_append hvalues (.cons ⟨Nat.mod_lt n (by omega), .inl rfl⟩ .nil)
      · rw [List.reverse_append, List.reverse_singleton, List.singleton_append, Nat.ofDigits_cons,
          hdenotes]
        exact Nat.mod_add_div n base

/-- The digits of a number in a base have the form of digits, and denote the number. -/
theorem exists_digitForm_toDigits (hlow : 1 < base) (n : Nat) :
    ∃ values, DigitForm base (Nat.toDigits base n) values ∧
      values.length = (Nat.toDigits base n).length ∧ Nat.ofDigits base values.reverse = n := by
  obtain ⟨values, hvalues, hdenotes⟩ := forall₂_toDigits hlow n
  exact ⟨values, ⟨[Nat.toDigits base n], by simp, by simp, by simp, by simpa using hvalues⟩,
    hvalues.length_eq.symm, hdenotes⟩

/-- A number is known by its decimal digits. -/
theorem eq_of_toDigits_eq {m n : Nat} (h : Nat.toDigits 10 m = Nat.toDigits 10 n) : m = n := by
  calc
    m = Nat.ofDigitChars 10 (Nat.toDigits 10 m) 0 := Nat.ofDigitChars_ten_toDigits.symm
    _ = Nat.ofDigitChars 10 (Nat.toDigits 10 n) 0 := by rw [h]
    _ = n := Nat.ofDigitChars_ten_toDigits

end CommandLine.Numeral
