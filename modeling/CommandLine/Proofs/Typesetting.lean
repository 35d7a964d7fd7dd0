import CommandLine.Console.Basic
import Mathlib.Data.List.Basic

namespace CommandLine

namespace StyledText

/-- The text without its style and without spans. -/
def erase (t : StyledText) : StyledText :=
  ⟨t.text, "", []⟩

/-- A text without a style and without spans is what erasing leaves of any text with its characters. -/
theorem eq_erase {t u : StyledText} (htext : t.text = u.text) (hstyle : t.style = "") (hspans : t.spans = []) :
    t = u.erase := by
  cases t
  cases htext
  cases hstyle
  cases hspans
  rfl

/-- That a span is over one of the parts of a text, which gives it its style. -/
def SpanOf (parts : List StyledText) (span : Span) (part : StyledText) : Prop :=
  ∃ before behind, parts = before ++ part :: behind ∧
    span.start = (String.join (before.map text)).length ∧ span.stop = span.start + part.length ∧
      span.style = part.style

/-- A text is put together from parts, and its spans are over those of them that have a style. -/
structure CoveredBy (t : StyledText) (parts : List StyledText) : Prop where
  text : t.text = String.join (parts.map StyledText.text)
  nonempty : ∀ span ∈ t.spans, span.start < span.stop
  within : ∀ span ∈ t.spans, span.stop ≤ t.length
  ordered : t.spans.Pairwise fun a b => a.stop ≤ b.start
  covers : List.Forall₂ (SpanOf parts) t.spans (parts.filter fun part => part.Styled)

/-- Parts without styles have no spans over them. -/
theorem spansFrom_of_plain {parts : List StyledText} (h : ∀ part ∈ parts, part.style = "") (start : Nat) :
    spansFrom start parts = [] := by
  induction parts generalizing start with
  | nil => rfl
  | cons part rest ih =>
    obtain ⟨hpart, hrest⟩ := List.forall_mem_cons.mp h
    have hplain : ¬part.Styled := fun hstyled => hstyled.2 hpart
    rw [spansFrom, if_neg hplain, List.nil_append, ih hrest]

theorem length_join_cons (part : StyledText) (rest : List StyledText) :
    (String.join ((part :: rest).map text)).length =
      part.length + (String.join (rest.map text)).length := by
  rw [List.map_cons, String.join_cons, String.length_append]
  rfl

/-- The spans over parts have characters, and stand where the parts do. -/
theorem bounds_of_mem_spansFrom {parts : List StyledText} {start : Nat} {span : Span}
    (h : span ∈ spansFrom start parts) :
    start ≤ span.start ∧ span.start < span.stop ∧
      span.stop ≤ start + (String.join (parts.map text)).length := by
  induction parts generalizing start with
  | nil => cases h
  | cons part rest ih =>
    rw [length_join_cons]
    obtain hfirst | hlater := List.mem_append.mp h
    · split at hfirst
      · next hstyled =>
        have hchars : 0 < part.length :=
          Nat.pos_of_ne_zero fun hzero => hstyled.1 (String.length_eq_zero_iff.mp hzero)
        rw [List.mem_singleton.mp hfirst]
        dsimp only
        omega
      · cases hfirst
    · have hbounds := ih hlater
      omega

theorem pairwise_spansFrom (parts : List StyledText) (start : Nat) :
    (spansFrom start parts).Pairwise fun a b => a.stop ≤ b.start := by
  induction parts generalizing start with
  | nil => exact .nil
  | cons part rest ih =>
    rw [spansFrom, List.pairwise_append]
    refine ⟨?_, ih _, fun first hfirst later hlater => ?_⟩
    · split
      · exact List.pairwise_singleton ..
      · exact .nil
    · split at hfirst
      · rw [List.mem_singleton.mp hfirst]
        exact (bounds_of_mem_spansFrom hlater).1
      · cases hfirst

/-- One span is over each part with characters and a style, where the part stands. -/
theorem forall₂_spansFrom (before parts : List StyledText) :
    List.Forall₂ (SpanOf (before ++ parts)) (spansFrom (String.join (before.map text)).length parts)
      (parts.filter fun part => part.Styled) := by
  induction parts generalizing before with
  | nil => exact .nil
  | cons part rest ih =>
    have hlater := ih (before ++ [part])
    have hplace : (String.join ((before ++ [part]).map text)).length =
        (String.join (before.map text)).length + part.length := by
      rw [List.map_append, String.join_append, String.length_append]
      simp [length]
    rw [hplace, List.append_assoc, List.singleton_append] at hlater
    rw [spansFrom]
    by_cases hstyled : part.Styled
    · rw [if_pos hstyled, List.filter_cons_of_pos (by simpa using hstyled)]
      exact .cons ⟨before, rest, rfl, rfl, rfl, rfl⟩ hlater
    · rw [if_neg hstyled, List.filter_cons_of_neg (by simpa using hstyled)]
      exact hlater

end StyledText

namespace Typesetter

/-- That a text has no characters which the typesetter does not keep. -/
def Keeps (setter : Typesetter) (t : StyledText) : Prop :=
  ∃ source style, t.text = (setter.ofString source style).text

namespace Lawful

variable {setter : Typesetter} (h : setter.Lawful)

include h

/-- A text that is made without a style is the erased text in any style. -/
theorem ofString_eq_erase (text style : String) :
    setter.ofString text "" = (setter.ofString text style).erase :=
  StyledText.eq_erase (h.text_ofString text "" style) (h.style_ofString text "") (h.spans_ofString text "")

/-- The characters of a text that are all kept make the erased text. -/
theorem ofString_text_eq_erase {t : StyledText} (hkept : setter.Keeps t) :
    setter.ofString t.text "" = t.erase := by
  obtain ⟨source, style, htext⟩ := hkept
  refine StyledText.eq_erase ?_ (h.style_ofString t.text "") (h.spans_ofString t.text "")
  calc
    (setter.ofString t.text "").text = (setter.ofString t.text style).text := h.text_ofString ..
    _ = (setter.ofString (setter.ofString source style).text style).text := by rw [htext]
    _ = t.text := by rw [h.text_ofString_text, htext]

/-- Erasing an assembled text is erasing its parts. -/
theorem assemble_map_erase (parts : List StyledText) :
    setter.assemble (parts.map StyledText.erase) = (setter.assemble parts).erase := by
  have hbare : ∀ part ∈ parts.map StyledText.erase, part.spans = [] :=
    List.forall_mem_map.mpr fun _ _ => rfl
  have hplain : ∀ part ∈ parts.map StyledText.erase, part.style = "" :=
    List.forall_mem_map.mpr fun _ _ => rfl
  refine StyledText.eq_erase ?_ (h.style_assemble _) ?_
  · rw [h.text_assemble, h.text_assemble, List.map_map]
    rfl
  · rw [h.spans_assemble _ hbare, StyledText.spansFrom_of_plain hplain]

/-- The spans of an assembled text are over its parts. -/
theorem coveredBy_assemble {parts : List StyledText} (hbare : ∀ part ∈ parts, part.spans = []) :
    (setter.assemble parts).CoveredBy parts := by
  have hspans := h.spans_assemble parts hbare
  constructor
  case text => exact h.text_assemble parts
  case nonempty =>
    rw [hspans]
    exact fun span hspan => (StyledText.bounds_of_mem_spansFrom hspan).2.1
  case within =>
    rw [hspans, StyledText.length, h.text_assemble]
    intro span hspan
    have hstop := (StyledText.bounds_of_mem_spansFrom hspan).2.2
    rwa [Nat.zero_add] at hstop
  case ordered =>
    rw [hspans]
    exact StyledText.pairwise_spansFrom parts 0
  case covers =>
    rw [hspans]
    exact StyledText.forall₂_spansFrom [] parts

end Lawful

end Typesetter

namespace Console

/-- Parts without spans of their own have one span each at most. -/
theorem spansOf_of_bare {parts : List StyledText} (hbare : ∀ part ∈ parts, part.spans = []) (start : Nat) :
    spansOf start parts = StyledText.spansFrom start parts := by
  induction parts generalizing start with
  | nil => rfl
  | cons part rest ih =>
    obtain ⟨hpart, hrest⟩ := List.forall_mem_cons.mp hbare
    rw [spansOf, StyledText.spansFrom, hpart, ih hrest]
    by_cases htext : part.text = "" <;> by_cases hstyle : part.style = "" <;>
      simp [StyledText.Styled, htext, hstyle]

/-- A console sets texts as reports rely on. -/
theorem lawful (columns : Nat) : (typesetter columns).Lawful where
  style_ofString _ _ := rfl
  spans_ofString _ _ := rfl
  text_ofString _ _ _ := rfl
  text_ofString_text text _ := by
    change String.ofList ((String.ofList (text.toList.filter _)).toList.filter _) = _
    rw [String.toList_ofList, List.filter_filter]
    simp only [Bool.and_self]
    rfl
  style_assemble _ := rfl
  text_assemble _ := rfl
  spans_assemble _ hbare := spansOf_of_bare hbare 0

end Console

end CommandLine
