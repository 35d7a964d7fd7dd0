import CommandLine.Proofs.Labels
import CommandLine.Proofs.Numeral.Digits
import CommandLine.Proofs.Requests

namespace CommandLine

namespace Text

/-- What stands behind the next quote that is not escaped. -/
def behindQuote (quote : Char) : List Char → List Char
  | [] => []
  | '\\' :: _ :: rest => behindQuote quote rest
  | c :: rest => if c = quote then rest else behindQuote quote rest

/-- What stands behind a quoted text. -/
def behindQuoted : List Char → List Char
  | [] => []
  | quote :: rest => behindQuote quote rest

/-- Characters that a quote does not end in: it may stand among them, but escaped. -/
inductive Enclosed (quote : Char) : List Char → Prop where
  | nil : Enclosed quote []
  | plain {c : Char} {cs : List Char} (hquote : c ≠ quote) (hbackslash : c ≠ '\\')
      (hrest : Enclosed quote cs) : Enclosed quote (c :: cs)
  | escaped (c : Char) {cs : List Char} (hrest : Enclosed quote cs) : Enclosed quote ('\\' :: c :: cs)

variable {quote c : Char} {cs ds rest : List Char}

/-- A quoted text goes on behind any character but the quote, a backslash apart. -/
theorem behindQuote_cons (hc : c ≠ '\\') :
    behindQuote quote (c :: rest) = if c = quote then rest else behindQuote quote rest := by
  rw [behindQuote]
  simp [hc]

namespace Enclosed

theorem of_forall (h : ∀ c ∈ cs, c ≠ quote ∧ c ≠ '\\') : Enclosed quote cs := by
  induction cs with
  | nil => exact .nil
  | cons c cs ih =>
    obtain ⟨⟨hquote, hbackslash⟩, hrest⟩ := List.forall_mem_cons.mp h
    exact .plain hquote hbackslash (ih hrest)

/-- Two enclosed texts one behind the other are enclosed. -/
theorem append (hfront : Enclosed quote cs) (hback : Enclosed quote ds) : Enclosed quote (cs ++ ds) := by
  induction hfront with
  | nil => exact hback
  | plain hquote hbackslash _ ih => exact .plain hquote hbackslash ih
  | escaped c _ ih => exact .escaped c ih

/-- Behind an enclosed text and its quote the rest begins. -/
theorem behindQuote_eq (h : Enclosed quote cs) (hquote : quote ≠ '\\') (rest : List Char) :
    behindQuote quote (cs ++ quote :: rest) = rest := by
  induction h with
  | nil => rw [List.nil_append, behindQuote_cons hquote, if_pos rfl]
  | plain hother hbackslash _ ih => rw [List.cons_append, behindQuote_cons hbackslash, if_neg hother, ih]
  | escaped c _ ih => rw [List.cons_append, List.cons_append, behindQuote, ih]

end Enclosed

theorem isAlphanum_of_mem_paddedHex {width n : Nat} (hc : c ∈ paddedHex width n) :
    c.isAlphanum = true := by
  obtain hc | hc := List.mem_append.mp hc
  · rw [List.eq_of_mem_replicate hc]
    rfl
  · obtain ⟨values, hvalues, _⟩ := Numeral.forall₂_toDigits (by decide : 1 < 16) n
    obtain ⟨value, hdigit⟩ := Numeral.exists_value_of_mem hvalues hc
    exact hdigit.isAlphanum (Nat.le_refl 16)

theorem enclosed_paddedHex (hquote : quote.isAlphanum = false) (width n : Nat) :
    Enclosed quote (paddedHex width n) := by
  apply Enclosed.of_forall
  intro c hc
  have halphanum := isAlphanum_of_mem_paddedHex hc
  constructor
  · rintro rfl
    rw [hquote] at halphanum
    cases halphanum
  · rintro rfl
    cases halphanum

/-- An escaped character does not end a quoted text. -/
theorem enclosed_escapeChar (hquote : quote.isAlphanum = false) (c : Char) :
    Enclosed quote (escapeChar quote c) := by
  unfold escapeChar
  split
  case isTrue => exact .escaped c .nil
  case isFalse hplain =>
    push Not at hplain
    have hhex : ∀ mark width, Enclosed quote ('\\' :: mark :: paddedHex width c.toNat) := fun mark width =>
      .escaped mark (enclosed_paddedHex hquote width c.toNat)
    split_ifs
    · exact .escaped 't' .nil
    · exact .escaped 'n' .nil
    · exact .escaped 'r' .nil
    · exact .plain hplain.1 hplain.2 .nil
    all_goals apply hhex

/-- An escaped text does not end a quoted text. -/
theorem enclosed_flatMap_escapeChar (hquote : quote.isAlphanum = false) (cs : List Char) :
    Enclosed quote (cs.flatMap (escapeChar quote)) := by
  induction cs with
  | nil => exact .nil
  | cons c cs ih =>
    rw [List.flatMap_cons]
    exact (enclosed_escapeChar hquote c).append ih

/-- A quoted text ends where it can be told from the front, whatever text it is. -/
theorem behindQuoted_quoted (s : String) (rest : List Char) :
    behindQuoted ((quoted s).toList ++ rest) = rest := by
  have hquote : (quoteFor s.toList).isAlphanum = false ∧ quoteFor s.toList ≠ '\\' := by
    unfold quoteFor
    split <;> decide
  rw [quoted, String.toList_ofList, List.cons_append, List.append_assoc, behindQuoted]
  exact (enclosed_flatMap_escapeChar hquote.1 s.toList).behindQuote_eq hquote.2 rest

end Text

open Text

namespace Fault

/-- What messages say before they mention a parameter. -/
inductive Opening : String → Prop where
  | none : Opening ""
  | required : Opening "required "
  | given (raw : String) : Opening ("value " ++ quoted raw ++ " for ")
  | fallback (raw : String) : Opening ("default value " ++ quoted raw ++ " of ")

/-- A message names a parameter: it mentions it right behind its opening, and goes on with a blank. -/
def Names (message : String) (p : Parameter) : Prop :=
  ∃ opening behind : String, Opening opening ∧ behind.toList.head? = some ' ' ∧
    message = opening ++ p.mention ++ behind

/-- What stands behind the opening of a message, which is told by its first character. -/
def behindOpening (message : List Char) : List Char :=
  match message.head? with
  | some 'r' => message.drop "required ".length
  | some 'v' => (behindQuoted (message.drop "value ".length)).drop " for ".length
  | some 'd' => (behindQuoted (message.drop "default value ".length)).drop " of ".length
  | _ => message

/-- An opening is passed as a whole, and the mention behind it begins. -/
theorem Opening.behindOpening_eq {opening : String} (h : Opening opening) {mention : List Char}
    (hhead : mention.head? = some 'o' ∨ mention.head? = some 'p') :
    behindOpening (opening.toList ++ mention) = mention := by
  cases h with
  | none => obtain hhead | hhead := hhead <;> simp [behindOpening, hhead]
  | required => rfl
  | given raw =>
    have hvalue : "value ".length = 6 := rfl
    have hfor : " for ".length = 5 := rfl
    simp [behindOpening, hvalue, hfor, behindQuoted_quoted]
  | fallback raw =>
    have hdefault : "default value ".length = 14 := rfl
    have hof : " of ".length = 4 := rfl
    simp [behindOpening, hdefault, hof, behindQuoted_quoted]

/-- The message of a fault about a parameter names it. -/
theorem names_parameter {fault : Fault} {p : Parameter} (h : fault.parameter? = some p) :
    Names fault.message p := by
  cases fault with
  | unrecognised => cases h
  | missing q =>
    cases h
    exact ⟨_, _, .required, by simp, rfl⟩
  | notEnough q anchor taken minimum positional =>
    cases h
    unfold message
    simp only [String.append_assoc]
    refine ⟨_, _, .none, ?_, (String.empty_append).symm⟩
    cases positional <;> simp
  | tooMany q anchor taken surplus maximum =>
    cases h
    unfold message
    simp only [String.append_assoc]
    exact ⟨_, _, .none, by simp, (String.empty_append).symm⟩
  | conversion q anchor raw failure =>
    cases h
    cases anchor with
    | none =>
      refine ⟨_, " cannot be converted to " ++ p.type.name, .fallback (",".intercalate raw), by simp, ?_⟩
      unfold message
      simp only [String.append_assoc]
    | some anchor =>
      refine ⟨_, " at " ++ placeText anchor ++ " position cannot be converted to " ++ p.type.name,
        .given (",".intercalate raw), by simp, ?_⟩
      unfold message
      simp only [String.append_assoc]

end Fault

namespace Schema

variable {schema : Schema} {p q : Parameter}

/-- A message names at most one parameter of a schema. -/
theorem eq_of_names (hp : p ∈ schema.parameters) (hq : q ∈ schema.parameters) {message : String}
    (hfirst : Fault.Names message p) (hsecond : Fault.Names message q) : p = q := by
  have hread : ∀ {r : Parameter}, Fault.Names message r →
      ∃ rest, Fault.behindOpening message.toList = r.mention.toList ++ ' ' :: rest := by
    rintro r ⟨opening, behind, hopening, hblank, rfl⟩
    obtain ⟨rest, hbehind⟩ := List.head?_eq_some_iff.mp hblank
    refine ⟨rest, ?_⟩
    rw [String.toList_append, String.toList_append, List.append_assoc, ← hbehind]
    apply hopening.behindOpening_eq
    rw [List.head?_append, r.head?_mention]
    cases r.canonical?.isSome <;> simp
  obtain ⟨xs, hxs⟩ := hread hfirst
  obtain ⟨ys, hys⟩ := hread hsecond
  exact eq_of_mention_eq hp hq (hxs.symm.trans hys)

end Schema

/-- The parameter that a fault is about is one of the schema. -/
theorem parameter_mem_of_mem_faults {converter : Converter} {schema : Schema} {words : List Word}
    {fault : Fault} {p : Parameter} (hfault : fault ∈ (collect converter schema words).faults)
    (habout : fault.parameter? = some p) : p ∈ schema.parameters := by
  obtain ⟨m, hm, rfl, _⟩ | ⟨hmissing, _⟩ := about_cases hfault habout
  · exact parameter_mem_of_mem_made hm
  · exact (mem_missing_iff.mp hmissing).1

/-- The labels of the parameters of a schema are distinct, and so are the mentions of them. The message of a
fault about a parameter names this one of the schema and no other. -/
theorem labels_and_messages_tell_parameters (schema : Schema) :
    (schema.parameters.map Parameter.label).Nodup ∧ (schema.parameters.map Parameter.mention).Nodup ∧
      ∀ (converter : Converter) (texts : List String),
        ∀ fault ∈ (parse converter schema texts).faults, ∀ p, fault.parameter? = some p →
          p ∈ schema.parameters ∧ ∀ q ∈ schema.parameters, Fault.Names fault.message q ↔ q = p := by
  refine ⟨?_, ?_, ?_⟩
  · exact List.Nodup.map_on (fun p hp q hq => Schema.eq_of_label_eq hp hq) schema.nodup_parameters
  · refine List.Nodup.map_on ?_ schema.nodup_parameters
    intro p hp q hq hmention
    have hblank : p.mention.toList ++ ' ' :: [] = q.mention.toList ++ ' ' :: [] := by rw [hmention]
    exact Schema.eq_of_mention_eq hp hq hblank
  · intro converter texts fault hfault p habout
    have hp := parameter_mem_of_mem_faults hfault habout
    have hnames := Fault.names_parameter habout
    refine ⟨hp, fun q hq => ⟨fun hother => Schema.eq_of_names hq hp hother hnames, ?_⟩⟩
    rintro rfl
    exact hnames

/-- A flag for a text and a flag for a number. -/
def textAndNumber : Schema :=
  ⟨[shortFlag 0 'x' (.scalar (.known .string)) rfl, shortFlag 1 'y' (.scalar (.known .integer)) rfl],
    List.pairwise_pair.mpr (compatible_shortFlag (by decide))⟩

/-- A value that looks like the mention of another parameter is not taken for one. -/
theorem mention_in_value_names_nothing :
    let texts := ["-y", "one for option '-x' at"]
    ∃ fault ∈ (parse .standard textAndNumber texts).faults, ∃ p q, textAndNumber.parameters = [q, p] ∧
      fault.parameter? = some p ∧ Fault.Names fault.message p ∧ ¬ Fault.Names fault.message q := by
  intro texts
  let p := shortFlag 1 'y' (.scalar (.known .integer)) rfl
  let q := shortFlag 0 'x' (.scalar (.known .string)) rfl
  have hfaults : (parse .standard textAndNumber texts).faults.map Fault.parameter? = [some p] := by
    decide +kernel
  obtain ⟨fault, hfault, habout⟩ := List.mem_map.mp (hfaults ▸ List.mem_singleton_self (some p))
  obtain ⟨hp, hnames⟩ :=
    (labels_and_messages_tell_parameters textAndNumber).2.2 .standard texts fault hfault p habout
  refine ⟨fault, hfault, p, q, rfl, habout, (hnames p hp).mpr rfl, fun hother => ?_⟩
  have hsame : q = p := (hnames q List.mem_cons_self).mp hother
  exact absurd (congrArg Parameter.key hsame) (by decide)

end CommandLine
