import Mathlib.Data.List.DropRight
import Mathlib.Data.List.Forall2
import CommandLine.Parameter.Declaration
import CommandLine.Parameter.Display
import CommandLine.Proofs.Checked
import CommandLine.Proofs.Naming

namespace CommandLine

open Text

/-- A text is blank if nothing of it is left when it is trimmed. -/
theorem Text.strip_eq_empty_iff {s : String} : strip s = "" ↔ ∀ c ∈ s.toList, isBlank c = true := by
  rw [strip, String.ofList_eq_empty_iff, trim, List.reverse_eq_nil_iff, List.dropWhile_eq_nil_iff]
  constructor
  · intro hrest
    refine List.dropWhile_eq_nil_iff.mp (by_contra fun hne => ?_)
    have hhead := List.head_dropWhile_not isBlank hne
    rw [hrest _ (List.mem_reverse.mpr (List.head_mem hne))] at hhead
    cases hhead
  · intro hall c hc
    rw [List.mem_reverse] at hc
    exact hall c (List.dropWhile_subset isBlank hc)

namespace Spelling

/-- The name of a long spelling. -/
def long? : Spelling → Option String
  | long name => some name
  | short _ => none

/-- The name of a short spelling. -/
def short? : Spelling → Option Char
  | long _ => none
  | short name => some name

/-- That a value gives a spelling: it is a text, and without the blanks around it the spelling. A long name
has the form of one, and a short name is one word character and no decimal digit. -/
inductive GivenBy : Spelling → Value → Prop
  | long {given name : String} (htext : strip given = "--" ++ name) (hform : LongForm name.toList) :
    GivenBy (.long name) (.text given)
  | short {given : String} {c : Char} (htext : strip given = String.ofList ['-', c])
    (hword : isWord c = true) (hdecimal : isDecimal c = false) : GivenBy (.short c) (.text given)

/-- A valid spelling is read back from its text. -/
theorem ofText?_text {spelling : Spelling} (hvalid : spelling.Valid) :
    ofText? spelling.text = some spelling := by
  cases spelling with
  | long name =>
    have hname : isLongName name.toList = true := hvalid
    obtain ⟨c, rest, hchars⟩ : ∃ c rest, name.toList = c :: rest := by
      refine List.exists_cons_of_ne_nil fun hnil => ?_
      rw [hnil] at hname
      cases hname
    have htext : (long name).text.toList = '-' :: '-' :: c :: rest := by
      simp [text, hchars]
    rw [hchars] at hname
    rw [ofText?, htext]
    simp only [hname, if_true]
    rw [← hchars, String.ofList_toList]
  | short c =>
    have hletter : isLetter c = true := hvalid
    simp [ofText?, text, hletter]

/-- A value gives a spelling if it is its text, blanks around it aside. -/
theorem givenBy_iff {spelling : Spelling} {value : Value} :
    spelling.GivenBy value ↔ ∃ given, value = .text given ∧ ofText? (strip given) = some spelling := by
  constructor
  · intro h
    cases h with
    | @long given name htext hform =>
      have hvalid : (long name).Valid := isLongName_iff_longForm.mpr hform
      have hstrip : strip given = (long name).text := htext
      exact ⟨given, rfl, by rw [hstrip, ofText?_text hvalid]⟩
    | @short given c htext hword hdecimal =>
      have hvalid : (short c).Valid := by simp [Valid, isLetter, hword, hdecimal]
      have hstrip : strip given = (short c).text := htext
      exact ⟨given, rfl, by rw [hstrip, ofText?_text hvalid]⟩
  · rintro ⟨given, rfl, h⟩
    have hvalid := valid_of_ofText? h
    have htext := (text_of_ofText? h).symm
    cases spelling with
    | long name => exact .long htext (isLongName_iff_longForm.mp hvalid)
    | short c =>
      simp only [Valid, isLetter, Bool.and_eq_true, Bool.not_eq_true'] at hvalid
      exact .short htext hvalid.1 hvalid.2

theorem valid_of_givenBy {spelling : Spelling} {value : Value} (h : spelling.GivenBy value) :
    spelling.Valid := by
  obtain ⟨_, _, h⟩ := givenBy_iff.mp h
  exact valid_of_ofText? h

/-- The long names among spellings. -/
theorem mem_filterMap_long? {spellings : List Spelling} {name : String} :
    name ∈ spellings.filterMap long? ↔ long name ∈ spellings := by
  have hlong : ∀ spelling : Spelling, spelling.long? = some name ↔ spelling = long name := by
    intro spelling
    cases spelling <;> simp [long?]
  simp only [List.mem_filterMap, hlong, exists_eq_right]

theorem mem_filterMap_short? {spellings : List Spelling} {name : Char} :
    name ∈ spellings.filterMap short? ↔ short name ∈ spellings := by
  have hshort : ∀ spelling : Spelling, spelling.short? = some name ↔ spelling = short name := by
    intro spelling
    cases spelling <;> simp [short?]
  simp only [List.mem_filterMap, hshort, exists_eq_right]

/-- No spelling is there twice if no long name is and no short one. -/
theorem nodup_iff {spellings : List Spelling} :
    spellings.Nodup ↔
      (spellings.filterMap long?).Nodup ∧ (spellings.filterMap short?).Nodup := by
  induction spellings with
  | nil => simp
  | cons spelling rest ih =>
    rw [List.nodup_cons, ih]
    cases spelling with
    | long name =>
      rw [← mem_filterMap_long?, ← and_assoc, ← List.nodup_cons]
      rfl
    | short c =>
      rw [← mem_filterMap_short?, and_left_comm, ← List.nodup_cons]
      rfl

/-- Spellings are given if a long or a short name is. -/
theorem ne_nil_iff {spellings : List Spelling} :
    spellings ≠ [] ↔ spellings.filterMap long? ≠ [] ∨ spellings.filterMap short? ≠ [] := by
  constructor
  · intro hne
    obtain ⟨spelling, rest, rfl⟩ := List.exists_cons_of_ne_nil hne
    cases spelling with
    | long name => exact .inl (List.cons_ne_nil name _)
    | short c => exact .inr (List.cons_ne_nil c _)
  · rintro (hne | hne) rfl
    all_goals exact hne rfl

theorem valid_of_forall₂_givenBy {spellings : List Spelling} {values : List Value}
    (h : List.Forall₂ GivenBy spellings values) : ∀ spelling ∈ spellings, spelling.Valid := by
  induction h with
  | nil => exact fun _ hmem => absurd hmem List.not_mem_nil
  | cons hgiven _ ih => exact List.forall_mem_cons.mpr ⟨valid_of_givenBy hgiven, ih⟩

end Spelling

open Spelling

namespace NameSet

/-- That a set of names is another one with the names of spellings behind its own. -/
def Adds (names : NameSet) (spellings : List Spelling) (result : NameSet) : Prop :=
  result.longs = names.longs ++ spellings.filterMap long? ∧
    result.shorts = names.shorts ++ spellings.filterMap short?

variable {names result : NameSet} {spelling : Spelling} {spellings : List Spelling}

theorem adds_nil_iff : names.Adds [] result ↔ result = names := by
  cases names
  cases result
  simp [Adds]

theorem Adds.notMem_longs {name : String} (h : names.Adds (long name :: spellings) result) :
    name ∉ names.longs := by
  have hnodup := result.longs_nodup
  rw [h.1] at hnodup
  exact fun hold => List.disjoint_of_nodup_append hnodup hold List.mem_cons_self

theorem Adds.notMem_shorts {name : Char} (h : names.Adds (short name :: spellings) result) :
    name ∉ names.shorts := by
  have hnodup := result.shorts_nodup
  rw [h.2] at hnodup
  exact fun hold => List.disjoint_of_nodup_append hnodup hold List.mem_cons_self

/-- What can be added at the end of a set of names is what is not there yet. -/
theorem add?_eq_some_iff (hvalid : spelling.Valid) :
    names.add? spelling hvalid = some result ↔ names.Adds [spelling] result := by
  cases spelling with
  | long name =>
    simp only [add?]
    split
    · next hnew =>
      cases result
      simp [Adds, addLong, long?, short?, List.filterMap_cons, eq_comm]
    · next hold => exact iff_of_false nofun fun h => hold h.notMem_longs
  | short c =>
    simp only [add?]
    split
    · next hnew =>
      cases result
      simp [Adds, addShort, long?, short?, List.filterMap_cons, eq_comm]
    · next hold => exact iff_of_false nofun fun h => hold h.notMem_shorts

/-- A value is added if it gives a spelling that is new. -/
theorem addGiven_eq_ok_iff {value : Value} :
    names.addGiven value = .ok result ↔
      ∃ spelling, GivenBy spelling value ∧ names.Adds [spelling] result := by
  simp only [givenBy_iff]
  unfold addGiven
  split
  · next given =>
    simp only [Value.text.injEq, exists_eq_left']
    split
    · next hblank => simp [hblank, ofText?]
    · split
      · next hnone => simp [hnone]
      · next spelling hsome =>
        simp only [hsome, Option.some_inj, exists_eq_left']
        rw [← add?_eq_some_iff (valid_of_ofText? hsome)]
        split
        · next hrefused => simp [hrefused]
        · next hadded => simp [hadded]
  · next hother =>
    refine iff_of_false nofun ?_
    rintro ⟨_, ⟨given, rfl, _⟩, _⟩
    exact hother given rfl

/-- Spellings that are added in two steps can be added in one. -/
theorem Adds.trans {middle : NameSet} {more : List Spelling} (hfirst : names.Adds spellings middle)
    (hmore : middle.Adds more result) : names.Adds (spellings ++ more) result := by
  unfold Adds
  rw [hmore.1, hmore.2, hfirst.1, hfirst.2, List.filterMap_append, List.filterMap_append]
  exact ⟨List.append_assoc .., List.append_assoc ..⟩

/-- The names of several spellings can be added one by one. -/
theorem exists_adds_of_adds_cons (hvalid : spelling.Valid) (h : names.Adds (spelling :: spellings) result) :
    ∃ next, names.Adds [spelling] next ∧ next.Adds spellings result := by
  cases spelling with
  | long name =>
    refine ⟨names.addLong name hvalid h.notMem_longs, ⟨rfl, (List.append_nil _).symm⟩, ?_, h.2⟩
    exact h.1.trans (List.append_cons ..)
  | short c =>
    refine ⟨names.addShort c hvalid h.notMem_shorts, ⟨(List.append_nil _).symm, rfl⟩, h.1, ?_⟩
    exact h.2.trans (List.append_cons ..)

/-- All of the given names are added if each gives a spelling and none of their names comes twice. -/
theorem addAllGiven_eq_ok_iff {values : List Value} :
    names.addAllGiven values = .ok result ↔
      ∃ spellings, List.Forall₂ GivenBy spellings values ∧ names.Adds spellings result := by
  induction values generalizing names with
  | nil => simp [addAllGiven, adds_nil_iff, eq_comm]
  | cons value rest ih =>
    rw [addAllGiven, Except.bind_eq_ok_iff]
    simp only [addGiven_eq_ok_iff, ih]
    constructor
    · rintro ⟨next, ⟨spelling, hspelling, hnext⟩, spellings, hspellings, hresult⟩
      exact ⟨spelling :: spellings, .cons hspelling hspellings, hnext.trans hresult⟩
    · rintro ⟨_, _ | ⟨hspelling, hspellings⟩, hresult⟩
      obtain ⟨next, hnext, hresult⟩ := exists_adds_of_adds_cons (valid_of_givenBy hspelling) hresult
      exact ⟨next, ⟨_, hspelling, hnext⟩, _, hspellings, hresult⟩

/-- Valid spellings make a set of names if none of them comes twice. -/
theorem exists_nameSet (hvalid : ∀ spelling ∈ spellings, spelling.Valid) (hnodup : spellings.Nodup) :
    ∃ names : NameSet, names.longs = spellings.filterMap long? ∧
      names.shorts = spellings.filterMap short? := by
  obtain ⟨hlongs, hshorts⟩ := nodup_iff.mp hnodup
  exact ⟨⟨spellings.filterMap long?, spellings.filterMap short?,
    fun name hmem => hvalid _ (mem_filterMap_long?.mp hmem),
    fun name hmem => hvalid _ (mem_filterMap_short?.mp hmem), hlongs, hshorts⟩, rfl, rfl⟩

end NameSet

/-- That a value gives an arity: neither a text nor a set, with the bounds for its members, the second of
which may be absent. The first is not above the second in any arity. -/
def Arity.GivenBy (arity : Arity) (value : Value) : Prop :=
  (∀ s, value ≠ .text s) ∧ (∀ items, value ≠ .set items) ∧
    value.members? = some [.int arity.minimum, arity.maximumValue]

/-- That a value gives a description: a styled text as it is, or a text that is not blank without the
blanks around it. -/
inductive Description.GivenBy : Description → Value → Prop
  | styled (t : StyledText) : GivenBy (.styled t) (.styled t)
  | plain {given : String} (hgiven : ∃ c ∈ given.toList, isBlank c = false) :
    GivenBy (.plain (strip given)) (.text given)

/-- A refusal is for a wrong type or a malformed value. -/
theorem DeclarationError.category_eq (e : DeclarationError) : e.category = .type ∨ e.category = .value := by
  cases e <;> simp [DeclarationError.category]

namespace Declaration

/-- Only a boolean tells whether a parameter is required; by default it is not. -/
theorem readRequired_eq_ok_iff {value : Option Value} {required : Bool} :
    readRequired value = .ok required ↔
      value = none ∧ required = false ∨ value = some (.bool required) := by
  unfold readRequired
  split
  · simp [eq_comm]
  · simp
  · next v hother =>
    refine iff_of_false nofun ?_
    rintro (⟨⟨⟩, _⟩ | ⟨⟨⟩⟩)
    exact hother required rfl

/-- A fallback is a text or is not given. -/
theorem readFallback_eq_ok_iff {value : Option Value} {fallback : Option String} :
    readFallback value = .ok fallback ↔ value = fallback.map .text := by
  unfold readFallback
  split
  · simp [eq_comm]
  · cases fallback <;> simp
  · next v hother =>
    refine iff_of_false nofun fun h => ?_
    obtain ⟨s, _, rfl⟩ := Option.map_eq_some_iff.mp h.symm
    exact hother s rfl

/-- A position is a number from zero on or is not given. -/
theorem readPosition_eq_ok_iff {value : Option Value} {position : Option Nat} :
    readPosition value = .ok position ↔ value = position.map fun n => .int n := by
  unfold readPosition
  split
  · simp [eq_comm]
  · next n =>
    split
    · next hnegative =>
      refine iff_of_false nofun fun h => ?_
      obtain ⟨k, _, hk⟩ := Option.map_eq_some_iff.mp h.symm
      rw [Value.int.injEq] at hk
      omega
    · next hbound =>
      obtain ⟨k, rfl⟩ := Int.eq_ofNat_of_zero_le (not_lt.mp hbound)
      cases position with
      | none => exact iff_of_false nofun nofun
      | some n =>
        simp only [Int.toNat_natCast, Except.ok.injEq, Option.some_inj, Option.map_some, Value.int.injEq]
        exact Int.natCast_inj.symm
  · next v hother =>
    refine iff_of_false nofun fun h => ?_
    obtain ⟨k, _, rfl⟩ := Option.map_eq_some_iff.mp h.symm
    exact hother k rfl

/-- A bound is an integer and not negative. -/
theorem readBound_eq_ok_iff {value : Value} {bound : Nat} :
    readBound value = .ok bound ↔ value = .int bound := by
  unfold readBound
  split
  · next n =>
    rw [Value.int.injEq]
    split
    · exact iff_of_false nofun (by omega)
    · rw [Except.ok.injEq]
      omega
  · next hother => exact iff_of_false nofun fun h => hother bound h

/-- The upper bound of an arity is read from the value that shows it. -/
theorem readUpperBound_eq_ok_iff {value : Value} {arity : Arity} :
    readUpperBound value = .ok arity.maximum ↔ value = arity.maximumValue := by
  cases hmaximum : arity.maximum with
  | none =>
    have hvalue : arity.maximumValue = .none := by rw [Arity.maximumValue, hmaximum]
    rw [hvalue]
    unfold readUpperBound
    split
    · exact iff_of_true rfl rfl
    · next hother =>
      rw [map_eq_pure_bind, Except.bind_eq_ok_iff]
      exact iff_of_false nofun hother
  | some bound =>
    have hvalue : arity.maximumValue = .int bound := by rw [Arity.maximumValue, hmaximum]
    rw [hvalue, ← readBound_eq_ok_iff]
    unfold readUpperBound
    split
    · exact iff_of_false nofun nofun
    · rw [map_eq_pure_bind, Except.bind_eq_ok_iff]
      simp [pure, Except.pure]

/-- Bounds make an arity if they are those of one, which has them in order. -/
theorem arityOf_eq_ok_iff {minimum : Nat} {maximum : Option Nat} {arity : Arity} :
    arityOf minimum maximum = .ok arity ↔ arity.minimum = minimum ∧ arity.maximum = maximum := by
  unfold arityOf
  split
  · cases arity
    simp [eq_comm]
  · next hreversed =>
    refine iff_of_false nofun ?_
    rintro ⟨rfl, rfl⟩
    exact hreversed arity.ordered

/-- A pair is given by any value with members except a text and a set. -/
theorem pairMembers?_eq_some_iff {value : Value} {items : List Value} :
    pairMembers? value = some items ↔
      (∀ s, value ≠ .text s) ∧ (∀ members, value ≠ .set members) ∧ value.members? = some items := by
  cases value <;> simp [pairMembers?]

/-- An arity is read from two members that are its bounds. -/
theorem readArity_eq_ok_iff {value : Option Value} {arity : Option Arity} :
    readArity value = .ok arity ↔ Option.Rel Arity.GivenBy arity value := by
  cases value with
  | none =>
    constructor
    · rintro ⟨⟩
      exact .none
    · rintro ⟨⟩
      rfl
  | some value =>
    simp only [readArity]
    constructor
    · intro h
      split at h
      · next minimum maximum hmembers =>
        obtain ⟨least, hminimum, h⟩ := Except.bind_eq_ok_iff.mp h
        obtain ⟨greatest, hmaximum, h⟩ := Except.bind_eq_ok_iff.mp h
        rw [map_eq_pure_bind] at h
        obtain ⟨given, hgiven, ⟨⟩⟩ := Except.bind_eq_ok_iff.mp h
        obtain ⟨rfl, rfl⟩ := arityOf_eq_ok_iff.mp hgiven
        obtain ⟨htext, hset, hmembers⟩ := pairMembers?_eq_some_iff.mp hmembers
        refine .some ⟨htext, hset, ?_⟩
        rw [hmembers, readBound_eq_ok_iff.mp hminimum, readUpperBound_eq_ok_iff.mp hmaximum]
      · cases h
    · rintro (hgiven | _)
      rename_i given
      have hmembers := pairMembers?_eq_some_iff.mpr hgiven
      have hminimum := readBound_eq_ok_iff.mpr (rfl : Value.int given.minimum = _)
      have hmaximum := readUpperBound_eq_ok_iff.mpr (rfl : given.maximumValue = _)
      have harity : arityOf given.minimum given.maximum = .ok given := arityOf_eq_ok_iff.mpr ⟨rfl, rfl⟩
      simp only [hmembers, hminimum, hmaximum]
      change some <$> arityOf given.minimum given.maximum = .ok (some given)
      rw [harity]
      rfl

/-- A description is a text that is not blank, a styled text, or not given. -/
theorem readDescription_eq_ok_iff {value : Option Value} {description : Option Description} :
    readDescription value = .ok description ↔ Option.Rel Description.GivenBy description value := by
  have hblank : ∀ s : String, strip s ≠ "" ↔ ∃ c ∈ s.toList, isBlank c = false := by
    simp only [ne_eq, strip_eq_empty_iff, not_forall, Bool.not_eq_true, exists_prop, implies_true]
  constructor
  · intro h
    unfold readDescription at h
    split at h
    · cases h
      exact .none
    · cases h
      exact .some (.styled _)
    · split at h
      · cases h
      · next hne =>
        cases h
        exact .some (.plain ((hblank _).mp hne))
    · cases h
  · rintro (hgiven | _)
    · obtain _ | hgiven := hgiven
      · rfl
      · rw [readDescription, if_neg ((hblank _).mpr hgiven)]
    · rfl

/-- A type is read if the annotation describes one, whatever the refusal is called. -/
theorem describe_mapError_eq_ok_iff {a : Annotation} {t : Descriptor} :
    a.describe.mapError DeclarationError.typeUnknown = .ok t ↔ a.describe = .ok t := by
  cases a.describe <;> simp [Except.mapError]

/-- The parameter that a declaration stands for, whatever its key. -/
structure Declares (d : Declaration) (p : Parameter) : Prop where
  /-- The names stand in the order in which they were given, long and short ones apart. -/
  names : ∃ spellings, List.Forall₂ Spelling.GivenBy spellings d.names ∧
    p.longs = spellings.filterMap long? ∧ p.shorts = spellings.filterMap short?
  type : d.type.describe = .ok p.type
  required : d.required = none ∧ p.required = false ∨ d.required = some (.bool p.required)
  fallback : d.fallback = p.fallback.map .text
  position : d.position = p.position.map fun n => .int n
  arity : Option.Rel Arity.GivenBy p.arity d.arity
  description : Option.Rel Description.GivenBy p.description d.description

/-- A declaration is accepted as the parameter that it stands for. -/
theorem accept_eq_ok_iff {key : Nat} {d : Declaration} {p : Parameter} :
    d.accept key = .ok p ↔ p.key = key ∧ d.Declares p := by
  unfold accept
  simp only [Except.bind_eq_ok_iff, NameSet.addAllGiven_eq_ok_iff, describe_mapError_eq_ok_iff,
    readRequired_eq_ok_iff, readFallback_eq_ok_iff, readPosition_eq_ok_iff, readArity_eq_ok_iff,
    readDescription_eq_ok_iff]
  constructor
  · rintro ⟨names, ⟨spellings, hgiven, hlongs, hshorts⟩, type, htype, required, hrequired, fallback,
      hfallback, position, hposition, arity, harity, description, hdescription, h⟩
    split at h
    · cases h
      exact ⟨rfl, ⟨spellings, hgiven, hlongs, hshorts⟩, htype, hrequired, hfallback, hposition, harity,
        hdescription⟩
    · cases h
  · rintro ⟨rfl, ⟨⟨spellings, hgiven, hlongs, hshorts⟩, htype, hrequired, hfallback, hposition, harity,
      hdescription⟩⟩
    refine ⟨⟨p.longs, p.shorts, p.longs_valid, p.shorts_valid, p.longs_nodup, p.shorts_nodup⟩,
      ⟨spellings, hgiven, hlongs, hshorts⟩, p.type, htype, p.required, hrequired, p.fallback, hfallback,
      p.position, hposition, p.arity, harity, p.description, hdescription, ?_⟩
    rw [dif_pos p.named_or_placed]

/-- That every field of a declaration can be read, and that there is a name or a position. -/
structure Acceptable (d : Declaration) : Prop where
  /-- Every name is a spelling, and none of them comes twice. -/
  names : ∃ spellings, List.Forall₂ Spelling.GivenBy spellings d.names ∧ spellings.Nodup
  type : ∃ t, d.type.describe = .ok t
  required : d.required = none ∨ ∃ b, d.required = some (.bool b)
  fallback : d.fallback = none ∨ ∃ s, d.fallback = some (.text s)
  position : d.position = none ∨ ∃ n : Nat, d.position = some (.int n)
  arity : d.arity = none ∨ ∃ value, d.arity = some value ∧ ∃ arity : Arity, arity.GivenBy value
  description : d.description = none ∨
    ∃ value, d.description = some value ∧ ∃ t : Description, t.GivenBy value
  reachable : d.names ≠ [] ∨ d.position ≠ none

theorem exists_rel_iff {α β : Type} {r : α → β → Prop} {y : Option β} :
    (∃ x, Option.Rel r x y) ↔ y = none ∨ ∃ b, y = some b ∧ ∃ a, r a b := by
  constructor
  · rintro ⟨_, h | _⟩
    · exact .inr ⟨_, rfl, _, h⟩
    · exact .inl rfl
  · rintro (rfl | ⟨b, rfl, a, h⟩)
    · exact ⟨none, .none⟩
    · exact ⟨some a, .some h⟩

theorem exists_eq_map_iff {α β : Type} {f : α → β} {y : Option β} :
    (∃ x : Option α, y = x.map f) ↔ y = none ∨ ∃ a, y = some (f a) := by
  constructor
  · rintro ⟨_ | a, rfl⟩
    · exact .inl rfl
    · exact .inr ⟨a, rfl⟩
  · rintro (rfl | ⟨a, rfl⟩)
    · exact ⟨none, rfl⟩
    · exact ⟨some a, rfl⟩

/-- A parameter is reached by its names or by its position. -/
theorem reachable_iff {d : Declaration} {spellings : List Spelling} {position : Option Nat}
    (hnames : List.Forall₂ Spelling.GivenBy spellings d.names)
    (hposition : d.position = position.map fun n => .int n) :
    (spellings.filterMap long? ≠ [] ∨ spellings.filterMap short? ≠ [] ∨ position ≠ none) ↔
      d.names ≠ [] ∨ d.position ≠ none := by
  rw [← or_assoc, ← ne_nil_iff, ← List.length_pos_iff, ← List.length_pos_iff, hnames.length_eq, hposition,
    ne_eq position, ne_eq (position.map _), Option.map_eq_none_iff]

/-- A declaration stands for a parameter of any key if it is acceptable. -/
theorem exists_declares_iff {d : Declaration} (key : Nat) :
    (∃ p, p.key = key ∧ d.Declares p) ↔ d.Acceptable := by
  constructor
  · rintro ⟨p, _, ⟨spellings, hgiven, hlongs, hshorts⟩, htype, hrequired, hfallback, hposition, harity,
      hdescription⟩
    have hreachable := p.named_or_placed
    rw [hlongs, hshorts, reachable_iff hgiven hposition] at hreachable
    exact ⟨⟨spellings, hgiven, nodup_iff.mpr ⟨hlongs ▸ p.longs_nodup, hshorts ▸ p.shorts_nodup⟩⟩,
      ⟨_, htype⟩, hrequired.imp And.left fun h => ⟨_, h⟩, exists_eq_map_iff.mp ⟨_, hfallback⟩,
      exists_eq_map_iff.mp ⟨_, hposition⟩, exists_rel_iff.mp ⟨_, harity⟩,
      exists_rel_iff.mp ⟨_, hdescription⟩, hreachable⟩
  · rintro ⟨⟨spellings, hgiven, hnodup⟩, ⟨type, htype⟩, hrequired, hfallback, hposition, harity,
      hdescription, hreachable⟩
    obtain ⟨names, hlongs, hshorts⟩ :=
      NameSet.exists_nameSet (valid_of_forall₂_givenBy hgiven) hnodup
    obtain ⟨required, hrequired⟩ : ∃ b, d.required = none ∧ b = false ∨ d.required = some (.bool b) := by
      obtain h | ⟨b, h⟩ := hrequired
      · exact ⟨false, .inl ⟨h, rfl⟩⟩
      · exact ⟨b, .inr h⟩
    obtain ⟨fallback, hfallback⟩ := exists_eq_map_iff.mpr hfallback
    obtain ⟨position, hposition⟩ := exists_eq_map_iff.mpr hposition
    obtain ⟨arity, harity⟩ := exists_rel_iff.mpr harity
    obtain ⟨description, hdescription⟩ := exists_rel_iff.mpr hdescription
    rw [← reachable_iff hgiven hposition, ← hlongs, ← hshorts] at hreachable
    exact ⟨{ key, type, required, fallback, position, arity, description
             longs := names.longs
             shorts := names.shorts
             longs_valid := names.longs_valid
             shorts_valid := names.shorts_valid
             longs_nodup := names.longs_nodup
             shorts_nodup := names.shorts_nodup
             named_or_placed := hreachable },
      rfl, ⟨spellings, hgiven, hlongs, hshorts⟩, htype, hrequired, hfallback, hposition, harity,
      hdescription⟩

/-- A declaration is accepted exactly if it is acceptable, and then as the parameter that it stands for; any
other one is refused, for a wrong type or a malformed value. -/
theorem accept_exact (key : Nat) (d : Declaration) :
    ((∃ p, d.accept key = .ok p) ↔ d.Acceptable) ∧
      (∀ p, d.accept key = .ok p ↔ p.key = key ∧ d.Declares p) ∧
        (¬ d.Acceptable → ∃ e, d.accept key = .error e ∧
          ∀ subject, (e.failure subject).category = .type ∨ (e.failure subject).category = .value) := by
  have haccept : (∃ p, d.accept key = .ok p) ↔ d.Acceptable := by
    simp only [accept_eq_ok_iff, exists_declares_iff]
  refine ⟨haccept, fun p => accept_eq_ok_iff, fun hunfit => ?_⟩
  cases h : d.accept key with
  | ok p => exact absurd (haccept.mp ⟨p, h⟩) hunfit
  | error e => exact ⟨e, rfl, fun _ => e.category_eq⟩

end Declaration

end CommandLine
