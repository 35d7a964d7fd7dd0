import CommandLine.Proofs.Acceptance
import CommandLine.Word.Stream

namespace CommandLine

open Text

namespace Schema

/-- The word at a place of a command line, with its reading. -/
def classify (s : Schema) (texts : List String) (place : Nat) : Option (Word × Reading) :=
  (Word.ofTexts 0 texts)[place]?.map fun w => (w, s.read w.text)

/-- Whether all of some short names are declared. -/
def Knows (s : Schema) (names : List Char) : Prop :=
  ∀ c ∈ names, ∃ p ∈ s.parameters, c ∈ p.shorts

/-- What a text stands for by the names that a schema declares. -/
inductive Denotes (s : Schema) (text : String) : Reading → Prop where
  | long {p : Parameter} {name : String} (text_eq : text = "--" ++ name)
      (declared : p ∈ s.parameters) (has : name ∈ p.longs) :
    s.Denotes text (.long p)
  | unrecognised {name : String} (text_eq : text = "--" ++ name) (nonempty : name ≠ "")
      (undeclared : ∀ p ∈ s.parameters, name ∉ p.longs) :
    s.Denotes text .unrecognised
  | group {names : List Char} {ps : List Parameter} (text_eq : text = String.ofList ('-' :: names))
      (nonempty : names ≠ [])
      (declared : List.Forall₂ (fun c p => p ∈ s.parameters ∧ c ∈ p.shorts) names ps) :
    s.Denotes text (.group ps)
  /-- Every other text. -/
  | literal (not_long : ∀ name, name ≠ "" → text ≠ "--" ++ name)
      (not_group : ∀ names, names ≠ [] → s.Knows names → text ≠ String.ofList ('-' :: names)) :
    s.Denotes text .literal

/-- The reading of a text with another test for numbers. -/
def readWith (isNumber : List Char → Bool) (s : Schema) (text : String) : Reading :=
  match text.toList with
  | '-' :: '-' :: c :: rest =>
    match s.long? (String.ofList (c :: rest)) with
    | some p => .long p
    | none => .unrecognised
  | ['-', '-'] => .literal
  | '-' :: c :: rest =>
    if isNumber (c :: rest) then .literal
    else
      match s.shorts? (c :: rest) with
      | some ps => .group ps
      | none => .literal
  | _ => .literal

/-- A schema reads by the test whether a number starts. -/
theorem readWith_startsNumber (s : Schema) : s.readWith startsNumber = s.read :=
  rfl

variable {s : Schema} {text : String} {names : List Char} {ps : List Parameter}

theorem toList_long (name : String) : ("--" ++ name).toList = '-' :: '-' :: name.toList := by
  rw [String.toList_append]
  rfl

namespace Knows

/-- Known short names are letters. -/
theorem letters (h : s.Knows names) : ∀ c ∈ names, isLetter c = true := by
  intro c hc
  obtain ⟨p, _, hshort⟩ := h c hc
  exact p.shorts_valid c hshort

/-- Short names are letters, and a number starts with a digit or a point. -/
theorem startsNumber_eq_false (h : s.Knows names) : startsNumber names = false := by
  have hletters := h.letters
  unfold startsNumber
  split
  · have hpoint : isLetter '.' = true := hletters '.' List.mem_cons_self
    exact absurd hpoint (by decide)
  · next c rest _ =>
    refine Bool.eq_false_iff.mpr fun hdecimal => ?_
    have hc := hletters c List.mem_cons_self
    rw [isLetter_eq_false_of_isDecimal hdecimal] at hc
    cases hc
  · rfl

/-- A hyphen is no letter, so what follows two hyphens is no group. -/
theorem ne_long (h : s.Knows names) (name : String) : String.ofList ('-' :: names) ≠ "--" ++ name := by
  intro heq
  have hchars := congrArg String.toList heq
  rw [toList_long, String.toList_ofList, List.cons.injEq] at hchars
  have hhyphen : isLetter '-' = true := h.letters '-' (hchars.2 ▸ List.mem_cons_self)
  exact absurd hhyphen (by decide)

/-- The parameters of known short names can be looked up all at once. -/
theorem exists_shorts? (h : s.Knows names) : ∃ ps, s.shorts? names = some ps := by
  refine Option.ne_none_iff_exists'.mp fun hnone => ?_
  obtain ⟨c, hc, hundeclared⟩ := shorts?_eq_none_iff.mp hnone
  obtain ⟨p, hp⟩ := h c hc
  rw [short?_eq_some_iff_mem.mpr hp] at hundeclared
  cases hundeclared

end Knows

/-- A look-up of short names finds a parameter for each of them, in their order. -/
theorem shorts?_eq_some_iff_forall₂ :
    s.shorts? names = some ps ↔
      List.Forall₂ (fun c p => p ∈ s.parameters ∧ c ∈ p.shorts) names ps := by
  rw [shorts?_eq_some_iff, ← List.forall₂_eq_eq_eq, List.forall₂_map_left_iff,
    List.forall₂_map_right_iff]
  simp only [short?_eq_some_iff_mem]

theorem knows_of_shorts? (h : s.shorts? names = some ps) : s.Knows names := by
  intro c hc
  have hlooked := List.mem_map_of_mem (f := s.short?) hc
  rw [shorts?_eq_some_iff.mp h] at hlooked
  obtain ⟨p, _, hp⟩ := List.mem_map.mp hlooked
  exact ⟨p, short?_eq_some_iff_mem.mp hp.symm⟩

theorem ne_empty_of_mem_longs {p : Parameter} {name : String} (h : name ∈ p.longs) : name ≠ "" := by
  rintro rfl
  exact absurd (p.longs_valid "" h) (by decide)

/-- Whatever test for numbers is made, a text is read as what it denotes, if the test passes no group of
declared names. -/
theorem denotes_readWith {isNumber : List Char → Bool}
    (hnumber : ∀ names, s.Knows names → isNumber names = false) (text : String) :
    s.Denotes text (s.readWith isNumber text) := by
  unfold readWith
  split
  · next c rest htext =>
    have hspelled : text = "--" ++ String.ofList (c :: rest) :=
      String.toList_inj.mp (by rw [htext, toList_long, String.toList_ofList])
    split
    · next p hp =>
      obtain ⟨hdeclared, hname⟩ := long?_eq_some_iff_mem.mp hp
      exact .long hspelled hdeclared hname
    · next hnone =>
      refine .unrecognised hspelled (by simp) fun p hp hname => ?_
      rw [(long?_eq_some_iff hp _).mpr hname] at hnone
      cases hnone
  · next htext =>
    have hspelled : text = "--" ++ "" := String.toList_inj.mp htext
    refine .literal ?_ ?_
    · rintro name hname rfl
      rw [toList_long] at htext
      exact hname (String.toList_eq_nil_iff.mp (by simpa using htext))
    · exact fun names _ hknows heq => hknows.ne_long "" (heq ▸ hspelled)
  · next c rest hlong _ htext =>
    have hspelled : text = String.ofList ('-' :: c :: rest) := by rw [← htext, String.ofList_toList]
    have hnotlong : ∀ name, name ≠ "" → text ≠ "--" ++ name := by
      rintro name hname rfl
      obtain ⟨d, later, hchars⟩ := List.exists_cons_of_ne_nil (mt String.toList_eq_nil_iff.mp hname)
      rw [toList_long, hchars, List.cons.injEq, List.cons.injEq] at htext
      exact hlong d later htext.2.1.symm htext.2.2.symm
    have hnames : ∀ names, text = String.ofList ('-' :: names) → names = c :: rest := by
      rintro names rfl
      rw [String.toList_ofList, List.cons.injEq] at htext
      exact htext.2
    split
    · next hyes =>
      refine .literal hnotlong fun names _ hknows heq => ?_
      rw [← hnames names heq, hnumber names hknows] at hyes
      cases hyes
    · split
      · next ps hps =>
        exact .group hspelled (List.cons_ne_nil _ _) (shorts?_eq_some_iff_forall₂.mp hps)
      · next hnone =>
        refine .literal hnotlong fun names _ hknows heq => ?_
        obtain ⟨ps, hps⟩ := hknows.exists_shorts?
        rw [hnames names heq, hnone] at hps
        cases hps
  · next hlong _ hgroup =>
    refine .literal ?_ ?_
    · rintro name hname rfl
      obtain ⟨d, later, hchars⟩ := List.exists_cons_of_ne_nil (mt String.toList_eq_nil_iff.mp hname)
      exact hlong d later (by rw [toList_long, hchars])
    · rintro names hne _ rfl
      obtain ⟨c, rest, rfl⟩ := List.exists_cons_of_ne_nil hne
      exact hgroup c rest String.toList_ofList

/-- A text denotes one reading. -/
theorem Denotes.eq {first second : Reading} (h : s.Denotes text first) (h' : s.Denotes text second) :
    first = second := by
  have hknows : ∀ {names ps},
      List.Forall₂ (fun c p => p ∈ s.parameters ∧ c ∈ p.shorts) names ps → s.Knows names :=
    fun hps => knows_of_shorts? (shorts?_eq_some_iff_forall₂.mpr hps)
  have hname : ∀ {name other : String}, text = "--" ++ name → text = "--" ++ other → name = other := by
    rintro name other rfl heq
    exact String.append_right_inj _ |>.mp heq
  cases h with
  | long heq hp hhas =>
    cases h' with
    | long heq' hq hhas' =>
      rw [← hname heq heq'] at hhas'
      have hsame := (long?_eq_some_iff hp _).mpr hhas
      rw [(long?_eq_some_iff hq _).mpr hhas'] at hsame
      rw [Option.some_inj.mp hsame]
    | unrecognised heq' _ hnone => exact absurd (hname heq heq' ▸ hhas) (hnone _ hp)
    | group heq' _ hps => exact absurd (heq'.symm.trans heq) ((hknows hps).ne_long _)
    | literal hlong _ => exact absurd heq (hlong _ (ne_empty_of_mem_longs hhas))
  | unrecognised heq hne hnone =>
    cases h' with
    | long heq' hq hhas' => exact absurd (hname heq' heq ▸ hhas') (hnone _ hq)
    | unrecognised => rfl
    | group heq' _ hps => exact absurd (heq'.symm.trans heq) ((hknows hps).ne_long _)
    | literal hlong _ => exact absurd heq (hlong _ hne)
  | group heq hne hps =>
    cases h' with
    | long heq' _ _ => exact absurd (heq.symm.trans heq') ((hknows hps).ne_long _)
    | unrecognised heq' _ _ => exact absurd (heq.symm.trans heq') ((hknows hps).ne_long _)
    | group heq' _ hqs =>
      rw [heq, String.ofList_inj, List.cons.injEq] at heq'
      rw [← heq'.2] at hqs
      have hsame := shorts?_eq_some_iff_forall₂.mpr hps
      rw [shorts?_eq_some_iff_forall₂.mpr hqs] at hsame
      rw [Option.some_inj.mp hsame]
    | literal _ hgroup => exact absurd heq (hgroup _ hne (hknows hps))
  | literal hlong hgroup =>
    cases h' with
    | long heq' _ hhas' => exact absurd heq' (hlong _ (ne_empty_of_mem_longs hhas'))
    | unrecognised heq' hne' _ => exact absurd heq' (hlong _ hne')
    | group heq' hne' hps => exact absurd heq' (hgroup _ hne' (hknows hps))
    | literal => rfl

/-- What a text is read as it denotes. -/
theorem denotes_read (s : Schema) (text : String) : s.Denotes text (s.read text) :=
  denotes_readWith (fun _ => Knows.startsNumber_eq_false) text

/-- A text is read as the one reading that it denotes. -/
theorem read_eq_iff_denotes {reading : Reading} : s.read text = reading ↔ s.Denotes text reading :=
  ⟨fun h => h ▸ s.denotes_read text, (s.denotes_read text).eq⟩

/-- A test for numbers that passes no group of declared names changes no reading. -/
theorem readWith_eq_read {isNumber : List Char → Bool}
    (hnumber : ∀ names, s.Knows names → isNumber names = false) : s.readWith isNumber = s.read :=
  funext fun text => (denotes_readWith hnumber text).eq (s.denotes_read text)

/-- A word is classified by its text alone. -/
theorem classify_eq (s : Schema) (texts : List String) (place : Nat) :
    s.classify texts place = texts[place]?.map fun text => (⟨text, place⟩, s.read text) := by
  simp [classify, Word.ofTexts, List.getElem?_zipIdx, Function.comp_def]

/-- A spelling of a parameter is a flag for it. -/
theorem flag?_read_spelling {p : Parameter} (hp : p ∈ s.parameters) {spelling : Spelling}
    (hspelling : spelling ∈ p.spellings) :
    (s.read spelling.text).flag? = some (.recognised [p]) := by
  obtain hlong | hshort := List.mem_append.mp hspelling
  · obtain ⟨name, hname, rfl⟩ := List.mem_map.mp hlong
    rw [Spelling.text, read_long hp hname]
    rfl
  · obtain ⟨c, hc, rfl⟩ := List.mem_map.mp hshort
    have hdenotes : s.Denotes (Spelling.short c).text (.group [p]) :=
      .group rfl (List.cons_ne_nil _ _) (.cons ⟨hp, hc⟩ .nil)
    rw [read_eq_iff_denotes.mpr hdenotes]
    rfl

/-- A hyphen before known short names bundles them. -/
theorem read_bundle (hne : names ≠ []) (hknows : s.Knows names) :
    ∃ ps, s.read (String.ofList ('-' :: names)) = .group ps := by
  obtain ⟨ps, hps⟩ := hknows.exists_shorts?
  exact ⟨ps, read_eq_iff_denotes.mpr (.group rfl hne (shorts?_eq_some_iff_forall₂.mp hps))⟩

/-- A number behind a hyphen is neither a long name nor a group of declared names. -/
theorem read_number (s : Schema) (hnumber : startsNumber names = true) :
    s.read (String.ofList ('-' :: names)) = .literal := by
  refine read_eq_iff_denotes.mpr (.literal ?_ ?_)
  · intro name _ heq
    have hchars := congrArg String.toList heq
    rw [toList_long, String.toList_ofList, List.cons.injEq] at hchars
    have hhyphen : isDecimal '-' = true := by rwa [hchars.2] at hnumber
    exact absurd hhyphen (by decide)
  · intro others _ hknows heq
    rw [String.ofList_inj, List.cons.injEq] at heq
    rw [heq.2, hknows.startsNumber_eq_false] at hnumber
    cases hnumber

/-- How a schema reads the words of a command line. -/
structure ReadsByNames (s : Schema) : Prop where
  /-- A word is read by its own text, whatever stands around it. -/
  alone : ∀ texts place,
    s.classify texts place = texts[place]?.map fun text => (⟨text, place⟩, s.read text)
  exactly : ∀ text reading, s.read text = reading ↔ s.Denotes text reading
  spelling : ∀ p ∈ s.parameters, ∀ spelling ∈ p.spellings,
    (s.read spelling.text).flag? = some (.recognised [p])
  /-- Declared short names can be bundled behind a hyphen, and do not look like a number there. -/
  bundle : ∀ names, names ≠ [] → s.Knows names →
    startsNumber names = false ∧ ∃ ps, s.read (String.ofList ('-' :: names)) = .group ps
  number : ∀ names, startsNumber names = true → s.read (String.ofList ('-' :: names)) = .literal
  /-- Without a test for numbers every text, numbers too, is read in the same way. -/
  untested : s.readWith (fun _ => false) = s.read

/-- Every schema reads each word by its text and the declared names alone. -/
theorem readsByNames (s : Schema) : s.ReadsByNames where
  alone := s.classify_eq
  exactly _ _ := read_eq_iff_denotes
  spelling _ hp _ hspelling := flag?_read_spelling hp hspelling
  bundle _ hne hknows := ⟨hknows.startsNumber_eq_false, read_bundle hne hknows⟩
  number _ hnumber := s.read_number hnumber
  untested := readWith_eq_read fun _ _ => rfl

end Schema

end CommandLine
