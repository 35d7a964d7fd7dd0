import CommandLine.Parameter.Attributes
import Mathlib.Data.List.Basic

namespace CommandLine

namespace Member

variable {m n : Member} {name : String} {content : Content}

section Reading

theorem slotBehind?_eq_none_iff :
    slotBehind? name = none ↔ name ∉ Parameter.fieldNames ∧ name ∉ Parameter.storedNames := by
  unfold slotBehind?
  by_cases hfield : name ∈ Parameter.fieldNames <;> simp [hfield]

/-- No field is shown by the name of another one's slot, nor by the derived attribute. -/
theorem slot_of_field :
    ∀ field ∈ Parameter.fieldNames, field ≠ "label" ∧ "_" ++ field ≠ "label" ∧
      "_" ++ field ∉ Parameter.fieldNames := by
  decide +kernel

theorem storedName_of_field (h : name ∈ Parameter.fieldNames) : "_" ++ name ∈ Parameter.storedNames :=
  List.mem_map_of_mem h

/-- A field is read from the slot behind it. -/
theorem read?_field (m : Member) (h : name ∈ Parameter.fieldNames) :
    m.read? name = m.slots.lookup ("_" ++ name) := by
  rw [read?, if_neg (slot_of_field name h).1, slotBehind?, if_pos h]

theorem read?_slot (m : Member) (h : name ∈ Parameter.storedNames) :
    m.read? name = m.slots.lookup name := by
  obtain ⟨field, hfield, rfl⟩ := List.mem_map.mp h
  obtain ⟨_, hlabel, hother⟩ := slot_of_field field hfield
  rw [read?, if_neg hlabel, slotBehind?, if_neg hother, if_pos h]

/-- Any other attribute is either shared by the family or was added. -/
theorem read?_other (m : Member) (hlabel : name ≠ "label") (hslot : slotBehind? name = none) :
    m.read? name = if name ∈ sharedAttributes m.family then some .shared else m.added.lookup name := by
  rw [read?, if_neg hlabel, hslot]

theorem lookup_cons_of_ne {other : String} {entries : List (String × Content)} (h : other ≠ name) :
    ((name, content) :: entries).lookup other = entries.lookup other := by
  rw [List.lookup_cons, beq_false_of_ne h]

end Reading

/-- What a change that goes through does: it fills a slot, or adds an attribute where there is room. -/
inductive Gains (m : Member) (name : String) (content : Content) : Member → Prop where
  | slot (hslot : name ∈ Parameter.storedNames) :
      Gains m name content { m with slots := (name, content) :: m.slots }
  | added (hroom : m.family ≠ .base) (hlabel : name ≠ "label") (hslot : slotBehind? name = none) :
      Gains m name content { m with added := (name, content) :: m.added }

/-- Storing succeeds exactly if the member gains the attribute. -/
theorem store_eq_ok_iff : m.store name content = .ok n ↔ Gains m name content n := by
  constructor
  · intro h
    unfold store at h
    split at h
    · next hslot =>
      cases h
      exact .slot hslot
    · next hslot =>
      split at h
      · cases h
      · next hfixed =>
        push Not at hfixed
        split at h
        · cases h
        · next hfamily =>
          cases h
          exact .added (by simp [hfamily]) hfixed.1 (slotBehind?_eq_none_iff.mpr ⟨hfixed.2, hslot⟩)
  · rintro (hslot | ⟨hroom, hlabel, hslot⟩)
    · rw [store, if_pos hslot]
    · obtain ⟨hfield, hstored⟩ := slotBehind?_eq_none_iff.mp hslot
      rw [store, if_neg hstored, if_neg (not_or.mpr ⟨hlabel, hfield⟩)]
      cases hfamily : m.family with
      | base => exact absurd hfamily hroom
      | derived => rfl

/-- A change goes through just if it gives an attribute that could not be read. -/
theorem edit_eq_ok_iff {change : AttributeEdit} :
    m.edit change = .ok n ↔
      ∃ name content, change = .assign name content ∧ m.read? name = none ∧ Gains m name content n := by
  cases change with
  | remove name => simp [edit]
  | assign name content =>
    by_cases hread : m.read? name = none
    · simp [edit, hread, store_eq_ok_iff]
    · simp [edit, hread, Option.isSome_iff_ne_none]

/-- What can be read of the first member is read the same of the second. -/
structure Extends (m n : Member) : Prop where
  family : n.family = m.family
  slots : ∀ slot content, m.slots.lookup slot = some content → n.slots.lookup slot = some content
  added : ∀ name content, m.added.lookup name = some content → n.added.lookup name = some content

namespace Extends

theorem refl (m : Member) : m.Extends m :=
  ⟨rfl, fun _ _ h => h, fun _ _ h => h⟩

theorem trans {k : Member} (h : m.Extends n) (hnext : n.Extends k) : m.Extends k where
  family := hnext.family.trans h.family
  slots slot content hread := hnext.slots slot content (h.slots slot content hread)
  added name content hread := hnext.added name content (h.added name content hread)

theorem label? {label : String} (h : m.Extends n) (hlabel : m.label? = some label) :
    n.label? = some label := by
  unfold Member.label? at hlabel ⊢
  obtain ⟨longs, hlongs, hlabel⟩ := Option.bind_eq_some_iff.mp hlabel
  rw [h.slots _ _ hlongs]
  simp only [Option.bind_eq_bind, Option.bind_some] at hlabel ⊢
  cases hlong : longs.firstText? with
  | some name => simpa [hlong] using hlabel
  | none =>
    simp only [hlong] at hlabel ⊢
    obtain ⟨shorts, hshorts, hlabel⟩ := Option.bind_eq_some_iff.mp hlabel
    rw [h.slots _ _ hshorts, Option.bind_some]
    cases hshort : shorts.firstText? with
    | some name => simpa [hshort] using hlabel
    | none =>
      simp only [hshort] at hlabel ⊢
      obtain ⟨position, hposition, hlabel⟩ := Option.bind_eq_some_iff.mp hlabel
      rw [h.slots _ _ hposition]
      exact hlabel

/-- What can be read stays. -/
theorem read? (h : m.Extends n) (hread : m.read? name = some content) : n.read? name = some content := by
  by_cases hlabel : name = "label"
  · unfold Member.read? at hread ⊢
    rw [if_pos hlabel] at hread ⊢
    obtain ⟨label, hfound, rfl⟩ := Option.map_eq_some_iff.mp hread
    rw [h.label? hfound, Option.map_some]
  · cases hslot : slotBehind? name with
    | some slot =>
      simp only [Member.read?, if_neg hlabel, hslot] at hread ⊢
      exact h.slots slot content hread
    | none =>
      rw [read?_other _ hlabel hslot] at hread ⊢
      rw [h.family]
      split at hread
      · next hshared => rwa [if_pos hshared]
      · next hshared =>
        rw [if_neg hshared]
        exact h.added name content hread

end Extends

/-- A member that gains an attribute which could not be read before keeps all it had. -/
theorem extends_of_gains (hread : m.read? name = none) (h : Gains m name content n) : m.Extends n := by
  have hkeeps : ∀ {entries : List (String × Content)}, entries.lookup name = none →
      ∀ other kept, entries.lookup other = some kept →
        ((name, content) :: entries).lookup other = some kept := by
    intro entries hnew other kept hkept
    have hne : other ≠ name := by
      rintro rfl
      rw [hnew] at hkept
      cases hkept
    rwa [lookup_cons_of_ne hne]
  cases h with
  | slot hslot =>
    rw [read?_slot m hslot] at hread
    exact ⟨rfl, hkeeps hread, fun _ _ h => h⟩
  | added _ hlabel hslot =>
    rw [read?_other m hlabel hslot] at hread
    split at hread
    · cases hread
    · exact ⟨rfl, fun _ _ h => h, hkeeps hread⟩

/-- A gained attribute can be read. -/
theorem read?_of_gains (hread : m.read? name = none) (h : Gains m name content n) :
    n.read? name = some content := by
  cases h with
  | slot hslot => rw [read?_slot _ hslot, List.lookup_cons_self]
  | added _ hlabel hslot =>
    rw [read?_other m hlabel hslot] at hread
    split at hread
    · cases hread
    · next hshared => rw [read?_other _ hlabel hslot, if_neg hshared, List.lookup_cons_self]

/-- One change keeps what can be read. -/
theorem extends_after (m : Member) (change : AttributeEdit) : m.Extends (m.after change) := by
  unfold after
  split
  · next n hedit =>
    obtain ⟨name, content, _, hread, hgains⟩ := edit_eq_ok_iff.mp hedit
    exact extends_of_gains hread hgains
  · exact .refl m

/-- A sequence of changes keeps what can be read. -/
theorem extends_run (m : Member) (changes : List AttributeEdit) : m.Extends (m.run changes) := by
  induction changes generalizing m with
  | nil => exact .refl m
  | cons change rest ih => exact (m.extends_after change).trans (ih (m.after change))

/-- The attributes whose changes go through, of a sequence of changes. -/
def accepted (m : Member) (changes : List AttributeEdit) : List String :=
  ((changes.zip (m.editAll changes)).filter fun answered => answered.2.isNone).map fun answered =>
    answered.1.name

theorem accepted_cons_of_ok {change : AttributeEdit} (h : m.edit change = .ok n)
    (rest : List AttributeEdit) : m.accepted (change :: rest) = change.name :: n.accepted rest := by
  simp [accepted, editAll, after, h]

/-- A change that is refused is not accepted, and the member stays as it is. -/
theorem accepted_cons_of_error {change : AttributeEdit} {refusal : AttributeError}
    (h : m.edit change = .error refusal) (rest : List AttributeEdit) :
    m.accepted (change :: rest) = m.accepted rest := by
  simp [accepted, editAll, after, h]

/-- What can be read is not changed any more. -/
theorem notMem_accepted (changes : List AttributeEdit) (hread : m.read? name = some content) :
    name ∉ m.accepted changes := by
  induction changes generalizing m with
  | nil => exact List.not_mem_nil
  | cons change rest ih =>
    cases hedit : m.edit change with
    | error refusal =>
      rw [accepted_cons_of_error hedit]
      exact ih hread
    | ok n =>
      obtain ⟨other, given, rfl, hnew, hgains⟩ := edit_eq_ok_iff.mp hedit
      rw [accepted_cons_of_ok hedit, List.mem_cons, not_or]
      refine ⟨?_, ih ((extends_of_gains hnew hgains).read? hread)⟩
      rintro rfl
      cases hnew.symm.trans hread

/-- A change to an attribute goes through at most once. -/
theorem nodup_accepted (m : Member) (changes : List AttributeEdit) : (m.accepted changes).Nodup := by
  induction changes generalizing m with
  | nil => exact List.nodup_nil
  | cons change rest ih =>
    cases hedit : m.edit change with
    | error refusal =>
      rw [accepted_cons_of_error hedit]
      exact ih m
    | ok n =>
      obtain ⟨name, content, rfl, hnew, hgains⟩ := edit_eq_ok_iff.mp hedit
      rw [accepted_cons_of_ok hedit, List.nodup_cons]
      exact ⟨notMem_accepted rest (read?_of_gains hnew hgains), ih n⟩

/-- All slots of a member are filled. -/
def Complete (m : Member) : Prop :=
  ∀ slot ∈ Parameter.storedNames, ∃ content, m.slots.lookup slot = some content

/-- A complete member stays complete. -/
theorem Complete.extends (hm : m.Complete) (h : m.Extends n) : n.Complete := by
  intro slot hslot
  obtain ⟨content, hcontent⟩ := hm slot hslot
  exact ⟨content, h.slots slot content hcontent⟩

/-- What a complete member does not have is no slot. -/
theorem Complete.notMem_storedNames (hm : m.Complete) (hread : m.read? name = none) :
    name ∉ Parameter.storedNames := by
  intro hslot
  obtain ⟨content, hcontent⟩ := hm name hslot
  rw [read?_slot m hslot, hcontent] at hread
  cases hread

/-- A member of the base family that is complete refuses every change. -/
theorem Complete.edit_base (hm : m.Complete) (hfamily : m.family = .base) (change : AttributeEdit) :
    ∃ refusal, m.edit change = .error refusal := by
  cases hedit : m.edit change with
  | error refusal => exact ⟨refusal, rfl⟩
  | ok n =>
    obtain ⟨name, content, _, hread, hslot | ⟨hroom, _, _⟩⟩ := edit_eq_ok_iff.mp hedit
    · exact absurd hslot (hm.notMem_storedNames hread)
    · exact absurd hfamily hroom

/-- No change to a complete member of the base family goes through. -/
theorem Complete.run_base (hm : m.Complete) (hfamily : m.family = .base) (changes : List AttributeEdit) :
    m.accepted changes = [] ∧ m.run changes = m := by
  induction changes with
  | nil => exact ⟨rfl, rfl⟩
  | cons change rest ih =>
    obtain ⟨refusal, hedit⟩ := hm.edit_base hfamily change
    have hafter : m.after change = m := by simp [after, hedit]
    rw [accepted_cons_of_error hedit, run, List.foldl_cons, hafter]
    exact ih

/-- A complete member of a derived family takes an attribute that it does not have, and nothing else of it
changes. -/
theorem Complete.edit_derived (hm : m.Complete) (hfamily : m.family ≠ .base)
    (hlabel : m.read? "label" ≠ none) (hread : m.read? name = none) (content : Content) :
    ∃ n, m.edit (.assign name content) = .ok n ∧ n.read? name = some content ∧
      ∀ other ≠ name, n.read? other = m.read? other := by
  have hstored := hm.notMem_storedNames hread
  have hfield : name ∉ Parameter.fieldNames := by
    intro hfield
    obtain ⟨kept, hkept⟩ := hm _ (storedName_of_field hfield)
    rw [read?_field m hfield, hkept] at hread
    cases hread
  have hother : name ≠ "label" := by
    rintro rfl
    exact hlabel hread
  have hgains : Gains m name content { m with added := (name, content) :: m.added } :=
    .added hfamily hother (slotBehind?_eq_none_iff.mpr ⟨hfield, hstored⟩)
  refine ⟨_, edit_eq_ok_iff.mpr ⟨name, content, rfl, hread, hgains⟩, read?_of_gains hread hgains, ?_⟩
  intro other hne
  unfold read?
  dsimp only
  rw [lookup_cons_of_ne hne]
  rfl

/-- A field is stored if its slot is empty, and no other field changes. -/
theorem exists_edit_field (hfield : name ∈ Parameter.fieldNames) (hread : m.read? name = none)
    (content : Content) :
    ∃ n, m.edit (.assign ("_" ++ name) content) = .ok n ∧ m.Extends n ∧ n.read? name = some content ∧
      ∀ other ∈ Parameter.fieldNames, other ≠ name → n.read? other = m.read? other := by
  have hstored := storedName_of_field hfield
  have hnew : m.read? ("_" ++ name) = none := by
    rw [read?_slot m hstored, ← read?_field m hfield, hread]
  have hgains : Gains m ("_" ++ name) content { m with slots := ("_" ++ name, content) :: m.slots } :=
    .slot hstored
  refine ⟨_, edit_eq_ok_iff.mpr ⟨_, _, rfl, hnew, hgains⟩, extends_of_gains hnew hgains, ?_, ?_⟩
  · rw [read?_field _ hfield, List.lookup_cons_self]
  · intro other hother hne
    have hslot : "_" ++ other ≠ "_" ++ name := fun heq => hne ((String.append_right_inj "_").mp heq)
    rw [read?_field _ hother, read?_field _ hother, lookup_cons_of_ne hslot]

/-- Storing fields, each once, goes through if their slots are empty. -/
theorem exists_fill {fields : List (String × Content)} (hnodup : (fields.map Prod.fst).Nodup)
    (hfields : ∀ field ∈ fields, field.1 ∈ Parameter.fieldNames)
    (hempty : ∀ field ∈ fields, m.read? field.1 = none) :
    ∃ n, m.fill fields = .ok n ∧ m.Extends n ∧
      ∀ field ∈ fields, n.read? field.1 = some field.2 := by
  induction fields generalizing m with
  | nil => exact ⟨m, rfl, .refl m, fun _ h => absurd h List.not_mem_nil⟩
  | cons field rest ih =>
    obtain ⟨hfield, hothers⟩ := List.forall_mem_cons.mp hfields
    obtain ⟨hread, hunread⟩ := List.forall_mem_cons.mp hempty
    rw [List.map_cons, List.nodup_cons] at hnodup
    obtain ⟨middle, hedit, hmiddle, hstored, hkept⟩ := exists_edit_field hfield hread field.2
    have hstill : ∀ other ∈ rest, middle.read? other.1 = none := by
      intro other hother
      have hne : other.1 ≠ field.1 := fun heq => hnodup.1 (heq ▸ List.mem_map_of_mem hother)
      rw [hkept other.1 (hothers other hother) hne, hunread other hother]
    obtain ⟨n, hfill, hextends, hshown⟩ := ih hnodup.2 hothers hstill
    refine ⟨n, ?_, hmiddle.trans hextends, List.forall_mem_cons.mpr ⟨hextends.read? hstored, hshown⟩⟩
    rw [fill, List.foldlM_cons, hedit]
    exact hfill

/-- A member shows the fields of a parameter and its label. -/
structure Shows (m : Member) (p : Parameter) : Prop where
  fields : ∀ field ∈ p.contents, m.read? field.1 = some field.2
  label : m.read? "label" = some (.value (.text p.label))

variable {p : Parameter}

theorem Shows.extends (hm : m.Shows p) (h : m.Extends n) : n.Shows p :=
  ⟨fun field hfield => h.read? (hm.fields field hfield), h.read? hm.label⟩

/-- The label that is read off from the slots is the label of the parameter. -/
theorem label?_of_fields (h : ∀ field ∈ p.contents, m.read? field.1 = some field.2) :
    m.label? = some p.label := by
  have hslot : ∀ {field : String} {content : Content}, field ∈ Parameter.fieldNames →
      (field, content) ∈ p.contents → m.slots.lookup ("_" ++ field) = some content := by
    intro field content hfield hmem
    rw [← read?_field m hfield, h (field, content) hmem]
  have hlongs : m.slots.lookup "_names" = _ := hslot (by decide) (.head _)
  have hshorts : m.slots.lookup "_short_names" = _ := hslot (by decide) (List.mem_of_getLast? rfl)
  have hposition : m.slots.lookup "_position" = _ :=
    hslot (by decide) (.tail _ (.tail _ (.tail _ (.tail _ (.head _)))))
  unfold label? Parameter.label Parameter.canonical? Parameter.spellings
  rw [hlongs, hshorts, hposition]
  cases hl : p.longs with
  | cons name others => simp [Content.firstText?, Spelling.text]
  | nil =>
    cases hs : p.shorts with
    | cons c others => simp [Content.firstText?, Spelling.text]
    | nil =>
      have hunspelled : p.canonical? = none := p.canonical?_eq_none_iff.mpr ⟨hl, hs⟩
      have hplaced := Parameter.position_ne_none_of_canonical? hunspelled
      obtain ⟨n, hn⟩ := Option.ne_none_iff_exists'.mp hplaced
      have htext : (n : Int).repr = n.repr := rfl
      simp [Content.firstText?, Content.integerText?, Content.given, Parameter.positionText, hn, htext]

/-- A declaration goes through and gives a complete member that shows the parameter. -/
theorem exists_declare (family : Family) (p : Parameter) :
    ∃ m, declare family p = .ok m ∧ m.family = family ∧ m.Complete ∧ m.Shows p := by
  have hnames : p.contents.map Prod.fst =
      ["names", "type", "required", "default", "position", "arity", "description", "short_names"] := rfl
  have hfields : ∀ field ∈ p.contents, field.1 ∈ Parameter.fieldNames := by
    intro field hfield
    have hname := List.mem_map_of_mem (f := Prod.fst) hfield
    rw [hnames] at hname
    exact (by decide : ∀ name ∈ _, name ∈ Parameter.fieldNames) _ hname
  obtain ⟨m, hfill, hextends, hshown⟩ := exists_fill (m := blank family) (hnames ▸ by decide) hfields
    fun field hfield => read?_field _ (hfields field hfield)
  refine ⟨m, hfill, hextends.family, ?_, hshown, ?_⟩
  · intro slot hslot
    obtain ⟨name, hname, rfl⟩ := List.mem_map.mp hslot
    have hmem : name ∈ p.contents.map Prod.fst := by
      rw [hnames]
      exact (by decide : ∀ name ∈ Parameter.fieldNames, name ∈ _) name hname
    obtain ⟨field, hfield, rfl⟩ := List.mem_map.mp hmem
    exact ⟨field.2, by rw [← read?_field m hname, hshown field hfield]⟩
  · rw [read?, if_pos rfl, label?_of_fields hshown, Option.map_some]

end Member

/-- A parameter can be declared as a member of every family, and whatever changes are tried, the member goes
on to show its fields and its label. Removing is always refused, and so is assigning what can be read. Members
of the base family never change; on members of derived families an attribute is assigned once at most, and one
that is not there can be. -/
theorem declared_attributes_stay (family : Family) (p : Parameter) :
    ∃ m, Member.declare family p = .ok m ∧ m.Shows p ∧
      (∀ changes, (m.accepted changes).Nodup ∧
        let n := m.run changes
        n.Shows p ∧
        (∀ name, n.edit (.remove name) = .error (n.readOnly name)) ∧
        (∀ name content, n.read? name ≠ none →
          n.edit (.assign name content) = .error (n.readOnly name)) ∧
        ∀ change refusal, n.edit change = .error refusal → n.after change = n) ∧
      (family = .base → ∀ changes, m.accepted changes = [] ∧ m.run changes = m) ∧
      (family ≠ .base → ∀ changes name content, (m.run changes).read? name = none →
        ∃ n, (m.run changes).edit (.assign name content) = .ok n ∧ n.read? name = some content ∧
          ∀ other ≠ name, n.read? other = (m.run changes).read? other) := by
  obtain ⟨m, hdeclare, hfamily, hcomplete, hshows⟩ := Member.exists_declare family p
  refine ⟨m, hdeclare, hshows, ?_, ?_, ?_⟩
  · intro changes
    refine ⟨m.nodup_accepted changes, hshows.extends (m.extends_run changes), fun name => rfl, ?_, ?_⟩
    · intro name content hread
      rw [Member.edit, if_pos (Option.isSome_iff_ne_none.mpr hread)]
    · intro change refusal hedit
      rw [Member.after, hedit]
  · intro hbase changes
    exact hcomplete.run_base (hfamily.trans hbase) changes
  · intro hderived changes name content hread
    have hextends := m.extends_run changes
    have hroom : (m.run changes).family ≠ .base := by rwa [hextends.family, hfamily]
    have hlabel : (m.run changes).read? "label" ≠ none := by
      rw [(hshows.extends hextends).label]
      exact Option.some_ne_none _
    exact (hcomplete.extends hextends).edit_derived hroom hlabel hread content

/-- A flag with a long name and a short one. -/
def zoneFlag : Parameter where
  key := 0
  longs := ["zone"]
  shorts := ['z']
  type := .unspecified
  required := false
  fallback := none
  position := none
  arity := none
  description := none
  longs_valid := List.forall_mem_singleton.mpr rfl
  shorts_valid := List.forall_mem_singleton.mpr rfl
  longs_nodup := List.nodup_cons.mpr ⟨List.not_mem_nil, List.nodup_nil⟩
  shorts_nodup := List.nodup_cons.mpr ⟨List.not_mem_nil, List.nodup_nil⟩
  named_or_placed := .inl (List.cons_ne_nil "zone" [])

/-- A member of a derived family takes a note, and then no other one in its place. -/
theorem note_added_once :
    ∃ m n, Member.declare (.derived "Noted" none) zoneFlag = .ok m ∧
      m.edit (.assign "note" (.value (.text "first"))) = .ok n ∧
      n.edit (.assign "note" (.value (.text "second"))) = .error (n.readOnly "note") ∧
      n.Shows zoneFlag := by
  obtain ⟨m, hdeclare, _, hstays, _, hroom⟩ := declared_attributes_stay (.derived "Noted" none) zoneFlag
  have hnew : m.read? "note" = none := by
    have hnone : ((Member.declare (.derived "Noted" none) zoneFlag).toOption.map fun m =>
        (m.read? "note").isNone) = some true := by
      decide +kernel
    rw [hdeclare] at hnone
    exact Option.isNone_iff_eq_none.mp (Option.some_inj.mp hnone)
  obtain ⟨n, hedit, hread, _⟩ := hroom (by simp) [] "note" (.value (.text "first")) hnew
  change m.edit _ = .ok n at hedit
  have hrun : m.run [.assign "note" (.value (.text "first"))] = n := by
    change m.after _ = n
    rw [Member.after, hedit]
  obtain ⟨_, hshows, _, hrefused, _⟩ := hstays [.assign "note" (.value (.text "first"))]
  rw [hrun] at hshows hrefused
  refine ⟨m, n, hdeclare, hedit, hrefused "note" _ ?_, hshows⟩
  rw [hread]
  exact Option.some_ne_none _

end CommandLine
