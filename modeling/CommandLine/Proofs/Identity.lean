import CommandLine.Proofs.Accounting
import CommandLine.Proofs.Coherence
import CommandLine.Proofs.Equality
import CommandLine.Proofs.Match.Account
import CommandLine.Proofs.Match.Anchor
import CommandLine.Report.Notice
import Mathlib.Data.Int.CharZero

namespace CommandLine

/-- The faults that a parse against a schema can come to. The spellings that an undeclared flag may have been
meant for follow from its text, and the bounds that were not kept are those of the parameter. -/
inductive Fault.Arises (schema : Schema) : Fault → Prop where
  | unrecognised (w : Word) : Arises schema (schema.unrecognisedFault w)
  | missing (p : Parameter) : Arises schema (.missing p)
  | short (p : Parameter) (anchor : Word) (taken : List Word) (positional : Bool) :
      Arises schema (.notEnough p anchor taken p.window.minimum positional)
  | overflowing {p : Parameter} (anchor : Word) {taken : List Word} (surplus : List Word)
      (hfull : p.window.maximum = some taken.length) :
      Arises schema (.tooMany p anchor taken surplus taken.length)
  | refused (p : Parameter) (anchor : Option Word) (raw : List String) (failure : Failure) :
      Arises schema (.conversion p anchor raw failure)

/-- A parameter that leaves a surplus has taken as many words as it may. -/
theorem Parameter.length_take_of_surplus {p : Parameter} {run : List Word} {positional : Bool}
    {maximum : Nat} (hmaximum : p.window.maximum = some maximum)
    (hsurplus : Collector.surplusOf p run positional ≠ []) : (p.take run).length = maximum := by
  have htake : p.take run = (p.eligible run).take maximum := by
    unfold take Window.cut
    rw [hmaximum]
  have hbeyond : (p.take run).length < (p.eligible run).length := by
    unfold Collector.surplusOf at hsurplus
    split at hsurplus
    · simpa using hsurplus
    · exact absurd rfl hsurplus
  rw [htake, List.length_take] at hbeyond ⊢
  omega

namespace Match

variable {converter : Converter} {m : Match} {r : RecordedFault}

theorem arises_of_mem_ofRun {p : Parameter} {anchor : Word} {run : List Word} {positional : Bool}
    {earlier : List Request} {ticket : Nat} (schema : Schema)
    (hr : r ∈ (ofRun converter p anchor run positional earlier ticket).trail.recorded) :
    r.fault.Arises schema := by
  rcases Nat.lt_or_ge (p.take run).length p.window.minimum with hshort | henough
  · rw [ofRun_of_short converter anchor positional earlier ticket hshort] at hr
    rw [List.mem_singleton.mp hr]
    exact .short ..
  · obtain ⟨hrecorded, hpending, _⟩ :=
      recorded_ofRun_of_enough converter anchor positional earlier ticket henough
    rw [hrecorded, List.mem_append] at hr
    obtain hr | hr := hr
    · obtain ⟨raw, failure, _, hfault⟩ := fault_of_mem_ofTaken hr
      rw [hfault]
      exact .refused ..
    · rw [Option.mem_toList] at hr
      rw [hr, Option.map_some] at hpending
      obtain ⟨maximum, hmaximum, hsurplus, hfault⟩ := Parameter.overflow?_eq_some hpending.symm
      rw [hfault]
      have hfull := Parameter.length_take_of_surplus hmaximum hsurplus
      subst hfull
      exact .overflowing anchor _ hmaximum

/-- The faults of a match can arise in a parse against any schema. -/
theorem Made.arises (h : Made converter m) (schema : Schema) (hr : r ∈ m.trail.recorded) :
    r.fault.Arises schema := by
  cases h with
  | run => exact arises_of_mem_ofRun schema hr
  | literal =>
    obtain ⟨failure, hfault⟩ := fault_of_mem_ofConversion hr
    rw [hfault]
    exact .refused ..
  | fallback p fallback earlier ticket =>
    obtain hnone | ⟨raw, failure, hrefused⟩ := recorded_ofFallback converter p fallback earlier ticket
    · rw [hnone] at hr
      cases hr
    · rw [hrefused] at hr
      rw [List.mem_singleton.mp hr]
      exact .refused ..

end Match

/-- Every fault of a parse is such as a parse tells. -/
theorem arises_of_mem_faults {converter : Converter} {schema : Schema} {words : List Word} {fault : Fault}
    (hfault : fault ∈ (collect converter schema words).faults) : fault.Arises schema := by
  cases habout : fault.parameter? with
  | none =>
    have hkind : fault.kind = .unrecognised := by
      cases fault with
      | unrecognised => rfl
      | _ => cases habout
    have hmem : fault ∈ (collect converter schema words).faults.filter (·.kind = .unrecognised) :=
      List.mem_filter.mpr ⟨hfault, decide_eq_true hkind⟩
    rw [filter_unrecognised] at hmem
    obtain ⟨w, _, rfl⟩ := List.mem_map.mp hmem
    exact .unrecognised w
  | some p =>
    obtain ⟨m, hm, _, hstands⟩ | ⟨_, rfl⟩ := about_cases hfault habout
    · obtain ⟨r, hr, rfl⟩ := List.mem_map.mp (List.mem_filter.mp hstands).1
      exact (made_of_mem_transcript hm).arises schema hr
    · exact .missing p

namespace Fault

/-- Two faults tell the same, and are hashed by the same key. -/
structure ToldAlike (host : Host) (x y : Fault) : Prop where
  /-- They have one kind, code, title, hint and parameter, the same tokens and suggestions and the same
  failure. -/
  substance : x.substance = y.substance
  message : x.message = y.message
  token : x.token? = y.token?
  place : x.place? = y.place?
  documentation : host.doc? x.code = host.doc? y.code
  key : x.hashKey = y.hashKey

/-- Faults are equal if their identities are. -/
theorem same_iff {x y : Fault} : x.same y = true ↔ x.identity = y.identity :=
  decide_eq_true_iff

theorem equivalence_same : Equivalence fun x y : Fault => x.same y = true where
  refl _ := same_iff.mpr rfl
  symm h := same_iff.mpr (same_iff.mp h).symm
  trans h₁ h₂ := same_iff.mpr ((same_iff.mp h₁).trans (same_iff.mp h₂))

variable {schema : Schema} {x y : Fault}

/-- What does not count for the equality of faults that arise follows from what does. -/
theorem Arises.uncompared_eq (hx : x.Arises schema) (hy : y.Arises schema)
    (hsame : x.identity = y.identity) : x.hint = y.hint ∧ x.suggestions? = y.suggestions? := by
  have hparameter : x.parameter? = y.parameter? := congrArg Identity.parameter hsame
  have htoken : x.token? = y.token? := congrArg Identity.token hsame
  have htokens : x.tokens = y.tokens := congrArg Identity.tokens hsame
  have hkind : x.kind = y.kind := congrArg Identity.kind hsame
  cases hx with
  | unrecognised v =>
    cases hy with
    | unrecognised w =>
      have htext : v.text = w.text := Option.some_inj.mp htoken
      unfold Schema.unrecognisedFault
      rw [htext]
      exact ⟨by cases suggestions w.text schema.longSpellings <;> rfl, rfl⟩
    | _ => cases hkind
  | missing p =>
    cases hy with
    | missing q =>
      cases Option.some_inj.mp hparameter
      exact ⟨rfl, rfl⟩
    | _ => cases hkind
  | short p anchor taken positional =>
    cases hy with
    | short q other words leftover =>
      cases Option.some_inj.mp hparameter
      have hlength : taken.length = words.length := by
        simpa [tokens] using congrArg List.length htokens
      refine ⟨?_, rfl⟩
      unfold hint
      dsimp only
      rw [hlength]
    | _ => cases hkind
  | @overflowing p anchor taken surplus hfull =>
    cases hy with
    | @overflowing q other words others hfull' =>
      cases Option.some_inj.mp hparameter
      -- both took as many words as the parameter may, so the tokens divide at the same place
      have hlength : taken.length = words.length := Option.some_inj.mp (hfull.symm.trans hfull')
      have hall : taken.length + surplus.length = words.length + others.length := by
        simpa [tokens] using congrArg List.length htokens
      have hsurplus : surplus.length = others.length := by omega
      refine ⟨?_, rfl⟩
      unfold hint
      dsimp only
      rw [hsurplus]
    | _ => cases hkind
  | refused p anchor raw failure =>
    cases hy with
    | refused q other texts reason =>
      cases Option.some_inj.mp hparameter
      exact ⟨rfl, rfl⟩
    | _ => cases hkind

/-- Equal faults that parses tell are told alike to every host. -/
theorem Arises.toldAlike (hx : x.Arises schema) (hy : y.Arises schema) (hsame : x.same y = true)
    (host : Host) : x.ToldAlike host y := by
  have hidentity := same_iff.mp hsame
  obtain ⟨hhint, hsuggestions⟩ := hx.uncompared_eq hy hidentity
  have hkind : x.kind = y.kind := congrArg Identity.kind hidentity
  have hcode : x.code = y.code := congrArg Identity.code hidentity
  constructor
  case substance =>
    have hparameter : x.parameter? = y.parameter? := congrArg Identity.parameter hidentity
    have htokens : x.tokens = y.tokens := congrArg Identity.tokens hidentity
    have hfailure : x.failure? = y.failure? := congrArg Identity.failure hidentity
    simp only [substance, title, hkind, hcode, hhint, hparameter, htokens, hsuggestions, hfailure]
  case message => exact congrArg Identity.message hidentity
  case token => exact congrArg Identity.token hidentity
  case place => exact congrArg Identity.place hidentity
  case documentation => rw [hcode]
  case key => exact hashKey_eq_of_same hsame

end Fault

namespace Notice

theorem same_text (s t : String) : (Value.text s).same (.text t) = decide (s = t) :=
  beq_eq_decide s t

theorem same_int (a b : Int) : (Value.int a).same (.int b) = decide (a = b) := by
  rw [Bool.eq_iff_iff]
  simp [Value.same, Value.sameNumber, Value.integer?]

theorem sameItems_text (ss ts : List String) :
    Value.sameItems (ss.map .text) (ts.map .text) = decide (ss = ts) := by
  induction ss generalizing ts with
  | nil => cases ts <;> simp [Value.sameItems]
  | cons s rest ih =>
    cases ts with
    | nil => simp [Value.sameItems]
    | cons t others => simp [Value.sameItems, same_text, ih]

theorem sameSubject_parameter (p q : Option Parameter) :
    sameSubject (p.map .parameter) (q.map .parameter) = decide (p = q) := by
  cases p <;> cases q <;> simp [sameSubject]

theorem sameGiven_text (s t : Option String) :
    sameGiven (s.map .text) (t.map .text) = decide (s = t) := by
  cases s <;> cases t <;> simp [sameGiven, same_text]

theorem sameGiven_place (m n : Option Nat) :
    sameGiven (m.map fun n => .int n) (n.map fun n => .int n) = decide (m = n) := by
  cases m <;> cases n <;> simp [sameGiven, same_int]

theorem sameGiven_tokens (ss ts : List String) :
    sameGiven ((Value.tuple (ss.map .text)).members?.map .tuple)
      ((Value.tuple (ts.map .text)).members?.map .tuple) = decide (ss = ts) := by
  simp [sameGiven, Value.members?, Value.same, sameItems_text]

/-- The notices of faults are equal if the faults are, however they are to be rendered. -/
theorem same_ofFault (options other : RenderingOptions) (x y : Fault) :
    (ofFault options x).same (ofFault other y) = x.same y := by
  unfold same Fault.same ofFault
  dsimp only
  rw [sameSubject_parameter, sameGiven_text, sameGiven_place, sameGiven_tokens]
  rw [Bool.eq_iff_iff]
  simp [Fault.identity, and_assoc]

/-- A notice in another style is the notice made in that style. -/
theorem restyle_ofFault (options other : RenderingOptions) (x : Fault) :
    (ofFault options x).restyle other = ofFault other x :=
  rfl

end Notice

/-- Faults of parses against one schema that are equal tell the same and have one hash, whatever the command
lines and the converters. Equality of faults is an equivalence, and a fault stays equal to itself and keeps
its hash however it is to be rendered. -/
theorem parse_faults_told_alike (schema : Schema) (host : Host) :
    (∀ (first second : Converter) (texts others : List String),
      ∀ x ∈ (parse first schema texts).faults, ∀ y ∈ (parse second schema others).faults,
        x.same y = true → x.ToldAlike host y) ∧
      (Equivalence fun x y : Fault => x.same y = true) ∧
        ∀ (x : Fault) (options other : RenderingOptions),
          let notice := Notice.ofFault options x
          (notice.restyle other).same notice = true ∧ (notice.restyle other).hashKey = notice.hashKey := by
  refine ⟨?_, Fault.equivalence_same, ?_⟩
  · intro first second texts others x hx y hy hsame
    have harises : x.Arises schema := arises_of_mem_faults hx
    exact harises.toldAlike (arises_of_mem_faults hy) hsame host
  · intro x options other notice
    constructor
    · rw [Notice.restyle_ofFault, Notice.same_ofFault]
      exact Fault.equivalence_same.refl x
    · rfl

end CommandLine
