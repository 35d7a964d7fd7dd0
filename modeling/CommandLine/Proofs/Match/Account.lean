import CommandLine.Proofs.Match.Group
import CommandLine.Proofs.Relocation

namespace CommandLine

/-- What a fault says apart from the word that it points at: neither the text and the place of that word
nor the message, which tells the place. -/
structure Fault.Substance where
  kind : FaultKind
  code : FaultCode
  title : String
  hint : String
  parameter : Option Parameter
  tokens : List String
  suggestions : Option (List String)
  failure : Option Failure

namespace Fault

/-- The substance of a fault. -/
def substance (fault : Fault) : Substance where
  kind := fault.kind
  code := fault.code
  title := fault.title
  hint := fault.hint
  parameter := fault.parameter?
  tokens := fault.tokens
  suggestions := fault.suggestions?
  failure := fault.failure?

/-- A fault without places: its substance, and the text of the word that it points at, which is read
through `face`. -/
def seen (face : String → String) (fault : Fault) : Substance × Option String :=
  (fault.substance, fault.token?.map face)

section

variable {face : String → String} {v w : Word} (p : Parameter)

/-- Two faults are seen alike if all that does not follow from their kinds is alike. -/
theorem seen_congr {f g : Fault} (hkind : f.kind = g.kind) (hhint : f.hint = g.hint)
    (hparameter : f.parameter? = g.parameter?) (htokens : f.tokens = g.tokens)
    (hsuggestions : f.suggestions? = g.suggestions?) (hfailure : f.failure? = g.failure?)
    (hface : f.token?.map face = g.token?.map face) : f.seen face = g.seen face := by
  simp only [seen, substance, code, title, hkind, hhint, hparameter, htokens, hsuggestions,
    hfailure, hface]

theorem seen_unrecognised (hface : face v.text = face w.text) (suggestions : List String) :
    (unrecognised v suggestions).seen face = (unrecognised w suggestions).seen face := by
  have hhint : (unrecognised v suggestions).hint = (unrecognised w suggestions).hint := by
    cases suggestions <;> rfl
  exact seen_congr rfl hhint rfl rfl rfl rfl (congrArg some hface)

theorem seen_notEnough (hface : face v.text = face w.text) {taken words : List Word}
    (htexts : taken.map Word.text = words.map Word.text) (minimum : Int) (positional : Bool) :
    (notEnough p v taken minimum positional).seen face =
      (notEnough p w words minimum positional).seen face := by
  have hlength : taken.length = words.length := by simpa using congrArg List.length htexts
  have hhint : (notEnough p v taken minimum positional).hint =
      (notEnough p w words minimum positional).hint := by
    unfold hint
    dsimp only
    rw [hlength]
  exact seen_congr rfl hhint rfl htexts rfl rfl (congrArg some hface)

theorem seen_tooMany (hface : face v.text = face w.text) {taken surplus words others : List Word}
    (htaken : taken.map Word.text = words.map Word.text)
    (hsurplus : surplus.map Word.text = others.map Word.text) (maximum : Int) :
    (tooMany p v taken surplus maximum).seen face =
      (tooMany p w words others maximum).seen face := by
  have hlength : surplus.length = others.length := by simpa using congrArg List.length hsurplus
  have hhint : (tooMany p v taken surplus maximum).hint = (tooMany p w words others maximum).hint := by
    unfold hint
    dsimp only
    rw [hlength]
  have htokens : (tooMany p v taken surplus maximum).tokens =
      (tooMany p w words others maximum).tokens := by
    simp only [tokens, List.map_append, htaken, hsurplus]
  exact seen_congr rfl hhint rfl htokens rfl rfl (congrArg some hface)

/-- A refused conversion is seen alike if the flag is; its tokens are texts. -/
theorem seen_conversion {anchor other : Option Word}
    (hface : anchor.map (face ·.text) = other.map (face ·.text)) (raw : List String)
    (failure : Failure) :
    (conversion p anchor raw failure).seen face = (conversion p other raw failure).seen face := by
  refine seen_congr rfl rfl rfl rfl rfl rfl ?_
  simpa [token?, anchor?, Function.comp_def] using hface

end

end Fault

namespace Converter

/-- Whether a converter answers after some requests as it does after others, at once and from then on. -/
def Confuses (converter : Converter) (first second : List Request) : Prop :=
  ∀ later request,
    converter.convert (first ++ later) request = converter.convert (second ++ later) request

namespace Confuses

variable {converter : Converter} {first second : List Request}

theorem refl (requests : List Request) : converter.Confuses requests requests :=
  fun _ _ => rfl

theorem append (h : converter.Confuses first second) (added : List Request) :
    converter.Confuses (first ++ added) (second ++ added) := by
  intro later request
  rw [List.append_assoc, List.append_assoc]
  exact h (added ++ later) request

/-- A converter that confuses two histories answers alike behind both. -/
theorem convert_eq (h : converter.Confuses first second) (request : Request) :
    converter.convert first request = converter.convert second request := by
  simpa using h [] request

theorem answer_eq (h : converter.Confuses first second) (request : Request) :
    converter.answer first request = converter.answer second request := by
  unfold answer
  rw [h.convert_eq]

end Confuses

/-- A converter without a memory cannot tell any requests from others. -/
theorem Stateless.confuses {converter : Converter} (h : converter.Stateless)
    (first second : List Request) : converter.Confuses first second := by
  intro later request
  rw [h (first ++ later), h (second ++ later)]

end Converter

namespace Match

/-- What a match comes to, without the places of words but for those of the surplus, and with the text
of its flag read through `face`. -/
structure Account where
  parameter : Parameter
  value : Value
  taken : List String
  surplus : List Word
  /-- Whether an overflow waits to be settled. -/
  overflows : Bool
  faults : List (Fault.Substance × Option String)
  requests : List Request

/-- An account whose surplus stands at other places. -/
def Account.move (f : Nat → Nat) (a : Account) : Account :=
  { a with surplus := a.surplus.map (·.move f) }

/-- The account of a match. -/
def account (face : String → String) (m : Match) : Account where
  parameter := m.parameter
  value := m.resolution.value
  taken := m.taken.map Word.text
  surplus := m.resolution.surplus
  overflows := m.resolution.pending.isSome
  faults := m.trail.recorded.map (·.fault.seen face)
  requests := m.trail.requests

section

variable {face : String → String} {converter : Converter} {v w : Word} {first second : List Request}
  (f : Nat → Nat) (p : Parameter) (ticket ticket' : Nat)

/-- A conversion behind confused histories leaves the same faults to be seen. -/
theorem map_seen_ofConversion (hconfused : converter.Confuses first second)
    {anchor known : Option Word} (hface : anchor.map (face ·.text) = known.map (face ·.text))
    (raw : List String) :
    (Trail.ofConversion converter p anchor raw first ticket).recorded.map (·.fault.seen face) =
      (Trail.ofConversion converter p known raw second ticket').recorded.map (·.fault.seen face) := by
  unfold Trail.ofConversion
  rw [hconfused.convert_eq]
  split
  · rfl
  · simp only [List.map_singleton, Fault.seen_conversion p hface]

theorem map_seen_ofTaken (hconfused : converter.Confuses first second)
    (hface : face v.text = face w.text) (taken : List Word) :
    (Trail.ofTaken converter p v (taken.map (·.move f)) first ticket).recorded.map
        (·.fault.seen face) =
      (Trail.ofTaken converter p w taken second ticket').recorded.map (·.fault.seen face) := by
  unfold Trail.ofTaken
  rw [Parameter.rawTexts?_map_move]
  split
  · exact map_seen_ofConversion p ticket ticket' hconfused (by simp [hface]) _
  · rfl

theorem map_seen_overflow? (hface : face v.text = face w.text) (taken surplus : List Word) :
    (p.overflow? v (taken.map (·.move f)) (surplus.map (·.move f))).map (Fault.seen face) =
      (p.overflow? w taken surplus).map (Fault.seen face) := by
  unfold Parameter.overflow?
  cases p.window.maximum with
  | none => rfl
  | some maximum =>
    cases surplus with
    | nil => rfl
    | cons first others =>
      have hseen := Fault.seen_tooMany p hface (Word.map_text_map_move f taken)
        (Word.map_text_map_move f (first :: others)) maximum
      exact congrArg some hseen

/-- A match comes to the same behind a flag that looks the same, over words at other places and after
requests that the converter cannot tell from the others. -/
theorem account_ofRun_move (hconfused : converter.Confuses first second)
    (hface : face v.text = face w.text) (run : List Word) (positional : Bool) :
    (ofRun converter p v (run.map (·.move f)) positional first ticket).account face =
      ((ofRun converter p w run positional second ticket').account face).move f := by
  have htake := p.take_map_move f run
  rcases Nat.lt_or_ge (p.take run).length p.window.minimum with hshort | henough
  · have hshort' : (p.take (run.map (·.move f))).length < p.window.minimum := by
      rwa [htake, List.length_map]
    rw [ofRun_of_short converter v positional first ticket hshort',
      ofRun_of_short converter w positional second ticket' hshort]
    simp only [account, Account.move, Match.parameter, Match.taken, Trail.ofFault, List.map_singleton,
      htake, Word.map_text_map_move, Fault.seen_notEnough p hface (Word.map_text_map_move f _)]
    rfl
  · have henough' : p.window.minimum ≤ (p.take (run.map (·.move f))).length := by
      rwa [htake, List.length_map]
    obtain ⟨hrecorded, hpending, hsurplus, hvalue⟩ :=
      recorded_ofRun_of_enough converter w positional second ticket' henough
    obtain ⟨hrecorded', hpending', hsurplus', hvalue'⟩ :=
      recorded_ofRun_of_enough converter v positional first ticket henough'
    have hrequests := requests_ofRun_of_enough converter w positional second ticket' henough
    have hrequests' := requests_ofRun_of_enough converter v positional first ticket henough'
    rw [htake] at hrecorded' hpending' hvalue' hrequests'
    rw [Collector.surplusOf_map_move] at hpending' hsurplus'
    rw [Parameter.rawTexts?_map_move] at hrequests'
    have hanswer : converter.answerTaken p ((p.take run).map (·.move f)) first =
        converter.answerTaken p (p.take run) second := by
      unfold Converter.answerTaken
      rw [Parameter.rawTexts?_map_move]
      simp only [hconfused.answer_eq]
    have hoverflow := map_seen_overflow? f p hface (p.take run) (Collector.surplusOf p run positional)
    rw [← hpending, ← hpending', Option.map_map, Option.map_map] at hoverflow
    have hpendings := congrArg Option.isSome hoverflow
    have hfaults := congrArg Option.toList hoverflow
    rw [Option.isSome_map, Option.isSome_map] at hpendings
    rw [Option.toList_map, Option.toList_map] at hfaults
    simp only [account, Account.move, Account.mk.injEq, parameter_ofRun, taken_ofRun, htake,
      Word.map_text_map_move, hsurplus, hsurplus', hvalue, hvalue', hanswer, hpendings, hrequests,
      hrequests', hrecorded, hrecorded', List.map_append,
      map_seen_ofTaken f p ticket ticket' hconfused hface, true_and, and_true]
    exact congrArg _ hfaults

theorem account_ofLiteral_move (hconfused : converter.Confuses first second)
    (hface : face v.text = face w.text) (literal : Word) :
    (ofLiteral converter p v (literal.move f) first ticket).account face =
      ((ofLiteral converter p w literal second ticket').account face).move f := by
  have hanchor : (some v).map (face ·.text) = (some w).map (face ·.text) := congrArg some hface
  have hfaults := map_seen_ofConversion p ticket ticket' hconfused hanchor [literal.text]
  simp only [account, Account.move, ofLiteral, Word.text_move, hconfused.answer_eq,
    Trail.requests_ofConversion, hfaults]
  rfl

theorem account_ofFallback_move (hconfused : converter.Confuses first second) (fallback : String) :
    (ofFallback converter p fallback first ticket).account face =
      ((ofFallback converter p fallback second ticket').account face).move f := by
  have hanchor : (none : Option Word).map (face ·.text) = (none : Option Word).map (face ·.text) := rfl
  have hfaults := map_seen_ofConversion p ticket ticket' hconfused hanchor (p.fallbackTokens fallback)
  simp only [account, Account.move, ofFallback, Trail.recorded_append, Trail.requests_append,
    List.map_append, Trail.requests_ofConversion, hconfused.answer_eq, hfaults]
  rfl

theorem requests_eq_of_account {m n : Match} (h : m.account face = (n.account face).move f) :
    m.trail.requests = n.trail.requests :=
  congrArg Account.requests h

/-- A match that comes to the same as one that cannot overflow cannot overflow. -/
theorem pending_eq_none_of_account {m n : Match} (h : m.account face = (n.account face).move f)
    (hpending : n.resolution.pending = none) : m.resolution.pending = none := by
  have hoverflows : m.resolution.pending.isSome = n.resolution.pending.isSome :=
    congrArg Account.overflows h
  rwa [hpending, Option.isSome_none, Option.isSome_eq_false_iff, Option.isNone_iff_eq_none]
    at hoverflows

/-- Matches by one run each have the same accounts at other places. -/
theorem map_account_each_move (hface : face v.text = face w.text) (run : List Word)
    (ps : List Parameter) (hconfused : converter.Confuses first second) :
    (each converter v (run.map (·.move f)) ps first ticket).map (account face) =
      ((each converter w run ps second ticket').map (account face)).map (·.move f) := by
  induction ps generalizing first second ticket ticket' with
  | nil => rfl
  | cons p rest ih =>
    cases rest with
    | nil =>
      simp only [each, List.map_cons, List.map_nil,
        account_ofRun_move f p ticket ticket' hconfused hface run false]
    | cons q others =>
      have hne : q :: others ≠ [] := List.cons_ne_nil q others
      have hhead := account_ofRun_move f p ticket ticket' hconfused hface [] false
      have hrequests := requests_eq_of_account f hhead
      rw [each.eq_3 _ _ _ _ _ _ _ hne, each.eq_3 _ _ _ _ _ _ _ hne]
      simp only [List.map_cons]
      rw [List.map_nil] at hhead hrequests
      rw [hhead, hrequests]
      exact congrArg _ (ih _ _ (hconfused.append _))

theorem map_account_sharing_move (hface : face v.text = face w.text) (literal : Word)
    (ps : List Parameter) (hconfused : converter.Confuses first second) :
    (sharing converter v (literal.move f) ps first ticket).map (account face) =
      ((sharing converter w literal ps second ticket').map (account face)).map (·.move f) := by
  induction ps generalizing first second ticket ticket' with
  | nil => rfl
  | cons p rest ih =>
    have hhead := account_ofLiteral_move f p ticket ticket' hconfused hface literal
    simp only [sharing, List.map_cons]
    rw [hhead, requests_eq_of_account f hhead]
    exact congrArg _ (ih _ _ (hconfused.append _))

/-- The parameters of a flag come to the same behind a flag that looks the same, over words at other
places and after requests that the converter cannot tell from the others. -/
theorem map_account_group_move (hface : face v.text = face w.text) (run : List Word)
    (ps : List Parameter) (hconfused : converter.Confuses first second) :
    (group converter ps v (run.map (·.move f)) first ticket).map (account face) =
      ((group converter ps w run second ticket').map (account face)).map (·.move f) := by
  unfold group
  rw [Collector.broadcastLiteral?_map_move]
  cases Collector.broadcastLiteral? ps run with
  | none => exact map_account_each_move f ticket ticket' hface run ps hconfused
  | some literal => exact map_account_sharing_move f ticket ticket' hface literal ps hconfused

end

/-- How far the matches of a flag reach is told by their accounts. -/
theorem longest_eq_of_accounts (face : String → String) (ms : List Match) :
    longest ms = ((ms.map (account face)).map (·.taken.length)).foldl max 0 := by
  unfold longest
  rw [List.map_map]
  congr 2
  funext m
  exact (List.length_map _).symm

end Match

end CommandLine
