import Mathlib.Data.List.Forall2

namespace CommandLine

variable {α β ε : Type}

/-- A sequence of steps ends well if each of them does. -/
theorem Except.bind_eq_ok_iff {x : Except ε α} {f : α → Except ε β} {b : β} :
    x >>= f = .ok b ↔ ∃ a, x = .ok a ∧ f a = .ok b := by
  cases x <;> simp [bind, Except.bind]

theorem Except.map_eq_ok_iff {x : Except ε α} {f : α → β} {b : β} :
    x.map f = .ok b ↔ ∃ a, x = .ok a ∧ f a = b := by
  cases x <;> simp [Except.map]

theorem mapM_eq_ok_iff {f : α → Except ε β} {xs : List α} {ys : List β} :
    xs.mapM f = .ok ys ↔ List.Forall₂ (fun x y => f x = .ok y) xs ys := by
  induction xs generalizing ys with
  | nil =>
    rw [List.forall₂_nil_left_iff]
    exact ⟨fun h => (Except.ok.inj h).symm, fun h => h ▸ rfl⟩
  | cons x rest ih =>
    rw [List.mapM_cons, Except.bind_eq_ok_iff, List.forall₂_cons_left_iff]
    constructor
    · rintro ⟨y, hfirst, hothers⟩
      obtain ⟨others, hrest, hys⟩ := Except.bind_eq_ok_iff.mp hothers
      exact ⟨y, others, hfirst, ih.mp hrest, (Except.ok.inj hys).symm⟩
    · rintro ⟨y, others, hfirst, hrest, rfl⟩
      exact ⟨y, hfirst, Except.bind_eq_ok_iff.mpr ⟨others, ih.mpr hrest, rfl⟩⟩

/-- Results that are changed one by one are changed all together. -/
theorem mapM_eq_map {f g : α → Except ε β} {change : β → β} {xs : List α}
    (h : ∀ x ∈ xs, f x = (g x).map change) : xs.mapM f = (xs.mapM g).map (List.map change) := by
  induction xs with
  | nil => rfl
  | cons x rest ih =>
    obtain ⟨hfirst, hrest⟩ := List.forall_mem_cons.mp h
    rw [List.mapM_cons, List.mapM_cons, hfirst, ih hrest]
    cases g x with
    | error => rfl
    | ok y => cases rest.mapM g <;> rfl

end CommandLine
