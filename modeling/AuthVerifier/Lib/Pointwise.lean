import Mathlib.Data.List.Forall2

/-! Lists related element by element: `mapM`, `find?`, and a relation carried over another one. -/

set_option autoImplicit false

namespace Pointwise

variable {α β γ ε : Type}

theorem mapM_ok_iff {f : α → Except ε β} {l : List α} {l' : List β} :
    l.mapM f = .ok l' ↔ List.Forall₂ (fun x y => f x = .ok y) l l' := by
  constructor
  · intro h
    induction l generalizing l' with
    | nil =>
      cases h
      exact .nil
    | cons x l ih =>
      rw [List.mapM_cons] at h
      cases hx : f x with
      | error e =>
        rw [hx] at h
        cases h
      | ok y =>
        cases hl : l.mapM f with
        | error e =>
          rw [hx, hl] at h
          cases h
        | ok ys =>
          rw [hx, hl] at h
          cases h
          exact .cons hx (ih hl)
  · intro h
    induction h with
    | nil => rfl
    | cons hx _ ih =>
      rw [List.mapM_cons, hx, ih]
      rfl

theorem mapM_some_iff {f : α → Option β} {l : List α} {l' : List β} :
    l.mapM f = some l' ↔ List.Forall₂ (fun x y => f x = some y) l l' := by
  induction l generalizing l' with
  | nil => simp [List.forall₂_nil_left_iff, eq_comm]
  | cons x l ih =>
    simp only [List.mapM_cons, Option.bind_eq_bind, Option.bind_eq_some_iff, Option.pure_def,
      Option.some.injEq, ih, List.forall₂_cons_left_iff]
    constructor
    · rintro ⟨y, hy, ys, hys, rfl⟩
      exact ⟨y, ys, hy, hys, rfl⟩
    · rintro ⟨y, ys, hy, hys, rfl⟩
      exact ⟨y, hy, ys, hys, rfl⟩

theorem exists_of_mem_right {R : α → β → Prop} {l : List α} {l' : List β}
    (h : List.Forall₂ R l l') {b : β} (hb : b ∈ l') : ∃ a ∈ l, R a b := by
  induction h with
  | nil => cases hb
  | @cons a c l l' hac _ ih =>
    rcases List.mem_cons.mp hb with rfl | hb
    · exact ⟨a, List.mem_cons_self, hac⟩
    · obtain ⟨a', ha', hR⟩ := ih hb
      exact ⟨a', List.mem_cons_of_mem a ha', hR⟩

theorem find?_rel {R : α → β → Prop} {p : α → Bool} {q : β → Bool} {l : List α} {l' : List β}
    (h : List.Forall₂ R l l') (hpq : ∀ a b, R a b → p a = q b) :
    Option.Rel R (l.find? p) (l'.find? q) := by
  induction h with
  | nil => exact .none
  | @cons a b l l' hab _ ih =>
    cases hq : q b with
    | false => rwa [List.find?_cons_of_neg (by simp [hpq a b hab, hq]),
        List.find?_cons_of_neg (by simp [hq])]
    | true =>
      rw [List.find?_cons_of_pos (by simp [hpq a b hab, hq]), List.find?_cons_of_pos hq]
      exact .some hab

theorem forall₂_iff_of_rel {R : α → β → Prop} {P : β → γ → Prop} {T : α → γ → Prop} {l : List α}
    {l' : List β} (h : List.Forall₂ R l l') (hPT : ∀ a b, R a b → ∀ c, P b c ↔ T a c) {cs : List γ} :
    List.Forall₂ P l' cs ↔ List.Forall₂ T l cs := by
  induction h generalizing cs with
  | nil => rw [List.forall₂_nil_left_iff, List.forall₂_nil_left_iff]
  | @cons a b l l' hab _ ih => simp only [List.forall₂_cons_left_iff, hPT a b hab, ih]

theorem exists_forall₂_iff {P : α → β → Prop} {l : List α} :
    (∃ l', List.Forall₂ P l l') ↔ ∀ x ∈ l, ∃ y, P x y := by
  constructor
  · rintro ⟨l', h⟩
    induction h with
    | nil => simp
    | cons hx _ ih => exact List.forall_mem_cons.mpr ⟨⟨_, hx⟩, ih⟩
  · intro h
    induction l with
    | nil => exact ⟨[], .nil⟩
    | cons x l ih =>
      obtain ⟨⟨y, hy⟩, hl⟩ := List.forall_mem_cons.mp h
      obtain ⟨ys, hys⟩ := ih hl
      exact ⟨y :: ys, .cons hy hys⟩

end Pointwise
