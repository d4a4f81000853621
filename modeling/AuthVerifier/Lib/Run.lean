import Mathlib.Data.List.Induction
import Mathlib.Order.Basic

/-!
Runs of a deterministic system. `trace` pairs every input with the state it was consumed in,
so a statement about every step of a run is a statement about the members of its trace.
-/

set_option autoImplicit false

namespace Transition
variable {σ ι : Type} (step : σ → ι → σ)

def run : σ → List ι → σ
  | s, [] => s
  | s, i :: is => run (step s i) is

def trace : σ → List ι → List (σ × ι)
  | _, [] => []
  | s, i :: is => (s, i) :: trace (step s i) is

theorem run_append (s : σ) (is js : List ι) :
    run step s (is ++ js) = run step (run step s is) js := by
  induction is generalizing s with
  | nil => rfl
  | cons i is ih => exact ih (step s i)

theorem trace_append (s : σ) (is js : List ι) :
    trace step s (is ++ js) = trace step s is ++ trace step (run step s is) js := by
  induction is generalizing s with
  | nil => rfl
  | cons i is ih => simp only [List.cons_append, trace, run, ih]

/-- `P` holds of every step of a run, given the steps before it and the state it is taken in. -/
def Along (init : σ) (P : List (σ × ι) → σ → ι → Prop) (is : List ι) : Prop :=
  ∀ pre i post, is = pre ++ i :: post → P (trace step init pre) (run step init pre) i

theorem along_singleton {init : σ} {P : List (σ × ι) → σ → ι → Prop} {i : ι} (h : P [] init i) :
    Along step init P [i] := by
  intro pre j post he
  cases pre with
  | nil =>
    cases he
    exact h
  | cons k ks => simp at he

/-- An invariant over the history and the current state that every admissible step keeps holds
at the end of every run made of admissible steps. -/
theorem run_invariant {init : σ} (I : List (σ × ι) → σ → Prop) (C : List (σ × ι) → σ → ι → Prop)
    (h₀ : I [] init)
    (hs : ∀ tr s i, I tr s → C tr s i → I (tr ++ [(s, i)]) (step s i))
    (is : List ι) (hc : Along step init C is) :
    I (trace step init is) (run step init is) := by
  induction is using List.reverseRecOn with
  | nil => exact h₀
  | append_singleton is i ih =>
    have hpre := ih (fun pre j post h => hc pre j (post ++ [i]) (by simp [h]))
    rw [trace_append, run_append]
    exact hs _ _ i hpre (hc is i [] rfl)

theorem run_keeps {init : σ} (I : σ → Prop) (h₀ : I init) (hs : ∀ s i, I s → I (step s i))
    (is : List ι) : I (run step init is) := by
  induction is generalizing init with
  | nil => exact h₀
  | cons i is ih => exact ih (hs init i h₀)

theorem run_keeps_of {init : σ} (I : σ → Prop) {C : σ → ι → Prop} (h₀ : I init)
    (hs : ∀ s i, I s → C s i → I (step s i)) (is : List ι)
    (hc : ∀ x ∈ trace step init is, C x.1 x.2) : I (run step init is) := by
  induction is generalizing init with
  | nil => exact h₀
  | cons i is ih =>
    have hfirst := hs init i h₀ (hc (init, i) List.mem_cons_self)
    exact ih hfirst (fun x hx => hc x (List.mem_cons_of_mem _ hx))

/-- Records that a step either leaves alone or writes are, after a run, those of the start that no
step has written, or they are as a step has written them. -/
theorem run_written {ρ : Type} (rows : σ → ρ → Prop) (writes : σ → ι → ρ → Prop) (P : ρ → Prop)
    (hs : ∀ s i r, rows (step s i) r → rows s r ∧ ¬ writes s i r ∨ P r ∧ writes s i r)
    {init : σ} (is : List ι) {r : ρ} (h : rows (run step init is) r) :
    rows init r ∧ (∀ x ∈ trace step init is, ¬ writes x.1 x.2 r) ∨
      P r ∧ ∃ x ∈ trace step init is, writes x.1 x.2 r := by
  induction is generalizing init with
  | nil => exact .inl ⟨h, by simp [trace]⟩
  | cons i is ih =>
    rcases ih h with ⟨hrow, hlater⟩ | ⟨hP, x, hx, hlater⟩
    · rcases hs init i r hrow with ⟨hrow, hnow⟩ | ⟨hP, hnow⟩
      · exact .inl ⟨hrow, List.forall_mem_cons.mpr ⟨hnow, hlater⟩⟩
      · exact .inr ⟨hP, (init, i), List.mem_cons_self, hnow⟩
    · exact .inr ⟨hP, x, List.mem_cons_of_mem _ hx, hlater⟩

theorem trace_forall_iff {init : σ} {P C : σ → ι → Prop} (h : ∀ s i, P s i ↔ C s i) (is : List ι) :
    (∀ x ∈ trace step init is, P x.1 x.2) ↔ ∀ x ∈ trace step init is, C x.1 x.2 :=
  ⟨fun hp x hx => (h _ _).mp (hp x hx), fun hc x hx => (h _ _).mpr (hc x hx)⟩

theorem mem_of_mem_trace {init : σ} {is : List ι} {x : σ × ι} (h : x ∈ trace step init is) :
    x.2 ∈ is := by
  induction is generalizing init with
  | nil => cases h
  | cons i is ih =>
    simp only [trace, List.mem_cons] at h
    rcases h with rfl | h
    · exact List.mem_cons_self
    · exact List.mem_cons_of_mem i (ih h)

theorem mem_trace_iff {init : σ} {is : List ι} {x : σ × ι} :
    x ∈ trace step init is ↔ ∃ pre post, is = pre ++ x.2 :: post ∧ x.1 = run step init pre := by
  constructor
  · intro h
    induction is generalizing init with
    | nil => cases h
    | cons i is ih =>
      simp only [trace, List.mem_cons] at h
      rcases h with rfl | h
      · exact ⟨[], is, rfl, rfl⟩
      · obtain ⟨pre, post, rfl, hrun⟩ := ih h
        exact ⟨i :: pre, post, rfl, hrun⟩
  · rintro ⟨pre, post, rfl, hrun⟩
    rw [trace_append]
    refine List.mem_append_right _ (List.mem_cons.mpr (.inl ?_))
    rw [← hrun]

theorem mem_trace_of_split {init : σ} {is : List ι} (pre post : List ι) {i : ι}
    (h : is = pre ++ i :: post) : (run step init pre, i) ∈ trace step init is :=
  (mem_trace_iff step).mpr ⟨pre, post, h, rfl⟩

/-- A condition that keeps an invariant, and gives a property under it, gives the property along a
whole run. The invariant may speak of the inputs still to come. -/
theorem trace_forall_of_invariant {init : σ} (I : σ → List ι → Prop) {P C : σ → ι → Prop}
    (hp : ∀ s i is, I s (i :: is) → C s i → P s i)
    (hs : ∀ s i is, I s (i :: is) → C s i → I (step s i) is)
    (is : List ι) (h₀ : I init is) (hc : ∀ x ∈ trace step init is, C x.1 x.2) :
    ∀ x ∈ trace step init is, P x.1 x.2 := by
  induction is generalizing init with
  | nil => simp [trace]
  | cons i is ih =>
    simp only [trace, List.forall_mem_cons] at hc ⊢
    exact ⟨hp init i is h₀ hc.1, ih (hs init i is h₀ hc.1) hc.2⟩

/-- Where a property and a condition agree under an invariant that the condition keeps, they agree
along a whole run: up to the first step that fails both, the invariant holds. -/
theorem trace_forall_iff_of_invariant {init : σ} (I : σ → List ι → Prop) {P C : σ → ι → Prop}
    (hpc : ∀ s i is, I s (i :: is) → (P s i ↔ C s i))
    (hs : ∀ s i is, I s (i :: is) → C s i → I (step s i) is)
    (is : List ι) (h₀ : I init is) :
    (∀ x ∈ trace step init is, P x.1 x.2) ↔ ∀ x ∈ trace step init is, C x.1 x.2 :=
  ⟨trace_forall_of_invariant step I (fun s i is h hp => (hpc s i is h).mp hp)
      (fun s i is h hp => hs s i is h ((hpc s i is h).mp hp)) is h₀,
    trace_forall_of_invariant step I (fun s i is h hc => (hpc s i is h).mpr hc) hs is h₀⟩

section Clock
variable {τ : Type} [LE τ] (start stop : ι → τ)

/-- The inputs carry readings of a clock that does not go back: each starts after those before it
have stopped. -/
def Clocked (is : List ι) : Prop := is.Pairwise (fun i j => stop i ≤ start j)

instance [DecidableLE τ] (is : List ι) : Decidable (Clocked start stop is) :=
  inferInstanceAs (Decidable (is.Pairwise (fun i j => stop i ≤ start j)))

theorem trace_forall_of_clocked {init : σ} (I : τ → σ → Prop) {P C : σ → ι → Prop}
    (hlater : ∀ s t t', t ≤ t' → I t s → I t' s)
    (hp : ∀ s i, I (start i) s → C s i → P s i)
    (hs : ∀ s i, I (start i) s → C s i → I (stop i) (step s i))
    (h₀ : ∀ t, I t init) (is : List ι) (hclock : Clocked start stop is)
    (hc : ∀ x ∈ trace step init is, C x.1 x.2) :
    ∀ x ∈ trace step init is, P x.1 x.2 := by
  refine trace_forall_of_invariant step
    (fun s is => (∀ i ∈ is, I (start i) s) ∧ Clocked start stop is)
    (fun s i is h => hp s i (h.1 i List.mem_cons_self)) ?_ is ⟨fun _ _ => h₀ _, hclock⟩ hc
  rintro s i is ⟨hi, hclock⟩ hc
  obtain ⟨hle, hclock⟩ := List.pairwise_cons.mp hclock
  exact ⟨fun j hj => hlater _ _ _ (hle j hj) (hs s i (hi i List.mem_cons_self) hc), hclock⟩

theorem run_of_clocked {init : σ} (I : τ → σ → Prop) {C : σ → ι → Prop}
    (hlater : ∀ s t t', t ≤ t' → I t s → I t' s)
    (hs : ∀ s i, I (start i) s → C s i → I (stop i) (step s i)) (is : List ι)
    (hclock : Clocked start stop is) (t : τ) (ht : ∀ i ∈ is, stop i ≤ t)
    (h₀ : ∀ i ∈ is, I (start i) init) (h₁ : I t init)
    (hc : ∀ x ∈ trace step init is, C x.1 x.2) : I t (run step init is) := by
  induction is generalizing init with
  | nil => exact h₁
  | cons i is ih =>
    obtain ⟨hle, hclock⟩ := List.pairwise_cons.mp hclock
    have hi := hs init i (h₀ i List.mem_cons_self) (hc (init, i) List.mem_cons_self)
    exact ih hclock (fun j hj => ht j (List.mem_cons_of_mem i hj))
      (fun j hj => hlater _ _ _ (hle j hj) hi) (hlater _ _ _ (ht i List.mem_cons_self) hi)
      (fun x hx => hc x (List.mem_cons_of_mem _ hx))

end Clock
end Transition
