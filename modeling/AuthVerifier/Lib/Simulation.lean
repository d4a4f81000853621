import AuthVerifier.Lib.Run

/-!
Deterministic systems that answer each input, and what makes one indistinguishable from another.
-/

set_option autoImplicit false

namespace Transition
variable {σ τ ι ω : Type}

def outputs (handle : σ → ι → σ × ω) : σ → List ι → List ω
  | _, [] => []
  | s, i :: is => (handle s i).2 :: outputs handle (handle s i).1 is

/-- Whatever the one does in a state, the other does in every state related to it. -/
def Simulates (f : σ → ι → σ × ω) (g : τ → ι → τ × ω) (R : σ → τ → Prop) : Prop :=
  ∀ s t i, R s t → (f s i).2 = (g t i).2 ∧ R (f s i).1 (g t i).1

section
variable {f : σ → ι → σ × ω} {g : τ → ι → τ × ω} {R : σ → τ → Prop} {s : σ} {t : τ}

theorem Simulates.outputs_eq (h : Simulates f g R) (hR : R s t) (is : List ι) :
    outputs f s is = outputs g t is := by
  induction is generalizing s t with
  | nil => rfl
  | cons i is ih =>
    obtain ⟨hout, hnext⟩ := h s t i hR
    rw [outputs, outputs, hout, ih hnext]

theorem Simulates.run (h : Simulates f g R) (hR : R s t) (is : List ι) :
    R (run (fun s i => (f s i).1) s is) (run (fun t i => (g t i).1) t is) := by
  induction is generalizing s t with
  | nil => exact hR
  | cons i is ih => exact ih (h s t i hR).2

end
end Transition
