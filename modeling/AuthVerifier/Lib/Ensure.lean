import AuthVerifier.Lib.Outcome
import Mathlib.Order.Defs.Unbundled

/-!
Records that are created where they are missing, one after another until a creation fails. Creations
only add to the state, so what is there stays there and a second pass has nothing to do.
-/

set_option autoImplicit false

namespace Effects

structure Ensured (σ ε : Type) where
  holds : σ → Bool
  create : σ → Outcome σ ε Unit

namespace Ensured
variable {σ ε : Type}

def ensure (e : Ensured σ ε) (s : σ) : Outcome σ ε Unit :=
  if e.holds s then .ok s () else e.create s

def ensureAll : List (Ensured σ ε) → σ → Outcome σ ε Unit
  | [], s => .ok s ()
  | e :: es, s => (e.ensure s).bind fun s () => ensureAll es s

/-- A creation adds to the state, also where it fails half way. Where it succeeds the record is there,
and no addition takes it away. -/
structure Adds (r : σ → σ → Prop) (e : Ensured σ ε) : Prop where
  grows : ∀ s, r s (e.create s).state
  creates : ∀ s, (e.create s).result = .ok () → e.holds (e.create s).state = true
  lasts : ∀ s s', r s s' → e.holds s = true → e.holds s' = true

variable {r : σ → σ → Prop} {e : Ensured σ ε} {es : List (Ensured σ ε)}

theorem ensure_of_holds {s : σ} (h : e.holds s = true) : e.ensure s = .ok s () := if_pos h

theorem ensure_holds (h : e.Adds r) {s : σ} (hok : (e.ensure s).result = .ok ()) :
    e.holds (e.ensure s).state = true := by
  unfold ensure at hok ⊢
  split at hok
  · rename_i hholds
    rw [if_pos hholds]
    exact hholds
  · rename_i hmissing
    rw [if_neg hmissing]
    exact h.creates s hok

variable [IsPreorder σ r]

theorem ensure_grows (h : e.Adds r) (s : σ) : r s (e.ensure s).state := by
  unfold ensure
  split
  · exact refl s
  · exact h.grows s

theorem ensureAll_grows (h : ∀ e ∈ es, e.Adds r) (s : σ) : r s (ensureAll es s).state := by
  induction es generalizing s with
  | nil => exact refl s
  | cons e es ih =>
    have hfirst := ensure_grows (h e List.mem_cons_self) s
    rw [ensureAll, Outcome.bind]
    split
    · exact trans_of r hfirst (ih (fun e he => h e (List.mem_cons_of_mem _ he)) _)
    · exact hfirst

theorem ensureAll_holds (h : ∀ e ∈ es, e.Adds r) {s : σ} (hok : (ensureAll es s).result = .ok ()) :
    ∀ e ∈ es, e.holds (ensureAll es s).state = true := by
  induction es generalizing s with
  | nil => simp
  | cons e es ih =>
    obtain ⟨hhead, htail⟩ := List.forall_mem_cons.mp h
    rw [ensureAll] at hok ⊢
    obtain ⟨⟨⟩, hfirst, hrest⟩ := Outcome.bind_eq_ok hok
    rw [Outcome.bind_of_ok hfirst]
    refine List.forall_mem_cons.mpr ⟨?_, ih htail hrest⟩
    exact hhead.lasts _ _ (ensureAll_grows htail _) (ensure_holds hhead hfirst)

theorem ensureAll_of_holds {s : σ} (h : ∀ e ∈ es, e.holds s = true) : ensureAll es s = .ok s () := by
  induction es with
  | nil => rfl
  | cons e es ih =>
    obtain ⟨hhead, htail⟩ := List.forall_mem_cons.mp h
    rw [ensureAll, ensure_of_holds hhead]
    exact ih htail

end Ensured
end Effects
