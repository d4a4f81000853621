import AuthVerifier.Lib.Run

/-!
What the callers of a system have seen of it: the inputs with their answers, the newest first.
-/

set_option autoImplicit false

namespace Transition
variable {σ ι ω : Type} (handle : σ → ι → σ × ω)

def after (s : σ) (is : List ι) : σ := run (fun s i => (handle s i).1) s is

def transcript : σ → List ι → List (ι × ω)
  | _, [] => []
  | s, i :: is => transcript (handle s i).1 is ++ [(i, (handle s i).2)]

theorem after_concat (s : σ) (is : List ι) (i : ι) :
    after handle s (is ++ [i]) = (handle (after handle s is) i).1 :=
  run_append _ s is [i]

theorem transcript_concat (s : σ) (is : List ι) (i : ι) :
    transcript handle s (is ++ [i]) =
      (i, (handle (after handle s is) i).2) :: transcript handle s is := by
  induction is generalizing s with
  | nil => rfl
  | cons j is ih =>
    rw [List.cons_append, transcript, ih]
    rfl

/-- What relates the transcript to the state at the start, and after every input that may follow
those before it, relates them after every run of such inputs. -/
theorem transcript_invariant {init : σ} (I : List (ι × ω) → σ → Prop) (C : List ι → ι → Prop)
    (h₀ : I [] init)
    (hs : ∀ h s i pre, I h s → h.map Prod.fst = pre.reverse → C pre i →
      I ((i, (handle s i).2) :: h) (handle s i).1)
    (is : List ι) (hc : ∀ pre i post, is = pre ++ i :: post → C pre i) :
    I (transcript handle init is) (after handle init is) ∧
      (transcript handle init is).map Prod.fst = is.reverse := by
  induction is using List.reverseRecOn with
  | nil => exact ⟨h₀, rfl⟩
  | append_singleton is i ih =>
    obtain ⟨hI, hinputs⟩ := ih fun pre j post h => hc pre j (post ++ [i]) (by simp [h])
    rw [transcript_concat, after_concat, List.reverse_append]
    exact ⟨hs _ _ i is hI hinputs (hc is i [] rfl), congrArg (i :: ·) hinputs⟩

section
variable {α : Type} {starts : List α → α → Prop} {ends : α → Prop} {e : α} {hist : List α}

/-- An entry has begun it, given the entries before, and none after that has ended it. -/
def Since (starts : List α → α → Prop) (ends : α → Prop) (hist : List α) : Prop :=
  ∃ since e older, hist = since ++ e :: older ∧ starts older e ∧ ∀ x ∈ since, ¬ ends x

theorem not_since_nil : ¬ Since starts ends [] := by
  rintro ⟨since, e, older, hsplit, _⟩
  simp at hsplit

theorem since_cons :
    Since starts ends (e :: hist) ↔ starts hist e ∨ Since starts ends hist ∧ ¬ ends e := by
  constructor
  · rintro ⟨since, e', older, hsplit, hstart, hkeep⟩
    cases since with
    | nil =>
      cases hsplit
      exact .inl hstart
    | cons x since =>
      cases hsplit
      exact .inr ⟨⟨since, e', older, rfl, hstart, fun y hy => hkeep y (List.mem_cons_of_mem _ hy)⟩,
        hkeep e List.mem_cons_self⟩
  · rintro (hstart | ⟨⟨since, e', older, rfl, hstart, hkeep⟩, hno⟩)
    · exact ⟨[], e, hist, rfl, hstart, by simp⟩
    · exact ⟨e :: since, e', older, rfl, hstart, List.forall_mem_cons.mpr ⟨hno, hkeep⟩⟩

end
end Transition
