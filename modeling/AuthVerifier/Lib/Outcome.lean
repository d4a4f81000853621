/-!
Computations over a state that keeps its changes when a later step fails. There is no
rollback: an error raised half way leaves whatever was written before it.
-/

set_option autoImplicit false

namespace Effects

structure Outcome (σ ε α : Type) where
  state : σ
  result : Except ε α

namespace Outcome
variable {σ ε ε' α β : Type}

def ok (s : σ) (a : α) : Outcome σ ε α := ⟨s, .ok a⟩

def error (s : σ) (e : ε) : Outcome σ ε α := ⟨s, .error e⟩

def bind (o : Outcome σ ε α) (f : σ → α → Outcome σ ε β) : Outcome σ ε β :=
  match o.result with
  | .ok a => f o.state a
  | .error e => ⟨o.state, .error e⟩

def mapError (o : Outcome σ ε α) (f : ε → ε') : Outcome σ ε' α :=
  ⟨o.state, match o.result with
    | .ok a => .ok a
    | .error e => .error (f e)⟩

@[simp] theorem ok_state (s : σ) (a : α) : (ok s a : Outcome σ ε α).state = s := rfl
@[simp] theorem ok_result (s : σ) (a : α) : (ok s a : Outcome σ ε α).result = .ok a := rfl
@[simp] theorem error_state (s : σ) (e : ε) : (error s e : Outcome σ ε α).state = s := rfl
@[simp] theorem error_result (s : σ) (e : ε) :
    (error s e : Outcome σ ε α).result = .error e := rfl
@[simp] theorem mapError_state (o : Outcome σ ε α) (f : ε → ε') :
    (o.mapError f).state = o.state := rfl

theorem bind_eq_ok {o : Outcome σ ε α} {f : σ → α → Outcome σ ε β} {b : β}
    (h : (o.bind f).result = .ok b) :
    ∃ a, o.result = .ok a ∧ (f o.state a).result = .ok b := by
  unfold bind at h
  cases hr : o.result with
  | ok a =>
    rw [hr] at h
    exact ⟨a, rfl, h⟩
  | error e =>
    rw [hr] at h
    cases h

theorem bind_of_ok {o : Outcome σ ε α} {f : σ → α → Outcome σ ε β} {a : α} (h : o.result = .ok a) :
    o.bind f = f o.state a := by
  rw [bind, h]

theorem bind_state_eq {o : Outcome σ ε α} {f : σ → α → Outcome σ ε β}
    (h : ∀ s a, (f s a).state = s) : (o.bind f).state = o.state := by
  unfold bind
  cases o.result with
  | ok a => exact h o.state a
  | error e => rfl

/-- Whatever the computation answers satisfies `Q`. -/
def Answers (Q : α → Prop) (o : Outcome σ ε α) : Prop := ∀ a, o.result = .ok a → Q a

namespace Answers
variable {Q : α → Prop} {o : Outcome σ ε α}

theorem ok {s : σ} {a : α} (h : Q a) : Answers Q (ok s a : Outcome σ ε α) := by
  intro b hb
  cases hb
  exact h

theorem error {s : σ} {e : ε} : Answers Q (error s e : Outcome σ ε α) := by
  intro b hb
  cases hb

theorem bind {p : Outcome σ ε β} {f : σ → β → Outcome σ ε α} (h : ∀ s b, Answers Q (f s b)) :
    Answers Q (p.bind f) := by
  intro a ha
  obtain ⟨b, _, hb⟩ := bind_eq_ok ha
  exact h p.state b a hb

theorem guard {b : Prop} [Decidable b] {s : σ} {e : ε} (h : ¬ b → Answers Q o) :
    Answers Q (if b then .error s e else o) := by
  split
  · exact error
  · exact h ‹_›

end Answers

end Outcome
end Effects
