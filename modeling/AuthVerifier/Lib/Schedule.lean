/-!
Two programs over one shared state, interleaved statement by statement. A program issues a statement,
gets its answer and goes on from there. Statements that do not conflict commute, so an interleaving in
which all conflicts go one way ends as the two programs run one after the other.
-/

set_option autoImplicit false

namespace Schedule

/-- A program over statements `ι` with answers `Ans`. -/
inductive Prog {ι : Type} (Ans : ι → Type) (α : Type) where
  | done (a : α)
  | stmt (i : ι) (next : Ans i → Prog Ans α)

namespace Prog
variable {ι : Type} {Ans : ι → Type} {α β σ : Type}

def bind : Prog Ans α → (α → Prog Ans β) → Prog Ans β
  | .done a, f => f a
  | .stmt i next, f => .stmt i (fun x => (next x).bind f)

def call (i : ι) : Prog Ans (Ans i) := .stmt i .done

def forEach {γ : Type} (f : γ → Prog Ans α) : List γ → Prog Ans (List α)
  | [] => .done []
  | c :: cs => (f c).bind fun a => (forEach f cs).bind fun as => .done (a :: as)

variable (exec : (i : ι) → σ → σ × Ans i)

def run : Prog Ans α → σ → σ × α
  | .done a, s => (s, a)
  | .stmt i next, s => (next (exec i s).2).run (exec i s).1

def trace : Prog Ans α → σ → List ι
  | .done _, _ => []
  | .stmt i next, s => i :: (next (exec i s).2).trace (exec i s).1

@[simp] theorem run_done (a : α) (s : σ) : (Prog.done a : Prog Ans α).run exec s = (s, a) := rfl

@[simp] theorem run_call (i : ι) (s : σ) : (call i : Prog Ans _).run exec s = exec i s := rfl

@[simp] theorem run_bind (p : Prog Ans α) (f : α → Prog Ans β) (s : σ) :
    (p.bind f).run exec s = (f (p.run exec s).2).run exec (p.run exec s).1 := by
  induction p generalizing s with
  | done a => rfl
  | stmt i next ih => exact ih (exec i s).2 (exec i s).1

def visits : Prog Ans α → σ → List (ι × σ)
  | .done _, _ => []
  | .stmt i next, s => (i, s) :: (next (exec i s).2).visits (exec i s).1

@[simp] theorem visits_done (a : α) (s : σ) :
    (Prog.done a : Prog Ans α).visits exec s = [] := rfl

@[simp] theorem visits_call (i : ι) (s : σ) :
    (call i : Prog Ans _).visits exec s = [(i, s)] := rfl

@[simp] theorem visits_bind (p : Prog Ans α) (f : α → Prog Ans β) (s : σ) :
    (p.bind f).visits exec s =
      p.visits exec s ++ (f (p.run exec s).2).visits exec (p.run exec s).1 := by
  induction p generalizing s with
  | done a => rfl
  | stmt i next ih => exact congrArg _ (ih (exec i s).2 (exec i s).1)

theorem visits_forEach {γ : Type} {f : γ → Prog Ans α} {v : γ → List (ι × σ)} {s : σ}
    (hrun : ∀ c, ((f c).run exec s).1 = s) (hvisits : ∀ c, (f c).visits exec s = v c)
    (cs : List γ) : (forEach f cs).visits exec s = cs.flatMap v := by
  induction cs with
  | nil => rfl
  | cons c cs ih => simp [forEach, hrun, hvisits, ih]

section
variable (answers : (i : ι) → σ → σ × Option (Ans i))

/-- The program on an engine that may refuse a statement, where it ends. -/
def attempt : Prog Ans α → σ → σ × Option α
  | .done a, s => (s, some a)
  | .stmt i next, s => match (answers i s).2 with
    | none => ((answers i s).1, none)
    | some x => (next x).attempt (answers i s).1

def attempts : Prog Ans α → σ → List (ι × σ)
  | .done _, _ => []
  | .stmt i next, s => (i, s) :: match (answers i s).2 with
    | none => []
    | some x => (next x).attempts (answers i s).1

end

/-- An engine that refuses nothing. -/
def answered (i : ι) (s : σ) : σ × Option (Ans i) := ((exec i s).1, some (exec i s).2)

section
variable {exec : (i : ι) → σ → σ × Ans i} {answers : (i : ι) → σ → σ × Option (Ans i)}
  {p : Prog Ans α} {s : σ}

theorem attempt_of_visits (h : ∀ v ∈ p.visits exec s, answers v.1 v.2 = answered exec v.1 v.2) :
    p.attempts answers s = p.visits exec s ∧
      p.attempt answers s = ((p.run exec s).1, some (p.run exec s).2) := by
  induction p generalizing s with
  | done a => exact ⟨rfl, rfl⟩
  | stmt i next ih =>
    simp only [visits, List.mem_cons, forall_eq_or_imp] at h
    obtain ⟨hvisits, hrun⟩ := ih _ h.2
    simp only [attempts, attempt, visits, run, h.1, answered]
    exact ⟨congrArg _ hvisits, hrun⟩

theorem visits_of_attempts
    (h : ∀ v ∈ p.attempts answers s, answers v.1 v.2 = answered exec v.1 v.2) :
    p.attempts answers s = p.visits exec s := by
  induction p generalizing s with
  | done a => rfl
  | stmt i next ih =>
    simp only [attempts, List.mem_cons, forall_eq_or_imp] at h
    have hi : answers i s = ((exec i s).1, some (exec i s).2) := h.1
    have hrest := h.2
    simp only [hi] at hrest
    simp only [attempts, visits, hi]
    exact congrArg _ (ih _ hrest)

end

theorem run_forEach {γ : Type} {f : γ → Prog Ans α} {g : γ → α} {s : σ}
    (h : ∀ c, (f c).run exec s = (s, g c)) (cs : List γ) :
    (forEach f cs).run exec s = (s, cs.map g) := by
  induction cs with
  | nil => rfl
  | cons c cs ih => simp [forEach, h, ih]

end Prog

section
variable {ι : Type} {Ans : ι → Type} {α β σ : Type} (exec : (i : ι) → σ → σ × Ans i)

inductive Side where
  | left | right
  deriving DecidableEq

def Side.other : Side → Side
  | .left => .right
  | .right => .left

/-- Two programs that have come to their ends, and the statements in the order they were executed. -/
structure Completed (ι σ α β : Type) where
  state : σ
  left : α
  right : β
  steps : List (Side × ι)

/-- One statement for each turn; nothing if a program has no statement left, or has one too many. -/
def interleave : List Side → Prog Ans α → Prog Ans β → σ → Option (Completed ι σ α β)
  | [], .done a, .done b, s => some ⟨s, a, b, []⟩
  | .left :: turns, .stmt i next, q, s =>
    (interleave turns (next (exec i s).2) q (exec i s).1).map
      fun c => { c with steps := (.left, i) :: c.steps }
  | .right :: turns, p, .stmt j next, s =>
    (interleave turns p (next (exec j s).2) (exec j s).1).map
      fun c => { c with steps := (.right, j) :: c.steps }
  | _, _, _, _ => none

def Commutes (i j : ι) : Prop :=
  ∀ s, (exec j (exec i s).1).1 = (exec i (exec j s).1).1 ∧
    (exec i (exec j s).1).2 = (exec i s).2 ∧ (exec j (exec i s).1).2 = (exec j s).2

variable (conflicts : ι → ι → Prop)

/-- No statement of the other side comes before one of `first` that it conflicts with. -/
def ConflictsFollow (first : Side) (steps : List (Side × ι)) : Prop :=
  steps.Pairwise fun x y => x.1 = first.other → y.1 = first → ¬ conflicts x.2 y.2

def ConflictOrdered (steps : List (Side × ι)) : Prop :=
  ∃ first, ConflictsFollow conflicts first steps

instance [DecidableRel conflicts] (first : Side) (steps : List (Side × ι)) :
    Decidable (ConflictsFollow conflicts first steps) :=
  inferInstanceAs (Decidable (steps.Pairwise _))

end

section
variable {ι : Type} {Ans : ι → Type} {α β σ : Type} {exec : (i : ι) → σ → σ × Ans i}

theorem run_after {j : ι} {p : Prog Ans α} {s : σ}
    (h : ∀ i ∈ p.trace exec (exec j s).1, Commutes exec j i) :
    p.trace exec s = p.trace exec (exec j s).1 ∧
      p.run exec (exec j s).1 = ((exec j (p.run exec s).1).1, (p.run exec s).2) ∧
      (exec j (p.run exec s).1).2 = (exec j s).2 := by
  induction p generalizing s with
  | done a => exact ⟨rfl, rfl, rfl⟩
  | stmt i next ih =>
    simp only [Prog.trace, List.mem_cons, forall_eq_or_imp] at h
    obtain ⟨hstate, hj, hi⟩ := h.1 s
    have hrest : ∀ k ∈ (next (exec i s).2).trace exec (exec j (exec i s).1).1,
        Commutes exec j k := by
      intro k hk
      rw [← hstate, ← hi] at hk
      exact h.2 k hk
    obtain ⟨htrace, hrun, hans⟩ := ih (exec i s).2 hrest
    refine ⟨?_, ?_, ?_⟩
    · simp only [Prog.trace, hi, hstate, htrace]
    · simp only [Prog.run]
      rw [hi, hstate]
      exact hrun
    · simp only [Prog.run]
      rw [hans, hj]

def ofSide (side : Side) (steps : List (Side × ι)) : List ι :=
  (steps.filter (fun x => x.1 = side)).map Prod.snd

theorem mem_ofSide {side : Side} {steps : List (Side × ι)} {i : ι} :
    i ∈ ofSide side steps ↔ (side, i) ∈ steps := by
  simp [ofSide]

section
variable {conflicts : ι → ι → Prop} {turns : List Side} {p : Prog Ans α} {q : Prog Ans β} {s : σ}
  {c : Completed ι σ α β}

theorem left_first (hcomm : ∀ i j, ¬ conflicts i j → Commutes exec i j)
    (h : interleave exec turns p q s = some c) (hord : ConflictsFollow conflicts .left c.steps) :
    p.trace exec s = ofSide .left c.steps ∧
      ∃ mid, p.run exec s = (mid, c.left) ∧ q.run exec mid = (c.state, c.right) := by
  induction turns generalizing p q s c with
  | nil =>
    cases p <;> cases q <;> simp only [interleave, reduceCtorEq, Option.some.injEq] at h
    subst h
    exact ⟨rfl, s, rfl, rfl⟩
  | cons side turns ih =>
    cases side with
    | left =>
      cases p with
      | done a => simp [interleave] at h
      | stmt i next =>
        simp only [interleave, Option.map_eq_some_iff] at h
        obtain ⟨c, hc, rfl⟩ := h
        obtain ⟨htrace, mid, hp, hq⟩ := ih hc (List.pairwise_cons.mp hord).2
        refine ⟨?_, mid, hp, hq⟩
        simp [Prog.trace, htrace, ofSide]
    | right =>
      cases q with
      | done b => simp [interleave] at h
      | stmt j next =>
        simp only [interleave, Option.map_eq_some_iff] at h
        obtain ⟨c, hc, rfl⟩ := h
        obtain ⟨hfirst, hord⟩ := List.pairwise_cons.mp hord
        obtain ⟨htrace, mid, hp, hq⟩ := ih hc hord
        have hafter : ∀ i ∈ p.trace exec (exec j s).1, Commutes exec j i := by
          intro i hi
          rw [htrace, mem_ofSide] at hi
          exact hcomm j i (hfirst _ hi rfl rfl)
        obtain ⟨hsame, hrun, hans⟩ := run_after hafter
        rw [hp, Prod.mk.injEq] at hrun
        refine ⟨?_, (p.run exec s).1, ?_, ?_⟩
        · rw [hsame, htrace]
          simp [ofSide]
        · rw [hrun.2]
        · simp only [Prog.run]
          rw [hans, ← hrun.1]
          exact hq

def Completed.swap (c : Completed ι σ α β) : Completed ι σ β α :=
  ⟨c.state, c.right, c.left, c.steps.map fun x => (x.1.other, x.2)⟩

theorem interleave_swap (h : interleave exec turns p q s = some c) :
    interleave exec (turns.map Side.other) q p s = some c.swap := by
  induction turns generalizing p q s c with
  | nil =>
    cases p <;> cases q <;> simp only [interleave, reduceCtorEq, Option.some.injEq] at h
    subst h
    rfl
  | cons side turns ih =>
    cases side with
    | left =>
      cases p with
      | done a => simp [interleave] at h
      | stmt i next =>
        simp only [interleave, Option.map_eq_some_iff] at h
        obtain ⟨c, hc, rfl⟩ := h
        simp only [List.map_cons, Side.other, interleave, ih hc, Option.map_some]
        rfl
    | right =>
      cases q with
      | done b => simp [interleave] at h
      | stmt j next =>
        simp only [interleave, Option.map_eq_some_iff] at h
        obtain ⟨c, hc, rfl⟩ := h
        simp only [List.map_cons, Side.other, interleave, ih hc, Option.map_some]
        rfl

theorem ConflictsFollow.swap (h : ConflictsFollow conflicts .right c.steps) :
    ConflictsFollow conflicts .left c.swap.steps := by
  refine List.pairwise_map.mpr (h.imp fun {x y} hxy hx hy => ?_)
  cases hx' : x.1 <;> cases hy' : y.1 <;> simp_all [Side.other]

theorem serial_of_conflictOrdered (hcomm : ∀ i j, ¬ conflicts i j → Commutes exec i j)
    (h : interleave exec turns p q s = some c) (hord : ConflictOrdered conflicts c.steps) :
    (∃ mid, p.run exec s = (mid, c.left) ∧ q.run exec mid = (c.state, c.right)) ∨
      ∃ mid, q.run exec s = (mid, c.right) ∧ p.run exec mid = (c.state, c.left) := by
  obtain ⟨first, hord⟩ := hord
  cases first with
  | left => exact .inl (left_first hcomm h hord).2
  | right => exact .inr (left_first hcomm (interleave_swap h) hord.swap).2

end
end

/-- A state seen through cells, and the cells a statement reads and writes. -/
structure Footprint {ι σ : Type} {Ans : ι → Type} (exec : (i : ι) → σ → σ × Ans i) (Cell : Type)
    where
  Value : Cell → Type
  get : (c : Cell) → σ → Value c
  reads : ι → List Cell
  writes : ι → List Cell
  ext : ∀ {s s' : σ}, (∀ c, get c s = get c s') → s = s'
  frame : ∀ i s c, c ∉ writes i → get c (exec i s).1 = get c s
  congr : ∀ i s s', (∀ c, c ∈ reads i ∨ c ∈ writes i → get c s = get c s') →
    (∀ c ∈ writes i, get c (exec i s).1 = get c (exec i s').1) ∧ (exec i s).2 = (exec i s').2

namespace Footprint
variable {ι σ Cell : Type} {Ans : ι → Type} {exec : (i : ι) → σ → σ × Ans i}
  (F : Footprint exec Cell)

def Conflicts (i j : ι) : Prop :=
  (∃ c ∈ F.writes i, c ∈ F.reads j ∨ c ∈ F.writes j) ∨ ∃ c ∈ F.writes j, c ∈ F.reads i

instance [DecidableEq Cell] : DecidableRel F.Conflicts :=
  fun i j => inferInstanceAs (Decidable ((∃ c ∈ F.writes i, c ∈ F.reads j ∨ c ∈ F.writes j) ∨
    ∃ c ∈ F.writes j, c ∈ F.reads i))

theorem undisturbed {i j : ι} (h : ∀ c ∈ F.writes j, c ∉ F.reads i ∧ c ∉ F.writes i) (s : σ) :
    (∀ c ∈ F.writes i, F.get c (exec i (exec j s).1).1 = F.get c (exec i s).1) ∧
      (exec i (exec j s).1).2 = (exec i s).2 := by
  refine F.congr i _ _ fun c hc => F.frame j s c fun hw => ?_
  exact hc.elim (h c hw).1 (h c hw).2

theorem commutes (i j : ι) (h : ¬ F.Conflicts i j) : Commutes exec i j := by
  have hij : ∀ c ∈ F.writes i, c ∉ F.reads j ∧ c ∉ F.writes j := fun c hc =>
    not_or.mp fun hc' => h (.inl ⟨c, hc, hc'⟩)
  have hji : ∀ c ∈ F.writes j, c ∉ F.reads i ∧ c ∉ F.writes i := fun c hc =>
    ⟨fun hr => h (.inr ⟨c, hc, hr⟩), fun hw => (hij c hw).2 hc⟩
  intro s
  obtain ⟨hi, hansi⟩ := F.undisturbed hji s
  obtain ⟨hj, hansj⟩ := F.undisturbed hij s
  refine ⟨F.ext fun c => ?_, hansi, hansj⟩
  by_cases hci : c ∈ F.writes i
  · rw [F.frame j _ c (hij c hci).2, hi c hci]
  · rw [F.frame i (exec j s).1 c hci]
    by_cases hcj : c ∈ F.writes j
    · exact hj c hcj
    · rw [F.frame j _ c hcj, F.frame i s c hci, F.frame j s c hcj]

end Footprint
end Schedule
