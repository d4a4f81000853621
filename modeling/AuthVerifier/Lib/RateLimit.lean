import Mathlib.Data.List.Count
import Mathlib.Logic.Function.Basic
import Mathlib.Order.Bounds.Basic

/-!
Rate limits. A quota lets one request through each period, and a burst of them at once. What it
stands for is said on the instants at which requests were let through: no window holds more than a
burst and one request for each period that fits into it. A limiter has less to remember; it is
lawful if it decides as if it had kept all of them.
-/

set_option autoImplicit false

namespace RateLimit

structure Quota where
  period : Nat
  burst : Nat
  period_pos : 0 < period
  burst_pos : 0 < burst
  deriving DecidableEq

variable {q : Quota} {as : List Nat} {a t : Nat}

def since (as : List Nat) (a : Nat) : Nat := as.countP (fun b => a ≤ b)

/-- One more request at `t` fits into every window that ends there. -/
def Conforms (q : Quota) (as : List Nat) (t : Nat) : Prop :=
  ∀ a ∈ as, since as a + 1 ≤ q.burst + (t - a) / q.period

instance (q : Quota) (as : List Nat) (t : Nat) : Decidable (Conforms q as t) :=
  inferInstanceAs (Decidable (∀ a ∈ as, since as a + 1 ≤ q.burst + (t - a) / q.period))

/-- The instants of a key, the newest first, each of which fitted when it was added. -/
inductive Admitted (q : Quota) : List Nat → Prop where
  | nil : Admitted q []
  | cons {as : List Nat} {t : Nat} (h : Admitted q as) (hlast : ∀ a ∈ as, a ≤ t)
      (hfits : Conforms q as t) : Admitted q (t :: as)

theorem exists_least {as : List Nat} (h : as ≠ []) : ∃ a ∈ as, ∀ b ∈ as, a ≤ b := by
  induction as with
  | nil => exact absurd rfl h
  | cons b bs ih =>
    by_cases hbs : bs = []
    · subst hbs
      exact ⟨b, List.mem_cons_self, by simp⟩
    · obtain ⟨a, ha, hleast⟩ := ih hbs
      rcases Nat.le_total a b with hab | hab
      · refine ⟨a, List.mem_cons_of_mem b ha, ?_⟩
        simpa [hab] using hleast
      · refine ⟨b, List.mem_cons_self, ?_⟩
        simpa using fun c hc => Nat.le_trans hab (hleast c hc)

theorem Admitted.countP_window_le (h : Admitted q as) (t w : Nat) :
    as.countP (fun a => t ≤ a ∧ a ≤ t + w) ≤ q.burst + w / q.period := by
  induction h with
  | nil => simp
  | @cons as b h hlast hfits ih =>
    by_cases hb : t ≤ b ∧ b ≤ t + w
    · have hcount : (b :: as).countP (fun a => t ≤ a ∧ a ≤ t + w) =
          as.countP (fun a => t ≤ a ∧ a ≤ t + w) + 1 := by
        simp [hb]
      rw [hcount]
      by_cases hnone : as.filter (fun a => t ≤ a ∧ a ≤ t + w) = []
      · have hzero : as.countP (fun a => t ≤ a ∧ a ≤ t + w) = 0 := by
          rw [List.countP_eq_length_filter, hnone, List.length_nil]
        rw [hzero]
        exact Nat.le_add_right_of_le q.burst_pos
      · -- the oldest request of the window has counted every other one before `b` was let through
        obtain ⟨a, ha, hleast⟩ := exists_least hnone
        obtain ⟨hmem, hwindow⟩ := List.mem_filter.mp ha
        have hle : as.countP (fun c => t ≤ c ∧ c ≤ t + w) ≤ since as a := by
          apply List.countP_mono_left
          intro c hc hin
          simpa using hleast c (List.mem_filter.mpr ⟨hc, hin⟩)
        have hspan : (b - a) / q.period ≤ w / q.period := by
          apply Nat.div_le_div_right
          have hin : t ≤ a ∧ a ≤ t + w := by simpa using hwindow
          omega
        have hone := hfits a hmem
        omega
    · rw [List.countP_cons_of_neg (by simpa using hb)]
      exact ih

theorem since_mul_le (h : as.Pairwise (fun b a => a + q.period ≤ b))
    (ht : ∀ a ∈ as, a + q.period ≤ t) : ∀ a ∈ as, since as a * q.period ≤ t - a := by
  induction as generalizing t with
  | nil => simp
  | cons b bs ih =>
    obtain ⟨hb, hbs⟩ := List.pairwise_cons.mp h
    have hlast := ht b List.mem_cons_self
    intro a ha
    rcases List.mem_cons.mp ha with rfl | ha
    · have hone : since (a :: bs) a = 1 := by
        have hzero : since bs a = 0 := by
          rw [since, List.countP_eq_zero]
          intro c hc
          have hperiod := q.period_pos
          have hc := hb c hc
          simp only [decide_eq_true_eq]
          omega
        rw [since, List.countP_cons_of_pos (by simp), ← since, hzero]
      rw [hone]
      omega
    · have hspaced := hb a ha
      have hrest := ih hbs hb a ha
      have hcount : since (b :: bs) a = since bs a + 1 := by
        rw [since, List.countP_cons_of_pos (by simp only [decide_eq_true_eq]; omega), ← since]
      rw [hcount, Nat.succ_mul]
      omega

theorem conforms_of_spaced (h : as.Pairwise (fun b a => a + q.period ≤ b))
    (ht : ∀ a ∈ as, a + q.period ≤ t) : Conforms q as t := by
  intro a ha
  have hperiods : since as a ≤ (t - a) / q.period :=
    (Nat.le_div_iff_mul_le q.period_pos).mpr (since_mul_le h ht a ha)
  have hburst := q.burst_pos
  omega

/-- What a limiter keeps and what it does with a request: whether the request may pass. -/
structure Limiter (Key : Type) where
  State : Type
  fresh : State
  check : Quota → State → Key → Nat → Bool × State

section
variable {Key : Type} [DecidableEq Key]

def record (q : Quota) (as : Key → List Nat) (k : Key) (t : Nat) : Key → List Nat :=
  if Conforms q (as k) t then Function.update as k (t :: as k) else as

/-- A relation between what the limiter keeps and what it has let through, under which it lets
through what fits. The clock does not go back. -/
structure Tracks (L : Limiter Key) (q : Quota) (R : L.State → (Key → List Nat) → Prop) : Prop where
  fresh : R L.fresh (fun _ => [])
  check : ∀ {s : L.State} {as : Key → List Nat} (k : Key) (t : Nat), R s as →
    (∀ k, ∀ a ∈ as k, a ≤ t) →
    (L.check q s k t).1 = decide (Conforms q (as k) t) ∧
      R (L.check q s k t).2 (record q as k t)

def Limiter.Lawful (L : Limiter Key) : Prop := ∀ q, ∃ R, Tracks L q R

def Limiter.pool {ι : Type} [DecidableEq ι] (L : Limiter Key) : Limiter (ι × Key) where
  State := ι → L.State
  fresh := fun _ => L.fresh
  check q s k t := ((L.check q (s k.1) k.2 t).1,
    Function.update s k.1 (L.check q (s k.1) k.2 t).2)

theorem record_pool {ι : Type} [DecidableEq ι] (as : ι × Key → List Nat) (k : ι × Key) (t : Nat)
    (i : ι) : (fun key => record q as k t (i, key)) =
      if i = k.1 then record q (fun key => as (i, key)) k.2 t else fun key => as (i, key) := by
  obtain ⟨j, key⟩ := k
  by_cases hi : i = j
  · subst hi
    by_cases hfits : Conforms q (as (i, key)) t
    · simp only [record, if_pos hfits, if_true]
      funext other
      by_cases ho : other = key
      · subst ho
        simp
      · simp [Function.update_of_ne, ho]
    · simp [record, hfits]
  · rw [if_neg hi]
    unfold record
    split
    · funext other
      simp [Function.update_of_ne, hi]
    · rfl

theorem Limiter.Lawful.pool {ι : Type} [DecidableEq ι] {L : Limiter Key} (h : L.Lawful) :
    (L.pool : Limiter (ι × Key)).Lawful := by
  intro q
  obtain ⟨R, hR⟩ := h q
  refine ⟨fun s as => ∀ i, R (s i) (fun key => as (i, key)), fun _ => hR.fresh, ?_⟩
  intro (s : ι → L.State) as k t hs hclock
  obtain ⟨hanswer, hnext⟩ := hR.check k.2 t (hs k.1) (fun key => hclock (k.1, key))
  refine ⟨hanswer, fun i => ?_⟩
  rw [record_pool]
  change R (Function.update s k.1 _ i) _
  by_cases hi : i = k.1
  · subst hi
    rw [if_pos rfl, Function.update_self]
    exact hnext
  · rw [if_neg hi, Function.update_of_ne hi]
    exact hs i

/-- The instants of one key that are let through, after those of the past. -/
def admits (q : Quota) : List Nat → List Nat → List Nat
  | _, [] => []
  | as, t :: ts => if Conforms q as t then t :: admits q (t :: as) ts else admits q as ts

theorem length_admits_le (as ts : List Nat) : (admits q as ts).length ≤ ts.length := by
  induction ts generalizing as with
  | nil => exact Nat.le_refl 0
  | cons t ts ih =>
    unfold admits
    split
    · exact Nat.succ_le_succ (ih (t :: as))
    · exact Nat.le_succ_of_le (ih as)

theorem record_apply (as : Key → List Nat) (k : Key) (t : Nat) (other : Key) :
    record q as k t other =
      if k = other ∧ Conforms q (as k) t then t :: as k else as other := by
  unfold record
  by_cases hfits : Conforms q (as k) t
  · by_cases hk : k = other
    · subst hk
      simp [hfits]
    · simp [hfits, hk, Function.update_of_ne (Ne.symm hk)]
  · simp [hfits]

theorem le_record {as : Key → List Nat} {k : Key} {t t' : Nat} (htime : t ≤ t')
    (h : ∀ k, ∀ a ∈ as k, a ≤ t) : ∀ k', ∀ a ∈ record q as k t k', a ≤ t' := by
  intro k' a ha
  rw [record_apply] at ha
  split at ha
  · rcases List.mem_cons.mp ha with rfl | ha
    · exact htime
    · exact Nat.le_trans (h k a ha) htime
  · exact Nat.le_trans (h k' a ha) htime

variable {α : Type} (key : α → Key) (time : α → Nat)

def Limiter.passed (L : Limiter Key) (q : Quota) : L.State → List α → List α
  | _, [] => []
  | s, c :: cs =>
    if (L.check q s (key c) (time c)).1 then
      c :: L.passed q (L.check q s (key c) (time c)).2 cs
    else L.passed q (L.check q s (key c) (time c)).2 cs

def instants (k : Key) (cs : List α) : List Nat := (cs.filter (fun c => key c = k)).map time

def Clocked (cs : List α) : Prop := cs.Pairwise (fun c d => time c ≤ time d)

variable {key time}

theorem instants_cons (k : Key) (c : α) (cs : List α) :
    instants key time k (c :: cs) =
      if key c = k then time c :: instants key time k cs else instants key time k cs := by
  unfold instants
  by_cases h : key c = k
  · simp [h]
  · simp [h]

omit [DecidableEq Key] in
theorem Limiter.mem_of_mem_passed {L : Limiter Key} {s : L.State} {cs : List α} {c : α}
    (h : c ∈ L.passed key time q s cs) : c ∈ cs := by
  induction cs generalizing s with
  | nil => exact h
  | cons d cs ih =>
    unfold Limiter.passed at h
    split at h
    · rcases List.mem_cons.mp h with rfl | h
      · exact List.mem_cons_self
      · exact List.mem_cons_of_mem d (ih h)
    · exact List.mem_cons_of_mem d (ih h)

section
variable {L : Limiter Key} {R : L.State → (Key → List Nat) → Prop} {s : L.State}
  {as : Key → List Nat} {cs : List α}

theorem Tracks.instants_passed (hR : Tracks L q R) (k : Key) (hclock : Clocked time cs)
    (hs : R s as) (hpast : ∀ c ∈ cs, ∀ k, ∀ a ∈ as k, a ≤ time c) :
    instants key time k (L.passed key time q s cs) =
      admits q (as k) (instants key time k cs) := by
  induction cs generalizing s as with
  | nil => rfl
  | cons c cs ih =>
    obtain ⟨hlater, hclock⟩ := List.pairwise_cons.mp hclock
    have hnow := hpast c List.mem_cons_self
    obtain ⟨hanswer, hnext⟩ := hR.check (key c) (time c) hs hnow
    have hrest := ih hclock hnext (fun d hd => le_record (hlater d hd) hnow)
    rw [record_apply] at hrest
    simp only [Limiter.passed, hanswer, decide_eq_true_eq, instants_cons]
    by_cases hk : key c = k
    · subst hk
      by_cases hfits : Conforms q (as (key c)) (time c)
      · simpa [hfits, instants_cons, admits] using hrest
      · simpa [hfits, admits] using hrest
    · by_cases hfits : Conforms q (as (key c)) (time c)
      · simpa [hfits, hk, instants_cons] using hrest
      · simpa [hfits, hk] using hrest

theorem Tracks.passed_eq_self (hR : Tracks L q R) (hclock : Clocked time cs) (hs : R s as)
    (hpast : ∀ c ∈ cs, ∀ k, ∀ a ∈ as k, a ≤ time c)
    (h : ∀ k, admits q (as k) (instants key time k cs) = instants key time k cs) :
    L.passed key time q s cs = cs := by
  induction cs generalizing s as with
  | nil => rfl
  | cons c cs ih =>
    obtain ⟨hlater, hclock⟩ := List.pairwise_cons.mp hclock
    have hnow := hpast c List.mem_cons_self
    obtain ⟨hanswer, hnext⟩ := hR.check (key c) (time c) hs hnow
    have hown := h (key c)
    rw [instants_cons, if_pos rfl] at hown
    have hfits : Conforms q (as (key c)) (time c) := by
      by_contra hno
      have hlength := @length_admits_le q (as (key c)) (instants key time (key c) cs)
      rw [admits, if_neg hno] at hown
      rw [hown, List.length_cons] at hlength
      omega
    rw [Limiter.passed, hanswer, if_pos (decide_eq_true hfits)]
    refine congrArg (c :: ·) (ih hclock hnext (fun d hd => le_record (hlater d hd) hnow) ?_)
    intro k
    rw [record_apply]
    by_cases hk : key c = k
    · subst hk
      rw [if_pos ⟨rfl, hfits⟩]
      rw [admits, if_pos hfits] at hown
      exact (List.cons.inj hown).2
    · rw [if_neg (fun hc => hk hc.1)]
      have hother := h k
      rwa [instants_cons, if_neg hk] at hother

theorem Tracks.passed_filter (hR : Tracks L q R) (p : Key → Bool) (hclock : Clocked time cs)
    (hs : R s as) (hpast : ∀ c ∈ cs, ∀ k, ∀ a ∈ as k, a ≤ time c) {s' : L.State}
    {as' : Key → List Nat} (hs' : R s' as') (hpast' : ∀ c ∈ cs, ∀ k, ∀ a ∈ as' k, a ≤ time c)
    (hsame : ∀ k, p k = true → as k = as' k) :
    (L.passed key time q s cs).filter (fun c => p (key c)) =
      L.passed key time q s' (cs.filter (fun c => p (key c))) := by
  induction cs generalizing s as s' as' with
  | nil => rfl
  | cons c cs ih =>
    obtain ⟨hlater, hclock⟩ := List.pairwise_cons.mp hclock
    have hnow := hpast c List.mem_cons_self
    obtain ⟨hanswer, hnext⟩ := hR.check (key c) (time c) hs hnow
    have hthen : ∀ d ∈ cs, ∀ k, ∀ a ∈ record q as (key c) (time c) k, a ≤ time d :=
      fun d hd => le_record (hlater d hd) hnow
    by_cases hp : p (key c) = true
    · have hnow' := hpast' c List.mem_cons_self
      obtain ⟨hanswer', hnext'⟩ := hR.check (key c) (time c) hs' hnow'
      have hrest := ih hclock hnext hthen hnext' (fun d hd => le_record (hlater d hd) hnow')
        (fun k hk => by rw [record_apply, record_apply, hsame k hk, hsame (key c) hp])
      rw [hsame (key c) hp] at hanswer
      simp only [Limiter.passed, hanswer, List.filter_cons, hp, if_true, hanswer', ← hrest]
      split
      · simp only [List.filter_cons, hp, if_true]
      · rfl
    · have hrest := ih hclock hnext hthen hs' (fun d hd => hpast' d (List.mem_cons_of_mem c hd))
        (fun k hk => by
          have hne : key c ≠ k := fun he => hp (he ▸ hk)
          rw [record_apply, if_neg (by simp [hne]), hsame k hk])
      simp only [Limiter.passed, List.filter_cons, hp, if_false, ← hrest, Bool.false_eq_true]
      split
      · simp only [List.filter_cons, hp, if_false, Bool.false_eq_true]
      · rfl

end

theorem instants_map {β : Type} (f : β → α) (k : Key) (cs : List β) :
    instants key time k (cs.map f) = instants (key ∘ f) (time ∘ f) k cs := by
  simp [instants, List.filter_map, Function.comp_def]

theorem countP_instants (k : Key) (p : Nat → Bool) (cs : List α) :
    (instants key time k cs).countP p = cs.countP (fun c => p (time c) && key c = k) := by
  simp [instants, List.countP_map, List.countP_filter, Function.comp_def]

theorem countP_le_mul {g : α → Nat} {p : α → Bool} {m n : Nat} {cs : List α}
    (hg : ∀ c ∈ cs, g c < n) (h : ∀ i, cs.countP (fun c => p c && g c = i) ≤ m) :
    cs.countP p ≤ n * m := by
  induction n generalizing cs with
  | zero =>
    have hnil : cs = [] := List.eq_nil_iff_forall_not_mem.mpr fun c hc =>
      Nat.not_lt_zero (g c) (hg c hc)
    simp [hnil]
  | succ n ih =>
    have hlast := h n
    have hrest := @ih (cs.filter (fun c => !decide (g c = n)))
      (fun c hc => by
        obtain ⟨hmem, hne⟩ := List.mem_filter.mp hc
        have hlt := hg c hmem
        have hne : g c ≠ n := by simpa using hne
        omega)
      (fun i => Nat.le_trans (List.filter_sublist.countP_le) (h i))
    rw [List.countP_eq_countP_filter_add cs p (fun c => decide (g c = n)), List.countP_filter,
      Nat.succ_mul]
    omega

def spread (keys : List α) (times : List Nat) : List (α × Nat) :=
  times.flatMap (fun t => keys.map (fun k => (k, t)))

theorem instants_spread {keys : List Key} (hkeys : keys.Nodup) (times : List Nat) (k : Key) :
    instants Prod.fst Prod.snd k (spread keys times) = if k ∈ keys then times else [] := by
  have hone : ∀ t, instants Prod.fst Prod.snd k (keys.map (fun k => (k, t))) =
      if k ∈ keys then [t] else [] := by
    intro t
    induction keys with
    | nil => rfl
    | cons key keys ih =>
      obtain ⟨hnew, hkeys⟩ := List.nodup_cons.mp hkeys
      rw [List.map_cons, instants_cons, ih hkeys]
      by_cases hk : key = k
      · subst hk
        simp [hnew]
      · simp [hk, Ne.symm hk]
  induction times with
  | nil => simp [spread, instants]
  | cons t times ih =>
    have hsplit : instants Prod.fst Prod.snd k (spread keys (t :: times)) =
        instants Prod.fst Prod.snd k (keys.map (fun k => (k, t))) ++
          instants Prod.fst Prod.snd k (spread keys times) := by
      simp [instants, spread]
    rw [hsplit, hone, ih]
    split <;> rfl

theorem clocked_spread (keys : List α) {times : List Nat} (h : times.Pairwise (· ≤ ·)) :
    Clocked Prod.snd (spread keys times) := by
  unfold Clocked spread
  rw [List.pairwise_flatMap]
  refine ⟨fun t _ => ?_, h.imp fun hle => ?_⟩
  · rw [List.pairwise_map]
    exact List.pairwise_of_forall fun _ _ => Nat.le_refl t
  · simp only [List.mem_map]
    rintro _ ⟨_, _, rfl⟩ _ ⟨_, _, rfl⟩
    exact hle

theorem length_spread (keys : List α) (times : List Nat) :
    (spread keys times).length = times.length * keys.length := by
  simp [spread, List.length_flatMap, List.map_const']

end

theorem Admitted.admits (h : Admitted q as) {ts : List Nat} (hclock : ts.Pairwise (· ≤ ·))
    (hpast : ∀ t ∈ ts, ∀ a ∈ as, a ≤ t) : Admitted q ((admits q as ts).reverse ++ as) := by
  induction ts generalizing as with
  | nil => exact h
  | cons t ts ih =>
    obtain ⟨hlater, hclock⟩ := List.pairwise_cons.mp hclock
    have hnow := hpast t List.mem_cons_self
    unfold RateLimit.admits
    split
    · rename_i hfits
      have hrest := ih (.cons h hnow hfits) hclock (fun t' ht' a ha => ?_)
      · simpa using hrest
      · rcases List.mem_cons.mp ha with rfl | ha
        · exact hlater t' ht'
        · exact hpast t' (List.mem_cons_of_mem t ht') a ha
    · exact ih h hclock (fun t' ht' => hpast t' (List.mem_cons_of_mem t ht'))

theorem countP_admits_le {ts : List Nat} (hclock : ts.Pairwise (· ≤ ·)) (t w : Nat) :
    (admits q [] ts).countP (fun a => t ≤ a ∧ a ≤ t + w) ≤ q.burst + w / q.period := by
  have h := @Admitted.admits q [] .nil ts hclock (by simp)
  have hwindow := h.countP_window_le t w
  simpa using hwindow

theorem admits_of_spaced {ts : List Nat} (hpast : as.Pairwise (fun b a => a + q.period ≤ b))
    (hts : ts.Pairwise (fun a b => a + q.period ≤ b))
    (h : ∀ a ∈ as, ∀ t ∈ ts, a + q.period ≤ t) : admits q as ts = ts := by
  induction ts generalizing as with
  | nil => rfl
  | cons t ts ih =>
    obtain ⟨hlater, hts⟩ := List.pairwise_cons.mp hts
    have hnow : ∀ a ∈ as, a + q.period ≤ t := fun a ha => h a ha t List.mem_cons_self
    rw [admits, if_pos (conforms_of_spaced hpast hnow),
      ih (List.pairwise_cons.mpr ⟨hnow, hpast⟩) hts]
    intro a ha t' ht'
    rcases List.mem_cons.mp ha with rfl | ha
    · exact hlater t' ht'
    · exact h a ha t' (List.mem_cons_of_mem t ht')

def steady (q : Quota) (t n : Nat) : List Nat :=
  List.replicate q.burst t ++ (List.range n).map (fun i => t + (i + 1) * q.period)

theorem admits_replicate (m n : Nat) (h : m + n ≤ q.burst) :
    admits q (List.replicate m t) (List.replicate n t) = List.replicate n t := by
  induction n generalizing m with
  | zero => rfl
  | succ n ih =>
    have hfits : Conforms q (List.replicate m t) t := by
      intro a ha
      obtain ⟨_, rfl⟩ := List.mem_replicate.mp ha
      have hcount : since (List.replicate m a) a = m := by
        simp [since, List.countP_replicate]
      rw [hcount, Nat.sub_self, Nat.zero_div]
      omega
    rw [List.replicate_succ, admits, if_pos hfits, ← List.replicate_succ, ih (m + 1) (by omega)]

theorem admits_append (ts us : List Nat) : admits q as (ts ++ us) =
    admits q as ts ++ admits q ((admits q as ts).reverse ++ as) us := by
  induction ts generalizing as with
  | nil => rfl
  | cons t ts ih =>
    by_cases hfits : Conforms q as t
    · simp [admits, hfits, ih]
    · simp [admits, hfits, ih]

theorem steady_succ (t n : Nat) :
    steady q t (n + 1) = steady q t n ++ [t + (n + 1) * q.period] := by
  simp [steady, List.range_succ]

theorem countP_range_le (i n : Nat) : (List.range n).countP (fun k => i ≤ k) ≤ n - i := by
  induction n with
  | zero => simp
  | succ n ih =>
    rw [List.range_succ, List.countP_append, List.countP_singleton]
    split
    · rename_i h
      have hle : i ≤ n := by simpa using h
      omega
    · omega

theorem since_steady_le (t n i : Nat) : since (steady q t n).reverse (t + (i + 1) * q.period) ≤
    n - i := by
  have hburst : (List.replicate q.burst t).countP (fun b => t + (i + 1) * q.period ≤ b) = 0 := by
    have hlater : ¬ t + (i + 1) * q.period ≤ t := by
      have hperiod : 0 < (i + 1) * q.period := Nat.mul_pos (Nat.succ_pos i) q.period_pos
      omega
    simp [List.countP_replicate, hlater]
  have hlater : (List.range n).countP
      ((fun b => decide (t + (i + 1) * q.period ≤ b)) ∘ fun k => t + (k + 1) * q.period) ≤
      (List.range n).countP (fun k => i ≤ k) := by
    apply List.countP_mono_left
    intro k _ hk
    have hk : (i + 1) * q.period ≤ (k + 1) * q.period := by simpa using hk
    have hle := Nat.le_of_mul_le_mul_right hk q.period_pos
    simpa using Nat.le_of_succ_le_succ hle
  have hrange := countP_range_le i n
  rw [since, List.countP_reverse, steady, List.countP_append, hburst, List.countP_map]
  omega

theorem admits_steady (t n : Nat) : admits q [] (steady q t n) = steady q t n := by
  induction n with
  | zero =>
    have hzero := @admits_replicate q t 0 q.burst (by omega)
    simpa [steady] using hzero
  | succ n ih =>
    have hfits : Conforms q (steady q t n).reverse (t + (n + 1) * q.period) := by
      intro a ha
      have hpos := q.burst_pos
      rcases List.mem_append.mp (List.mem_reverse.mp ha) with ha | ha
      · obtain ⟨_, rfl⟩ := List.mem_replicate.mp ha
        have hle : since (steady q a n).reverse a ≤ (steady q a n).reverse.length :=
          List.countP_le_length
        have hlength : (steady q a n).reverse.length = q.burst + n := by
          simp [steady, Nat.add_comm]
        rw [Nat.add_sub_cancel_left, Nat.mul_div_cancel _ q.period_pos]
        omega
      · obtain ⟨i, hi, rfl⟩ := List.mem_map.mp ha
        have hin := List.mem_range.mp hi
        have hcount := @since_steady_le q t n i
        have hspan : t + (n + 1) * q.period - (t + (i + 1) * q.period) =
            (n - i) * q.period := by
          rw [Nat.add_sub_add_left, ← Nat.sub_mul, Nat.succ_sub_succ]
        rw [hspan, Nat.mul_div_cancel _ q.period_pos]
        omega
    rw [steady_succ, admits_append, ih, List.append_nil, admits, if_pos hfits]
    rfl

def theoretical (q : Quota) : List Nat → Nat
  | [] => 0
  | a :: as => max (theoretical q as) a + q.period

/-- `gcra` keeps one instant for each key: when the next request would be due. -/
def gcra {Key : Type} [DecidableEq Key] : Limiter Key where
  State := Key → Nat
  fresh := fun _ => 0
  check q s k t :=
    if s k ≤ t + (q.burst - 1) * q.period then
      (true, Function.update s k (max (s k) t + q.period))
    else (false, s)

theorem theoretical_le_iff {x : Nat} (hsorted : as.Pairwise (fun b a => a ≤ b)) :
    theoretical q as ≤ x ↔ ∀ a ∈ as, a + since as a * q.period ≤ x := by
  induction as generalizing x with
  | nil => simp [theoretical]
  | cons b bs ih =>
    obtain ⟨hb, hbs⟩ := List.pairwise_cons.mp hsorted
    have hcount : ∀ a, a ≤ b → since (b :: bs) a * q.period =
        since bs a * q.period + q.period := by
      intro a ha
      rw [since, List.countP_cons_of_pos (by simpa using ha), ← since, Nat.succ_mul]
    rw [List.forall_mem_cons, hcount b (Nat.le_refl b)]
    constructor
    · intro h
      have hmax : max (theoretical q bs) b + q.period ≤ x := h
      have hrest := (ih hbs).mp (show theoretical q bs ≤ x - q.period by omega)
      refine ⟨?_, fun a ha => ?_⟩
      · by_cases hin : b ∈ bs
        · have hle := hrest b hin
          omega
        · have hnone : since bs b = 0 := by
            rw [since, List.countP_eq_zero]
            intro c hc
            have hne : c ≠ b := fun he => hin (he ▸ hc)
            have hle := hb c hc
            simp only [decide_eq_true_eq]
            omega
          rw [hnone]
          omega
      · have hle := hrest a ha
        rw [hcount a (hb a ha)]
        omega
    · rintro ⟨hlast, hrest⟩
      have hbs' : theoretical q bs ≤ x - q.period := by
        refine (ih hbs).mpr fun a ha => ?_
        have hle := hrest a ha
        rw [hcount a (hb a ha)] at hle
        omega
      change max (theoretical q bs) b + q.period ≤ x
      omega

theorem conforms_iff_theoretical (hsorted : as.Pairwise (fun b a => a ≤ b))
    (hpast : ∀ a ∈ as, a ≤ t) :
    Conforms q as t ↔ theoretical q as ≤ t + (q.burst - 1) * q.period := by
  rw [theoretical_le_iff hsorted]
  refine forall₂_congr fun a ha => ?_
  have hpos := q.burst_pos
  have hle := hpast a ha
  have hdiv := @Nat.le_div_iff_mul_le q.period (since as a - (q.burst - 1)) (t - a) q.period_pos
  rw [Nat.sub_mul] at hdiv
  generalize (t - a) / q.period = periods at hdiv ⊢
  omega

theorem gcra_lawful {Key : Type} [DecidableEq Key] : (@gcra Key _).Lawful := by
  intro q
  refine ⟨fun s as => ∀ k, s k = theoretical q (as k) ∧ (as k).Pairwise (fun b a => a ≤ b),
    fun _ => ⟨rfl, .nil⟩, ?_⟩
  intro (s : Key → Nat) as k t hs hpast
  obtain ⟨htat, hsorted⟩ := hs k
  have hiff := @conforms_iff_theoretical q (as k) t hsorted (hpast k)
  simp only [gcra, htat]
  by_cases hfits : Conforms q (as k) t
  · rw [if_pos (hiff.mp hfits)]
    refine ⟨by simp [hfits], fun other => ?_⟩
    rw [record_apply]
    by_cases hk : k = other
    · subst hk
      rw [if_pos ⟨rfl, hfits⟩]
      exact ⟨by simp [theoretical], List.pairwise_cons.mpr ⟨hpast k, hsorted⟩⟩
    · rw [if_neg (fun h => hk h.1)]
      simpa [Function.update_of_ne (Ne.symm hk)] using hs other
  · rw [if_neg (fun h => hfits (hiff.mpr h))]
    refine ⟨by simp [hfits], fun other => ?_⟩
    rw [record_apply, if_neg (fun h => hfits h.2)]
    exact hs other

end RateLimit
