import AuthVerifier.AppRoles

/-!
The bound on secret-IDs, over every order in which the statements of concurrent calls may run. Every
consumption traces back to the creation of the secret-ID: the uses granted there are what has been
consumed, what is written and not yet committed, and what the row has left.
-/

set_option autoImplicit false

namespace AuthVerifier.AppRoles
open Concurrent Relational Transition

def Event.creates (accessor : String) : Event → Bool
  | .created secret => secret.accessor == accessor
  | _ => false

def Event.consumes (accessor : String) : Event → Bool
  | .consumed _ _ a _ _ => a == accessor
  | _ => false

def Event.ends (secret : AppSecretId) : Event → Bool
  | .destroyed roleName accessor => roleName == secret.roleName && accessor == secret.accessor
  | .roleDeleted name => name == secret.roleName
  | _ => false

/-- The last secret-ID created under its accessor, and what happened since. -/
structure LastCreated (log : List Event) (secret : AppSecretId) (since : List Event) : Prop where
  split : ∃ older, log = since ++ .created secret :: older
  last : ∀ e ∈ since, e.creates secret.accessor = false

def Alive (secret : AppSecretId) (since : List Event) : Prop := ∀ e ∈ since, e.ends secret = false

def timesConsumed (accessor : String) (since : List Event) : Int :=
  since.countP (Event.consumes accessor)

section
variable {log since since' : List Event} {secret secret' : AppSecretId} {e : Event}

theorem LastCreated.unique (h : LastCreated log secret since) (h' : LastCreated log secret' since')
    (ha : secret.accessor = secret'.accessor) : secret = secret' ∧ since = since' := by
  obtain ⟨older, hs⟩ := h.split
  obtain ⟨older', hs'⟩ := h'.split
  rw [hs] at hs'
  rcases List.append_eq_append_iff.mp hs' with ⟨as, hsince, hrest⟩ | ⟨as, hsince, hrest⟩
  · cases as with
    | nil => simp_all
    | cons a as =>
      simp only [List.cons_append, List.cons.injEq] at hrest
      have hno := h'.last a (by simp [hsince])
      simp [← hrest.1, Event.creates, ha] at hno
  · cases as with
    | nil => simp_all
    | cons a as =>
      simp only [List.cons_append, List.cons.injEq] at hrest
      have hno := h.last a (by simp [hsince])
      simp [← hrest.1, Event.creates, ha] at hno

theorem LastCreated.new (secret : AppSecretId) (log : List Event) :
    LastCreated (.created secret :: log) secret [] :=
  ⟨⟨log, rfl⟩, by simp⟩

theorem LastCreated.cons (h : LastCreated log secret since)
    (he : e.creates secret.accessor = false) : LastCreated (e :: log) secret (e :: since) := by
  obtain ⟨older, hs⟩ := h.split
  refine ⟨⟨older, by simp [hs]⟩, ?_⟩
  intro x hx
  rcases List.mem_cons.mp hx with rfl | hx
  · exact he
  · exact h.last x hx

theorem LastCreated.of_cons (h : LastCreated (e :: log) secret since) :
    (e = .created secret ∧ since = []) ∨
      (e.creates secret.accessor = false ∧
        ∃ since', since = e :: since' ∧ LastCreated log secret since') := by
  obtain ⟨older, hs⟩ := h.split
  cases since with
  | nil =>
    simp only [List.nil_append, List.cons.injEq] at hs
    exact .inl ⟨hs.1, rfl⟩
  | cons x since =>
    simp only [List.cons_append, List.cons.injEq] at hs
    obtain ⟨rfl, hs⟩ := hs
    refine .inr ⟨h.last e List.mem_cons_self, since, rfl, ⟨older, hs⟩, ?_⟩
    exact fun y hy => h.last y (List.mem_cons_of_mem e hy)

theorem Alive.cons (h : Alive secret since) (he : e.ends secret = false) :
    Alive secret (e :: since) := by
  intro x hx
  rcases List.mem_cons.mp hx with rfl | hx
  · exact he
  · exact h x hx

theorem timesConsumed_cons_of_not {accessor : String} (he : e.consumes accessor = false) :
    timesConsumed accessor (e :: since) = timesConsumed accessor since := by
  simp [timesConsumed, he]

end

/-- A transaction has written a use of the secret-ID and not yet ended. -/
def Pending (w : World) (accessor : String) : Prop :=
  ∃ c ∈ w.calls, ∃ lock : Lock, c.phase = .written lock ∧ lock.accessor = accessor

open Classical in
noncomputable def pendingUses (w : World) (accessor : String) : Int :=
  if Pending w accessor then 1 else 0

theorem pendingUses_le {w w' : World} {accessor : String}
    (h : Pending w' accessor → Pending w accessor) :
    pendingUses w' accessor ≤ pendingUses w accessor := by
  unfold pendingUses
  split
  · rename_i hp
    exact Int.le_of_eq (if_pos (h hp)).symm
  · split
    · decide
    · decide

theorem pendingUses_of_not {w : World} {accessor : String} (h : ¬ Pending w accessor) :
    pendingUses w accessor = 0 := if_neg h

theorem pendingUses_of {w : World} {accessor : String} (h : Pending w accessor) :
    pendingUses w accessor = 1 := if_pos h

/-- A consumption was for the role and within the life of the secret-ID it is of, by the time the
call worked with. -/
def Legit (older : List Event) : Event → Prop
  | .consumed _ roleName accessor now _ => ∃ secret since, LastCreated older secret since ∧
      secret.accessor = accessor ∧ secret.roleName = roleName ∧
      (secret.expiry = 0 ∨ now < secret.expiry) ∧ Alive secret since
  | _ => True

structure Sound (b : SqlBackend) (w : World) : Prop where
  /-- The uses left. -/
  uses : ∀ s ∈ w.secrets, s.numUsesRemaining = -1 ∨ 1 ≤ s.numUsesRemaining
  /-- Rows are as they were created, up to the uses left. -/
  rows : ∀ s ∈ w.secrets, ∃ secret since, LastCreated w.log secret since ∧
    s = { secret with numUsesRemaining := s.numUsesRemaining } ∧
    (1 ≤ secret.numUsesRemaining → 1 ≤ s.numUsesRemaining) ∧ Alive secret since
  /-- No more uses than were granted, while there is a row and after. -/
  left : ∀ s ∈ w.secrets, ∀ secret since, LastCreated w.log secret since →
    secret.accessor = s.accessor → 1 ≤ secret.numUsesRemaining →
    timesConsumed s.accessor since + pendingUses w s.accessor + s.numUsesRemaining ≤
      secret.numUsesRemaining
  gone : ∀ secret since, LastCreated w.log secret since → 1 ≤ secret.numUsesRemaining →
    timesConsumed secret.accessor since + pendingUses w secret.accessor ≤ secret.numUsesRemaining
  /-- What is about to be stored has uses as rows have. -/
  storing : ∀ c ∈ w.calls, ∀ s, c.phase = .storing s →
    s.numUsesRemaining = -1 ∨ 1 ≤ s.numUsesRemaining
  /-- A row that a transaction holds is as it found it. -/
  selected : ∀ c ∈ w.calls, ∀ lock n, c.phase = .selected lock n →
    ∃ s ∈ w.secrets, s.accessor = lock.accessor ∧ s.numUsesRemaining = n ∧
      consumable lock.roleName lock.secretIdHash lock.now s = true
  written : ∀ c ∈ w.calls, ∀ lock, c.phase = .written lock →
    ∃ secret since, LastCreated w.log secret since ∧ secret.accessor = lock.accessor ∧
      consumable lock.roleName lock.secretIdHash lock.now secret = true ∧ Alive secret since
  /-- One transaction holds a row. -/
  exclusive : ∀ c ∈ w.calls, ∀ c' ∈ w.calls, ∀ l l', c.phase.lock = some l →
    c'.phase.lock = some l' → l.accessor = l'.accessor → c = c'
  /-- SQLite has one writer. -/
  single : b = .sqlite → ∀ c ∈ w.calls, ∀ c' ∈ w.calls, c.phase.inTx = true →
    c'.phase.inTx = true → c = c'
  history : ∀ newer e older, w.log = newer ++ e :: older → Legit older e

section Calls
variable {w : World} {c : Call}

theorem inTx_of_lock {phase : Phase} {lock : Lock} (h : phase.lock = some lock) :
    phase.inTx = true := by
  cases phase <;> first | rfl | cases h

theorem of_not_waits {b : SqlBackend} {touches : Lock → Bool} (h : w.waits touches b = false)
    (hc : c ∈ w.calls) {lock : Lock} (hl : c.phase.lock = some lock) : touches lock = false := by
  cases b with
  | sqlite =>
    have hno := List.any_eq_false.mp h c hc
    exact absurd (inTx_of_lock hl) hno
  | postgres =>
    have hno := List.any_eq_false.mp h c hc
    simpa [hl] using hno
  | mysql =>
    have hno := List.any_eq_false.mp h c hc
    simpa [hl] using hno

end Calls

section Spend
variable {w : World} {accessor : String} {numUses : Int}

theorem spend_calls : (spend w accessor numUses).calls = w.calls := by
  unfold spend
  split
  · rfl
  · split
    · rfl
    · rfl

theorem spend_log : (spend w accessor numUses).log = w.log := by
  unfold spend
  split
  · rfl
  · split
    · rfl
    · rfl

theorem mem_spend {s' : AppSecretId} : s' ∈ (spend w accessor numUses).secrets ↔
    (s' ∈ w.secrets ∧ s'.accessor ≠ accessor) ∨
      (numUses ≠ 1 ∧ ∃ s ∈ w.secrets, s.accessor = accessor ∧
        s' = { s with numUsesRemaining :=
          if numUses > 1 then s.numUsesRemaining - 1 else s.numUsesRemaining }) := by
  unfold spend
  by_cases hone : numUses = 1
  · simp [hone]
  · rw [if_neg hone]
    by_cases hmore : numUses > 1
    · rw [if_pos hmore]
      refine (@Table.mem_updateWhere_key _ _ _ _ w.secrets accessor
        (fun secret => { secret with numUsesRemaining := secret.numUsesRemaining - 1 })
        (fun _ => rfl) s').trans (or_congr_right ?_)
      constructor
      · rintro ⟨s, hs, ha, rfl⟩
        exact ⟨hone, s, hs, ha, by simp [hmore]⟩
      · rintro ⟨_, s, hs, ha, rfl⟩
        exact ⟨s, hs, ha, by simp [hmore]⟩
    · rw [if_neg hmore]
      simp only [hmore, if_false]
      constructor
      · intro hs
        by_cases ha : s'.accessor = accessor
        · exact .inr ⟨hone, s', hs, ha, rfl⟩
        · exact .inl ⟨hs, ha⟩
      · rintro (⟨hs, _⟩ | ⟨_, s, hs, _, rfl⟩)
        · exact hs
        · exact hs

end Spend

namespace Sound
variable {b : SqlBackend} {w w' : World}

theorem of_calls (h : Sound b w) (hsecrets : w'.secrets = w.secrets) (hlog : w'.log = w.log)
    (hlock : ∀ c ∈ w'.calls, ∀ l, c.phase.lock = some l → c ∈ w.calls)
    (hstoring : ∀ c ∈ w'.calls, ∀ s, c.phase = .storing s →
      s.numUsesRemaining = -1 ∨ 1 ≤ s.numUsesRemaining)
    (hsingle : b = .sqlite → ∀ c ∈ w'.calls, ∀ c' ∈ w'.calls, c.phase.inTx = true →
      c'.phase.inTx = true → c = c') : Sound b w' := by
  have hpending (a : String) : pendingUses w' a ≤ pendingUses w a := by
    apply pendingUses_le
    rintro ⟨c, hc, lock, hphase, ha⟩
    exact ⟨c, hlock c hc lock (by rw [hphase]; rfl), lock, hphase, ha⟩
  refine ⟨?_, ?_, ?_, ?_, hstoring, ?_, ?_, ?_, hsingle, ?_⟩
  · rw [hsecrets]
    exact h.uses
  · rw [hsecrets, hlog]
    exact h.rows
  · rw [hsecrets, hlog]
    intro s hs secret since hlast ha hn
    have := h.left s hs secret since hlast ha hn
    have := hpending s.accessor
    omega
  · rw [hlog]
    intro secret since hlast hn
    have := h.gone secret since hlast hn
    have := hpending secret.accessor
    omega
  · rw [hsecrets]
    intro c hc lock n hphase
    exact h.selected c (hlock c hc lock (by rw [hphase]; rfl)) lock n hphase
  · rw [hlog]
    intro c hc lock hphase
    exact h.written c (hlock c hc lock (by rw [hphase]; rfl)) lock hphase
  · intro c hc c' hc' l l' hl hl'
    exact h.exclusive c (hlock c hc l hl) c' (hlock c' hc' l' hl') l l' hl hl'
  · rw [hlog]
    exact h.history

theorem of_same (h : Sound b w) (hsecrets : w'.secrets = w.secrets) (hlog : w'.log = w.log)
    (hcalls : w'.calls = w.calls) : Sound b w' := by
  refine h.of_calls hsecrets hlog ?_ ?_ ?_
  · rw [hcalls]
    exact fun c hc _ _ => hc
  · rw [hcalls]
    exact h.storing
  · rw [hcalls]
    exact h.single

theorem of_idle (h : Sound b w) (new : Call) (hsecrets : w'.secrets = w.secrets)
    (hlog : w'.log = w.log) (hcalls : ∀ c ∈ w'.calls, c ∈ w.calls ∨ c = new)
    (hidle : new.phase.inTx = false)
    (hstoring : ∀ s, new.phase = .storing s → s.numUsesRemaining = -1 ∨ 1 ≤ s.numUsesRemaining) :
    Sound b w' := by
  have hold {c : Call} (hc : c ∈ w'.calls) (htx : c.phase.inTx = true) : c ∈ w.calls := by
    rcases hcalls c hc with hc | rfl
    · exact hc
    · rw [hidle] at htx
      cases htx
  refine h.of_calls hsecrets hlog (fun c hc l hl => hold hc (inTx_of_lock hl)) ?_ ?_
  · intro c hc s hs
    rcases hcalls c hc with hc | rfl
    · exact h.storing c hc s hs
    · exact hstoring s hs
  · exact fun hb c hc c' hc' htx htx' => h.single hb c (hold hc htx) c' (hold hc' htx') htx htx'

theorem finish (h : Sound b w) (pid : Nat) (answer : Answer) : Sound b (w.finish pid answer) := by
  refine h.of_calls rfl rfl (fun c hc _ _ => (Jobs.mem_finish.mp hc).1)
    (fun c hc => h.storing c (Jobs.mem_finish.mp hc).1) ?_
  exact fun hb c hc c' hc' => h.single hb c (Jobs.mem_finish.mp hc).1 c' (Jobs.mem_finish.mp hc').1

theorem start (h : Sound b w) (pid : Nat) (phase : Phase) (hidle : phase.inTx = false)
    (hstoring : ∀ s, phase = .storing s → s.numUsesRemaining = -1 ∨ 1 ≤ s.numUsesRemaining) :
    Sound b (w.start pid phase) :=
  h.of_idle ⟨pid, phase⟩ rfl rfl (fun _ hc => Jobs.mem_start hc) hidle hstoring

theorem setPhase (h : Sound b w) (pid : Nat) (phase : Phase) (hidle : phase.inTx = false)
    (hstoring : ∀ s, phase = .storing s → s.numUsesRemaining = -1 ∨ 1 ≤ s.numUsesRemaining) :
    Sound b (w.setPhase pid phase) := by
  refine h.of_idle ⟨pid, phase⟩ rfl rfl (fun c hc => ?_) hidle hstoring
  rcases Jobs.mem_setPhase.mp hc with ⟨hc, _⟩ | ⟨rfl, _⟩
  · exact .inl hc
  · exact .inr rfl

theorem begin (h : Sound b w) (pid : Nat) (roleName : String) (secretIdHash : List UInt8)
    (now : Int) : Sound b (begin b w pid roleName secretIdHash now) := by
  unfold AppRoles.begin
  split
  · exact h
  · rename_i hwaits
    refine h.of_calls rfl rfl ?_ ?_ ?_
    · intro c hc l hl
      rcases Jobs.mem_setPhase.mp hc with ⟨hc, _⟩ | ⟨rfl, _⟩
      · exact hc
      · cases hl
    · intro c hc s hs
      rcases Jobs.mem_setPhase.mp hc with ⟨hc, _⟩ | ⟨rfl, _⟩
      · exact h.storing c hc s hs
      · cases hs
    · rintro rfl c hc c' hc' htx htx'
      have hno {c : Call} (hc : c ∈ w.calls) : ¬ c.phase.inTx = true :=
        List.any_eq_false.mp (Bool.not_eq_true _ ▸ hwaits) c hc
      rcases Jobs.mem_setPhase.mp hc with ⟨hc, _⟩ | ⟨rfl, _⟩
      · exact absurd htx (hno hc)
      · rcases Jobs.mem_setPhase.mp hc' with ⟨hc', _⟩ | ⟨rfl, _⟩
        · exact absurd htx' (hno hc')
        · rfl

theorem of_lock (h : Sound b w) {c : Call} (hc : c ∈ w.calls) {lock : Lock}
    (hl : c.phase.lock = some lock) :
    ∃ secret since, LastCreated w.log secret since ∧ secret.accessor = lock.accessor ∧
      consumable lock.roleName lock.secretIdHash lock.now secret = true ∧ Alive secret since := by
  cases hphase : c.phase with
  | selected l n =>
    rw [hphase] at hl
    cases hl
    obtain ⟨s, hs, ha, _, hcons⟩ := h.selected c hc lock n hphase
    obtain ⟨secret, since, hlast, hrow, _, halive⟩ := h.rows s hs
    rw [hrow] at ha hcons
    exact ⟨secret, since, hlast, ha, hcons, halive⟩
  | written l =>
    rw [hphase] at hl
    cases hl
    exact h.written c hc lock hphase
  | _ =>
    rw [hphase] at hl
    cases hl

theorem single_setPhase (h : Sound b w) {call : Call} (hcall : call ∈ w.calls)
    (htx : call.phase.inTx = true) (phase : Phase) (hb : b = .sqlite) :
    ∀ c ∈ (w.setPhase call.pid phase).calls, ∀ c' ∈ (w.setPhase call.pid phase).calls,
      c.phase.inTx = true → c'.phase.inTx = true → c = c' := by
  have honly {c : Call} (hc : c ∈ (w.setPhase call.pid phase).calls) (hctx : c.phase.inTx = true) :
      c = ⟨call.pid, phase⟩ := by
    rcases Jobs.mem_setPhase.mp hc with ⟨hc, hne⟩ | ⟨rfl, _⟩
    · exact absurd (congrArg Job.pid (h.single hb c hc call hcall hctx htx)) hne
    · rfl
  intro c hc c' hc' hctx hctx'
  rw [honly hc hctx, honly hc' hctx']

theorem not_held (h : Sound b w) {call : Call} (hcall : call ∈ w.calls)
    {roleName : String} {secretIdHash : List UInt8} {now : Int}
    (hphase : call.phase = .begun roleName secretIdHash now)
    (hwaits : ¬ (b ≠ .sqlite ∧ w.waits
      (fun l => l.roleName == roleName && l.secretIdHash == secretIdHash) b = true))
    {s : AppSecretId} (hs : s ∈ w.secrets) (hcons : consumable roleName secretIdHash now s = true)
    {c : Call} (hc : c ∈ w.calls) {l : Lock} (hl : c.phase.lock = some l) :
    l.accessor ≠ s.accessor := by
  intro ha
  by_cases hb : b = .sqlite
  · have hsame := h.single hb c hc call hcall (inTx_of_lock hl) (by rw [hphase]; rfl)
    rw [hsame, hphase] at hl
    cases hl
  · obtain ⟨secret, since, hlast, haccessor, hcons', _⟩ := h.of_lock hc hl
    obtain ⟨secret', since', hlast', hrow, _, _⟩ := h.rows s hs
    have hacc : secret.accessor = secret'.accessor := by
      rw [haccessor, ha, hrow]
    obtain ⟨rfl, _⟩ := hlast.unique hlast' hacc
    rw [hrow] at hcons
    simp only [consumable, Bool.and_eq_true, beq_iff_eq] at hcons hcons'
    have hwait : w.waits (fun l => l.roleName == roleName && l.secretIdHash == secretIdHash) b =
        false := by
      rw [← Bool.not_eq_true]
      exact fun hw => hwaits ⟨hb, hw⟩
    have hno := of_not_waits hwait hc hl
    simp [← hcons.1.1, ← hcons.1.2, hcons'.1.1, hcons'.1.2] at hno

theorem select (h : Sound b w) {call : Call} (hcall : call ∈ w.calls) {roleName : String}
    {secretIdHash : List UInt8} {now : Int}
    (hphase : call.phase = .begun roleName secretIdHash now) :
    Sound b (select b w call.pid roleName secretIdHash now) := by
  unfold AppRoles.select
  split
  · exact h
  · rename_i hwaits
    split
    · exact h.finish _ _
    · rename_i s hfind
      have hs : s ∈ w.secrets := List.mem_of_find?_eq_some hfind
      have hcons : consumable roleName secretIdHash now s = true := List.find?_some hfind
      have hheld {c : Call} (hc : c ∈ w.calls) {l : Lock} (hl : c.phase.lock = some l) :=
        h.not_held hcall hphase hwaits hs hcons hc hl
      have hpending (a : String) : pendingUses (w.setPhase call.pid
          (.selected ⟨roleName, secretIdHash, now, s.accessor⟩ s.numUsesRemaining)) a ≤
          pendingUses w a := by
        apply pendingUses_le
        rintro ⟨c, hc, lock, hp, ha⟩
        rcases Jobs.mem_setPhase.mp hc with ⟨hc, _⟩ | ⟨rfl, _⟩
        · exact ⟨c, hc, lock, hp, ha⟩
        · cases hp
      refine ⟨h.uses, h.rows, ?_, ?_, ?_, ?_, ?_, ?_, ?_, h.history⟩
      · intro s' hs' secret since hlast ha hn
        have := h.left s' hs' secret since hlast ha hn
        have := hpending s'.accessor
        omega
      · intro secret since hlast hn
        have := h.gone secret since hlast hn
        have := hpending secret.accessor
        omega
      · intro c hc s' hp
        rcases Jobs.mem_setPhase.mp hc with ⟨hc, _⟩ | ⟨rfl, _⟩
        · exact h.storing c hc s' hp
        · cases hp
      · intro c hc lock n hp
        rcases Jobs.mem_setPhase.mp hc with ⟨hc, _⟩ | ⟨rfl, _⟩
        · exact h.selected c hc lock n hp
        · cases hp
          exact ⟨s, hs, rfl, rfl, hcons⟩
      · intro c hc lock hp
        rcases Jobs.mem_setPhase.mp hc with ⟨hc, _⟩ | ⟨rfl, _⟩
        · exact h.written c hc lock hp
        · cases hp
      · intro c hc c' hc' l l' hl hl' ha
        rcases Jobs.mem_setPhase.mp hc with ⟨hc, _⟩ | ⟨rfl, _⟩
        · rcases Jobs.mem_setPhase.mp hc' with ⟨hc', _⟩ | ⟨rfl, _⟩
          · exact h.exclusive c hc c' hc' l l' hl hl' ha
          · cases hl'
            exact absurd ha (hheld hc hl)
        · rcases Jobs.mem_setPhase.mp hc' with ⟨hc', _⟩ | ⟨rfl, _⟩
          · cases hl
            exact absurd ha.symm (hheld hc' hl')
          · rfl
      · exact h.single_setPhase hcall (by rw [hphase]; rfl) _

theorem not_pending (h : Sound b w) {call : Call} (hcall : call ∈ w.calls) {lock : Lock} {n : Int}
    (hphase : call.phase = .selected lock n) : ¬ Pending w lock.accessor := by
  rintro ⟨c, hc, l, hp, ha⟩
  have hsame := h.exclusive c hc call hcall l lock (by rw [hp]; rfl) (by rw [hphase]; rfl) ha
  rw [hsame, hphase] at hp
  cases hp

theorem write (h : Sound b w) {call : Call} (hcall : call ∈ w.calls) {lock : Lock} {n : Int}
    (hphase : call.phase = .selected lock n) : Sound b (write b w call.pid lock n) := by
  unfold AppRoles.write
  split
  · exact h.finish _ _
  · obtain ⟨s, hs, ha, hn, hcons⟩ := h.selected call hcall lock n hphase
    obtain ⟨origin, since₀, hlast₀, hrow, hlimit, halive⟩ := h.rows s hs
    have hacc : origin.accessor = lock.accessor := by
      rw [← ha, hrow]
    have hzero := pendingUses_of_not (h.not_pending hcall hphase)
    have hcalls : ((spend w lock.accessor n).setPhase call.pid (.written lock)).calls =
        (w.setPhase call.pid (.written lock)).calls := by
      simp only [World.setPhase, spend_calls]
    have hlog : ((spend w lock.accessor n).setPhase call.pid (.written lock)).log = w.log :=
      spend_log
    have hmem (s' : AppSecretId) :
        s' ∈ ((spend w lock.accessor n).setPhase call.pid (.written lock)).secrets ↔ _ := mem_spend
    -- The uses of other secret-IDs are as pending as before, those of this one by at most one more.
    have hother {a : String} (hne : a ≠ lock.accessor) :
        pendingUses ((spend w lock.accessor n).setPhase call.pid (.written lock)) a ≤
          pendingUses w a := by
      apply pendingUses_le
      rintro ⟨c, hc, l, hp, hl⟩
      rw [hcalls] at hc
      rcases Jobs.mem_setPhase.mp hc with ⟨hc, _⟩ | ⟨rfl, _⟩
      · exact ⟨c, hc, l, hp, hl⟩
      · cases hp
        exact absurd hl.symm hne
    have hself : pendingUses ((spend w lock.accessor n).setPhase call.pid (.written lock))
        lock.accessor ≤ 1 := by
      unfold pendingUses
      split
      · exact Int.le_refl 1
      · decide
    -- A bounded secret-ID under this accessor has the uses left that were selected.
    have hbound (secret : AppSecretId) (since : List Event) (hlast : LastCreated w.log secret since)
        (heq : secret.accessor = lock.accessor) (hpos : 1 ≤ secret.numUsesRemaining) :
        1 ≤ n ∧ timesConsumed lock.accessor since + n ≤ secret.numUsesRemaining := by
      obtain ⟨rfl, rfl⟩ := hlast.unique hlast₀ (heq.trans hacc.symm)
      have hleft := h.left s hs secret since hlast (by rw [heq, ha]) hpos
      rw [ha, hzero, hn] at hleft
      have := hlimit hpos
      omega
    refine ⟨?_, ?_, ?_, ?_, ?_, ?_, ?_, ?_, ?_, ?_⟩
    · intro s' hs'
      rcases (hmem s').mp hs' with ⟨hs', _⟩ | ⟨hone, s₀, hs₀, ha₀, rfl⟩
      · exact h.uses s' hs'
      · obtain rfl := Table.eq_of_key hs₀ hs (ha₀.trans ha.symm)
        have := h.uses s₀ hs₀
        dsimp only
        split
        · omega
        · omega
    · intro s' hs'
      rw [hlog]
      rcases (hmem s').mp hs' with ⟨hs', _⟩ | ⟨hone, s₀, hs₀, ha₀, rfl⟩
      · exact h.rows s' hs'
      · obtain rfl := Table.eq_of_key hs₀ hs (ha₀.trans ha.symm)
        refine ⟨origin, since₀, hlast₀, by rw [hrow], fun hpos => ?_, halive⟩
        have := hlimit hpos
        dsimp only
        split
        · omega
        · omega
    · intro s' hs' secret since hlast heq hpos
      rw [hlog] at hlast
      rcases (hmem s').mp hs' with ⟨hs', hne⟩ | ⟨hone, s₀, hs₀, ha₀, rfl⟩
      · have := h.left s' hs' secret since hlast heq hpos
        have := hother hne
        omega
      · obtain rfl := Table.eq_of_key hs₀ hs (ha₀.trans ha.symm)
        obtain ⟨hn1, hcount⟩ := hbound secret since hlast (heq.trans ha₀) hpos
        dsimp only
        rw [ha₀, if_pos (by omega)]
        omega
    · intro secret since hlast hpos
      rw [hlog] at hlast
      by_cases heq : secret.accessor = lock.accessor
      · obtain ⟨hn1, hcount⟩ := hbound secret since hlast heq hpos
        rw [heq]
        omega
      · have := h.gone secret since hlast hpos
        have := hother heq
        omega
    · intro c hc s' hp
      rw [hcalls] at hc
      rcases Jobs.mem_setPhase.mp hc with ⟨hc, _⟩ | ⟨rfl, _⟩
      · exact h.storing c hc s' hp
      · cases hp
    · intro c hc l m hp
      rw [hcalls] at hc
      rcases Jobs.mem_setPhase.mp hc with ⟨hc, hpid⟩ | ⟨rfl, _⟩
      · obtain ⟨s', hs', hl, hm, hcons'⟩ := h.selected c hc l m hp
        have hne : s'.accessor ≠ lock.accessor := by
          rw [hl]
          intro heq
          have hsame := h.exclusive c hc call hcall l lock (by rw [hp]; rfl) (by rw [hphase]; rfl) heq
          exact hpid (congrArg Job.pid hsame)
        exact ⟨s', (hmem s').mpr (.inl ⟨hs', hne⟩), hl, hm, hcons'⟩
      · cases hp
    · intro c hc l hp
      rw [hcalls] at hc
      rw [hlog]
      rcases Jobs.mem_setPhase.mp hc with ⟨hc, _⟩ | ⟨rfl, _⟩
      · exact h.written c hc l hp
      · cases hp
        exact h.of_lock hcall (by rw [hphase]; rfl)
    · intro c hc c' hc' l l' hl hl' heq
      -- The call holds as a writer what it held before.
      have hbefore {c : Call} (hc : c ∈ (w.setPhase call.pid (.written lock)).calls) {l : Lock}
          (hl : c.phase.lock = some l) : ∃ c₀ ∈ w.calls, c₀.pid = c.pid ∧ c₀.phase.lock = some l := by
        rcases Jobs.mem_setPhase.mp hc with ⟨hc, _⟩ | ⟨rfl, _⟩
        · exact ⟨c, hc, rfl, hl⟩
        · cases hl
          exact ⟨call, hcall, rfl, by rw [hphase]; rfl⟩
      have hc₁ := hcalls ▸ hc
      have hc₁' := hcalls ▸ hc'
      obtain ⟨c₀, hc₀, hpid, hl₀⟩ := hbefore hc₁ hl
      obtain ⟨c₀', hc₀', hpid', hl₀'⟩ := hbefore hc₁' hl'
      have hsame := h.exclusive c₀ hc₀ c₀' hc₀' l l' hl₀ hl₀' heq
      exact Table.eq_of_key hc hc' (by rw [← hpid, ← hpid', hsame])
    · rw [hcalls]
      exact h.single_setPhase hcall (by rw [hphase]; rfl) _
    · rw [hlog]
      exact h.history

theorem history_cons {e : Event} (h : Sound b w) (hlegit : Legit w.log e) :
    ∀ newer x older, e :: w.log = newer ++ x :: older → Legit older x := by
  intro newer x older hsplit
  cases newer with
  | nil =>
    simp only [List.nil_append, List.cons.injEq] at hsplit
    obtain ⟨rfl, rfl⟩ := hsplit
    exact hlegit
  | cons y newer =>
    simp only [List.cons_append, List.cons.injEq] at hsplit
    exact h.history newer x older hsplit.2

/-- Steps that log an event other than a creation: the secret-IDs and the calls that are left are
from before, and the event ends none of them. -/
theorem of_event {e : Event} (h : Sound b w) (hlog : w'.log = e :: w.log)
    (hnew : ∀ a, e.creates a = false) (hlegit : Legit w.log e)
    (hsecrets : ∀ s ∈ w'.secrets, s ∈ w.secrets)
    (hcalls : ∀ c ∈ w'.calls, c ∈ w.calls)
    (hends : ∀ s ∈ w'.secrets, ∀ n, e.ends { s with numUsesRemaining := n } = false)
    (hheld : ∀ c ∈ w'.calls, ∀ l, c.phase.lock = some l → ∀ secret : AppSecretId,
      secret.accessor = l.accessor → secret.roleName = l.roleName →
        e.ends secret = false ∧ (secret ∈ w.secrets → secret ∈ w'.secrets))
    (hcount : ∀ a since, timesConsumed a (e :: since) + pendingUses w' a ≤
      timesConsumed a since + pendingUses w a) : Sound b w' := by
  have hlast {secret : AppSecretId} {since : List Event} (hl : LastCreated w'.log secret since) :
      ∃ since', since = e :: since' ∧ LastCreated w.log secret since' := by
    rw [hlog] at hl
    rcases hl.of_cons with ⟨rfl, _⟩ | ⟨_, hl⟩
    · have := hnew secret.accessor
      simp [Event.creates] at this
    · exact hl
  refine ⟨?_, ?_, ?_, ?_, ?_, ?_, ?_, ?_, ?_, ?_⟩
  · exact fun s hs => h.uses s (hsecrets s hs)
  · intro s hs
    obtain ⟨secret, since, hl, hrow, hlimit, halive⟩ := h.rows s (hsecrets s hs)
    rw [hlog]
    refine ⟨secret, e :: since, hl.cons (hnew _), hrow, hlimit, halive.cons ?_⟩
    have hend := hends s hs secret.numUsesRemaining
    rw [hrow] at hend
    exact hend
  · intro s hs secret since hl ha hpos
    obtain ⟨since', rfl, hl'⟩ := hlast hl
    have := h.left s (hsecrets s hs) secret since' hl' ha hpos
    have := hcount s.accessor since'
    omega
  · intro secret since hl hpos
    obtain ⟨since', rfl, hl'⟩ := hlast hl
    have := h.gone secret since' hl' hpos
    have := hcount secret.accessor since'
    omega
  · exact fun c hc => h.storing c (hcalls c hc)
  · intro c hc lock n hp
    obtain ⟨s, hs, ha, hn, hcons⟩ := h.selected c (hcalls c hc) lock n hp
    have hrole : s.roleName = lock.roleName := by
      simp only [consumable, Bool.and_eq_true, beq_iff_eq] at hcons
      exact hcons.1.1
    exact ⟨s, (hheld c hc lock (by rw [hp]; rfl) s ha hrole).2 hs, ha, hn, hcons⟩
  · intro c hc lock hp
    obtain ⟨secret, since, hl, ha, hcons, halive⟩ := h.written c (hcalls c hc) lock hp
    have hrole : secret.roleName = lock.roleName := by
      simp only [consumable, Bool.and_eq_true, beq_iff_eq] at hcons
      exact hcons.1.1
    rw [hlog]
    exact ⟨secret, e :: since, hl.cons (hnew _), ha, hcons,
      halive.cons (hheld c hc lock (by rw [hp]; rfl) secret ha hrole).1⟩
  · intro c hc c' hc'
    exact h.exclusive c (hcalls c hc) c' (hcalls c' hc')
  · intro hb c hc c' hc'
    exact h.single hb c (hcalls c hc) c' (hcalls c' hc')
  · rw [hlog]
    exact h.history_cons hlegit

theorem commit (h : Sound b w) {call : Call} (hcall : call ∈ w.calls) {lock : Lock}
    (hphase : call.phase = .written lock) : Sound b (commit w call.pid lock) := by
  have hcalls {c : Call} (hc : c ∈ (AppRoles.commit w call.pid lock).calls) :
      c ∈ w.calls ∧ c.pid ≠ call.pid :=
    Jobs.mem_finish.mp hc
  have hold : Pending w lock.accessor := ⟨call, hcall, lock, hphase, rfl⟩
  have hnone : ¬ Pending (AppRoles.commit w call.pid lock) lock.accessor := by
    rintro ⟨c, hc, l, hp, ha⟩
    obtain ⟨hc, hpid⟩ := hcalls hc
    have hsame := h.exclusive c hc call hcall l lock (by rw [hp]; rfl) (by rw [hphase]; rfl) ha
    exact hpid (congrArg Job.pid hsame)
  refine h.of_event (e := .consumed call.pid lock.roleName lock.accessor lock.now w.clock) rfl
    (fun _ => rfl) ?_ (fun _ hs => hs) (fun c hc => (hcalls hc).1) (fun _ _ _ => rfl)
    (fun _ _ _ _ _ _ _ => ⟨rfl, id⟩) ?_
  · obtain ⟨secret, since, hl, ha, hcons, halive⟩ := h.written call hcall lock hphase
    simp only [consumable, Bool.and_eq_true, Bool.or_eq_true, beq_iff_eq, decide_eq_true_eq] at hcons
    exact ⟨secret, since, hl, ha, hcons.1.1, hcons.2, halive⟩
  · intro a since
    by_cases ha : lock.accessor = a
    · subst ha
      rw [pendingUses_of hold, pendingUses_of_not hnone]
      simp [timesConsumed, Event.consumes]
    · rw [timesConsumed_cons_of_not (by simp [Event.consumes, ha])]
      have hle : pendingUses (AppRoles.commit w call.pid lock) a ≤ pendingUses w a := by
        apply pendingUses_le
        rintro ⟨c, hc, l, hp, hl⟩
        exact ⟨c, (hcalls hc).1, l, hp, hl⟩
      omega

theorem destroySecretId (h : Sound b w) (roleName accessor : String) :
    Sound b (destroySecretId b w roleName accessor) := by
  unfold AppRoles.destroySecretId
  split
  · exact h
  · rename_i hwaits
    have hwaits := Bool.not_eq_true _ ▸ hwaits
    refine h.of_event (e := .destroyed roleName accessor) rfl (fun _ => rfl) trivial
      (fun s hs => (Table.mem_deleteWhere.mp hs).1) (fun _ hc => hc) ?_ ?_ ?_
    · intro s hs n
      have hkeep := (Table.mem_deleteWhere.mp hs).2
      simp only [Bool.and_eq_false_iff, beq_eq_false_iff_ne] at hkeep
      simp only [Event.ends, Bool.and_eq_false_iff, beq_eq_false_iff_ne]
      rcases hkeep with hne | hne
      · exact .inr (Ne.symm hne)
      · exact .inl (Ne.symm hne)
    · intro c hc l hl secret ha hrole
      have hfree := of_not_waits hwaits hc hl
      simp only [Bool.and_eq_false_iff, beq_eq_false_iff_ne] at hfree
      constructor
      · simp only [Event.ends, Bool.and_eq_false_iff, beq_eq_false_iff_ne, ha, hrole]
        rcases hfree with hne | hne
        · exact .inr (Ne.symm hne)
        · exact .inl (Ne.symm hne)
      · intro hs
        refine Table.mem_deleteWhere.mpr ⟨hs, ?_⟩
        simp only [Bool.and_eq_false_iff, beq_eq_false_iff_ne, ha, hrole]
        exact hfree
    · intro a since
      rw [timesConsumed_cons_of_not rfl]
      exact Int.add_le_add_left (pendingUses_le fun hp => hp) _

theorem deleteApprole (h : Sound b w) (name : String) : Sound b (deleteApprole b w name) := by
  unfold AppRoles.deleteApprole
  split
  · exact h
  · rename_i hwaits
    have hwaits := Bool.not_eq_true _ ▸ hwaits
    refine h.of_event (e := .roleDeleted name) rfl (fun _ => rfl) trivial
      (fun s hs => (Table.mem_deleteWhere.mp hs).1) (fun _ hc => hc) ?_ ?_ ?_
    · intro s hs n
      have hkeep := (Table.mem_deleteWhere.mp hs).2
      simp only [beq_eq_false_iff_ne] at hkeep
      simp only [Event.ends, beq_eq_false_iff_ne]
      exact Ne.symm hkeep
    · intro c hc l hl secret ha hrole
      have hfree := of_not_waits hwaits hc hl
      simp only [beq_eq_false_iff_ne] at hfree
      constructor
      · simp only [Event.ends, beq_eq_false_iff_ne, hrole]
        exact Ne.symm hfree
      · intro hs
        refine Table.mem_deleteWhere.mpr ⟨hs, ?_⟩
        simp only [beq_eq_false_iff_ne, hrole]
        exact hfree
    · intro a since
      rw [timesConsumed_cons_of_not rfl]
      exact Int.add_le_add_left (pendingUses_le fun hp => hp) _

theorem of_created {new : AppSecretId} (h : Sound b w) (hlog : w'.log = .created new :: w.log)
    (hsecrets : ∀ s, s ∈ w'.secrets ↔ s ∈ w.secrets ∨ s = new)
    (hcalls : ∀ c ∈ w'.calls, c ∈ w.calls)
    (huses : new.numUsesRemaining = -1 ∨ 1 ≤ new.numUsesRemaining)
    (hfresh : new.accessor ∉ w.secrets.keys)
    (hfree : ∀ c ∈ w.calls, ∀ l, c.phase.lock = some l → new.accessor ≠ l.accessor) :
    Sound b w' := by
  have hne {s : AppSecretId} (hs : s ∈ w.secrets) : new.accessor ≠ s.accessor := by
    intro heq
    exact hfresh (heq ▸ Table.key_mem_keys hs)
  -- A last creation is this one, or one from before under another accessor.
  have hlast {s : AppSecretId} {since : List Event} (hl : LastCreated w'.log s since) :
      (s = new ∧ since = []) ∨ (new.accessor ≠ s.accessor ∧
        ∃ since', since = .created new :: since' ∧ LastCreated w.log s since') := by
    rw [hlog] at hl
    rcases hl.of_cons with ⟨he, hsince⟩ | ⟨hno, hl⟩
    · cases he
      exact .inl ⟨rfl, hsince⟩
    · simp only [Event.creates, beq_eq_false_iff_ne] at hno
      exact .inr ⟨hno, hl⟩
  have hcons {s : AppSecretId} {since : List Event} (hl : LastCreated w.log s since)
      (ha : new.accessor ≠ s.accessor) : LastCreated w'.log s (.created new :: since) := by
    rw [hlog]
    exact hl.cons (by simpa [Event.creates] using ha)
  have hpending (a : String) : pendingUses w' a ≤ pendingUses w a := by
    apply pendingUses_le
    rintro ⟨c, hc, l, hp, hl⟩
    exact ⟨c, hcalls c hc, l, hp, hl⟩
  have hzero : pendingUses w' new.accessor = 0 := by
    apply pendingUses_of_not
    rintro ⟨c, hc, l, hp, hl⟩
    exact hfree c (hcalls c hc) l (by rw [hp]; rfl) hl.symm
  refine ⟨?_, ?_, ?_, ?_, ?_, ?_, ?_, ?_, ?_, ?_⟩
  · intro s hs
    rcases (hsecrets s).mp hs with hs | rfl
    · exact h.uses s hs
    · exact huses
  · intro s hs
    rcases (hsecrets s).mp hs with hs | rfl
    · obtain ⟨origin, since, hl, hrow, hlimit, halive⟩ := h.rows s hs
      have ha : new.accessor ≠ origin.accessor := by
        have := hne hs
        rwa [hrow] at this
      exact ⟨origin, _, hcons hl ha, hrow, hlimit, halive.cons rfl⟩
    · rw [hlog]
      exact ⟨s, [], .new s w.log, rfl, id, by simp [Alive]⟩
  · intro s hs secret since hl ha hpos
    rcases (hsecrets s).mp hs with hs | rfl
    · rcases hlast hl with ⟨rfl, _⟩ | ⟨_, since', rfl, hl'⟩
      · exact absurd ha (hne hs)
      · rw [timesConsumed_cons_of_not rfl]
        have := h.left s hs secret since' hl' ha hpos
        have := hpending s.accessor
        omega
    · rcases hlast hl with ⟨rfl, rfl⟩ | ⟨hother, _⟩
      · rw [hzero]
        simp [timesConsumed]
      · exact absurd ha.symm hother
  · intro secret since hl hpos
    rcases hlast hl with ⟨rfl, rfl⟩ | ⟨_, since', rfl, hl'⟩
    · rw [hzero]
      simp only [timesConsumed, List.countP_nil]
      omega
    · rw [timesConsumed_cons_of_not rfl]
      have := h.gone secret since' hl' hpos
      have := hpending secret.accessor
      omega
  · exact fun c hc => h.storing c (hcalls c hc)
  · intro c hc lock n hp
    obtain ⟨s, hs, hrest⟩ := h.selected c (hcalls c hc) lock n hp
    exact ⟨s, (hsecrets s).mpr (.inl hs), hrest⟩
  · intro c hc lock hp
    obtain ⟨s, since, hl, ha, hok, halive⟩ := h.written c (hcalls c hc) lock hp
    have hother := hfree c (hcalls c hc) lock (by rw [hp]; rfl)
    exact ⟨s, _, hcons hl (ha ▸ hother), ha, hok, halive.cons rfl⟩
  · exact fun c hc c' hc' => h.exclusive c (hcalls c hc) c' (hcalls c' hc')
  · exact fun hb c hc c' hc' => h.single hb c (hcalls c hc) c' (hcalls c' hc')
  · rw [hlog]
    exact h.history_cons trivial

theorem createSecretId (h : Sound b w) {call : Call} (hcall : call ∈ w.calls) {secret : AppSecretId}
    (hphase : call.phase = .storing secret) : Sound b (createSecretId b w call.pid secret) := by
  unfold AppRoles.createSecretId
  split
  · exact h
  · rename_i hwaits
    have hwaits := Bool.not_eq_true _ ▸ hwaits
    split
    · exact h.finish _ _
    · rename_i hfresh
      split
      · exact h.finish _ _
      · refine h.of_created rfl (fun _ => Table.mem_insert (h := hfresh)) ?_
          (h.storing call hcall secret hphase) hfresh ?_
        · intro c hc
          exact (Jobs.mem_finish.mp hc).1
        · intro c hc l hl
          have hother := of_not_waits hwaits hc hl
          simp only [beq_eq_false_iff_ne] at hother
          exact Ne.symm hother

theorem createApprole (h : Sound b w) (pid : Nat) (role : AppRole) :
    Sound b (createApprole b w pid role) := by
  have hdone := h.finish pid (.noContent pid)
  unfold AppRoles.createApprole
  split
  · exact h
  · split
    · exact h.finish _ _
    · split
      · exact hdone.of_same rfl rfl rfl
      · exact hdone.of_same rfl rfl rfl

theorem login (h : Sound b w) (digest : String → List UInt8) (pid : Nat) (roleId : String)
    (secretId : Option String) : Sound b (login digest w pid roleId secretId) := by
  unfold AppRoles.login
  split
  · exact h.of_same rfl rfl rfl
  · split
    · split
      · exact h.of_same rfl rfl rfl
      · exact h.start _ _ rfl (fun _ hs => nomatch hs)
    · exact h.of_same rfl rfl rfl

theorem generate (h : Sound b w) (digest : String → List UInt8) (pid : Nat) (name : String)
    (payload : AppRoleSecretIdRequest) (accessor secretId : String) :
    Sound b (generate digest w pid name payload accessor secretId) := by
  unfold AppRoles.generate
  split
  · exact h.of_same rfl rfl rfl
  · exact h.start _ _ rfl (fun _ hs => nomatch hs)

theorem createRole (h : Sound b w) (pid : Nat) (name : String) (payload : AppRoleRoleRequest)
    (freshId : String) : Sound b (createRole w pid name payload freshId) := by
  unfold AppRoles.createRole
  split
  · exact h.of_same rfl rfl rfl
  · exact h.start _ _ rfl (fun _ hs => nomatch hs)

theorem newSecretId_uses (role : AppRole) (payload : AppRoleSecretIdRequest) (accessor : String)
    (secretIdHash : List UInt8) (now : Int) :
    let secret := newSecretId role payload accessor secretIdHash now
    secret.numUsesRemaining = -1 ∨ 1 ≤ secret.numUsesRemaining := by
  simp only [newSecretId]
  split
  · omega
  · omega

theorem advance (h : Sound b w) {call : Call} (hcall : call ∈ w.calls) :
    Sound b (advance b w call) := by
  unfold AppRoles.advance
  split
  · exact h.setPhase _ _ rfl (fun _ hs => nomatch hs)
  · exact h.begin _ _ _ _
  · rename_i hphase
    exact h.select hcall hphase
  · rename_i hphase
    exact h.write hcall hphase
  · rename_i hphase
    exact h.commit hcall hphase
  · refine h.setPhase _ _ rfl (fun s hs => ?_)
    cases hs
    exact newSecretId_uses _ _ _ _ _
  · rename_i hphase
    exact h.createSecretId hcall hphase
  · exact h.createApprole _ _

theorem step (h : Sound b w) (digest : String → List UInt8) (input : Input) :
    Sound b (step b digest w input) := by
  cases input with
  | tick seconds => exact h.of_same rfl rfl rfl
  | login pid roleId secretId => exact h.login digest pid roleId secretId
  | generate pid name payload accessor secretId =>
    exact h.generate digest pid name payload accessor secretId
  | createRole pid name payload freshId => exact h.createRole pid name payload freshId
  | destroy roleName accessor => exact h.destroySecretId roleName accessor
  | deleteRole name => exact h.deleteApprole name
  | advance pid =>
    simp only [AppRoles.step]
    split
    · exact h
    · rename_i hfind
      exact h.advance (Table.find?_eq_some_iff.mp hfind).1

theorem initial (b : SqlBackend) (clock : Int) : Sound b { clock := clock } where
  uses := by simp
  rows := by simp
  left := by simp
  gone secret since hlast := by
    obtain ⟨older, hs⟩ := hlast.split
    simp at hs
  storing := by simp
  selected := by simp
  written := by simp
  exclusive := by simp
  single := by simp
  history := by simp

end Sound

theorem run_sound (b : SqlBackend) (digest : String → List UInt8) (clock : Int)
    (inputs : List Input) : Sound b (run (step b digest) { clock := clock } inputs) :=
  run_keeps (step b digest) (Sound b) (.initial b clock) (fun _ input h => h.step digest input) inputs

/-- Whatever the calls are and in whichever order their statements run, on each backend: a secret-ID
has a use left as long as it is stored; one that was generated with a bound is not consumed more often
than that; and a consumption is for the role it was generated for, by a login that read a time before
its expiry, and with neither the secret-ID destroyed nor its role deleted. -/
theorem secret_id_bound (b : SqlBackend) (digest : String → List UInt8) (clock : Int)
    (inputs : List Input) :
    (∀ s ∈ (run (step b digest) { clock := clock } inputs).secrets,
      s.numUsesRemaining = -1 ∨ 1 ≤ s.numUsesRemaining) ∧
    (∀ secret since, LastCreated (run (step b digest) { clock := clock } inputs).log secret since →
      0 < secret.numUsesRemaining →
      timesConsumed secret.accessor since ≤ secret.numUsesRemaining) ∧
    ∀ newer pid roleName accessor now committed older,
      (run (step b digest) { clock := clock } inputs).log =
        newer ++ .consumed pid roleName accessor now committed :: older →
      ∃ secret since, LastCreated older secret since ∧ secret.accessor = accessor ∧
        secret.roleName = roleName ∧ (secret.expiry = 0 ∨ now < secret.expiry) ∧
        Alive secret since := by
  have h := run_sound b digest clock inputs
  refine ⟨h.uses, ?_, ?_⟩
  · intro secret since hlast hpos
    have hle := h.gone secret since hlast hpos
    have : 0 ≤ pendingUses (run (step b digest) { clock := clock } inputs) secret.accessor := by
      unfold pendingUses
      split
      · decide
      · decide
    omega
  · intro newer pid roleName accessor now committed older hlog
    exact h.history newer _ older hlog

/-- A secret-ID that expires at 10, and a login that read the time at 9 and got its row only once the
clock had reached 11. -/
def slowLogin : List Input :=
  [.createRole 1 "ci" ⟨10, 0, [], true⟩ "role-id", .advance 1,
    .generate 2 "ci" ⟨0, 1⟩ "accessor" "secret", .advance 2, .advance 2,
    .login 3 "role-id" (some "secret"), .tick 9, .advance 3, .tick 2,
    .advance 3, .advance 3, .advance 3, .advance 3]

/-- Its secret-ID is consumed after it has expired. -/
theorem secret_id_consumed_after_expiry :
    (run (step .sqlite (fun _ => [7])) { clock := 0 } slowLogin).log =
      [.consumed 3 "ci" "accessor" 9 11, .created ⟨"accessor", [7], "ci", 10, 1⟩] := by
  decide

end AuthVerifier.AppRoles
