import AuthVerifier.SamlValidation
import Mathlib.Data.Rat.Floor

/-!
The replay cache over every interleaving of validations and purges. An entry that a validation leaves
behind is held until the second that the validation computed for it, which lies after every instant at
which the assertion is accepted. The reading that lets a validation pass is however not that of the
statement: one that is late may come after the entry is gone.
-/

set_option autoImplicit false

namespace AuthVerifier
open Concurrent Expiring Relational Transition ResponseValidation

/-- `held` is what the cache refuses at a time, `retains` what it refuses until a second, and `same`
the ids that it does not tell apart. -/
structure ReplayCache {σ τ : Type} [Ring τ] [LinearOrder τ] [FloorRing τ]
    (S : SamlRequestStore σ τ) where
  held : σ → τ → (realmId assertionId : String) → Prop
  retains : σ → (realmId assertionId : String) → (second : Int) → Prop
  same : (realmId assertionId realmId' assertionId' : String) → Prop
  insert_of_held : ∀ {s t ttl r a e}, held s t r a → S.insertSeen s t ttl r a e = (s, false)
  insert_of_not_held : ∀ {s t ttl r a e}, ¬ held s t r a → (S.insertSeen s t ttl r a e).2 = true
  held_of_retains : ∀ {s t r a e}, retains s r a e → ⌊t⌋ < e → held s t r a
  /-- The time to live was computed from a reading at or before the statement. -/
  retains_new : ∀ {s t t₀ r a e}, ¬ held s t r a → t₀ ≤ t →
    retains (S.insertSeen s t (e - ⌊t₀⌋) r a e).1 r a e
  retains_insert : ∀ {s t ttl r a e r' a' e'}, retains s r' a' e' → ⌊t⌋ < e' →
    retains (S.insertSeen s t ttl r a e).1 r' a' e'
  retains_purgePending : ∀ {s now r a e}, retains s r a e → retains (S.purgePending s now) r a e
  retains_purgeSeen : ∀ {s now r a e}, retains s r a e → now < e → retains (S.purgeSeen s now) r a e
  held_insert : ∀ {s t ttl r a e t' r' a'}, held (S.insertSeen s t ttl r a e).1 t' r' a' →
    held s t' r' a' ∨ same r a r' a'
  held_purgePending : ∀ {s now t r a}, held (S.purgePending s now) t r a → held s t r a
  held_purgeSeen : ∀ {s now t r a}, held (S.purgeSeen s now) t r a → held s t r a

section
variable {τ : Type} [Ring τ] [LinearOrder τ] [IsStrictOrderedRing τ] [FloorRing τ]

/-- A row is held until a purge takes it, and no purge does before its second. -/
def sqlReplayCache (b : SqlBackend) (sha256 : String → List UInt8) :
    ReplayCache (sqlSamlRequestStore τ b sha256) where
  held s _ r a := SqlSaml.seenKey b sha256 r a ∈ s.seen.keys
  retains s r a e := ∃ row ∈ s.seen,
    (b.text row.realmId, row.assertion) = SqlSaml.seenKey b sha256 r a ∧ e ≤ row.expiresAt
  same r a r' a' := SqlSaml.seenKey b sha256 r a = SqlSaml.seenKey b sha256 r' a'
  insert_of_held h := SqlSaml.insertSeen_of_mem h
  insert_of_not_held h := by
    dsimp only [sqlSamlRequestStore]
    rw [SqlSaml.insertSeen_of_not_mem h]
  held_of_retains := by
    rintro s t r a e ⟨row, hrow, hkey, _⟩ _
    exact Table.mem_keys.mpr ⟨row, hrow, hkey⟩
  retains_new := by
    intro s t t₀ r a e hnot _
    refine ⟨SqlSaml.seenRow b sha256 r a e, ?_, rfl, le_refl e⟩
    exact (SqlSaml.mem_insertSeen hnot _).mpr (.inr rfl)
  retains_insert := by
    rintro s t ttl r a e r' a' e' ⟨row, hrow, hkey, hle⟩ _
    by_cases hmem : SqlSaml.seenKey b sha256 r a ∈ s.seen.keys
    · dsimp only [sqlSamlRequestStore]
      rw [SqlSaml.insertSeen_of_mem hmem]
      exact ⟨row, hrow, hkey, hle⟩
    · exact ⟨row, (SqlSaml.mem_insertSeen hmem _).mpr (.inl hrow), hkey, hle⟩
  retains_purgePending h := h
  retains_purgeSeen := by
    rintro s now r a e ⟨row, hrow, hkey, hle⟩ hlt
    exact ⟨row, Table.mem_deleteWhere.mpr ⟨hrow, by simp; omega⟩, hkey, hle⟩
  held_insert := by
    intro s t ttl r a e t' r' a' h
    by_cases hmem : SqlSaml.seenKey b sha256 r a ∈ s.seen.keys
    · dsimp only [sqlSamlRequestStore] at h
      rw [SqlSaml.insertSeen_of_mem hmem] at h
      exact .inl h
    · obtain ⟨row, hrow, hkey⟩ := Table.mem_keys.mp h
      rcases (SqlSaml.mem_insertSeen hmem _).mp hrow with hrow | rfl
      · exact .inl (Table.mem_keys.mpr ⟨row, hrow, hkey⟩)
      · exact .inr hkey
  held_purgePending h := h
  held_purgeSeen := by
    intro s now t r a h
    obtain ⟨row, hrow, hkey⟩ := Table.mem_keys.mp h
    exact Table.mem_keys.mpr ⟨row, (Table.mem_deleteWhere.mp hrow).1, hkey⟩

/-- A key is held until its deadline, which counts from the statement. -/
def redisReplayCache : ReplayCache (redisSamlRequestStore τ) where
  held s t r a := ∃ e, s.seen.entry t (RedisSaml.seenKey r a) = some e
  retains s r a e := ∃ entry deadline, s.seen.find? (RedisSaml.seenKey r a) = some entry ∧
    entry.deadline = some deadline ∧ (e : τ) ≤ deadline
  same r a r' a' := r = r' ∧ a = a'
  insert_of_held := by
    rintro s t ttl r a e ⟨entry, hentry⟩
    dsimp only [redisSamlRequestStore]
    rw [Keyspace.setNx_of_entry hentry]
  insert_of_not_held := by
    intro s t ttl r a e hnot
    dsimp only [redisSamlRequestStore]
    rw [Keyspace.setNx_of_absent (Option.eq_none_iff_forall_ne_some.mpr (not_exists.mp hnot))]
  held_of_retains := by
    rintro s t r a e ⟨entry, deadline, hfind, hd, hle⟩ hlt
    refine ⟨entry, ?_⟩
    have hlive : t < deadline := lt_of_lt_of_le (Int.floor_lt.mp hlt) hle
    simp only [Keyspace.entry, hfind, Option.filter, Entry.live, hd, hlive, decide_true, if_true]
  retains_new := by
    intro s t t₀ r a e hnot hle
    dsimp only [redisSamlRequestStore]
    rw [Keyspace.setNx_of_absent (Option.eq_none_iff_forall_ne_some.mpr (not_exists.mp hnot))]
    refine ⟨_, _, by rw [Keyspace.find?_set, if_pos rfl], rfl, ?_⟩
    have hfloor : ((⌊t₀⌋ : Int) : τ) ≤ t := le_trans (Int.floor_le t₀) hle
    push_cast
    calc (e : τ) = ((⌊t₀⌋ : Int) : τ) + ((e : τ) - ((⌊t₀⌋ : Int) : τ)) := by abel
      _ ≤ t + ((e : τ) - ((⌊t₀⌋ : Int) : τ)) := by gcongr
  retains_insert := by
    rintro s t ttl r a e r' a' e' ⟨entry, deadline, hfind, hd, hle⟩ hlt
    refine ⟨entry, deadline, ?_, hd, hle⟩
    dsimp only [redisSamlRequestStore]
    by_cases hkey : RedisSaml.seenKey r' a' = RedisSaml.seenKey r a
    · have hlive : t < deadline := lt_of_lt_of_le (Int.floor_lt.mp hlt) hle
      have hentry : s.seen.entry t (RedisSaml.seenKey r a) = some entry := by
        rw [← hkey]
        simp only [Keyspace.entry, hfind, Option.filter, Entry.live, hd, hlive, decide_true, if_true]
      rw [Keyspace.setNx_of_entry hentry]
      exact hfind
    · rw [Keyspace.find?_setNx_ne hkey]
      exact hfind
  retains_purgePending h := h
  retains_purgeSeen h _ := h
  held_insert := by
    rintro s t ttl r a e t' r' a' ⟨entry, hentry⟩
    dsimp only [redisSamlRequestStore] at hentry
    by_cases hkey : RedisSaml.seenKey r' a' = RedisSaml.seenKey r a
    · obtain ⟨hr, ha⟩ := RedisSaml.seenKey_inj hkey
      exact .inr ⟨hr.symm, ha.symm⟩
    · rw [Keyspace.entry, Keyspace.find?_setNx_ne hkey, ← Keyspace.entry] at hentry
      exact .inl ⟨entry, hentry⟩
  held_purgePending h := h
  held_purgeSeen h := h

end

namespace Replay
section
variable {σ τ : Type} [Ring τ] [LinearOrder τ] [FloorRing τ]

/-- The assertions that were accepted, with their realm and issue instant. -/
def acceptances (log : List (Event τ)) : List (String × String × τ) :=
  log.filterMap fun
    | .accepted realmId assertionId issueInstant => some (realmId, assertionId, issueInstant)
    | .replayed _ _ => none

/-- A statement that records an assertion id runs before the second computed for its entry, or meets
an entry. -/
def InTime {S : SamlRequestStore σ τ} (C : ReplayCache S) (w : World σ τ) (input : Input τ) : Prop :=
  ∀ pid v assertion ttl, input = .advance pid →
    w.calls.find? pid = some ⟨pid, .validating v (.record assertion ttl)⟩ →
    ⌊w.clock⌋ < expiresAt assertion ∨ C.held w.store w.clock v.realmId assertion.id

/-- A call is for an expected realm, and its readings are of the past. -/
def Expected (realms : String → Prop) (clock : τ) : Phase τ → Prop
  | .validating v (.record assertion ttl) =>
    realms v.realmId ∧ ∃ t₀ ≤ clock, ttl = expiresAt assertion - ⌊t₀⌋
  | .validating v _ => realms v.realmId
  | .purging (.pendingRequests now) => now ≤ ⌊clock⌋
  | .purging (.seenAssertions now) => now ≤ ⌊clock⌋
  | .purging .begin => True

def Remembered {S : SamlRequestStore σ τ} (C : ReplayCache S) (clock : τ) (s : σ)
    (realmId assertionId : String) (issueInstant : τ) : Prop :=
  C.retains s realmId assertionId (forgottenFrom issueInstant) ∨ forgottenFrom issueInstant ≤ ⌊clock⌋

structure Guarded {S : SamlRequestStore σ τ} (C : ReplayCache S) (realms : String → Prop)
    (w : World σ τ) : Prop where
  calls : ∀ c ∈ w.calls, Expected realms w.clock c.phase
  remembered : ∀ r a i, .accepted r a i ∈ w.log → Remembered C w.clock w.store r a i
  once : (acceptances w.log).Nodup
  /-- What the cache refuses was accepted. -/
  known : ∀ t r a, C.held w.store t r a → ∃ r' a' i, .accepted r' a' i ∈ w.log ∧ C.same r' a' r a
  accepted : ∀ r a i, .accepted r a i ∈ w.log → realms r
  caused : ∀ newer r a older, w.log = newer ++ .replayed r a :: older → realms r ∧
    ∃ r' a' i, .accepted r' a' i ∈ older ∧ C.same r' a' r a

theorem Expected.later [IsStrictOrderedRing τ] {realms : String → Prop} {clock clock' : τ}
    {phase : Phase τ} (h : Expected realms clock phase) (hle : clock ≤ clock') :
    Expected realms clock' phase := by
  have hfloor : ⌊clock⌋ ≤ ⌊clock'⌋ := Int.floor_le_floor hle
  cases phase with
  | validating v phase =>
    cases phase with
    | record assertion ttl =>
      obtain ⟨hrealm, t₀, ht₀, httl⟩ := h
      exact ⟨hrealm, t₀, le_trans ht₀ hle, httl⟩
    | parse => exact h
    | checkIssueDelay assertion => exact h
    | checkRetention assertion => exact h
  | purging phase =>
    cases phase with
    | begin => trivial
    | pendingRequests now => exact le_trans h hfloor
    | seenAssertions now => exact le_trans h hfloor

namespace Guarded
variable {S : SamlRequestStore σ τ} {C : ReplayCache S} {realms : String → Prop} {w w' : World σ τ}

theorem of_kept (h : Guarded C realms w) (hclock : w'.clock = w.clock) (hlog : w'.log = w.log)
    (hkeep : ∀ r a e, ⌊w.clock⌋ < e → C.retains w.store r a e → C.retains w'.store r a e)
    (hsub : ∀ t r a, C.held w'.store t r a → C.held w.store t r a)
    (hcalls : ∀ c ∈ w'.calls, c ∈ w.calls ∨ Expected realms w.clock c.phase) :
    Guarded C realms w' := by
  refine ⟨?_, ?_, ?_, ?_, ?_, ?_⟩
  · rw [hclock]
    intro c hc
    rcases hcalls c hc with hc | hc
    · exact h.calls c hc
    · exact hc
  · rw [hclock, hlog]
    intro r a i hi
    rcases h.remembered r a i hi with hkept | hold
    · by_cases hlt : ⌊w.clock⌋ < forgottenFrom i
      · exact .inl (hkeep r a _ hlt hkept)
      · exact .inr (not_lt.mp hlt)
    · exact .inr hold
  · rw [hlog]
    exact h.once
  · rw [hlog]
    exact fun t r a hheld => h.known t r a (hsub t r a hheld)
  · rw [hlog]
    exact h.accepted
  · rw [hlog]
    exact h.caused

theorem of_calls (h : Guarded C realms w) (hclock : w'.clock = w.clock) (hstore : w'.store = w.store)
    (hlog : w'.log = w.log)
    (hcalls : ∀ c ∈ w'.calls, c ∈ w.calls ∨ Expected realms w.clock c.phase) :
    Guarded C realms w' := by
  refine h.of_kept hclock hlog ?_ ?_ hcalls
  · rw [hstore]
    exact fun _ _ _ _ hkept => hkept
  · rw [hstore]
    exact fun _ _ _ hheld => hheld

theorem tick [IsStrictOrderedRing τ] (h : Guarded C realms w) (now : τ) :
    Guarded C realms { w with clock := max w.clock now } := by
  have hle : w.clock ≤ max w.clock now := le_max_left _ _
  refine ⟨fun c hc => (h.calls c hc).later hle, ?_, h.once, h.known, h.accepted, h.caused⟩
  intro r a i hi
  rcases h.remembered r a i hi with hkept | hold
  · exact .inl hkept
  · exact .inr (le_trans hold (Int.floor_le_floor hle))

theorem calls_setPhase {pid : Nat} {phase : Phase τ} (hnew : Expected realms w.clock phase) :
    ∀ c ∈ w.calls.setPhase pid phase, c ∈ w.calls ∨ Expected realms w.clock c.phase := by
  intro c hc
  rcases Jobs.mem_setPhase.mp hc with ⟨hc, _⟩ | ⟨rfl, _⟩
  · exact .inl hc
  · exact .inr hnew

theorem calls_finish {pid : Nat} :
    ∀ c ∈ w.calls.finish pid, c ∈ w.calls ∨ Expected realms w.clock c.phase :=
  fun _ hc => .inl (Jobs.mem_finish.mp hc).1

theorem start (h : Guarded C realms w) {pid : Nat} {phase : Phase τ}
    (hnew : Expected realms w.clock phase) :
    Guarded C realms { w with calls := w.calls.start pid phase } := by
  refine h.of_calls rfl rfl rfl (fun c hc => ?_)
  rcases Jobs.mem_start hc with hc | rfl
  · exact .inl hc
  · exact .inr hnew

theorem advancePurge (h : Guarded C realms w) {pid : Nat} {phase : PurgePhase}
    (hcall : ⟨pid, .purging phase⟩ ∈ w.calls) : Guarded C realms (advancePurge S w pid phase) := by
  have hexpected := h.calls _ hcall
  cases phase with
  | begin => exact h.of_calls rfl rfl rfl (calls_setPhase (le_refl ⌊w.clock⌋))
  | pendingRequests now =>
    exact h.of_kept rfl rfl (fun _ _ _ _ hkept => C.retains_purgePending hkept)
      (fun _ _ _ hheld => C.held_purgePending hheld) (calls_setPhase hexpected)
  | seenAssertions now =>
    have hnow : now ≤ ⌊w.clock⌋ := hexpected
    exact h.of_kept rfl rfl (fun _ _ _ hlt hkept => C.retains_purgeSeen hkept (by omega))
      (fun _ _ _ hheld => C.held_purgeSeen hheld) calls_finish

theorem refuse (h : Guarded C realms w) {pid : Nat} {r a : String} (hrealm : realms r)
    (hheld : C.held w.store w.clock r a) :
    Guarded C realms { w with calls := w.calls.finish pid, log := .replayed r a :: w.log } := by
  obtain ⟨r', a', i, hi, hsame⟩ := h.known w.clock r a hheld
  refine ⟨fun c hc => h.calls c (Jobs.mem_finish.mp hc).1, ?_, h.once, ?_, ?_, ?_⟩
  · intro r a i hi
    rcases List.mem_cons.mp hi with hi | hi
    · cases hi
    · exact h.remembered r a i hi
  · intro t r a hheld
    obtain ⟨r', a', i, hi, hsame⟩ := h.known t r a hheld
    exact ⟨r', a', i, List.mem_cons_of_mem _ hi, hsame⟩
  · intro r a i hi
    rcases List.mem_cons.mp hi with hi | hi
    · cases hi
    · exact h.accepted r a i hi
  · intro newer r₁ a₁ older hsplit
    cases newer with
    | nil =>
      simp only [List.nil_append, List.cons.injEq, Event.replayed.injEq] at hsplit
      obtain ⟨⟨rfl, rfl⟩, rfl⟩ := hsplit
      exact ⟨hrealm, r', a', i, hi, hsame⟩
    | cons e newer =>
      simp only [List.cons_append, List.cons.injEq] at hsplit
      exact h.caused newer r₁ a₁ older hsplit.2

/-- The entry is not there: nothing in time can have been accepted before, and the entry that is
added outlives the assertion. -/
theorem accept (h : Guarded C realms w) {pid : Nat} {r : String} {assertion : SamlAssertion τ}
    {t₀ : τ} (hrealm : realms r) (ht₀ : t₀ ≤ w.clock)
    (hnot : ¬ C.held w.store w.clock r assertion.id) (hintime : ⌊w.clock⌋ < expiresAt assertion) :
    Guarded C realms { w with
      store := (S.insertSeen w.store w.clock (expiresAt assertion - ⌊t₀⌋) r assertion.id
        (expiresAt assertion)).1
      calls := w.calls.finish pid
      log := .accepted r assertion.id assertion.issueInstant :: w.log } := by
  refine ⟨fun c hc => h.calls c (Jobs.mem_finish.mp hc).1, ?_, ?_, ?_, ?_, ?_⟩
  · intro r' a' i hi
    rcases List.mem_cons.mp hi with hi | hi
    · cases hi
      exact .inl (C.retains_new hnot ht₀)
    · rcases h.remembered r' a' i hi with hkept | hold
      · by_cases hlt : ⌊w.clock⌋ < forgottenFrom i
        · exact .inl (C.retains_insert hkept hlt)
        · exact .inr (not_lt.mp hlt)
      · exact .inr hold
  · refine List.nodup_cons.mpr ⟨?_, h.once⟩
    intro hmem
    obtain ⟨e, he, hsome⟩ := List.mem_filterMap.mp hmem
    cases e with
    | replayed r' a' => cases hsome
    | accepted r' a' i =>
      simp only [Option.some.injEq, Prod.mk.injEq] at hsome
      obtain ⟨rfl, rfl, rfl⟩ := hsome
      rcases h.remembered r' _ _ he with hkept | hold
      · exact hnot (C.held_of_retains hkept hintime)
      · exact absurd hintime (not_lt.mpr hold)
  · intro t r' a' hheld
    rcases C.held_insert hheld with hheld | hsame
    · obtain ⟨r₀, a₀, i, hi, hsame⟩ := h.known t r' a' hheld
      exact ⟨r₀, a₀, i, List.mem_cons_of_mem _ hi, hsame⟩
    · exact ⟨r, assertion.id, assertion.issueInstant, List.mem_cons_self, hsame⟩
  · intro r' a' i hi
    rcases List.mem_cons.mp hi with hi | hi
    · cases hi
      exact hrealm
    · exact h.accepted r' a' i hi
  · intro newer r' a' older hsplit
    cases newer with
    | nil => cases hsplit
    | cons e newer =>
      simp only [List.cons_append, List.cons.injEq] at hsplit
      exact h.caused newer r' a' older hsplit.2

theorem advanceValidation (h : Guarded C realms w) (samael : Samael τ) {pid : Nat}
    {v : ResponseValidation} {phase : ValidatePhase τ} (hcall : ⟨pid, .validating v phase⟩ ∈ w.calls)
    (hintime : ∀ assertion ttl, phase = .record assertion ttl →
      ⌊w.clock⌋ < expiresAt assertion ∨ C.held w.store w.clock v.realmId assertion.id) :
    Guarded C realms (advanceValidation S samael w pid v phase) := by
  have hexpected := h.calls _ hcall
  cases phase with
  | parse =>
    cases hp : ResponseValidation.parse samael w.clock v with
    | error e =>
      simp only [Replay.advanceValidation, ResponseValidation.step, hp]
      exact h.of_calls rfl rfl rfl calls_finish
    | ok assertion =>
      simp only [Replay.advanceValidation, ResponseValidation.step, hp]
      exact h.of_calls rfl rfl rfl (calls_setPhase hexpected)
  | checkIssueDelay assertion =>
    by_cases hold : acceptedUntil assertion ≤ w.clock
    · simp only [Replay.advanceValidation, ResponseValidation.step, hold, if_true]
      exact h.of_calls rfl rfl rfl calls_finish
    · simp only [Replay.advanceValidation, ResponseValidation.step, hold, if_false]
      exact h.of_calls rfl rfl rfl (calls_setPhase hexpected)
  | checkRetention assertion =>
    by_cases hlt : ⌊w.clock⌋ < expiresAt assertion
    · simp only [Replay.advanceValidation, ResponseValidation.step, ensureUnexpired_of_lt hlt]
      exact h.of_calls rfl rfl rfl (calls_setPhase ⟨hexpected, w.clock, le_refl _, rfl⟩)
    · simp only [Replay.advanceValidation, ResponseValidation.step,
        ensureUnexpired_of_le (not_lt.mp hlt)]
      exact h.of_calls rfl rfl rfl calls_finish
  | record assertion ttl =>
    obtain ⟨hrealm, t₀, ht₀, rfl⟩ := hexpected
    by_cases hheld : C.held w.store w.clock v.realmId assertion.id
    · simp only [Replay.advanceValidation, ResponseValidation.step, C.insert_of_held hheld]
      exact h.refuse hrealm hheld
    · have hlt := (hintime assertion _ rfl).resolve_right hheld
      simp only [Replay.advanceValidation, ResponseValidation.step, C.insert_of_not_held hheld,
        if_true]
      exact h.accept hrealm ht₀ hheld hlt

theorem step [IsStrictOrderedRing τ] (h : Guarded C realms w) (samael : Samael τ) (input : Input τ)
    (hrealm : ∀ pid v, input = .validate pid v → realms v.realmId)
    (hintime : InTime C w input) : Guarded C realms (step S samael w input) := by
  cases input with
  | tick now => exact h.tick now
  | validate pid v => exact h.start (hrealm pid v rfl)
  | deleteExpired pid => exact h.start trivial
  | advance pid =>
    simp only [Replay.step]
    cases hfind : w.calls.find? pid with
    | none => exact h
    | some call =>
      obtain ⟨hcall, rfl⟩ := Table.find?_eq_some_iff.mp hfind
      obtain ⟨pid, phase⟩ := call
      cases phase with
      | validating v phase =>
        refine h.advanceValidation samael hcall (fun assertion ttl hphase => ?_)
        exact hintime pid v assertion ttl rfl (by rw [hfind, hphase])
      | purging phase => exact h.advancePurge hcall

end Guarded
end
end Replay

namespace SamlBackend
variable {τ : Type} [Ring τ] [LinearOrder τ] [IsStrictOrderedRing τ] [FloorRing τ]

def cache (sha256 : String → List UInt8) : (k : SamlBackend) → ReplayCache (k.store τ sha256)
  | .sql b => sqlReplayCache b sha256
  | .redis => redisReplayCache

/-- The realm ids that the replay cache of a store tells apart: on MySQL those that fit the column and
do not end in a space. -/
def keepsApart : SamlBackend → String → Prop
  | .sql .mysql, realmId => SqlBackend.mysql.text (SqlBackend.mysql.stored realmId) = realmId
  | _, _ => True

theorem realm_of_same {k : SamlBackend} {sha256 : String → List UInt8} {r a r' a' : String}
    (h : (k.cache sha256 : ReplayCache (k.store τ sha256)).same r a r' a') (hr : k.keepsApart r)
    (hr' : k.keepsApart r') : r = r' := by
  cases k with
  | redis => exact h.1
  | sql b =>
    have hrealm : b.text (b.stored r) = b.text (b.stored r') := congrArg Prod.fst h
    cases b with
    | sqlite => exact hrealm
    | postgres => exact hrealm
    | mysql => exact hr.symm.trans (hrealm.trans hr')

theorem not_held_empty {k : SamlBackend} {sha256 : String → List UInt8} {t : τ} {r a : String} :
    ¬ (k.cache sha256).held (k.empty τ) t r a := by
  cases k with
  | redis => exact fun ⟨e, he⟩ => nomatch he
  | sql b => exact List.not_mem_nil

end SamlBackend

namespace Replay
variable {τ : Type} [Ring τ] [LinearOrder τ] [IsStrictOrderedRing τ] [FloorRing τ]

/-- On each of the four stores, in every run in which each statement that records an assertion id is
in time: no assertion is accepted twice in a realm, and one that the cache refuses has been preceded
by an acceptance in the same realm whose entry stands under the same key. -/
theorem replay_cache_once (k : SamlBackend) (sha256 : String → List UInt8) (samael : Samael τ)
    (clock : τ) (inputs : List (Input τ))
    (hrealms : ∀ pid v, .validate pid v ∈ inputs → k.keepsApart v.realmId)
    (hintime : ∀ x ∈ trace (step (k.store τ sha256) samael)
      { clock := clock, store := k.empty τ } inputs, InTime (k.cache sha256) x.1 x.2) :
    (acceptances (run (step (k.store τ sha256) samael)
      { clock := clock, store := k.empty τ } inputs).log).Nodup ∧
    ∀ newer realmId assertionId older, (run (step (k.store τ sha256) samael)
        { clock := clock, store := k.empty τ } inputs).log =
          newer ++ .replayed realmId assertionId :: older →
      ∃ assertionId' issueInstant, .accepted realmId assertionId' issueInstant ∈ older ∧
        (k.cache sha256 : ReplayCache (k.store τ sha256)).same realmId assertionId'
          realmId assertionId := by
  have hguarded : Guarded (k.cache sha256) k.keepsApart (run (step (k.store τ sha256) samael)
      { clock := clock, store := k.empty τ } inputs) := by
    refine run_keeps_of (step (k.store τ sha256) samael) (Guarded (k.cache sha256) k.keepsApart)
      (C := fun w input => (∀ pid v, input = .validate pid v → k.keepsApart v.realmId) ∧
        InTime (k.cache sha256) w input) ?_ ?_ inputs ?_
    · refine ⟨by simp, by simp, List.nodup_nil, ?_, by simp, by simp⟩
      exact fun t r a hheld => absurd hheld SamlBackend.not_held_empty
    · exact fun w input h hc => h.step samael input hc.1 hc.2
    · intro x hx
      refine ⟨fun pid v hv => hrealms pid v ?_, hintime x hx⟩
      rw [← hv]
      exact mem_of_mem_trace _ hx
  refine ⟨hguarded.once, ?_⟩
  intro newer realmId assertionId older hlog
  obtain ⟨hrealm, r', a', i, hi, hsame⟩ := hguarded.caused newer realmId assertionId older hlog
  have haccepted : k.keepsApart r' := hguarded.accepted r' a' i (by
    rw [hlog]
    exact List.mem_append_right _ (List.mem_cons_of_mem _ hi))
  obtain rfl := SamlBackend.realm_of_same hsame haccepted hrealm
  exact ⟨a', i, hi, hsame⟩

/-- A stand-in for samael: one response is signed, and its assertion was issued half a second after
the start of the clock. -/
def oneResponse : Samael ℚ := fun _ _ xml _ =>
  if xml = "signed" then .ok ⟨"_a", 1 / 2, some [["sp"]], some 1, none, none⟩
  else .error "invalid signature"

def signedFor (realmId : String) : ResponseValidation :=
  { xml := "signed", realmId := realmId, requestId := "_r"
    params := { idpSigningCertificates := ["cert"], spEntityId := "sp", spAcsUrl := "acs",
                defaultReturnUrl := "/" } }

def validated (pid : Nat) (realmId : String) : List (Input ℚ) :=
  [.validate pid (signedFor realmId), .advance pid, .advance pid, .advance pid, .advance pid]

/-- A statement that records an assertion comes before the assertion expires. -/
def early (clock : ℚ) : Phase ℚ → Bool
  | .validating _ (.record assertion _) => decide (⌊clock⌋ < expiresAt assertion)
  | _ => true

/-- The response is posted again, in time. -/
theorem replay_cache_once_postedTwice :
    (run (step (SamlBackend.redis.store ℚ (fun _ => [])) oneResponse)
      { clock := 0, store := SamlBackend.redis.empty ℚ }
      (validated 1 "acme" ++ validated 2 "acme")).log =
        [.replayed "acme" "_a", .accepted "acme" "_a" (1 / 2)] ∧
    (acceptances (run (step (SamlBackend.redis.store ℚ (fun _ => [])) oneResponse)
      { clock := 0, store := SamlBackend.redis.empty ℚ }
      (validated 1 "acme" ++ validated 2 "acme")).log).Nodup := by
  have hall : (trace (step (SamlBackend.redis.store ℚ (fun _ => [])) oneResponse)
      { clock := 0, store := SamlBackend.redis.empty ℚ }
      (validated 1 "acme" ++ validated 2 "acme")).all (fun x =>
        x.1.calls.rows.all (fun c => early x.1.clock c.phase)) = true := by decide +kernel
  refine ⟨by decide +kernel, (replay_cache_once .redis (fun _ => []) oneResponse 0 _
    (fun _ _ _ => trivial) ?_).1⟩
  intro x hx pid v assertion ttl _ hfind
  have hcall := (Table.find?_eq_some_iff.mp hfind).1
  have hearly := List.all_eq_true.mp (List.all_eq_true.mp hall x hx) _ hcall
  exact .inl (of_decide_eq_true hearly)

/-- A second validation passes its checks at 300, just before the assertion expires; its statement
runs after a purge at 301. And on MySQL a realm id that ends in a space stands for the one that does
not. -/
theorem assertion_accepted_twice :
    (run (step ((SamlBackend.sql .sqlite).store ℚ (fun _ => [])) oneResponse)
      { clock := 0, store := (SamlBackend.sql .sqlite).empty ℚ }
      (validated 1 "acme" ++ [.validate 2 (signedFor "acme"), .tick 300, .advance 2, .advance 2,
        .advance 2, .tick 301, .deleteExpired 3, .advance 3, .advance 3, .advance 3,
        .advance 2])).log =
      [.accepted "acme" "_a" (1 / 2), .accepted "acme" "_a" (1 / 2)] ∧
    (run (step ((SamlBackend.sql .mysql).store ℚ (fun _ => [])) oneResponse)
      { clock := 0, store := (SamlBackend.sql .mysql).empty ℚ }
      (validated 1 "acme" ++ validated 2 "acme ")).log =
      [.replayed "acme " "_a", .accepted "acme" "_a" (1 / 2)] := by
  constructor
  · decide +kernel
  · decide +kernel

end Replay
end AuthVerifier
