import AuthVerifier.JwksTasks
import AuthVerifier.Transparent

/-!
The lock of the JWKS cache. The cleanup keeps the read guard under which it iterates and calls
`remove_realm`, which takes the write lock, for every stale entry it comes to: from then on it waits
for itself, and so does every task that writes to the cache.
-/

set_option autoImplicit false

namespace AuthVerifier.JwksTasks
open Concurrent Relational Transition

/-- No task waits for a guard of its own, and the cleanups that came to an end removed exactly the
stale entries. -/
structure LockSafe (w : World) : Prop where
  noSelfWait : ∀ job ∈ w.jobs, ¬(job.phase.requestsWrite = true ∧ job.phase.holdsGuard = true)
  exactCleanups : ∀ now before after, .cleaned now before after ∈ w.log →
    after = before.deleteWhere (fun realm => realm.isStale now)

def MeetsStale (w : World) : Input → Prop
  | .advance pid _ => ∃ now before realm rest,
      ⟨pid, .cleanup (.scanning now before (realm :: rest))⟩ ∈ w.jobs ∧ realm.isStale now = true
  | _ => False

section
variable {X : Externals} {w : World}

/-- The cleanup is inside `remove_realm`. -/
def Stuck (pid : Nat) (w : World) : Prop :=
  ∃ now before realm rest, ⟨pid, .cleanup (.evicting now before realm rest)⟩ ∈ w.jobs

theorem guarded_of_mem {job : Job Phase} (hjob : job ∈ w.jobs)
    (hguard : job.phase.holdsGuard = true) : w.guarded = true :=
  List.any_eq_true.mpr ⟨job, hjob, hguard⟩

theorem Stuck.guarded {pid : Nat} (h : Stuck pid w) : w.guarded = true := by
  obtain ⟨now, before, realm, rest, hjob⟩ := h
  exact guarded_of_mem hjob rfl

theorem Stuck.after_step {pid : Nat} (h : Stuck pid w) (i : Input) :
    Stuck pid (step X w i) ∧ (step X w i).cache = w.cache := by
  have hguarded := h.guarded
  obtain ⟨now, before, realm, rest, hmem⟩ := h
  rcases step_cases X w i with ⟨clock, -, h⟩ | ⟨db, realmId, h⟩ | ⟨pid', phase, -, h⟩ |
      ⟨pid', m, -, job, hjob, hpid, hfree, h⟩
  · rw [h]
    exact ⟨⟨now, before, realm, rest, hmem⟩, rfl⟩
  · rw [h]
    exact ⟨⟨now, before, realm, rest, mem_storeRealm_jobs_of_mem hmem⟩, rfl⟩
  · rw [h]
    exact ⟨⟨now, before, realm, rest, Jobs.mem_start_of_mem hmem⟩, rfl⟩
  · -- no task gets the write lock, the cleanup least of all
    have hread : job.phase.requestsWrite = false := by
      cases hwrite : job.phase.requestsWrite with
      | false => rfl
      | true => rw [hfree hwrite] at hguarded; cases hguarded
    have hother : pid ≠ pid' := by
      rintro rfl
      rw [Table.eq_of_key hjob hmem hpid] at hread
      cases hread
    rw [h]
    exact ⟨⟨now, before, realm, rest, mem_apply_jobs_of_ne hmem hother⟩, taskStep_cache hread⟩

theorem Stuck.forever {pid : Nat} (h : Stuck pid w) (is : List Input) :
    Stuck pid (run (step X) w is) ∧ (run (step X) w is).cache = w.cache := by
  induction is generalizing w with
  | nil => exact ⟨h, rfl⟩
  | cons i is ih =>
    obtain ⟨hstuck, hcache⟩ := h.after_step (X := X) i
    obtain ⟨hrun, hsame⟩ := ih hstuck
    exact ⟨hrun, hsame.trans hcache⟩

theorem stuck_of_meetsStale {pid : Nat} {m : Moment} (h : MeetsStale w (.advance pid m)) :
    Stuck pid (step X w (.advance pid m)) := by
  obtain ⟨now, before, realm, rest, hjob, hstale⟩ := h
  refine ⟨now, before, realm, rest, ?_⟩
  have hfind := Table.find?_eq_some_iff.mpr ⟨hjob, rfl⟩
  simp only [step, advance, hfind, Phase.requestsWrite, Bool.false_and, apply, taskStep, cleanupStep,
    hstale, if_true, Option.map_some]
  exact Jobs.mem_setPhase.mpr (.inr ⟨rfl, Table.key_mem_keys hjob⟩)

theorem Stuck.not_lockSafe {pid : Nat} (h : Stuck pid w) : ¬ LockSafe w := by
  obtain ⟨now, before, realm, rest, hjob⟩ := h
  exact fun hsafe => hsafe.noSelfWait _ hjob ⟨rfl, rfl⟩

/-- As far as a cleanup has scanned, nothing is stale, and nothing has changed since it started. -/
def Phase.Consistent (cache : JwksCache) : Phase → Prop
  | .cleanup (.scanning now before rest) => cache = before ∧
      ∃ done, before.rows = done ++ rest ∧ ∀ realm ∈ done, realm.isStale now = false
  | .cleanup (.evicting ..) => False
  | _ => True

structure CleanupsConsistent (w : World) : Prop where
  jobs : ∀ job ∈ w.jobs, job.phase.Consistent w.cache
  exactCleanups : ∀ now before after, .cleaned now before after ∈ w.log →
    after = before.deleteWhere (fun realm => realm.isStale now)

namespace Phase
variable {cache : JwksCache} {m : Moment} {phase : Phase}

theorem consistent_of_no_guard (h : phase.holdsGuard = false) : phase.Consistent cache := by
  unfold holdsGuard at h
  unfold Consistent
  split <;> simp_all

theorem Consistent.no_selfWait (h : phase.Consistent cache) :
    ¬(phase.requestsWrite = true ∧ phase.holdsGuard = true) := by
  unfold Consistent at h
  unfold requestsWrite holdsGuard
  split <;> simp_all

theorem Consistent.outdate (h : phase.Consistent cache) (realmId : String) :
    (phase.outdate realmId).Consistent cache := by
  cases phase with
  | login => trivial
  | find | upsert | remove | cleanup => exact h

theorem Consistent.cleanupStep {phase next : CleanupPhase}
    (h : (Phase.cleanup phase).Consistent cache)
    (hfresh : ∀ now before realm rest, phase = .scanning now before (realm :: rest) →
      realm.isStale now = false)
    (hnext : (JwksTasks.cleanupStep cache m phase).2.2 = some next) :
    (Phase.cleanup next).Consistent cache := by
  cases phase with
  | starting =>
    cases hnext
    exact ⟨rfl, [], rfl, by simp⟩
  | scanning now before rest =>
    cases rest with
    | nil => cases hnext
    | cons realm rest =>
      have hlive := hfresh now before realm rest rfl
      obtain ⟨hcache, done, hdone, hscanned⟩ := h
      simp only [JwksTasks.cleanupStep, hlive, Option.some.injEq] at hnext
      subst hnext
      refine ⟨hcache, done ++ [realm], by simpa using hdone, ?_⟩
      simp only [List.mem_append, List.mem_singleton]
      rintro r (hr | rfl)
      · exact hscanned r hr
      · exact hlive
  | evicting => exact h.elim

end Phase

theorem cleaned_mem_taskStep {cache : JwksCache} {m : Moment} {phase : Phase} {now : Int}
    {before after : JwksCache} (h : .cleaned now before after ∈ (taskStep X cache m phase).events) :
    phase = .cleanup (.scanning now before []) ∧ after = cache := by
  have hfetched : ∀ jwks, .cleaned now before after ∉ fetchedEvents jwks := by
    simp [mem_fetchedEvents]
  have hfind : ∀ realmId kid phase,
      .cleaned now before after ∉ (findStep cache m realmId kid phase).2.1 := by
    intro realmId kid phase h
    rcases mem_findStep_events h with ⟨realm, -, -, h⟩ | ⟨realm, -, h⟩
    · cases h
    · exact hfetched _ h
  have hupsert : ∀ realmId uris interval phase,
      .cleaned now before after ∉ (upsertStep cache m realmId uris interval phase).2.1 :=
    fun _ _ _ _ h => hfetched _ (mem_upsertStep_events h).2
  cases phase with
  | find => exact absurd h (hfind _ _ _)
  | upsert => exact absurd h (hupsert _ _ _ _)
  | remove => cases h
  | login l phase =>
    rcases mem_loginStep_events h with ⟨_, -, h⟩ | ⟨_, _, _, _, _, -, h | ⟨_, -, h⟩⟩
    · exact absurd h (hupsert _ _ _ _)
    · exact absurd h (hfind _ _ _)
    · cases h
  | cleanup phase =>
    cases phase with
    | scanning now' before' rest =>
      cases rest with
      | nil =>
        cases List.mem_singleton.mp h
        exact ⟨rfl, rfl⟩
      | cons => cases h
    | starting | evicting => cases h

theorem cleanup_next_taskStep {cache : JwksCache} {m : Moment} {phase : Phase}
    {next : CleanupPhase} (h : (taskStep X cache m phase).next = some (.cleanup next)) :
    ∃ current, phase = .cleanup current ∧ (cleanupStep cache m current).2.2 = some next := by
  cases phase with
  | cleanup current =>
    simp only [taskStep, Option.map_eq_some_iff, Phase.cleanup.injEq, exists_eq_right] at h
    exact ⟨current, rfl, h⟩
  | remove => cases h
  | upsert | login => simp [taskStep] at h
  | find realmId kid phase =>
    simp only [taskStep] at h
    split at h <;> cases h

theorem CleanupsConsistent.lockSafe (h : CleanupsConsistent w) : LockSafe w :=
  ⟨fun job hjob => (h.jobs job hjob).no_selfWait, h.exactCleanups⟩

theorem deleteWhere_of_scanned {cache : JwksCache} {now : Int}
    (h : ∀ realm ∈ cache.rows, realm.isStale now = false) :
    cache = cache.deleteWhere (fun realm => realm.isStale now) := by
  refine Table.ext_rows (List.filter_eq_self.mpr ?_).symm
  intro realm hrealm
  simp [h realm hrealm]

theorem CleanupsConsistent.apply_taskStep {m : Moment} {job : Job Phase}
    (h : CleanupsConsistent w) (hjob : job ∈ w.jobs)
    (hfree : job.phase.requestsWrite = true → w.guarded = false)
    (hfresh : ∀ now before realm rest, job.phase = .cleanup (.scanning now before (realm :: rest)) →
      realm.isStale now = false) :
    CleanupsConsistent (apply w job.pid (taskStep X w.cache m job.phase)) := by
  refine ⟨?_, ?_⟩
  · intro other hother
    rcases mem_apply_jobs hother with ⟨hold, hne⟩ | ⟨-, hnext⟩
    · cases hwrite : job.phase.requestsWrite with
      | false =>
        simp only [apply, taskStep_cache hwrite]
        exact h.jobs other hold
      | true =>
        have hguard := List.any_eq_false.mp (hfree hwrite) other hold
        exact Phase.consistent_of_no_guard (by simpa using hguard)
    · cases hphase : other.phase with
      | cleanup next =>
        rw [hphase] at hnext
        obtain ⟨current, hcurrent, hstep⟩ := cleanup_next_taskStep hnext
        have hread : job.phase.requestsWrite = false := by
          have hconsistent := h.jobs job hjob
          rw [hcurrent] at hconsistent ⊢
          cases current with
          | evicting => exact hconsistent.elim
          | starting | scanning => rfl
        have hjob := h.jobs job hjob
        simp only [apply, taskStep_cache hread]
        rw [hcurrent] at hjob hfresh
        exact hjob.cleanupStep (fun now before realm rest he => hfresh _ _ _ _ (by rw [he])) hstep
      | find | upsert | remove | login => trivial
  · intro now before after hlog
    rcases List.mem_append.mp hlog with hnew | hold
    · obtain ⟨hphase, rfl⟩ := cleaned_mem_taskStep hnew
      have hconsistent := h.jobs job hjob
      rw [hphase] at hconsistent
      obtain ⟨hcache, done, hdone, hscanned⟩ := hconsistent
      rw [hcache]
      refine deleteWhere_of_scanned ?_
      rw [hdone, List.append_nil]
      exact hscanned
    · exact h.exactCleanups now before after hold

theorem CleanupsConsistent.step (h : CleanupsConsistent w) (i : Input) (hfresh : ¬ MeetsStale w i) :
    CleanupsConsistent (step X w i) := by
  rcases step_cases X w i with ⟨clock, -, he⟩ | ⟨db, realmId, he⟩ | ⟨pid, phase, hstarts, he⟩ |
      ⟨pid, m, hi, job, hjob, hpid, hfree, he⟩
  · rw [he]
    exact ⟨h.jobs, h.exactCleanups⟩
  · rw [he]
    refine ⟨?_, h.exactCleanups⟩
    intro job hjob
    obtain ⟨old, hold, -, hphase⟩ := mem_storeRealm_jobs hjob
    rw [hphase]
    exact (h.jobs old hold).outdate realmId
  · rw [he]
    refine ⟨?_, h.exactCleanups⟩
    intro job hjob
    rcases Jobs.mem_start hjob with hold | rfl
    · exact h.jobs job hold
    · exact Phase.consistent_of_no_guard (Starts.holdsGuard hstarts)
  · rw [he, ← hpid]
    refine h.apply_taskStep hjob hfree ?_
    intro now before realm rest hphase
    cases hstale : realm.isStale now with
    | false => rfl
    | true =>
      refine absurd ?_ hfresh
      rw [hi]
      exact ⟨now, before, realm, rest, by rw [← hphase, ← hpid]; exact hjob, hstale⟩

end

section
variable (X : Externals) (clock : Int) (db : Database)

/-- From a new manager on, at any time and over any database: the tasks are safe exactly as long as
no cleanup comes to a stale entry. -/
theorem lockSafe_iff_no_stale_scanned (is : List Input) :
    (∀ x ∈ trace (step X) { clock, db } is, LockSafe (step X x.1 x.2)) ↔
      ∀ x ∈ trace (step X) { clock, db } is, ¬ MeetsStale x.1 x.2 := by
  refine trace_forall_iff_of_invariant (step X) (fun w _ => CleanupsConsistent w)
    (P := fun w i => LockSafe (step X w i)) (C := fun w i => ¬ MeetsStale w i) ?_ ?_ is ?_
  · intro w i _ h
    constructor
    · intro hsafe hmeets
      cases i with
      | advance pid m => exact (stuck_of_meetsStale hmeets).not_lockSafe hsafe
      | _ => exact hmeets
    · exact fun hfresh => (h.step i hfresh).lockSafe
  · exact fun w i _ h hfresh => h.step i hfresh
  · exact ⟨by simp, by simp⟩

end
end AuthVerifier.JwksTasks

namespace AuthVerifier.Transparent
open Concurrent JwksTasks Transition

def retentionRun : List Input :=
  [.upsertRealm 0 "acme" [] none, .advance 0 (moment 0), .advance 0 (moment 0),
    .tick (25 * 3600 * 1000000000), .cleanup 1, .advance 1 (moment 0), .advance 1 (moment 0)]

theorem retentionRun_stuck : Stuck 1 (run (step externals) { clock := 0 } retentionRun) := by
  refine ⟨25 * 3600 * 1000000000,
    (run (step externals) { clock := 0 } (retentionRun.take 3)).cache,
    ⟨"acme", [], [], some 0, none⟩, [], ?_⟩
  decide

/-- The cleanup asks for the write lock under its own read guard. It is granted in no continuation,
and nothing is written to the cache any more. -/
theorem cleanup_blocks_itself :
    ¬(∀ x ∈ trace (step externals) { clock := 0 } retentionRun,
      LockSafe (step externals x.1 x.2)) ∧
    ∀ is, Stuck 1 (run (step externals) { clock := 0 } (retentionRun ++ is)) ∧
      (run (step externals) { clock := 0 } (retentionRun ++ is)).cache =
        (run (step externals) { clock := 0 } retentionRun).cache := by
  refine ⟨?_, ?_⟩
  · intro hsafe
    have hlast := hsafe (run (step externals) { clock := 0 } (retentionRun.take 6),
      .advance 1 (moment 0)) (mem_trace_of_split _ _ [] rfl)
    exact retentionRun_stuck.not_lockSafe hlast
  · intro is
    rw [run_append]
    exact retentionRun_stuck.forever is

end AuthVerifier.Transparent
