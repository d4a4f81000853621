import AuthVerifier.JwksTasks
import AuthVerifier.Transparent

/-!
How often `find_jwk` contacts the identity providers of a realm. The interval is checked on a copy
of the cache entry, and the time of the refresh is written when the fetch is over: the calls whose
checks come in between fetch as well. Where every call that starts a fetch is the only one to do so,
and the entry itself lets it, the fetches of a realm lie an interval apart.
-/

set_option autoImplicit false

namespace AuthVerifier.JwksTasks
open Concurrent Relational Transition

/-- Of two events, the later one first: two fetch rounds of a realm are an interval apart. -/
def Event.Apart : Event → Event → Prop
  | .refresh realmId _ _ nanos, .refresh realmId' _ interval nanos' => realmId = realmId' →
      nanos' + interval.getD smallestRefreshInterval * 1000000000 < nanos
  | _, _ => True

def Throttled (log : List Event) : Prop := log.Pairwise Event.Apart

/-- Calls of `find_jwk` and the time that passes. -/
def Input.isFind : Input → Bool
  | .tick _ | .findJwk .. | .advance .. => true
  | _ => false

/-- The call is between its check of the interval and its write to the cache. -/
def Phase.contacts (realmId : String) : Phase → Bool
  | .find id _ (.fetching _) | .find id _ (.storing ..) => id == realmId
  | _ => false

/-- A call that starts a fetch is alone in this, and the entry itself, not only the copy, lets it. -/
def refreshesAlone (w : World) : Input → Bool
  | .advance pid _ => match w.jobs.find? pid with
    | some ⟨_, .find realmId _ (.checking realm)⟩ => !realm.isRefreshAllowed w.clock ||
        (!w.jobs.rows.any (fun job => job.phase.contacts realmId) &&
          (w.cache.find? realmId).all (fun entry => entry.isRefreshAllowed w.clock))
    | _ => true
  | _ => true

section
variable {X : Externals} {w : World}

theorem throttled_append {events log : List Event} (h : Throttled log)
    (hnone : ∀ realmId uris interval nanos, .refresh realmId uris interval nanos ∉ events) :
    Throttled (events ++ log) := by
  have hapart : ∀ e ∈ events, ∀ e', e.Apart e' := by
    intro e he e'
    cases e with
    | refresh => exact absurd he (hnone _ _ _ _)
    | fetched | accepted | cleaned => trivial
  have hself : events.Pairwise Event.Apart :=
    List.pairwise_of_forall_mem_list (fun e he e' _ => hapart e he e')
  exact List.pairwise_append.mpr ⟨hself, h, fun e he e' _ => hapart e he e'⟩

/-- A call of `find_jwk` goes by the interval of the entry in the cache. -/
def Phase.Copied (cache : JwksCache) : Phase → Prop
  | .find realmId _ phase => ∀ realm, phase.copy = some realm → ∃ entry,
      cache.find? realmId = some entry ∧
      entry.smallestRefreshInterval = realm.smallestRefreshInterval
  | _ => False

/-- A fetch round is still going on, or the entry in the cache is not older. -/
def Noted (w : World) (realmId : String) (interval : Option Int) (nanos : Int) : Prop :=
  ∃ entry, w.cache.find? realmId = some entry ∧ entry.smallestRefreshInterval = interval ∧
    ((∃ job ∈ w.jobs, job.phase.contacts realmId = true) ∨
      ∃ last, entry.lastUpdate = some last ∧ nanos ≤ last)

structure Throttling (w : World) : Prop where
  copied : ∀ job ∈ w.jobs, job.phase.Copied w.cache
  past : ∀ realmId uris interval nanos, .refresh realmId uris interval nanos ∈ w.log →
    nanos ≤ w.clock
  noted : ∀ realmId uris interval nanos, .refresh realmId uris interval nanos ∈ w.log →
    Noted w realmId interval nanos
  throttled : Throttled w.log

/-- Entries stay, with their interval, and their time moves to the present or not at all. -/
def Keeps (w : World) (cache : JwksCache) : Prop :=
  ∀ realmId entry, w.cache.find? realmId = some entry → ∃ entry',
    cache.find? realmId = some entry' ∧
    entry'.smallestRefreshInterval = entry.smallestRefreshInterval ∧
    (entry'.lastUpdate = entry.lastUpdate ∨ entry'.lastUpdate = some w.clock)

theorem keeps_refl : Keeps w w.cache := fun _ entry h => ⟨entry, h, rfl, .inl rfl⟩

theorem keeps_setJwks {m : Moment} {realmId : String} {jwks : List (String × JwkSet)} :
    Keeps w (JwksManager.setJwks w.cache (w.moment m) realmId jwks) := by
  intro id entry hentry
  by_cases hid : id = realmId
  · subst hid
    exact ⟨_, Table.find?_updateWhere_key hentry, rfl, .inr rfl⟩
  · refine ⟨entry, ?_, rfl, .inl rfl⟩
    obtain ⟨hmem, hkey⟩ := Table.find?_eq_some_iff.mp hentry
    exact Table.find?_eq_some_iff.mpr
      ⟨Table.mem_updateWhere_key.mpr (.inl ⟨hmem, by rwa [hkey]⟩), hkey⟩

theorem Phase.Copied.of_keeps {phase : Phase} {cache : JwksCache} (h : phase.Copied w.cache)
    (hkeeps : Keeps w cache) : phase.Copied cache := by
  cases phase with
  | find realmId kid phase =>
    intro realm hcopy
    obtain ⟨entry, hentry, hinterval⟩ := h realm hcopy
    obtain ⟨entry', hentry', hsame, -⟩ := hkeeps realmId entry hentry
    exact ⟨entry', hentry', hsame.trans hinterval⟩
  | upsert | remove | cleanup | login => exact h

theorem keeps_findStep (m : Moment) (realmId kid : String) (phase : FindPhase) :
    Keeps w (findStep w.cache (w.moment m) realmId kid phase).1 := by
  cases hwrite : (Phase.find realmId kid phase).requestsWrite with
  | false =>
    rw [findStep_cache hwrite]
    exact keeps_refl
  | true =>
    cases phase with
    | storing realm jwks =>
      simp only [findStep]
      split
      · exact keeps_setJwks
      · exact keeps_refl
    | reading | checking | fetching => cases hwrite

theorem contacts_findStep {m : Moment} {realmId kid : String} {phase : FindPhase} {id : String}
    (hcopied : (Phase.find realmId kid phase).Copied w.cache)
    (h : (Phase.find realmId kid phase).contacts id = true) :
    (∃ next, (findStep w.cache (w.moment m) realmId kid phase).2.2 = .inl next ∧
      (Phase.find realmId kid next).contacts id = true) ∨
    ∃ entry, (findStep w.cache (w.moment m) realmId kid phase).1.find? id = some entry ∧
      entry.lastUpdate = some w.clock := by
  cases phase with
  | reading | checking => cases h
  | fetching realm => exact .inl ⟨_, rfl, h⟩
  | storing realm jwks =>
    right
    have hid : realmId = id := by simpa [Phase.contacts] using h
    subst hid
    obtain ⟨entry, hentry, -⟩ := hcopied realm rfl
    obtain ⟨hmem, hkey⟩ := Table.find?_eq_some_iff.mp hentry
    simp only [findStep, if_pos (show realmId ∈ w.cache.keys from hkey ▸ Table.key_mem_keys hmem)]
    exact ⟨_, Table.find?_updateWhere_key hentry, rfl⟩

section FindStep
variable {m : Moment} {pid : Nat} {realmId kid : String} {phase : FindPhase}

theorem Throttling.copied_step (h : Throttling w)
    (hjob : ⟨pid, .find realmId kid phase⟩ ∈ w.jobs) :
    ∀ job ∈ (apply w pid (taskStep X w.cache (w.moment m) (.find realmId kid phase))).jobs,
      job.phase.Copied (findStep w.cache (w.moment m) realmId kid phase).1 := by
  intro job hmem
  rcases mem_apply_jobs hmem with ⟨hold, -⟩ | ⟨-, hnext⟩
  · exact (h.copied job hold).of_keeps (keeps_findStep m realmId kid phase)
  · obtain ⟨next, hphase, hnext⟩ := find_next_taskStep hnext
    rw [hphase]
    refine Phase.Copied.of_keeps (w := w) ?_ (keeps_findStep m realmId kid phase)
    intro realm hcopy
    rcases findStep_copy hnext hcopy with hold | ⟨-, hread⟩
    · exact h.copied _ hjob realm hold
    · exact ⟨realm, hread, rfl⟩

theorem Throttling.noted_step (h : Throttling w)
    (hjob : ⟨pid, .find realmId kid phase⟩ ∈ w.jobs) {id : String} {interval : Option Int}
    {nanos : Int} (hpast : nanos ≤ w.clock) (hnoted : Noted w id interval nanos) :
    Noted (apply w pid (taskStep X w.cache (w.moment m) (.find realmId kid phase))) id interval
      nanos := by
  obtain ⟨entry, hentry, hinterval, hcontact⟩ := hnoted
  obtain ⟨entry', hentry', hsame, hupdate⟩ :=
    keeps_findStep m realmId kid phase id entry hentry
  refine ⟨entry', hentry', hsame.trans hinterval, ?_⟩
  rcases hcontact with ⟨other, hother, hcontacts⟩ | ⟨last, hlast, hle⟩
  · by_cases hpid : other.pid = pid
    · cases Table.eq_of_key hother hjob hpid
      rcases contacts_findStep (m := m) (h.copied _ hjob) hcontacts with
        ⟨next, hnext, hstill⟩ | ⟨stored, hstored, hnow⟩
      · refine .inl ⟨⟨pid, .find realmId kid next⟩, mem_apply_jobs_next hjob ?_, hstill⟩
        simp only [taskStep, hnext]
      · cases Option.some.inj (hstored.symm.trans hentry')
        exact .inr ⟨w.clock, hnow, hpast⟩
    · exact .inl ⟨other, mem_apply_jobs_of_ne hother hpid, hcontacts⟩
  · right
    rcases hupdate with hsame | hnow
    · exact ⟨last, hsame.trans hlast, hle⟩
    · exact ⟨w.clock, hnow, hpast⟩

/-- A round that starts while no other goes on, and as the entry in the cache permits, is apart from
all rounds before it. -/
theorem Throttling.apart (h : Throttling w) {id : String} {uris : List String}
    {interval : Option Int}
    (halone : ∀ job ∈ w.jobs, job.phase.contacts id = false)
    (hallowed : ∀ entry, w.cache.find? id = some entry → entry.isRefreshAllowed w.clock = true) :
    ∀ e ∈ w.log, (Event.refresh id uris interval w.clock).Apart e := by
  intro e he
  cases e with
  | refresh id' uris' interval' nanos' =>
    rintro rfl
    obtain ⟨entry, hentry, rfl, hcontact⟩ := h.noted _ _ _ _ he
    rcases hcontact with ⟨job, hjob, hcontacts⟩ | ⟨last, hlast, hle⟩
    · rw [halone job hjob] at hcontacts
      cases hcontacts
    · have hlt := hallowed entry hentry
      simp only [RealmJwks.isRefreshAllowed, hlast, decide_eq_true_eq] at hlt
      omega
  | fetched | accepted | cleaned => trivial

theorem Throttling.find_step (h : Throttling w)
    (hjob : ⟨pid, .find realmId kid phase⟩ ∈ w.jobs)
    (halone : refreshesAlone w (.advance pid m) = true) :
    Throttling (apply w pid (taskStep X w.cache (w.moment m) (.find realmId kid phase))) := by
  have hnew : ∀ id uris interval nanos, .refresh id uris interval nanos ∈
      (findStep w.cache (w.moment m) realmId kid phase).2.1 → ∃ realm, phase = .checking realm ∧
        realm.isRefreshAllowed w.clock = true ∧ id = realmId ∧ uris = realm.uris ∧
        interval = realm.smallestRefreshInterval ∧ nanos = w.clock := by
    intro id uris interval nanos he
    rcases mem_findStep_events he with ⟨realm, hphase, hallowed, he⟩ | ⟨realm, -, he⟩
    · cases he
      exact ⟨realm, hphase, hallowed, rfl, rfl, rfl, rfl⟩
    · simp [mem_fetchedEvents] at he
  refine ⟨h.copied_step hjob, ?_, ?_, ?_⟩
  · intro id uris interval nanos he
    rcases List.mem_append.mp he with he | hold
    · obtain ⟨-, -, -, -, -, -, rfl⟩ := hnew _ _ _ _ he
      exact le_rfl
    · exact h.past _ _ _ _ hold
  · intro id uris interval nanos he
    rcases List.mem_append.mp he with he | hold
    · obtain ⟨realm, rfl, hallowed, rfl, -, rfl, rfl⟩ := hnew _ _ _ _ he
      obtain ⟨entry, hentry, hinterval⟩ := h.copied _ hjob realm rfl
      obtain ⟨entry', hentry', hsame, -⟩ := keeps_findStep m id kid _ id entry hentry
      refine ⟨entry', hentry', hsame.trans hinterval, .inl ⟨⟨pid, .find id kid (.fetching realm)⟩,
        mem_apply_jobs_next hjob ?_, by simp [Phase.contacts]⟩⟩
      simp [taskStep, findStep, World.moment, hallowed]
    · exact h.noted_step hjob (h.past _ _ _ _ hold) (h.noted _ _ _ _ hold)
  · by_cases hstarts : ∃ realm, phase = .checking realm ∧ realm.isRefreshAllowed w.clock = true
    · obtain ⟨realm, rfl, hallowed⟩ := hstarts
      have hfind := Table.find?_eq_some_iff.mpr ⟨hjob, rfl⟩
      simp only [refreshesAlone, hfind, hallowed, Bool.not_true, Bool.false_or, Bool.and_eq_true,
        Bool.not_eq_true', List.any_eq_false, Option.all_eq_true] at halone
      simp only [apply, taskStep, findStep, World.moment, hallowed, if_true]
      refine List.pairwise_cons.mpr ⟨h.apart ?_ halone.2, h.throttled⟩
      intro job hmem
      simpa using halone.1 job hmem
    · refine throttled_append h.throttled ?_
      intro id uris interval nanos he
      obtain ⟨realm, hphase, hallowed, -⟩ := hnew _ _ _ _ he
      exact hstarts ⟨realm, hphase, hallowed⟩

end FindStep

theorem Throttling.step (h : Throttling w) {i : Input} (hfind : i.isFind = true)
    (halone : refreshesAlone w i = true) : Throttling (step X w i) := by
  cases i with
  | createRealm | updateRealm | deleteRealm | login | upsertRealm | removeRealm | cleanup =>
    cases hfind
  | tick nanos =>
    refine ⟨h.copied, ?_, h.noted, h.throttled⟩
    exact fun _ _ _ _ he => (h.past _ _ _ _ he).trans (le_max_left _ _)
  | findJwk pid realmId kid =>
    refine ⟨?_, h.past, ?_, h.throttled⟩
    · intro job hjob
      rcases Jobs.mem_start hjob with hold | rfl
      · exact h.copied job hold
      · intro realm hcopy
        cases hcopy
    · intro id uris interval nanos he
      obtain ⟨entry, hentry, hinterval, hcontact⟩ := h.noted _ _ _ _ he
      exact ⟨entry, hentry, hinterval, hcontact.imp_left
        (fun ⟨job, hjob, hcontacts⟩ => ⟨job, Jobs.mem_start_of_mem hjob, hcontacts⟩)⟩
  | advance pid m =>
    rcases advance_cases X w pid m with he | ⟨⟨pid', phase⟩, hjob, rfl, -, he⟩
    · simp only [JwksTasks.step, he]
      exact h
    · simp only [JwksTasks.step, he]
      cases phase with
      | find realmId kid phase => exact h.find_step hjob halone
      | upsert | remove | cleanup | login => exact (h.copied _ hjob).elim

end

/-- Any calls of `find_jwk`, with any `kid`, over any cache and in any order of their steps. -/
theorem throttled_of_refreshesAlone (X : Externals) (clock : Int) (cache : JwksCache)
    (is : List Input) (hfind : ∀ i ∈ is, i.isFind = true)
    (halone : ∀ x ∈ trace (step X) { clock, cache } is, refreshesAlone x.1 x.2 = true) :
    ∀ x ∈ trace (step X) { clock, cache } is, Throttled (step X x.1 x.2).log := by
  refine trace_forall_of_invariant (step X)
    (fun w is => Throttling w ∧ ∀ i ∈ is, i.isFind = true)
    (P := fun w i => Throttled (step X w i).log) (C := fun w i => refreshesAlone w i = true)
    ?_ ?_ is ⟨?_, hfind⟩ halone
  · intro w i is h halone
    exact (h.1.step (h.2 i List.mem_cons_self) halone).throttled
  · intro w i is h halone
    exact ⟨h.1.step (h.2 i List.mem_cons_self) halone,
      fun j hj => h.2 j (List.mem_cons_of_mem i hj)⟩
  · exact ⟨by simp, by simp, by simp, .nil⟩

end AuthVerifier.JwksTasks

namespace AuthVerifier.Transparent
open JwksTasks Transition

def fetchedCache : JwksCache := ⟨[⟨"acme", ["https://idp/jwks"], [], some 0, none⟩], by decide⟩

/-- One call with an unknown `kid`, and another one two minutes later. -/
def spacedCalls : List Input :=
  [.findJwk 0 "acme" "k0", .advance 0 (moment 0), .advance 0 (moment 0), .advance 0 (moment 0),
    .advance 0 (moment 0), .tick (200 * 1000000000), .findJwk 1 "acme" "k1", .advance 1 (moment 0),
    .advance 1 (moment 0)]

/-- Both contact the identity provider, far enough apart. -/
theorem throttled_spacedCalls :
    (run (step externals) { clock := 61 * 1000000000, cache := fetchedCache }
      spacedCalls).log.length = 2 ∧
    Throttled (run (step externals) { clock := 61 * 1000000000, cache := fetchedCache }
      spacedCalls).log := by
  refine ⟨by decide, ?_⟩
  exact throttled_of_refreshesAlone externals (61 * 1000000000) fetchedCache spacedCalls
    (by decide) (by decide)
    (run (step externals) { clock := 61 * 1000000000, cache := fetchedCache } (spacedCalls.take 8),
      .advance 1 (moment 0)) (mem_trace_of_split _ _ [] rfl)

/-- Two calls with unknown `kid`s, each one step ahead of the other in turn. -/
def overlappingCalls : List Input :=
  [.findJwk 0 "acme" "k0", .findJwk 1 "acme" "k1", .advance 0 (moment 0), .advance 1 (moment 0),
    .advance 0 (moment 0), .advance 1 (moment 0)]

/-- Both contact the identity provider, at the same time. -/
theorem overlapping_calls_both_fetch : (∀ i ∈ overlappingCalls, i.isFind = true) ∧
    ¬ Throttled (run (step externals) { clock := 61 * 1000000000, cache := fetchedCache }
      overlappingCalls).log := by
  refine ⟨by decide, ?_⟩
  have hlog : (run (step externals) { clock := 61 * 1000000000, cache := fetchedCache }
      overlappingCalls).log = [.refresh "acme" ["https://idp/jwks"] none (61 * 1000000000),
        .refresh "acme" ["https://idp/jwks"] none (61 * 1000000000)] := by
    decide
  rw [hlog]
  intro h
  have hapart := (List.pairwise_cons.mp h).1 _ List.mem_cons_self rfl
  revert hapart
  decide

end AuthVerifier.Transparent
