import AuthVerifier.Database
import AuthVerifier.Jwks
import AuthVerifier.Lib.Jobs
import AuthVerifier.Lib.Run

/-!
The tasks that share the JWKS cache, following `jwks.rs` and `jwt_middleware.rs`: bearer logins, the
calls of the manager and its cleanup, any number of them side by side, while administrators create,
update and delete realms. A task advances by one critical section of the lock, one reading of the
clock or one answer of the identity providers. Only the cleanup holds a guard of the lock from one
step to the next.
-/

set_option autoImplicit false

namespace AuthVerifier
open Concurrent Relational

def jwksCacheRetentionInterval : Int := 24 * 3600

def RealmJwks.isStale (r : RealmJwks) (nanos : Int) : Bool :=
  r.lastUpdate.any (fun last => last + jwksCacheRetentionInterval * 1000000000 < nanos)

namespace JwksManager

/-- What `upsert_realm` does once it has the key sets. -/
def insertRealm (cache : JwksCache) (nanos : Int) (realmId : String) (uris : List String)
    (interval : Option Int) (jwks : List (String × JwkSet)) : JwksCache :=
  let entry : RealmJwks := ⟨realmId, uris, jwks, some nanos, interval⟩
  if h : realmId ∈ cache.keys then
    cache.updateWhere (fun r => r.realmId == realmId) (fun r => { entry with realmId := r.realmId })
      (fun _ => rfl)
  else cache.insert entry h

theorem upsertRealm_eq (cache : JwksCache) (m : Moment) (realmId : String) (uris : List String)
    (interval : Option Int) : upsertRealm cache m realmId uris interval =
      insertRealm cache m.nanos realmId uris interval (fetchAll m uris) := rfl

def removeRealm (cache : JwksCache) (realmId : String) : JwksCache :=
  cache.deleteWhere (fun r => r.realmId == realmId)

end JwksManager

namespace JwksTasks

/-- A bearer login with the settings of the realm it has read. It is outdated once a row of that
realm has been written again. -/
structure Login where
  realmId : String
  params : JwtParams
  header : String
  outdated : Bool := false
  deriving DecidableEq

inductive Event where
  /-- `find_jwk` contacts identity providers, allowed by the interval it has read. -/
  | refresh (realmId : String) (uris : List String) (interval : Option Int) (nanos : Int)
  | fetched (uri : String) (set : JwkSet)
  | accepted (login : Login) (jwk : Jwk)
  /-- A cleanup is over: its reading of the clock, and the cache before and after. -/
  | cleaned (now : Int) (before after : JwksCache)
  deriving DecidableEq

def fetchedEvents (jwks : List (String × JwkSet)) : List Event :=
  jwks.map (fun entry => .fetched entry.1 entry.2)

inductive FindPhase where
  | reading
  | checking (realm : RealmJwks)
  | fetching (realm : RealmJwks)
  | storing (realm : RealmJwks) (jwks : List (String × JwkSet))
  deriving DecidableEq

def FindPhase.copy : FindPhase → Option RealmJwks
  | .reading => none
  | .checking realm | .fetching realm | .storing realm _ => some realm

def findStep (cache : JwksCache) (m : Moment) (realmId kid : String) :
    FindPhase → JwksCache × List Event × (FindPhase ⊕ Except AuthError (Option Jwk))
  | .reading => match cache.find? realmId with
    | none => (cache, [], .inr (.error (.jwks s!"Realm `{realmId}` not found")))
    | some realm => match realm.findJwk kid with
      | some jwk => (cache, [], .inr (.ok (some jwk)))
      | none => (cache, [], .inl (.checking realm))
  | .checking realm =>
    if realm.isRefreshAllowed m.nanos then
      (cache, [.refresh realmId realm.uris realm.smallestRefreshInterval m.nanos],
        .inl (.fetching realm))
    else (cache, [], .inr (.ok none))
  | .fetching realm =>
    let jwks := JwksManager.fetchAll m realm.uris
    (cache, fetchedEvents jwks, .inl (.storing realm jwks))
  | .storing realm jwks =>
    if realmId ∈ cache.keys then
      -- the key is looked up in the copy read at the start
      (JwksManager.setJwks cache m realmId jwks, [], .inr (.ok (realm.findJwk kid)))
    else (cache, [], .inr (.error
      (.jwks s!"Realm `{realmId}`, is not configured for JWKS refresh")))

inductive UpsertPhase where
  | fetching
  | inserting (jwks : List (String × JwkSet))
  deriving DecidableEq

def upsertStep (cache : JwksCache) (m : Moment) (realmId : String) (uris : List String)
    (interval : Option Int) : UpsertPhase → JwksCache × List Event × Option UpsertPhase
  | .fetching =>
    let jwks := JwksManager.fetchAll m uris
    (cache, fetchedEvents jwks, some (.inserting jwks))
  | .inserting jwks => (JwksManager.insertRealm cache m.nanos realmId uris interval jwks, [], none)

inductive CleanupPhase where
  | starting
  /-- The read guard is held; `rest` is what the iterator has not reached yet. -/
  | scanning (now : Int) (before : JwksCache) (rest : List RealmJwks)
  /-- Inside `remove_realm`, with the read guard of the scan still held. -/
  | evicting (now : Int) (before : JwksCache) (realm : RealmJwks) (rest : List RealmJwks)
  deriving DecidableEq

def cleanupStep (cache : JwksCache) (m : Moment) :
    CleanupPhase → JwksCache × List Event × Option CleanupPhase
  | .starting => (cache, [], some (.scanning m.nanos cache cache.rows))
  | .scanning now before [] => (cache, [.cleaned now before cache], none)
  | .scanning now before (realm :: rest) =>
    (cache, [], some (if realm.isStale now then .evicting now before realm rest
      else .scanning now before rest))
  | .evicting now before realm rest =>
    (JwksManager.removeRealm cache realm.realmId, [], some (.scanning now before rest))

inductive LoginPhase where
  | ensuring
  | caching (phase : UpsertPhase)
  /-- A provider is tried; those after it are still to come. -/
  | trying (kid token : String) (idp : IdpParams) (rest : List IdpParams) (phase : FindPhase)
  deriving DecidableEq

def nextProvider (kid token : String) : List IdpParams → Option LoginPhase
  | [] => none
  | idp :: rest => some (.trying kid token idp rest .reading)

section
variable (X : Externals)

/-- The first provider. A token without a readable header fails with each of them. -/
def firstProvider (l : Login) : Option LoginPhase :=
  match bearerToken l.header with
  | .error _ => none
  | .ok token => match X.decodeHeaderKid token with
    | .ok (some kid) => nextProvider kid token l.params.idpParams
    | _ => none

/-- The token under a key that was found, and the checks of the provider. -/
def verifies (m : Moment) (idp : IdpParams) (jwk : Jwk) (token : String) : Bool :=
  match X.verifyWithJwk jwk token with
  | .error _ => false
  | .ok claims => match (idpValidation idp).check m.now claims.registered with
    | .error _ => false
    | .ok () => true

def loginStep (cache : JwksCache) (m : Moment) (l : Login) :
    LoginPhase → JwksCache × List Event × Option LoginPhase
  | .ensuring =>
    (cache, [], if JwksManager.hasRealm cache l.realmId then firstProvider X l
      else some (.caching .fetching))
  | .caching phase =>
    match upsertStep cache m l.realmId (l.params.idpParams.map IdpParams.jwksUri)
      l.params.smallestRefreshIntervalSeconds phase with
    | (cache, events, some phase) => (cache, events, some (.caching phase))
    | (cache, events, none) => (cache, events, firstProvider X l)
  | .trying kid token idp rest phase => match findStep cache m l.realmId kid phase with
    | (cache, events, .inl phase) => (cache, events, some (.trying kid token idp rest phase))
    | (cache, events, .inr (.ok (some jwk))) =>
      if verifies X m idp jwk token then (cache, .accepted l jwk :: events, none)
      else (cache, events, nextProvider kid token rest)
    | (cache, events, .inr _) => (cache, events, nextProvider kid token rest)

end

inductive Phase where
  | find (realmId kid : String) (phase : FindPhase)
  | upsert (realmId : String) (uris : List String) (interval : Option Int) (phase : UpsertPhase)
  | remove (realmId : String)
  | cleanup (phase : CleanupPhase)
  | login (l : Login) (phase : LoginPhase)
  deriving DecidableEq

namespace Phase

def requestsWrite : Phase → Bool
  | .find _ _ (.storing ..) | .upsert _ _ _ (.inserting _) | .remove _ | .cleanup (.evicting ..)
  | .login _ (.caching (.inserting _)) | .login _ (.trying _ _ _ _ (.storing ..)) => true
  | _ => false

def holdsGuard : Phase → Bool
  | .cleanup (.scanning ..) | .cleanup (.evicting ..) => true
  | _ => false

def outdate (realmId : String) : Phase → Phase
  | .login l phase => .login { l with outdated := l.outdated || l.realmId == realmId } phase
  | phase => phase

end Phase

structure Effect where
  cache : JwksCache
  events : List Event
  next : Option Phase

def taskStep (X : Externals) (cache : JwksCache) (m : Moment) : Phase → Effect
  | .find realmId kid phase =>
    let done := findStep cache m realmId kid phase
    ⟨done.1, done.2.1, match done.2.2 with
      | .inl phase => some (.find realmId kid phase)
      | .inr _ => none⟩
  | .upsert realmId uris interval phase =>
    let done := upsertStep cache m realmId uris interval phase
    ⟨done.1, done.2.1, done.2.2.map (.upsert realmId uris interval)⟩
  | .remove realmId => ⟨JwksManager.removeRealm cache realmId, [], none⟩
  | .cleanup phase =>
    let done := cleanupStep cache m phase
    ⟨done.1, done.2.1, done.2.2.map .cleanup⟩
  | .login l phase =>
    let done := loginStep X cache m l phase
    ⟨done.1, done.2.1, done.2.2.map (.login l)⟩

structure World where
  clock : Int
  db : Database := .empty
  cache : JwksCache := .empty
  jobs : Jobs Phase := .empty
  /-- The newest event first. -/
  log : List Event := []

inductive Input where
  | tick (nanos : Int)
  | createRealm (realm : Realm)
  | updateRealm (realm : Realm)
  | deleteRealm (realmId : String)
  | login (pid : Nat) (realmId header : String)
  | findJwk (pid : Nat) (realmId kid : String)
  | upsertRealm (pid : Nat) (realmId : String) (uris : List String) (interval : Option Int)
  | removeRealm (pid : Nat) (realmId : String)
  | cleanup (pid : Nat)
  | advance (pid : Nat) (m : Moment)

section
variable (X : Externals) (w : World)

def World.guarded : Bool := w.jobs.rows.any (fun job => job.phase.holdsGuard)

def startTask (pid : Nat) (phase : Phase) : World := { w with jobs := w.jobs.start pid phase }

def storeRealm (db : Database) (realmId : String) : World :=
  { w with
    db := db
    jobs := w.jobs.updateWhere (fun _ => true)
      (fun job => { job with phase := job.phase.outdate realmId }) (fun _ => rfl) }

def World.moment (m : Moment) : Moment := { m with nanos := w.clock }

def apply (pid : Nat) (e : Effect) : World :=
  { w with
    cache := e.cache
    jobs := match e.next with
      | some phase => w.jobs.setPhase pid phase
      | none => w.jobs.finish pid
    log := e.events ++ w.log }

def advance (pid : Nat) (m : Moment) : World :=
  match w.jobs.find? pid with
  | none => w
  | some job =>
    if job.phase.requestsWrite && w.guarded then w
    else apply w pid (taskStep X w.cache (w.moment m) job.phase)

def startLogin (pid : Nat) (realmId header : String) : World :=
  match w.db.getRealm realmId with
  | none => w
  | some realm => match realm.authParams.jwtParams with
    | none => w
    | some params => startTask w pid (.login ⟨realmId, params, header, false⟩ .ensuring)

def step : Input → World
  | .tick nanos => { w with clock := max w.clock nanos }
  | .createRealm realm => match w.db.createRealm realm with
    | .error _ => w
    | .ok db => storeRealm w db realm.id
  | .updateRealm realm => storeRealm w (w.db.updateRealm realm) realm.id
  | .deleteRealm realmId => storeRealm w (w.db.deleteRealm realmId) realmId
  | .login pid realmId header => startLogin w pid realmId header
  | .findJwk pid realmId kid => startTask w pid (.find realmId kid .reading)
  | .upsertRealm pid realmId uris interval =>
    startTask w pid (.upsert realmId uris interval .fetching)
  | .removeRealm pid realmId => startTask w pid (.remove realmId)
  | .cleanup pid => startTask w pid (.cleanup .starting)
  | .advance pid m => advance X w pid m

def Starts : Phase → Prop
  | .find _ _ phase => phase = .reading
  | .upsert _ _ _ phase => phase = .fetching
  | .remove _ => True
  | .cleanup phase => phase = .starting
  | .login l phase => phase = .ensuring ∧ l.outdated = false ∧
      ∃ realm, w.db.getRealm l.realmId = some realm ∧ realm.authParams.jwtParams = some l.params

theorem Starts.holdsGuard {w : World} {phase : Phase} (h : Starts w phase) :
    phase.holdsGuard = false := by
  cases phase with
  | cleanup phase =>
    cases h
    rfl
  | find | upsert | remove | login => rfl

theorem mem_storeRealm_jobs {w : World} {db : Database} {realmId : String} {job : Job Phase}
    (h : job ∈ (storeRealm w db realmId).jobs) :
    ∃ old ∈ w.jobs, old.pid = job.pid ∧ job.phase = old.phase.outdate realmId := by
  simp only [storeRealm, Table.mem_updateWhere, if_true] at h
  obtain ⟨old, hold, rfl⟩ := h
  exact ⟨old, hold, rfl, rfl⟩

theorem mem_storeRealm_jobs_of_mem {w : World} {db : Database} {realmId : String} {job : Job Phase}
    (h : job ∈ w.jobs) : ⟨job.pid, job.phase.outdate realmId⟩ ∈ (storeRealm w db realmId).jobs := by
  simp only [storeRealm, Table.mem_updateWhere, if_true]
  exact ⟨job, h, rfl⟩

theorem mem_apply_jobs {w : World} {pid : Nat} {e : Effect} {job : Job Phase}
    (h : job ∈ (apply w pid e).jobs) :
    (job ∈ w.jobs ∧ job.pid ≠ pid) ∨ (job.pid = pid ∧ e.next = some job.phase) := by
  simp only [apply] at h
  split at h
  · rename_i phase hnext
    rcases Jobs.mem_setPhase.mp h with h | ⟨rfl, -⟩
    · exact .inl h
    · exact .inr ⟨rfl, hnext⟩
  · exact .inl (Jobs.mem_finish.mp h)

theorem mem_apply_jobs_next {w : World} {e : Effect} {job : Job Phase} {phase : Phase}
    (h : job ∈ w.jobs) (hnext : e.next = some phase) :
    ⟨job.pid, phase⟩ ∈ (apply w job.pid e).jobs := by
  simp only [apply, hnext]
  exact Jobs.mem_setPhase.mpr (.inr ⟨rfl, Table.key_mem_keys h⟩)

theorem mem_apply_jobs_of_ne {w : World} {pid : Nat} {e : Effect} {job : Job Phase}
    (h : job ∈ w.jobs) (hne : job.pid ≠ pid) : job ∈ (apply w pid e).jobs := by
  simp only [apply]
  split
  · exact Jobs.mem_setPhase.mpr (.inl ⟨h, hne⟩)
  · exact Jobs.mem_finish.mpr ⟨h, hne⟩

theorem advance_cases (pid : Nat) (m : Moment) : advance X w pid m = w ∨
    ∃ job ∈ w.jobs, job.pid = pid ∧ (job.phase.requestsWrite = true → w.guarded = false) ∧
      advance X w pid m = apply w pid (taskStep X w.cache (w.moment m) job.phase) := by
  unfold advance
  split
  · exact .inl rfl
  · rename_i job hjob
    obtain ⟨hjob, hpid⟩ := Table.find?_eq_some_iff.mp hjob
    split
    · exact .inl rfl
    · rename_i hfree
      exact .inr ⟨job, hjob, hpid, by simpa using hfree, rfl⟩

theorem startLogin_cases (pid : Nat) (realmId header : String) :
    startLogin w pid realmId header = w ∨ ∃ phase, Starts w phase ∧
      startLogin w pid realmId header = startTask w pid phase := by
  unfold startLogin
  split
  · exact .inl rfl
  · rename_i realm hrealm
    split
    · exact .inl rfl
    · rename_i params hparams
      exact .inr ⟨.login ⟨realmId, params, header, false⟩ .ensuring,
        ⟨rfl, rfl, realm, hrealm, hparams⟩, rfl⟩

theorem step_cases (i : Input) :
    (∃ clock, w.clock ≤ clock ∧ step X w i = { w with clock := clock }) ∨
    (∃ db realmId, step X w i = storeRealm w db realmId) ∨
    (∃ pid phase, Starts w phase ∧ step X w i = startTask w pid phase) ∨
    (∃ pid m, i = .advance pid m ∧ ∃ job ∈ w.jobs, job.pid = pid ∧
      (job.phase.requestsWrite = true → w.guarded = false) ∧
      step X w i = apply w pid (taskStep X w.cache (w.moment m) job.phase)) := by
  have hsame : ∀ w', w' = w → ∃ clock, w.clock ≤ clock ∧ w' = { w with clock := clock } :=
    fun _ h => ⟨w.clock, le_rfl, h⟩
  cases i with
  | tick nanos => exact .inl ⟨_, le_max_left _ _, rfl⟩
  | createRealm realm =>
    simp only [step]
    split
    · exact .inl (hsame _ rfl)
    · exact .inr (.inl ⟨_, _, rfl⟩)
  | updateRealm | deleteRealm => exact .inr (.inl ⟨_, _, rfl⟩)
  | login pid realmId header =>
    rcases startLogin_cases w pid realmId header with h | ⟨phase, hstarts, h⟩
    · exact .inl (hsame _ h)
    · exact .inr (.inr (.inl ⟨pid, phase, hstarts, h⟩))
  | findJwk pid realmId kid =>
    exact .inr (.inr (.inl ⟨pid, .find realmId kid .reading, rfl, rfl⟩))
  | upsertRealm pid realmId uris interval =>
    exact .inr (.inr (.inl ⟨pid, .upsert realmId uris interval .fetching, rfl, rfl⟩))
  | removeRealm pid realmId => exact .inr (.inr (.inl ⟨pid, .remove realmId, trivial, rfl⟩))
  | cleanup pid => exact .inr (.inr (.inl ⟨pid, .cleanup .starting, rfl, rfl⟩))
  | advance pid m =>
    rcases advance_cases X w pid m with h | h
    · exact .inl (hsame _ h)
    · exact .inr (.inr (.inr ⟨pid, m, rfl, h⟩))

end

section
variable {X : Externals} {cache : JwksCache} {m : Moment}

theorem findStep_cache {realmId kid : String} {phase : FindPhase}
    (h : (Phase.find realmId kid phase).requestsWrite = false) :
    (findStep cache m realmId kid phase).1 = cache := by
  cases phase with
  | reading =>
    simp only [findStep]
    split
    · rfl
    · split <;> rfl
  | checking realm =>
    simp only [findStep]
    split <;> rfl
  | fetching realm => rfl
  | storing realm jwks => cases h

theorem upsertStep_cache {realmId : String} {uris : List String} {interval : Option Int}
    {phase : UpsertPhase} (h : (Phase.upsert realmId uris interval phase).requestsWrite = false) :
    (upsertStep cache m realmId uris interval phase).1 = cache := by
  cases phase with
  | fetching => rfl
  | inserting jwks => cases h

theorem loginStep_cache {l : Login} {phase : LoginPhase}
    (h : (Phase.login l phase).requestsWrite = false) :
    (loginStep X cache m l phase).1 = cache := by
  cases phase with
  | ensuring => rfl
  | caching phase =>
    cases phase with
    | fetching => rfl
    | inserting jwks => cases h
  | trying kid token idp rest phase =>
    have hfind : (findStep cache m l.realmId kid phase).1 = cache := by
      refine findStep_cache ?_
      cases phase with
      | storing => cases h
      | reading | checking | fetching => rfl
    simp only [loginStep]
    split
    · simp_all
    · split <;> simp_all
    · simp_all

theorem taskStep_cache {phase : Phase} (h : phase.requestsWrite = false) :
    (taskStep X cache m phase).cache = cache := by
  cases phase with
  | find => exact findStep_cache h
  | upsert => exact upsertStep_cache h
  | remove => cases h
  | login => exact loginStep_cache h
  | cleanup phase =>
    cases phase with
    | starting => rfl
    | scanning now before rest => cases rest <;> rfl
    | evicting => cases h

theorem find_next_taskStep {realmId kid : String} {phase : FindPhase} {next : Phase}
    (h : (taskStep X cache m (.find realmId kid phase)).next = some next) :
    ∃ sub, next = .find realmId kid sub ∧
      (findStep cache m realmId kid phase).2.2 = .inl sub := by
  simp only [taskStep] at h
  split at h
  · rename_i sub hsub
    cases h
    exact ⟨sub, rfl, hsub⟩
  · cases h

theorem mem_fetchedEvents {jwks : List (String × JwkSet)} {e : Event} :
    e ∈ fetchedEvents jwks ↔ ∃ uri set, (uri, set) ∈ jwks ∧ e = .fetched uri set := by
  simp [fetchedEvents, eq_comm]

theorem findStep_copy {realmId kid : String} {phase next : FindPhase} {realm : RealmJwks}
    (h : (findStep cache m realmId kid phase).2.2 = .inl next) (hcopy : next.copy = some realm) :
    phase.copy = some realm ∨ (phase = .reading ∧ cache.find? realmId = some realm) := by
  cases phase with
  | reading =>
    simp only [findStep] at h
    split at h
    · cases h
    · rename_i entry hentry
      split at h
      · cases h
      · cases h
        cases hcopy
        exact .inr ⟨rfl, hentry⟩
  | checking copy =>
    simp only [findStep] at h
    split at h
    · cases h
      exact .inl hcopy
    · cases h
  | fetching copy =>
    cases h
    exact .inl hcopy
  | storing copy jwks =>
    simp only [findStep] at h
    split at h <;> cases h

theorem mem_findStep_events {realmId kid : String} {phase : FindPhase} {e : Event}
    (h : e ∈ (findStep cache m realmId kid phase).2.1) :
    (∃ realm, phase = .checking realm ∧ realm.isRefreshAllowed m.nanos = true ∧
      e = .refresh realmId realm.uris realm.smallestRefreshInterval m.nanos) ∨
    (∃ realm, phase = .fetching realm ∧
      e ∈ fetchedEvents (JwksManager.fetchAll m realm.uris)) := by
  cases phase with
  | reading =>
    simp only [findStep] at h
    split at h
    · cases h
    · split at h <;> cases h
  | checking realm =>
    simp only [findStep] at h
    split at h
    · rename_i hallowed
      exact .inl ⟨realm, rfl, hallowed, List.mem_singleton.mp h⟩
    · cases h
  | fetching realm => exact .inr ⟨realm, rfl, h⟩
  | storing realm jwks =>
    simp only [findStep] at h
    split at h <;> cases h

theorem mem_upsertStep_events {realmId : String} {uris : List String} {interval : Option Int}
    {phase : UpsertPhase} {e : Event}
    (h : e ∈ (upsertStep cache m realmId uris interval phase).2.1) :
    phase = .fetching ∧ e ∈ fetchedEvents (JwksManager.fetchAll m uris) := by
  cases phase with
  | fetching => exact ⟨rfl, h⟩
  | inserting jwks => cases h

theorem mem_loginStep_events {l : Login} {phase : LoginPhase} {e : Event}
    (h : e ∈ (loginStep X cache m l phase).2.1) :
    (∃ sub, phase = .caching sub ∧
      e ∈ (upsertStep cache m l.realmId (l.params.idpParams.map IdpParams.jwksUri)
        l.params.smallestRefreshIntervalSeconds sub).2.1) ∨
    ∃ kid token idp rest sub, phase = .trying kid token idp rest sub ∧
      (e ∈ (findStep cache m l.realmId kid sub).2.1 ∨
        ∃ jwk, (findStep cache m l.realmId kid sub).2.2 = .inr (.ok (some jwk)) ∧
          e = .accepted l jwk) := by
  cases phase with
  | ensuring => cases h
  | caching sub =>
    refine .inl ⟨sub, rfl, ?_⟩
    simp only [loginStep] at h
    split at h <;> simp_all
  | trying kid token idp rest sub =>
    refine .inr ⟨kid, token, idp, rest, sub, rfl, ?_⟩
    simp only [loginStep] at h
    split at h
    · simp_all
    · rename_i jwk heq
      split at h
      · rcases List.mem_cons.mp h with rfl | h
        · exact .inr ⟨jwk, by simp [heq], rfl⟩
        · exact .inl (by simpa [heq] using h)
      · exact .inl (by simpa [heq] using h)
    · simp_all

end

section
variable (X : Externals) (m : Moment) (l : Login)

/-- With no other task in between, the login ends with this cache, its token accepted or not. -/
inductive EndsAlone : JwksCache → LoginPhase → JwksCache → Bool → Prop where
  | last {cache cache' : JwksCache} {phase : LoginPhase} {events : List Event}
    (h : loginStep X cache m l phase = (cache', events, none)) :
    EndsAlone cache phase cache' (events.any (fun e => e matches .accepted ..))
  | next {cache cache₁ cache' : JwksCache} {phase phase₁ : LoginPhase} {events : List Event}
    {accepted : Bool} (h : loginStep X cache m l phase = (cache₁, events, some phase₁))
    (hnext : EndsAlone cache₁ phase₁ cache' accepted) : EndsAlone cache phase cache' accepted

def GoesOn (cache : JwksCache) (next : Option LoginPhase) (cache' : JwksCache)
    (accepted : Bool) : Prop :=
  match next with
  | none => cache' = cache ∧ accepted = false
  | some phase => EndsAlone X m l cache phase cache' accepted

/-- A provider has its answer from `find_jwk`. -/
def Answered (kid token : String) (idp : IdpParams) (rest : List IdpParams)
    (answer : JwksCache × Except AuthError (Option Jwk)) (cache' : JwksCache)
    (accepted : Bool) : Prop :=
  match answer with
  | (cache, .ok (some jwk)) => if verifies X m idp jwk token then cache' = cache ∧ accepted = true
    else GoesOn X m l cache (nextProvider kid token rest) cache' accepted
  | (cache, _) => GoesOn X m l cache (nextProvider kid token rest) cache' accepted

variable {X m l} {cache cache' cache₁ : JwksCache} {kid token : String} {idp : IdpParams}
  {rest : List IdpParams} {phase : LoginPhase} {accepted : Bool}

theorem endsAlone_of_step {next : Option LoginPhase} {events : List Event}
    (h : loginStep X cache m l phase = (cache₁, events, next))
    (hnone : events.any (fun e => e matches .accepted ..) = false)
    (hnext : GoesOn X m l cache₁ next cache' accepted) :
    EndsAlone X m l cache phase cache' accepted := by
  cases next with
  | none =>
    obtain ⟨rfl, rfl⟩ := hnext
    exact hnone ▸ .last h
  | some phase => exact .next h hnext

theorem endsAlone_of_answer {sub : FindPhase} {answer : Except AuthError (Option Jwk)}
    (hstep : findStep cache m l.realmId kid sub = (cache₁, [], .inr answer))
    (h : Answered X m l kid token idp rest (cache₁, answer) cache' accepted) :
    EndsAlone X m l cache (.trying kid token idp rest sub) cache' accepted := by
  have hmissed : (∀ jwk, answer = .ok (some jwk) → verifies X m idp jwk token = false) →
      loginStep X cache m l (.trying kid token idp rest sub) =
        (cache₁, [], nextProvider kid token rest) := by
    intro hfails
    simp only [loginStep, hstep]
    rcases answer with e | _ | jwk
    · rfl
    · rfl
    · simp [hfails jwk rfl]
  rcases answer with e | _ | jwk
  · exact endsAlone_of_step (hmissed (by simp)) rfl h
  · exact endsAlone_of_step (hmissed (by simp)) rfl h
  · simp only [Answered] at h
    split at h
    · rename_i hverifies
      obtain ⟨rfl, rfl⟩ := h
      have hlogin : loginStep X cache m l (.trying kid token idp rest sub) =
          (cache', [.accepted l jwk], none) := by
        simp [loginStep, hstep, hverifies]
      exact .last hlogin
    · rename_i hverifies
      refine endsAlone_of_step (hmissed ?_) rfl h
      rintro _ ⟨⟩
      simpa using hverifies

theorem endsAlone_of_findJwk
    (h : Answered X m l kid token idp rest (JwksManager.findJwk cache m l.realmId kid) cache'
      accepted) : EndsAlone X m l cache (.trying kid token idp rest .reading) cache' accepted := by
  cases hfind : cache.find? l.realmId with
  | none =>
    simp only [JwksManager.findJwk, hfind] at h
    exact endsAlone_of_answer (by simp only [findStep, hfind]) h
  | some realm =>
    cases hjwk : realm.findJwk kid with
    | some jwk =>
      simp only [JwksManager.findJwk, hfind, hjwk] at h
      exact endsAlone_of_answer (by simp only [findStep, hfind, hjwk]) h
    | none =>
      have hkey : l.realmId ∈ cache.keys := by
        obtain ⟨hmem, hid⟩ := Table.find?_eq_some_iff.mp hfind
        exact hid ▸ Table.key_mem_keys hmem
      have hread : loginStep X cache m l (.trying kid token idp rest .reading) =
          (cache, [], some (.trying kid token idp rest (.checking realm))) := by
        simp only [loginStep, findStep, hfind, hjwk]
      refine .next hread ?_
      simp only [JwksManager.findJwk, hfind, hjwk] at h
      split at h
      · rename_i hallowed
        have hcheck : loginStep X cache m l (.trying kid token idp rest (.checking realm)) =
            (cache, [.refresh l.realmId realm.uris realm.smallestRefreshInterval m.nanos],
              some (.trying kid token idp rest (.fetching realm))) := by
          simp only [loginStep, findStep, hallowed, if_true]
        refine .next hcheck (.next rfl ?_)
        exact endsAlone_of_answer (by simp only [findStep, hkey, if_true, hjwk]) h
      · rename_i hrecent
        exact endsAlone_of_answer (by simp only [findStep, hrecent]; rfl) h

theorem goesOn_tryProviders (hkid : X.decodeHeaderKid token = .ok (some kid))
    (idps : List IdpParams) (cache : JwksCache) :
    GoesOn X m l cache (nextProvider kid token idps)
      (tryProviders X m l.realmId token cache idps).1
      (tryProviders X m l.realmId token cache idps).2.isOk := by
  induction idps generalizing cache with
  | nil => exact ⟨rfl, rfl⟩
  | cons idp rest ih =>
    refine endsAlone_of_findJwk ?_
    unfold tryProviders decodeBearerHeader
    simp only [hkid]
    rcases hanswer : JwksManager.findJwk cache m l.realmId kid with ⟨cache₁, e | _ | jwk⟩
    · exact ih cache₁
    · exact ih cache₁
    · cases hverify : X.verifyWithJwk jwk token with
      | error e =>
        simp only [Answered, verifies, hverify, Bool.false_eq_true, if_false]
        exact ih cache₁
      | ok claims =>
        cases hcheck : (idpValidation idp).check m.now claims.registered with
        | error e =>
          simp only [Answered, verifies, hverify, hcheck, Bool.false_eq_true, if_false]
          exact ih cache₁
        | ok =>
          simp only [Answered, verifies, hverify, hcheck, if_true]
          exact ⟨trivial, rfl⟩

theorem tryProviders_of_no_kid (hkid : ∀ kid, X.decodeHeaderKid token ≠ .ok (some kid))
    (idps : List IdpParams) : (tryProviders X m l.realmId token cache idps).1 = cache ∧
      (tryProviders X m l.realmId token cache idps).2.isOk = false := by
  induction idps with
  | nil => exact ⟨rfl, rfl⟩
  | cons idp rest ih =>
    unfold tryProviders decodeBearerHeader
    cases hheader : X.decodeHeaderKid token with
    | error e => exact ih
    | ok found =>
      cases found with
      | none => exact ih
      | some kid => exact absurd hheader (hkid kid)

theorem goesOn_firstProvider (cache : JwksCache) : GoesOn X m l cache (firstProvider X l)
    (tryClientClaimsFromToken X cache m l.realmId l.params l.header).1
    (tryClientClaimsFromToken X cache m l.realmId l.params l.header).2.isOk := by
  unfold firstProvider tryClientClaimsFromToken
  cases bearerToken l.header with
  | error e => exact ⟨rfl, rfl⟩
  | ok token =>
    simp only
    split
    · rename_i kid hkid
      exact goesOn_tryProviders hkid l.params.idpParams cache
    · rename_i hnone
      exact tryProviders_of_no_kid hnone l.params.idpParams

theorem login_alone (cache : JwksCache) :
    let managed := ensureRealmJwksIsManaged cache m l.realmId l.params
    EndsAlone X m l cache .ensuring
      (tryClientClaimsFromToken X managed m l.realmId l.params l.header).1
      (tryClientClaimsFromToken X managed m l.realmId l.params l.header).2.isOk := by
  have hgoes := fun cache => goesOn_firstProvider (X := X) (m := m) (l := l) cache
  intro managed
  by_cases hrealm : JwksManager.hasRealm cache l.realmId = true
  · have hmanaged : managed = cache := by simp [managed, ensureRealmJwksIsManaged, hrealm]
    have hstep : loginStep X cache m l .ensuring = (cache, [], firstProvider X l) := by
      simp [loginStep, hrealm]
    rw [hmanaged]
    exact endsAlone_of_step hstep rfl (hgoes cache)
  · have hmanaged : managed = JwksManager.upsertRealm cache m l.realmId
        (l.params.idpParams.map IdpParams.jwksUri) l.params.smallestRefreshIntervalSeconds := by
      simp [managed, ensureRealmJwksIsManaged, hrealm]
    have hstep : loginStep X cache m l .ensuring =
        (cache, [], some (.caching .fetching)) := by
      simp [loginStep, hrealm]
    rw [hmanaged, JwksManager.upsertRealm_eq]
    exact .next hstep (.next rfl (endsAlone_of_step rfl rfl (hgoes _)))

end

end JwksTasks
end AuthVerifier
