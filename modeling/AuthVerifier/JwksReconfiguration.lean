import AuthVerifier.DatabaseFacts
import AuthVerifier.JwksTasks
import AuthVerifier.Transparent
import Mathlib.Data.Finset.Dedup
import Mathlib.Data.Finset.Empty

/-!
Changes of a realm's identity providers. The first login of a realm puts the URIs and the interval
of its configuration into the cache; from then on only the copy is looked at, and nothing that is
done to the row reaches it. Where every configuration that is stored asks for what the cache and the
logins in progress already go by, each login goes by the configuration it has read.
-/

set_option autoImplicit false

namespace AuthVerifier

structure KeySources where
  uris : Finset String
  interval : Int
  deriving DecidableEq

def JwtParams.keySources (p : JwtParams) : KeySources :=
  ⟨(p.idpParams.map IdpParams.jwksUri).toFinset,
    p.smallestRefreshIntervalSeconds.getD smallestRefreshInterval⟩

def RealmJwks.keySources (r : RealmJwks) : KeySources :=
  ⟨r.uris.toFinset, r.smallestRefreshInterval.getD AuthVerifier.smallestRefreshInterval⟩

namespace JwksTasks
open Concurrent Relational Transition

def LoginPhase.fetches : LoginPhase → Bool
  | .caching .fetching | .trying _ _ _ _ (.fetching _) => true
  | _ => false

def LoginPhase.brings : LoginPhase → Option (List (String × JwkSet))
  | .caching (.inserting jwks) | .trying _ _ _ _ (.storing _ jwks) => some jwks
  | _ => none

/-- A login that no write has outdated goes by the configuration it has read: its keys were fetched
from the URIs of that configuration, it brings what all of these publish, and once that is stored a
lookup finds a key under every `kid` of it. -/
structure FollowsConfiguration (X : Externals) (w : World) : Prop where
  accepted : ∀ l jwk, .accepted l jwk ∈ w.log → l.outdated = false →
    ∃ uri ∈ l.params.keySources.uris, ∃ set, .fetched uri set ∈ w.log ∧ jwk ∈ set
  copies : ∀ pid l kid token idp rest find realm,
    ⟨pid, .login l (.trying kid token idp rest find)⟩ ∈ w.jobs → l.outdated = false →
    find.copy = some realm → realm.keySources = l.params.keySources
  fetched : ∀ pid l phase, ⟨pid, .login l phase⟩ ∈ w.jobs → l.outdated = false →
    phase.fetches = true → ∀ m, ∃ next jwks, ⟨pid, .login l next⟩ ∈ (step X w (.advance pid m)).jobs ∧
      next.brings = some jwks ∧ ∀ uri ∈ l.params.keySources.uris, ∀ set,
        m.fetchJwks uri = some set → (uri, set) ∈ jwks
  found : ∀ pid l phase jwks, ⟨pid, .login l phase⟩ ∈ w.jobs → l.outdated = false →
    phase.brings = some jwks → w.guarded = false → ∀ m uri set jwk kid, (uri, set) ∈ jwks →
    jwk ∈ set → jwk.keyId = some kid → l.realmId ∈ (step X w (.advance pid m)).cache.keys →
    ∃ key, key.keyId = some kid ∧ ∀ m', findStep (step X w (.advance pid m)).cache m' l.realmId kid
      .reading = ((step X w (.advance pid m)).cache, [], .inr (.ok (some key)))

/-- What reaches the cache of the server: only logins put realms into it. -/
def Input.isServer : Input → Bool
  | .findJwk .. | .upsertRealm .. => false
  | _ => true

/-- The configuration of the realm asks for what the cache and the logins in progress go by. -/
def agreesWithUse (w : World) (realm : Realm) : Bool :=
  match realm.authParams.jwtParams with
  | none => true
  | some p =>
    (w.cache.find? realm.id).all (fun entry => entry.keySources = p.keySources) &&
      w.jobs.rows.all (fun job => match job.phase with
        | .login l _ => l.realmId ≠ realm.id || l.params.keySources = p.keySources
        | _ => true)

def storesAgreeing (w : World) : Input → Bool
  | .createRealm realm => match w.db.createRealm realm with
    | .error _ => true
    | .ok _ => agreesWithUse w realm
  | .updateRealm realm => realm.id ∉ w.db.realm.keys || agreesWithUse w realm
  | _ => true

def Fetched (s : KeySources) (log : List Event) (jwks : List (String × JwkSet)) : Prop :=
  ∀ uri set, (uri, set) ∈ jwks → uri ∈ s.uris ∧ .fetched uri set ∈ log

def Held (s : KeySources) (log : List Event) (realm : RealmJwks) : Prop :=
  realm.keySources = s ∧ Fetched s log realm.jwks

section
variable {s : KeySources} {log events : List Event}

theorem Fetched.append {jwks : List (String × JwkSet)} (h : Fetched s log jwks) :
    Fetched s (events ++ log) jwks :=
  fun uri set hmem => ⟨(h uri set hmem).1, List.mem_append_right events (h uri set hmem).2⟩

theorem Held.append {realm : RealmJwks} (h : Held s log realm) : Held s (events ++ log) realm :=
  ⟨h.1, h.2.append⟩

theorem fetched_fetchAll {m : Moment} {uris : List String} (h : uris.toFinset = s.uris) :
    Fetched s (fetchedEvents (JwksManager.fetchAll m uris) ++ log)
      (JwksManager.fetchAll m uris) := by
  intro uri set hmem
  refine ⟨?_, List.mem_append_left _ (mem_fetchedEvents.mpr ⟨uri, set, hmem, rfl⟩)⟩
  rw [← h, List.mem_toFinset]
  exact (JwksManager.mem_fetchAll.mp hmem).1

theorem Held.findJwk {realm : RealmJwks} {kid : String} {jwk : Jwk} (h : Held s log realm)
    (hfind : realm.findJwk kid = some jwk) :
    ∃ uri ∈ s.uris, ∃ set, .fetched uri set ∈ log ∧ jwk ∈ set := by
  obtain ⟨⟨uri, set⟩, hentry, hset⟩ := List.exists_of_findSome?_eq_some hfind
  obtain ⟨huri, hlog⟩ := h.2 uri set hentry
  exact ⟨uri, huri, set, hlog, List.mem_of_find?_eq_some hset⟩

end

def FindPhase.Follows (s : KeySources) (log : List Event) : FindPhase → Prop
  | .reading => True
  | .checking realm | .fetching realm => Held s log realm
  | .storing realm jwks => Held s log realm ∧ Fetched s log jwks

def LoginPhase.Follows (s : KeySources) (log : List Event) : LoginPhase → Prop
  | .ensuring | .caching .fetching => True
  | .caching (.inserting jwks) => Fetched s log jwks
  | .trying _ _ _ _ phase => phase.Follows s log

def Phase.Follows (conf : String → KeySources) (log : List Event) : Phase → Prop
  | .login l phase => l.params.keySources = conf l.realmId ∧
      phase.Follows l.params.keySources log
  | .remove _ | .cleanup _ => True
  | .find .. | .upsert .. => False

section
variable {s : KeySources} {log events : List Event}

theorem FindPhase.Follows.append {phase : FindPhase} (h : phase.Follows s log) :
    phase.Follows s (events ++ log) := by
  cases phase with
  | reading => trivial
  | checking | fetching => exact Held.append h
  | storing => exact ⟨h.1.append, h.2.append⟩

theorem FindPhase.Follows.copy {phase : FindPhase} {realm : RealmJwks} (h : phase.Follows s log)
    (hcopy : phase.copy = some realm) : Held s log realm := by
  cases phase with
  | reading => cases hcopy
  | checking | fetching =>
    cases hcopy
    exact h
  | storing =>
    cases hcopy
    exact h.1

theorem LoginPhase.Follows.append {phase : LoginPhase} (h : phase.Follows s log) :
    phase.Follows s (events ++ log) := by
  cases phase with
  | ensuring => trivial
  | caching phase =>
    cases phase with
    | fetching => trivial
    | inserting => exact Fetched.append h
  | trying => exact FindPhase.Follows.append h

theorem Phase.Follows.append {conf : String → KeySources} {phase : Phase}
    (h : phase.Follows conf log) : phase.Follows conf (events ++ log) := by
  cases phase with
  | login => exact ⟨h.1, h.2.append⟩
  | remove | cleanup => trivial
  | find | upsert => exact h

variable {X : Externals} {cache : JwksCache} {m : Moment} {realmId kid : String}

theorem mem_setJwks {jwks : List (String × JwkSet)} {entry : RealmJwks}
    (h : entry ∈ JwksManager.setJwks cache m realmId jwks) :
    (entry ∈ cache ∧ entry.realmId ≠ realmId) ∨ ∃ old ∈ cache, old.realmId = realmId ∧
        entry = { old with lastUpdate := some m.nanos, jwks := jwks } := by
  rcases Table.mem_updateWhere_key.mp h with hother | ⟨old, hold, hid, rfl⟩
  · exact .inl hother
  · exact .inr ⟨old, hold, hid, rfl⟩

theorem mem_insertRealm {nanos : Int} {uris : List String} {interval : Option Int}
    {jwks : List (String × JwkSet)} {entry : RealmJwks}
    (h : entry ∈ JwksManager.insertRealm cache nanos realmId uris interval jwks) :
    (entry ∈ cache ∧ entry.realmId ≠ realmId) ∨
      entry = ⟨realmId, uris, jwks, some nanos, interval⟩ := by
  simp only [JwksManager.insertRealm] at h
  split at h
  · rcases Table.mem_updateWhere_key.mp h with hother | ⟨old, -, hid, rfl⟩
    · exact .inl hother
    · exact .inr (by rw [hid])
  · rename_i hnew
    rcases Table.mem_insert.mp h with hold | rfl
    · exact .inl ⟨hold, fun hid => hnew (hid ▸ Table.key_mem_keys hold)⟩
    · exact .inr rfl

section Find
variable {phase : FindPhase} (hcache : ∀ entry ∈ cache, entry.realmId = realmId → Held s log entry)
  (h : phase.Follows s log)
include hcache h

theorem findStep_cached {entry : RealmJwks}
    (hmem : entry ∈ (findStep cache m realmId kid phase).1) :
    entry ∈ cache ∨ entry.realmId = realmId ∧ Held s log entry := by
  cases hwrite : (Phase.find realmId kid phase).requestsWrite with
  | false =>
    rw [findStep_cache hwrite] at hmem
    exact .inl hmem
  | true =>
    cases phase with
    | reading | checking | fetching => cases hwrite
    | storing realm jwks =>
      simp only [findStep] at hmem
      split at hmem
      · rcases mem_setJwks hmem with ⟨hold, -⟩ | ⟨old, hold, hid, rfl⟩
        · exact .inl hold
        · exact .inr ⟨hid, (hcache old hold hid).1, h.2⟩
      · exact .inl hmem

theorem findStep_next {next : FindPhase}
    (hnext : (findStep cache m realmId kid phase).2.2 = .inl next) :
    next.Follows s ((findStep cache m realmId kid phase).2.1 ++ log) := by
  cases phase with
  | reading =>
    simp only [findStep] at hnext ⊢
    split at hnext
    · cases hnext
    · rename_i realm hrealm
      obtain ⟨hmem, hid⟩ := Table.find?_eq_some_iff.mp hrealm
      split at hnext
      · cases hnext
      · cases hnext
        have hheld := hcache realm hmem hid
        simp_all [FindPhase.Follows]
  | checking realm =>
    simp only [findStep] at hnext ⊢
    split at hnext
    · rename_i hallowed
      cases hnext
      simp only [hallowed, if_true]
      exact Held.append h
    · cases hnext
  | fetching realm =>
    cases hnext
    exact ⟨Held.append h, fetched_fetchAll (by rw [← h.1]; rfl)⟩
  | storing realm jwks =>
    simp only [findStep] at hnext
    split at hnext <;> cases hnext

theorem findStep_found {jwk : Jwk}
    (hfound : (findStep cache m realmId kid phase).2.2 = .inr (.ok (some jwk))) :
    ∃ uri ∈ s.uris, ∃ set, .fetched uri set ∈ log ∧ jwk ∈ set := by
  cases phase with
  | reading =>
    simp only [findStep] at hfound
    split at hfound
    · cases hfound
    · rename_i realm hrealm
      obtain ⟨hmem, hid⟩ := Table.find?_eq_some_iff.mp hrealm
      split at hfound
      · rename_i key hkey
        cases hfound
        exact (hcache realm hmem hid).findJwk hkey
      · cases hfound
  | checking realm =>
    simp only [findStep] at hfound
    split at hfound <;> cases hfound
  | fetching realm => cases hfound
  | storing realm jwks =>
    simp only [findStep] at hfound
    split at hfound
    · simp only [Sum.inr.injEq, Except.ok.injEq] at hfound
      exact h.1.findJwk hfound
    · cases hfound

end Find

section LoginStep
variable {l : Login} {phase : LoginPhase}

theorem nextProvider_follows {token : String} {idps : List IdpParams} {next : LoginPhase}
    (h : nextProvider kid token idps = some next) : next.Follows s log := by
  cases idps with
  | nil => cases h
  | cons idp rest =>
    cases h
    trivial

theorem firstProvider_follows {next : LoginPhase} (h : firstProvider X l = some next) :
    next.Follows s log := by
  unfold firstProvider at h
  split at h
  · cases h
  · split at h
    · exact nextProvider_follows h
    · cases h

theorem held_inserted {jwks : List (String × JwkSet)} {nanos : Int}
    (h : Fetched l.params.keySources log jwks) :
    Held l.params.keySources log ⟨l.realmId, l.params.idpParams.map IdpParams.jwksUri, jwks,
      some nanos, l.params.smallestRefreshIntervalSeconds⟩ := ⟨rfl, h⟩

variable
  (hcache : ∀ entry ∈ cache, entry.realmId = l.realmId → Held l.params.keySources log entry)
  (h : phase.Follows l.params.keySources log)
include hcache h

theorem loginStep_cached {entry : RealmJwks} (hmem : entry ∈ (loginStep X cache m l phase).1) :
    entry ∈ cache ∨ entry.realmId = l.realmId ∧ Held l.params.keySources log entry := by
  cases phase with
  | ensuring => exact .inl hmem
  | caching sub =>
    cases sub with
    | fetching => exact .inl hmem
    | inserting jwks =>
      rcases mem_insertRealm hmem with ⟨hold, -⟩ | rfl
      · exact .inl hold
      · exact .inr ⟨rfl, held_inserted h⟩
  | trying kid token idp rest sub =>
    have hfind : entry ∈ (findStep cache m l.realmId kid sub).1 := by
      simp only [loginStep] at hmem
      split at hmem
      · simp_all
      · split at hmem <;> simp_all
      · simp_all
    exact findStep_cached hcache h hfind

theorem loginStep_next {next : LoginPhase}
    (hnext : (loginStep X cache m l phase).2.2 = some next) :
    next.Follows l.params.keySources ((loginStep X cache m l phase).2.1 ++ log) := by
  cases phase with
  | ensuring =>
    simp only [loginStep] at hnext ⊢
    split at hnext
    · exact firstProvider_follows hnext
    · cases hnext
      trivial
  | caching sub =>
    cases sub with
    | fetching =>
      cases hnext
      exact fetched_fetchAll rfl
    | inserting jwks => exact firstProvider_follows hnext
  | trying kid token idp rest sub =>
    have hfind (next : FindPhase)
        (hnext : (findStep cache m l.realmId kid sub).2.2 = .inl next) :
        next.Follows l.params.keySources ((findStep cache m l.realmId kid sub).2.1 ++ log) :=
      findStep_next hcache h hnext
    simp only [loginStep] at hnext ⊢
    split at hnext
    · rename_i sub' hstep
      cases hnext
      have hkept := hfind sub' (by rw [hstep])
      rw [hstep] at hkept
      exact hkept
    · split at hnext
      · cases hnext
      · exact nextProvider_follows hnext
    · exact nextProvider_follows hnext

theorem loginStep_accepted {l' : Login} {jwk : Jwk}
    (hmem : .accepted l' jwk ∈ (loginStep X cache m l phase).2.1) : l' = l ∧
      ∃ uri ∈ l.params.keySources.uris, ∃ set, .fetched uri set ∈ log ∧ jwk ∈ set := by
  rcases mem_loginStep_events hmem with ⟨sub, rfl, hup⟩ |
      ⟨kid, token, idp, rest, sub, rfl, hfind | ⟨key, hfound, he⟩⟩
  · simpa [mem_fetchedEvents] using (mem_upsertStep_events hup).2
  · rcases mem_findStep_events hfind with ⟨realm, -, -, he⟩ | ⟨realm, -, he⟩
    · cases he
    · simp [mem_fetchedEvents] at he
  · cases he
    exact ⟨rfl, findStep_found hcache h hfound⟩

end LoginStep

end

/-- The rows, the cache and the logins of a realm go by the same sources. -/
structure Agreement (conf : String → KeySources) (w : World) : Prop where
  stored : ∀ realm ∈ w.db.realm, ∀ p, realm.authParams.jwtParams = some p →
    p.keySources = conf realm.id
  cached : ∀ entry ∈ w.cache, Held (conf entry.realmId) w.log entry
  jobs : ∀ job ∈ w.jobs, job.phase.Follows conf w.log
  accepted : ∀ l jwk, .accepted l jwk ∈ w.log →
    ∃ uri ∈ l.params.keySources.uris, ∃ set, .fetched uri set ∈ w.log ∧ jwk ∈ set

section
variable {X : Externals} {conf : String → KeySources} {w : World}

theorem step_advance {pid : Nat} {phase : Phase} (m : Moment) (hjob : ⟨pid, phase⟩ ∈ w.jobs)
    (hfree : phase.requestsWrite = true → w.guarded = false) :
    step X w (.advance pid m) = JwksTasks.apply w pid (taskStep X w.cache (w.moment m) phase) := by
  have hfind : w.jobs.find? pid = some ⟨pid, phase⟩ := Table.find?_eq_some_iff.mpr ⟨hjob, rfl⟩
  simp only [step, advance, hfind]
  rw [if_neg]
  simpa using hfree

theorem findJwk_of_mem {realm : RealmJwks} {kid uri : String} {set : JwkSet} {jwk : Jwk}
    (hset : (uri, set) ∈ realm.jwks) (hjwk : jwk ∈ set) (hkid : jwk.keyId = some kid) :
    ∃ key, realm.findJwk kid = some key ∧ key.keyId = some kid := by
  cases hfind : realm.findJwk kid with
  | none =>
    have hkids := List.find?_eq_none.mp (List.findSome?_eq_none_iff.mp hfind _ hset) jwk hjwk
    simp [hkid] at hkids
  | some key =>
    obtain ⟨entry, -, hkey⟩ := List.exists_of_findSome?_eq_some hfind
    exact ⟨key, rfl, by simpa using List.find?_some hkey⟩

theorem jwks_of_brings {m : Moment} {pid : Nat} {l : Login} {phase : LoginPhase}
    {jwks : List (String × JwkSet)} {entry : RealmJwks} (hbrings : phase.brings = some jwks)
    (hentry : entry ∈ (JwksTasks.apply w pid (taskStep X w.cache m (.login l phase))).cache)
    (hid : entry.realmId = l.realmId) : entry.jwks = jwks := by
  have hcache : entry ∈ (loginStep X w.cache m l phase).1 := hentry
  cases phase with
  | ensuring => cases hbrings
  | caching sub =>
    cases sub with
    | fetching => cases hbrings
    | inserting stored =>
      cases hbrings
      rcases mem_insertRealm hcache with ⟨-, hne⟩ | rfl
      · exact absurd hid hne
      · rfl
  | trying kid token idp rest sub =>
    cases sub with
    | reading | checking | fetching => cases hbrings
    | storing realm stored =>
      cases hbrings
      have hfind : entry ∈ (findStep w.cache m l.realmId kid (.storing realm jwks)).1 := by
        simp only [loginStep] at hcache
        split at hcache
        · simp_all
        · split at hcache <;> simp_all
        · simp_all
      simp only [findStep] at hfind
      split at hfind
      · rcases mem_setJwks hfind with ⟨-, hne⟩ | ⟨old, -, -, rfl⟩
        · exact absurd hid hne
        · rfl
      · rename_i hnew
        exact absurd (hid ▸ Table.key_mem_keys hfind) hnew

theorem Agreement.fetched (h : Agreement conf w) {pid : Nat} {l : Login} {phase : LoginPhase}
    (hjob : ⟨pid, .login l phase⟩ ∈ w.jobs) (hfetches : phase.fetches = true) (m : Moment) :
    ∃ next jwks, ⟨pid, .login l next⟩ ∈ (step X w (.advance pid m)).jobs ∧
      next.brings = some jwks ∧ ∀ uri ∈ l.params.keySources.uris, ∀ set,
        m.fetchJwks uri = some set → (uri, set) ∈ jwks := by
  have hfollows := (h.jobs _ hjob).2
  cases phase with
  | ensuring => cases hfetches
  | caching sub =>
    cases sub with
    | inserting => cases hfetches
    | fetching =>
      rw [step_advance m hjob (by simp [Phase.requestsWrite])]
      refine ⟨.caching (.inserting (JwksManager.fetchAll (w.moment m)
        (l.params.idpParams.map IdpParams.jwksUri))), _, mem_apply_jobs_next hjob rfl, rfl, ?_⟩
      intro uri huri set hset
      exact JwksManager.mem_fetchAll.mpr ⟨List.mem_toFinset.mp huri, hset⟩
  | trying kid token idp rest sub =>
    cases sub with
    | reading | checking | storing => cases hfetches
    | fetching realm =>
      have hheld : Held l.params.keySources w.log realm := hfollows
      rw [step_advance m hjob (by simp [Phase.requestsWrite])]
      refine ⟨.trying kid token idp rest (.storing realm
        (JwksManager.fetchAll (w.moment m) realm.uris)), _, mem_apply_jobs_next hjob rfl, rfl, ?_⟩
      intro uri huri set hset
      rw [← hheld.1] at huri
      exact JwksManager.mem_fetchAll.mpr ⟨List.mem_toFinset.mp huri, hset⟩

theorem found_of_brings {pid : Nat} {l : Login} {phase : LoginPhase}
    {jwks : List (String × JwkSet)} (hjob : ⟨pid, .login l phase⟩ ∈ w.jobs)
    (hbrings : phase.brings = some jwks) (hfree : w.guarded = false) (m : Moment) {uri kid : String}
    {set : JwkSet} {jwk : Jwk} (hset : (uri, set) ∈ jwks) (hjwk : jwk ∈ set)
    (hkid : jwk.keyId = some kid) (hkey : l.realmId ∈ (step X w (.advance pid m)).cache.keys) :
    ∃ key, key.keyId = some kid ∧ ∀ m', findStep (step X w (.advance pid m)).cache m' l.realmId kid
      .reading = ((step X w (.advance pid m)).cache, [], .inr (.ok (some key))) := by
  obtain ⟨entry, hentry, hid⟩ := Table.mem_keys.mp hkey
  have hjwks : entry.jwks = jwks := by
    rw [step_advance m hjob (fun _ => hfree)] at hentry
    exact jwks_of_brings hbrings hentry hid
  obtain ⟨key, hfind, hkeyId⟩ := findJwk_of_mem (hjwks ▸ hset) hjwk hkid
  refine ⟨key, hkeyId, fun m' => ?_⟩
  have hlookup : (step X w (.advance pid m)).cache.find? l.realmId = some entry :=
    Table.find?_eq_some_iff.mpr ⟨hentry, hid⟩
  simp only [findStep, hlookup, hfind]

theorem Agreement.follows (h : Agreement conf w) : FollowsConfiguration X w := by
  refine ⟨fun l jwk hlog _ => h.accepted l jwk hlog, ?_, ?_, ?_⟩
  · intro pid l kid token idp rest find realm hjob _ hcopy
    have hfind : find.Follows l.params.keySources w.log := (h.jobs _ hjob).2
    exact (hfind.copy hcopy).1
  · exact fun pid l phase hjob _ hfetches m => h.fetched hjob hfetches m
  · intro pid l phase jwks hjob _ hbrings hfree m uri set jwk kid hset hjwk hkid hkey
    exact found_of_brings hjob hbrings hfree m hset hjwk hkid hkey

theorem Agreement.apply (h : Agreement conf w) {pid : Nat} {e : Effect}
    (hcached : ∀ entry ∈ e.cache, Held (conf entry.realmId) (e.events ++ w.log) entry)
    (hnext : ∀ phase, e.next = some phase → phase.Follows conf (e.events ++ w.log))
    (haccepted : ∀ l jwk, .accepted l jwk ∈ e.events →
      ∃ uri ∈ l.params.keySources.uris, ∃ set, .fetched uri set ∈ w.log ∧ jwk ∈ set) :
    Agreement conf (apply w pid e) := by
  refine ⟨h.stored, hcached, ?_, ?_⟩
  · intro job hjob
    rcases mem_apply_jobs hjob with ⟨hold, -⟩ | ⟨-, hphase⟩
    · exact (h.jobs job hold).append
    · exact hnext _ hphase
  · intro l jwk hlog
    have hfetched : ∃ uri ∈ l.params.keySources.uris, ∃ set,
        .fetched uri set ∈ w.log ∧ jwk ∈ set := by
      rcases List.mem_append.mp hlog with hnew | hold
      · exact haccepted l jwk hnew
      · exact h.accepted l jwk hold
    obtain ⟨uri, huri, set, hlog, hjwk⟩ := hfetched
    exact ⟨uri, huri, set, List.mem_append_right e.events hlog, hjwk⟩

theorem Agreement.advance (h : Agreement conf w) {m : Moment} {pid : Nat} {phase : Phase}
    (hjob : ⟨pid, phase⟩ ∈ w.jobs) :
    Agreement conf (JwksTasks.apply w pid (taskStep X w.cache m phase)) := by
  have hremoved : ∀ {events : List Event} realmId,
      ∀ entry ∈ JwksManager.removeRealm w.cache realmId,
        Held (conf entry.realmId) (events ++ w.log) entry :=
    fun realmId entry hentry => (h.cached entry (Table.mem_deleteWhere.mp hentry).1).append
  have hphase := h.jobs _ hjob
  cases phase with
  | find | upsert => exact hphase.elim
  | remove realmId => exact h.apply (hremoved realmId) (by simp [taskStep]) (by simp [taskStep])
  | cleanup phase =>
    refine h.apply ?_ ?_ ?_
    · cases phase with
      | starting => exact fun entry hentry => (h.cached entry hentry).append
      | scanning now before rest =>
        cases rest <;> exact fun entry hentry => (h.cached entry hentry).append
      | evicting now before realm rest => exact hremoved realm.realmId
    · intro next hnext
      obtain ⟨_, -, rfl⟩ := Option.map_eq_some_iff.mp hnext
      trivial
    · intro l jwk hmem
      cases phase with
      | scanning now before rest => cases rest <;> simp [taskStep, cleanupStep] at hmem
      | starting | evicting => cases hmem
  | login l phase =>
    obtain ⟨hconf, hfollows⟩ := hphase
    have hcache : ∀ entry ∈ w.cache, entry.realmId = l.realmId →
        Held l.params.keySources w.log entry := by
      intro entry hentry hid
      rw [hconf, ← hid]
      exact h.cached entry hentry
    refine h.apply ?_ ?_ ?_
    · intro entry hentry
      rcases loginStep_cached hcache hfollows hentry with hold | ⟨hid, hheld⟩
      · exact (h.cached entry hold).append
      · rw [hid, ← hconf]
        exact hheld.append
    · intro next hnext
      obtain ⟨sub, hsub, rfl⟩ := Option.map_eq_some_iff.mp hnext
      exact ⟨hconf, loginStep_next hcache hfollows hsub⟩
    · intro l' jwk hmem
      obtain ⟨rfl, hfetched⟩ := loginStep_accepted hcache hfollows hmem
      exact hfetched

theorem Agreement.storeRealm (h : Agreement conf w) {conf' : String → KeySources} {db : Database}
    {realmId : String}
    (hstored : ∀ realm ∈ db.realm, ∀ p, realm.authParams.jwtParams = some p →
      p.keySources = conf' realm.id)
    (hcached : ∀ entry ∈ w.cache, conf' entry.realmId = conf entry.realmId)
    (hjobs : ∀ job ∈ w.jobs, ∀ l phase, job.phase = .login l phase →
      conf' l.realmId = conf l.realmId) :
    Agreement conf' (JwksTasks.storeRealm w db realmId) := by
  refine ⟨hstored, ?_, ?_, h.accepted⟩
  · intro entry hentry
    rw [hcached entry hentry]
    exact h.cached entry hentry
  · intro job hjob
    obtain ⟨⟨pid, phase⟩, hold, -, hphase⟩ := mem_storeRealm_jobs hjob
    have hfollows := h.jobs _ hold
    rw [hphase]
    cases phase with
    | login l phase => exact ⟨hfollows.1.trans (hjobs _ hold l phase rfl).symm, hfollows.2⟩
    | remove | cleanup => trivial
    | find | upsert => exact hfollows

theorem Agreement.storeAgreeing (h : Agreement conf w) {db : Database} {realm : Realm}
    (hagrees : agreesWithUse w realm = true)
    (hrows : ∀ row ∈ db.realm, row.id = realm.id ∧ row.authParams = realm.authParams ∨
      row ∈ w.db.realm ∧ row.id ≠ realm.id) :
    ∃ conf', Agreement conf' (JwksTasks.storeRealm w db realm.id) := by
  cases hparams : realm.authParams.jwtParams with
  | none =>
    refine ⟨conf, h.storeRealm ?_ (fun _ _ => rfl) (fun _ _ _ _ _ => rfl)⟩
    intro row hrow p hp
    rcases hrows row hrow with ⟨-, hauth⟩ | ⟨hold, -⟩
    · rw [hauth, hparams] at hp
      cases hp
    · exact h.stored row hold p hp
  | some p =>
    simp only [agreesWithUse, hparams, Bool.and_eq_true, Option.all_eq_true, List.all_eq_true,
      decide_eq_true_eq] at hagrees
    obtain ⟨hcache, hlogins⟩ := hagrees
    refine ⟨Function.update conf realm.id p.keySources, h.storeRealm ?_ ?_ ?_⟩
    · intro row hrow p' hp'
      rcases hrows row hrow with ⟨hid, hauth⟩ | ⟨hold, hid⟩
      · rw [hauth, hparams] at hp'
        cases hp'
        rw [hid, Function.update_self]
      · rw [Function.update_of_ne hid]
        exact h.stored row hold p' hp'
    · intro entry hentry
      by_cases hid : entry.realmId = realm.id
      · rw [hid, Function.update_self, ← hid, ← (h.cached entry hentry).1]
        exact (hcache entry (Table.find?_eq_some_iff.mpr ⟨hentry, hid⟩)).symm
      · rw [Function.update_of_ne hid]
    · intro job hjob l phase hphase
      by_cases hid : l.realmId = realm.id
      · have hfollows := h.jobs job hjob
        have hsame := hlogins job hjob
        rw [hphase] at hfollows
        simp only [hphase, hid, ne_eq, not_true_eq_false, decide_false, Bool.false_or,
          decide_eq_true_eq] at hsame
        rw [hid, Function.update_self, ← hid, ← hfollows.1, hsame]
      · rw [Function.update_of_ne hid]

theorem Agreement.startTask (h : Agreement conf w) {pid : Nat} {phase : Phase}
    (hphase : phase.Follows conf w.log) : Agreement conf (JwksTasks.startTask w pid phase) := by
  refine ⟨h.stored, h.cached, ?_, h.accepted⟩
  intro job hjob
  rcases Jobs.mem_start hjob with hold | rfl
  · exact h.jobs job hold
  · exact hphase

theorem Agreement.startLogin (h : Agreement conf w) {pid : Nat} {realmId header : String} :
    Agreement conf (JwksTasks.startLogin w pid realmId header) := by
  unfold JwksTasks.startLogin
  split
  · exact h
  · rename_i realm hrealm
    obtain ⟨hrow, rfl⟩ := Table.find?_eq_some_iff.mp hrealm
    split
    · exact h
    · rename_i params hparams
      exact h.startTask ⟨h.stored realm hrow params hparams, trivial⟩

theorem Agreement.step (h : Agreement conf w) {i : Input} (hserver : i.isServer = true)
    (hagree : storesAgreeing w i = true) : ∃ conf', Agreement conf' (step X w i) := by
  cases i with
  | findJwk | upsertRealm => cases hserver
  | tick nanos => exact ⟨conf, h.stored, h.cached, h.jobs, h.accepted⟩
  | createRealm realm =>
    simp only [JwksTasks.step]
    split
    · exact ⟨conf, h⟩
    · rename_i db hdb
      obtain ⟨hnew, hrows, -⟩ := Database.createRealm_ok hdb
      simp only [storesAgreeing, hdb] at hagree
      refine h.storeAgreeing hagree ?_
      intro row hrow
      rcases (hrows row).mp hrow with hold | rfl
      · exact .inr ⟨hold, fun hid => hnew (hid ▸ Table.key_mem_keys hold)⟩
      · exact .inl ⟨rfl, rfl⟩
  | updateRealm realm =>
    by_cases hid : realm.id ∈ w.db.realm.keys
    · have hagrees : agreesWithUse w realm = true := by simpa [storesAgreeing, hid] using hagree
      refine h.storeAgreeing hagrees ?_
      intro row hrow
      rcases Database.mem_updateRealm hrow with hold | ⟨hsame, hauth, -⟩
      · exact .inr hold
      · exact .inl ⟨hsame, hauth⟩
    · refine ⟨conf, h.storeRealm ?_ (fun _ _ => rfl) (fun _ _ _ _ _ => rfl)⟩
      intro row hrow p hp
      rcases Database.mem_updateRealm hrow with ⟨hold, -⟩ | ⟨-, -, hkey⟩
      · exact h.stored row hold p hp
      · exact absurd hkey hid
  | deleteRealm realmId =>
    refine ⟨conf, h.storeRealm ?_ (fun _ _ => rfl) (fun _ _ _ _ _ => rfl)⟩
    intro row hrow p hp
    exact h.stored row (Table.mem_deleteWhere.mp hrow).1 p hp
  | login pid realmId header => exact ⟨conf, h.startLogin⟩
  | removeRealm | cleanup => exact ⟨conf, h.startTask trivial⟩
  | advance pid m =>
    rcases advance_cases X w pid m with he | ⟨⟨pid', phase⟩, hjob, rfl, -, he⟩
    · simp only [JwksTasks.step, he]
      exact ⟨conf, h⟩
    · simp only [JwksTasks.step, he]
      exact ⟨conf, h.advance hjob⟩

end

def storedSources (db : Database) (realmId : String) : KeySources :=
  ((db.getRealm realmId).bind (fun realm => realm.authParams.jwtParams)).elim ⟨∅, 0⟩
    JwtParams.keySources

theorem agreement_initial (clock : Int) (db : Database) :
    Agreement (storedSources db) { clock, db } := by
  refine ⟨?_, by simp, by simp, by simp⟩
  intro realm hrealm p hp
  have hrow : db.getRealm realm.id = some realm := Table.find?_eq_some_iff.mpr ⟨hrealm, rfl⟩
  simp [storedSources, hrow, hp]

/-- From a new manager on, over any database: whatever administrators do to the realms in between,
logins go by the configuration they have read as long as what is stored agrees with what is in
use. -/
theorem follows_of_storesAgreeing (X : Externals) (clock : Int) (db : Database) (is : List Input)
    (hserver : ∀ i ∈ is, i.isServer = true)
    (hagree : ∀ x ∈ trace (step X) { clock, db } is, storesAgreeing x.1 x.2 = true) :
    ∀ x ∈ trace (step X) { clock, db } is, FollowsConfiguration X (step X x.1 x.2) := by
  refine trace_forall_of_invariant (step X)
    (fun w is => (∃ conf, Agreement conf w) ∧ ∀ i ∈ is, i.isServer = true)
    (P := fun w i => FollowsConfiguration X (step X w i))
    (C := fun w i => storesAgreeing w i = true) ?_ ?_ is ⟨?_, hserver⟩ hagree
  · rintro w i is ⟨⟨conf, h⟩, hserver⟩ hagree
    obtain ⟨conf', h'⟩ := h.step (X := X) (hserver i List.mem_cons_self) hagree
    exact h'.follows
  · rintro w i is ⟨⟨conf, h⟩, hserver⟩ hagree
    exact ⟨h.step (hserver i List.mem_cons_self) hagree,
      fun j hj => hserver j (List.mem_cons_of_mem i hj)⟩
  · exact ⟨_, agreement_initial clock db⟩

end JwksTasks

namespace Transparent
open JwksTasks Transition

/-- A realm with one identity provider, its keys published at the URI. -/
def realmWithKeysAt (uri : String) : Realm :=
  { id := "acme", authParams := { jwtParams := some ⟨[⟨"https://idp", uri, none⟩], none⟩ }
    sessionMaxAgeSeconds := 3600, sessionMaxStaleAgeSeconds := 3600 }

def bothPublish : Moment :=
  { moment 0 with
    fetchJwks := fun uri =>
      if uri = "https://a/jwks" then some [⟨some "ka", "ma"⟩]
      else if uri = "https://b/jwks" then some [⟨some "kb", "mb"⟩] else none }

def tokenUnder (kid material : String) : String :=
  "Bearer " ++ kid ++ "." ++ material ++ ".https://idp.alice.-.2000"

def loginTo (uri header : String) : Login :=
  { realmId := "acme", params := ⟨[⟨"https://idp", uri, none⟩], none⟩, header := header }

def firstLogin : List Input :=
  [.createRealm (realmWithKeysAt "https://a/jwks"), .login 0 "acme" (tokenUnder "ka" "ma")] ++
    List.replicate 4 (.advance 0 bothPublish)

/-- The same configuration is stored again, with longer sessions, and the realm is logged into once
more. -/
def sameKeys : List Input :=
  firstLogin ++ [.updateRealm { realmWithKeysAt "https://a/jwks" with sessionMaxAgeSeconds := 7200 },
    .login 1 "acme" (tokenUnder "ka" "ma"), .advance 1 bothPublish, .advance 1 bothPublish]

/-- Both logins follow, and are accepted. -/
theorem follows_sameKeys :
    .accepted (loginTo "https://a/jwks" (tokenUnder "ka" "ma")) ⟨some "ka", "ma"⟩ ∈
      (run (step externals) { clock := 0, db := .empty } sameKeys).log ∧
    FollowsConfiguration externals (run (step externals) { clock := 0, db := .empty } sameKeys) := by
  refine ⟨by decide, ?_⟩
  exact follows_of_storesAgreeing externals 0 .empty sameKeys (by decide)
    (by decide)
    (run (step externals) { clock := 0, db := .empty } (sameKeys.take 9),
      .advance 1 bothPublish) (mem_trace_of_split _ _ [] rfl)

/-- The keys move to another URI. A login with a key of the old one follows, and, more than a minute
later, one with a key of the new one, up to its end. -/
def movedKeys : List Input :=
  firstLogin ++ [.updateRealm (realmWithKeysAt "https://b/jwks"),
    .login 1 "acme" (tokenUnder "ka" "ma"), .advance 1 bothPublish, .advance 1 bothPublish,
    .tick (61 * 1000000000), .login 2 "acme" (tokenUnder "kb" "mb")] ++
    List.replicate 5 (.advance 2 bothPublish)

/-- The old key is accepted after the move, and the new one is not even fetched. -/
theorem moved_keys_ignored : (∀ i ∈ movedKeys, i.isServer = true) ∧
    ¬ FollowsConfiguration externals (run (step externals) { clock := 0, db := .empty } movedKeys) ∧
    (run (step externals) { clock := 0, db := .empty } movedKeys).jobs.rows = [] ∧
    ∀ set, .fetched "https://b/jwks" set ∉
      (run (step externals) { clock := 0, db := .empty } movedKeys).log := by
  have hlog : (run (step externals) { clock := 0, db := .empty } movedKeys).log =
      [.fetched "https://a/jwks" [⟨some "ka", "ma"⟩],
        .refresh "acme" ["https://a/jwks"] none (61 * 1000000000),
        .accepted (loginTo "https://b/jwks" (tokenUnder "ka" "ma")) ⟨some "ka", "ma"⟩,
        .accepted (loginTo "https://a/jwks" (tokenUnder "ka" "ma")) ⟨some "ka", "ma"⟩,
        .fetched "https://a/jwks" [⟨some "ka", "ma"⟩]] := by
    decide
  have hmissing : ∀ set, .fetched "https://b/jwks" set ∉
      (run (step externals) { clock := 0, db := .empty } movedKeys).log := by
    rw [hlog]
    simp
  refine ⟨by decide, ?_, by decide, hmissing⟩
  intro hfollows
  obtain ⟨uri, huri, set, hfetched, -⟩ := hfollows.accepted
    (loginTo "https://b/jwks" (tokenUnder "ka" "ma")) ⟨some "ka", "ma"⟩ (by simp [hlog]) rfl
  have huri : uri = "https://b/jwks" := by
    simpa [JwtParams.keySources, loginTo] using huri
  exact hmissing set (huri ▸ hfetched)

end Transparent
end AuthVerifier
