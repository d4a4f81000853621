import AuthVerifier.Login
import AuthVerifier.RedisSessions
import AuthVerifier.Transparent

/-!
Storing a session, on the four stores that implement the `SessionStore` trait. The trait promises to
create or update; Redis does, while the SQL stores run a plain `INSERT` that refuses an id already
in use, and MySQL in strict mode one that refuses a value longer than its column.
-/

set_option autoImplicit false

namespace AuthVerifier
open Bounded Effects Expiring Relational

theorem ahead_iff {now age : Int} (hnow : IsI64 now) (hage : 0 < age ∧ IsI64 age) :
    now ≤ i64 (now + age) ↔ IsI64 (now + age) := by
  constructor
  · intro hahead
    by_contra hover
    have := i64_add_lt hnow hage.2 hage.1 hover
    omega
  · intro hfits
    rw [i64_eq hfits]
    omega

/-- The ages of a realm as a request can carry them, both positive. -/
structure PositiveAges (realm : Realm) : Prop where
  stale : 0 < realm.sessionMaxStaleAgeSeconds ∧ IsI64 realm.sessionMaxStaleAgeSeconds
  absolute : 0 < realm.sessionMaxAgeSeconds ∧ IsI64 realm.sessionMaxAgeSeconds

/-- What `get_session` is to return of a session just stored. -/
def sessionDataOf (now : Int) (sessionId : String) (realm : Realm)
    (client : AuthenticatedClientScheme) (value : String) : SessionData :=
  { sessionId := sessionId, realmId := realm.id, username := client.username,
    authScheme := client.authScheme.json, cookieString := value,
    maxStaleAgeSeconds := realm.sessionMaxStaleAgeSeconds,
    maxAgeSeconds := realm.sessionMaxAgeSeconds, createdAt := now }

section
variable {now : Int} {id value : String} {realm : Realm} {client : AuthenticatedClientScheme}
  (hnow : IsI64 now) (hages : PositiveAges realm)
include hnow hages

theorem expired_newSession :
    SessionStore.expired now (newSession now id realm client value) = false ↔
      IsI64 (now + realm.sessionMaxStaleAgeSeconds) ∧
        IsI64 (now + realm.sessionMaxAgeSeconds) := by
  rw [← ahead_iff hnow hages.stale, ← ahead_iff hnow hages.absolute]
  simp [SessionStore.expired, newSession]

theorem accessible_sessionDataOf :
    RedisStore.Accessible (sessionDataOf now id realm client value) now ↔
      RedisStore.expiryAccepted now (RedisStore.storedTtl realm) ∧
        IsI64 (now + realm.sessionMaxAgeSeconds) := by
  obtain ⟨⟨hstale, _⟩, hage, hmax⟩ := hages
  have habs : RedisStore.absoluteExpiry (sessionDataOf now id realm client value) =
      i64 (now + realm.sessionMaxAgeSeconds) := rfl
  have httl (hfits : IsI64 (now + realm.sessionMaxAgeSeconds)) :
      RedisStore.refreshedTtl (sessionDataOf now id realm client value) now =
        RedisStore.storedTtl realm := by
    have hrest : now + realm.sessionMaxAgeSeconds - now = realm.sessionMaxAgeSeconds := by omega
    rw [RedisStore.refreshedTtl, habs, i64_eq hfits, hrest, i64_eq hmax, RedisStore.storedTtl]
    simp only [sessionDataOf]
    omega
  constructor
  · rintro ⟨hahead, _, haccepted⟩
    have hfits := (ahead_iff hnow ⟨hage, hmax⟩).mp hahead
    rw [httl hfits] at haccepted
    exact ⟨haccepted, hfits⟩
  · rintro ⟨haccepted, hfits⟩
    refine ⟨(ahead_iff hnow ⟨hage, hmax⟩).mpr hfits, ?_, httl hfits ▸ haccepted⟩
    rw [httl hfits, RedisStore.storedTtl]
    omega

end

theorem RedisStore.get_storeSession_self {r : RedisState} {now : Int} {id value : String}
    {realm : Realm} {client : AuthenticatedClientScheme} :
    (storeSession r now id realm client value).sessions.get now (sessionKey id) =
      some (sessionDataOf now id realm client value) := by
  have hlive : now < now + storedTtl realm := by
    unfold storedTtl
    omega
  simp [storeSession, Keyspace.get, Option.filter, Entry.live, hlive, sessionDataOf]

inductive SessionBackend where
  | sql (b : SqlBackend)
  | redis
  deriving DecidableEq

namespace SessionBackend

def State : SessionBackend → Type
  | .sql _ => Sessions
  | .redis => RedisState

def Stored : SessionBackend → Type
  | .sql _ => SessionRow
  | .redis => Entry SessionData Int

def stored : (k : SessionBackend) → k.State → (sessionId : String) → Option k.Stored
  | .sql _, s, id => s.find? id
  | .redis, r, id => r.sessions.find? (RedisStore.sessionKey id)

section
variable {W : Type} [DecidableEq W] (collation : String → W)

def apply : (k : SessionBackend) → k.State → StoreCall → Outcome k.State AuthError StoreAnswer
  | .sql b, s, c => b.apply collation s c
  | .redis, r, c => RedisStore.apply r c

/-- The session that `get_session` returns. -/
def reported : (k : SessionBackend) → k.State → (now : Int) → (sessionId : String) →
    Option SessionData
  | .sql b, s, now, id => b.reported collation s now id
  | .redis, r, now, id => RedisStore.reported r now id

/-- The call succeeds, the session can be read back, and no other session is touched. -/
structure UpsertRoundTrip (k : SessionBackend) (before : k.State) (now : Int) (sessionId : String)
    (realm : Realm) (client : AuthenticatedClientScheme) (value : String) : Prop where
  succeeds : (k.apply collation before ⟨now, .upsertSession sessionId realm client value⟩).result =
    .ok .done
  readBack : k.reported collation
      (k.apply collation before ⟨now, .upsertSession sessionId realm client value⟩).state now
      sessionId = some (sessionDataOf now sessionId realm client value)
  others : ∀ other, other ≠ sessionId → k.stored
      (k.apply collation before ⟨now, .upsertSession sessionId realm client value⟩).state other =
    k.stored before other

/-- The columns of the `session` table take the values. -/
def Fits : SqlBackend → (sessionId : String) → Realm → AuthenticatedClientScheme →
    (value : String) → Prop
  | .sqlite, _, _, _, _ => True
  | .postgres, id, realm, client, value =>
    ∀ text ∈ [id, realm.id, client.username, value], '\x00' ∉ text.toList
  | .mysql, id, realm, client, value =>
    id.length ≤ 36 ∧ realm.id.length ≤ 255 ∧ client.username.length ≤ 255 ∧
      value.utf8ByteSize ≤ 65535

def Accepts : (k : SessionBackend) → k.State → (now : Int) → (sessionId : String) →
    Realm → AuthenticatedClientScheme → (value : String) → Prop
  | .sql b, s, now, id, realm, client, value =>
    b.Unused collation s id ∧ Fits b id realm client value ∧
      IsI64 (now + realm.sessionMaxStaleAgeSeconds) ∧ IsI64 (now + realm.sessionMaxAgeSeconds)
  | .redis, _, now, _, realm, _, _ =>
    RedisStore.expiryAccepted now (RedisStore.storedTtl realm) ∧
      IsI64 (now + realm.sessionMaxAgeSeconds)

end

theorem json_fits (scheme : AuthScheme) :
    scheme.json.length ≤ 50 ∧ '\x00' ∉ scheme.json.toList := by
  cases scheme <;> decide

theorem columns_iff {b : SqlBackend} {now : Int} {id value : String} {realm : Realm}
    {client : AuthenticatedClientScheme} :
    b.unbindable (StoreOp.texts (.upsertSession id realm client value)) = false ∧
        b.overlong (newSession now id realm client value) = none ↔
      Fits b id realm client value := by
  obtain ⟨hlength, hnul⟩ := json_fits client.authScheme
  cases b with
  | sqlite => simp [SqlBackend.overlong, SqlBackend.unbindable, Fits]
  | postgres => simp [SqlBackend.overlong, SqlBackend.unbindable, StoreOp.texts, Fits, hnul]
  | mysql =>
    simp only [SqlBackend.unbindable, true_and, SqlBackend.overlong, newSession, Fits, gt_iff_lt]
    constructor
    · intro h
      split at h
      · cases h
      · split at h
        · cases h
        · split at h
          · cases h
          · split at h
            · cases h
            · split at h
              · cases h
              · omega
    · rintro ⟨hid, hrealm, hname, hvalue⟩
      rw [if_neg (by omega), if_neg (by omega), if_neg (by omega), if_neg (by omega),
        if_neg (by omega)]

section
variable {W : Type} [DecidableEq W] {collation : String → W} {now : Int} {realm : Realm}

theorem reported_created {b : SqlBackend} {s : Sessions} {id value : String}
    {client : AuthenticatedClientScheme}
    (hok : (b.apply collation s ⟨now, .upsertSession id realm client value⟩).result = .ok .done) :
    b.reported collation (b.step collation s ⟨now, .upsertSession id realm client value⟩) now id =
        (if SessionStore.expired now (newSession now id realm client value) then none
          else some (sessionDataOf now id realm client value)) ∧
      ∀ other, other ≠ id →
        (b.step collation s ⟨now, .upsertSession id realm client value⟩).find? other =
          s.find? other := by
  obtain ⟨hbind, _, hunused⟩ := SqlBackend.upsertSession_ok_iff.mp hok
  rcases @SqlBackend.step_upsertSession _ _ collation b s now id value realm client with
    ⟨_, hu⟩ | ⟨hfail, _⟩
  · obtain ⟨_, _, hmem⟩ := SqlBackend.upsertSession_ok hu
    have hnew : (b.step collation s ⟨now, .upsertSession id realm client value⟩).find? id =
        some (newSession now id realm client value) :=
      Table.find?_eq_some_iff.mpr ⟨(hmem _).mpr (.inr rfl), rfl⟩
    have hapart : b.Apart collation
        (b.step collation s ⟨now, .upsertSession id realm client value⟩) id := by
      intro r hr hsame
      rcases (hmem r).mp hr with hold | rfl
      · rw [hunused r hold] at hsame
        cases hsame
      · rfl
    constructor
    · rw [SqlBackend.reported_of_plain (.of_getSession (SqlBackend.unbindable_head hbind) hapart),
        SessionStore.getSession_snd, hnew]
      cases he : SessionStore.expired now (newSession now id realm client value) with
      | true => simp [Option.filter, he]
      | false =>
        simp only [Option.filter, he, Bool.not_false, if_true, Bool.false_eq_true, if_false]
        rfl
    · intro other hne
      refine Table.find?_congr fun r hr => ?_
      rw [hmem]
      constructor
      · rintro (hold | rfl)
        · exact hold
        · exact absurd hr.symm hne
      · exact .inl
  · exact absurd hok hfail

theorem redis_succeeds_iff {r : RedisState} {id value : String}
    {client : AuthenticatedClientScheme} :
    (RedisStore.apply r ⟨now, .upsertSession id realm client value⟩).result = .ok .done ↔
      RedisStore.expiryAccepted now (RedisStore.storedTtl realm) := by
  by_cases h : RedisStore.expiryAccepted now (RedisStore.storedTtl realm)
  · simp [RedisStore.apply, RedisStore.upsertSession, h]
  · simp [RedisStore.apply, RedisStore.upsertSession, h]

section
variable (hnow : IsI64 now) (hages : PositiveAges realm)
include hnow hages

theorem accepts_of_readBack {k : SessionBackend} {st : k.State} {id value : String}
    {client : AuthenticatedClientScheme}
    (hok : (k.apply collation st ⟨now, .upsertSession id realm client value⟩).result = .ok .done)
    (hread : k.reported collation
      (k.apply collation st ⟨now, .upsertSession id realm client value⟩).state now id =
        some (sessionDataOf now id realm client value)) :
    k.Accepts collation st now id realm client value := by
  cases k with
  | sql b =>
    obtain ⟨hbind, hcolumns, hunused⟩ := SqlBackend.upsertSession_ok_iff.mp hok
    have hlive : SessionStore.expired now (newSession now id realm client value) = false := by
      have hlive := (reported_created hok).1.symm.trans hread
      by_contra hexpired
      rw [if_pos (by simpa using hexpired)] at hlive
      cases hlive
    exact ⟨hunused, columns_iff.mp ⟨hbind, hcolumns⟩, (expired_newSession hnow hages).mp hlive⟩
  | redis =>
    have haccepted := redis_succeeds_iff.mp hok
    have hread : RedisStore.reported
        (RedisStore.step st ⟨now, .upsertSession id realm client value⟩) now id =
          some (sessionDataOf now id realm client value) := hread
    exact (accessible_sessionDataOf hnow hages).mp (RedisStore.reported_eq_some_iff.mp hread).2

theorem upsertRoundTrip_of_accepts {k : SessionBackend} {st : k.State} {id value : String}
    {client : AuthenticatedClientScheme}
    (h : k.Accepts collation st now id realm client value) :
    k.UpsertRoundTrip collation st now id realm client value := by
  cases k with
  | sql b =>
    obtain ⟨hunused, hfits, hdeadlines⟩ := h
    obtain ⟨hbind, hcolumns⟩ : b.unbindable (StoreOp.texts (.upsertSession id realm client value)) =
        false ∧ b.overlong (newSession now id realm client value) = none := columns_iff.mpr hfits
    have hok : (b.apply collation st ⟨now, .upsertSession id realm client value⟩).result =
        .ok .done := SqlBackend.upsertSession_ok_iff.mpr ⟨hbind, hcolumns, hunused⟩
    obtain ⟨hread, hothers⟩ := reported_created hok
    refine ⟨hok, hread.trans (if_neg ?_), hothers⟩
    rw [(expired_newSession hnow hages).mpr hdeadlines]
    exact Bool.false_ne_true
  | redis =>
    obtain ⟨haccepted, hfits⟩ := h
    have hstate : (RedisStore.apply st ⟨now, .upsertSession id realm client value⟩).state =
        RedisStore.storeSession st now id realm client value :=
      RedisStore.step_upsertSession.trans (if_pos haccepted)
    refine ⟨redis_succeeds_iff.mpr haccepted, ?_, fun other hne => ?_⟩
    · simp only [apply, reported, hstate]
      exact RedisStore.reported_eq_some_iff.mpr ⟨RedisStore.get_storeSession_self,
        (accessible_sessionDataOf hnow hages).mpr ⟨haccepted, hfits⟩⟩
    · have hkey : RedisStore.sessionKey id ≠ RedisStore.sessionKey other :=
        fun h => hne (RedisStore.sessionKey_injective h).symm
      simp only [apply, stored, hstate]
      exact Keyspace.find?_set.trans (if_neg hkey)

end

theorem done_of_upserted {k : SessionBackend} {st : k.State} {id value : String}
    {client : AuthenticatedClientScheme} {answer : StoreAnswer}
    (h : (k.apply collation st ⟨now, .upsertSession id realm client value⟩).result = .ok answer) :
    answer = .done := by
  cases k with
  | sql b =>
    simp only [apply, SqlBackend.apply] at h
    split at h
    · cases h
    · split at h
      · cases h
      · cases h
        rfl
  | redis =>
    simp only [apply, RedisStore.apply] at h
    split at h
    · cases h
    · cases h
      rfl

end

section
variable {W : Type} [DecidableEq W] (collation : String → W) (k : SessionBackend) (X : Externals)
  (params : ServerParams)

/-- The end of `login` and of the assertion consumer, over the store the server runs with. -/
def issueSession (m : Moment) (st : k.State) (realm : Realm) (client : AuthenticatedClientScheme)
    (roles : List String) (extra : ExtraClaims) :
    Outcome k.State AuthError (String × String) :=
  match issueToken X m client.username client.authScheme realm.id roles extra
      realm.sessionMaxAgeSeconds with
  | .error e => .error st e
  | .ok token =>
    let cookie := buildCookie X token realm.sessionMaxAgeSeconds params.tlsConfigured
    let sessionId := sessionIdFromCookieValue X token
    (k.apply collation st ⟨m.now, .upsertSession sessionId realm client cookie⟩).bind
      fun st _ => .ok st (sessionId, cookie)

def UsableSession (m : Moment) (st : k.State) (realm : Realm) (client : AuthenticatedClientScheme)
    (roles : List String) (extra : ExtraClaims) : Prop :=
  ∃ sessionId cookie,
    (k.issueSession collation X params m st realm client roles extra).result =
      .ok (sessionId, cookie) ∧
    k.reported collation (k.issueSession collation X params m st realm client roles extra).state
      m.now sessionId = some (sessionDataOf m.now sessionId realm client cookie)

end

section
variable {W : Type} [DecidableEq W] {collation : String → W} {X : Externals} {params : ServerParams}
  {m : Moment} {realm : Realm} {client : AuthenticatedClientScheme} {roles : List String}
  {extra : ExtraClaims}

theorem issueSession_sqlite (s : Sessions) :
    AuthVerifier.issueSession X params m s realm client roles extra =
      issueSession collation (.sql .sqlite) X params m s realm client roles extra := by
  unfold AuthVerifier.issueSession issueSession
  cases issueToken X m client.username client.authScheme realm.id roles extra
      realm.sessionMaxAgeSeconds with
  | error e => rfl
  | ok token =>
    simp only [apply, SqlBackend.apply, SqlBackend.unbindable, Bool.false_eq_true, if_false,
      SqlBackend.upsertSession_sqlite, Outcome.bind]
    cases SessionStore.upsertSession s m.now (sessionIdFromCookieValue X token) realm client
        (buildCookie X token realm.sessionMaxAgeSeconds params.tlsConfigured) with
    | error e => rfl
    | ok s' => rfl

theorem usableSession_iff {k : SessionBackend} {st : k.State} {token : String}
    (hnow : IsI64 m.now) (hages : PositiveAges realm)
    (htoken : issueToken X m client.username client.authScheme realm.id roles extra
      realm.sessionMaxAgeSeconds = .ok token) :
    k.UsableSession collation X params m st realm client roles extra ↔
      k.Accepts collation st m.now (sessionIdFromCookieValue X token) realm client
        (buildCookie X token realm.sessionMaxAgeSeconds params.tlsConfigured) := by
  unfold UsableSession issueSession
  simp only [htoken]
  constructor
  · rintro ⟨id, cookie, hissued, hget⟩
    obtain ⟨answer, hanswer, hissued⟩ := Outcome.bind_eq_ok hissued
    cases hissued
    rw [Outcome.bind_of_ok hanswer] at hget
    rw [done_of_upserted hanswer] at hanswer
    exact accepts_of_readBack hnow hages hanswer hget
  · intro haccepts
    have h := upsertRoundTrip_of_accepts hnow hages haccepts
    rw [Outcome.bind_of_ok h.succeeds]
    exact ⟨_, _, rfl, h.readBack⟩

end

/-- A store keeps the promise of `upsert_session`, and a login whose token was signed ends with a
usable session, exactly where the store accepts the session: Redis always does, a SQL store when the
database tells the id from those it has and the columns take the values, which on MySQL the id of a
login never allows. No deadline may overflow. -/
theorem upsert_roundTrip_iff_accepts {W : Type} [DecidableEq W] (collation : String → W)
    {realm : Realm} (hages : PositiveAges realm) (k : SessionBackend) (st : k.State)
    (client : AuthenticatedClientScheme) :
    (∀ now id value, IsI64 now →
      (k.UpsertRoundTrip collation st now id realm client value ↔
        k.Accepts collation st now id realm client value)) ∧
    (∀ X params m roles extra token, IsI64 m.now →
      issueToken X m client.username client.authScheme realm.id roles extra
        realm.sessionMaxAgeSeconds = .ok token →
      (k.UsableSession collation X params m st realm client roles extra ↔
        k.Accepts collation st m.now (sessionIdFromCookieValue X token) realm client
          (buildCookie X token realm.sessionMaxAgeSeconds params.tlsConfigured))) ∧
    (∀ X params m roles extra, IsI64 m.now → (∀ text, (X.sha256Hex text).length = 64) →
      k = .sql .mysql → ¬ k.UsableSession collation X params m st realm client roles extra) := by
  refine ⟨fun now id value hnow => ⟨fun h => accepts_of_readBack hnow hages h.succeeds h.readBack,
      upsertRoundTrip_of_accepts hnow hages⟩,
    fun X params m roles extra token hnow htoken => usableSession_iff hnow hages htoken, ?_⟩
  rintro X params m roles extra hnow hdigest rfl husable
  cases htoken : issueToken X m client.username client.authScheme realm.id roles extra
      realm.sessionMaxAgeSeconds with
  | error e =>
    obtain ⟨id, cookie, hissued, _⟩ := husable
    simp [issueSession, htoken] at hissued
  | ok token =>
    have hfits := ((usableSession_iff hnow hages htoken).mp husable).2.1
    have hlength : (X.sha256Hex token).length ≤ 36 := hfits.1
    rw [hdigest] at hlength
    omega

def hourlyRealm : Realm :=
  { id := "_", authParams := {}, sessionMaxAgeSeconds := 3600, sessionMaxStaleAgeSeconds := 3600 }

theorem positiveAges_hourlyRealm : PositiveAges hourlyRealm := by
  constructor
  · decide
  · decide

def bobsTable : Sessions := ⟨[newSession 7 "s" hourlyRealm ⟨"bob", .saml⟩ "c"], by decide⟩

theorem hourly_session_usable :
    UpsertRoundTrip Transparent.caseless .redis {} 7 "s" hourlyRealm ⟨"alice", .saml⟩ "c" ∧
    UpsertRoundTrip Transparent.caseless (.sql .mysql) bobsTable 7 "t" hourlyRealm
      ⟨"alice", .saml⟩ "c" ∧
    UsableSession Transparent.caseless (.sql .sqlite) Transparent.externals Transparent.params
      (Transparent.moment 7) Table.empty hourlyRealm ⟨"alice", .usernamePassword⟩ [] [] := by
  refine ⟨?_, ?_, ?_⟩
  · exact ((upsert_roundTrip_iff_accepts Transparent.caseless positiveAges_hourlyRealm .redis {}
      ⟨"alice", .saml⟩).1 7 "s" "c" (by decide)).mpr ⟨by decide, by decide⟩
  · refine ((upsert_roundTrip_iff_accepts Transparent.caseless positiveAges_hourlyRealm
      (.sql .mysql) bobsTable ⟨"alice", .saml⟩).1 7 "t" "c" (by decide)).mpr
        ⟨?_, by unfold Fits; decide, by decide, by decide⟩
    have hrows : ∀ r ∈ bobsTable.rows,
        SqlBackend.mysql.same Transparent.caseless r.sessionId "t" = false := by decide
    exact hrows
  · exact ((upsert_roundTrip_iff_accepts Transparent.caseless positiveAges_hourlyRealm
      (.sql .sqlite) Table.empty ⟨"alice", .usernamePassword⟩).2.1 Transparent.externals
        Transparent.params (Transparent.moment 7) [] [] "alice._.up.7.3607.n" (by decide)
        (by decide)).mpr ⟨fun _ hr => absurd hr Table.mem_empty, trivial, by decide, by decide⟩

/-- A SQLite store that holds the id refuses it to another client, MySQL refuses an id that differs
from a stored one in case alone, and it refuses a digest. -/
theorem upsert_refused :
    PositiveAges hourlyRealm ∧
    ¬ UpsertRoundTrip Transparent.caseless (.sql .sqlite) bobsTable 8 "s" hourlyRealm
      ⟨"alice", .saml⟩ "c" ∧
    ¬ UpsertRoundTrip Transparent.caseless (.sql .mysql) bobsTable 8 "S" hourlyRealm
      ⟨"alice", .saml⟩ "c" ∧
    ¬ UpsertRoundTrip Transparent.caseless (.sql .mysql) Table.empty 8
      "ba7816bf8f01cfea414140de5dae2223b00361a396177a9cb410ff61f20015ad" hourlyRealm
      ⟨"alice", .saml⟩ "c" := by
  refine ⟨positiveAges_hourlyRealm, fun h => ?_, fun h => ?_, fun h => ?_⟩
  · have hok := h.succeeds
    revert hok
    decide
  · have hok := h.succeeds
    revert hok
    decide
  · have hok := h.succeeds
    revert hok
    decide

end SessionBackend
end AuthVerifier
