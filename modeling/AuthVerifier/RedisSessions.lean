import AuthVerifier.Lib.Keyspace
import Mathlib.Data.Int.Order.Basic
import AuthVerifier.SqlSessions

/-!
The Redis session store, following `session/impls/redis.rs`. A session is one key whose deadline
each access renews; a set of session ids per client serves the listings and has a deadline of its
own. The commands of one call see one second of the clock, and `serde_json` reads back the session
data it wrote. Redis keeps deadlines as `i64` milliseconds and refuses one that is none.
-/

set_option autoImplicit false

namespace AuthVerifier
open Bounded Effects Expiring

structure RedisState where
  sessions : Keyspace SessionData Int := .empty
  userSessions : Keyspace (List String) Int := .empty

namespace RedisStore

def sessionKey (sessionId : String) : String := "session:" ++ sessionId

def userSessionsKey (realmId username authScheme : String) : String :=
  "user_sessions:" ++ realmId ++ ":" ++ username ++ ":" ++ authScheme

def indexOf (data : SessionData) : String :=
  userSessionsKey data.realmId data.username data.authScheme

def clientIndex (realmId : String) (client : AuthenticatedClientScheme) : String :=
  userSessionsKey realmId client.username client.authScheme.json

def absoluteExpiry (data : SessionData) : Int := i64 (data.createdAt + data.maxAgeSeconds)

/-- `SETEX` and `EXPIRE` take the time to live. -/
def expiryAccepted (now ttl : Int) : Prop := IsI64 ((now + ttl) * 1000)

instance (now ttl : Int) : Decidable (expiryAccepted now ttl) :=
  inferInstanceAs (Decidable (IsI64 _))

def invalidExpire (doing command : String) : AuthError :=
  .generic ("Failed to " ++ doing ++ ": An error was signalled by the server - "
    ++ "ResponseError: invalid expire time in '" ++ command ++ "' command")

def storedTtl (realm : Realm) : Int :=
  max 1 (min realm.sessionMaxStaleAgeSeconds realm.sessionMaxAgeSeconds)

/-- What the three commands of `upsert_session` write. -/
def storeSession (r : RedisState) (now : Int) (sessionId : String) (realm : Realm)
    (client : AuthenticatedClientScheme) (value : String) : RedisState :=
  let sessionData : SessionData :=
    { sessionId := sessionId, realmId := realm.id, username := client.username,
      authScheme := client.authScheme.json, cookieString := value,
      maxStaleAgeSeconds := realm.sessionMaxStaleAgeSeconds,
      maxAgeSeconds := realm.sessionMaxAgeSeconds, createdAt := now }
  let index := clientIndex realm.id client
  { sessions := r.sessions.set (sessionKey sessionId) sessionData (some (now + storedTtl realm))
    userSessions :=
      (r.userSessions.sadd now index sessionId).expire now index (now + storedTtl realm) }

/-- `SETEX` comes first, so one that is refused leaves everything as it was. -/
def upsertSession (r : RedisState) (now : Int) (sessionId : String) (realm : Realm)
    (client : AuthenticatedClientScheme) (value : String) : Except AuthError RedisState :=
  if expiryAccepted now (storedTtl realm) then
    .ok (storeSession r now sessionId realm client value)
  else .error (invalidExpire "set session in Redis" "setex")

/-- `DEL` of the session and `SREM` from its client's set. -/
def drop (r : RedisState) (now : Int) (sessionId : String) (data : SessionData) : RedisState :=
  { sessions := r.sessions.del (sessionKey sessionId)
    userSessions := r.userSessions.srem now (indexOf data) sessionId }

def refreshedTtl (data : SessionData) (now : Int) : Int :=
  min data.maxStaleAgeSeconds (i64 (absoluteExpiry data - now))

def getSession (r : RedisState) (now : Int) (sessionId : String) :
    Outcome RedisState AuthError (Option SessionData) :=
  match r.sessions.get now (sessionKey sessionId) with
  | none => .ok r none
  | some data =>
    if now > absoluteExpiry data then .ok (drop r now sessionId data) none
    else if refreshedTtl data now ≤ 0 then .ok (drop r now sessionId data) none
    else if expiryAccepted now (refreshedTtl data now) then
      .ok { r with
        sessions := r.sessions.expire now (sessionKey sessionId) (now + refreshedTtl data now) }
        (some data)
    else .error r (invalidExpire "refresh TTL in Redis" "expire")

def listMember (r : RedisState) (now : Int) (index sessionId : String) :
    RedisState × Option SessionData :=
  match r.sessions.get now (sessionKey sessionId) with
  | some data =>
    if now > absoluteExpiry data then
      ({ sessions := r.sessions.del (sessionKey sessionId)
         userSessions := r.userSessions.srem now index sessionId }, none)
    else (r, some data)
  | none => ({ r with userSessions := r.userSessions.srem now index sessionId }, none)

def listMembers (now : Int) (index : String) :
    RedisState → List String → RedisState × List SessionData
  | r, [] => (r, [])
  | r, id :: ids =>
    let first := listMember r now index id
    let rest := listMembers now index first.1 ids
    (rest.1, first.2.toList ++ rest.2)

def listClients (now : Int) (realmId : String) :
    RedisState → List AuthenticatedClientScheme → RedisState × List SessionData
  | r, [] => (r, [])
  | r, client :: clients =>
    let index := clientIndex realmId client
    let first := listMembers now index r (r.userSessions.smembers now index)
    let rest := listClients now realmId first.1 clients
    (rest.1, first.2 ++ rest.2)

def getSessionsForClients (r : RedisState) (now : Int) (realmId : String)
    (clients : List AuthenticatedClientScheme) : RedisState × List SessionData :=
  listClients now realmId r clients

def deleteSession (now : Int) (r : RedisState) (sessionId : String) : RedisState :=
  match r.sessions.get now (sessionKey sessionId) with
  | some data => drop r now sessionId data
  | none => { r with sessions := r.sessions.del (sessionKey sessionId) }

def deleteSessions (r : RedisState) (now : Int) (sessionIds : List String) : RedisState :=
  sessionIds.foldl (deleteSession now) r

/-- `strip_prefix("session:")`, or the key itself. -/
def idOfKey (key : String) : String :=
  if "session:".toList.isPrefixOf key.toList then String.ofList (key.toList.drop 8) else key

def deleteKeyOfRealm (now : Int) (realmId : String) (r : RedisState) (key : String) : RedisState :=
  match r.sessions.get now key with
  | some data =>
    if data.realmId = realmId then
      { sessions := r.sessions.del key
        userSessions := r.userSessions.srem now (indexOf data) (idOfKey key) }
    else r
  | none => r

def deleteSessionsForRealm (r : RedisState) (now : Int) (realmId : String) : RedisState :=
  (r.sessions.scan now).foldl (deleteKeyOfRealm now realmId) r

def apply (r : RedisState) (c : StoreCall) : Outcome RedisState AuthError StoreAnswer :=
  match c.op with
  | .upsertSession id realm client value =>
    match upsertSession r c.now id realm client value with
    | .error e => .error r e
    | .ok r' => .ok r' .done
  | .getSession id => (getSession r c.now id).bind fun r' data => .ok r' (.session data)
  | .getSessionsForClients realmId clients =>
    .ok (getSessionsForClients r c.now realmId clients).1
      (.sessions (getSessionsForClients r c.now realmId clients).2)
  | .deleteSessions ids => .ok (deleteSessions r c.now ids) .done
  | .deleteExpiredSessions => .ok r .done
  | .deleteSessionsForRealm realmId => .ok (deleteSessionsForRealm r c.now realmId) .done

def step (r : RedisState) (c : StoreCall) : RedisState := (apply r c).state

def reported (r : RedisState) (now : Int) (id : String) : Option SessionData :=
  match (apply r ⟨now, .getSession id⟩).result with
  | .ok (.session data) => data
  | _ => none

theorem step_getSession (r : RedisState) (now : Int) (id : String) :
    step r ⟨now, .getSession id⟩ = (getSession r now id).state := by
  exact Outcome.bind_state_eq fun _ _ => rfl

theorem reported_eq_some {r : RedisState} {now : Int} {id : String} {data : SessionData} :
    reported r now id = some data ↔ (getSession r now id).result = .ok (some data) := by
  simp only [reported, apply, Outcome.bind]
  rcases getSession r now id with ⟨r', e | found⟩
  · simp
  · simp [Outcome.ok]

theorem sessionKey_injective {id id' : String} (h : sessionKey id = sessionKey id') : id = id' :=
  String.append_right_inj _ |>.mp h

section
variable {r : RedisState} {now : Int} {id : String}

theorem getSession_of_absent (h : r.sessions.entry now (sessionKey id) = none) :
    getSession r now id = .ok r none := by
  unfold getSession
  rw [Keyspace.get_eq_none_iff.mpr h]

theorem reported_of_absent (h : r.sessions.entry now (sessionKey id) = none) :
    reported r now id = none := by
  rw [Option.eq_none_iff_forall_ne_some]
  intro data hdata
  rw [reported_eq_some, getSession_of_absent h] at hdata
  cases hdata

/-- An access can be answered with the session and a new deadline for it. -/
structure Accessible (data : SessionData) (now : Int) : Prop where
  absolute : now ≤ absoluteExpiry data
  remaining : 0 < refreshedTtl data now
  accepted : expiryAccepted now (refreshedTtl data now)

theorem getSession_of_accessible {data : SessionData}
    (hget : r.sessions.get now (sessionKey id) = some data) (h : Accessible data now) :
    getSession r now id =
      .ok { r with
        sessions := r.sessions.expire now (sessionKey id) (now + refreshedTtl data now) }
        (some data) := by
  obtain ⟨habs, hremaining, haccepted⟩ := h
  unfold getSession
  simp only [hget]
  rw [if_neg (by omega), if_neg (by omega), if_pos haccepted]

theorem reported_eq_some_iff {data : SessionData} :
    reported r now id = some data ↔
      r.sessions.get now (sessionKey id) = some data ∧ Accessible data now := by
  rw [reported_eq_some]
  constructor
  · intro h
    unfold getSession at h
    split at h
    · cases h
    · rename_i found hget
      split at h
      · cases h
      · split at h
        · cases h
        · split at h
          · rename_i habs hremaining haccepted
            cases h
            exact ⟨hget, by omega, by omega, haccepted⟩
          · cases h
  · rintro ⟨hget, h⟩
    rw [getSession_of_accessible hget h]
    rfl

theorem step_of_reported {data : SessionData} (h : reported r now id = some data) :
    step r ⟨now, .getSession id⟩ =
      { r with
        sessions := r.sessions.set (sessionKey id) data
          (some (now + refreshedTtl data now)) } := by
  obtain ⟨hget, haccess⟩ := reported_eq_some_iff.mp h
  obtain ⟨e, he, rfl⟩ := Option.map_eq_some_iff.mp hget
  rw [step_getSession, getSession_of_accessible hget haccess]
  simp only [Outcome.ok_state, Keyspace.expire, he]

theorem apply_getSession_of_reported {data : SessionData} (h : reported r now id = some data) :
    apply r ⟨now, .getSession id⟩ = .ok (step r ⟨now, .getSession id⟩) (.session (some data)) := by
  have hresult := reported_eq_some.mp h
  rw [step_getSession]
  have happly : apply r ⟨now, .getSession id⟩ =
      (getSession r now id).bind fun r' data => .ok r' (StoreAnswer.session data) := rfl
  rw [happly, Outcome.bind_of_ok hresult]

theorem step_upsertSession {value : String} {realm : Realm} {client : AuthenticatedClientScheme} :
    step r ⟨now, .upsertSession id realm client value⟩ =
      if expiryAccepted now (storedTtl realm) then storeSession r now id realm client value
      else r := by
  unfold step apply upsertSession
  by_cases h : expiryAccepted now (storedTtl realm)
  · simp [h]
  · simp [h]

def WithinAge (r : RedisState) (now : Int) : Prop :=
  ∀ id e, r.sessions.entry now (sessionKey id) = some e → now ≤ absoluteExpiry e.value

theorem sessions_listMember (h : WithinAge r now) (index id : String) :
    (listMember r now index id).1.sessions = r.sessions := by
  unfold listMember
  cases he : r.sessions.entry now (sessionKey id) with
  | none => rw [Keyspace.get_eq_none_iff.mpr he]
  | some e =>
    have hle : ¬ now > absoluteExpiry e.value := by
      have := h id e he
      omega
    simp only [Keyspace.get_of_entry he, if_neg hle]

theorem sessions_listMembers (h : WithinAge r now) (index : String) (ids : List String) :
    (listMembers now index r ids).1.sessions = r.sessions := by
  induction ids generalizing r with
  | nil => rfl
  | cons id ids ih =>
    have hfirst := sessions_listMember h index id
    have hnext : WithinAge (listMember r now index id).1 now := by
      unfold WithinAge
      rw [hfirst]
      exact h
    rw [listMembers, ih hnext, hfirst]

theorem sessions_listClients (h : WithinAge r now) (realmId : String)
    (clients : List AuthenticatedClientScheme) :
    (listClients now realmId r clients).1.sessions = r.sessions := by
  induction clients generalizing r with
  | nil => rfl
  | cons client clients ih =>
    have hfirst := sessions_listMembers h (clientIndex realmId client)
      (r.userSessions.smembers now (clientIndex realmId client))
    have hnext : WithinAge (listMembers now (clientIndex realmId client) r
        (r.userSessions.smembers now (clientIndex realmId client))).1 now := by
      unfold WithinAge
      rw [hfirst]
      exact h
    rw [listClients, ih hnext, hfirst]

@[simp] theorem sessions_deleteSession :
    (deleteSession now r id).sessions = r.sessions.del (sessionKey id) := by
  unfold deleteSession
  split
  · rfl
  · rfl

theorem entry_deleteSessions {t : Int} (ids : List String) :
    (deleteSessions r now ids).sessions.entry t (sessionKey id) =
      if id ∈ ids then none else r.sessions.entry t (sessionKey id) := by
  unfold deleteSessions
  induction ids generalizing r with
  | nil => simp
  | cons first ids ih =>
    rw [List.foldl_cons, ih, sessions_deleteSession]
    by_cases hid : id = first
    · subst hid
      simp
    · have hkey : sessionKey id ≠ sessionKey first := fun h => hid (sessionKey_injective h)
      simp [hid, Keyspace.entry_del_ne hkey]

theorem entry_deleteKeyOfRealm {realmId key k : String} :
    (deleteKeyOfRealm now realmId r key).sessions.entry now k =
      if k = key then (r.sessions.entry now k).filter (fun e => e.value.realmId ≠ realmId)
      else r.sessions.entry now k := by
  unfold deleteKeyOfRealm
  cases he : r.sessions.entry now key with
  | none =>
    rw [Keyspace.get_eq_none_iff.mpr he]
    by_cases hk : k = key
    · simp [hk, he]
    · simp [hk]
  | some e =>
    rw [Keyspace.get_of_entry he]
    by_cases hrealm : e.value.realmId = realmId
    · by_cases hk : k = key
      · simp [hrealm, hk, he, Option.filter]
      · simp [hrealm, hk, Keyspace.entry_del_ne hk]
    · by_cases hk : k = key
      · simp [hrealm, hk, he, Option.filter]
      · simp [hrealm, hk]

theorem entry_deleteSessionsForRealm {realmId k : String} :
    (deleteSessionsForRealm r now realmId).sessions.entry now k =
      (r.sessions.entry now k).filter (fun e => e.value.realmId ≠ realmId) := by
  -- What the deletions of some keys do to `k` depends only on whether `k` is among them.
  have hfold (keys : List String) (r : RedisState) :
      (keys.foldl (deleteKeyOfRealm now realmId) r).sessions.entry now k =
        if k ∈ keys then (r.sessions.entry now k).filter (fun e => e.value.realmId ≠ realmId)
        else r.sessions.entry now k := by
    induction keys generalizing r with
    | nil => simp
    | cons key keys ih =>
      rw [List.foldl_cons, ih, entry_deleteKeyOfRealm]
      by_cases hk : k = key
      · simp [hk]
      · simp [hk]
  unfold deleteSessionsForRealm
  rw [hfold]
  split
  · rfl
  · rename_i hk
    have hnone : r.sessions.entry now k = none := by
      rw [Option.eq_none_iff_forall_ne_some]
      intro e he
      exact hk (Keyspace.mem_scan.mpr ⟨e, he⟩)
    simp [hnone]

end

end RedisStore
end AuthVerifier
