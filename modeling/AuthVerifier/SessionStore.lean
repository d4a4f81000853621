import AuthVerifier.Lib.Checked
import AuthVerifier.Lib.Table
import AuthVerifier.Externals

/-!
The session store, following `session/impls/sqlite.rs`. Its deadlines are `i64` sums, which wrap in
a release build; the sums of its statements are SQLite's, which goes over to real numbers.
-/

set_option autoImplicit false

namespace AuthVerifier
open Bounded Relational

structure SessionRow where
  sessionId : String
  realmId : String
  username : String
  authScheme : String
  cookieString : String
  staleAt : Int
  maxStaleAgeSeconds : Int
  maxAgeSeconds : Int
  createdAt : Int
  deriving DecidableEq

abbrev Sessions := Table SessionRow String SessionRow.sessionId

def SessionRow.toData (r : SessionRow) : SessionData :=
  { sessionId := r.sessionId, realmId := r.realmId, username := r.username,
    authScheme := r.authScheme, cookieString := r.cookieString,
    maxStaleAgeSeconds := r.maxStaleAgeSeconds, maxAgeSeconds := r.maxAgeSeconds,
    createdAt := r.createdAt }

def newSession (now : Int) (sessionId : String) (realm : Realm)
    (client : AuthenticatedClientScheme) (value : String) : SessionRow :=
  { sessionId := sessionId, realmId := realm.id, username := client.username,
    authScheme := client.authScheme.json, cookieString := value,
    staleAt := i64 (now + realm.sessionMaxStaleAgeSeconds),
    maxStaleAgeSeconds := realm.sessionMaxStaleAgeSeconds,
    maxAgeSeconds := realm.sessionMaxAgeSeconds, createdAt := now }

namespace SessionStore

/-- A plain `INSERT`: an id already in use is an error. -/
def upsertSession (s : Sessions) (now : Int) (sessionId : String) (realm : Realm)
    (client : AuthenticatedClientScheme) (value : String) : Except AuthError Sessions :=
  if h : sessionId ∈ s.keys then
    .error (.generic ("Failed to insert session: error returned from database: (code: 1555) "
      ++ "UNIQUE constraint failed: session.session_id"))
  else .ok (s.insert (newSession now sessionId realm client value) h)

def expired (now : Int) (r : SessionRow) : Bool :=
  now > r.staleAt || now > i64 (r.createdAt + r.maxAgeSeconds)

/-- The idle deadline pushed on by an access, never past the absolute age. -/
def touch (now : Int) (r : SessionRow) : SessionRow :=
  { r with
    staleAt := i64 (now +
      min r.maxStaleAgeSeconds (i64 (i64 (r.createdAt + r.maxAgeSeconds) - now))) }

def getSession (s : Sessions) (now : Int) (sessionId : String) : Sessions × Option SessionData :=
  match s.find? sessionId with
  | none => (s, none)
  | some r =>
    if expired now r then (s.deleteWhere (fun x => x.sessionId == sessionId), none)
    else (s.updateWhere (fun x => x.sessionId == sessionId) (touch now) (fun _ => rfl),
      some r.toData)

def matchesClient (realmId : String) (clients : List AuthenticatedClientScheme) (now : Int)
    (r : SessionRow) : Bool :=
  r.realmId == realmId && r.staleAt > now && r.createdAt + r.maxAgeSeconds > now &&
    clients.any (fun c => r.username == c.username && r.authScheme == c.authScheme.json)

def getSessionsForClients (s : Sessions) (now : Int) (realmId : String)
    (clients : List AuthenticatedClientScheme) : List SessionData :=
  (s.rows.filter (matchesClient realmId clients now)).map SessionRow.toData

def deleteSessions (s : Sessions) (ids : List String) : Sessions :=
  s.deleteWhere (fun r => ids.contains r.sessionId)

def deleteExpiredSessions (s : Sessions) (now : Int) : Sessions :=
  s.deleteWhere (fun r => r.staleAt ≤ now || r.createdAt + r.maxAgeSeconds ≤ now)

def deleteSessionsForRealm (s : Sessions) (realmId : String) : Sessions :=
  s.deleteWhere (fun r => r.realmId == realmId)

section
variable {now : Int} {r : SessionRow}

theorem newSession_staleAt {id value : String} {realm : Realm} {client : AuthenticatedClientScheme}
    (h : IsI64 (now + realm.sessionMaxStaleAgeSeconds)) :
    (newSession now id realm client value).staleAt = now + realm.sessionMaxStaleAgeSeconds :=
  i64_eq h

theorem expired_eq_false_iff (h : IsI64 (r.createdAt + r.maxAgeSeconds)) :
    expired now r = false ↔ now ≤ r.staleAt ∧ now ≤ r.createdAt + r.maxAgeSeconds := by
  simp only [expired, i64_eq h, Bool.or_eq_false_iff, decide_eq_false_iff_not]
  omega

theorem expired_of_overflow (hnow : 0 ≤ now) (hcreated : 0 ≤ r.createdAt ∧ IsI64 r.createdAt)
    (hage : IsI64 r.maxAgeSeconds) (h : ¬ IsI64 (r.createdAt + r.maxAgeSeconds)) :
    expired now r = true := by
  have hneg := i64_add_neg hcreated hage h
  simp only [expired, Bool.or_eq_true, decide_eq_true_eq]
  omega

theorem touch_staleAt (hnow : 0 ≤ now) (hidle : IsI64 r.maxStaleAgeSeconds)
    (h : IsI64 (r.createdAt + r.maxAgeSeconds)) (hlive : now ≤ r.createdAt + r.maxAgeSeconds) :
    (touch now r).staleAt =
      now + min r.maxStaleAgeSeconds (r.createdAt + r.maxAgeSeconds - now) := by
  unfold IsI64 at hidle
  have hrest : IsI64 (r.createdAt + r.maxAgeSeconds - now) := by
    unfold IsI64 at *
    omega
  have hdeadline : IsI64 (now + min r.maxStaleAgeSeconds (r.createdAt + r.maxAgeSeconds - now)) := by
    unfold IsI64 at *
    omega
  simp only [touch, i64_eq h, i64_eq hrest, i64_eq hdeadline]

end

/-- What a row keeps through every operation of the store but its own deletion. -/
def SameSession (r r' : SessionRow) : Prop :=
  r' = { r with staleAt := r'.staleAt }

theorem SameSession.refl (r : SessionRow) : SameSession r r := rfl

theorem SameSession.trans {r₁ r₂ r₃ : SessionRow} (h₁ : SameSession r₁ r₂)
    (h₂ : SameSession r₂ r₃) : SameSession r₁ r₃ := by
  unfold SameSession at *
  rw [h₂, h₁]

theorem sameSession_touch (now : Int) (r : SessionRow) : SameSession r (touch now r) := rfl

theorem mem_getSession {s : Sessions} {now : Int} {id : String} {r' : SessionRow}
    (h : r' ∈ (getSession s now id).1) : ∃ r ∈ s, SameSession r r' := by
  unfold getSession at h
  split at h
  · exact ⟨r', h, rfl⟩
  · split at h
    · exact ⟨r', (Table.mem_deleteWhere.mp h).1, rfl⟩
    · obtain ⟨r, hr, he⟩ := (@Table.mem_updateWhere _ _ _ s (fun x => x.sessionId == id)
        (touch now) (fun _ => rfl) r').mp h
      refine ⟨r, hr, ?_⟩
      split at he
      · rw [← he]
        exact sameSession_touch now r
      · rw [← he]
        exact .refl r

theorem getSession_keys {s : Sessions} {now : Int} {id : String} {d : SessionData}
    (h : (getSession s now id).2 = some d) : (getSession s now id).1.keys = s.keys := by
  unfold getSession at h ⊢
  cases hf : s.find? id with
  | none => simp [hf] at h
  | some r =>
    simp only [hf] at h ⊢
    split at h
    · cases h
    · rename_i hlive
      simp only [hlive, if_false, Bool.false_eq_true]
      exact Table.keys_updateWhere _ _ _ _

theorem getSession_some {s : Sessions} {now : Int} {id : String} {d : SessionData}
    (h : (getSession s now id).2 = some d) :
    ∃ r ∈ s, r.sessionId = id ∧ expired now r = false ∧ r.toData = d := by
  unfold getSession at h
  cases hf : s.find? id with
  | none => simp [hf] at h
  | some r =>
    simp only [hf] at h
    obtain ⟨hr, hid⟩ := Table.find?_eq_some_iff.mp hf
    split at h
    · cases h
    · rename_i hlive
      exact ⟨r, hr, hid, by simpa using hlive, by simpa using h⟩

theorem getSession_of_absent {s : Sessions} {now : Int} {id : String} (h : id ∉ s.keys) :
    getSession s now id = (s, none) := by
  unfold getSession
  rw [Table.find?_eq_none_iff.mpr h]

theorem getSession_of_expired {s : Sessions} {now : Int} {r : SessionRow} (hr : r ∈ s)
    (h : expired now r = true) :
    getSession s now r.sessionId =
      (s.deleteWhere (fun x => x.sessionId == r.sessionId), none) := by
  unfold getSession
  rw [Table.find?_eq_some_iff.mpr ⟨hr, rfl⟩]
  simp only [h, if_true]

theorem getSession_of_live {s : Sessions} {now : Int} {r : SessionRow} (hr : r ∈ s)
    (h : expired now r = false) :
    getSession s now r.sessionId =
      (s.updateWhere (fun x => x.sessionId == r.sessionId) (touch now) (fun _ => rfl),
        some r.toData) := by
  unfold getSession
  rw [Table.find?_eq_some_iff.mpr ⟨hr, rfl⟩]
  simp only [h, if_false, Bool.false_eq_true]

theorem getSession_snd (s : Sessions) (now : Int) (id : String) :
    (getSession s now id).2 =
      ((s.find? id).filter (fun r => !expired now r)).map SessionRow.toData := by
  unfold getSession
  cases s.find? id with
  | none => rfl
  | some r =>
    cases he : expired now r with
    | true => simp [Option.filter, he]
    | false => simp [Option.filter, he]

theorem mem_getSession_of_live {s : Sessions} {now : Int} {r x : SessionRow} (hr : r ∈ s)
    (h : expired now r = false) :
    x ∈ (getSession s now r.sessionId).1 ↔
      (x ∈ s ∧ x.sessionId ≠ r.sessionId) ∨ x = touch now r := by
  rw [getSession_of_live hr h]
  refine (@Table.mem_updateWhere_key _ _ _ _ s r.sessionId (touch now) (fun _ => rfl) x).trans ?_
  apply or_congr_right
  constructor
  · rintro ⟨y, hy, hk, rfl⟩
    rw [Table.eq_of_key hy hr hk]
  · rintro rfl
    exact ⟨r, hr, rfl, rfl⟩

theorem mem_getSession_self {s : Sessions} {now : Int} {x : SessionRow}
    (h : x ∈ (getSession s now x.sessionId).1) :
    ∃ r ∈ s, r.sessionId = x.sessionId ∧ expired now r = false ∧ x = touch now r := by
  obtain ⟨r, hr, hsame⟩ := mem_getSession h
  have hid : r.sessionId = x.sessionId := by rw [hsame]
  rw [← hid] at h
  cases he : expired now r with
  | true =>
    rw [getSession_of_expired hr he] at h
    simp [hid] at h
  | false =>
    rcases (mem_getSession_of_live hr he).mp h with ⟨_, hne⟩ | hx
    · exact absurd hid.symm hne
    · exact ⟨r, hr, hid, he, hx⟩

theorem mem_getSession_of_ne {s : Sessions} {now : Int} {id : String} {x : SessionRow}
    (hne : x.sessionId ≠ id) : x ∈ (getSession s now id).1 ↔ x ∈ s := by
  by_cases hk : id ∈ s.keys
  · obtain ⟨r, hr, rfl⟩ := Table.mem_keys.mp hk
    cases he : expired now r with
    | true =>
      rw [getSession_of_expired hr he]
      simp [hne]
    | false =>
      rw [mem_getSession_of_live hr he]
      constructor
      · rintro (⟨hx, _⟩ | rfl)
        · exact hx
        · exact absurd rfl hne
      · exact fun hx => .inl ⟨hx, hne⟩
  · rw [getSession_of_absent hk]

theorem upsertSession_ok {s s' : Sessions} {now : Int} {id value : String} {realm : Realm}
    {client : AuthenticatedClientScheme} (h : upsertSession s now id realm client value = .ok s') :
    id ∉ s.keys ∧ ∀ r, r ∈ s' ↔ r ∈ s ∨ r = newSession now id realm client value := by
  unfold upsertSession at h
  split at h
  · cases h
  · rename_i hk
    cases h
    exact ⟨hk, fun _ => Table.mem_insert (h := hk)⟩

end SessionStore

inductive SqlBackend where
  | sqlite | postgres | mysql
  deriving DecidableEq

end AuthVerifier
