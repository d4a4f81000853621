import AuthVerifier.Middleware

/-! The handlers of the `/sessions` scope, following `sessions_endpoints.rs`. -/

set_option autoImplicit false

namespace AuthVerifier
open Effects

inductive SessionsRequest where
  | upsertSession (body : UpsertSessionRequest)
  | getSessionById (sessionId : String)
  | getSession (sessionId : String) (body : GetSessionRequest)
  | getSessionsForClients (realmId : String) (clients : List AuthenticatedClientScheme)
  | deleteSessions (sessionIds : List String)
  | deleteExpiredSessions
  | deleteSessionsForRealm (realmId : String)
  deriving DecidableEq

namespace Endpoints
variable (now : Int) (sessions : Sessions)

def upsertSession (body : UpsertSessionRequest) : Outcome Sessions AuthError HttpResponse :=
  match SessionStore.upsertSession sessions now body.sessionId body.realm
      body.authenticatedClient body.sessionValue with
  | .error e => .error sessions e
  | .ok sessions => .ok sessions { status := 204 }

def getSessionById (sessionId : String) : Outcome Sessions AuthError HttpResponse :=
  match SessionStore.getSession sessions now sessionId with
  | (sessions, data) => .ok sessions { status := 200, body := .session data }

/-- The sessions an action logs out, once the session it is asked for is known. -/
def sessionsToLogout (sessionId realmId : String) (clients : List AuthenticatedClientScheme) :
    SessionsAction → List String
  | .logoutOtherSessions =>
    ((SessionStore.getSessionsForClients sessions now realmId clients).map
      SessionData.sessionId).filter (fun id => id != sessionId)
  | .logoutAllSessions =>
    (SessionStore.getSessionsForClients sessions now realmId clients).map
      SessionData.sessionId ++ [sessionId]

def getSession (sessionId : String) (body : GetSessionRequest) :
    Outcome Sessions AuthError HttpResponse :=
  match SessionStore.getSession sessions now sessionId with
  | (sessions, none) => .error sessions .sessionNotFound
  | (sessions, some data) => match body.sessionsAction with
    | none => .ok sessions { status := 200, body := .session (some data) }
    | some action =>
      .ok (SessionStore.deleteSessions sessions
          (sessionsToLogout now sessions sessionId data.realmId body.authenticatedClients action))
        { status := 200, body := .session (some data) }

def getSessionsForClients (realmId : String) (clients : List AuthenticatedClientScheme) :
    Outcome Sessions AuthError HttpResponse :=
  let found := SessionStore.getSessionsForClients sessions now realmId clients
  .ok sessions { status := 200, body := .sessionIds (found.map SessionData.sessionId) }

end Endpoints

def handleSessions (now : Int) (sessions : Sessions) :
    SessionsRequest → Outcome Sessions AuthError HttpResponse
  | .upsertSession body => Endpoints.upsertSession now sessions body
  | .getSessionById id => Endpoints.getSessionById now sessions id
  | .getSession id body => Endpoints.getSession now sessions id body
  | .getSessionsForClients realm clients =>
      Endpoints.getSessionsForClients now sessions realm clients
  | .deleteSessions ids => .ok (SessionStore.deleteSessions sessions ids) { status := 204 }
  | .deleteExpiredSessions =>
      .ok (SessionStore.deleteExpiredSessions sessions now) { status := 204 }
  | .deleteSessionsForRealm realm =>
      .ok (SessionStore.deleteSessionsForRealm sessions realm) { status := 204 }

theorem mem_handleSessions {now : Int} {sessions : Sessions} {req : SessionsRequest}
    {r' : SessionRow} (h : r' ∈ (handleSessions now sessions req).state) :
    (∃ r ∈ sessions, SessionStore.SameSession r r') ∨
      ∃ body, req = .upsertSession body ∧ body.sessionId ∉ sessions.keys ∧
        r' = newSession now body.sessionId body.realm body.authenticatedClient
          body.sessionValue := by
  cases req with
  | upsertSession body =>
    simp only [handleSessions, Endpoints.upsertSession] at h
    split at h
    · exact .inl ⟨r', h, rfl⟩
    · rename_i sessions' hs
      rcases ((SessionStore.upsertSession_ok hs).2 r').mp h with h | h
      · exact .inl ⟨r', h, rfl⟩
      · exact .inr ⟨body, rfl, (SessionStore.upsertSession_ok hs).1, h⟩
  | getSessionById id => exact .inl (SessionStore.mem_getSession h)
  | getSession id body =>
    have hmem : r' ∈ (SessionStore.getSession sessions now id).1 := by
      simp only [handleSessions, Endpoints.getSession] at h
      split at h
      · rename_i hg
        rw [hg]
        exact h
      · rename_i hg
        rw [hg]
        split at h
        · exact h
        · exact (Relational.Table.mem_deleteWhere.mp h).1
    exact .inl (SessionStore.mem_getSession hmem)
  | getSessionsForClients realm clients => exact .inl ⟨r', h, rfl⟩
  | deleteSessions ids => exact .inl ⟨r', (Relational.Table.mem_deleteWhere.mp h).1, rfl⟩
  | deleteExpiredSessions => exact .inl ⟨r', (Relational.Table.mem_deleteWhere.mp h).1, rfl⟩
  | deleteSessionsForRealm realm =>
    exact .inl ⟨r', (Relational.Table.mem_deleteWhere.mp h).1, rfl⟩

end AuthVerifier
