import AuthVerifier.AdminApi
import AuthVerifier.Certify
import AuthVerifier.Lib.Run
import AuthVerifier.Login
import AuthVerifier.SessionsEndpoints
import AuthVerifier.Transparent

/-!
The server as one state machine, following the scopes of `auth_verifier.rs`: each request passes
its scope's middlewares, outermost first, and then its handler. The stale session collector takes
steps of its own.
-/

set_option autoImplicit false

namespace AuthVerifier
open Effects

structure ServerState where
  db : Database
  sessions : Sessions
  jwks : JwksCache

inductive Request where
  | login (query : String) (authorization : Option String) (body : LoginRequest)
  | samlAcs (realmId : String) (post : SamlPost)
  | whoami (query : String) (cookie : Option String)
  | certify (cookie : Option String) (body : CertifyRequest)
  | admin (query : String) (cookie : Option String) (request : AdminRequest)
  | sessions (query : String) (cookie : Option String) (request : SessionsRequest)
  | collector

structure Call where
  moment : Moment
  request : Request

/-- The routes of the `/realms` scope; the other administration routes are under `/admins`. -/
def AdminRequest.underRealms : AdminRequest → Bool
  | .createUserpass .. | .getUserpass .. | .updateUserpass .. | .deleteUserpass ..
  | .listUserpassByRealm .. | .totpGenerate .. | .totpVerify .. | .totpDisable .. => true
  | _ => false

def routeNotFound : Answer :=
  .ok { status := 404,
        body := .message "route not found or authentication method not supported" }

section
variable (X : Externals) (params : ServerParams)

def adminRealmMiddleware (db : Database) (query : String) (req : AdminRequest) :
    Except Answer (Option Realm) :=
  if req.underRealms then extractRealm db query else injectAdminRealm db

def handleLogin (s : ServerState) (m : Moment) (query : String) (authorization : Option String)
    (body : LoginRequest) : ServerState × Answer :=
  let auth := primaryAuth X s.db s.jwks m query authorization
  match auth.result with
  | .error answer => ({ s with jwks := auth.state }, answer)
  | .ok (realm, client) =>
    let out := login X params m s.db s.sessions realm (some client) body
    ({ s with jwks := auth.state, sessions := out.state }, out.result)

def handleSamlAcs (s : ServerState) (m : Moment) (realmId : String) (post : SamlPost) :
    ServerState × Answer :=
  if params.samlSpConfigured = false then (s, routeNotFound)
  else
    let out := samlAcs X params m s.db s.sessions realmId post
    ({ s with sessions := out.state }, out.result)

def withSession (s : ServerState) (m : Moment) (cookie : Option String)
    (next : ServerState → ClientClaims → ServerState × Answer) : ServerState × Answer :=
  let auth := cookieAuth X s.sessions m cookie
  match auth.result with
  | .error e => ({ s with sessions := auth.state }, .error e)
  | .ok claims => next { s with sessions := auth.state } claims

def withRealm (s : ServerState) (realm : Except Answer (Option Realm))
    (next : ServerState × Answer) : ServerState × Answer :=
  match realm with
  | .error answer => (s, answer)
  | .ok _ => next

def handleAdminCall (m : Moment) (req : AdminRequest) (s : ServerState) (claims : ClientClaims) :
    ServerState × Answer :=
  match adminAuth X s.db claims with
  | .error e => (s, .error e)
  | .ok requester =>
    let out := handleAdmin X params m requester s.db req
    ({ s with db := out.state }, out.result)

def handleSessionsCall (m : Moment) (req : SessionsRequest) (s : ServerState)
    (_claims : ClientClaims) : ServerState × Answer :=
  let out := handleSessions m.now s.sessions req
  ({ s with sessions := out.state }, out.result)

def handle (s : ServerState) (c : Call) : ServerState × Answer :=
  match c.request with
  | .login query authorization body => handleLogin X params s c.moment query authorization body
  | .samlAcs realmId post => handleSamlAcs X params s c.moment realmId post
  | .whoami query cookie =>
    withRealm s (extractRealm s.db query) (withSession X s c.moment cookie
      fun s claims => (s, .ok (Endpoints.whoami claims)))
  | .certify cookie body => withSession X s c.moment cookie
      fun s claims => (s, Endpoints.certify X params c.moment s.db claims body)
  | .admin query cookie req =>
    withRealm s (adminRealmMiddleware s.db query req)
      (withSession X s c.moment cookie (handleAdminCall X params c.moment req))
  | .sessions query cookie req =>
    withRealm s (extractRealm s.db query)
      (withSession X s c.moment cookie (handleSessionsCall c.moment req))
  | .collector =>
    ({ s with sessions := SessionStore.deleteExpiredSessions s.sessions c.moment.now },
      .ok { status := 204 })

def step (s : ServerState) (c : Call) : ServerState := (handle X params s c).1

/-- A step that issues a session: a login that passed both factors, or an assertion that was
accepted. `client` is who authenticated, `realm` where, and `token` what was signed for it. -/
inductive Issues (s : ServerState) (m : Moment) (token : String) (realm : Realm)
    (client : AuthenticatedClientScheme) : Request → Prop where
  | login (query : String) (authorization : Option String) (body : LoginRequest)
      (roles : List String) (extra : ExtraClaims)
      (hp : (primaryAuth X s.db s.jwks m query authorization).result = .ok (some realm, client))
      (hf : secondFactor X m s.db realm client body = .ok ())
      (ht : issueToken X m client.username client.authScheme realm.id roles extra
        realm.sessionMaxAgeSeconds = .ok token)
      (hu : sessionIdFromCookieValue X token ∉ s.sessions.keys) :
      Issues s m token realm client (.login query authorization body)
  | samlAcs (realmId : String) (post : SamlPost) (identity : SamlIdentity)
      (hs : params.samlSpConfigured = true)
      (hp : consumeResponse s.db realmId post = .ok (realm, identity))
      (hi : client = { username := identity.subject, authScheme := .saml })
      (ht : issueToken X m client.username client.authScheme realm.id identity.roles
        identity.extraClaims realm.sessionMaxAgeSeconds = .ok token)
      (hu : sessionIdFromCookieValue X token ∉ s.sessions.keys) :
      Issues s m token realm client (.samlAcs realmId post)

/-- `POST /sessions` gets through: the middlewares let it pass and the id is not in use. -/
structure Stores (s : ServerState) (m : Moment) (query : String) (cookie : Option String)
    (body : UpsertSessionRequest) : Prop where
  realm : ∃ realm, extractRealm s.db query = .ok realm
  session : ∃ claims, (cookieAuth X s.sessions m cookie).result = .ok claims
  unused : body.sessionId ∉ s.sessions.keys

def Injects (s : ServerState) (m : Moment) (cookie : Option String) (claims : ClientClaims)
    (admin : Admin) : Prop :=
  (cookieAuth X s.sessions m cookie).result = .ok claims ∧ adminAuth X s.db claims = .ok admin

end

def ServerState.initial (passwordHash : String) : ServerState :=
  { db := Database.fresh passwordHash, sessions := Relational.Table.empty,
    jwks := Relational.Table.empty }

namespace Transparent

def rootLogin : Call := ⟨moment 1000, .login "realm=_" (some "Basic YWRtaW46Y2hhbmdlX21l") {}⟩

/-- The value of the cookie set by `rootLogin`. -/
def rootCookie : String := "admin._.up.1000.4600.n"

def start : ServerState := .initial initialHash

example : (handle externals params start rootLogin).2 = .ok
    { status := 200
      body := .authentication (some (externals.sha256Hex rootCookie)) .authenticated
      setCookie := some (externals.cookieToString rootCookie 3600 true) } := by
  decide

end Transparent

section
variable {X : Externals} {params : ServerParams} {s : ServerState} {m : Moment}

theorem Issues.signed {token : String} {realm : Realm} {client : AuthenticatedClientScheme}
    {req : Request} (h : Issues X params s m token realm client req) :
    ∃ claims, X.signSession m.nonce claims = .ok token ∧
      claims.registered.sub = some client.username ∧
      claims.privateClaims.authScheme = some client.authScheme ∧
      claims.privateClaims.realmId = some realm.id := by
  cases h with
  | login _ _ _ _ _ _ _ ht _ => exact ⟨_, issueToken_ok ht, rfl, rfl, rfl⟩
  | samlAcs _ _ _ _ _ _ ht _ => exact ⟨_, issueToken_ok ht, rfl, rfl, rfl⟩

theorem withRealm_cases {realm : Except Answer (Option Realm)} {next : ServerState × Answer} :
    (withRealm s realm next).1 = s ∨ (withRealm s realm next).1 = next.1 := by
  unfold withRealm
  split
  · exact .inl rfl
  · exact .inr rfl

theorem withSession_db {cookie : Option String}
    {next : ServerState → ClientClaims → ServerState × Answer}
    (h : ∀ s claims, (next s claims).1.db = s.db) :
    (withSession X s m cookie next).1.db = s.db := by
  simp only [withSession]
  split
  · rfl
  · rw [h]

theorem step_handleAdmin (X : Externals) (params : ServerParams) (s : ServerState) (c : Call) :
    (step X params s c).db = s.db ∨ ∃ query cookie req requester,
      c.request = .admin query cookie req ∧
      (step X params s c).db = (handleAdmin X params c.moment requester s.db req).state := by
  obtain ⟨m, request⟩ := c
  cases request with
  | login query authorization body =>
    left
    simp only [step, handle, handleLogin]
    split <;> rfl
  | samlAcs realmId post =>
    left
    simp only [step, handle, handleSamlAcs]
    split <;> rfl
  | whoami query cookie =>
    left
    simp only [step, handle]
    rcases withRealm_cases with h | h
    · rw [h]
    · rw [h]
      exact withSession_db (fun _ _ => rfl)
  | certify cookie body =>
    left
    simp only [step, handle]
    exact withSession_db (fun _ _ => rfl)
  | admin query cookie req =>
    simp only [step, handle]
    rcases withRealm_cases with h | h
    · left
      rw [h]
    · rw [h]
      simp only [withSession]
      split
      · exact .inl rfl
      · simp only [handleAdminCall]
        split
        · exact .inl rfl
        · rename_i requester _
          exact .inr ⟨query, cookie, req, requester, rfl, rfl⟩
  | sessions query cookie req =>
    left
    simp only [step, handle]
    rcases withRealm_cases with h | h
    · rw [h]
    · rw [h]
      exact withSession_db (fun _ _ => rfl)
  | collector => exact .inl rfl

theorem step_db (c : Call) :
    (step X params s c).db = s.db ∨ ∃ query cookie req requester,
      c.request = .admin query cookie req ∧
      Writes X params c.moment requester s.db req (step X params s c).db := by
  rcases step_handleAdmin X params s c with
    h | ⟨query, cookie, req, requester, hreq, h⟩
  · exact .inl h
  · rw [h]
    exact .inr ⟨query, cookie, req, requester, hreq, handleAdmin_writes c.moment requester s.db req⟩

/-- An administration request that answers otherwise than a refusal of its realm parameter has been
handled for some requester. -/
theorem handle_admin_ok {query : String} {cookie : Option String}
    {req : AdminRequest} {response : HttpResponse} (hstatus : response.status ≠ 401)
    (h : (handle X params s ⟨m, .admin query cookie req⟩).2 = .ok response) :
    ∃ requester, (handleAdmin X params m requester s.db req).result = .ok response ∧
      (step X params s ⟨m, .admin query cookie req⟩).db =
        (handleAdmin X params m requester s.db req).state := by
  simp only [step, handle] at h ⊢
  cases hrealm : adminRealmMiddleware s.db query req with
  | error answer =>
    simp only [hrealm, withRealm] at h
    have hanswer : ∃ text, answer = unauthorized text := by
      unfold adminRealmMiddleware extractRealm injectAdminRealm at hrealm
      repeat' split at hrealm
      all_goals cases hrealm
      all_goals exact ⟨_, rfl⟩
    obtain ⟨text, rfl⟩ := hanswer
    cases h
    exact absurd rfl hstatus
  | ok realm =>
    simp only [hrealm, withRealm, withSession] at h ⊢
    cases hcookie : (cookieAuth X s.sessions m cookie).result with
    | error e =>
      simp only [hcookie] at h
      cases h
    | ok claims =>
      simp only [hcookie, handleAdminCall] at h ⊢
      cases hadmin : adminAuth X s.db claims with
      | error e =>
        simp only [hadmin] at h
        cases h
      | ok requester =>
        simp only [hadmin] at h ⊢
        exact ⟨requester, h, rfl⟩

def Survives (s : ServerState) (r' : SessionRow) : Prop :=
  ∃ r ∈ s.sessions, SessionStore.SameSession r r'

theorem mem_withSession {cookie : Option String} {r' : SessionRow}
    {next : ServerState → ClientClaims → ServerState × Answer}
    (h : r' ∈ (withSession X s m cookie next).1.sessions) :
    Survives s r' ∨ ∃ claims,
      (cookieAuth X s.sessions m cookie).result = .ok claims ∧
      r' ∈ (next { s with sessions := (cookieAuth X s.sessions m cookie).state }
        claims).1.sessions := by
  simp only [withSession] at h
  split at h
  · exact .inl (mem_cookieAuth h)
  · rename_i claims hc
    exact .inr ⟨claims, hc, h⟩

theorem survives_withSession {cookie : Option String} {r' : SessionRow}
    {next : ServerState → ClientClaims → ServerState × Answer}
    (hn : ∀ s claims, (next s claims).1.sessions = s.sessions)
    (h : r' ∈ (withSession X s m cookie next).1.sessions) : Survives s r' := by
  rcases mem_withSession h with h | ⟨claims, _, h⟩
  · exact h
  · rw [hn] at h
    exact mem_cookieAuth h

/-- The sessions after a step: old ones, the one that the step issues, or one spelled out in the
body of `POST /sessions`. -/
theorem mem_step_sessions {c : Call} {r' : SessionRow}
    (h : r' ∈ (step X params s c).sessions) :
    Survives s r' ∨
    (∃ token realm client, Issues X params s c.moment token realm client c.request ∧
      r' = issuedRow X params c.moment realm client token) ∨
    ∃ query cookie body, c.request = .sessions query cookie (.upsertSession body) ∧
      Stores X s c.moment query cookie body ∧
      r' = newSession c.moment.now body.sessionId body.realm body.authenticatedClient
        body.sessionValue := by
  obtain ⟨m, request⟩ := c
  cases request with
  | login query authorization body =>
    simp only [step, handle, handleLogin] at h
    split at h
    · exact .inl ⟨r', h, rfl⟩
    · rename_i realm client hp
      rcases mem_login h with h | ⟨rlm, c, token, roles, extra, rfl, hc, hf, ht, hu, hr⟩
      · exact .inl ⟨r', h, rfl⟩
      · cases hc
        exact .inr (.inl ⟨token, rlm, client, .login _ _ _ roles extra hp hf ht hu, hr⟩)
  | samlAcs realmId post =>
    simp only [step, handle, handleSamlAcs] at h
    split at h
    · exact .inl ⟨r', h, rfl⟩
    · rename_i hs
      rcases mem_samlAcs h with h | ⟨realm, identity, token, hp, ht, hu, hr⟩
      · exact .inl ⟨r', h, rfl⟩
      · exact .inr (.inl ⟨token, realm, _,
          .samlAcs _ _ identity (by simpa using hs) hp rfl ht hu, hr⟩)
  | whoami query cookie =>
    left
    simp only [step, handle] at h
    rcases withRealm_cases with he | he
    · rw [he] at h
      exact ⟨r', h, rfl⟩
    · rw [he] at h
      exact survives_withSession (fun _ _ => rfl) h
  | certify cookie body =>
    left
    simp only [step, handle] at h
    exact survives_withSession (fun _ _ => rfl) h
  | admin query cookie req =>
    left
    simp only [step, handle] at h
    rcases withRealm_cases with he | he
    · rw [he] at h
      exact ⟨r', h, rfl⟩
    · rw [he] at h
      refine survives_withSession ?_ h
      intro s claims
      simp only [handleAdminCall]
      split <;> rfl
  | sessions query cookie req =>
    simp only [step, handle] at h
    cases hrealm : extractRealm s.db query with
    | error answer =>
      simp only [hrealm, withRealm] at h
      exact .inl ⟨r', h, rfl⟩
    | ok realm =>
      simp only [hrealm, withRealm] at h
      rcases mem_withSession h with h | ⟨claims, hc, h⟩
      · exact .inl h
      · rcases mem_handleSessions h with ⟨r, hr, hs⟩ | ⟨body, rfl, hk, hr⟩
        · obtain ⟨r₀, hr₀, hs₀⟩ := mem_cookieAuth hr
          exact .inl ⟨r₀, hr₀, hs₀.trans hs⟩
        · rw [cookieAuth_keys hc] at hk
          exact .inr (.inr ⟨query, cookie, body, rfl, ⟨⟨realm, hrealm⟩, ⟨claims, hc⟩, hk⟩, hr⟩)
  | collector => exact .inl ⟨r', (Relational.Table.mem_deleteWhere.mp h).1, rfl⟩

end

end AuthVerifier
