import AuthVerifier.Middleware

/-!
Logging in, following `client_endpoints.rs` and the assertion consumer of `saml/endpoints.rs`:
the primary credential, the second factor, and the session that is issued.
-/

set_option autoImplicit false

namespace AuthVerifier
open Effects

section
variable (X : Externals) (params : ServerParams)

/-- The middlewares of the `/login` scope. -/
def primaryAuth (db : Database) (cache : JwksCache) (m : Moment) (query : String)
    (header : Option String) :
    Outcome JwksCache Answer (Option Realm × AuthenticatedClientScheme) :=
  match extractRealm db query with
  | .error answer => .error cache answer
  | .ok realm => match usernamePasswordAuth X db realm header none with
    | .error answer => .error cache answer
    | .ok client => match jwtAuth X cache m realm header client with
      | (cache, client) => match ensureAuth client with
        | .error answer => .error cache answer
        | .ok client => .ok cache (realm, client)

/-- The TOTP check of `login`: it raises an answer, or lets the login go on. -/
def secondFactor (m : Moment) (db : Database) (realm : Realm) (client : AuthenticatedClientScheme)
    (body : LoginRequest) : Except Answer Unit :=
  if (db.isTotpEnabled client.username).getD false = false then .ok ()
  else match body.totpCode with
    | none => .error (.ok { status := 200, body := .authentication none .totpRequired })
    | some code => match db.getTotpSecret client.username with
      | none => .error (.error (.session "TOTP is enabled but no secret is stored"))
      | some secret => match realmTotpParams realm with
        | .error e => .error (.error e)
        | .ok totpParams =>
          match Totps.fromSecret X secret none client.username totpParams with
          | .error e => .error (.error (.totp e))
          | .ok totps =>
            if totps.validateToken X m.now code then .ok ()
            else .error (unauthorized "Invalid TOTP code")

/-- Roles and extra claims go with the credential that was checked, never with a namesake. -/
def grantedClaims (db : Database) (realm : Realm) (client : AuthenticatedClientScheme) :
    List String × ExtraClaims :=
  if client.authScheme = .usernamePassword then
    match db.getUserpass realm.id client.username with
    | some up => (up.roles, up.extraClaims.getD [])
    | none => ([], [])
  else ([], [])

/-- Signs a token and stores its session; the answer is the session id and the cookie. -/
def issueSession (m : Moment) (sessions : Sessions) (realm : Realm)
    (client : AuthenticatedClientScheme) (roles : List String) (extra : ExtraClaims) :
    Outcome Sessions AuthError (String × String) :=
  match issueToken X m client.username client.authScheme realm.id roles extra
      realm.sessionMaxAgeSeconds with
  | .error e => .error sessions e
  | .ok token =>
    let cookie := buildCookie X token realm.sessionMaxAgeSeconds params.tlsConfigured
    let sessionId := sessionIdFromCookieValue X token
    match SessionStore.upsertSession sessions m.now sessionId realm client cookie with
    | .error e => .error sessions e
    | .ok sessions => .ok sessions (sessionId, cookie)

/-- The rest of `login` once the second factor is settled. -/
def completeLogin (m : Moment) (db : Database) (sessions : Sessions) (realm : Realm)
    (client : AuthenticatedClientScheme) : Outcome Sessions AuthError HttpResponse :=
  let granted := grantedClaims db realm client
  (issueSession X params m sessions realm client granted.1 granted.2).bind
    fun sessions issued => .ok sessions
      { status := 200, body := .authentication (some issued.1) .authenticated,
        setCookie := some issued.2 }

def login (m : Moment) (db : Database) (sessions : Sessions) (realm : Option Realm)
    (client : Option AuthenticatedClientScheme) (body : LoginRequest) :
    Outcome Sessions AuthError HttpResponse :=
  match realm with
  | none => .error sessions (.session "no realm found in request")
  | some realm => match client with
    | none => .error sessions (.session "no authenticated client found in request")
    | some client => match secondFactor X m db realm client body with
      | .error answer => ⟨sessions, answer⟩
      | .ok () => completeLogin X params m db sessions realm client

/-- An identity provider's response: whether it comes back to the browser that asked for it, and
what taking the pending request and validating the assertion made of it. -/
structure SamlPost where
  bound : Bool
  validated : Except AuthError SamlIdentity

def samlRealm (db : Database) (realmId : String) : Except AuthError Realm :=
  match db.getRealm realmId with
  | some realm =>
    if realm.authParams.samlParams.isSome then .ok realm
    else .error (.badRequest s!"realm '{realmId}' does not exist or does not use SAML")
  | none => .error (.badRequest s!"realm '{realmId}' does not exist or does not use SAML")

def consumeResponse (db : Database) (realmId : String) (post : SamlPost) :
    Except AuthError (Realm × SamlIdentity) :=
  if post.bound = false then .error (.saml "this sign-in was not started from this browser")
  else match samlRealm db realmId with
    | .error e => .error e
    | .ok realm => match post.validated with
      | .error e => .error e
      | .ok identity => .ok (realm, identity)

def samlAcs (m : Moment) (db : Database) (sessions : Sessions) (realmId : String)
    (post : SamlPost) : Outcome Sessions AuthError HttpResponse :=
  match consumeResponse db realmId post with
  | .error e => .error sessions e
  | .ok (realm, identity) =>
    let client : AuthenticatedClientScheme := { username := identity.subject, authScheme := .saml }
    (issueSession X params m sessions realm client identity.roles identity.extraClaims).bind
      fun sessions issued => .ok sessions { status := 200, setCookie := some issued.2 }

def issuedRow (m : Moment) (realm : Realm) (client : AuthenticatedClientScheme) (token : String) :
    SessionRow :=
  newSession m.now (sessionIdFromCookieValue X token) realm client
    (buildCookie X token realm.sessionMaxAgeSeconds params.tlsConfigured)

end

section
variable {X : Externals} {params : ServerParams} {m : Moment} {db : Database} {sessions : Sessions}
  {client : AuthenticatedClientScheme}

theorem mem_issueSession {realm : Realm} {roles : List String} {extra : ExtraClaims}
    {r : SessionRow} (h : r ∈ (issueSession X params m sessions realm client roles extra).state) :
    r ∈ sessions ∨ ∃ token,
      issueToken X m client.username client.authScheme realm.id roles extra
        realm.sessionMaxAgeSeconds = .ok token ∧
      sessionIdFromCookieValue X token ∉ sessions.keys ∧
      r = issuedRow X params m realm client token := by
  unfold issueSession at h
  split at h
  · exact .inl h
  · rename_i token htoken
    dsimp only at h
    split at h
    · exact .inl h
    · rename_i sessions' hs
      obtain ⟨hunused, hmem⟩ := SessionStore.upsertSession_ok hs
      rcases (hmem r).mp h with h | h
      · exact .inl h
      · exact .inr ⟨token, htoken, hunused, h⟩

theorem issueSession_ok {realm : Realm} {roles : List String} {extra : ExtraClaims}
    {issued : String × String}
    (h : (issueSession X params m sessions realm client roles extra).result = .ok issued) :
    ∃ token, (issueSession X params m sessions realm client roles extra).state.rows =
      sessions.rows ++ [issuedRow X params m realm client token] := by
  unfold issueSession at h ⊢
  split at h
  · cases h
  · rename_i token htoken
    dsimp only at h ⊢
    split at h
    · cases h
    · rename_i sessions' hs
      unfold SessionStore.upsertSession at hs
      split at hs
      · cases hs
      · cases hs
        exact ⟨token, rfl⟩

theorem issueSession_error {realm : Realm} {roles : List String} {extra : ExtraClaims} {e : AuthError}
    (h : (issueSession X params m sessions realm client roles extra).result = .error e) :
    (issueSession X params m sessions realm client roles extra).state = sessions := by
  unfold issueSession at h ⊢
  split at h
  · rfl
  · dsimp only at h ⊢
    split at h
    · rfl
    · cases h

theorem login_state {realm : Realm} {body : LoginRequest} :
    (login X params m db sessions (some realm) (some client) body).state =
      match secondFactor X m db realm client body with
      | .error _ => sessions
      | .ok () => (issueSession X params m sessions realm client
          (grantedClaims db realm client).1 (grantedClaims db realm client).2).state := by
  simp only [login]
  split
  · rfl
  · exact Outcome.bind_state_eq (fun _ _ => rfl)

theorem mem_login {realm : Option Realm} {client : Option AuthenticatedClientScheme}
    {body : LoginRequest} {r : SessionRow}
    (h : r ∈ (login X params m db sessions realm client body).state) :
    r ∈ sessions ∨ ∃ rlm c token roles extra, realm = some rlm ∧ client = some c ∧
      secondFactor X m db rlm c body = .ok () ∧
      issueToken X m c.username c.authScheme rlm.id roles extra rlm.sessionMaxAgeSeconds =
        .ok token ∧
      sessionIdFromCookieValue X token ∉ sessions.keys ∧
      r = issuedRow X params m rlm c token := by
  cases realm with
  | none => exact .inl h
  | some rlm =>
    cases client with
    | none => exact .inl h
    | some c =>
      rw [login_state] at h
      split at h
      · exact .inl h
      · rename_i hf
        rcases mem_issueSession h with h | ⟨token, ht, hunused, he⟩
        · exact .inl h
        · exact .inr ⟨rlm, c, token, _, _, rfl, rfl, hf, ht, hunused, he⟩

theorem mem_samlAcs {realmId : String} {post : SamlPost} {r : SessionRow}
    (h : r ∈ (samlAcs X params m db sessions realmId post).state) :
    r ∈ sessions ∨ ∃ realm identity token,
      consumeResponse db realmId post = .ok (realm, identity) ∧
      issueToken X m identity.subject .saml realm.id identity.roles identity.extraClaims
        realm.sessionMaxAgeSeconds = .ok token ∧
      sessionIdFromCookieValue X token ∉ sessions.keys ∧
      r = issuedRow X params m realm { username := identity.subject, authScheme := .saml }
        token := by
  unfold samlAcs at h
  split at h
  · exact .inl h
  · rename_i realm identity hc
    rw [Outcome.bind_state_eq (fun _ _ => rfl)] at h
    rcases mem_issueSession h with h | ⟨token, ht, hunused, he⟩
    · exact .inl h
    · exact .inr ⟨realm, identity, token, hc, ht, hunused, he⟩

theorem primaryAuth_ok {cache : JwksCache} {query : String} {header : Option String}
    {realm : Option Realm}
    (h : (primaryAuth X db cache m query header).result = .ok (realm, client)) :
    extractRealm db query = .ok realm := by
  unfold primaryAuth at h
  split at h
  · cases h
  · rename_i realm' hr
    split at h
    · cases h
    · dsimp only at h
      split at h
      · cases h
      · cases h
        exact hr

end

end AuthVerifier
