import AuthVerifier.Database
import AuthVerifier.Jwks
import AuthVerifier.Lib.Outcome
import AuthVerifier.SessionStore

/-!
The middlewares in front of the handlers, following `middleware/*.rs`. A middleware that answers
in place of the handler raises its `Answer`; the others hand on what they put into the request
extensions.
-/

set_option autoImplicit false

namespace AuthVerifier
open Effects

abbrev Answer := Except AuthError HttpResponse

def unauthorized (text : String) : Answer := .ok { status := 401, body := .message text }

/-- What `HeaderValue::to_str` makes of a header: visible ASCII and tabs only. -/
def headerText (header : Option String) : Option String :=
  header.filter (fun h => h.toList.all (fun c => (32 ≤ c.toNat && c.toNat < 127) || c == '\t'))

/-- The first `realm=` parameter of the query string, taken as it stands. -/
def realmParameter (query : String) : Option String :=
  (Text.splitAll '&' query.toList).findSome? fun param =>
    match Text.splitOnce '=' param with
    | some (key, value) => if key = "realm".toList then some (String.ofList value) else none
    | none => none

def extractRealm (db : Database) (query : String) : Except Answer (Option Realm) :=
  match realmParameter query with
  | none => .ok none
  | some id => match db.getRealm id with
    | some realm => .ok (some realm)
    | none => .error (unauthorized "Invalid authentication realm")

def injectAdminRealm (db : Database) : Except Answer (Option Realm) :=
  match db.getRealm adminRealm with
  | some realm => .ok (some realm)
  | none => .error (unauthorized "Admin realm not found")

section
variable (X : Externals)

def extractBasicAuthCredentials (header : Option String) : Option (String × String) :=
  match headerText header with
  | none => none
  | some auth =>
    if !"basic ".toList.isPrefixOf (auth.toList.map Char.toLower) then none
    else match X.base64Utf8 (String.ofList (Text.trim (auth.toList.drop 6))) with
      | none => none
      | some credentials => match Text.splitOnce ':' credentials.toList with
        | none => none
        | some (username, password) =>
          if username.isEmpty then none
          else some (String.ofList username, String.ofList password)

def usernamePasswordAuth (db : Database) (realm : Option Realm) (header : Option String)
    (client : Option AuthenticatedClientScheme) :
    Except Answer (Option AuthenticatedClientScheme) :=
  match client with
  | some client => .ok (some client)
  | none => match extractBasicAuthCredentials X header with
    | none => .ok none
    | some (username, password) => match realm with
      | none => .ok none
      | some realm => match realm.authParams.usernamePasswordParams with
        | none => .ok none
        | some params => match db.validateUserpass X realm.id username password with
          | .ok true =>
            if params.allowExpiredPasswords then
              .ok (some { username := username, authScheme := .usernamePassword })
            else .error (.ok { status := 403, body := .message "Password expired" })
          | .ok false => .ok (some { username := username, authScheme := .usernamePassword })
          | .error _ => .error (unauthorized "Authentication service error")

def jwtAuth (cache : JwksCache) (m : Moment) (realm : Option Realm) (header : Option String)
    (client : Option AuthenticatedClientScheme) :
    JwksCache × Option AuthenticatedClientScheme :=
  match client with
  | some client => (cache, some client)
  | none => match realm with
    | none => (cache, none)
    | some realm => match realm.authParams.jwtParams with
      | none => (cache, none)
      | some params =>
        let cache := ensureRealmJwksIsManaged cache m realm.id params
        match handleJwt X cache m realm.id params ((headerText header).getD "") with
        | (cache, .ok client) => (cache, some client)
        | (cache, .error _) => (cache, none)

def ensureAuth (client : Option AuthenticatedClientScheme) :
    Except Answer AuthenticatedClientScheme :=
  match client with
  | some client => .ok client
  | none => .error (unauthorized "No authentication provided.")

/-- The claims are those of the token inside the stored cookie, not of the one presented. -/
def cookieAuth (sessions : Sessions) (m : Moment) (cookie : Option String) :
    Outcome Sessions AuthError ClientClaims :=
  match cookie with
  | none => .error sessions (.session "No session cookie found")
  | some value =>
    match SessionStore.getSession sessions m.now (sessionIdFromCookieValue X value) with
    | (sessions, none) => .error sessions (.session "Invalid session cookie")
    | (sessions, some data) => match X.cookieFromStr data.cookieString with
      | .error e => .error sessions (.unexpected
          s!"Failed parsing the session cookie from the store: {e}")
      | .ok token => ⟨sessions, validateToken X m.now token⟩

def adminAuth (db : Database) (claims : ClientClaims) : Except AuthError Admin :=
  match claims.privateClaims.authScheme with
  | none => .error (.session "No auth scheme found in token claims")
  | some scheme => match claims.registered.sub with
    | none => .error (.session "No subject (username) found in token claims")
    | some value => match db.findAdminsByAuthScheme X scheme value with
      | admin :: _ => .ok admin
      | [] => .error (.session "No admin found for the given auth scheme and value")

end

section
variable {X : Externals}

theorem cookieAuth_ok {sessions : Sessions} {m : Moment} {cookie : Option String}
    {claims : ClientClaims} (h : (cookieAuth X sessions m cookie).result = .ok claims) :
    ∃ value token, ∃ r ∈ sessions, cookie = some value ∧
      r.sessionId = sessionIdFromCookieValue X value ∧
      SessionStore.expired m.now r = false ∧
      X.cookieFromStr r.cookieString = .ok token ∧ validateToken X m.now token = .ok claims := by
  cases cookie with
  | none => cases h
  | some value =>
    simp only [cookieAuth] at h
    split at h
    · cases h
    · rename_i data hget
      obtain ⟨r, hr, hid, hlive, rfl⟩ :=
        SessionStore.getSession_some (congrArg Prod.snd hget)
      split at h
      · cases h
      · rename_i token htoken
        exact ⟨value, token, r, hr, rfl, hid, hlive, htoken, h⟩

theorem cookieAuth_state (sessions : Sessions) (m : Moment) (cookie : Option String) :
    (cookieAuth X sessions m cookie).state = match cookie with
      | none => sessions
      | some value =>
        (SessionStore.getSession sessions m.now (sessionIdFromCookieValue X value)).1 := by
  cases cookie with
  | none => rfl
  | some value =>
    simp only [cookieAuth]
    split
    · rename_i hget
      rw [hget]
      rfl
    · rename_i hget
      rw [hget]
      split
      · rfl
      · rfl

theorem cookieAuth_keys {sessions : Sessions} {m : Moment} {cookie : Option String}
    {claims : ClientClaims} (h : (cookieAuth X sessions m cookie).result = .ok claims) :
    (cookieAuth X sessions m cookie).state.keys = sessions.keys := by
  rw [cookieAuth_state]
  cases cookie with
  | none => rfl
  | some value =>
    simp only [cookieAuth] at h
    split at h
    · cases h
    · rename_i hget
      exact SessionStore.getSession_keys (congrArg Prod.snd hget)

theorem mem_cookieAuth {sessions : Sessions} {m : Moment} {cookie : Option String}
    {r' : SessionRow} (h : r' ∈ (cookieAuth X sessions m cookie).state) :
    ∃ r ∈ sessions, SessionStore.SameSession r r' := by
  rw [cookieAuth_state] at h
  cases cookie with
  | none => exact ⟨r', h, rfl⟩
  | some value => exact SessionStore.mem_getSession h

theorem adminAuth_ok {db : Database} {claims : ClientClaims} {admin : Admin}
    (h : adminAuth X db claims = .ok admin) :
    ∃ scheme value, claims.privateClaims.authScheme = some scheme ∧
      claims.registered.sub = some value ∧
      (db.findAdminsByAuthScheme X scheme value).head? = some admin := by
  unfold adminAuth at h
  split at h
  · cases h
  · rename_i scheme hs
    split at h
    · cases h
    · rename_i value hv
      split at h
      · rename_i hl
        cases h
        exact ⟨scheme, value, hs, hv, by rw [hl]; rfl⟩
      · cases h

end

end AuthVerifier
