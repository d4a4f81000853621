import AuthVerifier.Server

/-!
Logging in with a password, through the middlewares of the `/login` scope and the handler. A
request with Basic credentials is authenticated by them or not at all, and the session it gets
carries the roles and extra claims of the credential. The session is stored under the digest of its
token, which is signed with a random number of its own, so that its id is not in use.
-/

set_option autoImplicit false

namespace AuthVerifier
open Effects Relational

section
variable (X : Externals) (params : ServerParams)

/-- The header is of the Basic scheme, whether or not credentials can be read out of it. -/
def IsBasic (header : Option String) : Prop :=
  ∃ text, headerText header = some text ∧
    "basic ".toList.isPrefixOf (text.toList.map Char.toLower) = true

/-- The request names the realm, which takes passwords, and its Basic credentials are those of the
row, whose password has not expired or may have. -/
structure AcceptsPassword (db : Database) (query : String) (header : Option String) (realm : Realm)
    (row : UserPassRow) : Prop where
  named : realmParameter query = some realm.id
  stored : db.getRealm realm.id = some realm
  found : row ∈ db.userpass ∧ row.realm = realm.id
  verified : ∃ password, extractBasicAuthCredentials X header = some (row.username, password) ∧
    verifyPasswordArgon2 X row.password password = .ok ()
  usable : ∃ settings, realm.authParams.usernamePasswordParams = some settings ∧
    (row.changePassword = false ∨ settings.allowExpiredPasswords = true)

def CreatesSession (s : ServerState) (m : Moment) (query : String) (header : Option String)
    (body : LoginRequest) (realmId username : String) : Prop :=
  ∃ r : SessionRow,
    (handleLogin X params s m query header body).1.sessions.rows = s.sessions.rows ++ [r] ∧
      r.realmId = realmId ∧ r.username = username ∧
      r.authScheme = AuthScheme.usernamePassword.json

def WithoutTotp (db : Database) (header : Option String) : Prop :=
  ∀ username password, extractBasicAuthCredentials X header = some (username, password) →
    (db.isTotpEnabled username).getD false = false

end

section
variable {X : Externals} {params : ServerParams} {s : ServerState} {m : Moment} {db : Database}
  {query : String} {header : Option String} {body : LoginRequest}

theorem bearerToken_of_isBasic (h : IsBasic header) {token : String} :
    bearerToken ((headerText header).getD "") ≠ .ok token := by
  obtain ⟨text, htext, hprefix⟩ := h
  rw [htext, Option.getD_some]
  intro hbearer
  unfold bearerToken at hbearer
  split at hbearer
  · rename_i scheme rest hsplit
    split at hbearer
    · rename_i hscheme
      rw [(Text.splitOnce_eq_some_iff.mp hsplit).1, hscheme] at hprefix
      simp at hprefix
    · cases hbearer
  · cases hbearer

theorem validateUserpass_ok_iff {realmId username password : String} {changePassword : Bool} :
    db.validateUserpass X realmId username password = .ok changePassword ↔
      ∃ row ∈ db.userpass, row.realm = realmId ∧ row.username = username ∧
        verifyPasswordArgon2 X row.password password = .ok () ∧
        row.changePassword = changePassword := by
  unfold Database.validateUserpass
  constructor
  · intro h
    split at h
    · cases h
    · rename_i row hrow
      obtain ⟨hmem, hkey⟩ := Table.find?_eq_some_iff.mp hrow
      obtain ⟨hrealm, hname⟩ := Prod.mk.inj hkey
      split at h
      · cases h
      · rename_i hverify
        exact ⟨row, hmem, hrealm, hname, hverify, Except.ok.inj h⟩
  · rintro ⟨row, hmem, rfl, rfl, hverify, rfl⟩
    have hrow : db.userpass.find? (row.realm, row.username) = some row :=
      Table.find?_eq_some_iff.mpr ⟨hmem, rfl⟩
    simp only [hrow, hverify]

theorem usernamePasswordAuth_some_iff {realm : Option Realm} {client : AuthenticatedClientScheme} :
    usernamePasswordAuth X db realm header none = .ok (some client) ↔
      ∃ rlm settings password changePassword, realm = some rlm ∧
        rlm.authParams.usernamePasswordParams = some settings ∧
        extractBasicAuthCredentials X header = some (client.username, password) ∧
        db.validateUserpass X rlm.id client.username password = .ok changePassword ∧
        (changePassword = false ∨ settings.allowExpiredPasswords = true) ∧
        client.authScheme = .usernamePassword := by
  unfold usernamePasswordAuth
  constructor
  · intro h
    dsimp only at h
    split at h
    · cases h
    · rename_i username password hcredentials
      split at h
      · cases h
      · rename_i rlm
        split at h
        · cases h
        · rename_i settings hsettings
          split at h
          · rename_i hvalid
            split at h
            · rename_i hallowed
              cases h
              exact ⟨rlm, settings, password, true, rfl, hsettings, hcredentials, hvalid,
                .inr hallowed, rfl⟩
            · cases h
          · rename_i hvalid
            cases h
            exact ⟨rlm, settings, password, false, rfl, hsettings, hcredentials, hvalid,
              .inl rfl, rfl⟩
          · cases h
  · obtain ⟨username, scheme⟩ := client
    rintro ⟨rlm, settings, password, changePassword, rfl, hsettings, hcredentials, hvalid, husable,
      hscheme⟩
    dsimp only at hcredentials hvalid hscheme
    subst hscheme
    simp only [hcredentials, hsettings, hvalid]
    cases changePassword with
    | false => rfl
    | true => simpa using husable

theorem extractRealm_some_iff {realm : Realm} :
    extractRealm db query = .ok (some realm) ↔
      realmParameter query = some realm.id ∧ db.getRealm realm.id = some realm := by
  unfold extractRealm
  cases hid : realmParameter query with
  | none => simp
  | some id =>
    dsimp only
    constructor
    · intro h
      split at h
      · rename_i hget
        cases h
        obtain ⟨-, rfl⟩ := Table.find?_eq_some_iff.mp hget
        exact ⟨rfl, hget⟩
      · cases h
    · rintro ⟨hsame, hget⟩
      cases hsame
      rw [hget]

theorem usernamePassword_accepts_iff {realm : Realm} {username : String} :
    (∃ row, AcceptsPassword X db query header realm row ∧ row.username = username) ↔
      extractRealm db query = .ok (some realm) ∧
        usernamePasswordAuth X db (some realm) header none =
          .ok (some ⟨username, .usernamePassword⟩) := by
  rw [extractRealm_some_iff, usernamePasswordAuth_some_iff]
  constructor
  · rintro ⟨row, h, rfl⟩
    obtain ⟨password, hcredentials, hverify⟩ := h.verified
    obtain ⟨settings, hsettings, husable⟩ := h.usable
    refine ⟨⟨h.named, h.stored⟩, realm, settings, password, row.changePassword, rfl, hsettings,
      hcredentials, ?_, husable, rfl⟩
    exact validateUserpass_ok_iff.mpr ⟨row, h.found.1, h.found.2, rfl, hverify, rfl⟩
  · rintro ⟨⟨hnamed, hstored⟩, _, settings, password, changePassword, hrealm, hsettings,
      hcredentials, hvalid, husable, -⟩
    cases hrealm
    obtain ⟨row, hrow, hid, rfl, hverify, rfl⟩ := validateUserpass_ok_iff.mp hvalid
    exact ⟨row, { named := hnamed, stored := hstored, found := ⟨hrow, hid⟩,
                  verified := ⟨password, hcredentials, hverify⟩,
                  usable := ⟨settings, hsettings, husable⟩ }, rfl⟩

theorem jwtAuth_some {cache : JwksCache} {realm : Option Realm} {client : AuthenticatedClientScheme}
    (h : (jwtAuth X cache m realm header none).2 = some client) :
    client.authScheme = .jwt ∧ ¬ IsBasic header := by
  unfold jwtAuth at h
  dsimp only at h
  split at h
  · cases h
  · split at h
    · cases h
    · rename_i jwtParams _
      split at h
      · rename_i hjwt
        cases h
        unfold handleJwt at hjwt
        split at hjwt
        · cases hjwt
        · rename_i hclaims
          split at hjwt
          · cases hjwt
          · cases hjwt
            refine ⟨rfl, fun hbasic => ?_⟩
            unfold tryClientClaimsFromToken at hclaims
            split at hclaims
            · cases hclaims
            · rename_i hbearer
              exact bearerToken_of_isBasic hbasic hbearer
      · cases h

theorem ensureAuth_ok_iff {client : Option AuthenticatedClientScheme}
    {client' : AuthenticatedClientScheme} :
    ensureAuth client = .ok client' ↔ client = some client' := by
  cases client with
  | none => simp [ensureAuth]
  | some c => simp [ensureAuth]

theorem primaryAuth_ok_cases {cache : JwksCache} {realm : Option Realm}
    {client : AuthenticatedClientScheme}
    (h : (primaryAuth X db cache m query header).result = .ok (realm, client)) :
    (∃ rlm row, realm = some rlm ∧ AcceptsPassword X db query header rlm row ∧
      client = ⟨row.username, .usernamePassword⟩) ∨
    (client.authScheme = .jwt ∧ ¬ IsBasic header) := by
  unfold primaryAuth at h
  split at h
  · cases h
  · rename_i realm' hrealm
    split at h
    · cases h
    · rename_i client' hclient
      dsimp only at h
      split at h
      · cases h
      · rename_i client'' hensure
        cases h
        cases client' with
        | none => exact .inr (jwtAuth_some (ensureAuth_ok_iff.mp hensure))
        | some authenticated =>
          cases ensureAuth_ok_iff.mp hensure
          obtain ⟨rlm, _, _, _, rfl, -, -, -, -, hscheme⟩ := usernamePasswordAuth_some_iff.mp hclient
          obtain ⟨username, scheme⟩ := client
          dsimp only at hscheme
          subst hscheme
          obtain ⟨row, haccepts, rfl⟩ := usernamePassword_accepts_iff.mpr ⟨hrealm, hclient⟩
          exact .inl ⟨rlm, row, rfl, haccepts, rfl⟩

theorem AcceptsPassword.primaryAuth {cache : JwksCache} {realm : Realm} {row : UserPassRow}
    (h : AcceptsPassword X db query header realm row) :
    AuthVerifier.primaryAuth X db cache m query header =
      .ok cache (some realm, ⟨row.username, .usernamePassword⟩) := by
  obtain ⟨hrealm, hpassword⟩ := usernamePassword_accepts_iff.mp ⟨row, h, rfl⟩
  simp only [AuthVerifier.primaryAuth, hrealm, hpassword, jwtAuth, ensureAuth]

theorem AcceptsPassword.grantedClaims {realm : Realm} {row : UserPassRow}
    (h : AcceptsPassword X db query header realm row) :
    AuthVerifier.grantedClaims db realm ⟨row.username, .usernamePassword⟩ =
      (row.roles, row.extraClaims.getD []) := by
  have hrow : db.userpass.find? (realm.id, row.username) = some row :=
    Table.find?_eq_some_iff.mpr ⟨h.found.1, by rw [← h.found.2]; rfl⟩
  simp only [AuthVerifier.grantedClaims, if_true, Database.getUserpass, hrow, Option.map_some]
  rfl

theorem AcceptsPassword.handleLogin {realm : Realm} {row : UserPassRow}
    (h : AcceptsPassword X s.db query header realm row) (htotp : WithoutTotp X s.db header) :
    (AuthVerifier.handleLogin X params s m query header body).1.sessions =
      (issueSession X params m s.sessions realm ⟨row.username, .usernamePassword⟩ row.roles
        (row.extraClaims.getD [])).state := by
  obtain ⟨password, hcredentials, -⟩ := h.verified
  have hfactor : secondFactor X m s.db realm ⟨row.username, .usernamePassword⟩ body = .ok () := by
    unfold secondFactor
    rw [if_pos (htotp row.username password hcredentials)]
  simp only [AuthVerifier.handleLogin, h.primaryAuth, Outcome.ok_result]
  rw [login_state, hfactor]
  simp only [h.grantedClaims]

theorem CreatesSession.accepted {realmId username : String}
    (h : CreatesSession X params s m query header body realmId username) :
    ∃ realm row, AcceptsPassword X s.db query header realm row ∧ realm.id = realmId ∧
      row.username = username := by
  obtain ⟨r, hrows, rfl, rfl, hscheme⟩ := h
  have hunchanged : s.sessions.rows ≠ s.sessions.rows ++ [r] := by simp
  unfold handleLogin at hrows
  dsimp only at hrows
  split at hrows
  · exact absurd hrows hunchanged
  · rename_i realm client hauth
    cases realm with
    | none => exact absurd hrows hunchanged
    | some realm =>
      dsimp only at hrows
      rw [login_state] at hrows
      split at hrows
      · exact absurd hrows hunchanged
      · cases hissued : (issueSession X params m s.sessions realm client
            (grantedClaims s.db realm client).1 (grantedClaims s.db realm client).2).result with
        | error e =>
          rw [issueSession_error hissued] at hrows
          exact absurd hrows hunchanged
        | ok issued =>
          obtain ⟨token, htoken⟩ := issueSession_ok hissued
          obtain rfl : issuedRow X params m realm client token = r := by
            simpa [htoken] using hrows
          have hpassword := AuthScheme.json_injective hscheme
          rcases primaryAuth_ok_cases hauth with ⟨_, row, hrealm, haccepts, rfl⟩ | ⟨hjwt, -⟩
          · cases hrealm
            exact ⟨realm, row, haccepts, rfl, rfl⟩
          · rw [hpassword] at hjwt
            cases hjwt

end

namespace Transparent

def signing : Externals :=
  { externals with signSession := fun nonce claims => .ok (writeToken nonce claims) }

def rootHeader : Option String := some "Basic YWRtaW46Y2hhbmdlX21l"

end Transparent
end AuthVerifier
