import AuthVerifier.Authorization
import AuthVerifier.ClaimPolicy

/-!
The `/realms` scope: realm records (`super_admins_endpoints.rs`), credentials
(`realms_endpoints.rs`) and second factors (`totp_endpoints.rs`).
-/

set_option autoImplicit false

namespace AuthVerifier.Endpoints
open Effects
variable (X : Externals)

/-- The IdP fields of accepted SAML settings are those read from the metadata. -/
def checkSamlParams (params : ServerParams) (realm : Realm) : Except AuthError Realm :=
  match realm.authParams.samlParams with
  | none => .ok realm
  | some saml =>
    if realm.id = adminRealm then
      .error (.badRequest ("SAML can't be enabled on the admin realm `_`: SAML is never an "
        ++ "administrator credential"))
    else if params.samlSpConfigured = false then
      .error (.badRequest ("SAML needs a server signing key: set `saml_sp_params` in the "
        ++ "server configuration"))
    else match X.validateSamlParams saml realm.id with
    | .error e => .error e.toAuthError
    | .ok saml => .ok { realm with authParams := { realm.authParams with samlParams := some saml } }

def createRealm (params : ServerParams) (requester : Admin) (realm : Realm) (db : Database) :
    Outcome Database AuthError HttpResponse :=
  if requester.isSuperAdmin = false then
    .error db (.forbidden "Only super admins can create realms")
  else match checkSamlParams X params realm with
  | .error e => .error db e
  | .ok realm => match db.createRealm realm with
    | .error e => .error db (AuthError.ofDb e)
    | .ok db => .ok db { status := 201, body := .realm realm }

def getRealm (requester : Admin) (realmId : String) (db : Database) :
    Outcome Database AuthError HttpResponse :=
  if requester.canAdministerRealm realmId = false then
    .error db (.forbidden "Admin does not have permission to retrieve this realm")
  else match db.getRealm realmId with
  | some realm => .ok db { status := 200, body := .realm realm }
  | none => .error db (.badRequest s!"Realm '{realmId}' not found")

def updateRealm (params : ServerParams) (requester : Admin) (realmId : String) (body : Realm)
    (db : Database) : Outcome Database AuthError HttpResponse :=
  if canManageRealm requester realmId db = false then
    .error db (.forbidden s!"Only administrators of realm '{realmId}' can update it")
  else match checkSamlParams X params { body with id := realmId } with
  | .error e => .error db e
  | .ok realm => .ok (db.updateRealm realm) { status := 200, body := .realm realm }

/-- Deletion stays open to a super admin whoever has claimed the realm. -/
def deleteRealm (requester : Admin) (realmId : String) (db : Database) :
    Outcome Database AuthError HttpResponse :=
  if requester.canAdministerRealm realmId = false then
    .error db (.forbidden
      s!"Only administrators of realm '{realmId}' (or a super admin) can delete it")
  else .ok (db.deleteRealm realmId) { status := 204 }

def listRealms (requester : Admin) (db : Database) : Outcome Database AuthError HttpResponse :=
  let realms := db.listRealms
  let visible := if requester.isSuperAdmin then realms
    else realms.filter (fun r => requester.canAdministerRealm r.id)
  .ok db { status := 200, body := .realms visible }

def credentialsForbidden (realmId : String) : AuthError :=
  .forbidden s!"Only administrators of realm '{realmId}' can manage its credentials"

/-- A credential created in the admin realm enables the login of the administrator it is named
after. -/
def autoLink (db : Database) (realmId username : String) : Outcome Database AuthError Unit :=
  if realmId = adminRealm then
    match db.getAdmin username with
    | none => .ok db ()
    | some admin =>
      if admin.userpass = some username then .ok db ()
      else (db.updateAdmin { admin with userpass := some username }).mapError AuthError.ofDb
  else .ok db ()

/-- A credential deleted in the admin realm is taken off the administrator it is named after. -/
def autoUnlink (db : Database) (realmId username : String) : Outcome Database AuthError Unit :=
  if realmId = adminRealm then
    match db.getAdmin username with
    | none => .ok db ()
    | some admin =>
      if admin.userpass = some username then
        (db.updateAdmin { admin with userpass := none }).mapError AuthError.ofDb
      else .ok db ()
  else .ok db ()

def createdHash (salt : String) : Option PasswordInput → Except AuthError String
  | some (.plaintext plaintext) => match hashPasswordWithArgon2 X salt plaintext with
    | .ok hash => .ok hash
    | .error e => .error (.unexpected s!"Failed to hash password: unexpected error: {e}")
  | some (.hashed hashed) => match validateArgon2PhcString X hashed with
    | .ok () => .ok hashed
    | .error e => .error e
  | none => .error (.badRequest "'password_input' must be provided")

def createUserpass (salt : String) (requester : Admin) (realmId : String) (body : UserPass)
    (db : Database) : Outcome Database AuthError HttpResponse :=
  if canManageRealm requester realmId db = false then .error db (credentialsForbidden realmId)
  else match checkExtraClaims X body.extraClaims with
  | .error e => .error db e
  | .ok () => match createdHash X salt body.passwordInput with
    | .error e => .error db e
    | .ok hash =>
      let userpass := { body with realm := realmId, passwordHash := hash, passwordInput := none }
      match db.createUserpass userpass with
      | .error (.conflict _) => .error db (.conflict
          s!"credentials for '{userpass.username}' already exist in realm '{realmId}' — use PUT to update them")
      | .error e => .error db (AuthError.ofDb e)
      | .ok db => (autoLink db realmId userpass.username).bind fun db () =>
          .ok db { status := 201, body := .userpass { userpass with passwordHash := "" } }

def getUserpass (requester : Admin) (realm username : String) (db : Database) :
    Outcome Database AuthError HttpResponse :=
  if canManageRealm requester realm db = false then .error db (credentialsForbidden realm)
  else match db.getUserpass realm username with
  | some userpass => .ok db { status := 200, body := .userpass { userpass with passwordHash := "" } }
  | none => .error db (.badRequest
      s!"User password entry for '{username}' in realm '{realm}' not found")

def extraClaimsChanged (db : Database) (realm username : String) : Option ExtraClaims → Bool
  | none => false
  | some requested => match db.getUserpass realm username with
    | none => true
    | some existing => match existing.extraClaims with
      | none => true
      | some stored => !stored.isPerm requested

def updateUserpass (salt : String) (requester : Admin) (realm username : String)
    (body : UserPass) (db : Database) : Outcome Database AuthError HttpResponse :=
  if canManageRealm requester realm db = false then .error db (credentialsForbidden realm)
  else match checkExtraClaims X body.extraClaims with
  | .error e => .error db e
  | .ok () =>
    let userpass := { body with realm := realm, username := username, passwordInput := none }
    let answer : HttpResponse :=
      { status := 200, body := .userpass { userpass with passwordHash := "" } }
    match body.passwordInput with
    | none =>
      if extraClaimsChanged db realm username body.extraClaims then
        .error db (.badRequest ("extra_claims cannot be changed without also providing "
          ++ "'password_input' in the same request"))
      else
        .ok (db.updateUserpassMetadata realm username body.changePassword body.roles) answer
    | some (.plaintext plaintext) => match hashPasswordWithArgon2 X salt plaintext with
      | .error e => .error db (.unexpected e)
      | .ok hash => .ok (db.updateUserpass { userpass with passwordHash := hash }) answer
    | some (.hashed hashed) => match validateArgon2PhcString X hashed with
      | .error e => .error db e
      | .ok () => .ok (db.updateUserpass { userpass with passwordHash := hashed }) answer

def deleteUserpass (requester : Admin) (realm username : String) (db : Database) :
    Outcome Database AuthError HttpResponse :=
  if canManageRealm requester realm db = false then .error db (credentialsForbidden realm)
  else (autoUnlink (db.deleteUserpass realm username) realm username).bind fun db () =>
    .ok db { status := 204 }

def listUserpassByRealm (requester : Admin) (realmId : String) (db : Database) :
    Outcome Database AuthError HttpResponse :=
  if canManageRealm requester realmId db = false then .error db (credentialsForbidden realmId)
  else .ok db { status := 200, body := .userpassList (db.listUserpassByRealm realmId) }

def listAllUserpass (requester : Admin) (db : Database) :
    Outcome Database AuthError HttpResponse :=
  if requester.isSuperAdmin = false then
    .error db (.forbidden "Only super admins can list all credentials")
  else
    let claimed := claimedRealms db.listAdmins
    let visible := db.listAllUserpass.filter
      (fun entry => realmManageableGivenClaims requester entry.realm claimed)
    .ok db { status := 200, body := .userpassList visible }

def totpForbidden (realmId : String) : AuthError :=
  .forbidden s!"Only administrators of realm '{realmId}' can manage its TOTP settings"

def totpGenerate (drawn : List UInt8) (requester : Admin) (realmId : String)
    (body : TotpGenerateRequest) (db : Database) : Outcome Database AuthError HttpResponse :=
  if canManageRealm requester realmId db = false then .error db (totpForbidden realmId)
  else match db.getRealm realmId with
  | none => .error db (.badRequest s!"Realm '{realmId}' not found")
  | some realm => match realmTotpParams realm with
    | .error e => .error db e
    | .ok params => match createTotpSecret X drawn (body.issuer.getD realmId) body.username params with
      | .error e => .error db (.totp e)
      | .ok (totps, secret) =>
        .ok db { status := 200, body := .totpGenerated secret (totps.getOtpauthUrl X) }

/-- The checks of `totp_verify` that follow the authorization: the code must match the secret of
the request under the realm's settings. -/
def totpAccepts (now : Int) (realmId : String) (body : TotpVerifyRequest) (db : Database) :
    Except AuthError Unit :=
  match db.getRealm realmId with
  | none => .error (.badRequest s!"Realm '{realmId}' not found")
  | some realm => match realmTotpParams realm with
    | .error e => .error e
    | .ok params =>
      match Totps.fromSecret X body.secret (some (body.issuer.getD realmId)) body.username params with
      | .error e => .error (.totp e)
      | .ok totps =>
        if totps.validateToken X now body.token then .ok ()
        else .error (.forbidden "Invalid TOTP token; code did not match the provided secret")

def totpVerify (now : Int) (requester : Admin) (realmId : String) (body : TotpVerifyRequest)
    (db : Database) : Outcome Database AuthError HttpResponse :=
  if canManageRealm requester realmId db = false then .error db (totpForbidden realmId)
  else match totpAccepts X now realmId body db with
  | .error e => .error db e
  | .ok () => match db.enableTotp X body.username body.secret realmId with
    | .error e => .error db (AuthError.ofDb e)
    | .ok db => .ok db { status := 200, body := .statusOk }

def totpDisable (requester : Admin) (realmId username : String) (db : Database) :
    Outcome Database AuthError HttpResponse :=
  if canManageRealm requester realmId db = false then .error db (totpForbidden realmId)
  else .ok (db.disableTotp username) { status := 204 }

end AuthVerifier.Endpoints
