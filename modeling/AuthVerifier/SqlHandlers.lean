import AuthVerifier.AdminStatements
import AuthVerifier.Login
import AuthVerifier.SqlQueries

/-!
The administration API and the lookups of a login as programs of SQL statements, for an engine yet
to be chosen. On the engine of `Database` they do what the handlers do.
-/

set_option autoImplicit false

namespace AuthVerifier
open Effects Relational Schedule

abbrev QueryProg (α : Type) := Prog Query.Answer α

namespace Queries
open Prog

def fromInsert (conflict : String) : Except SqlError Unit → Except AuthDbError Unit
  | .ok () => .ok ()
  | .error .primaryKey => .error (.conflict conflict)
  | .error e => .error (.sql e)

def createRealm (realm : Realm) : QueryProg (Except AuthDbError Unit) :=
  (call (Query.insertRealm realm)).bind fun inserted =>
    .done (fromInsert s!"realm '{realm.id}' already exists" inserted)

def getRealm (id : String) : QueryProg (Option Realm) := call (Query.selectRealm id)
def updateRealm (realm : Realm) : QueryProg Unit := call (Query.updateRealm realm)
def deleteRealm (id : String) : QueryProg Unit := call (Query.deleteRealm id)
def listRealms : QueryProg (List Realm) := call Query.selectRealms

def createUserpass (u : UserPass) : QueryProg (Except AuthDbError Unit) :=
  (call (Query.insertUserpass u)).bind fun inserted => .done (fromInsert
    s!"credentials for '{u.username}' already exist in realm '{u.realm}'" inserted)

def getUserpass (realm username : String) : QueryProg (Option UserPass) :=
  (call (Query.selectUserpass realm username)).bind fun row =>
    .done (Option.map (fun r => UserPassRow.toUserPass r "") row)

def updateUserpass (u : UserPass) : QueryProg Unit := call (Query.updateUserpass u)

def updateUserpassMetadata (realm username : String) (changePassword : Bool)
    (roles : List String) : QueryProg Unit :=
  call (Query.updateUserpassMetadata realm username changePassword roles)

def deleteUserpass (realm username : String) : QueryProg Unit :=
  call (Query.deleteUserpass realm username)

def deleteUserpassByUsername (username : String) : QueryProg Unit :=
  call (Query.deleteUserpassByUsername username)

def toUserPasses (rows : List UserPassRow) : List UserPass :=
  rows.map fun r => r.toUserPass r.password

def listUserpassByRealm (realm : String) : QueryProg (List UserPass) :=
  (call (Query.selectUserpassByRealm realm)).bind fun rows => .done (toUserPasses rows)

def listAllUserpass : QueryProg (List UserPass) :=
  (call Query.selectAllUserpass).bind fun rows => .done (toUserPasses rows)

def insertMemberships (adminId : String) : List String → QueryProg (Except AuthDbError Unit)
  | [] => .done (.ok ())
  | r :: rs => (call (Query.insertMembership adminId r)).bind fun
    | .error e => .done (.error (.sql e))
    | .ok () => insertMemberships adminId rs

def createAdmin (admin : Admin) : QueryProg (Except AuthDbError Unit) :=
  (call (Query.insertAdmin admin)).bind fun inserted =>
    match fromInsert s!"admin '{admin.id}' already exists" inserted with
    | .error e => .done (.error e)
    | .ok () => insertMemberships admin.id admin.realms

def getAdmin (id : String) : QueryProg (Option Admin) :=
  (call (Query.selectAdmin id)).bind fun
    | none => .done none
    | some row => (call (Query.selectMemberships id)).bind fun realms =>
      .done (some (Statements.adminOf row realms))

def updateAdmin (admin : Admin) : QueryProg (Except AuthDbError Unit) :=
  (call (Query.updateAdmin admin)).bind fun _ =>
    (call (Query.deleteMemberships admin.id)).bind fun _ =>
      insertMemberships admin.id admin.realms

def deleteAdmin (id : String) : QueryProg Unit := call (Query.deleteAdmin id)

def listAdmins : QueryProg (List Admin) :=
  (call Query.selectAdmins).bind fun rows => forEach (fun row : AdminRow =>
    (call (Query.selectMemberships row.id)).bind fun realms =>
      .done (Statements.adminOf row realms)) rows

/-- `find_admins_by_auth_scheme` for a user name. -/
def findAdminsByUserpass (username : String) : QueryProg (List Admin) :=
  (call (Query.selectAdminIdsByUserpass username)).bind fun ids =>
    (forEach getAdmin ids).bind fun admins => .done (admins.filterMap id)

def disableTotp (username : String) : QueryProg Unit := call (Query.disableTotp username)

def canManageRealm (requester : Admin) (realmId : String) : QueryProg Bool :=
  if requester.realms.contains realmId then .done true
  else if !requester.isSuperAdmin then .done false
  else listAdmins.bind fun admins =>
    .done (!(admins.any (fun a => a.realms.contains realmId)))

def canManageAll (requester : Admin) : List String → QueryProg Bool
  | [] => .done true
  | r :: rs => (canManageRealm requester r).bind fun allowed =>
    if allowed then canManageAll requester rs else .done false

def canManageAdminRealms (requester : Admin) (realms : List String) : QueryProg Bool :=
  if realms.isEmpty then .done requester.isSuperAdmin else canManageAll requester realms

end Queries

namespace QueryHandlers
open Prog Queries

abbrev Response := Statements.Response

def answer (response : HttpResponse) : Except AuthDbError Unit → Response
  | .error e => .error (AuthError.ofDb e)
  | .ok () => .ok response

def storeAdmin (admin : Admin) : QueryProg Response :=
  (Queries.updateAdmin admin).bind fun stored =>
    .done (answer { status := 200, body := .admin admin } stored)

def createAdmin (requester admin : Admin) : QueryProg Response :=
  (Queries.canManageAdminRealms requester admin.realms).bind fun
    | false => .done (.error (.forbidden ("Realm admins can only create admins that belong "
        ++ "exclusively to their administered realms, and super admins can only do so for realms "
        ++ "that have no admin of their own yet")))
    | true => (Queries.createAdmin admin).bind fun created =>
      .done (answer { status := 201, body := .admin admin } created)

def getAdmin (requester : Admin) (adminId : String) : QueryProg Response :=
  (Queries.getAdmin adminId).bind fun
    | none => .done (.error (Endpoints.adminNotFound adminId))
    | some target => (Queries.canManageAdminRealms requester target.realms).bind fun
      | false => .done (.error (Endpoints.notExclusivelyOwned adminId))
      | true => .done (.ok { status := 200, body := .admin target })

def updateAdmin (requester : Admin) (adminId : String) (body : Admin) : QueryProg Response :=
  (Queries.getAdmin adminId).bind fun
    | none => .done (.error (Endpoints.adminNotFound adminId))
    | some target => (Queries.canManageAdminRealms requester target.realms).bind fun
      | false => .done (.error (Endpoints.notExclusivelyOwned adminId))
      | true => (Queries.canManageAdminRealms requester body.realms).bind fun
        | false => .done (.error (.forbidden
            "Realm admins can only assign admins to realms they administer"))
        | true => storeAdmin { body with id := adminId }

def deleteAdmin (requester : Admin) (adminId : String) : QueryProg Response :=
  (Queries.getAdmin adminId).bind fun
    | none =>
      if requester.isSuperAdmin = false then .done (.error (Endpoints.adminNotFound adminId))
      else (Queries.deleteAdmin adminId).bind fun _ => .done (.ok { status := 204 })
    | some target => (Queries.canManageAdminRealms requester target.realms).bind fun
      | false => .done (.error (Endpoints.notExclusivelyOwned adminId))
      | true => (Queries.deleteAdmin adminId).bind fun _ => match target.userpass with
        | none => .done (.ok { status := 204 })
        | some username => (deleteUserpassByUsername username).bind fun _ =>
          .done (.ok { status := 204 })

def listAdmins (requester : Admin) : QueryProg Response :=
  if requester.isSuperAdmin = false then
    .done (.error (.forbidden "Only super admins can list admins"))
  else Queries.listAdmins.bind fun admins => .done (.ok
    { status := 200
      body := .admins (admins.filter (Endpoints.adminVisible requester (claimedRealms admins))) })

def addAdminToRealm (requester : Admin) (adminId realmId : String) : QueryProg Response :=
  (Queries.canManageRealm requester realmId).bind fun
    | false => .done (.error (.forbidden
        s!"Only administrators of realm '{realmId}' can add admins to it"))
    | true => (Queries.getAdmin adminId).bind fun
      | none => .done (.error (Endpoints.adminNotFound adminId))
      | some admin =>
        let allowed := if admin.realms.isEmpty then .done true
          else Queries.canManageAdminRealms requester admin.realms
        allowed.bind fun
          | false => .done (.error (Endpoints.foreignMember adminId))
          | true =>
            if admin.realms.contains realmId then .done (.ok { status := 200, body := .admin admin })
            else storeAdmin { admin with realms := admin.realms ++ [realmId] }

def removeAdminFromRealm (requester : Admin) (adminId realmId : String) : QueryProg Response :=
  (Queries.canManageRealm requester realmId).bind fun
    | false => .done (.error (.forbidden
        s!"Only administrators of realm '{realmId}' can remove admins from it"))
    | true => (Queries.getAdmin adminId).bind fun
      | none => .done (.error (Endpoints.adminNotFound adminId))
      | some admin => (Queries.canManageAdminRealms requester admin.realms).bind fun
        | false => .done (.error (Endpoints.foreignMember adminId))
        | true =>
          let kept := admin.realms.filter (fun r => r != realmId)
          if kept.length < admin.realms.length then storeAdmin { admin with realms := kept }
          else .done (.ok { status := 200, body := .admin { admin with realms := kept } })

/-- The record as linked or unlinked, where the credential is of the admin realm. -/
def relink (realmId username : String) (relinked : Admin → Option Admin) :
    QueryProg (Except AuthDbError Unit) :=
  if realmId = adminRealm then
    (Queries.getAdmin username).bind fun
      | none => .done (.ok ())
      | some admin => match relinked admin with
        | none => .done (.ok ())
        | some admin => Queries.updateAdmin admin
  else .done (.ok ())

def autoLink (realmId username : String) : QueryProg (Except AuthDbError Unit) :=
  relink realmId username fun admin =>
    if admin.userpass = some username then none else some { admin with userpass := some username }

def autoUnlink (realmId username : String) : QueryProg (Except AuthDbError Unit) :=
  relink realmId username fun admin =>
    if admin.userpass = some username then some { admin with userpass := none } else none

def getRealm (requester : Admin) (realmId : String) : QueryProg Response :=
  if requester.canAdministerRealm realmId = false then
    .done (.error (.forbidden "Admin does not have permission to retrieve this realm"))
  else (Queries.getRealm realmId).bind fun
    | some realm => .done (.ok { status := 200, body := .realm realm })
    | none => .done (.error (.badRequest s!"Realm '{realmId}' not found"))

def deleteRealm (requester : Admin) (realmId : String) : QueryProg Response :=
  if requester.canAdministerRealm realmId = false then
    .done (.error (.forbidden
      s!"Only administrators of realm '{realmId}' (or a super admin) can delete it"))
  else (Queries.deleteRealm realmId).bind fun _ => .done (.ok { status := 204 })

def listRealms (requester : Admin) : QueryProg Response :=
  Queries.listRealms.bind fun realms =>
    let visible := if requester.isSuperAdmin then realms
      else realms.filter (fun r => requester.canAdministerRealm r.id)
    .done (.ok { status := 200, body := .realms visible })

def managing (requester : Admin) (realmId : String) (refusal : AuthError)
    (next : QueryProg Response) : QueryProg Response :=
  (Queries.canManageRealm requester realmId).bind fun
    | false => .done (.error refusal)
    | true => next

def getUserpass (requester : Admin) (realm username : String) : QueryProg Response :=
  managing requester realm (Endpoints.credentialsForbidden realm)
    ((Queries.getUserpass realm username).bind fun
      | some userpass => .done (.ok
          { status := 200, body := .userpass { userpass with passwordHash := "" } })
      | none => .done (.error (.badRequest
          s!"User password entry for '{username}' in realm '{realm}' not found")))

def deleteUserpass (requester : Admin) (realm username : String) : QueryProg Response :=
  managing requester realm (Endpoints.credentialsForbidden realm)
    ((Queries.deleteUserpass realm username).bind fun _ =>
      (autoUnlink realm username).bind fun unlinked => .done (answer { status := 204 } unlinked))

def listUserpassByRealm (requester : Admin) (realmId : String) : QueryProg Response :=
  managing requester realmId (Endpoints.credentialsForbidden realmId)
    ((Queries.listUserpassByRealm realmId).bind fun entries =>
      .done (.ok { status := 200, body := .userpassList entries }))

def listAllUserpass (requester : Admin) : QueryProg Response :=
  if requester.isSuperAdmin = false then
    .done (.error (.forbidden "Only super admins can list all credentials"))
  else Queries.listAdmins.bind fun admins => Queries.listAllUserpass.bind fun entries =>
    let visible := entries.filter
      (fun entry => realmManageableGivenClaims requester entry.realm (claimedRealms admins))
    .done (.ok { status := 200, body := .userpassList visible })

def extraClaimsChanged (realm username : String) : Option ExtraClaims → QueryProg Bool
  | none => .done false
  | some requested => (Queries.getUserpass realm username).bind fun
    | none => .done true
    | some existing => match existing.extraClaims with
      | none => .done true
      | some stored => .done (!stored.isPerm requested)

def totpDisable (requester : Admin) (realmId username : String) : QueryProg Response :=
  managing requester realmId (Endpoints.totpForbidden realmId)
    ((Queries.disableTotp username).bind fun _ => .done (.ok { status := 204 }))

section
variable (X : Externals) (params : ServerParams)

def createRealm (requester : Admin) (realm : Realm) : QueryProg Response :=
  if requester.isSuperAdmin = false then
    .done (.error (.forbidden "Only super admins can create realms"))
  else match Endpoints.checkSamlParams X params realm with
    | .error e => .done (.error e)
    | .ok realm => (Queries.createRealm realm).bind fun created =>
      .done (answer { status := 201, body := .realm realm } created)

def updateRealm (requester : Admin) (realmId : String) (body : Realm) : QueryProg Response :=
  managing requester realmId
    (.forbidden s!"Only administrators of realm '{realmId}' can update it")
    (match Endpoints.checkSamlParams X params { body with id := realmId } with
      | .error e => .done (.error e)
      | .ok realm => (Queries.updateRealm realm).bind fun _ =>
        .done (.ok { status := 200, body := .realm realm }))

def createUserpass (salt : String) (requester : Admin) (realmId : String) (body : UserPass) :
    QueryProg Response :=
  managing requester realmId (Endpoints.credentialsForbidden realmId)
    (match checkExtraClaims X body.extraClaims with
      | .error e => .done (.error e)
      | .ok () => match Endpoints.createdHash X salt body.passwordInput with
        | .error e => .done (.error e)
        | .ok hash =>
          let userpass := { body with
            realm := realmId, passwordHash := hash, passwordInput := none }
          (Queries.createUserpass userpass).bind fun
            | .error (.conflict _) => .done (.error (.conflict
                s!"credentials for '{userpass.username}' already exist in realm '{realmId}' — use PUT to update them"))
            | .error e => .done (.error (AuthError.ofDb e))
            | .ok () => (autoLink realmId userpass.username).bind fun linked => .done (answer
                { status := 201, body := .userpass { userpass with passwordHash := "" } } linked))

def updateUserpass (salt : String) (requester : Admin) (realm username : String)
    (body : UserPass) : QueryProg Response :=
  managing requester realm (Endpoints.credentialsForbidden realm)
    (match checkExtraClaims X body.extraClaims with
      | .error e => .done (.error e)
      | .ok () =>
        let userpass := { body with realm := realm, username := username, passwordInput := none }
        let response : HttpResponse :=
          { status := 200, body := .userpass { userpass with passwordHash := "" } }
        match body.passwordInput with
        | none => (extraClaimsChanged realm username body.extraClaims).bind fun
          | true => .done (.error (.badRequest ("extra_claims cannot be changed without also "
              ++ "providing 'password_input' in the same request")))
          | false => (updateUserpassMetadata realm username body.changePassword body.roles).bind
              fun _ => .done (.ok response)
        | some (.plaintext plaintext) => match hashPasswordWithArgon2 X salt plaintext with
          | .error e => .done (.error (.unexpected e))
          | .ok hash => (Queries.updateUserpass { userpass with passwordHash := hash }).bind
              fun _ => .done (.ok response)
        | some (.hashed hashed) => match validateArgon2PhcString X hashed with
          | .error e => .done (.error e)
          | .ok () => (Queries.updateUserpass { userpass with passwordHash := hashed }).bind
              fun _ => .done (.ok response))

def totpGenerate (drawn : List UInt8) (requester : Admin) (realmId : String)
    (body : TotpGenerateRequest) : QueryProg Response :=
  managing requester realmId (Endpoints.totpForbidden realmId)
    ((Queries.getRealm realmId).bind fun
      | none => .done (.error (.badRequest s!"Realm '{realmId}' not found"))
      | some realm => match realmTotpParams realm with
        | .error e => .done (.error e)
        | .ok params =>
          match createTotpSecret X drawn (body.issuer.getD realmId) body.username params with
          | .error e => .done (.error (.totp e))
          | .ok (totps, secret) =>
            .done (.ok { status := 200, body := .totpGenerated secret (totps.getOtpauthUrl X) }))

def enableTotp (username secret issuer : String) : QueryProg (Except AuthDbError Unit) :=
  match Totps.fromSecret X secret (some issuer) username none with
  | .error e => .done (.error (.unexpected s!"TOTP error: TOTP/2FA error: {e}"))
  | .ok totps => (call (Query.enableTotp username secret (Totps.getOtpauthUrl X totps))).bind
      fun _ => .done (.ok ())

def totpVerify (now : Int) (requester : Admin) (realmId : String) (body : TotpVerifyRequest) :
    QueryProg Response :=
  managing requester realmId (Endpoints.totpForbidden realmId)
    ((Queries.getRealm realmId).bind fun realm =>
      match Statements.totpAccepts X now realmId body realm with
      | .error e => .done (.error e)
      | .ok () => (enableTotp X body.username body.secret realmId).bind fun enabled =>
        .done (answer { status := 200, body := .statusOk } enabled))

def extractRealm (query : String) : QueryProg (Except Answer (Option Realm)) :=
  match realmParameter query with
  | none => .done (.ok none)
  | some id => (Queries.getRealm id).bind fun
    | some realm => .done (.ok (some realm))
    | none => .done (.error (unauthorized "Invalid authentication realm"))

def validateUserpass (realm username password : String) : QueryProg (Except AuthDbError Bool) :=
  (call (Query.selectPassword realm username)).bind fun
    | none => .done (.error .invalidCredentials)
    | some (stored, changePassword) => match verifyPasswordArgon2 X stored password with
      | .error _ => .done (.error .invalidCredentials)
      | .ok () => .done (.ok changePassword)

def usernamePasswordAuth (realm : Option Realm) (header : Option String) :
    QueryProg (Except Answer (Option AuthenticatedClientScheme)) :=
  match extractBasicAuthCredentials X header with
  | none => .done (.ok none)
  | some (username, password) => match realm with
    | none => .done (.ok none)
    | some realm => match realm.authParams.usernamePasswordParams with
      | none => .done (.ok none)
      | some params => (validateUserpass X realm.id username password).bind fun
        | .ok true =>
          if params.allowExpiredPasswords then
            .done (.ok (some { username := username, authScheme := .usernamePassword }))
          else .done (.error (.ok { status := 403, body := .message "Password expired" }))
        | .ok false => .done (.ok (some { username := username, authScheme := .usernamePassword }))
        | .error _ => .done (.error (unauthorized "Authentication service error"))

def passwordLogin (query : String) (header : Option String) :
    QueryProg (Except Answer (Option AuthenticatedClientScheme)) :=
  (extractRealm query).bind fun
    | .error answer => .done (.error answer)
    | .ok realm => usernamePasswordAuth X realm header

/-- The columns the second factor goes by; the secret is read where the flag is set. -/
def secondFactor (username : String) :
    QueryProg (Option (Option Bool) × Option (Option String)) :=
  (call (Query.selectTotpEnabled username)).bind fun enabled =>
    if enabled.join.getD false then
      (call (Query.selectTotpSecret username)).bind fun secret => .done (enabled, secret)
    else .done (enabled, none)

def grantedClaims (realmId username : String) : QueryProg (List String × ExtraClaims) :=
  (Queries.getUserpass realmId username).bind fun
    | some up => .done (up.roles, up.extraClaims.getD [])
    | none => .done ([], [])

end
end QueryHandlers

def AdminCall.queries (X : Externals) (params : ServerParams) (c : AdminCall) :
    QueryProg QueryHandlers.Response :=
  match c.request with
  | .createAdmin body => QueryHandlers.createAdmin c.requester body
  | .getAdmin id => QueryHandlers.getAdmin c.requester id
  | .updateAdmin id body => QueryHandlers.updateAdmin c.requester id body
  | .deleteAdmin id => QueryHandlers.deleteAdmin c.requester id
  | .listAdmins => QueryHandlers.listAdmins c.requester
  | .addAdminToRealm id realm => QueryHandlers.addAdminToRealm c.requester id realm
  | .removeAdminFromRealm id realm => QueryHandlers.removeAdminFromRealm c.requester id realm
  | .createRealm body => QueryHandlers.createRealm X params c.requester body
  | .getRealm realm => QueryHandlers.getRealm c.requester realm
  | .updateRealm realm body => QueryHandlers.updateRealm X params c.requester realm body
  | .deleteRealm realm => QueryHandlers.deleteRealm c.requester realm
  | .listRealms => QueryHandlers.listRealms c.requester
  | .createUserpass realm body =>
    QueryHandlers.createUserpass X c.moment.salt c.requester realm body
  | .getUserpass realm user => QueryHandlers.getUserpass c.requester realm user
  | .updateUserpass realm user body =>
    QueryHandlers.updateUserpass X c.moment.salt c.requester realm user body
  | .deleteUserpass realm user => QueryHandlers.deleteUserpass c.requester realm user
  | .listUserpassByRealm realm => QueryHandlers.listUserpassByRealm c.requester realm
  | .listAllUserpass => QueryHandlers.listAllUserpass c.requester
  | .totpGenerate realm body =>
    QueryHandlers.totpGenerate X c.moment.totpSecret c.requester realm body
  | .totpVerify realm body => QueryHandlers.totpVerify X c.moment.now c.requester realm body
  | .totpDisable realm user => QueryHandlers.totpDisable c.requester realm user

/-- What is asked of the database by key: the administration API, and the lookups of a login, of a
session and of a realm in a path. -/
inductive KeyedRequest where
  | administer (c : AdminCall)
  | passwordLogin (query : String) (authorization : Option String)
  | secondFactor (username : String)
  | grantedClaims (realmId username : String)
  | findAdmins (username : String)
  | realmRecord (realmId : String)

namespace KeyedRequest

abbrev Result : KeyedRequest → Type
  | .administer _ => QueryHandlers.Response
  | .passwordLogin .. => Except Answer (Option AuthenticatedClientScheme)
  | .secondFactor _ => Option (Option Bool) × Option (Option String)
  | .grantedClaims .. => List String × ExtraClaims
  | .findAdmins _ => List Admin
  | .realmRecord _ => Option Realm

def queries (X : Externals) (params : ServerParams) : (r : KeyedRequest) → QueryProg r.Result
  | .administer c => c.queries X params
  | .passwordLogin query authorization => QueryHandlers.passwordLogin X query authorization
  | .secondFactor username => QueryHandlers.secondFactor username
  | .grantedClaims realmId username => QueryHandlers.grantedClaims realmId username
  | .findAdmins username => Queries.findAdminsByUserpass username
  | .realmRecord realmId => Queries.getRealm realmId

/-- The realm a request is about, which is the one its authorization is decided for. -/
def realmId : KeyedRequest → Option String
  | .administer c => match c.request with
    | .getRealm id | .updateRealm id _ | .deleteRealm id | .createUserpass id _
    | .getUserpass id _ | .updateUserpass id _ _ | .deleteUserpass id _ | .listUserpassByRealm id
    | .totpGenerate id _ | .totpVerify id _ | .totpDisable id _ | .addAdminToRealm _ id
    | .removeAdminFromRealm _ id => some id
    | .createRealm body => some body.id
    | _ => none
  | .grantedClaims id _ | .realmRecord id => some id
  | .passwordLogin .. | .secondFactor _ | .findAdmins _ => none

end KeyedRequest
end AuthVerifier
