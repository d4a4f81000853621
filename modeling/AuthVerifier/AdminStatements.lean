import AuthVerifier.AdminApi
import AuthVerifier.Lib.Schedule

/-!
The handlers that change an administrator record, statement by statement. Between two statements of
a handler those of other requests may run; run on its own, a handler does what it does in the
administration API.
-/

set_option autoImplicit false

namespace AuthVerifier
open Effects Relational Schedule

inductive Stmt where
  /-- The first statement of `list_admins`; what it reads beyond the ids is not used. -/
  | selectAdminIds
  | selectAdmin (id : String)
  | selectMemberships (adminId : String)
  | updateAdmin (admin : Admin)
  | deleteMemberships (adminId : String)
  | insertMembership (adminId realmId : String)
  | enableTotp (username secret url : String)
  | disableTotp (username : String)
  | insertUserpass (userpass : UserPass)
  | deleteUserpass (realm username : String)
  | selectRealm (realmId : String)
  deriving DecidableEq

namespace Stmt

abbrev Answer : Stmt → Type
  | .selectAdminIds => List String
  | .selectAdmin _ => Option AdminRow
  | .selectMemberships _ => List String
  | .insertMembership .. => Except SqlError Unit
  | .insertUserpass _ => Except AuthDbError Unit
  | .selectRealm _ => Option Realm
  | .updateAdmin _ | .deleteMemberships _ | .enableTotp .. | .disableTotp _ | .deleteUserpass .. => Unit

def attempt {ε : Type} (db : Database) (result : Except ε Database) : Database × Except ε Unit :=
  match result with
  | .error e => (db, .error e)
  | .ok db => (db, .ok ())

theorem updatedRow_id (a : Admin) (r : AdminRow) :
    ({ AdminRow.ofAdmin a with id := r.id } : AdminRow).id = r.id := rfl

theorem enabledRow_id (secret url : String) (r : AdminRow) :
    ({ r with totpEnabled := some true, totpSecret := some secret,
              totpAuthUrl := some url } : AdminRow).id = r.id := rfl

def exec : (i : Stmt) → Database → Database × Answer i
  | .selectAdminIds, db =>
    (db, (db.admin.rows.insertionSort (fun r s => r.id ≤ s.id)).map AdminRow.id)
  | .selectAdmin id, db => (db, db.admin.find? id)
  | .selectMemberships id, db => (db, db.realmsOf id)
  | .updateAdmin a, db => (db.setAdmin (fun r => r.id == a.id)
      (fun r => { AdminRow.ofAdmin a with id := r.id }) (updatedRow_id a), ())
  | .deleteMemberships id, db => (db.clearMemberships id, ())
  | .insertMembership id realm, db => attempt db (db.insertAdminRealm id realm)
  | .enableTotp username secret url, db => (db.setAdmin (AdminRow.totpTarget username)
      (fun r => { r with totpEnabled := some true, totpSecret := some secret,
                         totpAuthUrl := some url }) (enabledRow_id secret url), ())
  | .disableTotp username, db => (db.disableTotp username, ())
  | .insertUserpass u, db => attempt db (db.createUserpass u)
  | .deleteUserpass realm username, db => (db.deleteUserpass realm username, ())
  | .selectRealm id, db => (db, db.getRealm id)

end Stmt

abbrev AdminProg (α : Type) := Prog Stmt.Answer α

namespace Sql
open Prog

def selectAdminIds : AdminProg (List String) := call Stmt.selectAdminIds
def selectAdmin (id : String) : AdminProg (Option AdminRow) := call (Stmt.selectAdmin id)
def selectMemberships (adminId : String) : AdminProg (List String) :=
  call (Stmt.selectMemberships adminId)
def updateAdmin (admin : Admin) : AdminProg Unit := call (Stmt.updateAdmin admin)
def deleteMemberships (adminId : String) : AdminProg Unit := call (Stmt.deleteMemberships adminId)
def insertMembership (adminId realmId : String) : AdminProg (Except SqlError Unit) :=
  call (Stmt.insertMembership adminId realmId)
def enableTotp (username secret url : String) : AdminProg Unit :=
  call (Stmt.enableTotp username secret url)
def disableTotp (username : String) : AdminProg Unit := call (Stmt.disableTotp username)
def insertUserpass (userpass : UserPass) : AdminProg (Except AuthDbError Unit) :=
  call (Stmt.insertUserpass userpass)
def deleteUserpass (realm username : String) : AdminProg Unit :=
  call (Stmt.deleteUserpass realm username)
def selectRealm (realmId : String) : AdminProg (Option Realm) := call (Stmt.selectRealm realmId)

end Sql

namespace Statements
open Prog

/-- The memberships of every administrator: `list_admins` as far as the checks use it. -/
def listMemberships : AdminProg (List (List String)) :=
  Sql.selectAdminIds.bind fun ids => forEach Sql.selectMemberships ids

def canManageRealm (requester : Admin) (realmId : String) : AdminProg Bool :=
  if requester.realms.contains realmId then .done true
  else if !requester.isSuperAdmin then .done false
  else listMemberships.bind fun memberships =>
    .done (!(memberships.any (fun realms => realms.contains realmId)))

def canManageAll (requester : Admin) : List String → AdminProg Bool
  | [] => .done true
  | r :: rs => (canManageRealm requester r).bind fun allowed =>
    if allowed then canManageAll requester rs else .done false

def canManageAdminRealms (requester : Admin) (realms : List String) : AdminProg Bool :=
  if realms.isEmpty then .done requester.isSuperAdmin else canManageAll requester realms

def adminOf (row : AdminRow) (realms : List String) : Admin :=
  { id := row.id, realms := realms, userpass := row.userpass, jwt := row.jwt,
    fido2 := row.fido2, digitalCredentials := row.digitalCredentials,
    clientCertificate := row.certificate, totpEnabled := row.totpEnabled,
    totpSecret := row.totpSecret, totpAuthUrl := row.totpAuthUrl }

def getAdmin (id : String) : AdminProg (Option Admin) :=
  (Sql.selectAdmin id).bind fun
    | none => .done none
    | some row => (Sql.selectMemberships id).bind fun realms =>
      .done (some (adminOf row realms))

def insertMemberships (adminId : String) : List String → AdminProg (Except AuthDbError Unit)
  | [] => .done (.ok ())
  | r :: rs => (Sql.insertMembership adminId r).bind fun
    | .error e => .done (.error (.sql e))
    | .ok () => insertMemberships adminId rs

def updateAdmin (admin : Admin) : AdminProg (Except AuthDbError Unit) :=
  (Sql.updateAdmin admin).bind fun _ => (Sql.deleteMemberships admin.id).bind fun _ =>
    insertMemberships admin.id admin.realms

abbrev Response := Except AuthError HttpResponse

def storeAdmin (admin : Admin) : AdminProg Response :=
  (updateAdmin admin).bind fun
    | .error e => .done (.error (AuthError.ofDb e))
    | .ok () => .done (.ok { status := 200, body := .admin admin })

def addAdminToRealm (requester : Admin) (adminId realmId : String) : AdminProg Response :=
  (canManageRealm requester realmId).bind fun
    | false => .done (.error (.forbidden
        s!"Only administrators of realm '{realmId}' can add admins to it"))
    | true => (getAdmin adminId).bind fun
      | none => .done (.error (Endpoints.adminNotFound adminId))
      | some admin =>
        -- an unaffiliated administrator may be onboarded by anyone
        let allowed := if admin.realms.isEmpty then .done true
          else canManageAdminRealms requester admin.realms
        allowed.bind fun
          | false => .done (.error (Endpoints.foreignMember adminId))
          | true =>
            if admin.realms.contains realmId then .done (.ok { status := 200, body := .admin admin })
            else storeAdmin { admin with realms := admin.realms ++ [realmId] }

def removeAdminFromRealm (requester : Admin) (adminId realmId : String) : AdminProg Response :=
  (canManageRealm requester realmId).bind fun
    | false => .done (.error (.forbidden
        s!"Only administrators of realm '{realmId}' can remove admins from it"))
    | true => (getAdmin adminId).bind fun
      | none => .done (.error (Endpoints.adminNotFound adminId))
      | some admin => (canManageAdminRealms requester admin.realms).bind fun
        | false => .done (.error (Endpoints.foreignMember adminId))
        | true =>
          let kept := admin.realms.filter (fun r => r != realmId)
          if kept.length < admin.realms.length then storeAdmin { admin with realms := kept }
          else .done (.ok { status := 200, body := .admin { admin with realms := kept } })

def updateAdminRecord (requester : Admin) (adminId : String) (body : Admin) : AdminProg Response :=
  (getAdmin adminId).bind fun
    | none => .done (.error (Endpoints.adminNotFound adminId))
    | some target => (canManageAdminRealms requester target.realms).bind fun
      | false => .done (.error (Endpoints.notExclusivelyOwned adminId))
      | true => (canManageAdminRealms requester body.realms).bind fun
        | false => .done (.error (.forbidden
            "Realm admins can only assign admins to realms they administer"))
        | true => storeAdmin { body with id := adminId }

/-- The record as linked or unlinked, where the credential is of the admin realm. -/
def relink (realmId username : String) (relinked : Admin → Option Admin) :
    AdminProg (Except AuthError Unit) :=
  if realmId = adminRealm then
    (getAdmin username).bind fun
      | none => .done (.ok ())
      | some admin => match relinked admin with
        | none => .done (.ok ())
        | some admin => (updateAdmin admin).bind fun
          | .error e => .done (.error (AuthError.ofDb e))
          | .ok () => .done (.ok ())
  else .done (.ok ())

def autoLink (realmId username : String) : AdminProg (Except AuthError Unit) :=
  relink realmId username fun admin =>
    if admin.userpass = some username then none else some { admin with userpass := some username }

def autoUnlink (realmId username : String) : AdminProg (Except AuthError Unit) :=
  relink realmId username fun admin =>
    if admin.userpass = some username then some { admin with userpass := none } else none

section
variable (X : Externals)

def createUserpass (salt : String) (requester : Admin) (realmId : String) (body : UserPass) :
    AdminProg Response :=
  (canManageRealm requester realmId).bind fun
    | false => .done (.error (Endpoints.credentialsForbidden realmId))
    | true => match checkExtraClaims X body.extraClaims with
      | .error e => .done (.error e)
      | .ok () => match Endpoints.createdHash X salt body.passwordInput with
        | .error e => .done (.error e)
        | .ok hash =>
          let userpass := { body with
            realm := realmId, passwordHash := hash, passwordInput := none }
          (Sql.insertUserpass userpass).bind fun
            | .error (.conflict _) => .done (.error (.conflict
                s!"credentials for '{userpass.username}' already exist in realm '{realmId}' — use PUT to update them"))
            | .error e => .done (.error (AuthError.ofDb e))
            | .ok () => (autoLink realmId userpass.username).bind fun
              | .error e => .done (.error e)
              | .ok () => .done (.ok
                  { status := 201, body := .userpass { userpass with passwordHash := "" } })

def deleteUserpass (requester : Admin) (realm username : String) : AdminProg Response :=
  (canManageRealm requester realm).bind fun
    | false => .done (.error (Endpoints.credentialsForbidden realm))
    | true => (Sql.deleteUserpass realm username).bind fun _ =>
      (autoUnlink realm username).bind fun
        | .error e => .done (.error e)
        | .ok () => .done (.ok { status := 204 })

def totpAccepts (now : Int) (realmId : String) (body : TotpVerifyRequest) :
    Option Realm → Except AuthError Unit
  | none => .error (.badRequest s!"Realm '{realmId}' not found")
  | some realm => match realmTotpParams realm with
    | .error e => .error e
    | .ok params =>
      match Totps.fromSecret X body.secret (some (body.issuer.getD realmId)) body.username params with
      | .error e => .error (.totp e)
      | .ok totps =>
        if totps.validateToken X now body.token then .ok ()
        else .error (.forbidden "Invalid TOTP token; code did not match the provided secret")

def enableTotp (username secret issuer : String) : AdminProg (Except AuthDbError Unit) :=
  match Totps.fromSecret X secret (some issuer) username none with
  | .error e => .done (.error (.unexpected s!"TOTP error: TOTP/2FA error: {e}"))
  | .ok totps => (Sql.enableTotp username secret (Totps.getOtpauthUrl X totps)).bind
      fun _ => .done (.ok ())

def totpVerify (now : Int) (requester : Admin) (realmId : String) (body : TotpVerifyRequest) :
    AdminProg Response :=
  (canManageRealm requester realmId).bind fun
    | false => .done (.error (Endpoints.totpForbidden realmId))
    | true => (Sql.selectRealm realmId).bind fun realm =>
      match totpAccepts X now realmId body realm with
      | .error e => .done (.error e)
      | .ok () => (enableTotp X body.username body.secret realmId).bind fun
        | .error e => .done (.error (AuthError.ofDb e))
        | .ok () => .done (.ok { status := 200, body := .statusOk })

def totpDisable (requester : Admin) (realmId username : String) : AdminProg Response :=
  (canManageRealm requester realmId).bind fun
    | false => .done (.error (Endpoints.totpForbidden realmId))
    | true => (Sql.disableTotp username).bind fun _ => .done (.ok { status := 204 })

end
end Statements

def asRun {ε α : Type} (o : Outcome Database ε α) : Database × Except ε α := (o.state, o.result)

namespace Statements
open Prog
variable {X : Externals} {requester : Admin} {db : Database}

@[simp] theorem run_selectMemberships (id : String) :
    (Sql.selectMemberships id).run Stmt.exec db = (db, db.realmsOf id) := rfl

@[simp] theorem run_canManageRealm (r : String) :
    (canManageRealm requester r).run Stmt.exec db =
      (db, AuthVerifier.canManageRealm requester r db) := by
  unfold canManageRealm AuthVerifier.canManageRealm
  split
  · rfl
  · split
    · rfl
    · have hlist : listMemberships.run Stmt.exec db =
          (db, db.listAdmins.map Admin.realms) := by
        simp only [listMemberships, Sql.selectAdminIds, run_bind, run_call, Stmt.exec]
        rw [run_forEach Stmt.exec (g := db.realmsOf) (fun id => run_selectMemberships id)]
        simp [Database.listAdmins]
      simp [hlist, List.any_map, Function.comp_def]

@[simp] theorem run_canManageAll (rs : List String) :
    (canManageAll requester rs).run Stmt.exec db =
      (db, rs.all (fun r => AuthVerifier.canManageRealm requester r db)) := by
  induction rs with
  | nil => rfl
  | cons r rs ih =>
    simp only [canManageAll, run_bind, run_canManageRealm, List.all_cons]
    cases AuthVerifier.canManageRealm requester r db with
    | false => simp
    | true => simp [ih]

@[simp] theorem run_canManageAdminRealms (rs : List String) :
    (canManageAdminRealms requester rs).run Stmt.exec db =
      (db, AuthVerifier.canManageAdminRealms requester rs db) := by
  unfold canManageAdminRealms AuthVerifier.canManageAdminRealms
  split
  · rfl
  · exact run_canManageAll rs

@[simp] theorem run_getAdmin (id : String) :
    (getAdmin id).run Stmt.exec db = (db, db.getAdmin id) := by
  simp only [getAdmin, Sql.selectAdmin, run_bind, run_call, Stmt.exec, Database.getAdmin]
  cases hrow : db.admin.find? id with
  | none => rfl
  | some row =>
    have hid := (Table.find?_eq_some_iff.mp hrow).2
    simp [adminOf, Database.toAdmin, hid]

@[simp] theorem run_insertMemberships (id : String) (rs : List String) :
    (insertMemberships id rs).run Stmt.exec db = asRun (db.insertAdminRealms id rs) := by
  induction rs generalizing db with
  | nil => rfl
  | cons r rs ih =>
    simp only [insertMemberships, Sql.insertMembership, run_bind, run_call, Stmt.exec,
      Database.insertAdminRealms]
    cases db.insertAdminRealm id r with
    | error e => rfl
    | ok db' => exact ih

@[simp] theorem run_updateAdmin (a : Admin) :
    (updateAdmin a).run Stmt.exec db = asRun (db.updateAdmin a) := by
  simp only [updateAdmin, Sql.updateAdmin, Sql.deleteMemberships, run_bind, run_call,
    run_insertMemberships]
  rfl

@[simp] theorem run_storeAdmin (a : Admin) :
    (storeAdmin a).run Stmt.exec db = asRun (Endpoints.storeAdmin db a) := by
  simp only [storeAdmin, run_bind, run_updateAdmin, asRun, Endpoints.storeAdmin, Outcome.bind,
    Outcome.mapError]
  cases (db.updateAdmin a).result <;> rfl

theorem run_addAdminToRealm (id realm : String) :
    (addAdminToRealm requester id realm).run Stmt.exec db =
      asRun (Endpoints.addAdminToRealm requester id realm db) := by
  simp only [addAdminToRealm, Endpoints.addAdminToRealm, run_bind, run_canManageRealm]
  cases AuthVerifier.canManageRealm requester realm db with
  | false => rfl
  | true =>
    simp only [run_bind, run_getAdmin, Bool.true_eq_false, if_false]
    cases db.getAdmin id with
    | none => rfl
    | some admin =>
      cases hempty : admin.realms.isEmpty with
      | true =>
        simp only [run_bind, hempty, if_true, run_done, Bool.true_eq_false, false_and, if_false]
        split <;> simp
        rfl
      | false =>
        simp only [run_bind, hempty, Bool.false_eq_true, if_false, run_canManageAdminRealms, true_and]
        cases AuthVerifier.canManageAdminRealms requester admin.realms db with
        | false => rfl
        | true =>
          simp only [Bool.true_eq_false, if_false]
          split <;> simp
          rfl

theorem run_removeAdminFromRealm (id realm : String) :
    (removeAdminFromRealm requester id realm).run Stmt.exec db =
      asRun (Endpoints.removeAdminFromRealm requester id realm db) := by
  simp only [removeAdminFromRealm, Endpoints.removeAdminFromRealm, run_bind, run_canManageRealm]
  cases AuthVerifier.canManageRealm requester realm db with
  | false => rfl
  | true =>
    simp only [run_bind, run_getAdmin, Bool.true_eq_false, if_false]
    cases db.getAdmin id with
    | none => rfl
    | some admin =>
      simp only [run_bind, run_canManageAdminRealms]
      cases AuthVerifier.canManageAdminRealms requester admin.realms db with
      | false => rfl
      | true =>
        simp only [Bool.true_eq_false, if_false]
        split
        · simp
        · rfl

theorem run_updateAdminRecord (id : String) (body : Admin) :
    (updateAdminRecord requester id body).run Stmt.exec db =
      asRun (Endpoints.updateAdmin requester id body db) := by
  simp only [updateAdminRecord, Endpoints.updateAdmin, run_bind, run_getAdmin]
  cases db.getAdmin id with
  | none => rfl
  | some target =>
    simp only [run_bind, run_canManageAdminRealms]
    cases AuthVerifier.canManageAdminRealms requester target.realms db with
    | false => rfl
    | true =>
      simp only [run_bind, run_canManageAdminRealms, Bool.true_eq_false, if_false]
      cases AuthVerifier.canManageAdminRealms requester body.realms db with
      | false => rfl
      | true => simp

@[simp] theorem run_autoLink (realm username : String) :
    (autoLink realm username).run Stmt.exec db = asRun (Endpoints.autoLink db realm username) := by
  unfold autoLink relink Endpoints.autoLink
  split
  · simp only [run_bind, run_getAdmin]
    cases db.getAdmin username with
    | none => rfl
    | some admin =>
      by_cases hlinked : admin.userpass = some username
      · simp only [hlinked, if_true]
        rfl
      · simp only [hlinked, if_false, run_bind, run_updateAdmin, asRun, Outcome.mapError]
        cases (db.updateAdmin { admin with userpass := some username }).result <;> rfl
  · rfl

@[simp] theorem run_autoUnlink (realm username : String) :
    (autoUnlink realm username).run Stmt.exec db =
      asRun (Endpoints.autoUnlink db realm username) := by
  unfold autoUnlink relink Endpoints.autoUnlink
  split
  · simp only [run_bind, run_getAdmin]
    cases db.getAdmin username with
    | none => rfl
    | some admin =>
      by_cases hlinked : admin.userpass = some username
      · simp only [hlinked, if_true, run_bind, run_updateAdmin, asRun, Outcome.mapError]
        cases (db.updateAdmin { admin with userpass := none }).result <;> rfl
      · simp only [hlinked, if_false]
        rfl
  · rfl

theorem run_createUserpass (salt realm : String) (body : UserPass) :
    (createUserpass X salt requester realm body).run Stmt.exec db =
      asRun (Endpoints.createUserpass X salt requester realm body db) := by
  simp only [createUserpass, Endpoints.createUserpass, run_bind, run_canManageRealm]
  cases AuthVerifier.canManageRealm requester realm db with
  | false => rfl
  | true =>
    simp only [Bool.true_eq_false, if_false]
    cases checkExtraClaims X body.extraClaims with
    | error e => rfl
    | ok _ =>
      dsimp only
      cases Endpoints.createdHash X salt body.passwordInput with
      | error e => rfl
      | ok hash =>
        simp only [Sql.insertUserpass, run_bind, run_call, Stmt.exec]
        cases db.createUserpass _ with
        | error e => cases e <;> rfl
        | ok db' =>
          simp only [Stmt.attempt, run_bind, run_autoLink, asRun, Outcome.bind]
          cases (Endpoints.autoLink db' realm body.username).result <;> rfl

theorem run_deleteUserpass (realm username : String) :
    (deleteUserpass requester realm username).run Stmt.exec db =
      asRun (Endpoints.deleteUserpass requester realm username db) := by
  simp only [deleteUserpass, Endpoints.deleteUserpass, run_bind, run_canManageRealm]
  cases AuthVerifier.canManageRealm requester realm db with
  | false => rfl
  | true =>
    simp only [Bool.true_eq_false, if_false, Sql.deleteUserpass, run_bind, run_call, Stmt.exec,
      run_autoUnlink, asRun, Outcome.bind]
    cases (Endpoints.autoUnlink (db.deleteUserpass realm username) realm username).result <;> rfl

theorem run_totpVerify (now : Int) (realm : String) (body : TotpVerifyRequest) :
    (totpVerify X now requester realm body).run Stmt.exec db =
      asRun (Endpoints.totpVerify X now requester realm body db) := by
  have haccepts : totpAccepts X now realm body (db.getRealm realm) =
      Endpoints.totpAccepts X now realm body db := by
    unfold totpAccepts Endpoints.totpAccepts
    cases db.getRealm realm <;> rfl
  simp only [totpVerify, Endpoints.totpVerify, run_bind, run_canManageRealm]
  cases AuthVerifier.canManageRealm requester realm db with
  | false => rfl
  | true =>
    simp only [Bool.true_eq_false, if_false, Sql.selectRealm, run_bind, run_call, Stmt.exec, haccepts]
    cases Endpoints.totpAccepts X now realm body db with
    | error e => rfl
    | ok _ =>
      simp only [enableTotp, Database.enableTotp, run_bind]
      cases Totps.fromSecret X body.secret (some realm) body.username none <;> rfl

theorem run_totpDisable (realm username : String) :
    (totpDisable requester realm username).run Stmt.exec db =
      asRun (Endpoints.totpDisable requester realm username db) := by
  simp only [totpDisable, Endpoints.totpDisable, run_bind, run_canManageRealm]
  cases AuthVerifier.canManageRealm requester realm db <;> rfl

end Statements

inductive RecordRequest where
  | addAdminToRealm (adminId realmId : String)
  | removeAdminFromRealm (adminId realmId : String)
  | updateAdmin (adminId : String) (body : Admin)
  | createUserpass (realmId : String) (body : UserPass)
  | deleteUserpass (realmId username : String)
  | totpVerify (realmId : String) (body : TotpVerifyRequest)
  | totpDisable (realmId username : String)
  deriving DecidableEq

namespace RecordRequest

def toAdminRequest : RecordRequest → AdminRequest
  | .addAdminToRealm id realm => .addAdminToRealm id realm
  | .removeAdminFromRealm id realm => .removeAdminFromRealm id realm
  | .updateAdmin id body => .updateAdmin id body
  | .createUserpass realm body => .createUserpass realm body
  | .deleteUserpass realm user => .deleteUserpass realm user
  | .totpVerify realm body => .totpVerify realm body
  | .totpDisable realm user => .totpDisable realm user

end RecordRequest

structure RecordCall where
  moment : Moment
  requester : Admin
  request : RecordRequest

def RecordCall.toAdminCall (c : RecordCall) : AdminCall :=
  ⟨c.moment, c.requester, c.request.toAdminRequest⟩

def RecordCall.statements (X : Externals) (c : RecordCall) : AdminProg Statements.Response :=
  match c.request with
  | .addAdminToRealm id realm => Statements.addAdminToRealm c.requester id realm
  | .removeAdminFromRealm id realm => Statements.removeAdminFromRealm c.requester id realm
  | .updateAdmin id body => Statements.updateAdminRecord c.requester id body
  | .createUserpass realm body => Statements.createUserpass X c.moment.salt c.requester realm body
  | .deleteUserpass realm user => Statements.deleteUserpass c.requester realm user
  | .totpVerify realm body => Statements.totpVerify X c.moment.now c.requester realm body
  | .totpDisable realm user => Statements.totpDisable c.requester realm user

theorem RecordCall.run_statements (X : Externals) (params : ServerParams) (c : RecordCall)
    (db : Database) : (c.statements X).run Stmt.exec db =
      asRun (handleAdmin X params c.moment c.requester db c.request.toAdminRequest) := by
  obtain ⟨m, requester, request⟩ := c
  cases request with
  | addAdminToRealm id realm => exact Statements.run_addAdminToRealm id realm
  | removeAdminFromRealm id realm => exact Statements.run_removeAdminFromRealm id realm
  | updateAdmin id body => exact Statements.run_updateAdminRecord id body
  | createUserpass realm body => exact Statements.run_createUserpass m.salt realm body
  | deleteUserpass realm user => exact Statements.run_deleteUserpass realm user
  | totpVerify realm body => exact Statements.run_totpVerify m.now realm body
  | totpDisable realm user => exact Statements.run_totpDisable realm user

end AuthVerifier
