import AuthVerifier.Authorization

/-! The `/admins` scope, following `server/endpoints/admin_endpoints.rs`. -/

set_option autoImplicit false

namespace AuthVerifier.Endpoints
open Effects

def adminNotFound (adminId : String) : AuthError := .badRequest s!"Admin '{adminId}' not found"

def notExclusivelyOwned (adminId : String) : AuthError :=
  .forbidden
    s!"Access denied: admin '{adminId}' does not belong exclusively to your administered realm(s)"

def foreignMember (adminId : String) : AuthError :=
  .forbidden s!"Cannot modify admin '{adminId}': it belongs to a realm you don't administer"

/-- `database.update_admin(&admin).await?`, then the stored record as the answer. -/
def storeAdmin (db : Database) (admin : Admin) : Outcome Database AuthError HttpResponse :=
  ((db.updateAdmin admin).mapError AuthError.ofDb).bind fun db () =>
    .ok db { status := 200, body := .admin admin }

def createAdmin (requester admin : Admin) (db : Database) :
    Outcome Database AuthError HttpResponse :=
  if canManageAdminRealms requester admin.realms db = false then
    .error db (.forbidden ("Realm admins can only create admins that belong exclusively to "
      ++ "their administered realms, and super admins can only do so for realms that have no "
      ++ "admin of their own yet"))
  else ((db.createAdmin admin).mapError AuthError.ofDb).bind fun db () =>
    .ok db { status := 201, body := .admin admin }

def getAdmin (requester : Admin) (adminId : String) (db : Database) :
    Outcome Database AuthError HttpResponse :=
  match db.getAdmin adminId with
  | none => .error db (adminNotFound adminId)
  | some target =>
    if canManageAdminRealms requester target.realms db = false then
      .error db (notExclusivelyOwned adminId)
    else .ok db { status := 200, body := .admin target }

def updateAdmin (requester : Admin) (adminId : String) (body : Admin) (db : Database) :
    Outcome Database AuthError HttpResponse :=
  match db.getAdmin adminId with
  | none => .error db (adminNotFound adminId)
  | some target =>
    if canManageAdminRealms requester target.realms db = false then
      .error db (notExclusivelyOwned adminId)
    else if canManageAdminRealms requester body.realms db = false then
      .error db (.forbidden "Realm admins can only assign admins to realms they administer")
    else storeAdmin db { body with id := adminId }

def deleteAdmin (requester : Admin) (adminId : String) (db : Database) :
    Outcome Database AuthError HttpResponse :=
  match db.getAdmin adminId with
  | none =>
    if requester.isSuperAdmin = false then .error db (adminNotFound adminId)
    else .ok (db.deleteAdmin adminId) { status := 204 }
  | some target =>
    if canManageAdminRealms requester target.realms db = false then
      .error db (notExclusivelyOwned adminId)
    else match target.userpass with
    | none => .ok (db.deleteAdmin adminId) { status := 204 }
    | some username =>
      .ok ((db.deleteAdmin adminId).deleteUserpassByUsername username) { status := 204 }

def adminVisible (requester : Admin) (claimed : List String) (admin : Admin) : Bool :=
  if admin.realms.isEmpty then requester.isSuperAdmin
  else admin.realms.all (fun r => realmManageableGivenClaims requester r claimed)

def listAdmins (requester : Admin) (db : Database) : Outcome Database AuthError HttpResponse :=
  if requester.isSuperAdmin = false then
    .error db (.forbidden "Only super admins can list admins")
  else
    let admins := db.listAdmins
    let claimed := claimedRealms admins
    .ok db { status := 200, body := .admins (admins.filter (adminVisible requester claimed)) }

def addAdminToRealm (requester : Admin) (adminId realmId : String) (db : Database) :
    Outcome Database AuthError HttpResponse :=
  if canManageRealm requester realmId db = false then
    .error db (.forbidden s!"Only administrators of realm '{realmId}' can add admins to it")
  else match db.getAdmin adminId with
  | none => .error db (adminNotFound adminId)
  | some admin =>
    if admin.realms.isEmpty = false ∧ canManageAdminRealms requester admin.realms db = false then
      .error db (foreignMember adminId)
    else if admin.realms.contains realmId then .ok db { status := 200, body := .admin admin }
    else storeAdmin db { admin with realms := admin.realms ++ [realmId] }

def removeAdminFromRealm (requester : Admin) (adminId realmId : String) (db : Database) :
    Outcome Database AuthError HttpResponse :=
  if canManageRealm requester realmId db = false then
    .error db (.forbidden s!"Only administrators of realm '{realmId}' can remove admins from it")
  else match db.getAdmin adminId with
  | none => .error db (adminNotFound adminId)
  | some admin =>
    if canManageAdminRealms requester admin.realms db = false then
      .error db (foreignMember adminId)
    else
      let kept := admin.realms.filter (fun r => r != realmId)
      if kept.length < admin.realms.length then storeAdmin db { admin with realms := kept }
      else .ok db { status := 200, body := .admin { admin with realms := kept } }

end AuthVerifier.Endpoints
