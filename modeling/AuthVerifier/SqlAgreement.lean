import AuthVerifier.SqlHandlers

/-!
The programs of SQL statements on the engine of `Database`: bytewise keys and the constraints of
`sqlite.rs`. They leave the rows and give the answers of the handlers; a listing may come in another
order.
-/

set_option autoImplicit false

namespace AuthVerifier
open Effects Relational Schedule Prog

theorem same_one {a b : String} : Dialect.sqlite.same [a] [b] = (b == a) := by
  rw [Dialect.same_sqlite, Bool.eq_iff_iff, decide_eq_true_iff, beq_iff_eq, List.cons.injEq]
  exact ⟨fun h => h.1.symm, fun h => ⟨h.symm, rfl⟩⟩

theorem same_two {a b c d : String} :
    Dialect.sqlite.same [a, b] [c, d] = (c == a && d == b) := by
  rw [Dialect.same_sqlite, Bool.eq_iff_iff, decide_eq_true_iff, Bool.and_eq_true, beq_iff_eq,
    beq_iff_eq, List.cons.injEq, List.cons.injEq]
  exact ⟨fun h => ⟨h.1.symm, h.2.1.symm⟩, fun h => ⟨h.1.symm, h.2.symm, rfl⟩⟩

namespace Rows
variable (s : Rows) (requester : Admin)

def findRealm (id : String) : Option Realm := s.realm.find? fun r => r.id == id

def findEntry (realm username : String) : Option UserPassRow :=
  s.userpass.find? fun r => r.realm == realm && r.username == username

def memberships (adminId : String) : List String :=
  (s.adminRealms.filter fun r => r.adminId == adminId).map AdminRealmRow.realmId

def findAdmin (id : String) : Option Admin :=
  (s.admin.find? fun r => r.id == id).map fun row => Statements.adminOf row (s.memberships id)

def admins : List Admin :=
  s.admin.map fun row => Statements.adminOf row (s.memberships row.id)

/-- The bytewise `can_manage_realm`. -/
def manages (realmId : String) : Bool :=
  requester.realms.contains realmId ||
    requester.isSuperAdmin && !(s.admins.any fun a => a.realms.contains realmId)

def managesAll (realms : List String) : Bool :=
  if realms.isEmpty then requester.isSuperAdmin else realms.all (s.manages requester)

end Rows

namespace Queries

theorem isEntry_columns (realm username : String) :
    Query.isEntry Dialect.sqlite.same realm username =
      fun r => r.realm == realm && r.username == username := by
  funext r
  exact same_two

section
variable {s : Rows} {requester : Admin}

theorem on_getRealm (id : String) :
    (getRealm id).run Dialect.sqlite.exec s = (s, s.findRealm id) := by
  simp only [getRealm, run_call, Dialect.exec, Query.exec, same_one]
  rfl

theorem on_getUserpass (realm username : String) :
    (getUserpass realm username).run Dialect.sqlite.exec s =
      (s, (s.findEntry realm username).map fun r => r.toUserPass "") := by
  simp only [getUserpass, run_bind, run_call, run_done, Dialect.exec, Query.exec, isEntry_columns]
  rfl

theorem on_selectMemberships (adminId : String) :
    Dialect.sqlite.exec (.selectMemberships adminId) s = (s, s.memberships adminId) := by
  simp only [Dialect.exec, Query.exec, same_one]
  rfl

theorem on_selectAdmin (id : String) :
    Dialect.sqlite.exec (.selectAdmin id) s = (s, s.admin.find? fun r => r.id == id) := by
  simp only [Dialect.exec, Query.exec, same_one]

theorem on_selectAdmins :
    Dialect.sqlite.exec .selectAdmins s = (s, s.admin) := rfl

theorem on_getAdmin (id : String) :
    (getAdmin id).run Dialect.sqlite.exec s = (s, s.findAdmin id) := by
  simp only [getAdmin, run_bind, run_call, on_selectAdmin, Rows.findAdmin]
  cases s.admin.find? fun r => r.id == id with
  | none => rfl
  | some row => simp [on_selectMemberships]

theorem on_listAdmins : listAdmins.run Dialect.sqlite.exec s = (s, s.admins) := by
  simp only [listAdmins, run_bind, run_call, on_selectAdmins]
  refine run_forEach Dialect.sqlite.exec (fun row => ?_) s.admin
  simp [on_selectMemberships]

theorem on_canManageRealm (realmId : String) :
    (canManageRealm requester realmId).run Dialect.sqlite.exec s =
      (s, s.manages requester realmId) := by
  unfold canManageRealm Rows.manages
  cases hmember : requester.realms.contains realmId with
  | true => simp
  | false => cases hsuper : requester.isSuperAdmin <;> simp [on_listAdmins]

theorem on_canManageAll (rs : List String) :
    (canManageAll requester rs).run Dialect.sqlite.exec s =
      (s, rs.all (s.manages requester)) := by
  induction rs with
  | nil => rfl
  | cons r rs ih =>
    simp only [canManageAll, run_bind, on_canManageRealm, List.all_cons]
    cases s.manages requester r with
    | false => rfl
    | true => exact ih

theorem on_canManageAdminRealms (rs : List String) :
    (canManageAdminRealms requester rs).run Dialect.sqlite.exec s =
      (s, s.managesAll requester rs) := by
  unfold canManageAdminRealms Rows.managesAll
  split
  · rfl
  · exact on_canManageAll rs

end
end Queries

def Database.attempted {ε : Type} (db : Database) (result : Except ε Database) :
    Rows × Except ε Unit :=
  match result with
  | .error e => (db.toRows, .error e)
  | .ok db => (db.toRows, .ok ())

def rowsOf {ε α : Type} (o : Outcome Database ε α) : Rows × Except ε α :=
  (o.state.toRows, o.result)

namespace Queries
variable {db : Database}

theorem any_key {α κ : Type} [DecidableEq κ] {key : α → κ} (t : Table α κ key) (k : κ)
    [Decidable (k ∈ t.keys)] :
    t.rows.any (fun x => decide (key x = k)) = decide (k ∈ t.keys) := by
  rw [Bool.eq_iff_iff]
  simp [Table.keys, List.any_eq_true]

theorem exec_insertRealm (realm : Realm) :
    Dialect.sqlite.exec (.insertRealm realm) db.toRows = Query.insertRow
      (Database.realmIdCheck realm.id) (decide (realm.id ∈ db.realm.keys)) true db.toRows
      { db.toRows with realm := db.realm.rows ++ [realm] } := by
  rw [← any_key db.realm realm.id]
  simp only [Dialect.exec, Query.exec, same_one]
  rfl

@[simp] theorem run_createRealm (realm : Realm) :
    (createRealm realm).run Dialect.sqlite.exec db.toRows =
      db.attempted (db.createRealm realm) := by
  simp only [createRealm, run_bind, run_call, run_done, exec_insertRealm, Query.insertRow,
    Database.createRealm]
  cases Database.realmIdCheck realm.id with
  | false => rfl
  | true =>
    by_cases hkey : realm.id ∈ db.realm.keys
    · simp [hkey, fromInsert, Database.attempted]
    · simp [hkey, fromInsert, Database.attempted, Database.toRows, Table.insert]

@[simp] theorem run_getRealm (id : String) :
    (getRealm id).run Dialect.sqlite.exec db.toRows = (db.toRows, db.getRealm id) :=
  on_getRealm id

@[simp] theorem run_updateRealm (realm : Realm) :
    (updateRealm realm).run Dialect.sqlite.exec db.toRows =
      ((db.updateRealm realm).toRows, ()) := by
  simp only [updateRealm, run_call, Dialect.exec, Query.exec, same_one]
  rfl

@[simp] theorem run_deleteRealm (id : String) :
    (deleteRealm id).run Dialect.sqlite.exec db.toRows = ((db.deleteRealm id).toRows, ()) := by
  simp only [deleteRealm, run_call, Dialect.exec, Query.exec, same_one]
  rfl

theorem isEntry_key (realm username : String) :
    Query.isEntry Dialect.sqlite.same realm username =
      fun r => decide (r.key = (realm, username)) := by
  rw [isEntry_columns]
  funext r
  rw [Bool.eq_iff_iff]
  simp [UserPassRow.key]

theorem findEntry_toRows (realm username : String) :
    db.toRows.findEntry realm username = db.userpass.find? (realm, username) := by
  unfold Rows.findEntry
  rw [← isEntry_columns, isEntry_key]
  rfl

@[simp] theorem run_getUserpass (realm username : String) :
    (getUserpass realm username).run Dialect.sqlite.exec db.toRows =
      (db.toRows, db.getUserpass realm username) := by
  rw [on_getUserpass, findEntry_toRows]
  rfl

theorem exec_insertUserpass (u : UserPass) :
    Dialect.sqlite.exec (.insertUserpass u) db.toRows = Query.insertRow true
      (decide ((u.realm, u.username) ∈ db.userpass.keys)) (decide (u.realm ∈ db.realm.keys))
      db.toRows { db.toRows with userpass := db.userpass.rows ++ [Query.userpassRow u] } := by
  rw [← any_key db.userpass, ← any_key db.realm]
  simp only [Dialect.exec, Query.exec, same_one, isEntry_key]
  rfl

@[simp] theorem run_createUserpass (u : UserPass) :
    (createUserpass u).run Dialect.sqlite.exec db.toRows =
      db.attempted (db.createUserpass u) := by
  simp only [createUserpass, run_bind, run_call, run_done, exec_insertUserpass, Query.insertRow,
    Database.createUserpass]
  by_cases hkey : (u.realm, u.username) ∈ db.userpass.keys
  · simp [hkey, fromInsert, Database.attempted]
  · by_cases hrealm : u.realm ∈ db.realm.keys
    · simp [hkey, hrealm, fromInsert, Database.attempted, Database.toRows, Table.insert,
        Query.userpassRow]
    · simp [hkey, hrealm, fromInsert, Database.attempted]

@[simp] theorem run_updateUserpass (u : UserPass) :
    (updateUserpass u).run Dialect.sqlite.exec db.toRows =
      ((db.updateUserpass u).toRows, ()) := by
  simp only [updateUserpass, run_call, Dialect.exec, Query.exec, Query.setUserpass,
    isEntry_columns]
  rfl

@[simp] theorem run_updateUserpassMetadata (realm username : String) (changePassword : Bool)
    (roles : List String) :
    (updateUserpassMetadata realm username changePassword roles).run Dialect.sqlite.exec
      db.toRows = ((db.updateUserpassMetadata realm username changePassword roles).toRows, ()) := by
  simp only [updateUserpassMetadata, run_call, Dialect.exec, Query.exec, Query.setUserpass,
    isEntry_columns]
  rfl

@[simp] theorem run_deleteUserpass (realm username : String) :
    (deleteUserpass realm username).run Dialect.sqlite.exec db.toRows =
      ((db.deleteUserpass realm username).toRows, ()) := by
  simp only [deleteUserpass, run_call, Dialect.exec, Query.exec, isEntry_columns]
  rfl

@[simp] theorem run_deleteUserpassByUsername (username : String) :
    (deleteUserpassByUsername username).run Dialect.sqlite.exec db.toRows =
      ((db.deleteUserpassByUsername username).toRows, ()) := by
  simp only [deleteUserpassByUsername, run_call, Dialect.exec, Query.exec, same_one]
  rfl

@[simp] theorem run_listUserpassByRealm (realm : String) :
    (listUserpassByRealm realm).run Dialect.sqlite.exec db.toRows =
      (db.toRows, toUserPasses (db.userpass.rows.filter (fun r => r.realm == realm))) := by
  simp only [listUserpassByRealm, run_bind, run_call, run_done, Dialect.exec, Query.exec, same_one]
  rfl

@[simp] theorem run_listAllUserpass :
    listAllUserpass.run Dialect.sqlite.exec db.toRows =
      (db.toRows, toUserPasses db.userpass.rows) := rfl

@[simp] theorem run_listRealms :
    listRealms.run Dialect.sqlite.exec db.toRows = (db.toRows, db.realm.rows) := rfl

theorem exec_insertMembership (adminId realmId : String) :
    Dialect.sqlite.exec (.insertMembership adminId realmId) db.toRows =
      db.attempted (db.insertAdminRealm adminId realmId) := by
  have hkey : (fun r : AdminRealmRow =>
      Dialect.sqlite.same [adminId, realmId] [r.adminId, r.realmId]) =
      fun r => decide (r.key = (adminId, realmId)) := by
    funext r
    rw [same_two, Bool.eq_iff_iff]
    simp [AdminRealmRow.key]
  have hexec : Dialect.sqlite.exec (.insertMembership adminId realmId) db.toRows =
      Query.insertRow true (decide ((adminId, realmId) ∈ db.adminRealms.keys))
        (decide (adminId ∈ db.admin.keys) && decide (realmId ∈ db.realm.keys)) db.toRows
        { db.toRows with adminRealms := db.adminRealms.rows ++ [⟨adminId, realmId⟩] } := by
    rw [← any_key db.adminRealms, ← any_key db.admin, ← any_key db.realm]
    simp only [Dialect.exec, Query.exec, same_one, hkey]
    rfl
  rw [hexec]
  unfold Database.insertAdminRealm Query.insertRow
  by_cases htaken : (adminId, realmId) ∈ db.adminRealms.keys
  · simp [htaken, Database.attempted]
  · by_cases hparents : adminId ∈ db.admin.keys ∧ realmId ∈ db.realm.keys
    · simp [htaken, hparents, Database.attempted, Database.toRows, Table.insert]
    · simp [htaken, hparents, Database.attempted]

@[simp] theorem run_insertMemberships (adminId : String) (rs : List String) :
    (insertMemberships adminId rs).run Dialect.sqlite.exec db.toRows =
      rowsOf (db.insertAdminRealms adminId rs) := by
  induction rs generalizing db with
  | nil => rfl
  | cons r rs ih =>
    simp only [insertMemberships, run_bind, run_call, exec_insertMembership,
      Database.insertAdminRealms]
    cases db.insertAdminRealm adminId r with
    | error e => rfl
    | ok db' => exact ih

theorem exec_insertAdmin (a : Admin) :
    Dialect.sqlite.exec (.insertAdmin a) db.toRows = Query.insertRow true
      (decide (a.id ∈ db.admin.keys)) true db.toRows
      { db.toRows with admin := db.admin.rows ++ [AdminRow.ofAdmin a] } := by
  rw [← any_key db.admin a.id]
  simp only [Dialect.exec, Query.exec, same_one]
  rfl

@[simp] theorem run_createAdmin (a : Admin) :
    (createAdmin a).run Dialect.sqlite.exec db.toRows = rowsOf (db.createAdmin a) := by
  simp only [createAdmin, run_bind, run_call, exec_insertAdmin, Query.insertRow,
    Database.createAdmin]
  by_cases hkey : a.id ∈ db.admin.keys
  · simp [hkey, fromInsert, rowsOf, Outcome.error]
  · simp only [hkey, decide_false, Bool.false_eq_true, if_false, fromInsert, dite_false,
      Bool.true_eq_false]
    exact @run_insertMemberships (db.insertAdmin (AdminRow.ofAdmin a) hkey) a.id a.realms

theorem findAdmin_toRows (id : String) : db.toRows.findAdmin id = db.getAdmin id := by
  unfold Rows.findAdmin Database.getAdmin
  cases hfind : db.admin.find? id with
  | none => exact congrArg (Option.map _) hfind
  | some row =>
    have hid := (Table.find?_eq_some_iff.mp hfind).2
    refine (congrArg (Option.map _) hfind).trans ?_
    simp only [Option.map_some, Option.some.injEq, Statements.adminOf, Database.toAdmin, hid]
    rfl

@[simp] theorem run_getAdmin (id : String) :
    (getAdmin id).run Dialect.sqlite.exec db.toRows = (db.toRows, db.getAdmin id) := by
  rw [on_getAdmin, findAdmin_toRows]

@[simp] theorem run_updateAdmin (a : Admin) :
    (updateAdmin a).run Dialect.sqlite.exec db.toRows = rowsOf (db.updateAdmin a) := by
  have hset : Dialect.sqlite.exec (.updateAdmin a) db.toRows =
      ((db.setAdmin (fun r => r.id == a.id) (fun r => { AdminRow.ofAdmin a with id := r.id })
        (fun _ => rfl)).toRows, ()) := by
    simp only [Dialect.exec, Query.exec, Query.setAdmin, same_one, Bool.and_true]
    rfl
  have hclear : ∀ db : Database, Dialect.sqlite.exec (.deleteMemberships a.id) db.toRows =
      ((db.clearMemberships a.id).toRows, ()) := by
    intro db
    simp only [Dialect.exec, Query.exec, same_one]
    rfl
  simp only [updateAdmin, run_bind, run_call, hset, hclear, run_insertMemberships]
  rfl

@[simp] theorem run_deleteAdmin (id : String) :
    (deleteAdmin id).run Dialect.sqlite.exec db.toRows = ((db.deleteAdmin id).toRows, ()) := by
  simp only [deleteAdmin, run_call, Dialect.exec, Query.exec, same_one]
  rfl

@[simp] theorem run_listAdmins :
    listAdmins.run Dialect.sqlite.exec db.toRows = (db.toRows, db.admin.rows.map db.toAdmin) :=
  on_listAdmins

theorem totpTarget_eq (username : String) :
    (fun r : AdminRow => Dialect.sqlite.same [username] [r.id] && Query.hasLogin r) =
      AdminRow.totpTarget username := by
  funext r
  rw [same_one]
  rfl

@[simp] theorem run_disableTotp (username : String) :
    (disableTotp username).run Dialect.sqlite.exec db.toRows =
      ((db.disableTotp username).toRows, ()) := by
  have htarget := totpTarget_eq username
  simp only [funext_iff] at htarget
  simp only [disableTotp, run_call, Dialect.exec, Query.exec, Query.setAdmin, htarget]
  rfl

theorem perm_listAdmins (db : Database) : (db.admin.rows.map db.toAdmin).Perm db.listAdmins :=
  ((List.perm_insertionSort _ _).map db.toAdmin).symm

theorem manages_toRows {requester : Admin} :
    db.toRows.manages requester = fun r => AuthVerifier.canManageRealm requester r db := by
  funext r
  have hclaimed : (db.toRows.admins.any fun a => a.realms.contains r) =
      db.listAdmins.any fun a => a.realms.contains r := (perm_listAdmins db).any_eq
  unfold Rows.manages AuthVerifier.canManageRealm
  rw [hclaimed]
  cases requester.realms.contains r with
  | true => rfl
  | false => cases requester.isSuperAdmin <;> rfl

@[simp] theorem run_canManageRealm {requester : Admin} (r : String) :
    (canManageRealm requester r).run Dialect.sqlite.exec db.toRows =
      (db.toRows, AuthVerifier.canManageRealm requester r db) := by
  rw [on_canManageRealm, manages_toRows]

@[simp] theorem run_canManageAdminRealms {requester : Admin} (rs : List String) :
    (canManageAdminRealms requester rs).run Dialect.sqlite.exec db.toRows =
      (db.toRows, AuthVerifier.canManageAdminRealms requester rs db) := by
  rw [on_canManageAdminRealms, Rows.managesAll, manages_toRows]
  rfl

end Queries

inductive SameListing : Statements.Response → Statements.Response → Prop where
  | refl (r : Statements.Response) : SameListing r r
  | admins (a b : List Admin) (h : a.Perm b) : SameListing
      (.ok { status := 200, body := .admins a }) (.ok { status := 200, body := .admins b })
  | realms (a b : List Realm) (h : a.Perm b) : SameListing
      (.ok { status := 200, body := .realms a }) (.ok { status := 200, body := .realms b })
  | userpassList (a b : List UserPass) (h : a.Perm b) : SameListing
      (.ok { status := 200, body := .userpassList a })
      (.ok { status := 200, body := .userpassList b })

namespace QueryHandlers
open Queries
variable {X : Externals} {params : ServerParams} {requester : Admin} {db : Database}

def Follows (p : QueryProg Response) (db : Database)
    (handler : Outcome Database AuthError HttpResponse) : Prop :=
  (p.run Dialect.sqlite.exec db.toRows).1 = handler.state.toRows ∧
    SameListing (p.run Dialect.sqlite.exec db.toRows).2 handler.result

theorem Follows.of_eq {p : QueryProg Response} {o : Outcome Database AuthError HttpResponse}
    (h : p.run Dialect.sqlite.exec db.toRows = rowsOf o) : Follows p db o := by
  refine ⟨congrArg Prod.fst h, ?_⟩
  rw [h]
  exact .refl _

@[simp] theorem run_storeAdmin (a : Admin) :
    (storeAdmin a).run Dialect.sqlite.exec db.toRows = rowsOf (Endpoints.storeAdmin db a) := by
  simp only [storeAdmin, run_bind, run_updateAdmin, rowsOf, Endpoints.storeAdmin, Outcome.bind,
    Outcome.mapError, run_done]
  cases (db.updateAdmin a).result <;> rfl

theorem run_createAdmin (body : Admin) :
    (createAdmin requester body).run Dialect.sqlite.exec db.toRows =
      rowsOf (Endpoints.createAdmin requester body db) := by
  simp only [createAdmin, Endpoints.createAdmin, run_bind, run_canManageAdminRealms]
  cases AuthVerifier.canManageAdminRealms requester body.realms db with
  | false => rfl
  | true =>
    simp only [run_bind, Queries.run_createAdmin, rowsOf, Outcome.bind, Outcome.mapError, run_done,
      Bool.true_eq_false, if_false]
    cases (db.createAdmin body).result <;> rfl

theorem run_getAdmin (id : String) :
    (getAdmin requester id).run Dialect.sqlite.exec db.toRows =
      rowsOf (Endpoints.getAdmin requester id db) := by
  simp only [getAdmin, Endpoints.getAdmin, run_bind, Queries.run_getAdmin]
  cases db.getAdmin id with
  | none => rfl
  | some target =>
    simp only [run_bind, run_canManageAdminRealms]
    cases AuthVerifier.canManageAdminRealms requester target.realms db <;> rfl

theorem run_updateAdmin (id : String) (body : Admin) :
    (updateAdmin requester id body).run Dialect.sqlite.exec db.toRows =
      rowsOf (Endpoints.updateAdmin requester id body db) := by
  simp only [updateAdmin, Endpoints.updateAdmin, run_bind, Queries.run_getAdmin]
  cases db.getAdmin id with
  | none => rfl
  | some target =>
    simp only [run_bind, run_canManageAdminRealms]
    cases AuthVerifier.canManageAdminRealms requester target.realms db with
    | false => rfl
    | true =>
      simp only [run_bind, run_canManageAdminRealms]
      cases AuthVerifier.canManageAdminRealms requester body.realms db with
      | false => rfl
      | true => simp

theorem run_deleteAdmin (id : String) :
    (deleteAdmin requester id).run Dialect.sqlite.exec db.toRows =
      rowsOf (Endpoints.deleteAdmin requester id db) := by
  simp only [deleteAdmin, Endpoints.deleteAdmin, run_bind, Queries.run_getAdmin]
  cases db.getAdmin id with
  | none =>
    cases hsuper : requester.isSuperAdmin with
    | false => rfl
    | true => simp [rowsOf, Outcome.ok]
  | some target =>
    simp only [run_bind, run_canManageAdminRealms]
    cases AuthVerifier.canManageAdminRealms requester target.realms db with
    | false => rfl
    | true =>
      cases huser : target.userpass with
      | none => simp [rowsOf, Outcome.ok]
      | some username => simp [rowsOf, Outcome.ok]

theorem run_addAdminToRealm (id realm : String) :
    (addAdminToRealm requester id realm).run Dialect.sqlite.exec db.toRows =
      rowsOf (Endpoints.addAdminToRealm requester id realm db) := by
  simp only [addAdminToRealm, Endpoints.addAdminToRealm, run_bind, run_canManageRealm]
  cases AuthVerifier.canManageRealm requester realm db with
  | false => rfl
  | true =>
    simp only [run_bind, Queries.run_getAdmin, Bool.true_eq_false, if_false]
    cases db.getAdmin id with
    | none => rfl
    | some admin =>
      cases hempty : admin.realms.isEmpty with
      | true =>
        simp only [run_bind, hempty, if_true, run_done, Bool.true_eq_false, false_and, if_false]
        split <;> simp
        rfl
      | false =>
        simp only [run_bind, hempty, Bool.false_eq_true, if_false, run_canManageAdminRealms,
          true_and]
        cases AuthVerifier.canManageAdminRealms requester admin.realms db with
        | false => rfl
        | true =>
          simp only [Bool.true_eq_false, if_false]
          split <;> simp
          rfl

theorem run_removeAdminFromRealm (id realm : String) :
    (removeAdminFromRealm requester id realm).run Dialect.sqlite.exec db.toRows =
      rowsOf (Endpoints.removeAdminFromRealm requester id realm db) := by
  simp only [removeAdminFromRealm, Endpoints.removeAdminFromRealm, run_bind, run_canManageRealm]
  cases AuthVerifier.canManageRealm requester realm db with
  | false => rfl
  | true =>
    simp only [run_bind, Queries.run_getAdmin, Bool.true_eq_false, if_false]
    cases db.getAdmin id with
    | none => rfl
    | some admin =>
      simp only [run_bind, run_canManageAdminRealms]
      cases AuthVerifier.canManageAdminRealms requester admin.realms db with
      | false => rfl
      | true =>
        simp only [Bool.true_eq_false, if_false]
        split
        · simp
        · rfl

theorem run_createRealm (body : Realm) :
    (createRealm X params requester body).run Dialect.sqlite.exec db.toRows =
      rowsOf (Endpoints.createRealm X params requester body db) := by
  unfold createRealm Endpoints.createRealm
  split
  · rfl
  · cases Endpoints.checkSamlParams X params body with
    | error e => rfl
    | ok realm =>
      simp only [run_bind, Queries.run_createRealm, run_done]
      cases db.createRealm realm <;> rfl

theorem run_getRealm (id : String) :
    (getRealm requester id).run Dialect.sqlite.exec db.toRows =
      rowsOf (Endpoints.getRealm requester id db) := by
  unfold getRealm Endpoints.getRealm
  split
  · rfl
  · simp only [run_bind, Queries.run_getRealm]
    cases db.getRealm id <;> rfl

theorem run_deleteRealm (id : String) :
    (deleteRealm requester id).run Dialect.sqlite.exec db.toRows =
      rowsOf (Endpoints.deleteRealm requester id db) := by
  unfold deleteRealm Endpoints.deleteRealm
  split
  · rfl
  · simp only [run_bind, Queries.run_deleteRealm]
    rfl

theorem run_managing {realm : String} {refusal : AuthError} {next : QueryProg Response}
    {handler : Outcome Database AuthError HttpResponse}
    (h : next.run Dialect.sqlite.exec db.toRows = rowsOf handler) :
    (managing requester realm refusal next).run Dialect.sqlite.exec db.toRows =
      rowsOf (if AuthVerifier.canManageRealm requester realm db = false then .error db refusal
        else handler) := by
  simp only [managing, run_bind, run_canManageRealm]
  cases AuthVerifier.canManageRealm requester realm db with
  | false => rfl
  | true => exact h

theorem run_updateRealm (id : String) (body : Realm) :
    (updateRealm X params requester id body).run Dialect.sqlite.exec db.toRows =
      rowsOf (Endpoints.updateRealm X params requester id body db) := by
  refine run_managing ?_
  cases Endpoints.checkSamlParams X params { body with id := id } with
  | error e => rfl
  | ok realm =>
    simp only [run_bind, Queries.run_updateRealm]
    rfl

theorem run_getUserpass (realm username : String) :
    (getUserpass requester realm username).run Dialect.sqlite.exec db.toRows =
      rowsOf (Endpoints.getUserpass requester realm username db) := by
  refine run_managing ?_
  simp only [run_bind, Queries.run_getUserpass]
  cases db.getUserpass realm username <;> rfl

theorem run_stored (admin : Admin) (response : HttpResponse) :
    ((Queries.updateAdmin admin).bind fun stored => done (answer response stored)).run
      Dialect.sqlite.exec db.toRows =
      rowsOf (((db.updateAdmin admin).mapError AuthError.ofDb).bind
        fun db () => .ok db response) := by
  simp only [run_bind, Queries.run_updateAdmin, run_done, rowsOf, Outcome.bind, Outcome.mapError]
  cases (db.updateAdmin admin).result <;> rfl

theorem run_autoLink (realm username : String) (response : HttpResponse) :
    ((autoLink realm username).bind fun linked => done (answer response linked)).run
      Dialect.sqlite.exec db.toRows =
      rowsOf ((Endpoints.autoLink db realm username).bind fun db () => .ok db response) := by
  unfold autoLink relink Endpoints.autoLink
  split
  · simp only [run_bind, Queries.run_getAdmin]
    cases db.getAdmin username with
    | none => rfl
    | some admin =>
      by_cases hlinked : admin.userpass = some username
      · simp only [hlinked, if_true]
        rfl
      · simp only [hlinked, if_false]
        rw [← run_stored, run_bind]
  · rfl

theorem run_autoUnlink (realm username : String) (response : HttpResponse) :
    ((autoUnlink realm username).bind fun unlinked => done (answer response unlinked)).run
      Dialect.sqlite.exec db.toRows =
      rowsOf ((Endpoints.autoUnlink db realm username).bind fun db () => .ok db response) := by
  unfold autoUnlink relink Endpoints.autoUnlink
  split
  · simp only [run_bind, Queries.run_getAdmin]
    cases db.getAdmin username with
    | none => rfl
    | some admin =>
      by_cases hlinked : admin.userpass = some username
      · simp only [hlinked, if_true]
        rw [← run_stored, run_bind]
      · simp only [hlinked, if_false]
        rfl
  · rfl

theorem run_createUserpass (salt realm : String) (body : UserPass) :
    (createUserpass X salt requester realm body).run Dialect.sqlite.exec db.toRows =
      rowsOf (Endpoints.createUserpass X salt requester realm body db) := by
  refine run_managing ?_
  cases checkExtraClaims X body.extraClaims with
  | error e => rfl
  | ok _ =>
    dsimp only
    cases Endpoints.createdHash X salt body.passwordInput with
    | error e => rfl
    | ok hash =>
      simp only [run_bind, Queries.run_createUserpass]
      cases db.createUserpass _ with
      | error e => cases e <;> rfl
      | ok db' => exact run_autoLink realm body.username _

theorem run_deleteUserpass (realm username : String) :
    (deleteUserpass requester realm username).run Dialect.sqlite.exec db.toRows =
      rowsOf (Endpoints.deleteUserpass requester realm username db) := by
  refine run_managing ?_
  rw [run_bind, Queries.run_deleteUserpass]
  exact run_autoUnlink realm username _

theorem run_extraClaimsChanged (realm username : String) (requested : Option ExtraClaims) :
    (extraClaimsChanged realm username requested).run Dialect.sqlite.exec db.toRows =
      (db.toRows, Endpoints.extraClaimsChanged db realm username requested) := by
  cases requested with
  | none => rfl
  | some requested =>
    simp only [extraClaimsChanged, Endpoints.extraClaimsChanged, run_bind, Queries.run_getUserpass]
    cases db.getUserpass realm username with
    | none => rfl
    | some existing =>
      dsimp only
      cases existing.extraClaims <;> rfl

theorem run_updateUserpass (salt realm username : String) (body : UserPass) :
    (updateUserpass X salt requester realm username body).run Dialect.sqlite.exec db.toRows =
      rowsOf (Endpoints.updateUserpass X salt requester realm username body db) := by
  refine run_managing ?_
  cases checkExtraClaims X body.extraClaims with
  | error e => rfl
  | ok _ =>
    dsimp only
    cases body.passwordInput with
    | none =>
      simp only [run_bind, run_extraClaimsChanged]
      cases Endpoints.extraClaimsChanged db realm username body.extraClaims with
      | true => rfl
      | false =>
        simp only [run_bind, Queries.run_updateUserpassMetadata]
        rfl
    | some input =>
      cases input with
      | plaintext plaintext =>
        dsimp only
        cases hashPasswordWithArgon2 X salt plaintext with
        | error e => rfl
        | ok hash =>
          simp only [run_bind, Queries.run_updateUserpass]
          rfl
      | hashed hashed =>
        dsimp only
        cases validateArgon2PhcString X hashed with
        | error e => rfl
        | ok _ =>
          simp only [run_bind, Queries.run_updateUserpass]
          rfl

theorem run_totpGenerate (drawn : List UInt8) (realm : String) (body : TotpGenerateRequest) :
    (totpGenerate X drawn requester realm body).run Dialect.sqlite.exec db.toRows =
      rowsOf (Endpoints.totpGenerate X drawn requester realm body db) := by
  refine run_managing ?_
  simp only [run_bind, Queries.run_getRealm]
  cases db.getRealm realm with
  | none => rfl
  | some record =>
    dsimp only
    cases realmTotpParams record with
    | error e => rfl
    | ok totpParams =>
      dsimp only
      cases createTotpSecret X drawn (body.issuer.getD realm) body.username totpParams <;> rfl

theorem run_totpVerify (now : Int) (realm : String) (body : TotpVerifyRequest) :
    (totpVerify X now requester realm body).run Dialect.sqlite.exec db.toRows =
      rowsOf (Endpoints.totpVerify X now requester realm body db) := by
  have haccepts : Statements.totpAccepts X now realm body (db.getRealm realm) =
      Endpoints.totpAccepts X now realm body db := by
    unfold Statements.totpAccepts Endpoints.totpAccepts
    cases db.getRealm realm <;> rfl
  refine run_managing ?_
  simp only [run_bind, Queries.run_getRealm, haccepts]
  cases Endpoints.totpAccepts X now realm body db with
  | error e => rfl
  | ok _ =>
    simp only [enableTotp, Database.enableTotp, run_bind]
    cases Totps.fromSecret X body.secret (some realm) body.username none with
    | error e => rfl
    | ok totps =>
      have htarget := totpTarget_eq body.username
      simp only [funext_iff] at htarget
      simp only [run_bind, run_call, run_done, Dialect.exec, Query.exec, Query.setAdmin, htarget]
      rfl

theorem run_totpDisable (realm username : String) :
    (totpDisable requester realm username).run Dialect.sqlite.exec db.toRows =
      rowsOf (Endpoints.totpDisable requester realm username db) := by
  refine run_managing ?_
  simp only [run_bind, Queries.run_disableTotp]
  rfl

theorem claimedRealms_perm {a b : List Admin} (h : a.Perm b) (r : String) :
    (claimedRealms a).contains r = (claimedRealms b).contains r := by
  rw [Bool.eq_iff_iff]
  simp [claimedRealms, h.mem_iff]

theorem realmManageableGivenClaims_perm {a b : List Admin} (h : a.Perm b) (r : String) :
    realmManageableGivenClaims requester r (claimedRealms a) =
      realmManageableGivenClaims requester r (claimedRealms b) := by
  unfold realmManageableGivenClaims
  rw [claimedRealms_perm h]

theorem follows_listAdmins :
    Follows (listAdmins requester) db (Endpoints.listAdmins requester db) := by
  unfold listAdmins Endpoints.listAdmins
  split
  · exact .of_eq rfl
  · have hperm := perm_listAdmins db
    have hvisible :
        Endpoints.adminVisible requester (claimedRealms (db.admin.rows.map db.toAdmin)) =
        Endpoints.adminVisible requester (claimedRealms db.listAdmins) := by
      funext admin
      simp only [Endpoints.adminVisible, realmManageableGivenClaims_perm hperm]
    simp only [Follows, run_bind, Queries.run_listAdmins, run_done, hvisible]
    exact ⟨rfl, .admins _ _ (hperm.filter _)⟩

theorem follows_listRealms :
    Follows (listRealms requester) db (Endpoints.listRealms requester db) := by
  have hperm : db.realm.rows.Perm db.listRealms := (List.perm_insertionSort _ _).symm
  simp only [Follows, listRealms, Endpoints.listRealms, run_bind, Queries.run_listRealms, run_done]
  refine ⟨rfl, .realms _ _ ?_⟩
  split
  · exact hperm
  · exact hperm.filter _

theorem follows_listAllUserpass :
    Follows (listAllUserpass requester) db (Endpoints.listAllUserpass requester db) := by
  unfold listAllUserpass Endpoints.listAllUserpass
  split
  · exact .of_eq rfl
  · have hperm : (toUserPasses db.userpass.rows).Perm db.listAllUserpass :=
      ((List.perm_insertionSort _ _).map _).symm
    simp only [Follows, run_bind, Queries.run_listAdmins, Queries.run_listAllUserpass, run_done,
      realmManageableGivenClaims_perm (perm_listAdmins db)]
    exact ⟨rfl, .userpassList _ _ (hperm.filter _)⟩

theorem follows_listUserpassByRealm (realm : String) :
    Follows (listUserpassByRealm requester realm) db
      (Endpoints.listUserpassByRealm requester realm db) := by
  simp only [Follows, listUserpassByRealm, managing, Endpoints.listUserpassByRealm, run_bind,
    run_canManageRealm]
  cases AuthVerifier.canManageRealm requester realm db with
  | false => exact ⟨rfl, .refl _⟩
  | true =>
    simp only [run_bind, Queries.run_listUserpassByRealm, run_done, Bool.true_eq_false, if_false]
    exact ⟨rfl, .userpassList _ _ ((List.perm_insertionSort _ _).map _).symm⟩

theorem run_extractRealm (query : String) :
    (extractRealm query).run Dialect.sqlite.exec db.toRows =
      (db.toRows, AuthVerifier.extractRealm db query) := by
  unfold extractRealm AuthVerifier.extractRealm
  cases realmParameter query with
  | none => rfl
  | some id =>
    simp only [run_bind, Queries.run_getRealm]
    cases db.getRealm id <;> rfl

theorem run_validateUserpass (realm username password : String) :
    (validateUserpass X realm username password).run Dialect.sqlite.exec db.toRows =
      (db.toRows, db.validateUserpass X realm username password) := by
  have hrow : Dialect.sqlite.exec (.selectPassword realm username) db.toRows = (db.toRows,
      (db.userpass.find? (realm, username)).map fun r => (r.password, r.changePassword)) := by
    simp only [Dialect.exec, Query.exec, isEntry_key]
    rfl
  simp only [validateUserpass, Database.validateUserpass, run_bind, run_call, hrow]
  cases db.userpass.find? (realm, username) with
  | none => rfl
  | some r =>
    dsimp only [Option.map]
    cases verifyPasswordArgon2 X r.password password <;> rfl

theorem run_passwordLogin (query : String) (header : Option String) :
    (passwordLogin X query header).run Dialect.sqlite.exec db.toRows =
      (db.toRows, (AuthVerifier.extractRealm db query).bind fun realm =>
        AuthVerifier.usernamePasswordAuth X db realm header none) := by
  simp only [passwordLogin, run_bind, run_extractRealm]
  cases AuthVerifier.extractRealm db query with
  | error answer => rfl
  | ok realm =>
    simp only [usernamePasswordAuth, AuthVerifier.usernamePasswordAuth, Except.bind]
    cases extractBasicAuthCredentials X header with
    | none => rfl
    | some credentials => cases realm with
      | none => rfl
      | some realm =>
        dsimp only
        cases realm.authParams.usernamePasswordParams with
        | none => rfl
        | some params =>
          simp only [run_bind, run_validateUserpass]
          cases db.validateUserpass X realm.id credentials.1 credentials.2 with
          | error e => rfl
          | ok changePassword => cases changePassword with
            | false => rfl
            | true =>
              dsimp only
              split <;> rfl

theorem run_grantedClaims (realm : Realm) (username : String) :
    (grantedClaims realm.id username).run Dialect.sqlite.exec db.toRows =
      (db.toRows, AuthVerifier.grantedClaims db realm
        { username := username, authScheme := .usernamePassword }) := by
  simp only [grantedClaims, AuthVerifier.grantedClaims, run_bind, Queries.run_getUserpass, if_true]
  cases db.getUserpass realm.id username <;> rfl

theorem run_findAdminsByUserpass (username : String) :
    (findAdminsByUserpass username).run Dialect.sqlite.exec db.toRows =
      (db.toRows, db.findAdminsByAuthScheme X .usernamePassword username) := by
  have hids : (Dialect.sqlite.exec (.selectAdminIdsByUserpass username) db.toRows) = (db.toRows,
      (db.admin.rows.filter (fun r => r.credential X .usernamePassword == some username)).map
        AdminRow.id) := by
    have hname : (fun r : AdminRow =>
        r.userpass.any fun name => Dialect.sqlite.same [username] [name]) =
        fun r => r.credential X .usernamePassword == some username := by
      funext r
      simp only [same_one, AdminRow.credential]
      cases r.userpass <;> simp
    simp only [Dialect.exec, Query.exec, hname]
    rfl
  simp only [findAdminsByUserpass, run_bind, run_call, hids, run_done,
    run_forEach Dialect.sqlite.exec (@Queries.run_getAdmin db)]
  simp [Database.findAdminsByAuthScheme, List.filterMap_map]

theorem run_secondFactor (username : String) :
    ((secondFactor username).run Dialect.sqlite.exec db.toRows).1 = db.toRows ∧
      ((secondFactor username).run Dialect.sqlite.exec db.toRows).2.1.map (·.getD false) =
        db.isTotpEnabled username := by
  have hflag : Dialect.sqlite.exec (.selectTotpEnabled username) db.toRows = (db.toRows,
      (db.admin.rows.find? (AdminRow.totpTarget username)).map AdminRow.totpEnabled) := by
    rw [← totpTarget_eq]
    rfl
  simp only [secondFactor, run_bind, run_call, hflag, Database.isTotpEnabled]
  split
  · exact ⟨rfl, by simp [Option.map_map, Function.comp_def]⟩
  · exact ⟨rfl, by simp [Option.map_map, Function.comp_def]⟩

end QueryHandlers

theorem AdminCall.follows_queries (X : Externals) (params : ServerParams) (c : AdminCall)
    (db : Database) : QueryHandlers.Follows (c.queries X params) db
      (handleAdmin X params c.moment c.requester db c.request) := by
  obtain ⟨m, requester, request⟩ := c
  cases request with
  | createAdmin body => exact .of_eq (QueryHandlers.run_createAdmin body)
  | getAdmin id => exact .of_eq (QueryHandlers.run_getAdmin id)
  | updateAdmin id body => exact .of_eq (QueryHandlers.run_updateAdmin id body)
  | deleteAdmin id => exact .of_eq (QueryHandlers.run_deleteAdmin id)
  | listAdmins => exact QueryHandlers.follows_listAdmins
  | addAdminToRealm id realm => exact .of_eq (QueryHandlers.run_addAdminToRealm id realm)
  | removeAdminFromRealm id realm => exact .of_eq (QueryHandlers.run_removeAdminFromRealm id realm)
  | createRealm body => exact .of_eq (QueryHandlers.run_createRealm body)
  | getRealm realm => exact .of_eq (QueryHandlers.run_getRealm realm)
  | updateRealm realm body => exact .of_eq (QueryHandlers.run_updateRealm realm body)
  | deleteRealm realm => exact .of_eq (QueryHandlers.run_deleteRealm realm)
  | listRealms => exact QueryHandlers.follows_listRealms
  | createUserpass realm body => exact .of_eq (QueryHandlers.run_createUserpass m.salt realm body)
  | getUserpass realm user => exact .of_eq (QueryHandlers.run_getUserpass realm user)
  | updateUserpass realm user body =>
    exact .of_eq (QueryHandlers.run_updateUserpass m.salt realm user body)
  | deleteUserpass realm user => exact .of_eq (QueryHandlers.run_deleteUserpass realm user)
  | listUserpassByRealm realm => exact QueryHandlers.follows_listUserpassByRealm realm
  | listAllUserpass => exact QueryHandlers.follows_listAllUserpass
  | totpGenerate realm body => exact .of_eq (QueryHandlers.run_totpGenerate m.totpSecret realm body)
  | totpVerify realm body => exact .of_eq (QueryHandlers.run_totpVerify m.now realm body)
  | totpDisable realm user => exact .of_eq (QueryHandlers.run_totpDisable realm user)

end AuthVerifier
