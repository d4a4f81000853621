import AuthVerifier.Database
import AuthVerifier.Lib.Schedule

/-!
The SQL statements of `database/impls/*.rs` on the tables of realms, credentials and
administrators. The three files send the same statements; the engines differ in how they compare
key columns and in the texts these columns take. Rows are compared here, not their order, so
`ORDER BY` is left out.
-/

set_option autoImplicit false

namespace AuthVerifier
open Schedule

structure Rows where
  realm : List Realm
  userpass : List UserPassRow
  admin : List AdminRow
  adminRealms : List AdminRealmRow
  deriving DecidableEq

def Database.toRows (db : Database) : Rows :=
  ⟨db.realm.rows, db.userpass.rows, db.admin.rows, db.adminRealms.rows⟩

/-- To a comparison of key columns, texts of one weight are the same text. -/
structure Dialect where
  Weight : Type
  weight : String → Weight
  decEq : DecidableEq Weight
  takesRealmId : String → Bool
  takesKey : String → Bool

namespace Dialect

instance (D : Dialect) : DecidableEq D.Weight := D.decEq

def same (D : Dialect) (a b : List String) : Bool := a.map D.weight = b.map D.weight

/-- `TEXT` columns, compared bytewise. -/
def sqlite : Dialect where
  Weight := String
  weight := id
  decEq := inferInstance
  takesRealmId := Database.realmIdCheck
  takesKey := fun _ => true

def realmIdPattern (id : String) : Bool :=
  !id.isEmpty && id.toList.all (fun c => c.isAlphanum || c == '_' || c == '-')

/-- `TEXT` columns, compared bytewise; the pattern covers the whole id. -/
def postgres : Dialect := { sqlite with takesRealmId := realmIdPattern }

/-- `VARCHAR(255)` columns without a `COLLATE`, so under the collation of the server. -/
def mysql {W : Type} [DecidableEq W] (collation : String → W) (takesRealmId : String → Bool) :
    Dialect where
  Weight := W
  weight := collation
  decEq := inferInstance
  takesRealmId := fun id => takesRealmId id && decide (id.length ≤ 255)
  takesKey := fun text => text.length ≤ 255

theorem same_sqlite {a b : List String} : sqlite.same a b = decide (a = b) := by
  simp [same, sqlite]

theorem same_self (D : Dialect) (a : List String) : D.same a a = true := by
  simp [same]

end Dialect

inductive Query where
  | insertRealm (realm : Realm)
  | selectRealm (id : String)
  | updateRealm (realm : Realm)
  | deleteRealm (id : String)
  | selectRealms
  | insertUserpass (userpass : UserPass)
  | selectUserpass (realm username : String)
  | selectPassword (realm username : String)
  | updateUserpass (userpass : UserPass)
  | updateUserpassMetadata (realm username : String) (changePassword : Bool) (roles : List String)
  | deleteUserpass (realm username : String)
  | deleteUserpassByUsername (username : String)
  | selectUserpassByRealm (realm : String)
  | selectAllUserpass
  | insertAdmin (admin : Admin)
  | selectAdmin (id : String)
  | updateAdmin (admin : Admin)
  | deleteAdmin (id : String)
  | selectAdmins
  | selectAdminIdsByUserpass (username : String)
  | insertMembership (adminId realmId : String)
  | selectMemberships (adminId : String)
  | deleteMemberships (adminId : String)
  | enableTotp (username secret url : String)
  | disableTotp (username : String)
  | selectTotpSecret (username : String)
  | selectTotpEnabled (username : String)
  deriving DecidableEq

namespace Query

abbrev Answer : Query → Type
  | .insertRealm _ | .insertUserpass _ | .insertAdmin _ | .insertMembership .. =>
    Except SqlError Unit
  | .selectRealm _ => Option Realm
  | .selectRealms => List Realm
  | .selectUserpass .. => Option UserPassRow
  | .selectPassword .. => Option (String × Bool)
  | .selectUserpassByRealm _ | .selectAllUserpass => List UserPassRow
  | .selectAdmin _ => Option AdminRow
  | .selectAdmins => List AdminRow
  | .selectAdminIdsByUserpass _ | .selectMemberships _ => List String
  | .selectTotpSecret _ => Option (Option String)
  | .selectTotpEnabled _ => Option (Option Bool)
  | .updateRealm _ | .deleteRealm _ | .updateUserpass _ | .updateUserpassMetadata ..
  | .deleteUserpass .. | .deleteUserpassByUsername _ | .updateAdmin _ | .deleteAdmin _
  | .deleteMemberships _ | .enableTotp .. | .disableTotp _ => Unit

/-- `INSERT` of one row: the checks of its columns, of its key and of what it refers to. -/
def insertRow (takes taken referenced : Bool) (s inserted : Rows) : Rows × Except SqlError Unit :=
  if takes = false then (s, .error .check)
  else if taken then (s, .error .primaryKey)
  else if referenced = false then (s, .error .foreignKey)
  else (inserted, .ok ())

def userpassRow (u : UserPass) : UserPassRow :=
  ⟨u.realm, u.username, u.passwordHash, u.changePassword, u.roles, u.extraClaims⟩

def assignRealm (realm r : Realm) : Realm :=
  { r with
    authParams := realm.authParams
    sessionMaxAgeSeconds := realm.sessionMaxAgeSeconds
    sessionMaxStaleAgeSeconds := realm.sessionMaxStaleAgeSeconds
    certificateMaxAgeSeconds := realm.certificateMaxAgeSeconds }

/-- `userpass IS NOT NULL OR jwt IS NOT NULL`. -/
def hasLogin (r : AdminRow) : Bool := r.userpass.isSome || r.jwt.isSome

section
variable (same : List String → List String → Bool)

def isEntry (realm username : String) (r : UserPassRow) : Bool :=
  same [realm, username] [r.realm, r.username]

def setUserpass (s : Rows) (realm username : String) (f : UserPassRow → UserPassRow) : Rows :=
  { s with userpass := s.userpass.map fun r => if isEntry same realm username r then f r else r }

/-- `UPDATE admin SET f WHERE id = ? AND p`. -/
def setAdmin (s : Rows) (id : String) (p : AdminRow → Bool) (f : AdminRow → AdminRow) : Rows :=
  { s with admin := s.admin.map fun r => if same [id] [r.id] && p r then f r else r }

/-- A deletion from `realm` or `admin` cascades to the rows that refer to what it deletes. -/
def exec (takes : Bool) : (q : Query) → Rows → Rows × Answer q
  | .insertRealm realm, s => insertRow takes (s.realm.any fun r => same [realm.id] [r.id]) true s
      { s with realm := s.realm ++ [realm] }
  | .selectRealm id, s => (s, s.realm.find? fun r => same [id] [r.id])
  | .updateRealm realm, s =>
    ({ s with realm := s.realm.map fun r => if same [realm.id] [r.id] then assignRealm realm r else r },
      ())
  | .deleteRealm id, s =>
    ({ s with realm := s.realm.filter fun r => !same [id] [r.id]
              userpass := s.userpass.filter fun r => !same [id] [r.realm]
              adminRealms := s.adminRealms.filter fun r => !same [id] [r.realmId] }, ())
  | .selectRealms, s => (s, s.realm)
  | .insertUserpass u, s => insertRow takes
      (s.userpass.any (isEntry same u.realm u.username))
      (s.realm.any fun r => same [u.realm] [r.id]) s
      { s with userpass := s.userpass ++ [userpassRow u] }
  | .selectUserpass realm username, s =>
    (s, s.userpass.find? (isEntry same realm username))
  | .selectPassword realm username, s =>
    (s, (s.userpass.find? (isEntry same realm username)).map
      fun r => (r.password, r.changePassword))
  | .updateUserpass u, s => (setUserpass same s u.realm u.username (fun r => { r with
      password := u.passwordHash, changePassword := u.changePassword, roles := u.roles,
      extraClaims := u.extraClaims }), ())
  | .updateUserpassMetadata realm username changePassword roles, s =>
    (setUserpass same s realm username
      (fun r => { r with changePassword := changePassword, roles := roles }), ())
  | .deleteUserpass realm username, s =>
    ({ s with userpass := s.userpass.filter fun r => !isEntry same realm username r }, ())
  | .deleteUserpassByUsername username, s =>
    ({ s with userpass := s.userpass.filter fun r => !same [username] [r.username] }, ())
  | .selectUserpassByRealm realm, s => (s, s.userpass.filter fun r => same [realm] [r.realm])
  | .selectAllUserpass, s => (s, s.userpass)
  | .insertAdmin a, s => insertRow takes (s.admin.any fun r => same [a.id] [r.id]) true s
      { s with admin := s.admin ++ [AdminRow.ofAdmin a] }
  | .selectAdmin id, s => (s, s.admin.find? fun r => same [id] [r.id])
  | .updateAdmin a, s => (setAdmin same s a.id (fun _ => true)
      (fun r => { AdminRow.ofAdmin a with id := r.id }), ())
  | .deleteAdmin id, s =>
    ({ s with admin := s.admin.filter fun r => !same [id] [r.id]
              adminRealms := s.adminRealms.filter fun r => !same [id] [r.adminId] }, ())
  | .selectAdmins, s => (s, s.admin)
  | .selectAdminIdsByUserpass username, s =>
    (s, (s.admin.filter fun r => r.userpass.any fun name => same [username] [name]).map AdminRow.id)
  | .insertMembership adminId realmId, s => insertRow takes
      (s.adminRealms.any fun r => same [adminId, realmId] [r.adminId, r.realmId])
      ((s.admin.any fun r => same [adminId] [r.id]) && s.realm.any fun r => same [realmId] [r.id]) s
      { s with adminRealms := s.adminRealms ++ [⟨adminId, realmId⟩] }
  | .selectMemberships adminId, s =>
    (s, (s.adminRealms.filter fun r => same [adminId] [r.adminId]).map AdminRealmRow.realmId)
  | .deleteMemberships adminId, s =>
    ({ s with adminRealms := s.adminRealms.filter fun r => !same [adminId] [r.adminId] }, ())
  | .enableTotp username secret url, s => (setAdmin same s username hasLogin (fun r => { r with
      totpEnabled := some true, totpSecret := some secret, totpAuthUrl := some url }), ())
  | .disableTotp username, s => (setAdmin same s username hasLogin (fun r => { r with
      totpEnabled := some false, totpSecret := none, totpAuthUrl := none }), ())
  | .selectTotpSecret username, s =>
    (s, (s.admin.find? fun r => same [username] [r.id] && hasLogin r).map AdminRow.totpSecret)
  | .selectTotpEnabled username, s =>
    (s, (s.admin.find? fun r => same [username] [r.id] && hasLogin r).map AdminRow.totpEnabled)

/-- The realms of the records and credentials that a statement reads or changes through the realm id
it is given. -/
def realmsTouched : Query → Rows → List String
  | .insertRealm realm, s =>
    realm.id :: (s.realm.filter fun r => same [realm.id] [r.id]).map Realm.id
  | .selectRealm id, s => (s.realm.filter fun r => same [id] [r.id]).map Realm.id
  | .updateRealm realm, s => (s.realm.filter fun r => same [realm.id] [r.id]).map Realm.id
  | .deleteRealm id, s => (s.realm.filter fun r => same [id] [r.id]).map Realm.id
      ++ (s.userpass.filter fun r => same [id] [r.realm]).map UserPassRow.realm
      ++ (s.adminRealms.filter fun r => same [id] [r.realmId]).map AdminRealmRow.realmId
  | .insertUserpass u, s => u.realm ::
      ((s.userpass.filter (isEntry same u.realm u.username)).map UserPassRow.realm
      ++ (s.realm.filter fun r => same [u.realm] [r.id]).map Realm.id)
  | .selectUserpass realm username, s | .selectPassword realm username, s
  | .updateUserpassMetadata realm username _ _, s | .deleteUserpass realm username, s =>
    (s.userpass.filter (isEntry same realm username)).map UserPassRow.realm
  | .updateUserpass u, s =>
    (s.userpass.filter (isEntry same u.realm u.username)).map UserPassRow.realm
  | .selectUserpassByRealm realm, s =>
    (s.userpass.filter fun r => same [realm] [r.realm]).map UserPassRow.realm
  | _, _ => []

end

/-- The realm id that `realmsTouched` follows. -/
def realmKey : Query → Option String
  | .insertRealm realm | .updateRealm realm => some realm.id
  | .selectRealm id | .deleteRealm id => some id
  | .insertUserpass u | .updateUserpass u => some u.realm
  | .selectUserpass realm _ | .selectPassword realm _ | .updateUserpassMetadata realm ..
  | .deleteUserpass realm _ | .selectUserpassByRealm realm => some realm
  | _ => none

def against {ρ : Type} (key : List String) (stored : ρ → List String) (rows : List ρ) :
    List (List String × List String) := rows.map fun r => (key, stored r)

def comparisons : Query → Rows → List (List String × List String)
  | .insertRealm realm, s | .updateRealm realm, s =>
    against [realm.id] (fun r => [r.id]) s.realm
  | .selectRealm id, s => against [id] (fun r => [r.id]) s.realm
  | .deleteRealm id, s => against [id] (fun r => [r.id]) s.realm
      ++ against [id] (fun r => [r.realm]) s.userpass
      ++ against [id] (fun r => [r.realmId]) s.adminRealms
  | .insertUserpass u, s =>
    against [u.realm, u.username] (fun r => [r.realm, r.username]) s.userpass
      ++ against [u.realm] (fun r => [r.id]) s.realm
  | .updateUserpass u, s =>
    against [u.realm, u.username] (fun r => [r.realm, r.username]) s.userpass
  | .selectUserpass realm username, s | .selectPassword realm username, s
  | .updateUserpassMetadata realm username _ _, s | .deleteUserpass realm username, s =>
    against [realm, username] (fun r => [r.realm, r.username]) s.userpass
  | .deleteUserpassByUsername username, s => against [username] (fun r => [r.username]) s.userpass
  | .selectUserpassByRealm realm, s => against [realm] (fun r => [r.realm]) s.userpass
  | .insertAdmin a, s | .updateAdmin a, s => against [a.id] (fun r => [r.id]) s.admin
  | .selectAdmin id, s | .enableTotp id _ _, s | .disableTotp id, s | .selectTotpSecret id, s
  | .selectTotpEnabled id, s => against [id] (fun r => [r.id]) s.admin
  | .deleteAdmin id, s => against [id] (fun r => [r.id]) s.admin
      ++ against [id] (fun r => [r.adminId]) s.adminRealms
  | .selectAdminIdsByUserpass username, s =>
    against [username] (fun name => [name]) (s.admin.filterMap AdminRow.userpass)
  | .insertMembership adminId realmId, s =>
    against [adminId, realmId] (fun r => [r.adminId, r.realmId]) s.adminRealms
      ++ against [adminId] (fun r => [r.id]) s.admin
      ++ against [realmId] (fun r => [r.id]) s.realm
  | .selectMemberships adminId, s | .deleteMemberships adminId, s =>
    against [adminId] (fun r => [r.adminId]) s.adminRealms
  | .selectRealms, _ | .selectAllUserpass, _ | .selectAdmins, _ => []

end Query

namespace Dialect

def takes (D : Dialect) : Query → Bool
  | .insertRealm realm => D.takesRealmId realm.id
  | .insertUserpass u => D.takesKey u.realm && D.takesKey u.username
  | .insertAdmin a => D.takesKey a.id
  | .insertMembership adminId realmId => D.takesKey adminId && D.takesKey realmId
  | _ => true

def exec (D : Dialect) (q : Query) (s : Rows) : Rows × q.Answer := q.exec D.same (D.takes q) s

def Exact (D : Dialect) (q : Query) (s : Rows) : Prop :=
  ∀ c ∈ q.comparisons s, D.same c.1 c.2 = true ↔ c.1 = c.2

instance (D : Dialect) (q : Query) (s : Rows) : Decidable (D.Exact q s) :=
  inferInstanceAs (Decidable (∀ c ∈ q.comparisons s, _))

end Dialect
end AuthVerifier
