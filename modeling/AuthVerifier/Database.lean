import AuthVerifier.Lib.Outcome
import AuthVerifier.Lib.Table
import AuthVerifier.Passwords
import AuthVerifier.Totp
import Mathlib.Data.List.Sort

/-!
The credential database, following `database/impls/sqlite.rs` and its schema. Primary keys are
part of the tables and foreign keys are fields of `Database`, so a `Database` is a state the
schema admits. Each `def` is one method of the `Database` trait; a method that issues several
statements returns the state its last executed statement left.
-/

set_option autoImplicit false

namespace AuthVerifier
open Effects Relational

structure UserPassRow where
  realm : String
  username : String
  password : String
  changePassword : Bool
  roles : List String
  extraClaims : Option ExtraClaims
  deriving DecidableEq

structure AdminRow where
  id : String
  userpass : Option String
  jwt : Option String
  fido2 : Option String
  digitalCredentials : Option (List (String × String))
  certificate : Option String
  totpEnabled : Option Bool
  totpSecret : Option String
  totpAuthUrl : Option String
  deriving DecidableEq

structure AdminRealmRow where
  adminId : String
  realmId : String
  deriving DecidableEq

def UserPassRow.key (r : UserPassRow) : String × String := (r.realm, r.username)
def AdminRealmRow.key (r : AdminRealmRow) : String × String := (r.adminId, r.realmId)

/-- A row as `UserPass`, with the password column the statement selected. -/
def UserPassRow.toUserPass (r : UserPassRow) (password : String) : UserPass :=
  { realm := r.realm, username := r.username, passwordHash := password, passwordInput := none,
    changePassword := r.changePassword, roles := r.roles, extraClaims := r.extraClaims }

def AdminRow.ofAdmin (a : Admin) : AdminRow :=
  { id := a.id, userpass := a.userpass, jwt := a.jwt, fido2 := a.fido2,
    digitalCredentials := a.digitalCredentials, certificate := a.clientCertificate,
    totpEnabled := a.totpEnabled, totpSecret := a.totpSecret, totpAuthUrl := a.totpAuthUrl }

/-- The column an authentication scheme is looked up in. SAML is never an administrator
credential, so it has none. -/
def AdminRow.credential (X : Externals) (r : AdminRow) : AuthScheme → Option String
  | .usernamePassword => r.userpass
  | .jwt => r.jwt
  | .fido2 => r.fido2
  | .digitalCredentials => r.digitalCredentials.map X.digitalCredentialsJson
  | .clientCertificate => r.certificate
  | .saml => none

/-- `id = ? AND (userpass IS NOT NULL OR jwt IS NOT NULL)`. -/
def AdminRow.totpTarget (username : String) (r : AdminRow) : Bool :=
  r.id == username && (r.userpass.isSome || r.jwt.isSome)

theorem AdminRealmRow.key_inj {r s : AdminRealmRow} (h : r.key = s.key) : r = s := by
  obtain ⟨a, b⟩ := r
  obtain ⟨c, d⟩ := s
  simpa [AdminRealmRow.key] using h

structure Database where
  realm : Table Realm String Realm.id
  userpass : Table UserPassRow (String × String) UserPassRow.key
  admin : Table AdminRow String AdminRow.id
  adminRealms : Table AdminRealmRow (String × String) AdminRealmRow.key
  userpassRealm : ∀ r ∈ userpass, r.realm ∈ realm.keys
  membershipAdmin : ∀ r ∈ adminRealms, r.adminId ∈ admin.keys
  membershipRealm : ∀ r ∈ adminRealms, r.realmId ∈ realm.keys
  deriving DecidableEq

namespace Database
variable (X : Externals)

def empty : Database where
  realm := Table.empty
  userpass := Table.empty
  admin := Table.empty
  adminRealms := Table.empty
  userpassRealm := by simp
  membershipAdmin := by simp
  membershipRealm := by simp

/-- `id GLOB '[a-zA-Z0-9_-]*'`: one character of the class, then anything. -/
def realmIdCheck (id : String) : Bool :=
  match id.toList with
  | [] => false
  | c :: _ => c.isAlphanum || c == '_' || c == '-'

def createRealm (db : Database) (realm : Realm) : Except AuthDbError Database :=
  if realmIdCheck realm.id = false then .error (.sql .check)
  else if h : realm.id ∈ db.realm.keys then
    .error (.conflict s!"realm '{realm.id}' already exists")
  else .ok { db with
    realm := db.realm.insert realm h
    userpassRealm := fun r hr => by
      obtain ⟨x, hx, he⟩ := Table.mem_keys.mp (db.userpassRealm r hr)
      exact Table.mem_keys.mpr ⟨x, by simp [hx], he⟩
    membershipRealm := fun r hr => by
      obtain ⟨x, hx, he⟩ := Table.mem_keys.mp (db.membershipRealm r hr)
      exact Table.mem_keys.mpr ⟨x, by simp [hx], he⟩ }

def getRealm (db : Database) (id : String) : Option Realm := db.realm.find? id

def updateRealm (db : Database) (realm : Realm) : Database :=
  let assign (r : Realm) : Realm := { r with
    authParams := realm.authParams
    sessionMaxAgeSeconds := realm.sessionMaxAgeSeconds
    sessionMaxStaleAgeSeconds := realm.sessionMaxStaleAgeSeconds
    certificateMaxAgeSeconds := realm.certificateMaxAgeSeconds }
  { db with
    realm := db.realm.updateWhere (fun r => r.id == realm.id) assign (fun _ => rfl)
    userpassRealm := by simpa using db.userpassRealm
    membershipRealm := by simpa using db.membershipRealm }

/-- The schema cascades the deletion to `userpass` and `admin_realms`. -/
def deleteRealm (db : Database) (id : String) : Database where
  realm := db.realm.deleteWhere (fun r => r.id == id)
  userpass := db.userpass.deleteWhere (fun r => r.realm == id)
  admin := db.admin
  adminRealms := db.adminRealms.deleteWhere (fun r => r.realmId == id)
  userpassRealm := fun r hr => by
    obtain ⟨hm, hn⟩ := Table.mem_deleteWhere.mp hr
    exact Table.mem_keys_deleteKey.mpr ⟨db.userpassRealm r hm, by simpa using hn⟩
  membershipAdmin := fun r hr => db.membershipAdmin r (Table.mem_deleteWhere.mp hr).1
  membershipRealm := fun r hr => by
    obtain ⟨hm, hn⟩ := Table.mem_deleteWhere.mp hr
    exact Table.mem_keys_deleteKey.mpr ⟨db.membershipRealm r hm, by simpa using hn⟩

def listRealms (db : Database) : List Realm :=
  db.realm.rows.insertionSort (fun r s => r.id ≤ s.id)

def createUserpass (db : Database) (u : UserPass) : Except AuthDbError Database :=
  if hk : (u.realm, u.username) ∈ db.userpass.keys then
    .error (.conflict s!"credentials for '{u.username}' already exist in realm '{u.realm}'")
  else if hr : u.realm ∈ db.realm.keys then
    .ok { db with
      userpass := db.userpass.insert
        ⟨u.realm, u.username, u.passwordHash, u.changePassword, u.roles, u.extraClaims⟩ hk
      userpassRealm := fun r h => by
        rcases Table.mem_insert.mp h with h | rfl
        · exact db.userpassRealm r h
        · exact hr }
  else .error (.sql .foreignKey)

def getUserpass (db : Database) (realm username : String) : Option UserPass :=
  (db.userpass.find? (realm, username)).map (fun r => r.toUserPass "")

/-- `UPDATE userpass SET f WHERE realm = ? AND username = ?`. -/
def setUserpass (db : Database) (realm username : String) (f : UserPassRow → UserPassRow)
    (hf : ∀ r, (f r).key = r.key) : Database :=
  { db with
    userpass := db.userpass.updateWhere (fun r => r.realm == realm && r.username == username) f hf
    userpassRealm := fun r hr => by
      obtain ⟨y, hy, rfl⟩ := Table.mem_updateWhere.mp hr
      split
      · have h := congrArg Prod.fst (hf y)
        simp only [UserPassRow.key] at h
        rw [h]
        exact db.userpassRealm y hy
      · exact db.userpassRealm y hy }

def updateUserpass (db : Database) (u : UserPass) : Database :=
  db.setUserpass u.realm u.username (fun r => { r with
    password := u.passwordHash, changePassword := u.changePassword, roles := u.roles,
    extraClaims := u.extraClaims }) (fun _ => rfl)

def updateUserpassMetadata (db : Database) (realm username : String) (changePassword : Bool)
    (roles : List String) : Database :=
  db.setUserpass realm username
    (fun r => { r with changePassword := changePassword, roles := roles }) (fun _ => rfl)

def deleteUserpassWhere (db : Database) (p : UserPassRow → Bool) : Database :=
  { db with
    userpass := db.userpass.deleteWhere p
    userpassRealm := fun r hr => db.userpassRealm r (Table.mem_deleteWhere.mp hr).1 }

def deleteUserpass (db : Database) (realm username : String) : Database :=
  db.deleteUserpassWhere (fun r => r.realm == realm && r.username == username)

def deleteUserpassByUsername (db : Database) (username : String) : Database :=
  db.deleteUserpassWhere (fun r => r.username == username)

def listUserpassByRealm (db : Database) (realm : String) : List UserPass :=
  ((db.userpass.rows.filter (fun r => r.realm == realm)).insertionSort
    (fun r s => r.username ≤ s.username)).map (fun r => r.toUserPass r.password)

def listAllUserpass (db : Database) : List UserPass :=
  (db.userpass.rows.insertionSort
    (fun r s => r.realm < s.realm ∨ r.realm = s.realm ∧ r.username ≤ s.username)).map
    (fun r => r.toUserPass r.password)

/-- `Ok` carries the `change_password` flag. -/
def validateUserpass (db : Database) (realm username password : String) :
    Except AuthDbError Bool :=
  match db.userpass.find? (realm, username) with
  | none => .error .invalidCredentials
  | some r => match verifyPasswordArgon2 X r.password password with
    | .error _ => .error .invalidCredentials
    | .ok () => .ok r.changePassword

def insertAdminRealm (db : Database) (adminId realmId : String) : Except SqlError Database :=
  if hk : (adminId, realmId) ∈ db.adminRealms.keys then .error .primaryKey
  else if h : adminId ∈ db.admin.keys ∧ realmId ∈ db.realm.keys then
    .ok { db with
      adminRealms := db.adminRealms.insert ⟨adminId, realmId⟩ hk
      membershipAdmin := fun r hr => by
        rcases Table.mem_insert.mp hr with hr | rfl
        · exact db.membershipAdmin r hr
        · exact h.1
      membershipRealm := fun r hr => by
        rcases Table.mem_insert.mp hr with hr | rfl
        · exact db.membershipRealm r hr
        · exact h.2 }
  else .error .foreignKey

/-- The loop over `admin.realms`: the first failing statement ends it. -/
def insertAdminRealms (db : Database) (adminId : String) :
    List String → Outcome Database AuthDbError Unit
  | [] => .ok db ()
  | realmId :: rest => match db.insertAdminRealm adminId realmId with
    | .error e => .error db (.sql e)
    | .ok db' => db'.insertAdminRealms adminId rest

def insertAdmin (db : Database) (row : AdminRow) (h : row.id ∉ db.admin.keys) : Database :=
  { db with
    admin := db.admin.insert row h
    membershipAdmin := fun r hr => by
      obtain ⟨x, hx, he⟩ := Table.mem_keys.mp (db.membershipAdmin r hr)
      exact Table.mem_keys.mpr ⟨x, by simp [hx], he⟩ }

def createAdmin (db : Database) (a : Admin) : Outcome Database AuthDbError Unit :=
  if h : a.id ∈ db.admin.keys then .error db (.conflict s!"admin '{a.id}' already exists")
  else (db.insertAdmin (AdminRow.ofAdmin a) h).insertAdminRealms a.id a.realms

/-- The memberships of an administrator, in the order the join table holds them. -/
def realmsOf (db : Database) (adminId : String) : List String :=
  (db.adminRealms.rows.filter (fun r => r.adminId == adminId)).map AdminRealmRow.realmId

def toAdmin (db : Database) (row : AdminRow) : Admin :=
  { id := row.id, realms := db.realmsOf row.id, userpass := row.userpass, jwt := row.jwt,
    fido2 := row.fido2, digitalCredentials := row.digitalCredentials,
    clientCertificate := row.certificate, totpEnabled := row.totpEnabled,
    totpSecret := row.totpSecret, totpAuthUrl := row.totpAuthUrl }

def getAdmin (db : Database) (id : String) : Option Admin :=
  (db.admin.find? id).map db.toAdmin

def setAdmin (db : Database) (p : AdminRow → Bool) (f : AdminRow → AdminRow)
    (hf : ∀ r, (f r).id = r.id) : Database :=
  { db with
    admin := db.admin.updateWhere p f hf
    membershipAdmin := by simpa using db.membershipAdmin }

/-- `DELETE FROM admin_realms WHERE admin_id = ?`. -/
def clearMemberships (db : Database) (adminId : String) : Database :=
  { db with
    adminRealms := db.adminRealms.deleteWhere (fun r => r.adminId == adminId)
    membershipAdmin := fun r hr => db.membershipAdmin r (Table.mem_deleteWhere.mp hr).1
    membershipRealm := fun r hr => db.membershipRealm r (Table.mem_deleteWhere.mp hr).1 }

def updateAdmin (db : Database) (a : Admin) : Outcome Database AuthDbError Unit :=
  let updated := db.setAdmin (fun r => r.id == a.id)
    (fun r => { AdminRow.ofAdmin a with id := r.id }) (fun _ => rfl)
  (updated.clearMemberships a.id).insertAdminRealms a.id a.realms

/-- The schema cascades the deletion to `admin_realms`. -/
def deleteAdmin (db : Database) (id : String) : Database where
  realm := db.realm
  userpass := db.userpass
  admin := db.admin.deleteWhere (fun r => r.id == id)
  adminRealms := db.adminRealms.deleteWhere (fun r => r.adminId == id)
  userpassRealm := db.userpassRealm
  membershipAdmin := fun r hr => by
    obtain ⟨hm, hn⟩ := Table.mem_deleteWhere.mp hr
    exact Table.mem_keys_deleteKey.mpr ⟨db.membershipAdmin r hm, by simpa using hn⟩
  membershipRealm := fun r hr => db.membershipRealm r (Table.mem_deleteWhere.mp hr).1

def listAdmins (db : Database) : List Admin :=
  (db.admin.rows.insertionSort (fun r s => r.id ≤ s.id)).map db.toAdmin

def findAdminsByAuthScheme (db : Database) (scheme : AuthScheme) (value : String) : List Admin :=
  ((db.admin.rows.filter (fun r => r.credential X scheme == some value)).map
    AdminRow.id).filterMap db.getAdmin

def enableTotp (db : Database) (username totpSecret issuer : String) :
    Except AuthDbError Database :=
  match Totps.fromSecret X totpSecret (some issuer) username none with
  | .error e => .error (.unexpected s!"TOTP error: TOTP/2FA error: {e}")
  | .ok totps => .ok (db.setAdmin (AdminRow.totpTarget username)
      (fun r => { r with totpEnabled := some true, totpSecret := some totpSecret,
                         totpAuthUrl := some (Totps.getOtpauthUrl X totps) }) (fun _ => rfl))

def disableTotp (db : Database) (username : String) : Database :=
  db.setAdmin (AdminRow.totpTarget username)
    (fun r => { r with totpEnabled := some false, totpSecret := none, totpAuthUrl := none })
    (fun _ => rfl)

/-- A `NULL` secret decodes to the empty text. -/
def getTotpSecret (db : Database) (username : String) : Option String :=
  (db.admin.rows.find? (AdminRow.totpTarget username)).map (fun r => r.totpSecret.getD "")

def isTotpEnabled (db : Database) (username : String) : Option Bool :=
  (db.admin.rows.find? (AdminRow.totpTarget username)).map (fun r => r.totpEnabled.getD false)

def appRealmAdminUsername : String := "admin"

def adminRealmRecord : Realm :=
  { id := adminRealm
    authParams := { usernamePasswordParams := some ⟨true⟩ }
    sessionMaxAgeSeconds := 3600
    sessionMaxStaleAgeSeconds := 3600
    certificateMaxAgeSeconds := 365 * 24 * 3600 }

def adminRealmUserPass (passwordHash : String) : UserPass :=
  { realm := adminRealm, username := appRealmAdminUsername, passwordHash := passwordHash,
    changePassword := true }

def adminRealmAdmin : Admin :=
  { id := appRealmAdminUsername, realms := [adminRealm], userpass := some appRealmAdminUsername }

/-- `initialize_db` after the password has been hashed. -/
def initializeDb (db : Database) (passwordHash : String) : Outcome Database AuthDbError Unit :=
  let withRealm : Outcome Database AuthDbError Unit :=
    match db.getRealm adminRealm with
    | some _ => .ok db ()
    | none => match db.createRealm adminRealmRecord with
      | .error e => .error db e
      | .ok db' => .ok db' ()
  withRealm.bind fun db () =>
    match db.getUserpass adminRealm appRealmAdminUsername with
    | some _ => .ok db ()
    | none => match db.createUserpass (adminRealmUserPass passwordHash) with
      | .error e => .error db e
      | .ok db' => db'.createAdmin adminRealmAdmin

def fresh (passwordHash : String) : Database := (empty.initializeDb passwordHash).state

end Database
end AuthVerifier
