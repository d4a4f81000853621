import AuthVerifier.AdminEndpoints
import AuthVerifier.RealmsEndpoints

/-!
The administration API as one state machine over the database: the routes of the `/admins` and
`/realms` scopes, the dispatch to their handlers, and `Writes`, which lists once what a request
can write and under which guard. Facts about what requests preserve are case analyses on it.
-/

set_option autoImplicit false

namespace AuthVerifier
open Effects

inductive AdminRequest where
  | createAdmin (body : Admin)
  | getAdmin (adminId : String)
  | updateAdmin (adminId : String) (body : Admin)
  | deleteAdmin (adminId : String)
  | listAdmins
  | addAdminToRealm (adminId realmId : String)
  | removeAdminFromRealm (adminId realmId : String)
  | createRealm (body : Realm)
  | getRealm (realmId : String)
  | updateRealm (realmId : String) (body : Realm)
  | deleteRealm (realmId : String)
  | listRealms
  | createUserpass (realmId : String) (body : UserPass)
  | getUserpass (realmId username : String)
  | updateUserpass (realmId username : String) (body : UserPass)
  | deleteUserpass (realmId username : String)
  | listUserpassByRealm (realmId : String)
  | listAllUserpass
  | totpGenerate (realmId : String) (body : TotpGenerateRequest)
  | totpVerify (realmId : String) (body : TotpVerifyRequest)
  | totpDisable (realmId username : String)
  deriving DecidableEq

section
variable (X : Externals) (params : ServerParams)

def handleAdmin (m : Moment) (requester : Admin) (db : Database) :
    AdminRequest → Outcome Database AuthError HttpResponse
  | .createAdmin body => Endpoints.createAdmin requester body db
  | .getAdmin id => Endpoints.getAdmin requester id db
  | .updateAdmin id body => Endpoints.updateAdmin requester id body db
  | .deleteAdmin id => Endpoints.deleteAdmin requester id db
  | .listAdmins => Endpoints.listAdmins requester db
  | .addAdminToRealm id realm => Endpoints.addAdminToRealm requester id realm db
  | .removeAdminFromRealm id realm => Endpoints.removeAdminFromRealm requester id realm db
  | .createRealm body => Endpoints.createRealm X params requester body db
  | .getRealm realm => Endpoints.getRealm requester realm db
  | .updateRealm realm body => Endpoints.updateRealm X params requester realm body db
  | .deleteRealm realm => Endpoints.deleteRealm requester realm db
  | .listRealms => Endpoints.listRealms requester db
  | .createUserpass realm body => Endpoints.createUserpass X m.salt requester realm body db
  | .getUserpass realm user => Endpoints.getUserpass requester realm user db
  | .updateUserpass realm user body =>
      Endpoints.updateUserpass X m.salt requester realm user body db
  | .deleteUserpass realm user => Endpoints.deleteUserpass requester realm user db
  | .listUserpassByRealm realm => Endpoints.listUserpassByRealm requester realm db
  | .listAllUserpass => Endpoints.listAllUserpass requester db
  | .totpGenerate realm body => Endpoints.totpGenerate X m.totpSecret requester realm body db
  | .totpVerify realm body => Endpoints.totpVerify X m.now requester realm body db
  | .totpDisable realm user => Endpoints.totpDisable requester realm user db

/-- One request as the handlers meet it: its surroundings, who sends it and what it asks. -/
structure AdminCall where
  moment : Moment
  requester : Admin
  request : AdminRequest

def adminStep (db : Database) (c : AdminCall) : Database :=
  (handleAdmin X params c.moment c.requester db c.request).state

/-- The states a request can leave behind. A refused request leaves the database unchanged; a
failing statement leaves what the statements before it wrote. -/
inductive Writes (m : Moment) (requester : Admin) (db : Database) :
    AdminRequest → Database → Prop where
  | nothing (req : AdminRequest) : Writes m requester db req db
  | createAdmin (body : Admin) (h : canManageAdminRealms requester body.realms db = true) :
      Writes m requester db (.createAdmin body) (db.createAdmin body).state
  | updateAdmin (id : String) (body target : Admin) (ht : db.getAdmin id = some target)
      (h : canManageAdminRealms requester target.realms db = true)
      (hb : canManageAdminRealms requester body.realms db = true) :
      Writes m requester db (.updateAdmin id body) (db.updateAdmin { body with id := id }).state
  | deleteAdmin (id : String) (target : Admin) (ht : db.getAdmin id = some target)
      (h : canManageAdminRealms requester target.realms db = true)
      (hu : target.userpass = none) :
      Writes m requester db (.deleteAdmin id) (db.deleteAdmin id)
  | deleteAdminCascade (id u : String) (target : Admin) (ht : db.getAdmin id = some target)
      (h : canManageAdminRealms requester target.realms db = true)
      (hu : target.userpass = some u) :
      Writes m requester db (.deleteAdmin id) ((db.deleteAdmin id).deleteUserpassByUsername u)
  | addAdminToRealm (id realm : String) (target : Admin)
      (hr : canManageRealm requester realm db = true) (ht : db.getAdmin id = some target)
      (h : target.realms = [] ∨ canManageAdminRealms requester target.realms db = true)
      (hn : realm ∉ target.realms) :
      Writes m requester db (.addAdminToRealm id realm)
        (db.updateAdmin { target with realms := target.realms ++ [realm] }).state
  | removeAdminFromRealm (id realm : String) (target : Admin)
      (hr : canManageRealm requester realm db = true) (ht : db.getAdmin id = some target)
      (h : canManageAdminRealms requester target.realms db = true) :
      Writes m requester db (.removeAdminFromRealm id realm)
        (db.updateAdmin { target with
          realms := target.realms.filter (fun r => r != realm) }).state
  | createRealm (body realm : Realm) (db' : Database) (h : requester.isSuperAdmin = true)
      (hc : Endpoints.checkSamlParams X params body = .ok realm)
      (hd : db.createRealm realm = .ok db') :
      Writes m requester db (.createRealm body) db'
  | updateRealm (id : String) (body realm : Realm)
      (h : canManageRealm requester id db = true)
      (hc : Endpoints.checkSamlParams X params { body with id := id } = .ok realm) :
      Writes m requester db (.updateRealm id body) (db.updateRealm realm)
  | deleteRealm (id : String) (h : requester.canAdministerRealm id = true) :
      Writes m requester db (.deleteRealm id) (db.deleteRealm id)
  | createUserpass (realm hash : String) (body : UserPass) (db' : Database)
      (h : canManageRealm requester realm db = true)
      (hp : Endpoints.createdHash X m.salt body.passwordInput = .ok hash)
      (hd : db.createUserpass { body with
        realm := realm, passwordHash := hash, passwordInput := none } = .ok db') :
      Writes m requester db (.createUserpass realm body)
        (Endpoints.autoLink db' realm body.username).state
  | updateUserpass (realm user hash : String) (body : UserPass)
      (h : canManageRealm requester realm db = true) :
      Writes m requester db (.updateUserpass realm user body) (db.updateUserpass { body with
        realm := realm, username := user, passwordInput := none, passwordHash := hash })
  | updateUserpassMetadata (realm user : String) (body : UserPass)
      (h : canManageRealm requester realm db = true) :
      Writes m requester db (.updateUserpass realm user body)
        (db.updateUserpassMetadata realm user body.changePassword body.roles)
  | deleteUserpass (realm user : String) (h : canManageRealm requester realm db = true) :
      Writes m requester db (.deleteUserpass realm user)
        (Endpoints.autoUnlink (db.deleteUserpass realm user) realm user).state
  | totpVerify (realm : String) (body : TotpVerifyRequest) (db' : Database)
      (h : canManageRealm requester realm db = true)
      (ha : Endpoints.totpAccepts X m.now realm body db = .ok ())
      (hd : db.enableTotp X body.username body.secret realm = .ok db') :
      Writes m requester db (.totpVerify realm body) db'
  | totpDisable (realm user : String) (h : canManageRealm requester realm db = true) :
      Writes m requester db (.totpDisable realm user) (db.disableTotp user)

end

theorem Database.deleteAdmin_of_getAdmin_none {db : Database} {id : String}
    (h : db.getAdmin id = none) : db.deleteAdmin id = db := by
  have hk := Database.getAdmin_eq_none_iff.mp h
  have ha : db.admin.deleteWhere (fun r => r.id == id) = db.admin := by
    apply Relational.Table.ext_rows
    refine List.filter_eq_self.mpr fun r hr => ?_
    have hne : r.id ≠ id := fun he => hk (he ▸ Relational.Table.key_mem_keys hr)
    simpa using hne
  have hm : db.adminRealms.deleteWhere (fun r => r.adminId == id) = db.adminRealms := by
    apply Relational.Table.ext_rows
    refine List.filter_eq_self.mpr fun r hr => ?_
    have hne : r.adminId ≠ id := fun he => hk (he ▸ db.membershipAdmin r hr)
    simpa using hne
  unfold Database.deleteAdmin
  congr

namespace Endpoints
variable {X : Externals} {params : ServerParams} {m : Moment} {requester : Admin} {db : Database}

theorem storeAdmin_state (admin : Admin) :
    (storeAdmin db admin).state = (db.updateAdmin admin).state := by
  unfold storeAdmin
  exact Outcome.bind_state_eq (fun _ _ => rfl)

theorem createAdmin_writes (body : Admin) :
    Writes X params m requester db (.createAdmin body) (createAdmin requester body db).state := by
  unfold createAdmin
  split
  · exact .nothing _
  · rename_i h
    rw [Outcome.bind_state_eq (fun _ _ => rfl)]
    exact .createAdmin body (by simpa using h)

theorem updateAdmin_writes (id : String) (body : Admin) :
    Writes X params m requester db (.updateAdmin id body)
      (updateAdmin requester id body db).state := by
  unfold updateAdmin
  cases ht : db.getAdmin id with
  | none => exact .nothing _
  | some target =>
    dsimp only
    split
    · exact .nothing _
    · rename_i h
      split
      · exact .nothing _
      · rename_i hb
        rw [storeAdmin_state]
        exact .updateAdmin id body target ht (by simpa using h) (by simpa using hb)

theorem deleteAdmin_writes (id : String) :
    Writes X params m requester db (.deleteAdmin id) (deleteAdmin requester id db).state := by
  unfold deleteAdmin
  cases ht : db.getAdmin id with
  | none =>
    dsimp only
    split
    · exact .nothing _
    · rw [Outcome.ok_state, Database.deleteAdmin_of_getAdmin_none ht]
      exact .nothing _
  | some target =>
    dsimp only
    split
    · exact .nothing _
    · rename_i h
      have hm : canManageAdminRealms requester target.realms db = true := by simpa using h
      cases hu : target.userpass with
      | none => exact .deleteAdmin id target ht hm hu
      | some u => exact .deleteAdminCascade id u target ht hm hu

theorem addAdminToRealm_writes (id realm : String) :
    Writes X params m requester db (.addAdminToRealm id realm)
      (addAdminToRealm requester id realm db).state := by
  unfold addAdminToRealm
  split
  · exact .nothing _
  · rename_i hr
    cases ht : db.getAdmin id with
    | none => exact .nothing _
    | some target =>
      dsimp only
      split
      · exact .nothing _
      · rename_i h
        split
        · exact .nothing _
        · rename_i hn
          rw [storeAdmin_state]
          refine .addAdminToRealm id realm target (by simpa using hr) ht ?_ (by simpa using hn)
          by_cases he : target.realms = []
          · exact .inl he
          · refine .inr ?_
            simpa [he] using h

theorem removeAdminFromRealm_writes (id realm : String) :
    Writes X params m requester db (.removeAdminFromRealm id realm)
      (removeAdminFromRealm requester id realm db).state := by
  unfold removeAdminFromRealm
  split
  · exact .nothing _
  · rename_i hr
    cases ht : db.getAdmin id with
    | none => exact .nothing _
    | some target =>
      dsimp only
      split
      · exact .nothing _
      · rename_i h
        split
        · rw [storeAdmin_state]
          exact .removeAdminFromRealm id realm target (by simpa using hr) ht (by simpa using h)
        · exact .nothing _

theorem createRealm_writes (body : Realm) :
    Writes X params m requester db (.createRealm body)
      (createRealm X params requester body db).state := by
  unfold createRealm
  split
  · exact .nothing _
  · rename_i h
    cases hc : checkSamlParams X params body with
    | error e => exact .nothing _
    | ok realm =>
      dsimp only
      cases hd : db.createRealm realm with
      | error e => exact .nothing _
      | ok db' => exact .createRealm body realm db' (by simpa using h) hc hd

theorem updateRealm_writes (id : String) (body : Realm) :
    Writes X params m requester db (.updateRealm id body)
      (updateRealm X params requester id body db).state := by
  unfold updateRealm
  split
  · exact .nothing _
  · rename_i h
    cases hc : checkSamlParams X params { body with id := id } with
    | error e => exact .nothing _
    | ok realm => exact .updateRealm id body realm (by simpa using h) hc

theorem deleteRealm_writes (id : String) :
    Writes X params m requester db (.deleteRealm id) (deleteRealm requester id db).state := by
  unfold deleteRealm
  split
  · exact .nothing _
  · rename_i h
    exact .deleteRealm id (by simpa using h)

theorem createUserpass_writes (realm : String) (body : UserPass) :
    Writes X params m requester db (.createUserpass realm body)
      (createUserpass X m.salt requester realm body db).state := by
  unfold createUserpass
  split
  · exact .nothing _
  · rename_i h
    cases checkExtraClaims X body.extraClaims with
    | error e => exact .nothing _
    | ok _ =>
      dsimp only
      cases hp : createdHash X m.salt body.passwordInput with
      | error e => exact .nothing _
      | ok hash =>
        dsimp only
        split
        · exact .nothing _
        · exact .nothing _
        · rename_i db' hd
          rw [Outcome.bind_state_eq (fun _ _ => rfl)]
          exact .createUserpass realm hash body db' (by simpa using h) hp hd

theorem updateUserpass_writes (realm user : String) (body : UserPass) :
    Writes X params m requester db (.updateUserpass realm user body)
      (updateUserpass X m.salt requester realm user body db).state := by
  unfold updateUserpass
  split
  · exact .nothing _
  · rename_i h
    have hr : canManageRealm requester realm db = true := by simpa using h
    cases checkExtraClaims X body.extraClaims with
    | error e => exact .nothing _
    | ok _ =>
      dsimp only
      split
      · split
        · exact .nothing _
        · exact .updateUserpassMetadata realm user body hr
      · split
        · exact .nothing _
        · exact .updateUserpass realm user _ body hr
      · split
        · exact .nothing _
        · exact .updateUserpass realm user _ body hr

theorem deleteUserpass_writes (realm user : String) :
    Writes X params m requester db (.deleteUserpass realm user)
      (deleteUserpass requester realm user db).state := by
  unfold deleteUserpass
  split
  · exact .nothing _
  · rename_i h
    rw [Outcome.bind_state_eq (fun _ _ => rfl)]
    exact .deleteUserpass realm user (by simpa using h)

theorem totpVerify_writes (realm : String) (body : TotpVerifyRequest) :
    Writes X params m requester db (.totpVerify realm body)
      (totpVerify X m.now requester realm body db).state := by
  unfold totpVerify
  split
  · exact .nothing _
  · rename_i h
    cases ha : totpAccepts X m.now realm body db with
    | error e => exact .nothing _
    | ok _ =>
      dsimp only
      cases hd : db.enableTotp X body.username body.secret realm with
      | error e => exact .nothing _
      | ok db' => exact .totpVerify realm body db' (by simpa using h) ha hd

theorem totpDisable_writes (realm user : String) :
    Writes X params m requester db (.totpDisable realm user)
      (totpDisable requester realm user db).state := by
  unfold totpDisable
  split
  · exact .nothing _
  · rename_i h
    exact .totpDisable realm user (by simpa using h)

theorem autoLink_of_ne {realm user : String} (h : realm ≠ adminRealm) :
    autoLink db realm user = .ok db () := by
  simp [autoLink, h]

theorem autoUnlink_of_ne {realm user : String} (h : realm ≠ adminRealm) :
    autoUnlink db realm user = .ok db () := by
  simp [autoUnlink, h]

theorem autoLink_cases (db : Database) (realm user : String) :
    (autoLink db realm user).state = db ∨ ∃ a, realm = adminRealm ∧ db.getAdmin user = some a ∧
      (autoLink db realm user).state =
        (db.updateAdmin { a with userpass := some user }).state := by
  unfold autoLink
  split
  · rename_i hrealm
    cases db.getAdmin user with
    | none => exact .inl rfl
    | some a =>
      dsimp only
      split
      · exact .inl rfl
      · exact .inr ⟨a, hrealm, rfl, Outcome.mapError_state _ _⟩
  · exact .inl rfl

theorem autoUnlink_cases (db : Database) (realm user : String) :
    (autoUnlink db realm user).state = db ∨ ∃ a, realm = adminRealm ∧ db.getAdmin user = some a ∧
      (autoUnlink db realm user).state = (db.updateAdmin { a with userpass := none }).state := by
  unfold autoUnlink
  split
  · rename_i hrealm
    cases db.getAdmin user with
    | none => exact .inl rfl
    | some a =>
      dsimp only
      split
      · exact .inr ⟨a, hrealm, rfl, Outcome.mapError_state _ _⟩
      · exact .inl rfl
  · exact .inl rfl

end Endpoints

def AdminRequest.readOnly : AdminRequest → Bool
  | .getAdmin _ | .listAdmins | .getRealm _ | .listRealms | .getUserpass _ _
  | .listUserpassByRealm _ | .listAllUserpass | .totpGenerate _ _ => true
  | _ => false

theorem handleAdmin_readOnly {X : Externals} {params : ServerParams} {m : Moment}
    {requester : Admin} {db : Database} {req : AdminRequest} (h : req.readOnly = true) :
    (handleAdmin X params m requester db req).state = db := by
  cases req <;> simp only [AdminRequest.readOnly, Bool.false_eq_true] at h
  case getAdmin id =>
    simp only [handleAdmin, Endpoints.getAdmin]
    repeat' split
    all_goals rfl
  case listAdmins =>
    simp only [handleAdmin, Endpoints.listAdmins]
    split <;> rfl
  case getRealm id =>
    simp only [handleAdmin, Endpoints.getRealm]
    repeat' split
    all_goals rfl
  case listRealms => rfl
  case getUserpass realm user =>
    simp only [handleAdmin, Endpoints.getUserpass]
    repeat' split
    all_goals rfl
  case listUserpassByRealm realm =>
    simp only [handleAdmin, Endpoints.listUserpassByRealm]
    split <;> rfl
  case listAllUserpass =>
    simp only [handleAdmin, Endpoints.listAllUserpass]
    split <;> rfl
  case totpGenerate realm body =>
    simp only [handleAdmin, Endpoints.totpGenerate]
    repeat' split
    all_goals rfl

theorem handleAdmin_writes {X : Externals} {params : ServerParams} (m : Moment)
    (requester : Admin) (db : Database) (req : AdminRequest) :
    Writes X params m requester db req (handleAdmin X params m requester db req).state := by
  by_cases hro : req.readOnly = true
  · rw [handleAdmin_readOnly hro]
    exact .nothing req
  · cases req <;> simp only [AdminRequest.readOnly, not_true_eq_false] at hro
    case createAdmin body => exact Endpoints.createAdmin_writes body
    case updateAdmin id body => exact Endpoints.updateAdmin_writes id body
    case deleteAdmin id => exact Endpoints.deleteAdmin_writes id
    case addAdminToRealm id realm => exact Endpoints.addAdminToRealm_writes id realm
    case removeAdminFromRealm id realm => exact Endpoints.removeAdminFromRealm_writes id realm
    case createRealm body => exact Endpoints.createRealm_writes body
    case updateRealm id body => exact Endpoints.updateRealm_writes id body
    case deleteRealm id => exact Endpoints.deleteRealm_writes id
    case createUserpass realm body => exact Endpoints.createUserpass_writes realm body
    case updateUserpass realm user body => exact Endpoints.updateUserpass_writes realm user body
    case deleteUserpass realm user => exact Endpoints.deleteUserpass_writes realm user
    case totpVerify realm body => exact Endpoints.totpVerify_writes realm body
    case totpDisable realm user => exact Endpoints.totpDisable_writes realm user

end AuthVerifier
