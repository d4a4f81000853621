import AuthVerifier.AdminApi
import AuthVerifier.Lib.Run
import AuthVerifier.Transparent

/-!
Which credential rows a request may touch: those of a realm the requester manages, those of a
realm being deleted, and those named by the administrator record being deleted.
-/

set_option autoImplicit false

namespace AuthVerifier
open Effects Relational
variable {X : Externals} {params : ServerParams} {m : Moment} {requester : Admin}
variable {db db' : Database}

/-- `DELETE /admins/{id}` of an administrator the requester may manage and whose `userpass`
names `username`. -/
def CascadesTo (requester : Admin) (db : Database) (req : AdminRequest) (username : String) :
    Prop :=
  ∃ id target, req = .deleteAdmin id ∧ db.getAdmin id = some target ∧
    canManageAdminRealms requester target.realms db = true ∧ target.userpass = some username

theorem mem_setUserpass_of_ne {realm user : String} {f : UserPassRow → UserPassRow}
    {hf : ∀ r, (f r).key = r.key} {row : UserPassRow} (h : row.realm ≠ realm) :
    row ∈ (db.setUserpass realm user f hf).userpass ↔ row ∈ db.userpass := by
  have hkeep : ∀ y : UserPassRow, y.realm ≠ realm →
      (if (y.realm == realm && y.username == user) = true then f y else y) = y := by
    intro y hy
    simp [hy]
  have hrealm : ∀ y, (f y).realm = y.realm := fun y => congrArg Prod.fst (hf y)
  simp only [Database.setUserpass, Table.mem_updateWhere]
  constructor
  · rintro ⟨y, hy, rfl⟩
    have hne : y.realm ≠ realm := by
      intro he
      apply h
      split
      · rw [hrealm, he]
      · exact he
    rw [hkeep y hne]
    exact hy
  · intro hrow
    exact ⟨row, hrow, hkeep row h⟩

theorem updateAdmin_userpass (db : Database) (a : Admin) :
    (db.updateAdmin a).state.userpass = db.userpass :=
  (Database.updateAdmin_spec db a).userpass

theorem createAdmin_userpass (db : Database) (a : Admin) :
    (db.createAdmin a).state.userpass = db.userpass := by
  by_cases hk : a.id ∈ db.admin.keys
  · rw [Database.createAdmin_of_mem hk]
    rfl
  · exact (Database.createAdmin_spec hk).userpass

theorem autoLink_userpass (db : Database) (realm user : String) :
    (Endpoints.autoLink db realm user).state.userpass = db.userpass := by
  rcases Endpoints.autoLink_cases db realm user with h | ⟨a, -, -, h⟩
  · rw [h]
  · rw [h]
    exact updateAdmin_userpass _ _

theorem autoUnlink_userpass (db : Database) (realm user : String) :
    (Endpoints.autoUnlink db realm user).state.userpass = db.userpass := by
  rcases Endpoints.autoUnlink_cases db realm user with h | ⟨a, -, -, h⟩
  · rw [h]
  · rw [h]
    exact updateAdmin_userpass _ _

theorem enableTotp_userpass {user secret issuer : String}
    (h : db.enableTotp X user secret issuer = .ok db') : db'.userpass = db.userpass := by
  unfold Database.enableTotp at h
  split at h
  · cases h
  · cases h
    rfl

theorem writes_credentials {req : AdminRequest} (h : Writes X params m requester db req db')
    (row : UserPassRow) :
    (row ∈ db'.userpass ↔ row ∈ db.userpass) ∨ canManageRealm requester row.realm db = true ∨
      row ∉ db'.userpass ∧ (req = .deleteRealm row.realm ∧
          requester.canAdministerRealm row.realm = true ∨
        CascadesTo requester db req row.username) := by
  have hsame (he : db'.userpass = db.userpass) : row ∈ db'.userpass ↔ row ∈ db.userpass := by
    rw [he]
  cases h with
  | nothing => exact .inl Iff.rfl
  | createAdmin body h => exact .inl (hsame (createAdmin_userpass _ _))
  | updateAdmin id body target ht h hb => exact .inl (hsame (updateAdmin_userpass _ _))
  | deleteAdmin id target ht h hu => exact .inl Iff.rfl
  | deleteAdminCascade id u target ht h hu =>
    by_cases hrow : row.username = u
    · refine .inr (.inr ⟨?_, .inr ⟨id, target, rfl, ht, h, by rw [hrow]; exact hu⟩⟩)
      simp [Database.deleteUserpassByUsername, hrow]
    · left
      simp [Database.deleteUserpassByUsername, hrow]
  | addAdminToRealm id realm target hr ht h hn => exact .inl (hsame (updateAdmin_userpass _ _))
  | removeAdminFromRealm id realm target hr ht h => exact .inl (hsame (updateAdmin_userpass _ _))
  | createRealm body realm _ h hc hd => exact .inl (hsame (Database.createRealm_ok hd).2.2.1)
  | updateRealm id body realm h hc => exact .inl Iff.rfl
  | deleteRealm id h =>
    by_cases hrow : row.realm = id
    · subst hrow
      exact .inr (.inr ⟨by simp, .inl ⟨rfl, h⟩⟩)
    · left
      simp [hrow]
  | createUserpass realm hash body db₁ h hp hd =>
    by_cases hrow : row.realm = realm
    · exact .inr (.inl (hrow ▸ h))
    · left
      rw [autoLink_userpass, (Database.createUserpass_ok hd).2.1]
      refine ⟨fun hm => hm.resolve_right ?_, .inl⟩
      rintro rfl
      exact hrow rfl
  | updateUserpass realm user hash body h =>
    by_cases hrow : row.realm = realm
    · exact .inr (.inl (hrow ▸ h))
    · exact .inl (mem_setUserpass_of_ne hrow)
  | updateUserpassMetadata realm user body h =>
    by_cases hrow : row.realm = realm
    · exact .inr (.inl (hrow ▸ h))
    · exact .inl (mem_setUserpass_of_ne hrow)
  | deleteUserpass realm user h =>
    by_cases hrow : row.realm = realm
    · exact .inr (.inl (hrow ▸ h))
    · left
      rw [autoUnlink_userpass]
      simp [Database.deleteUserpass, hrow]
  | totpVerify realm body _ h ha hd => exact .inl (hsame (enableTotp_userpass hd))
  | totpDisable realm user h => exact .inl Iff.rfl

/-- In every state, a credential row appears, changes or disappears only in a realm the requester
manages at that moment, or disappears with its realm, or with an administrator record that names
it. -/
theorem credential_frame (db : Database) (c : AdminCall) (row : UserPassRow) :
    let db' := adminStep X params db c
    (row ∈ db'.userpass ↔ row ∈ db.userpass) ∨ canManageRealm c.requester row.realm db = true ∨
      row ∉ db'.userpass ∧ (c.request = .deleteRealm row.realm ∧
          c.requester.canAdministerRealm row.realm = true ∨
        CascadesTo c.requester db c.request row.username) :=
  writes_credentials (handleAdmin_writes c.moment c.requester db c.request) row

/-- The super admin sets up two realms, a credential in one and an administrator of the other,
who then records an administrator whose `userpass` names that credential. -/
def decoySetup : List AdminCall :=
  let root : Admin := Database.adminRealmAdmin
  let mallory : Admin := { id := "mallory", realms := ["acme"] }
  let realm (id : String) : Realm :=
    { id := id, authParams := { usernamePasswordParams := some ⟨true⟩ },
      sessionMaxAgeSeconds := 3600, sessionMaxStaleAgeSeconds := 600 }
  [⟨Transparent.moment 0, root, .createRealm (realm "acme")⟩,
   ⟨Transparent.moment 1, root, .createRealm (realm "beta")⟩,
   ⟨Transparent.moment 2, root, .createUserpass "beta"
      { realm := "beta", username := "victim", passwordInput := some (.plaintext "pw"),
        changePassword := false }⟩,
   ⟨Transparent.moment 3, root, .createAdmin { mallory with userpass := some "mallory" }⟩,
   ⟨Transparent.moment 4, { mallory with userpass := some "mallory" },
      .createAdmin { id := "decoy", realms := ["acme"], userpass := some "victim" }⟩]

/-- The administrator of `acme` deletes a credential of `beta`. -/
theorem cascade_deletes_foreign_credential :
    let step := adminStep Transparent.externals Transparent.params
    let db := Transition.run step (Database.fresh "hash") decoySetup
    let mallory : Admin := { id := "mallory", realms := ["acme"], userpass := some "mallory" }
    let db' := step db ⟨Transparent.moment 5, mallory, .deleteAdmin "decoy"⟩
    db.getAdmin "mallory" = some mallory ∧ canManageRealm mallory "beta" db = false ∧
      ("beta", "victim") ∈ db.userpass.keys ∧ ("beta", "victim") ∉ db'.userpass.keys := by
  decide

end AuthVerifier
