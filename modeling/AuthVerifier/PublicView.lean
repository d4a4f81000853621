import AuthVerifier.AdminApi

/-!
Databases that differ only in stored secrets: password hashes, TOTP secrets and otpauth URLs.
Everything the handlers decide on, and what the database methods report, is the same in both.
-/

set_option autoImplicit false

namespace AuthVerifier
open Effects Relational

def UserPassRow.redact (r : UserPassRow) : UserPassRow := { r with password := "" }
def AdminRow.redact (r : AdminRow) : AdminRow := { r with totpSecret := none, totpAuthUrl := none }
def Admin.redact (a : Admin) : Admin := { a with totpSecret := none, totpAuthUrl := none }

def Admin.secrets (a : Admin) : Option String × Option String := (a.totpSecret, a.totpAuthUrl)

theorem Admin.eq_of_redact {a b : Admin} (h : a.redact = b.redact) (hs : a.secrets = b.secrets) :
    a = b := by
  cases a
  cases b
  simp only [Admin.redact, Admin.secrets, Admin.mk.injEq, Prod.mk.injEq] at h hs
  simp only [Admin.mk.injEq]
  tauto

def UserPass.redact (u : UserPass) : UserPass := { u with passwordHash := "" }

theorem UserPass.redact_of_empty {u : UserPass} (h : u.passwordHash = "") : u.redact = u := by
  cases u
  cases h
  rfl

structure PublicEq (db db' : Database) : Prop where
  realm : db'.realm = db.realm
  adminRealms : db'.adminRealms = db.adminRealms
  admin : db'.admin.rows.map AdminRow.redact = db.admin.rows.map AdminRow.redact
  userpass : db'.userpass.rows.map UserPassRow.redact = db.userpass.rows.map UserPassRow.redact

namespace PublicEq
variable {X : Externals} {db db' : Database} (h : PublicEq db db')
include h

theorem adminKeys : db'.admin.keys = db.admin.keys := by
  have hk := congrArg (List.map AdminRow.id) h.admin
  rw [List.map_map, List.map_map] at hk
  exact hk

theorem userpassKeys : db'.userpass.keys = db.userpass.keys := by
  have hk := congrArg (List.map UserPassRow.key) h.userpass
  rw [List.map_map, List.map_map] at hk
  exact hk

theorem realmsOf (id : String) : db'.realmsOf id = db.realmsOf id := by
  simp only [Database.realmsOf, h.adminRealms]

theorem claimed (r : String) : db'.Claimed r ↔ db.Claimed r := by
  simp only [Database.Claimed, h.adminRealms]

theorem canManageRealm (requester : Admin) (r : String) :
    canManageRealm requester r db' = canManageRealm requester r db := by
  rw [Bool.eq_iff_iff, canManageRealm_iff, canManageRealm_iff, h.claimed]

theorem canManageAdminRealms (requester : Admin) (rs : List String) :
    canManageAdminRealms requester rs db' = canManageAdminRealms requester rs db := by
  simp only [AuthVerifier.canManageAdminRealms, h.canManageRealm]

theorem getRealm (id : String) : db'.getRealm id = db.getRealm id := by
  simp only [Database.getRealm, h.realm]

theorem toAdmin_redact (row : AdminRow) :
    (db'.toAdmin row).redact = (db.toAdmin row.redact).redact := by
  simp [Database.toAdmin, Admin.redact, AdminRow.redact, h.realmsOf]

theorem getAdmin (id : String) :
    (db'.getAdmin id).map Admin.redact = (db.getAdmin id).map Admin.redact := by
  have hfind (t : Table AdminRow String AdminRow.id) :
      (t.find? id).map AdminRow.redact =
        (t.rows.map AdminRow.redact).find? (fun r => r.id == id) := by
    rw [List.find?_map]
    rfl
  have hrow := (hfind db'.admin).trans ((congrArg _ h.admin).trans (hfind db.admin).symm)
  have hview (d : Database) (o : Option AdminRow) : (o.map d.toAdmin).map Admin.redact =
      (o.map AdminRow.redact).map (fun r => (d.toAdmin r).redact) := by
    cases o with
    | none => rfl
    | some row => rfl
  simp only [Database.getAdmin, hview, hrow]
  congr 1
  funext r
  exact h.toAdmin_redact r

theorem getAdmin_cases (id : String) :
    (db.getAdmin id = none ∧ db'.getAdmin id = none) ∨
      ∃ a a', db.getAdmin id = some a ∧ db'.getAdmin id = some a' ∧ a'.redact = a.redact := by
  have hmap := h.getAdmin id
  cases ha : db.getAdmin id with
  | none =>
    cases ha' : db'.getAdmin id with
    | none => exact .inl ⟨rfl, rfl⟩
    | some a' => simp [ha, ha'] at hmap
  | some a =>
    cases ha' : db'.getAdmin id with
    | none => simp [ha, ha'] at hmap
    | some a' =>
      simp only [ha, ha', Option.map_some, Option.some.injEq] at hmap
      exact .inr ⟨a, a', rfl, rfl, hmap⟩

theorem getUserpass (realm user : String) : db'.getUserpass realm user = db.getUserpass realm user := by
  have hfind (t : Table UserPassRow (String × String) UserPassRow.key) :
      (t.find? (realm, user)).map (fun r => r.toUserPass "") =
        ((t.rows.map UserPassRow.redact).find? (fun r => decide (r.key = (realm, user)))).map
          (fun r => r.toUserPass "") := by
    rw [List.find?_map, Option.map_map]
    rfl
  simp only [Database.getUserpass, hfind, h.userpass]

theorem listAdmins : db'.listAdmins.map Admin.redact = db.listAdmins.map Admin.redact := by
  have hsort (d : Database) : d.listAdmins.map Admin.redact =
      ((d.admin.rows.map AdminRow.redact).insertionSort (fun r s => r.id ≤ s.id)).map
        (fun r => (d.toAdmin r).redact) := by
    rw [← List.map_insertionSort (r := fun r s : AdminRow => r.id ≤ s.id)]
    · simp only [Database.listAdmins, List.map_map]
      rfl
    · intro a _ b _
      exact Iff.rfl
  rw [hsort, hsort, h.admin]
  congr 1
  funext r
  exact h.toAdmin_redact r

theorem listUserpass (p : UserPassRow → Bool) (hp : ∀ r, p r.redact = p r)
    (le : UserPassRow → UserPassRow → Prop) [DecidableRel le]
    (hle : ∀ r s, le r s ↔ le r.redact s.redact) :
    (((db'.userpass.rows.filter p).insertionSort le).map (fun r => r.toUserPass r.password)).map
        UserPass.redact =
      (((db.userpass.rows.filter p).insertionSort le).map (fun r => r.toUserPass r.password)).map
        UserPass.redact := by
  have hsort (rows : List UserPassRow) : (((rows.filter p).insertionSort le).map
      (fun r => r.toUserPass r.password)).map UserPass.redact =
      (((rows.map UserPassRow.redact).filter p).insertionSort le).map (fun r => r.toUserPass "") := by
    have hfilter : (rows.map UserPassRow.redact).filter p =
        (rows.filter p).map UserPassRow.redact := by
      rw [List.filter_map]
      congr 1
      exact List.filter_congr fun r _ => hp r
    rw [hfilter, ← List.map_insertionSort (r := le) _ _ _ (fun a _ b _ => hle a b), List.map_map,
      List.map_map]
    rfl
  rw [hsort, hsort, h.userpass]

theorem listUserpassByRealm (realm : String) :
    (db'.listUserpassByRealm realm).map UserPass.redact =
      (db.listUserpassByRealm realm).map UserPass.redact :=
  h.listUserpass _ (fun _ => rfl) _ (fun _ _ => Iff.rfl)

theorem listAllUserpass :
    db'.listAllUserpass.map UserPass.redact = db.listAllUserpass.map UserPass.redact := by
  have hall := h.listUserpass (fun _ => true) (fun _ => rfl)
    (fun r s => r.realm < s.realm ∨ r.realm = s.realm ∧ r.username ≤ s.username)
    (fun _ _ => Iff.rfl)
  simpa [Database.listAllUserpass] using hall

theorem createAdmin_result (a : Admin) : (db'.createAdmin a).result = (db.createAdmin a).result := by
  by_cases hk : a.id ∈ db.admin.keys
  · have hk' : a.id ∈ db'.admin.keys := h.adminKeys ▸ hk
    rw [Database.createAdmin_of_mem hk, Database.createAdmin_of_mem hk']
    rfl
  · have hk' : a.id ∉ db'.admin.keys := h.adminKeys ▸ hk
    simp only [Database.createAdmin, hk, hk', dite_false]
    refine Database.insertAdminRealms_result_congr ?_ h.realm h.adminRealms
    have hkeys := h.adminKeys
    simp only [Table.keys] at hkeys
    simp [Database.insertAdmin, Table.insert, Table.keys, hkeys]

theorem updateAdmin_result {a a' : Admin} (hid : a'.id = a.id) (hrs : a'.realms = a.realms) :
    (db'.updateAdmin a').result = (db.updateAdmin a).result :=
  Database.updateAdmin_result_congr h.adminKeys h.realm h.adminRealms hid hrs

theorem deleteUserpass (realm user : String) :
    PublicEq (db.deleteUserpass realm user) (db'.deleteUserpass realm user) := by
  refine ⟨h.realm, h.adminRealms, h.admin, ?_⟩
  have hfilter (t : Table UserPassRow (String × String) UserPassRow.key) :
      (t.deleteWhere (fun r => r.realm == realm && r.username == user)).rows.map
          UserPassRow.redact =
        (t.rows.map UserPassRow.redact).filter
          (fun r => !(r.realm == realm && r.username == user)) := by
    rw [List.filter_map]
    rfl
  simp only [Database.deleteUserpass, Database.deleteUserpassWhere]
  rw [hfilter, hfilter, h.userpass]

theorem createUserpass (u : UserPass) :
    (∃ e, db.createUserpass u = .error e ∧ db'.createUserpass u = .error e) ∨
      ∃ d d', db.createUserpass u = .ok d ∧ db'.createUserpass u = .ok d' ∧ PublicEq d d' := by
  have hk := h.userpassKeys
  by_cases hdup : (u.realm, u.username) ∈ db.userpass.keys
  · left
    simp [Database.createUserpass, hdup, hk]
  · have hdup' : (u.realm, u.username) ∉ db'.userpass.keys := hk ▸ hdup
    by_cases hr : u.realm ∈ db.realm.keys
    · right
      have hr' : u.realm ∈ db'.realm.keys := h.realm ▸ hr
      simp only [Database.createUserpass, hdup, hdup', hr, hr', dite_true, dite_false]
      refine ⟨_, _, rfl, rfl, h.realm, h.adminRealms, h.admin, ?_⟩
      simp [Table.insert, h.userpass]
    · left
      simp [Database.createUserpass, hdup, hk, hr, h.realm]

theorem autoLink_result (realm user : String) :
    (Endpoints.autoLink db' realm user).result = (Endpoints.autoLink db realm user).result := by
  unfold Endpoints.autoLink
  by_cases hr : realm = adminRealm
  · rcases h.getAdmin_cases user with ⟨ha, ha'⟩ | ⟨a, a', ha, ha', hred⟩
    · simp [hr, ha, ha']
    · have hup : a'.userpass = a.userpass := (Admin.mk.inj hred).2.2.1
      by_cases hu : a.userpass = some user
      · simp [hr, ha, ha', hup, hu]
      · have hres : (db'.updateAdmin { a' with userpass := some user }).result =
            (db.updateAdmin { a with userpass := some user }).result :=
          h.updateAdmin_result (Admin.mk.inj hred).1 (Admin.mk.inj hred).2.1
        simp only [hr, ha, ha', hup, hu, if_true, if_false, Outcome.mapError, hres]
  · simp [hr]

theorem autoUnlink_result (realm user : String) :
    (Endpoints.autoUnlink db' realm user).result = (Endpoints.autoUnlink db realm user).result := by
  unfold Endpoints.autoUnlink
  by_cases hr : realm = adminRealm
  · rcases h.getAdmin_cases user with ⟨ha, ha'⟩ | ⟨a, a', ha, ha', hred⟩
    · simp [hr, ha, ha']
    · have hup : a'.userpass = a.userpass := (Admin.mk.inj hred).2.2.1
      by_cases hu : a.userpass = some user
      · have hres : (db'.updateAdmin { a' with userpass := none }).result =
            (db.updateAdmin { a with userpass := none }).result :=
          h.updateAdmin_result (Admin.mk.inj hred).1 (Admin.mk.inj hred).2.1
        simp only [hr, ha, ha', hup, hu, if_true, Outcome.mapError, hres]
      · simp [hr, ha, ha', hup, hu]
  · simp [hr]

end PublicEq
end AuthVerifier
