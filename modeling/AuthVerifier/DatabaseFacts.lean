import AuthVerifier.Database

/-! What each database method reads and which rows it leaves. -/

set_option autoImplicit false

namespace AuthVerifier.Database
open Effects Relational
variable {X : Externals} {db db' : Database}

theorem mem_realmsOf {id r : String} :
    r ∈ db.realmsOf id ↔ (⟨id, r⟩ : AdminRealmRow) ∈ db.adminRealms := by
  simp only [realmsOf, List.mem_map, List.mem_filter, beq_iff_eq]
  constructor
  · rintro ⟨⟨a, b⟩, ⟨hm, rfl⟩, rfl⟩
    exact hm
  · intro h
    exact ⟨⟨id, r⟩, ⟨h, rfl⟩, rfl⟩

theorem realmsOf_nodup (db : Database) (id : String) : (db.realmsOf id).Nodup := by
  have hkeys : ((db.adminRealms.rows.filter (fun r => r.adminId == id)).map
      AdminRealmRow.key).Nodup :=
    (List.Sublist.map _ List.filter_sublist).nodup db.adminRealms.nodup
  refine List.Nodup.map_on ?_ hkeys.of_map
  intro x hx y hy he
  have hxid : x.adminId = id := by simpa using (List.mem_filter.mp hx).2
  have hyid : y.adminId = id := by simpa using (List.mem_filter.mp hy).2
  apply AdminRealmRow.key_inj
  simp only [AdminRealmRow.key, hxid, hyid, he]

@[simp] theorem toAdmin_id (row : AdminRow) : (db.toAdmin row).id = row.id := rfl
@[simp] theorem toAdmin_realms (row : AdminRow) :
    (db.toAdmin row).realms = db.realmsOf row.id := rfl

theorem getAdmin_eq_some_iff {id : String} {a : Admin} :
    db.getAdmin id = some a ↔ ∃ row ∈ db.admin, row.id = id ∧ db.toAdmin row = a := by
  simp only [getAdmin, Option.map_eq_some_iff, Table.find?_eq_some_iff, and_assoc]

theorem getAdmin_eq_none_iff {id : String} : db.getAdmin id = none ↔ id ∉ db.admin.keys := by
  simp only [getAdmin, Option.map_eq_none_iff, Table.find?_eq_none_iff]

theorem getAdmin_id {id : String} {a : Admin} (h : db.getAdmin id = some a) : a.id = id := by
  obtain ⟨row, _, hid, rfl⟩ := getAdmin_eq_some_iff.mp h
  exact hid

theorem getAdmin_realms {id : String} {a : Admin} (h : db.getAdmin id = some a) :
    a.realms = db.realmsOf id := by
  obtain ⟨row, _, hid, rfl⟩ := getAdmin_eq_some_iff.mp h
  simp [hid]

theorem mem_listAdmins {a : Admin} : a ∈ db.listAdmins ↔ ∃ row ∈ db.admin, db.toAdmin row = a := by
  simp only [listAdmins, List.mem_map, List.mem_insertionSort, Table.mem_def]

theorem mem_findAdminsByAuthScheme {s : AuthScheme} {v : String} {a : Admin} :
    a ∈ db.findAdminsByAuthScheme X s v ↔
      ∃ row ∈ db.admin, row.credential X s = some v ∧ db.toAdmin row = a := by
  simp only [findAdminsByAuthScheme, List.mem_filterMap, List.mem_map, List.mem_filter, beq_iff_eq,
    getAdmin_eq_some_iff]
  constructor
  · rintro ⟨id, ⟨row, ⟨hm, hc⟩, rfl⟩, row', hm', hid, ha⟩
    have h : row' = row := Table.eq_of_key hm' hm hid
    subst h
    exact ⟨row', hm', hc, ha⟩
  · rintro ⟨row, hm, hc, ha⟩
    exact ⟨row.id, ⟨row, ⟨hm, hc⟩, rfl⟩, row, hm, rfl, ha⟩

def Claimed (db : Database) (r : String) : Prop :=
  ∃ id, (⟨id, r⟩ : AdminRealmRow) ∈ db.adminRealms

theorem claimed_iff {r : String} : db.Claimed r ↔ ∃ a ∈ db.listAdmins, r ∈ a.realms := by
  constructor
  · rintro ⟨id, h⟩
    obtain ⟨row, hrow, hid⟩ := Table.mem_keys.mp (db.membershipAdmin _ h)
    refine ⟨db.toAdmin row, mem_listAdmins.mpr ⟨row, hrow, rfl⟩, ?_⟩
    rw [toAdmin_realms, mem_realmsOf, hid]
    exact h
  · rintro ⟨a, ha, hr⟩
    obtain ⟨row, _, rfl⟩ := mem_listAdmins.mp ha
    exact ⟨row.id, mem_realmsOf.mp hr⟩

theorem createRealm_ok {realm : Realm} (h : db.createRealm realm = .ok db') :
    realm.id ∉ db.realm.keys ∧ (∀ r, r ∈ db'.realm ↔ r ∈ db.realm ∨ r = realm) ∧
      db'.userpass = db.userpass ∧ db'.admin = db.admin ∧ db'.adminRealms = db.adminRealms := by
  unfold createRealm at h
  split at h
  · cases h
  · split at h
    · cases h
    · rename_i hk
      cases h
      exact ⟨hk, by simp, rfl, rfl, rfl⟩

theorem mem_updateRealm {realm row : Realm} (h : row ∈ (db.updateRealm realm).realm) :
    (row ∈ db.realm ∧ row.id ≠ realm.id) ∨
      (row.id = realm.id ∧ row.authParams = realm.authParams ∧ realm.id ∈ db.realm.keys) := by
  simp only [updateRealm, Table.mem_updateWhere_key] at h
  rcases h with hold | ⟨old, hold, hid, rfl⟩
  · exact .inl hold
  · exact .inr ⟨hid, rfl, hid ▸ Table.key_mem_keys hold⟩

theorem createUserpass_ok {u : UserPass} (h : db.createUserpass u = .ok db') :
    (u.realm, u.username) ∉ db.userpass.keys ∧
      (∀ r, r ∈ db'.userpass ↔ r ∈ db.userpass ∨
        r = ⟨u.realm, u.username, u.passwordHash, u.changePassword, u.roles, u.extraClaims⟩) ∧
      db'.realm = db.realm ∧ db'.admin = db.admin ∧ db'.adminRealms = db.adminRealms := by
  unfold createUserpass at h
  split at h
  · cases h
  · split at h
    · rename_i hk _
      cases h
      exact ⟨hk, fun _ => Table.mem_insert (h := hk), rfl, rfl, rfl⟩
    · cases h

section Fields
variable (db : Database)

@[simp] theorem updateRealm_userpass (r : Realm) : (db.updateRealm r).userpass = db.userpass := rfl
@[simp] theorem updateRealm_admin (r : Realm) : (db.updateRealm r).admin = db.admin := rfl
@[simp] theorem updateRealm_adminRealms (r : Realm) :
    (db.updateRealm r).adminRealms = db.adminRealms := rfl
@[simp] theorem deleteRealm_admin (r : String) : (db.deleteRealm r).admin = db.admin := rfl
@[simp] theorem mem_deleteRealm_userpass {r : String} {x : UserPassRow} :
    x ∈ (db.deleteRealm r).userpass ↔ x ∈ db.userpass ∧ x.realm ≠ r := by
  simp [deleteRealm]
@[simp] theorem mem_deleteRealm_adminRealms {r : String} {x : AdminRealmRow} :
    x ∈ (db.deleteRealm r).adminRealms ↔ x ∈ db.adminRealms ∧ x.realmId ≠ r := by
  simp [deleteRealm]

variable (f : UserPassRow → UserPassRow) (hf : ∀ r, (f r).key = r.key) (p : UserPassRow → Bool)
@[simp] theorem setUserpass_realm (r u : String) :
    (db.setUserpass r u f hf).realm = db.realm := rfl
@[simp] theorem setUserpass_admin (r u : String) :
    (db.setUserpass r u f hf).admin = db.admin := rfl
@[simp] theorem setUserpass_adminRealms (r u : String) :
    (db.setUserpass r u f hf).adminRealms = db.adminRealms := rfl
@[simp] theorem deleteUserpassWhere_realm : (db.deleteUserpassWhere p).realm = db.realm := rfl
@[simp] theorem deleteUserpassWhere_admin : (db.deleteUserpassWhere p).admin = db.admin := rfl
@[simp] theorem deleteUserpassWhere_adminRealms :
    (db.deleteUserpassWhere p).adminRealms = db.adminRealms := rfl
@[simp] theorem mem_deleteUserpassWhere {x : UserPassRow} :
    x ∈ (db.deleteUserpassWhere p).userpass ↔ x ∈ db.userpass ∧ p x = false := by
  simp [deleteUserpassWhere]

variable (q : AdminRow → Bool) (g : AdminRow → AdminRow) (hg : ∀ r, (g r).id = r.id)
@[simp] theorem setAdmin_realm : (db.setAdmin q g hg).realm = db.realm := rfl
@[simp] theorem setAdmin_userpass : (db.setAdmin q g hg).userpass = db.userpass := rfl
@[simp] theorem setAdmin_adminRealms : (db.setAdmin q g hg).adminRealms = db.adminRealms := rfl
@[simp] theorem setAdmin_keys : (db.setAdmin q g hg).admin.keys = db.admin.keys := by
  simp [setAdmin]
@[simp] theorem mem_setAdmin {x : AdminRow} :
    x ∈ (db.setAdmin q g hg).admin ↔ ∃ y ∈ db.admin, (if q y then g y else y) = x := by
  simp [setAdmin]

@[simp] theorem clearMemberships_realm (id : String) :
    (db.clearMemberships id).realm = db.realm := rfl
@[simp] theorem clearMemberships_userpass (id : String) :
    (db.clearMemberships id).userpass = db.userpass := rfl
@[simp] theorem clearMemberships_admin (id : String) :
    (db.clearMemberships id).admin = db.admin := rfl
@[simp] theorem mem_clearMemberships {id : String} {x : AdminRealmRow} :
    x ∈ (db.clearMemberships id).adminRealms ↔ x ∈ db.adminRealms ∧ x.adminId ≠ id := by
  simp [clearMemberships]

@[simp] theorem deleteAdmin_realm (id : String) : (db.deleteAdmin id).realm = db.realm := rfl
@[simp] theorem deleteAdmin_userpass (id : String) :
    (db.deleteAdmin id).userpass = db.userpass := rfl
@[simp] theorem mem_deleteAdmin {id : String} {x : AdminRow} :
    x ∈ (db.deleteAdmin id).admin ↔ x ∈ db.admin ∧ x.id ≠ id := by
  simp [deleteAdmin]
@[simp] theorem mem_deleteAdmin_adminRealms {id : String} {x : AdminRealmRow} :
    x ∈ (db.deleteAdmin id).adminRealms ↔ x ∈ db.adminRealms ∧ x.adminId ≠ id := by
  simp [deleteAdmin]

@[simp] theorem insertAdmin_realm (row : AdminRow) (h : row.id ∉ db.admin.keys) :
    (db.insertAdmin row h).realm = db.realm := rfl
@[simp] theorem insertAdmin_userpass (row : AdminRow) (h : row.id ∉ db.admin.keys) :
    (db.insertAdmin row h).userpass = db.userpass := rfl
@[simp] theorem insertAdmin_adminRealms (row : AdminRow) (h : row.id ∉ db.admin.keys) :
    (db.insertAdmin row h).adminRealms = db.adminRealms := rfl
@[simp] theorem mem_insertAdmin {row x : AdminRow} {h : row.id ∉ db.admin.keys} :
    x ∈ (db.insertAdmin row h).admin ↔ x ∈ db.admin ∨ x = row := by
  simp [insertAdmin]

end Fields

theorem insertAdminRealm_ok {id r : String} (h : db.insertAdminRealm id r = .ok db') :
    db'.realm = db.realm ∧ db'.userpass = db.userpass ∧ db'.admin = db.admin ∧
      ∀ x, x ∈ db'.adminRealms ↔ x ∈ db.adminRealms ∨ x = ⟨id, r⟩ := by
  unfold insertAdminRealm at h
  split at h
  · cases h
  · split at h
    · rename_i hk _
      cases h
      exact ⟨rfl, rfl, rfl, fun _ => Table.mem_insert (h := hk)⟩
    · cases h

/-- What inserting a list of memberships leaves, whether or not it runs to its end. -/
structure MembershipsInserted (db db' : Database) (id : String) (rs : List String) : Prop where
  realm : db'.realm = db.realm
  userpass : db'.userpass = db.userpass
  admin : db'.admin = db.admin
  kept : ∀ x ∈ db.adminRealms, x ∈ db'.adminRealms
  added : ∀ x ∈ db'.adminRealms, x ∈ db.adminRealms ∨ x.adminId = id ∧ x.realmId ∈ rs

theorem insertAdminRealms_spec (db : Database) (id : String) (rs : List String) :
    MembershipsInserted db (db.insertAdminRealms id rs).state id rs := by
  induction rs generalizing db with
  | nil => exact ⟨rfl, rfl, rfl, fun _ h => h, fun _ h => .inl h⟩
  | cons r rs ih =>
    unfold insertAdminRealms
    cases h : db.insertAdminRealm id r with
    | error e => exact ⟨rfl, rfl, rfl, fun _ h => h, fun _ h => .inl h⟩
    | ok db₁ =>
      obtain ⟨hr, hu, ha, hm⟩ := insertAdminRealm_ok h
      have hrest := ih db₁
      refine ⟨hrest.realm.trans hr, hrest.userpass.trans hu, hrest.admin.trans ha, ?_, ?_⟩
      · intro x hx
        exact hrest.kept x ((hm x).mpr (.inl hx))
      · intro x hx
        rcases hrest.added x hx with hx | ⟨hid, hmem⟩
        · rcases (hm x).mp hx with hx | rfl
          · exact .inl hx
          · exact .inr ⟨rfl, by simp⟩
        · exact .inr ⟨hid, by simp [hmem]⟩

theorem insertAdminRealms_complete {id : String} {rs : List String}
    (h : (db.insertAdminRealms id rs).result = .ok ()) :
    ∀ r ∈ rs, (⟨id, r⟩ : AdminRealmRow) ∈ (db.insertAdminRealms id rs).state.adminRealms := by
  induction rs generalizing db with
  | nil => simp
  | cons r rs ih =>
    cases hins : db.insertAdminRealm id r with
    | error e =>
      simp only [insertAdminRealms, hins] at h
      cases h
    | ok db₁ =>
      simp only [insertAdminRealms, hins] at h ⊢
      intro r' hr'
      rcases List.mem_cons.mp hr' with rfl | hr'
      · have hmem := ((insertAdminRealm_ok hins).2.2.2 ⟨id, r'⟩).mpr (.inr rfl)
        exact (insertAdminRealms_spec db₁ id rs).kept _ hmem
      · exact ih h r' hr'

theorem insertAdminRealms_ok {id : String} {rs : List String} (hid : id ∈ db.admin.keys)
    (hrs : ∀ r ∈ rs, r ∈ db.realm.keys) (hnew : ∀ r ∈ rs, r ∉ db.realmsOf id) (hnd : rs.Nodup) :
    (db.insertAdminRealms id rs).result = .ok () := by
  induction rs generalizing db with
  | nil => rfl
  | cons r rs ih =>
    have hk : (id, r) ∉ db.adminRealms.keys := by
      intro hk
      obtain ⟨x, hx, he⟩ := Table.mem_keys.mp hk
      have hxe : x = ⟨id, r⟩ := AdminRealmRow.key_inj he
      exact hnew r (by simp) (mem_realmsOf.mpr (hxe ▸ hx))
    have hr : r ∈ db.realm.keys := hrs r (by simp)
    cases hins : db.insertAdminRealm id r with
    | error e => simp [insertAdminRealm, hk, hid, hr] at hins
    | ok db₁ =>
      obtain ⟨h₁, _, h₂, h₃⟩ := insertAdminRealm_ok hins
      have hnd' := List.nodup_cons.mp hnd
      simp only [insertAdminRealms, hins]
      refine ih (h₂ ▸ hid) (fun r' hr' => h₁ ▸ hrs r' (by simp [hr'])) ?_ hnd'.2
      intro r' hr' hm
      rcases (h₃ _).mp (mem_realmsOf.mp hm) with hm | hm
      · exact hnew r' (by simp [hr']) (mem_realmsOf.mpr hm)
      · cases hm
        exact hnd'.1 hr'

theorem insertAdminRealms_result_congr {id : String} {rs : List String}
    (hk : db'.admin.keys = db.admin.keys) (hr : db'.realm = db.realm)
    (hm : db'.adminRealms = db.adminRealms) :
    (db'.insertAdminRealms id rs).result = (db.insertAdminRealms id rs).result := by
  induction rs generalizing db db' with
  | nil => rfl
  | cons r rs ih =>
    by_cases hdup : (id, r) ∈ db.adminRealms.keys
    · simp [insertAdminRealms, insertAdminRealm, hdup, hm]
    · by_cases hfk : id ∈ db.admin.keys ∧ r ∈ db.realm.keys
      · have hdup' : (id, r) ∉ db'.adminRealms.keys := hm ▸ hdup
        have hfk' : id ∈ db'.admin.keys ∧ r ∈ db'.realm.keys := by
          rw [hk, hr]
          exact hfk
        simp only [insertAdminRealms, insertAdminRealm, hdup, hdup', hfk, hfk', and_self,
          dite_true, dite_false]
        refine ih hk hr (Table.ext_rows ?_)
        simp [Table.insert, hm]
      · simp [insertAdminRealms, insertAdminRealm, hdup, hm, hr, hk, hfk]

theorem createAdmin_of_mem {a : Admin} (h : a.id ∈ db.admin.keys) :
    db.createAdmin a = .error db (.conflict s!"admin '{a.id}' already exists") := by
  simp [createAdmin, h]

theorem createAdmin_spec {a : Admin} (h : a.id ∉ db.admin.keys) :
    MembershipsInserted (db.insertAdmin (AdminRow.ofAdmin a) h) (db.createAdmin a).state
      a.id a.realms := by
  have he : db.createAdmin a =
      (db.insertAdmin (AdminRow.ofAdmin a) h).insertAdminRealms a.id a.realms := by
    simp [createAdmin, h]
  rw [he]
  exact insertAdminRealms_spec _ _ _

/-- The columns `update_admin` assigns. -/
def assignAdmin (a : Admin) (r : AdminRow) : AdminRow := { AdminRow.ofAdmin a with id := r.id }

theorem updateAdmin_spec (db : Database) (a : Admin) :
    MembershipsInserted
      ((db.setAdmin (fun r => r.id == a.id) (assignAdmin a) (fun _ => rfl)).clearMemberships a.id)
      (db.updateAdmin a).state a.id a.realms :=
  insertAdminRealms_spec _ _ _

theorem updateAdmin_ok {a : Admin} (hid : a.id ∈ db.admin.keys)
    (hrs : ∀ r ∈ a.realms, r ∈ db.realm.keys) (hnd : a.realms.Nodup) :
    (db.updateAdmin a).result = .ok () := by
  refine insertAdminRealms_ok ?_ hrs ?_ hnd
  · simpa using hid
  · intro r _ hm
    exact ((mem_clearMemberships _).mp (mem_realmsOf.mp hm)).2 rfl

theorem updateAdmin_realms_exist {a : Admin} (h : (db.updateAdmin a).result = .ok ()) :
    ∀ r ∈ a.realms, r ∈ db.realm.keys := by
  intro r hr
  have hmem := (db.updateAdmin a).state.membershipRealm _ (insertAdminRealms_complete h r hr)
  rw [(updateAdmin_spec db a).realm] at hmem
  exact hmem

theorem updateAdmin_result_congr {a a' : Admin} (hk : db'.admin.keys = db.admin.keys)
    (hr : db'.realm = db.realm) (hm : db'.adminRealms = db.adminRealms)
    (hid : a'.id = a.id) (hrs : a'.realms = a.realms) :
    (db'.updateAdmin a').result = (db.updateAdmin a).result := by
  simp only [updateAdmin, hid, hrs]
  refine insertAdminRealms_result_congr ?_ hr (Table.ext_rows ?_)
  · simpa using hk
  · simp [clearMemberships, setAdmin, Table.deleteWhere, hm]

theorem mem_updateAdmin_adminRealms_of_ne {a : Admin} {x : AdminRealmRow} (h : x.adminId ≠ a.id) :
    x ∈ (db.updateAdmin a).state.adminRealms ↔ x ∈ db.adminRealms := by
  have hs := updateAdmin_spec db a
  constructor
  · intro hx
    rcases hs.added x hx with hx | ⟨hid, _⟩
    · exact (mem_clearMemberships _).mp hx |>.1
    · exact absurd hid h
  · intro hx
    exact hs.kept x ((mem_clearMemberships _).mpr ⟨hx, h⟩)

theorem mem_updateAdmin_admin {a : Admin} {x : AdminRow} :
    x ∈ (db.updateAdmin a).state.admin ↔
      ∃ y ∈ db.admin, (if y.id == a.id then assignAdmin a y else y) = x := by
  rw [(updateAdmin_spec db a).admin]
  exact mem_setAdmin db _ (assignAdmin a) (fun _ => rfl)

theorem totpTarget_id {username : String} {r : AdminRow} (h : r.totpTarget username = true) :
    r.id = username := by
  simp only [AdminRow.totpTarget, Bool.and_eq_true, beq_iff_eq] at h
  exact h.1

theorem find?_totpTarget {username : String} {row : AdminRow} (hrow : row ∈ db.admin)
    (h : row.totpTarget username = true) :
    db.admin.rows.find? (AdminRow.totpTarget username) = some row := by
  cases hf : db.admin.rows.find? (AdminRow.totpTarget username) with
  | none => exact absurd h (List.find?_eq_none.mp hf row hrow)
  | some found =>
    have hfound := totpTarget_id (List.find?_some hf)
    rw [Table.eq_of_key (List.mem_of_find?_eq_some hf) hrow (hfound.trans (totpTarget_id h).symm)]

end AuthVerifier.Database
