import AuthVerifier.AdminAtomicity
import AuthVerifier.Server

/-!
Start-up. `init` creates the schema and then, only where the `realm` table is empty, the admin realm
with its first credential and administrator; `initialize_db` makes the administrator only together
with the credential. Databases from before a column existed and the tables of app authentication
are left out.
-/

set_option autoImplicit false

namespace AuthVerifier
open Effects Relational Transition

namespace Database
variable {db db' : Database} {passwordHash : String}

/-- `init` of `sqlite.rs` from the row count on; the hash of the initial password is given. -/
def init (db : Database) (passwordHash : String) : Outcome Database AuthDbError Unit :=
  if db.realm.rows.length = 0 then db.initializeDb passwordHash else .ok db ()

structure Bootstrapped (db : Database) : Prop where
  realm : adminRealm ∈ db.realm.keys
  userpass : (adminRealm, appRealmAdminUsername) ∈ db.userpass.keys
  admin : ∃ a, db.getAdmin appRealmAdminUsername = some a ∧ a.realms = [adminRealm] ∧
    a.userpass = some appRealmAdminUsername

def initialUserPassRow (passwordHash : String) : UserPassRow :=
  ⟨adminRealm, appRealmAdminUsername, passwordHash, true, [], none⟩

structure CreatesMissing (db db' : Database) (passwordHash : String) : Prop where
  realm : ∀ r, r ∈ db'.realm ↔ r ∈ db.realm ∨
    adminRealm ∉ db.realm.keys ∧ r = adminRealmRecord
  userpass : ∀ u, u ∈ db'.userpass ↔ u ∈ db.userpass ∨
    (adminRealm, appRealmAdminUsername) ∉ db.userpass.keys ∧ u = initialUserPassRow passwordHash
  admin : ∀ a, a ∈ db'.admin ↔ a ∈ db.admin ∨
    appRealmAdminUsername ∉ db.admin.keys ∧ a = AdminRow.ofAdmin adminRealmAdmin
  adminRealms : ∀ x, x ∈ db'.adminRealms ↔ x ∈ db.adminRealms ∨
    appRealmAdminUsername ∉ db.admin.keys ∧ x = ⟨appRealmAdminUsername, adminRealm⟩

def InitCompletes (db : Database) (passwordHash : String) : Prop :=
  (db.init passwordHash).result = .ok () ∧
    CreatesMissing db (db.init passwordHash).state passwordHash ∧
    Bootstrapped (db.init passwordHash).state

/-- Nothing is there yet, up to administrators of other names, or nothing is missing. -/
def Bootable (db : Database) : Prop :=
  db.realm.rows = [] ∧ appRealmAdminUsername ∉ db.admin.keys ∨
    db.realm.rows ≠ [] ∧ Bootstrapped db

theorem realmsOf_eq_singleton_iff {id r : String} :
    db.realmsOf id = [r] ↔ ∀ x, (⟨id, x⟩ : AdminRealmRow) ∈ db.adminRealms ↔ x = r := by
  constructor
  · intro h x
    rw [← mem_realmsOf, h, List.mem_singleton]
  · intro h
    have hmem : ∀ x, x ∈ db.realmsOf id ↔ x ∈ [r] := fun x => by
      rw [mem_realmsOf, h, List.mem_singleton]
    exact List.perm_singleton.mp
      ((List.perm_ext_iff_of_nodup (realmsOf_nodup db id) (List.nodup_singleton r)).mpr hmem)

theorem bootstrapped_admin_iff :
    (∃ a, db.getAdmin appRealmAdminUsername = some a ∧ a.realms = [adminRealm] ∧
        a.userpass = some appRealmAdminUsername) ↔
      (∃ row ∈ db.admin, row.id = appRealmAdminUsername ∧
        row.userpass = some appRealmAdminUsername) ∧
      ∀ x, (⟨appRealmAdminUsername, x⟩ : AdminRealmRow) ∈ db.adminRealms ↔ x = adminRealm := by
  constructor
  · rintro ⟨a, hget, hrealms, huserpass⟩
    rw [getAdmin_realms hget] at hrealms
    obtain ⟨row, hrow, hid, rfl⟩ := getAdmin_eq_some_iff.mp hget
    exact ⟨⟨row, hrow, hid, huserpass⟩, realmsOf_eq_singleton_iff.mp hrealms⟩
  · rintro ⟨⟨row, hrow, hid, huserpass⟩, hmember⟩
    refine ⟨db.toAdmin row, getAdmin_eq_some_iff.mpr ⟨row, hrow, hid, rfl⟩, ?_, huserpass⟩
    rw [toAdmin_realms, hid]
    exact realmsOf_eq_singleton_iff.mpr hmember

theorem createsMissing_self (h : Bootstrapped db) : CreatesMissing db db passwordHash := by
  have hadmin : appRealmAdminUsername ∈ db.admin.keys := by
    obtain ⟨a, hget, _⟩ := h.admin
    by_contra hk
    rw [getAdmin_eq_none_iff.mpr hk] at hget
    cases hget
  constructor
  · simp [h.realm]
  · simp [h.userpass]
  · simp [hadmin]
  · simp [hadmin]

section Empty
variable (hempty : db.realm.rows = [])
include hempty

theorem no_realm (r : String) : r ∉ db.realm.keys := by
  simp [Table.keys, hempty]

theorem no_userpass (u : UserPassRow) : u ∉ db.userpass :=
  fun hu => no_realm hempty _ (db.userpassRealm u hu)

theorem no_membership (x : AdminRealmRow) : x ∉ db.adminRealms :=
  fun hx => no_realm hempty _ (db.membershipRealm x hx)

theorem initializeDb_of_empty (passwordHash : String) : ∃ db₂ : Database,
    db.initializeDb passwordHash = db₂.createAdmin adminRealmAdmin ∧
      (∀ r, r ∈ db₂.realm ↔ r = adminRealmRecord) ∧
      (∀ u, u ∈ db₂.userpass ↔ u = initialUserPassRow passwordHash) ∧
      db₂.admin = db.admin ∧ db₂.adminRealms = db.adminRealms := by
  have hget : db.getRealm adminRealm = none :=
    Table.find?_eq_none_iff.mpr (no_realm hempty adminRealm)
  cases hrealm : db.createRealm adminRealmRecord with
  | error e =>
    have hcheck : realmIdCheck adminRealmRecord.id = true := by decide
    simp [createRealm, hcheck, no_realm hempty] at hrealm
  | ok db₁ =>
    obtain ⟨_, hrealm₁, huserpass₁, hadmin₁, hmember₁⟩ := createRealm_ok hrealm
    have hkey : (adminRealm, appRealmAdminUsername) ∉ db₁.userpass.keys := by
      rw [huserpass₁, Table.mem_keys]
      rintro ⟨u, hu, _⟩
      exact no_userpass hempty u hu
    have hnone : db₁.getUserpass adminRealm appRealmAdminUsername = none := by
      rw [getUserpass, Table.find?_eq_none_iff.mpr hkey]
      rfl
    have hknown : adminRealm ∈ db₁.realm.keys :=
      Table.mem_keys.mpr ⟨adminRealmRecord, (hrealm₁ _).mpr (.inr rfl), rfl⟩
    cases hcreate : db₁.createUserpass (adminRealmUserPass passwordHash) with
    | error e => simp [createUserpass, adminRealmUserPass, hkey, hknown] at hcreate
    | ok db₂ =>
      obtain ⟨_, huserpass₂, hrealm₂, hadmin₂, hmember₂⟩ := createUserpass_ok hcreate
      refine ⟨db₂, ?_, ?_, ?_, hadmin₂.trans hadmin₁, hmember₂.trans hmember₁⟩
      · simp only [initializeDb, hget, hrealm, Outcome.bind, Outcome.ok, hnone, hcreate]
      · intro r
        rw [hrealm₂, hrealm₁]
        exact or_iff_right fun hr => no_realm hempty _ (Table.key_mem_keys hr)
      · intro u
        rw [huserpass₂, huserpass₁]
        exact or_iff_right (no_userpass hempty u)

theorem initCompletes_of_empty_iff :
    InitCompletes db passwordHash ↔ appRealmAdminUsername ∉ db.admin.keys := by
  obtain ⟨db₂, hinit, hrealm, huserpass, hadmin, hmember⟩ :=
    initializeDb_of_empty hempty passwordHash
  have hstart : db.init passwordHash = db₂.createAdmin adminRealmAdmin := by
    rw [init, if_pos (by simp [hempty]), hinit]
  rw [InitCompletes, hstart]
  by_cases hthere : appRealmAdminUsername ∈ db.admin.keys
  · have hfails : (db₂.createAdmin adminRealmAdmin).result = .error (.conflict _) :=
      congrArg Outcome.result (createAdmin_of_mem (hadmin ▸ hthere))
    rw [hfails]
    simp [hthere]
  · have hnew : adminRealmAdmin.id ∉ db₂.admin.keys := hadmin ▸ hthere
    have hknown : adminRealm ∈ db₂.realm.keys :=
      Table.mem_keys.mpr ⟨adminRealmRecord, (hrealm _).mpr rfl, rfl⟩
    have hrealm₃ : (db₂.createAdmin adminRealmAdmin).state.realm = db₂.realm :=
      (createAdmin_spec hnew).realm
    have huserpass₃ : (db₂.createAdmin adminRealmAdmin).state.userpass = db₂.userpass :=
      (createAdmin_spec hnew).userpass
    obtain ⟨hadmin₃, hmember₃, hresult⟩ := createAdmin_exact hnew
    have hrows : ∀ x, x ∈ (db₂.createAdmin adminRealmAdmin).state.adminRealms ↔
        x = ⟨appRealmAdminUsername, adminRealm⟩ := by
      intro x
      rw [hmember₃, hmember, or_iff_right (no_membership hempty x)]
      have hone : insertable db₂.realm.keys [] adminRealmAdmin.realms = [adminRealm] := by
        simp [insertable, adminRealmAdmin, hknown]
      rw [hone, List.mem_singleton]
      exact ⟨fun h => AdminRealmRow.key_inj (Prod.ext h.1 h.2), fun h => by subst h; exact ⟨rfl, rfl⟩⟩
    refine iff_of_true ⟨?_, ?_, ?_⟩ hthere
    · exact hresult.mpr ⟨List.nodup_singleton _, fun r hr => by
        rw [List.mem_singleton.mp hr]
        exact hknown⟩
    · constructor
      · intro r
        rw [hrealm₃, hrealm]
        simp only [no_realm hempty adminRealm, not_false_iff, true_and]
        exact (or_iff_right fun hr => no_realm hempty _ (Table.key_mem_keys hr)).symm
      · intro u
        rw [huserpass₃, huserpass]
        have hkey : (adminRealm, appRealmAdminUsername) ∉ db.userpass.keys := by
          rw [Table.mem_keys]
          rintro ⟨v, hv, _⟩
          exact no_userpass hempty v hv
        simp only [hkey, not_false_iff, true_and]
        exact (or_iff_right (no_userpass hempty u)).symm
      · intro a
        rw [hadmin₃, hadmin]
        simp [hthere]
      · intro x
        rw [hrows]
        simp [hthere, no_membership hempty x]
    · constructor
      · rw [hrealm₃]
        exact hknown
      · rw [huserpass₃]
        exact Table.mem_keys.mpr ⟨initialUserPassRow passwordHash, (huserpass _).mpr rfl, rfl⟩
      · refine bootstrapped_admin_iff.mpr ⟨⟨AdminRow.ofAdmin adminRealmAdmin,
          (hadmin₃ _).mpr (.inr rfl), rfl, rfl⟩, ?_⟩
        intro x
        rw [hrows]
        simp

end Empty

theorem initCompletes_of_nonempty_iff (h : db.realm.rows ≠ []) :
    InitCompletes db passwordHash ↔ Bootstrapped db := by
  have hstart : db.init passwordHash = .ok db () := by
    rw [init, if_neg (by simpa using h)]
  rw [InitCompletes, hstart]
  exact ⟨fun hdone => hdone.2.2, fun hb => ⟨rfl, createsMissing_self hb, hb⟩⟩

theorem initCompletes_iff : InitCompletes db passwordHash ↔ Bootable db := by
  by_cases hempty : db.realm.rows = []
  · rw [initCompletes_of_empty_iff hempty]
    simp [Bootable, hempty]
  · rw [initCompletes_of_nonempty_iff hempty]
    simp [Bootable, hempty]

theorem bootstrapped_of_admins (h : Bootstrapped db) (hrealm : db'.realm = db.realm)
    (huserpass : db'.userpass = db.userpass)
    (hadmin : ∀ row ∈ db.admin, row.id = appRealmAdminUsername →
      row.userpass = some appRealmAdminUsername → ∃ row' ∈ db'.admin,
        row'.id = appRealmAdminUsername ∧ row'.userpass = some appRealmAdminUsername)
    (hmember : ∀ x, (⟨appRealmAdminUsername, x⟩ : AdminRealmRow) ∈ db'.adminRealms ↔
      (⟨appRealmAdminUsername, x⟩ : AdminRealmRow) ∈ db.adminRealms) : Bootstrapped db' := by
  obtain ⟨⟨row, hrow, hid, hname⟩, hrows⟩ := bootstrapped_admin_iff.mp h.admin
  exact ⟨hrealm ▸ h.realm, huserpass ▸ h.userpass, bootstrapped_admin_iff.mpr
    ⟨hadmin row hrow hid hname, fun x => (hmember x).trans (hrows x)⟩⟩

theorem bootstrapped_updateAdmin {a : Admin} (h : Bootstrapped db)
    (ha : a.id = appRealmAdminUsername →
      a.realms = [adminRealm] ∧ a.userpass = some appRealmAdminUsername) :
    Bootstrapped (db.updateAdmin a).state := by
  have hspec := updateAdmin_spec db a
  refine bootstrapped_of_admins h hspec.realm hspec.userpass ?_ ?_
  · intro row hrow hid hname
    refine ⟨_, mem_updateAdmin_admin.mpr ⟨row, hrow, rfl⟩, ?_⟩
    by_cases hself : a.id = appRealmAdminUsername
    · simp [hid, hself, assignAdmin, AdminRow.ofAdmin, (ha hself).2]
    · have hother : (row.id == a.id) = false := beq_false_of_ne fun he => hself (he ▸ hid)
      rw [hother]
      exact ⟨hid, hname⟩
  · intro x
    by_cases hself : appRealmAdminUsername = a.id
    · obtain ⟨⟨row, hrow, hid, _⟩, hrows⟩ := bootstrapped_admin_iff.mp h.admin
      have hkey : a.id ∈ db.admin.keys := hself ▸ hid ▸ Table.key_mem_keys hrow
      have hone : insertable db.realm.keys [] a.realms = [adminRealm] := by
        simp [insertable, (ha hself.symm).1, h.realm]
      rw [hrows, hself, ← mem_realmsOf, (updateAdmin_exact hkey).1, hone, List.mem_singleton]
    · exact mem_updateAdmin_adminRealms_of_ne hself

theorem bootstrapped_setAdmin {p : AdminRow → Bool} {f : AdminRow → AdminRow}
    {hf : ∀ r, (f r).id = r.id} (h : Bootstrapped db) (hname : ∀ r, (f r).userpass = r.userpass) :
    Bootstrapped (db.setAdmin p f hf) := by
  refine bootstrapped_of_admins h rfl rfl ?_ (fun x => .rfl)
  intro row hrow hid huserpass
  refine ⟨_, (mem_setAdmin db p f hf).mpr ⟨row, hrow, rfl⟩, ?_⟩
  split
  · exact ⟨(hf row).trans hid, (hname row).trans huserpass⟩
  · exact ⟨hid, huserpass⟩

theorem bootstrapped_createAdmin {a : Admin} (h : Bootstrapped db) :
    Bootstrapped (db.createAdmin a).state := by
  by_cases hid : a.id ∈ db.admin.keys
  · rw [createAdmin_of_mem hid]
    exact h
  · obtain ⟨hadmin, hmember, _⟩ := createAdmin_exact hid
    refine bootstrapped_of_admins h (createAdmin_spec hid).realm (createAdmin_spec hid).userpass
      (fun row hrow hrowId hname => ⟨row, (hadmin row).mpr (.inl hrow), hrowId, hname⟩) ?_
    intro x
    rw [hmember]
    refine or_iff_left fun hnew => hid ?_
    obtain ⟨⟨row, hrow, hrowId, _⟩, _⟩ := bootstrapped_admin_iff.mp h.admin
    exact hnew.1 ▸ hrowId ▸ Table.key_mem_keys hrow

theorem bootstrapped_of_keys (h : Bootstrapped db) (hadmin : db'.admin = db.admin)
    (hmember : ∀ x, (⟨appRealmAdminUsername, x⟩ : AdminRealmRow) ∈ db'.adminRealms ↔
      (⟨appRealmAdminUsername, x⟩ : AdminRealmRow) ∈ db.adminRealms)
    (hrealm : adminRealm ∈ db'.realm.keys)
    (huserpass : (adminRealm, appRealmAdminUsername) ∈ db'.userpass.keys) : Bootstrapped db' := by
  obtain ⟨hrow, hrows⟩ := bootstrapped_admin_iff.mp h.admin
  exact ⟨hrealm, huserpass, bootstrapped_admin_iff.mpr
    ⟨hadmin ▸ hrow, fun x => (hmember x).trans (hrows x)⟩⟩

theorem bootstrapped_deleteUserpassWhere {p : UserPassRow → Bool} (h : Bootstrapped db)
    (hkeep : ∀ u, u.key = (adminRealm, appRealmAdminUsername) → p u = false) :
    Bootstrapped (db.deleteUserpassWhere p) := by
  obtain ⟨u, hu, hkey⟩ := Table.mem_keys.mp h.userpass
  refine bootstrapped_of_keys h rfl (fun _ => .rfl) h.realm ?_
  exact Table.mem_keys.mpr ⟨u, (mem_deleteUserpassWhere db p).mpr ⟨hu, hkeep u hkey⟩, hkey⟩

theorem bootstrapped_setUserpass {realm user : String} {f : UserPassRow → UserPassRow}
    {hf : ∀ r, (f r).key = r.key} (h : Bootstrapped db) :
    Bootstrapped (db.setUserpass realm user f hf) := by
  refine bootstrapped_of_keys h rfl (fun _ => .rfl) h.realm ?_
  rw [setUserpass, Table.keys_updateWhere]
  exact h.userpass

theorem bootstrapped_deleteAdmin {id : String} (h : Bootstrapped db)
    (hid : id ≠ appRealmAdminUsername) : Bootstrapped (db.deleteAdmin id) := by
  refine bootstrapped_of_admins h rfl rfl ?_ ?_
  · intro row hrow hrowId hname
    exact ⟨row, (mem_deleteAdmin db).mpr ⟨hrow, hrowId ▸ hid.symm⟩, hrowId, hname⟩
  · intro x
    exact (mem_deleteAdmin_adminRealms db).trans (and_iff_left hid.symm)

end Database

def AdminRequest.Disturbs (db : Database) : AdminRequest → Prop
  | .deleteRealm realm => realm = adminRealm
  | .deleteUserpass realm user => realm = adminRealm ∧ user = Database.appRealmAdminUsername
  | .deleteAdmin id => id = Database.appRealmAdminUsername ∨
      ∃ target, db.getAdmin id = some target ∧
        target.userpass = some Database.appRealmAdminUsername
  | .updateAdmin id body => id = Database.appRealmAdminUsername ∧
      ¬ (body.realms = [adminRealm] ∧ body.userpass = some Database.appRealmAdminUsername)
  | .addAdminToRealm id realm => id = Database.appRealmAdminUsername ∧ realm ≠ adminRealm
  | .removeAdminFromRealm id realm => id = Database.appRealmAdminUsername ∧ realm = adminRealm
  | _ => False

open Database in
theorem Endpoints.bootstrapped_autoLink {db : Database} {realm user : String}
    (h : Bootstrapped db) (hother : realm = adminRealm → user ≠ appRealmAdminUsername) :
    Bootstrapped (autoLink db realm user).state := by
  rcases autoLink_cases db realm user with he | ⟨a, hrealm, hget, he⟩
  · rw [he]
    exact h
  · rw [he]
    refine bootstrapped_updateAdmin h fun hid => absurd ?_ (hother hrealm)
    exact (getAdmin_id hget).symm.trans hid

open Database in
theorem Endpoints.bootstrapped_autoUnlink {db : Database} {realm user : String}
    (h : Bootstrapped db) (hother : realm = adminRealm → user ≠ appRealmAdminUsername) :
    Bootstrapped (autoUnlink db realm user).state := by
  rcases autoUnlink_cases db realm user with he | ⟨a, hrealm, hget, he⟩
  · rw [he]
    exact h
  · rw [he]
    refine bootstrapped_updateAdmin h fun hid => absurd ?_ (hother hrealm)
    exact (getAdmin_id hget).symm.trans hid

section
variable {X : Externals} {params : ServerParams}
open Database

theorem Writes.bootstrapped {m : Moment} {requester : Admin} {db db' : Database}
    {req : AdminRequest} (hw : Writes X params m requester db req db') (h : Bootstrapped db)
    (hkeep : ¬ req.Disturbs db) : Bootstrapped db' := by
  -- A target that is the first administrator has the one realm and the name it started with.
  have hfirst {id : String} {target : Admin} (ht : db.getAdmin id = some target)
      (hid : target.id = appRealmAdminUsername) :
      target.realms = [adminRealm] ∧ target.userpass = some appRealmAdminUsername := by
    obtain ⟨a, hget, hrealms, hname⟩ := h.admin
    rw [← getAdmin_id ht, hid, hget] at ht
    cases ht
    exact ⟨hrealms, hname⟩
  cases hw with
  | nothing => exact h
  | createAdmin body => exact bootstrapped_createAdmin h
  | updateAdmin id body target ht =>
    refine bootstrapped_updateAdmin h fun hid => ?_
    by_contra hbad
    exact hkeep ⟨hid, hbad⟩
  | deleteAdmin id target ht => exact bootstrapped_deleteAdmin h fun he => hkeep (.inl he)
  | deleteAdminCascade id u target ht _ hu =>
    refine bootstrapped_deleteUserpassWhere
      (bootstrapped_deleteAdmin h fun he => hkeep (.inl he)) fun row hkey => ?_
    have hname : row.username = appRealmAdminUsername := congrArg Prod.snd hkey
    rw [hname]
    refine beq_false_of_ne fun he => hkeep (.inr ⟨target, ht, ?_⟩)
    rw [hu, he]
  | addAdminToRealm id realm target _ ht _ hn =>
    refine bootstrapped_updateAdmin h fun hid => ?_
    have hrealms := (hfirst ht hid).1
    have hin : realm ≠ adminRealm := by
      rintro rfl
      exact hn (by simp [hrealms])
    exact absurd ⟨(getAdmin_id ht).symm.trans hid, hin⟩ hkeep
  | removeAdminFromRealm id realm target _ ht =>
    refine bootstrapped_updateAdmin h fun hid => ?_
    obtain ⟨hrealms, hname⟩ := hfirst ht hid
    have hne : realm ≠ adminRealm := fun he => hkeep ⟨(getAdmin_id ht).symm.trans hid, he⟩
    refine ⟨?_, hname⟩
    simp [hrealms, hne.symm]
  | createRealm body realm _ _ _ hd =>
    obtain ⟨_, hrealm, huserpass, hadmin, hmember⟩ := createRealm_ok hd
    refine bootstrapped_of_keys h hadmin (fun _ => by rw [hmember]) ?_ (huserpass ▸ h.userpass)
    obtain ⟨r, hr, hid⟩ := Table.mem_keys.mp h.realm
    exact Table.mem_keys.mpr ⟨r, (hrealm r).mpr (.inl hr), hid⟩
  | updateRealm id body realm =>
    refine bootstrapped_of_keys h rfl (fun _ => .rfl) ?_ h.userpass
    rw [Database.updateRealm, Table.keys_updateWhere]
    exact h.realm
  | deleteRealm id =>
    have hid : adminRealm ≠ id := fun he => hkeep he.symm
    refine bootstrapped_of_keys h rfl ?_ (Table.mem_keys_deleteKey.mpr ⟨h.realm, hid⟩) ?_
    · intro x
      rw [mem_deleteRealm_adminRealms]
      refine and_iff_left_of_imp fun hx => ?_
      obtain ⟨_, hrows⟩ := bootstrapped_admin_iff.mp h.admin
      exact (hrows x).mp hx ▸ hid
    · obtain ⟨u, hu, hkey⟩ := Table.mem_keys.mp h.userpass
      have hurealm : u.realm = adminRealm := congrArg Prod.fst hkey
      exact Table.mem_keys.mpr ⟨u, (mem_deleteRealm_userpass db).mpr ⟨hu, hurealm ▸ hid⟩, hkey⟩
  | createUserpass realm hash body db₁ _ _ hd =>
    obtain ⟨hfree, huserpass, hrealm, hadmin, hmember⟩ := createUserpass_ok hd
    refine Endpoints.bootstrapped_autoLink ?_ ?_
    · refine bootstrapped_of_keys h hadmin (fun _ => by rw [hmember]) (hrealm ▸ h.realm) ?_
      obtain ⟨u, hu, hkey⟩ := Table.mem_keys.mp h.userpass
      exact Table.mem_keys.mpr ⟨u, (huserpass u).mpr (.inl hu), hkey⟩
    · rintro rfl hname
      exact hfree (hname ▸ h.userpass)
  | updateUserpass realm user hash body => exact bootstrapped_setUserpass h
  | updateUserpassMetadata realm user body => exact bootstrapped_setUserpass h
  | deleteUserpass realm user =>
    have hother : realm = adminRealm → user ≠ appRealmAdminUsername :=
      fun hrealm hname => hkeep ⟨hrealm, hname⟩
    refine Endpoints.bootstrapped_autoUnlink (bootstrapped_deleteUserpassWhere h ?_) hother
    rintro ⟨r, name⟩ hkey
    cases hkey
    by_contra hhit
    simp only [Bool.not_eq_false, Bool.and_eq_true, beq_iff_eq] at hhit
    exact hother hhit.1.symm hhit.2.symm
  | totpVerify realm body _ _ _ hd =>
    unfold enableTotp at hd
    split at hd
    · cases hd
    · cases hd
      exact bootstrapped_setAdmin h (fun _ => rfl)
  | totpDisable realm user => exact bootstrapped_setAdmin h (fun _ => rfl)

theorem bootstrapped_fresh (passwordHash : String) : Bootstrapped (fresh passwordHash) := by
  have hfirst : InitCompletes Database.empty passwordHash :=
    (initCompletes_of_empty_iff rfl).mpr (by decide)
  exact hfirst.2.2

theorem bootstrapped_run (initialHash : String) (calls : List Call)
    (hkeep : ∀ x ∈ trace (step X params) (.initial initialHash) calls, ∀ query cookie req,
      x.2.request = .admin query cookie req → ¬ req.Disturbs x.1.db) :
    Bootstrapped (run (step X params) (.initial initialHash) calls).db := by
  refine run_keeps_of (step X params) (fun s => Bootstrapped s.db)
    (C := fun s c => ∀ query cookie req, c.request = .admin query cookie req → ¬ req.Disturbs s.db)
    (bootstrapped_fresh initialHash) ?_ calls hkeep
  intro s c h hc
  rcases step_db c with hsame | ⟨query, cookie, req, requester, hreq, hw⟩
  · rw [hsame]
    exact h
  · exact hw.bootstrapped h (hc query cookie req hreq)

/-- When starting again does what start-up promises: exactly on a database that lacks all three
records, with no realm of any kind, or none of them. Where no request ever aims at one of the
records, that is always. -/
theorem init_completes_iff_bootable (initialHash passwordHash : String) :
    (∀ db, InitCompletes db passwordHash ↔ Bootable db) ∧
    ∀ calls : List Call,
      (∀ x ∈ trace (step X params) (.initial initialHash) calls, ∀ query cookie req,
        x.2.request = .admin query cookie req → ¬ req.Disturbs x.1.db) →
      InitCompletes (run (step X params) (.initial initialHash) calls).db passwordHash := by
  refine ⟨fun db => initCompletes_iff, fun calls hkeep => ?_⟩
  have hb := bootstrapped_run initialHash calls hkeep
  refine initCompletes_iff.mpr (.inr ⟨?_, hb⟩)
  intro hempty
  exact no_realm hempty _ hb.realm

end

open Database Transparent in
/-- A realm is set up with an administrator of its own and deleted again. -/
def realmComesAndGoes : List Call :=
  [rootLogin,
   ⟨moment 1001, .admin "" (some rootCookie) (.createRealm
    { id := "r", authParams := {}, sessionMaxAgeSeconds := 60, sessionMaxStaleAgeSeconds := 60 })⟩,
   ⟨moment 1002, .admin "" (some rootCookie) (.createAdmin
    { id := "bob", realms := ["r"], userpass := some "bob" })⟩,
   ⟨moment 1003, .admin "" (some rootCookie) (.deleteRealm "r")⟩]

open Database Transparent in
theorem init_completes_realmComesAndGoes :
    InitCompletes (run (step externals params) start realmComesAndGoes).db "hash" :=
  (init_completes_iff_bootable initialHash "hash").2 realmComesAndGoes (by
    intro x hx query cookie req hreq
    have hc := mem_of_mem_trace _ hx
    simp only [realmComesAndGoes, List.mem_cons, List.not_mem_nil, or_false] at hc
    rcases hc with hc | hc | hc | hc
    all_goals
      rw [hc] at hreq
      cases hreq
    · exact id
    · exact id
    · exact fun h => absurd (show "r" = adminRealm from h) (by decide))

open Database Transparent in
/-- Once the admin realm has been deleted the server does not start again, and with another realm
left it starts without any of the three records but the administrator. -/
theorem restart_after_deleteRealm :
    let delete : Call := ⟨moment 1002, .admin "" (some rootCookie) (.deleteRealm "_")⟩
    let create : Call := ⟨moment 1001, .admin "" (some rootCookie) (.createRealm
      { id := "r", authParams := {}, sessionMaxAgeSeconds := 60, sessionMaxStaleAgeSeconds := 60 })⟩
    let db₁ := (run (step externals params) start [rootLogin, delete]).db
    let db₂ := (run (step externals params) start [rootLogin, create, delete]).db
    (db₁.init "hash").result = .error (.conflict "admin 'admin' already exists") ∧
      ¬ InitCompletes db₁ "hash" ∧
      db₂.init "hash" = .ok db₂ () ∧ ¬ InitCompletes db₂ "hash" := by
  intro delete create db₁ db₂
  have hconflict : (db₁.init "hash").result = .error (.conflict "admin 'admin' already exists") := by
    decide
  have hkeys : db₂.realm.keys = ["r"] := by
    decide
  clear_value db₁ db₂
  have hidle : db₂.init "hash" = .ok db₂ () := by
    refine if_neg ?_
    intro hempty
    have hnone : db₂.realm.keys = [] := by
      rw [Table.keys, List.length_eq_zero_iff.mp hempty, List.map_nil]
    rw [hkeys] at hnone
    cases hnone
  refine ⟨hconflict, ?_, hidle, ?_⟩
  · intro h
    have hok := h.1
    rw [hconflict] at hok
    cases hok
  · intro h
    have hrealm := h.2.2.realm
    rw [hidle] at hrealm
    have hmissing : adminRealm ∉ db₂.realm.keys := by
      rw [hkeys]
      decide
    exact hmissing hrealm

end AuthVerifier
