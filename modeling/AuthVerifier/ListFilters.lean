import AuthVerifier.SecretNonDisclosure
import AuthVerifier.Server

/-!
Lists against single reads. A list is filtered with the claimed realms computed once, a single read
asks the database about each realm. For a super admin both let the same administrators and the same
credentials through, so that a list never shows what a read refuses.
-/

set_option autoImplicit false

namespace AuthVerifier.Endpoints
open Effects Relational

def Authorised (out : Outcome Database AuthError HttpResponse) : Prop :=
  ∃ response, out.result = .ok response

section
variable {db : Database} {requester : Admin}

theorem getAdmin_result_iff {id : String} {response : HttpResponse} :
    (getAdmin requester id db).result = .ok response ↔
      ∃ target, db.getAdmin id = some target ∧
        canManageAdminRealms requester target.realms db = true ∧
        response = { status := 200, body := .admin target } := by
  unfold getAdmin
  cases hget : db.getAdmin id with
  | none => simp
  | some target =>
    cases hcan : canManageAdminRealms requester target.realms db with
    | false => simp [hcan]
    | true =>
      simp only [hcan, Bool.true_eq_false, if_false, Outcome.ok_result, Except.ok.injEq]
      constructor
      · rintro rfl
        exact ⟨target, rfl, hcan, rfl⟩
      · rintro ⟨_, htarget, _, rfl⟩
        rw [Option.some.inj htarget]

theorem getUserpass_result_iff {realm username : String} {response : HttpResponse} :
    (getUserpass requester realm username db).result = .ok response ↔
      canManageRealm requester realm db = true ∧
        ∃ userpass, db.getUserpass realm username = some userpass ∧
          response = { status := 200, body := .userpass { userpass with passwordHash := "" } } := by
  unfold getUserpass
  cases hcan : canManageRealm requester realm db with
  | false => simp
  | true =>
    cases hget : db.getUserpass realm username with
    | none => simp
    | some userpass =>
      constructor
      · intro h
        cases h
        exact ⟨rfl, userpass, rfl, rfl⟩
      · rintro ⟨_, _, huserpass, rfl⟩
        cases huserpass
        rfl

theorem getUserpass_isSome_iff {realm username : String} :
    (∃ userpass, db.getUserpass realm username = some userpass) ↔
      ∃ row ∈ db.userpass, row.realm = realm ∧ row.username = username := by
  simp only [Database.getUserpass, Option.map_eq_some_iff, Table.find?_eq_some_iff,
    UserPassRow.key, Prod.mk.injEq]
  constructor
  · rintro ⟨_, row, ⟨hrow, hkey⟩, _⟩
    exact ⟨row, hrow, hkey⟩
  · rintro ⟨row, hrow, hkey⟩
    exact ⟨_, row, ⟨hrow, hkey⟩, rfl⟩

theorem mem_listAllUserpass {entry : UserPass} :
    entry ∈ db.listAllUserpass ↔ ∃ row ∈ db.userpass, row.toUserPass row.password = entry := by
  simp only [Database.listAllUserpass, List.mem_map, List.mem_insertionSort, Table.mem_def]

/-- What `list_admins` shows a super admin. -/
def shownToSuperAdmin (requester : Admin) (db : Database) : List Admin :=
  db.listAdmins.filter (adminVisible requester (claimedRealms db.listAdmins))

/-- What `list_all_userpass` shows a super admin. -/
def credentialsShownToSuperAdmin (requester : Admin) (db : Database) : List UserPass :=
  db.listAllUserpass.filter
    (fun entry => realmManageableGivenClaims requester entry.realm (claimedRealms db.listAdmins))

theorem listAdmins_of_superAdmin (hs : adminRealm ∈ requester.realms) :
    (listAdmins requester db).result =
      .ok { status := 200, body := .admins (shownToSuperAdmin requester db) } := by
  simp [listAdmins, isSuperAdmin_iff.mpr hs, shownToSuperAdmin]

theorem listAllUserpass_of_superAdmin (hs : adminRealm ∈ requester.realms) :
    (listAllUserpass requester db).result =
      .ok { status := 200, body := .userpassList (credentialsShownToSuperAdmin requester db) } := by
  simp [listAllUserpass, isSuperAdmin_iff.mpr hs, credentialsShownToSuperAdmin]

theorem mem_shownToSuperAdmin {admin : Admin} :
    admin ∈ shownToSuperAdmin requester db ↔
      (getAdmin requester admin.id db).result = .ok { status := 200, body := .admin admin } := by
  rw [shownToSuperAdmin, List.mem_filter, adminVisible_eq, getAdmin_result_iff]
  constructor
  · rintro ⟨hmem, hcan⟩
    exact ⟨admin, Database.getAdmin_of_mem_listAdmins hmem, hcan, rfl⟩
  · rintro ⟨target, hget, hcan, hresponse⟩
    cases hresponse
    obtain ⟨row, hrow, _, rfl⟩ := Database.getAdmin_eq_some_iff.mp hget
    exact ⟨Database.mem_listAdmins.mpr ⟨row, hrow, rfl⟩, hcan⟩

theorem exists_shownToSuperAdmin {id : String} :
    (∃ admin ∈ shownToSuperAdmin requester db, admin.id = id) ↔
      Authorised (getAdmin requester id db) := by
  constructor
  · rintro ⟨admin, hmem, rfl⟩
    exact ⟨_, mem_shownToSuperAdmin.mp hmem⟩
  · rintro ⟨response, hget⟩
    obtain ⟨target, htarget, _, rfl⟩ := getAdmin_result_iff.mp hget
    have hid : target.id = id := Database.getAdmin_id htarget
    refine ⟨target, mem_shownToSuperAdmin.mpr ?_, hid⟩
    rw [hid]
    exact hget

theorem exists_credentialsShown {realm username : String} :
    (∃ entry ∈ credentialsShownToSuperAdmin requester db,
        entry.realm = realm ∧ entry.username = username) ↔
      Authorised (getUserpass requester realm username db) := by
  have hread : Authorised (getUserpass requester realm username db) ↔
      canManageRealm requester realm db = true ∧
        ∃ row ∈ db.userpass, row.realm = realm ∧ row.username = username := by
    rw [← getUserpass_isSome_iff]
    constructor
    · rintro ⟨response, h⟩
      obtain ⟨hcan, userpass, hget, _⟩ := getUserpass_result_iff.mp h
      exact ⟨hcan, userpass, hget⟩
    · rintro ⟨hcan, userpass, hget⟩
      exact ⟨_, getUserpass_result_iff.mpr ⟨hcan, userpass, hget, rfl⟩⟩
  rw [hread]
  simp only [credentialsShownToSuperAdmin, List.mem_filter, mem_listAllUserpass,
    realmManageableGivenClaims_eq]
  constructor
  · rintro ⟨_, ⟨⟨row, hrow, rfl⟩, hcan⟩, rfl, rfl⟩
    exact ⟨hcan, row, hrow, rfl, rfl⟩
  · rintro ⟨hcan, row, hrow, rfl, rfl⟩
    exact ⟨_, ⟨⟨row, hrow, rfl⟩, hcan⟩, rfl, rfl⟩

theorem getAdmin_of_not_authorised {row : AdminRow} (hrow : row ∈ db.admin)
    (h : ¬ Authorised (getAdmin requester row.id db)) :
    (getAdmin requester row.id db).result = .error (notExclusivelyOwned row.id) := by
  have hget : db.getAdmin row.id = some (db.toAdmin row) :=
    Database.getAdmin_eq_some_iff.mpr ⟨row, hrow, rfl, rfl⟩
  cases hcan : canManageAdminRealms requester (db.toAdmin row).realms db with
  | false => simp only [getAdmin, hget, hcan, if_true, Outcome.error_result]
  | true => exact absurd ⟨_, getAdmin_result_iff.mpr ⟨_, hget, hcan, rfl⟩⟩ h

theorem getUserpass_of_not_authorised {row : UserPassRow} (hrow : row ∈ db.userpass)
    (h : ¬ Authorised (getUserpass requester row.realm row.username db)) :
    (getUserpass requester row.realm row.username db).result =
      .error (credentialsForbidden row.realm) := by
  obtain ⟨userpass, hget⟩ := getUserpass_isSome_iff.mpr ⟨row, hrow, rfl, rfl⟩
  cases hcan : canManageRealm requester row.realm db with
  | false => simp [getUserpass, hcan]
  | true => exact absurd ⟨_, getUserpass_result_iff.mpr ⟨hcan, userpass, hget, rfl⟩⟩ h

/-- For every super admin and every database: both lists answer, an administrator is listed exactly
when the read of its id is authorised, a credential exactly when the read of its realm and name is,
what is stored but not listed is forbidden to read, and the filter decides every realm as the check
of a single realm does. -/
theorem list_filters_agree (requester : Admin) (hs : adminRealm ∈ requester.realms)
    (db : Database) :
    ∃ admins entries,
      (listAdmins requester db).result = .ok { status := 200, body := .admins admins } ∧
      (∀ id, (∃ admin ∈ admins, admin.id = id) ↔ Authorised (getAdmin requester id db)) ∧
      (∀ row ∈ db.admin, (∃ admin ∈ admins, admin.id = row.id) ∨
        (getAdmin requester row.id db).result = .error (notExclusivelyOwned row.id)) ∧
      (listAllUserpass requester db).result =
        .ok { status := 200, body := .userpassList entries } ∧
      (∀ realm username, (∃ entry ∈ entries, entry.realm = realm ∧ entry.username = username) ↔
        Authorised (getUserpass requester realm username db)) ∧
      (∀ row ∈ db.userpass,
        (∃ entry ∈ entries, entry.realm = row.realm ∧ entry.username = row.username) ∨
        (getUserpass requester row.realm row.username db).result =
          .error (credentialsForbidden row.realm)) ∧
      ∀ realm, realmManageableGivenClaims requester realm (claimedRealms db.listAdmins) =
        canManageRealm requester realm db := by
  refine ⟨shownToSuperAdmin requester db, credentialsShownToSuperAdmin requester db,
    listAdmins_of_superAdmin hs, fun _ => exists_shownToSuperAdmin, ?_,
    listAllUserpass_of_superAdmin hs, fun _ _ => exists_credentialsShown, ?_,
    fun _ => realmManageableGivenClaims_eq⟩
  · intro row hrow
    rw [exists_shownToSuperAdmin]
    by_cases h : Authorised (getAdmin requester row.id db)
    · exact .inl h
    · exact .inr (getAdmin_of_not_authorised hrow h)
  · intro row hrow
    rw [exists_credentialsShown]
    by_cases h : Authorised (getUserpass requester row.realm row.username db)
    · exact .inl h
    · exact .inr (getUserpass_of_not_authorised hrow h)

end

/-- The initial administrator on the server it was created on. -/
theorem list_filters_agree_root :
    ∃ admins entries,
      (listAdmins Database.adminRealmAdmin Transparent.start.db).result =
        .ok { status := 200, body := .admins admins } ∧
      (∀ id, (∃ admin ∈ admins, admin.id = id) ↔
        Authorised (getAdmin Database.adminRealmAdmin id Transparent.start.db)) ∧
      (listAllUserpass Database.adminRealmAdmin Transparent.start.db).result =
        .ok { status := 200, body := .userpassList entries } ∧
      ∀ realm username, (∃ entry ∈ entries, entry.realm = realm ∧ entry.username = username) ↔
        Authorised (getUserpass Database.adminRealmAdmin realm username Transparent.start.db) := by
  obtain ⟨admins, entries, hadmins, hget, _, hentries, hread, _⟩ :=
    list_filters_agree Database.adminRealmAdmin (by decide) Transparent.start.db
  exact ⟨admins, entries, hadmins, hget, hentries, hread⟩

end AuthVerifier.Endpoints
