import AuthVerifier.AdminAtomicity
import AuthVerifier.Server

/-!
Which administrator a credential stands for. The columns of the `admin` table are free text without
a uniqueness constraint, and the admin authentication takes the first record that matches. Every
writer has to keep the credentials apart; none of them checks.
-/

set_option autoImplicit false

namespace AuthVerifier
open Effects Relational Transition

namespace Database
variable {X : Externals} {db db' : Database}

def UniqueIdentity (X : Externals) (db : Database) : Prop :=
  ∀ scheme value, (db.findAdminsByAuthScheme X scheme value).length ≤ 1

/-- Another administrator already has one of the credentials of the row. -/
def SharesCredential (X : Externals) (db : Database) (row : AdminRow) : Prop :=
  ∃ other ∈ db.admin, other.id ≠ row.id ∧
    ∃ scheme value, row.credential X scheme = some value ∧
      other.credential X scheme = some value

theorem findAdminsByAuthScheme_eq (scheme : AuthScheme) (value : String) :
    db.findAdminsByAuthScheme X scheme value =
      (db.admin.rows.filter (fun r => r.credential X scheme == some value)).map db.toAdmin := by
  have hread (l : List AdminRow) (hl : ∀ r ∈ l, r ∈ db.admin) :
      (l.map AdminRow.id).filterMap db.getAdmin = l.map db.toAdmin := by
    induction l with
    | nil => rfl
    | cons r l ih =>
      have hget : db.getAdmin r.id = some (db.toAdmin r) :=
        getAdmin_eq_some_iff.mpr ⟨r, hl r (by simp), rfl, rfl⟩
      rw [List.map_cons, List.map_cons, List.filterMap_cons_some hget,
        ih (fun x hx => hl x (by simp [hx]))]
  exact hread _ (fun r hr => (List.mem_filter.mp hr).1)

theorem length_le_one_iff {α : Type} {l : List α} (h : l.Nodup) :
    l.length ≤ 1 ↔ ∀ a ∈ l, ∀ b ∈ l, a = b := by
  match l, h with
  | [], _ => simp
  | [x], _ => simp
  | x :: y :: l, h =>
    have hne : x ≠ y := fun he => (List.nodup_cons.mp h).1 (by simp [he])
    refine iff_of_false (by simp) fun hall => hne ?_
    exact hall x (by simp) y (by simp)

theorem uniqueIdentity_iff :
    db.UniqueIdentity X ↔ ∀ a ∈ db.admin, ∀ b ∈ db.admin, ∀ scheme value,
      a.credential X scheme = some value → b.credential X scheme = some value → a = b := by
  have hmatches (scheme : AuthScheme) (value : String) :
      (db.findAdminsByAuthScheme X scheme value).length ≤ 1 ↔ ∀ a ∈ db.admin,
        a.credential X scheme = some value → ∀ b ∈ db.admin,
        b.credential X scheme = some value → a = b := by
    have hnodup : (db.admin.rows.filter (fun r => r.credential X scheme == some value)).Nodup :=
      db.admin.nodup.of_map.filter _
    rw [findAdminsByAuthScheme_eq, List.length_map, length_le_one_iff hnodup]
    simp only [List.mem_filter, beq_iff_eq, and_imp, Table.mem_def]
  simp only [UniqueIdentity, hmatches]
  exact ⟨fun h a ha b hb scheme value hva hvb => h scheme value a ha hva b hb hvb,
    fun h scheme value a ha hva b hb hvb => h a ha b hb scheme value hva hvb⟩

/-- Writing one row over the one with its id, or adding it, keeps the credentials apart if and only
if the row shares none with another. -/
theorem uniqueIdentity_write_iff {row : AdminRow} (h : db.UniqueIdentity X)
    (hwrite : ∀ x, x ∈ db'.admin ↔ (x ∈ db.admin ∧ x.id ≠ row.id) ∨ x = row) :
    db'.UniqueIdentity X ↔ ¬ db.SharesCredential X row := by
  rw [uniqueIdentity_iff] at h ⊢
  constructor
  · rintro hunique ⟨other, hother, hne, scheme, value, hrow, hshared⟩
    have hsame := hunique other ((hwrite other).mpr (.inl ⟨hother, hne⟩)) row
      ((hwrite row).mpr (.inr rfl)) scheme value hshared hrow
    exact hne (by rw [hsame])
  · intro hapart a ha b hb scheme value hva hvb
    rcases (hwrite a).mp ha with ⟨ha, hane⟩ | rfl
    · rcases (hwrite b).mp hb with ⟨hb, _⟩ | rfl
      · exact h a ha b hb scheme value hva hvb
      · exact absurd ⟨a, ha, hane, scheme, value, hvb, hva⟩ hapart
    · rcases (hwrite b).mp hb with ⟨hb, hbne⟩ | rfl
      · exact absurd ⟨b, hb, hbne, scheme, value, hva, hvb⟩ hapart
      · rfl

theorem uniqueIdentity_createAdmin_iff {a : Admin} (h : db.UniqueIdentity X)
    (hid : a.id ∉ db.admin.keys) :
    (db.createAdmin a).state.UniqueIdentity X ↔ ¬ db.SharesCredential X (AdminRow.ofAdmin a) := by
  refine uniqueIdentity_write_iff h fun x => ?_
  rw [(createAdmin_exact hid).1 x]
  apply or_congr_left
  refine (and_iff_left_of_imp fun hx => ?_).symm
  intro he
  have hxid : x.id = a.id := he
  exact hid (hxid ▸ Table.key_mem_keys hx)

theorem uniqueIdentity_updateAdmin_iff {a : Admin} (h : db.UniqueIdentity X)
    (hid : a.id ∈ db.admin.keys) :
    (db.updateAdmin a).state.UniqueIdentity X ↔ ¬ db.SharesCredential X (AdminRow.ofAdmin a) := by
  obtain ⟨row, hrow, hrowId⟩ := Table.mem_keys.mp hid
  refine uniqueIdentity_write_iff h fun x => ?_
  have hassign (y : AdminRow) (hy : y.id = a.id) : assignAdmin a y = AdminRow.ofAdmin a := by
    rw [assignAdmin, hy]
    rfl
  rw [mem_updateAdmin_admin]
  constructor
  · rintro ⟨y, hy, rfl⟩
    by_cases hya : y.id = a.id
    · right
      simp [hya, hassign y hya]
    · left
      rw [beq_false_of_ne hya]
      exact ⟨hy, hya⟩
  · rintro (⟨hx, hne⟩ | rfl)
    · have hxa : x.id ≠ a.id := hne
      refine ⟨x, hx, ?_⟩
      rw [beq_false_of_ne hxa]
      rfl
    · refine ⟨row, hrow, ?_⟩
      simp [hrowId, hassign row hrowId]

theorem uniqueIdentity_of_subset (h : db.UniqueIdentity X)
    (hsub : ∀ x ∈ db'.admin, ∃ y ∈ db.admin, y.id = x.id ∧ ∀ scheme value,
      x.credential X scheme = some value → y.credential X scheme = some value) :
    db'.UniqueIdentity X := by
  rw [uniqueIdentity_iff] at h ⊢
  intro a ha b hb scheme value hva hvb
  obtain ⟨ya, hya, hida, hka⟩ := hsub a ha
  obtain ⟨yb, hyb, hidb, hkb⟩ := hsub b hb
  have hsame : ya = yb := h ya hya yb hyb scheme value (hka _ _ hva) (hkb _ _ hvb)
  exact Table.eq_of_key ha hb (by rw [← hida, ← hidb, hsame])

theorem uniqueIdentity_of_admin_eq (h : db.UniqueIdentity X) (he : db'.admin = db.admin) :
    db'.UniqueIdentity X :=
  uniqueIdentity_of_subset h fun x hx => ⟨x, he ▸ hx, rfl, fun _ _ hv => hv⟩

theorem uniqueIdentity_setAdmin {p : AdminRow → Bool} {f : AdminRow → AdminRow}
    {hf : ∀ r, (f r).id = r.id} (h : db.UniqueIdentity X)
    (hsame : ∀ r scheme, (f r).credential X scheme = r.credential X scheme) :
    (db.setAdmin p f hf).UniqueIdentity X := by
  refine uniqueIdentity_of_subset h fun x hx => ?_
  obtain ⟨y, hy, rfl⟩ := (mem_setAdmin db p f hf).mp hx
  split
  · exact ⟨y, hy, (hf y).symm, fun scheme value hv => hsame y scheme ▸ hv⟩
  · exact ⟨y, hy, rfl, fun _ _ hv => hv⟩

theorem uniqueIdentity_updateAdmin_of_read {id : String} {target a : Admin}
    (h : db.UniqueIdentity X) (ht : db.getAdmin id = some target) (ha : a.id = target.id)
    (hsub : ∀ scheme value, (AdminRow.ofAdmin a).credential X scheme = some value →
      (AdminRow.ofAdmin target).credential X scheme = some value) :
    (db.updateAdmin a).state.UniqueIdentity X := by
  obtain ⟨row, hrow, _, rfl⟩ := getAdmin_eq_some_iff.mp ht
  have hrowId : row.id = a.id := ha.symm
  refine (uniqueIdentity_updateAdmin_iff h (hrowId ▸ Table.key_mem_keys hrow)).mpr ?_
  rintro ⟨other, hother, hne, scheme, value, hv, hshared⟩
  have hsame := uniqueIdentity_iff.mp h other hother row hrow scheme value hshared
    (hsub scheme value hv)
  exact hne (hsame ▸ hrowId)

theorem uniqueIdentity_fresh (X : Externals) (passwordHash : String) :
    (fresh passwordHash).UniqueIdentity X := by
  rw [uniqueIdentity_iff]
  intro a ha b hb scheme value _ _
  have hone (x : AdminRow) (hx : x ∈ (fresh passwordHash).admin) :
      x = AdminRow.ofAdmin adminRealmAdmin := List.mem_singleton.mp hx
  rw [hone a ha, hone b hb]

end Database

section
variable {X : Externals} {params : ServerParams}
open Database

theorem Endpoints.uniqueIdentity_autoUnlink {db : Database} {realm user : String}
    (h : db.UniqueIdentity X) : (autoUnlink db realm user).state.UniqueIdentity X := by
  rcases autoUnlink_cases db realm user with he | ⟨a, -, hget, he⟩
  · rw [he]
    exact h
  · rw [he]
    refine uniqueIdentity_updateAdmin_of_read h hget rfl ?_
    intro scheme value hv
    cases scheme with
    | usernamePassword => cases hv
    | jwt => exact hv
    | fido2 => exact hv
    | digitalCredentials => exact hv
    | clientCertificate => exact hv
    | saml => exact hv

theorem Endpoints.uniqueIdentity_autoLink {db : Database} {realm user : String}
    (h : db.UniqueIdentity X)
    (hapart : realm = adminRealm → user ∈ db.admin.keys →
      ∀ other ∈ db.admin, other.userpass = some user → other.id = user) :
    (autoLink db realm user).state.UniqueIdentity X := by
  rcases autoLink_cases db realm user with he | ⟨a, hrealm, hget, he⟩
  · rw [he]
    exact h
  · rw [he]
    obtain ⟨row, hrow, hid, rfl⟩ := getAdmin_eq_some_iff.mp hget
    have hkey : user ∈ db.admin.keys := hid ▸ Table.key_mem_keys hrow
    refine (uniqueIdentity_updateAdmin_iff h (Table.key_mem_keys hrow)).mpr ?_
    rintro ⟨other, hother, hne, scheme, value, hv, hshared⟩
    -- Only the linked column is new; in the others `other` would be the record itself.
    have hread (hv : row.credential X scheme = some value) : False := by
      have hsame := uniqueIdentity_iff.mp h other hother row hrow scheme value hshared hv
      have hsameId : other.id = row.id := congrArg AdminRow.id hsame
      exact hne hsameId
    cases scheme with
    | usernamePassword =>
      cases hv
      exact hne ((hapart hrealm hkey other hother hshared).trans hid.symm)
    | jwt => exact hread hv
    | fido2 => exact hread hv
    | digitalCredentials => exact hread hv
    | clientCertificate => exact hread hv
    | saml => exact hread hv

/-- The request names a credential that another administrator has: in its body, or through the
link of a new credential of the admin realm to the administrator of its name. -/
def AdminRequest.Collides (X : Externals) (db : Database) : AdminRequest → Prop
  | .createAdmin body => body.id ∉ db.admin.keys ∧ db.SharesCredential X (.ofAdmin body)
  | .updateAdmin id body => id ∈ db.admin.keys ∧
      db.SharesCredential X (.ofAdmin { body with id := id })
  | .createUserpass realm body => realm = adminRealm ∧ body.username ∈ db.admin.keys ∧
      ∃ other ∈ db.admin, other.userpass = some body.username ∧ other.id ≠ body.username
  | _ => False

theorem Writes.uniqueIdentity {m : Moment} {requester : Admin} {db db' : Database}
    {req : AdminRequest} (hw : Writes X params m requester db req db') (h : db.UniqueIdentity X)
    (hkeep : ¬ req.Collides X db) : db'.UniqueIdentity X := by
  cases hw with
  | nothing => exact h
  | createAdmin body =>
    by_cases hid : body.id ∈ db.admin.keys
    · rw [createAdmin_of_mem hid]
      exact h
    · exact (uniqueIdentity_createAdmin_iff h hid).mpr fun hshare => hkeep ⟨hid, hshare⟩
  | updateAdmin id body target ht =>
    have hid : id ∈ db.admin.keys := by
      by_contra hk
      rw [getAdmin_eq_none_iff.mpr hk] at ht
      cases ht
    exact (uniqueIdentity_updateAdmin_iff h hid).mpr fun hshare => hkeep ⟨hid, hshare⟩
  | deleteAdmin id =>
    exact uniqueIdentity_of_subset h fun x hx =>
      ⟨x, ((mem_deleteAdmin db).mp hx).1, rfl, fun _ _ hv => hv⟩
  | deleteAdminCascade id =>
    exact uniqueIdentity_of_subset h fun x hx =>
      ⟨x, ((mem_deleteAdmin db).mp hx).1, rfl, fun _ _ hv => hv⟩
  | addAdminToRealm id realm target _ ht =>
    exact uniqueIdentity_updateAdmin_of_read h ht rfl (fun _ _ hv => hv)
  | removeAdminFromRealm id realm target _ ht =>
    exact uniqueIdentity_updateAdmin_of_read h ht rfl (fun _ _ hv => hv)
  | createRealm body realm _ _ _ hd =>
    exact uniqueIdentity_of_admin_eq h (createRealm_ok hd).2.2.2.1
  | updateRealm id body realm => exact uniqueIdentity_of_admin_eq h rfl
  | deleteRealm id => exact uniqueIdentity_of_admin_eq h rfl
  | createUserpass realm hash body db₁ _ _ hd =>
    have hadmin : db₁.admin = db.admin := (createUserpass_ok hd).2.2.2.1
    refine Endpoints.uniqueIdentity_autoLink (uniqueIdentity_of_admin_eq h hadmin) ?_
    rw [hadmin]
    intro hrealm hkey other hother hname
    by_contra hne
    exact hkeep ⟨hrealm, hkey, other, hother, hname, hne⟩
  | updateUserpass realm user hash body => exact uniqueIdentity_of_admin_eq h rfl
  | updateUserpassMetadata realm user body => exact uniqueIdentity_of_admin_eq h rfl
  | deleteUserpass realm user =>
    exact Endpoints.uniqueIdentity_autoUnlink (uniqueIdentity_of_admin_eq h rfl)
  | totpVerify realm body _ _ _ hd =>
    unfold enableTotp at hd
    split at hd
    · cases hd
    · cases hd
      exact uniqueIdentity_setAdmin h (fun r scheme => by cases scheme <;> rfl)
  | totpDisable realm user =>
    exact uniqueIdentity_setAdmin h (fun r scheme => by cases scheme <;> rfl)

theorem adminAuth_of_perm {db db' : Database} (h : db.UniqueIdentity X)
    (hrows : db'.admin.rows.Perm db.admin.rows) (hmember : db'.adminRealms = db.adminRealms)
    (claims : ClientClaims) : adminAuth X db' claims = adminAuth X db claims := by
  have hread : db'.toAdmin = db.toAdmin := by
    funext row
    simp only [toAdmin, realmsOf, hmember]
  have hfound (scheme : AuthScheme) (value : String) :
      db'.findAdminsByAuthScheme X scheme value = db.findAdminsByAuthScheme X scheme value := by
    have hperm : (db'.findAdminsByAuthScheme X scheme value).Perm
        (db.findAdminsByAuthScheme X scheme value) := by
      rw [findAdminsByAuthScheme_eq, findAdminsByAuthScheme_eq, hread]
      exact (hrows.filter _).map _
    have hle := h scheme value
    cases hlist : db.findAdminsByAuthScheme X scheme value with
    | nil =>
      rw [hlist] at hperm
      exact List.perm_nil.mp hperm
    | cons a rest =>
      rw [hlist] at hperm hle
      have hrest : rest = [] := by simpa using hle
      subst hrest
      exact List.perm_singleton.mp hperm
  simp only [adminAuth, hfound]

/-- In a run in which no request that changes the records names a credential of another
administrator, every credential stands for one administrator at most, and the authentication does
not depend on the order of the rows. -/
theorem identities_unique (initialHash : String) (calls : List Call)
    (hkeep : ∀ x ∈ trace (step X params) (.initial initialHash) calls, ∀ query cookie req,
      x.2.request = .admin query cookie req → (step X params x.1 x.2).db ≠ x.1.db →
        ¬ req.Collides X x.1.db) :
    let db := (run (step X params) (.initial initialHash) calls).db
    db.UniqueIdentity X ∧
      ∀ db', db'.admin.rows.Perm db.admin.rows → db'.adminRealms = db.adminRealms →
        ∀ claims, adminAuth X db' claims = adminAuth X db claims := by
  intro db
  have hunique : db.UniqueIdentity X := by
    refine run_keeps_of (step X params) (fun s => s.db.UniqueIdentity X)
      (C := fun s c => ∀ query cookie req, c.request = .admin query cookie req →
        (step X params s c).db ≠ s.db → ¬ req.Collides X s.db)
      (uniqueIdentity_fresh X initialHash) ?_ calls hkeep
    intro s c h hc
    by_cases hsame : (step X params s c).db = s.db
    · rw [hsame]
      exact h
    · rcases step_db c with he | ⟨query, cookie, req, requester, hreq, hw⟩
      · exact absurd he hsame
      · exact hw.uniqueIdentity h (hc query cookie req hreq hsame)
  exact ⟨hunique, fun db' hrows hmember claims => adminAuth_of_perm hunique hrows hmember claims⟩

end

namespace Transparent
open Database

def asRoot (now : Int) (request : AdminRequest) : Call :=
  ⟨moment now, .admin "" (some rootCookie) request⟩

theorem identities_unique_two_admins :
    let calls := [rootLogin, asRoot 1001 (.createAdmin
      { id := "eve", realms := ["_"], userpass := some "eve" })]
    (run (step externals params) start calls).db.admin.rows.length = 2 ∧
      (run (step externals params) start calls).db.UniqueIdentity externals := by
  intro calls
  refine ⟨by decide, (identities_unique initialHash calls ?_).1⟩
  intro x hx query cookie req hreq _
  rcases List.mem_cons.mp hx with rfl | hx
  · cases hreq
  · rw [List.mem_singleton.mp hx] at hreq ⊢
    cases hreq
    rintro ⟨_, other, hother, _, scheme, value, hv, hshared⟩
    have hrows : (step externals params start rootLogin).db.admin.rows =
        [AdminRow.ofAdmin adminRealmAdmin] := by
      decide
    have hroot : other ∈ [AdminRow.ofAdmin adminRealmAdmin] := hrows ▸ hother
    rw [List.mem_singleton.mp hroot] at hshared
    cases scheme with
    | usernamePassword =>
      cases hv
      exact absurd hshared (by decide)
    | _ => cases hv

/-- A second administrator is given the credential of the first. -/
theorem second_admin_named_alike :
    let calls := [rootLogin, asRoot 1001 (.createAdmin
      { id := "eve", realms := ["_"], userpass := some "admin" })]
    ((run (step externals params) start calls).db.findAdminsByAuthScheme externals
        .usernamePassword "admin").map Admin.id = ["admin", "eve"] ∧
      ¬ (run (step externals params) start calls).db.UniqueIdentity externals := by
  intro calls
  have hfound : ((run (step externals params) start calls).db.findAdminsByAuthScheme externals
      .usernamePassword "admin").map Admin.id = ["admin", "eve"] := by
    decide
  refine ⟨hfound, fun hunique => ?_⟩
  have hle := hunique .usernamePassword "admin"
  have htwo := congrArg List.length hfound
  rw [List.length_map] at htwo
  simp only [List.length_cons, List.length_nil] at htwo
  omega

end Transparent
end AuthVerifier
