import AuthVerifier.Lib.Ensure
import AuthVerifier.TotpAgreement

/-!
Seeding a development server, following `dev_seed.rs`: a realm with an administrator and, where
asked for, a user of it with a second factor. It runs at every start.
-/

set_option autoImplicit false

namespace AuthVerifier
open Effects Relational Transition

structure DevSeedParams where
  realmId : String
  adminUsername : String
  adminPassword : Option String := none
  adminPasswordEnv : Option String := none
  totpUsername : Option String := none
  totpPassword : Option String := none
  totpSecret : Option String := none

/-- The user with a second factor, where both its name and its password are set. -/
def DevSeedParams.totpUser (seed : DevSeedParams) : Option (String × String) :=
  match seed.totpUsername, seed.totpPassword with
  | some username, some password => some (username, password)
  | _, _ => none

/-- `AuthError::Init`, with the error of the database behind the text where there is one. -/
inductive SeedError where
  | init : String → SeedError
  | initDb : String → AuthDbError → SeedError
  deriving DecidableEq

/-- The environment and the random draws of one start. Secrets have twenty bytes. -/
structure SeedDraws where
  env : String → Option String
  adminSalt : String
  totpSalt : String
  totpSecret : List UInt8
  twenty : totpSecret.length = 20

namespace DevSeed

def written (db : Database) (failure : String) :
    Except AuthDbError Database → Outcome Database SeedError Unit
  | .ok db' => .ok db' ()
  | .error e => .error db (.initDb failure e)

section
variable (X : Externals) (seed : DevSeedParams) (draws : SeedDraws)

def resolveAdminPassword : Except SeedError String :=
  match seed.adminPasswordEnv with
  | some name => match draws.env name with
    | some password => .ok password
    | none => .error (.init
        s!"dev_seed: environment variable '{name}' (admin_password_env) is not set")
  | none => match seed.adminPassword with
    | some password => .ok password
    | none => .error (.init "dev_seed: neither `admin_password` nor `admin_password_env` is set")

def hashed (failure salt password : String) : Except SeedError String :=
  match hashPasswordWithArgon2 X salt password with
  | .ok hash => .ok hash
  | .error e => .error (.init s!"{failure}: unexpected error: {e}")

def realm : Ensured Database SeedError where
  holds db := (db.getRealm seed.realmId).isSome
  create db := written db s!"dev_seed: failed to create realm '{seed.realmId}'" (db.createRealm
    { id := seed.realmId
      authParams := { usernamePasswordParams := some ⟨false⟩ }
      sessionMaxAgeSeconds := 3600
      sessionMaxStaleAgeSeconds := 3600
      certificateMaxAgeSeconds := 365 * 24 * 3600 })

def userpass (realm username : String) (changePassword : Bool) (hash : Except SeedError String)
    (failure : String) : Ensured Database SeedError where
  holds db := (db.getUserpass realm username).isSome
  create db := match hash with
    | .error e => .error db e
    | .ok hash => written db failure (db.createUserpass
        { realm := realm, username := username, passwordHash := hash,
          changePassword := changePassword })

def admin (id : String) (realms : List String) (failure : String) : Ensured Database SeedError where
  holds db := (db.getAdmin id).isSome
  create db := (db.createAdmin { id := id, realms := realms, userpass := some id }).mapError
    (.initDb failure)

def adminUserpass : Ensured Database SeedError :=
  let hash := match resolveAdminPassword seed draws with
    | .error e => .error e
    | .ok password => hashed X s!"dev_seed: failed to hash password for '{seed.adminUsername}'"
        draws.adminSalt password
  userpass adminRealm seed.adminUsername true hash
    s!"dev_seed: failed to create credential for '{seed.adminUsername}'"

def realmAdmin : Ensured Database SeedError :=
  admin seed.adminUsername [seed.realmId]
    s!"dev_seed: failed to create admin '{seed.adminUsername}'"

def totpUserpass (username password : String) : Ensured Database SeedError :=
  userpass seed.realmId username false
    (hashed X s!"dev_seed: failed to hash password for TOTP user '{username}'" draws.totpSalt
      password)
    s!"dev_seed: failed to create TOTP user '{username}'"

def totpAdmin (username : String) : Ensured Database SeedError :=
  admin username [] s!"dev_seed: failed to create admin record for TOTP user '{username}'"

def seedSecret : Except SeedError String :=
  match seed.totpSecret with
  | some secret => .ok secret
  | none => match Totps.new X {} draws.totpSecret none "" with
    | .error e => .error (.init s!"dev_seed: failed to generate TOTP secret: TOTP/2FA error: {e}")
    | .ok totps => .ok (X.secretToBase32 totps.secret)

def enableTotp (username : String) (db : Database) : Outcome Database SeedError Unit :=
  if (db.isTotpEnabled username).getD false then .ok db ()
  else match seedSecret X seed draws with
  | .error e => .error db e
  | .ok secret => written db s!"dev_seed: failed to enable TOTP for '{username}'"
      (db.enableTotp X username secret seed.realmId)

def records : List (Ensured Database SeedError) :=
  [realm seed, adminUserpass X seed draws, realmAdmin seed]

def totpRecords (username password : String) : List (Ensured Database SeedError) :=
  [totpUserpass X seed draws username password, totpAdmin username]

def seedDevRealmAdmin (db : Database) : Outcome Database SeedError Unit :=
  (Ensured.ensureAll (records X seed draws) db).bind fun db () =>
    match seed.totpUser with
    | none => .ok db ()
    | some (username, password) =>
      (Ensured.ensureAll (totpRecords X seed draws username password) db).bind fun db () =>
        enableTotp X seed draws username db

end

structure KeepsRows (db db' : Database) : Prop where
  realm : ∀ r ∈ db.realm, r ∈ db'.realm
  userpass : ∀ r ∈ db.userpass, r ∈ db'.userpass
  admin : ∀ r ∈ db.admin, r ∈ db'.admin
  adminRealms : ∀ r ∈ db.adminRealms, r ∈ db'.adminRealms

instance : IsPreorder Database KeepsRows where
  refl _ := ⟨fun _ h => h, fun _ h => h, fun _ h => h, fun _ h => h⟩
  trans _ _ _ h₁ h₂ := ⟨fun r hr => h₂.realm r (h₁.realm r hr),
    fun r hr => h₂.userpass r (h₁.userpass r hr), fun r hr => h₂.admin r (h₁.admin r hr),
    fun r hr => h₂.adminRealms r (h₁.adminRealms r hr)⟩

structure KeepsKeys (db db' : Database) : Prop where
  realm : ∀ k ∈ db.realm.keys, k ∈ db'.realm.keys
  userpass : ∀ k ∈ db.userpass.keys, k ∈ db'.userpass.keys
  admin : ∀ k ∈ db.admin.keys, k ∈ db'.admin.keys

theorem mem_keys_of_subset {α κ : Type} {key : α → κ} {t u : Table α κ key}
    (h : ∀ x ∈ t, x ∈ u) : ∀ k ∈ t.keys, k ∈ u.keys := by
  intro k hk
  obtain ⟨x, hx, rfl⟩ := Table.mem_keys.mp hk
  exact Table.key_mem_keys (h x hx)

theorem KeepsRows.keys {db db' : Database} (h : KeepsRows db db') : KeepsKeys db db' where
  realm := mem_keys_of_subset h.realm
  userpass := mem_keys_of_subset h.userpass
  admin := mem_keys_of_subset h.admin

section
variable {X : Externals} {seed : DevSeedParams} {draws : SeedDraws} {db db' : Database}

theorem realm_holds_iff : (realm seed).holds db = true ↔ seed.realmId ∈ db.realm.keys := by
  simp only [realm, Database.getRealm, Option.isSome_iff_ne_none, ne_eq, Table.find?_eq_none_iff,
    not_not]

theorem userpass_holds_iff {realm username failure : String} {changePassword : Bool}
    {hash : Except SeedError String} :
    (userpass realm username changePassword hash failure).holds db = true ↔
      (realm, username) ∈ db.userpass.keys := by
  simp only [userpass, Database.getUserpass, Option.isSome_map, Option.isSome_iff_ne_none, ne_eq,
    Table.find?_eq_none_iff, not_not]

theorem admin_holds_iff {id failure : String} {realms : List String} :
    (admin id realms failure).holds db = true ↔ id ∈ db.admin.keys := by
  simp only [admin, Option.isSome_iff_ne_none, ne_eq, Database.getAdmin_eq_none_iff, not_not]

theorem written_grows {failure : String} {result : Except AuthDbError Database}
    (h : ∀ db', result = .ok db' → KeepsRows db db') :
    KeepsRows db (written db failure result).state := by
  cases result with
  | error e => exact refl db
  | ok db' => exact h db' rfl

theorem written_ok {failure : String} {result : Except AuthDbError Database}
    (h : (written db failure result).result = .ok ()) :
    ∃ db', result = .ok db' ∧ (written db failure result).state = db' := by
  cases result with
  | error e => cases h
  | ok db' => exact ⟨db', rfl, rfl⟩

theorem realm_adds (seed : DevSeedParams) : (realm seed).Adds KeepsRows where
  grows db := written_grows fun db' hcreate => by
    obtain ⟨-, hrealm, huserpass, hadmin, hmember⟩ := Database.createRealm_ok hcreate
    exact ⟨fun r hr => (hrealm r).mpr (.inl hr), fun r hr => huserpass ▸ hr,
      fun r hr => hadmin ▸ hr, fun r hr => hmember ▸ hr⟩
  creates db hok := by
    obtain ⟨db', hcreate, hstate⟩ := written_ok hok
    obtain ⟨-, hrealm, -⟩ := Database.createRealm_ok hcreate
    rw [realm_holds_iff, realm, hstate]
    exact Table.mem_keys.mpr ⟨_, (hrealm _).mpr (.inr rfl), rfl⟩
  lasts db db' hkeeps hholds :=
    realm_holds_iff.mpr (hkeeps.keys.realm _ (realm_holds_iff.mp hholds))

theorem userpass_adds (realm username failure : String) (changePassword : Bool)
    (hash : Except SeedError String) :
    (userpass realm username changePassword hash failure).Adds KeepsRows where
  grows db := by
    cases hash with
    | error e => exact refl db
    | ok hash =>
      refine written_grows fun db' hcreate => ?_
      obtain ⟨-, huserpass, hrealm, hadmin, hmember⟩ := Database.createUserpass_ok hcreate
      exact ⟨fun r hr => hrealm ▸ hr, fun r hr => (huserpass r).mpr (.inl hr),
        fun r hr => hadmin ▸ hr, fun r hr => hmember ▸ hr⟩
  creates db hok := by
    cases hash with
    | error e => cases hok
    | ok hash =>
      obtain ⟨db', hcreate, hstate⟩ := written_ok hok
      obtain ⟨-, huserpass, -⟩ := Database.createUserpass_ok hcreate
      rw [userpass_holds_iff, userpass]
      dsimp only
      rw [hstate]
      exact Table.mem_keys.mpr ⟨_, (huserpass _).mpr (.inr rfl), rfl⟩
  lasts db db' hkeeps hholds :=
    userpass_holds_iff.mpr (hkeeps.keys.userpass _ (userpass_holds_iff.mp hholds))

theorem admin_adds (id failure : String) (realms : List String) :
    (admin id realms failure).Adds KeepsRows where
  grows db := by
    simp only [admin, Outcome.mapError_state]
    generalize ({ id := id, realms := realms, userpass := some id } : Admin) = record
    by_cases hid : record.id ∈ db.admin.keys
    · rw [Database.createAdmin_of_mem hid]
      exact refl db
    · have hspec := Database.createAdmin_spec hid
      exact ⟨fun r hr => hspec.realm ▸ hr, fun r hr => hspec.userpass ▸ hr,
        fun r hr => hspec.admin ▸ (Database.mem_insertAdmin db).mpr (.inl hr), hspec.kept⟩
  creates db _ := by
    rw [admin_holds_iff]
    simp only [admin, Outcome.mapError_state]
    by_cases hid : id ∈ db.admin.keys
    · rw [Database.createAdmin_of_mem hid]
      exact hid
    · let record : Admin := { id := id, realms := realms, userpass := some id }
      have hnew : record.id ∉ db.admin.keys := hid
      rw [(Database.createAdmin_spec hnew).admin]
      exact Table.key_mem_keys ((Database.mem_insertAdmin db).mpr (.inr rfl))
  lasts db db' hkeeps hholds :=
    admin_holds_iff.mpr (hkeeps.keys.admin _ (admin_holds_iff.mp hholds))

theorem records_adds : ∀ e ∈ records X seed draws, e.Adds KeepsRows := by
  simp only [records, List.forall_mem_cons, List.not_mem_nil, false_implies, implies_true, and_true]
  exact ⟨realm_adds seed, userpass_adds .., admin_adds ..⟩

theorem totpRecords_adds {username password : String} :
    ∀ e ∈ totpRecords X seed draws username password, e.Adds KeepsRows := by
  simp only [totpRecords, List.forall_mem_cons, List.not_mem_nil, false_implies, implies_true,
    and_true]
  exact ⟨userpass_adds .., admin_adds ..⟩

structure Seeded (seed : DevSeedParams) (db : Database) : Prop where
  realm : seed.realmId ∈ db.realm.keys
  userpass : (adminRealm, seed.adminUsername) ∈ db.userpass.keys
  admin : seed.adminUsername ∈ db.admin.keys

structure TotpSeeded (seed : DevSeedParams) (username : String) (db : Database) : Prop where
  userpass : (seed.realmId, username) ∈ db.userpass.keys
  admin : username ∈ db.admin.keys

theorem records_hold_iff : (∀ e ∈ records X seed draws, e.holds db = true) ↔ Seeded seed db := by
  simp only [records, List.forall_mem_cons, List.not_mem_nil, false_implies, implies_true, and_true,
    adminUserpass, realmAdmin, realm_holds_iff, userpass_holds_iff, admin_holds_iff]
  exact ⟨fun h => ⟨h.1, h.2.1, h.2.2⟩, fun h => ⟨h.realm, h.userpass, h.admin⟩⟩

theorem totpRecords_hold_iff {username password : String} :
    (∀ e ∈ totpRecords X seed draws username password, e.holds db = true) ↔
      TotpSeeded seed username db := by
  simp only [totpRecords, List.forall_mem_cons, List.not_mem_nil, false_implies, implies_true,
    and_true, totpUserpass, totpAdmin, userpass_holds_iff, admin_holds_iff]
  exact ⟨fun h => ⟨h.1, h.2⟩, fun h => ⟨h.userpass, h.admin⟩⟩

theorem Seeded.keys (h : Seeded seed db) (hkeys : KeepsKeys db db') : Seeded seed db' :=
  ⟨hkeys.realm _ h.realm, hkeys.userpass _ h.userpass, hkeys.admin _ h.admin⟩

theorem TotpSeeded.keys {username : String} (h : TotpSeeded seed username db)
    (hkeys : KeepsKeys db db') : TotpSeeded seed username db' :=
  ⟨hkeys.userpass _ h.userpass, hkeys.admin _ h.admin⟩

end

section
variable {X : Externals} {seed : DevSeedParams} {draws : SeedDraws} {db db' : Database}
variable {username : String} {hotp : Hotp}

theorem isTotpEnabled_eq_some_iff {b : Bool} : db.isTotpEnabled username = some b ↔
    ∃ row ∈ db.admin, row.totpTarget username = true ∧ row.totpEnabled.getD false = b := by
  rw [Database.isTotpEnabled, Option.map_eq_some_iff]
  constructor
  · rintro ⟨row, hfound, hflag⟩
    exact ⟨row, List.mem_of_find?_eq_some hfound, List.find?_some hfound, hflag⟩
  · rintro ⟨row, hrow, htarget, hflag⟩
    exact ⟨row, Database.find?_totpTarget hrow htarget, hflag⟩

theorem isTotpEnabled_of_keepsRows (h : KeepsRows db db') {b : Bool}
    (henabled : db.isTotpEnabled username = some b) : db'.isTotpEnabled username = some b := by
  obtain ⟨row, hrow, hfacts⟩ := isTotpEnabled_eq_some_iff.mp henabled
  exact isTotpEnabled_eq_some_iff.mpr ⟨row, h.admin row hrow, hfacts⟩

def enrol (secret url : String) (r : AdminRow) : AdminRow :=
  { r with totpEnabled := some true, totpSecret := some secret, totpAuthUrl := some url }

theorem enrol_id (secret url : String) (r : AdminRow) : (enrol secret url r).id = r.id := rfl

def enrolled (db : Database) (username secret url : String) : Database :=
  db.setAdmin (AdminRow.totpTarget username) (enrol secret url) (enrol_id secret url)

theorem mem_enrolled {secret url : String} {row : AdminRow} :
    row ∈ (enrolled db username secret url).admin ↔ ∃ before ∈ db.admin,
      (if before.totpTarget username then enrol secret url before else before) = row :=
  Database.mem_setAdmin db _ _ _

theorem enrolled_of_no_target {secret url : String}
    (h : ∀ row ∈ db.admin, row.totpTarget username = false) :
    enrolled db username secret url = db := by
  have hsame : db.admin.updateWhere (AdminRow.totpTarget username) (enrol secret url)
      (enrol_id secret url) = db.admin := by
    apply Table.ext_rows
    refine (List.map_congr_left fun row hrow => ?_).trans (List.map_id _)
    rw [h row hrow]
    rfl
  unfold enrolled Database.setAdmin
  congr

theorem enableTotp_eq_ok {secret issuer : String}
    (h : db.enableTotp X username secret issuer = .ok db') :
    ∃ totps, Totps.fromSecret X secret (some issuer) username none = .ok totps ∧
      db' = enrolled db username secret (Totps.getOtpauthUrl X totps) := by
  unfold Database.enableTotp at h
  split at h
  · cases h
  · rename_i totps htotps
    exact ⟨totps, htotps, (Except.ok.inj h).symm⟩

theorem enableTotp_cases (h : (enableTotp X seed draws username db).result = .ok ()) :
    (db.isTotpEnabled username = some true ∧ (enableTotp X seed draws username db).state = db) ∨
    db.isTotpEnabled username ≠ some true ∧ ∃ secret totps,
      seedSecret X seed draws = .ok secret ∧
      Totps.fromSecret X secret (some seed.realmId) username none = .ok totps ∧
      (enableTotp X seed draws username db).state =
        enrolled db username secret (Totps.getOtpauthUrl X totps) := by
  unfold enableTotp at h ⊢
  split at h
  · rename_i henabled
    rw [if_pos henabled]
    refine .inl ⟨?_, rfl⟩
    cases hflag : db.isTotpEnabled username with
    | none => simp [hflag] at henabled
    | some b => simpa [hflag] using henabled
  · rename_i henabled
    rw [if_neg henabled]
    refine .inr ⟨fun hflag => henabled (by simp [hflag]), ?_⟩
    cases hsecret : seedSecret X seed draws with
    | error e =>
      rw [hsecret] at h
      cases h
    | ok secret =>
      rw [hsecret] at h
      obtain ⟨db', hwrite, hstate⟩ := written_ok h
      obtain ⟨totps, htotps, rfl⟩ := enableTotp_eq_ok hwrite
      exact ⟨secret, totps, rfl, htotps, hstate⟩

theorem enableTotp_keepsKeys (h : (enableTotp X seed draws username db).result = .ok ()) :
    KeepsKeys db (enableTotp X seed draws username db).state := by
  rcases enableTotp_cases h with ⟨-, hstate⟩ | ⟨-, secret, totps, -, -, hstate⟩
  · rw [hstate]
    exact ⟨fun _ hk => hk, fun _ hk => hk, fun _ hk => hk⟩
  · rw [hstate]
    exact ⟨fun _ hk => hk, fun _ hk => hk, fun _ hk => by rwa [enrolled, Database.setAdmin_keys]⟩

theorem keepsRows_enableTotp_iff {old : Database} (hold : KeepsRows old db)
    (h : (enableTotp X seed draws username db).result = .ok ()) :
    KeepsRows old (enableTotp X seed draws username db).state ↔
      old.isTotpEnabled username ≠ some false := by
  rcases enableTotp_cases h with ⟨henabled, hstate⟩ | ⟨hdisabled, secret, totps, -, -, hstate⟩
  · rw [hstate]
    refine iff_of_true hold fun hflag => ?_
    rw [isTotpEnabled_of_keepsRows hold hflag] at henabled
    cases henabled
  · rw [hstate]
    constructor
    · intro hkeeps hflag
      obtain ⟨row, hrow, htarget, hoff⟩ := isTotpEnabled_eq_some_iff.mp hflag
      obtain ⟨before, -, hafter⟩ := mem_enrolled.mp (hkeeps.admin row hrow)
      split at hafter
      · rw [← hafter] at hoff
        cases hoff
      · rename_i hother
        exact hother (hafter ▸ htarget)
    · intro hflag
      refine ⟨hold.realm, hold.userpass, fun row hrow => ?_, hold.adminRealms⟩
      refine mem_enrolled.mpr ⟨row, hold.admin row hrow, if_neg fun htarget => ?_⟩
      have hfound := isTotpEnabled_eq_some_iff.mpr ⟨row, hrow, htarget, rfl⟩
      cases hflagged : row.totpEnabled.getD false with
      | false => exact hflag (hflagged ▸ hfound)
      | true => exact hdisabled (isTotpEnabled_of_keepsRows hold (hflagged ▸ hfound))

/-- Where one start has a secret that a factor can be made of, so has every other: `totp_rs` looks at
the length only, and drawn secrets are long enough. -/
theorem seedSecret_usable (hrfc : Rfc6238 X hotp) (draws' : SeedDraws) {secret : String}
    {issuer : Option String} {totps : Totps} (hsecret : seedSecret X seed draws = .ok secret)
    (htotps : Totps.fromSecret X secret issuer username none = .ok totps) :
    ∃ secret' totps', seedSecret X seed draws' = .ok secret' ∧
      Totps.fromSecret X secret' issuer username none = .ok totps' := by
  unfold seedSecret at hsecret ⊢
  cases hfixed : seed.totpSecret with
  | some fixed =>
    rw [hfixed] at hsecret
    exact ⟨secret, totps, hsecret, htotps⟩
  | none =>
    have hlong : 16 ≤ draws'.totpSecret.length := draws'.twenty ▸ (by decide)
    have hdrawn : Totps.new X {} draws'.totpSecret none "" =
        .ok (TotpParams.withSecret {} draws'.totpSecret none "") :=
      Totps.new_ok_iff.mpr ⟨rfl, (hrfc.new _).mpr
        (by simp [TotpParams.withSecret, hlong])⟩
    obtain ⟨bytes, -, rfl, hnew⟩ := Totps.fromSecret_ok_iff.mp htotps
    obtain ⟨hdigits, -, hissuer, haccount⟩ := (hrfc.new _).mp hnew
    refine ⟨_, TotpParams.withSecret {} draws'.totpSecret issuer username, by rw [hdrawn], ?_⟩
    exact Totps.fromSecret_ok_iff.mpr ⟨_, hrfc.base32 _, rfl,
      (hrfc.new _).mpr ⟨hdigits, hlong, hissuer, haccount⟩⟩

/-- The step finds nothing to do after it has succeeded: the factor is enabled, or there is nobody
whom it could be enabled for. -/
theorem enableTotp_again (hrfc : Rfc6238 X hotp) (draws' : SeedDraws)
    (h : (enableTotp X seed draws username db).result = .ok ()) :
    enableTotp X seed draws' username (enableTotp X seed draws username db).state =
      .ok (enableTotp X seed draws username db).state () := by
  have hskip {db : Database} (henabled : db.isTotpEnabled username = some true) :
      enableTotp X seed draws' username db = .ok db () := by
    rw [enableTotp, henabled]
    exact if_pos rfl
  rcases enableTotp_cases h with
    ⟨henabled, hstate⟩ | ⟨hdisabled, secret, totps, hsecret, htotps, hstate⟩
  · rw [hstate]
    exact hskip henabled
  · rw [hstate]
    cases hflag : db.isTotpEnabled username with
    | some b =>
      refine hskip ?_
      obtain ⟨row, hrow, htarget, -⟩ := isTotpEnabled_eq_some_iff.mp hflag
      exact isTotpEnabled_eq_some_iff.mpr ⟨_, mem_enrolled.mpr
        ⟨row, hrow, if_pos htarget⟩, htarget, rfl⟩
    | none =>
      have hnobody (row : AdminRow) (hrow : row ∈ db.admin) : row.totpTarget username = false := by
        by_contra htarget
        rw [isTotpEnabled_eq_some_iff.mpr ⟨row, hrow, Bool.of_not_eq_false htarget, rfl⟩] at hflag
        cases hflag
      rw [enrolled_of_no_target hnobody]
      obtain ⟨secret', totps', hsecret', htotps'⟩ := seedSecret_usable hrfc draws' hsecret htotps
      have hwrite : db.enableTotp X username secret' seed.realmId = 
          .ok (enrolled db username secret' (Totps.getOtpauthUrl X totps')) := by
        rw [Database.enableTotp, htotps']
        rfl
      rw [enableTotp, hflag, if_neg (by decide), hsecret']
      dsimp only
      rw [hwrite, enrolled_of_no_target hnobody]
      rfl

theorem seed_cases (h : (seedDevRealmAdmin X seed draws db).result = .ok ()) :
    ∃ db₃, KeepsRows db db₃ ∧ Seeded seed db₃ ∧
      (seed.totpUser = none ∧ (seedDevRealmAdmin X seed draws db).state = db₃ ∨
      ∃ username password, seed.totpUser = some (username, password) ∧ TotpSeeded seed username db₃ ∧
        (enableTotp X seed draws username db₃).result = .ok () ∧
        (seedDevRealmAdmin X seed draws db).state =
          (enableTotp X seed draws username db₃).state) := by
  unfold seedDevRealmAdmin at h ⊢
  obtain ⟨⟨⟩, hrecords, hrest⟩ := Outcome.bind_eq_ok h
  have hgrows : KeepsRows db (Ensured.ensureAll (records X seed draws) db).state :=
    Ensured.ensureAll_grows records_adds db
  have hseeded := records_hold_iff.mp (Ensured.ensureAll_holds records_adds hrecords)
  rw [Outcome.bind_of_ok hrecords]
  generalize (Ensured.ensureAll (records X seed draws) db).state = db₁ at hrest hgrows hseeded ⊢
  cases huser : seed.totpUser with
  | none => exact ⟨db₁, hgrows, hseeded, .inl ⟨rfl, rfl⟩⟩
  | some user =>
    obtain ⟨username, password⟩ := user
    rw [huser] at hrest
    dsimp only at hrest ⊢
    obtain ⟨⟨⟩, htotp, hfactor⟩ := Outcome.bind_eq_ok hrest
    have hmore : KeepsRows db₁
        (Ensured.ensureAll (totpRecords X seed draws username password) db₁).state :=
      Ensured.ensureAll_grows totpRecords_adds db₁
    have hthere := totpRecords_hold_iff.mp (Ensured.ensureAll_holds totpRecords_adds htotp)
    rw [Outcome.bind_of_ok htotp]
    exact ⟨_, trans_of KeepsRows hgrows hmore, hseeded.keys hmore.keys,
      .inr ⟨username, password, rfl, hthere, hfactor, rfl⟩⟩

theorem seed_of_seeded (hseeded : Seeded seed db)
    (htotp : ∀ username password, seed.totpUser = some (username, password) →
      TotpSeeded seed username db ∧ enableTotp X seed draws username db = .ok db ()) :
    seedDevRealmAdmin X seed draws db = .ok db () := by
  unfold seedDevRealmAdmin
  rw [Ensured.ensureAll_of_holds (records_hold_iff.mpr hseeded),
    Outcome.bind_of_ok (Outcome.ok_result _ _), Outcome.ok_state]
  cases huser : seed.totpUser with
  | none => rfl
  | some user =>
    obtain ⟨username, password⟩ := user
    obtain ⟨hthere, hfactor⟩ := htotp username password huser
    dsimp only
    rw [Ensured.ensureAll_of_holds (totpRecords_hold_iff.mpr hthere),
      Outcome.bind_of_ok (Outcome.ok_result _ _), Outcome.ok_state]
    exact hfactor

theorem seed_again (hrfc : Rfc6238 X hotp) (draws' : SeedDraws)
    (h : (seedDevRealmAdmin X seed draws db).result = .ok ()) :
    seedDevRealmAdmin X seed draws' (seedDevRealmAdmin X seed draws db).state =
      .ok (seedDevRealmAdmin X seed draws db).state () := by
  obtain ⟨db₃, -, hseeded, ⟨hnone, hstate⟩ | ⟨username, password, huser, hthere, hfactor, hstate⟩⟩ :=
    seed_cases h
  · rw [hstate]
    refine seed_of_seeded hseeded fun username password huser => ?_
    rw [hnone] at huser
    cases huser
  · rw [hstate]
    have hkeys := enableTotp_keepsKeys hfactor
    refine seed_of_seeded (hseeded.keys hkeys) fun username' password' huser' => ?_
    rw [huser] at huser'
    cases huser'
    exact ⟨hthere.keys hkeys, enableTotp_again hrfc draws' hfactor⟩

theorem seed_keepsRows_iff (h : (seedDevRealmAdmin X seed draws db).result = .ok ()) :
    KeepsRows db (seedDevRealmAdmin X seed draws db).state ↔
      ∀ username password, seed.totpUser = some (username, password) →
        db.isTotpEnabled username ≠ some false := by
  obtain ⟨db₃, hgrows, -, ⟨hnone, hstate⟩ | ⟨username, password, huser, -, hfactor, hstate⟩⟩ :=
    seed_cases h
  · rw [hstate, hnone]
    exact iff_of_true hgrows (by simp)
  · rw [hstate, keepsRows_enableTotp_iff hgrows hfactor, huser]
    constructor
    · rintro hkeeps _ _ ⟨⟩
      exact hkeeps
    · intro hkeeps
      exact hkeeps username password rfl

/-- Where seeding succeeds, doing it again changes nothing. It overwrites nothing if and only if the
user with the second factor is no administrator from before whose factor is disabled. -/
theorem dev_seed_idempotent_iff (X : Externals) (hotp : Hotp) (hrfc : Rfc6238 X hotp)
    (seed : DevSeedParams) (draws : SeedDraws) (db : Database)
    (h : (seedDevRealmAdmin X seed draws db).result = .ok ()) :
    let db' := (seedDevRealmAdmin X seed draws db).state
    (∀ draws', seedDevRealmAdmin X seed draws' db' = .ok db' ()) ∧
    ((KeepsRows db db' ∧ ∀ draws', seedDevRealmAdmin X seed draws' db' = .ok db' ()) ↔
      ∀ username password, seed.totpUser = some (username, password) →
        db.isTotpEnabled username ≠ some false) := by
  have hagain (draws' : SeedDraws) := seed_again hrfc draws' h
  exact ⟨hagain, (and_iff_left hagain).trans (seed_keepsRows_iff h)⟩

end
end DevSeed

namespace Transparent
open DevSeed

/-- Root creates the realm `dev` and its administrator `bob`, who logs in without a code. -/
def bobRun : List Call :=
  [rootLogin,
   ⟨moment 1001, .admin "" (some rootCookie) (.createRealm
      { id := "dev", authParams := { usernamePasswordParams := some ⟨false⟩ },
        sessionMaxAgeSeconds := 3600, sessionMaxStaleAgeSeconds := 3600 })⟩,
   ⟨moment 1002, .admin "" (some rootCookie) (.createUserpass "_"
      { realm := "_", username := "bob", passwordInput := some (.plaintext "pw"),
        changePassword := false })⟩,
   ⟨moment 1003, .admin "" (some rootCookie) (.createAdmin
      { id := "bob", realms := ["dev"], userpass := some "bob" })⟩]

def bobDatabase : Database := (run (step timed params) start bobRun).db

def seededSecret : String := "JBSWY3DPEHPK3PXPJBSWY3DPEHPK3PXP"

def devSeed (totpUsername : String) : DevSeedParams :=
  { realmId := "dev", adminUsername := "dev-admin", adminPassword := some "pw",
    totpUsername := some totpUsername, totpPassword := some "pw", totpSecret := some seededSecret }

def seedDraws : SeedDraws :=
  { env := fun _ => none, adminSalt := "salt", totpSalt := "salt",
    totpSecret := List.replicate 20 65, twenty := rfl }

set_option maxRecDepth 2000 in
theorem devSeed_facts :
    (∀ username ∈ ["bob", "carol"],
      (seedDevRealmAdmin timed (devSeed username) seedDraws bobDatabase).result = .ok ()) ∧
    bobDatabase.isTotpEnabled "bob" = some false ∧ bobDatabase.isTotpEnabled "carol" = none ∧
    (seedDevRealmAdmin timed (devSeed "bob") seedDraws bobDatabase).state.getTotpSecret "bob" =
      some seededSecret := by
  decide

/-- A new user with a second factor is added and nothing else, and the next start adds nothing. -/
theorem dev_seed_idempotent_iff_carol :
    let db := (seedDevRealmAdmin timed (devSeed "carol") seedDraws bobDatabase).state
    KeepsRows bobDatabase db ∧
      ∀ draws, seedDevRealmAdmin timed (devSeed "carol") draws db = .ok db () := by
  obtain ⟨hok, -, hnew, -⟩ := devSeed_facts
  refine (dev_seed_idempotent_iff timed clearHotp timed_rfc6238 (devSeed "carol") seedDraws bobDatabase
    (hok _ (List.mem_cons_of_mem _ List.mem_cons_self))).2.mpr ?_
  rintro username password ⟨⟩
  rw [hnew]
  exact Option.some_ne_none false |>.symm

/-- An administrator of the name that the seed gives its user has a second factor from then on, with
the secret of the seed. -/
theorem seed_overwrites_admin :
    (seedDevRealmAdmin timed (devSeed "bob") seedDraws bobDatabase).result = .ok () ∧
    ¬ KeepsRows bobDatabase (seedDevRealmAdmin timed (devSeed "bob") seedDraws bobDatabase).state ∧
    bobDatabase.isTotpEnabled "bob" = some false ∧
    (seedDevRealmAdmin timed (devSeed "bob") seedDraws bobDatabase).state.getTotpSecret "bob" =
      some seededSecret := by
  obtain ⟨hok, hdisabled, -, hsecret⟩ := devSeed_facts
  have hseeded := hok "bob" List.mem_cons_self
  exact ⟨hseeded, fun hkeeps => (seed_keepsRows_iff hseeded).mp hkeeps "bob" "pw" rfl hdisabled,
    hdisabled, hsecret⟩

end Transparent
end AuthVerifier
