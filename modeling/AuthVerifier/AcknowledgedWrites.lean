import AuthVerifier.RealmClaim
import AuthVerifier.Server

/-!
What a success answers for. A change of a credential, of a realm or of a second factor is an
`UPDATE` whose affected rows nobody counts, so the answer says nothing about whether the row is
there. Where it is, the row holds what was submitted and no other row changes; where it is not, the
same success covers a change that was never made.
-/

set_option autoImplicit false

namespace AuthVerifier
open Effects Relational

def Replaces {α κ : Type} {key : α → κ} [DecidableEq κ] (t t' : Table α κ key) (k : κ) (x : α) :
    Prop :=
  t'.find? k = some x ∧ ∀ k', k' ≠ k → t'.find? k' = t.find? k'

theorem replaces_updateWhere {α κ : Type} {key : α → κ} [DecidableEq κ] {t : Table α κ key}
    {p : α → Bool} {f : α → α} (hf : ∀ x, key (f x) = key x) {k : κ} {x : α}
    (hfind : t.find? k = some x) (hx : p x = true) (hp : ∀ y, p y = true → key y = k) :
    Replaces t (t.updateWhere p f hf) k (f x) :=
  ⟨Table.find?_updateWhere_of_hit hfind hx, fun _ hk' =>
    Table.find?_updateWhere_of_miss fun y hy hkey => hk' (hkey.symm.trans (hp y hy))⟩

section
variable (X : Externals) (params : ServerParams)

def AdminRequest.changesRow : AdminRequest → Bool
  | .updateUserpass .. | .updateRealm .. | .totpVerify .. => true
  | _ => false

/-- The credential row as submitted: with a password input everything is, without one the hash and
the extra claims stay. -/
def SubmittedRow (salt : String) (body : UserPass) (old row : UserPassRow) : Prop :=
  row.changePassword = body.changePassword ∧ row.roles = body.roles ∧
    match body.passwordInput with
    | some input => Endpoints.createdHash X salt (some input) = .ok row.password ∧
        row.extraClaims = body.extraClaims
    | none => row.password = old.password ∧ row.extraClaims = old.extraClaims

def ReadsCredential (requester : Admin) (db : Database) (row : UserPassRow) : Prop :=
  (Endpoints.getUserpass requester row.realm row.username db).result =
    .ok { status := 200, body := .userpass (row.toUserPass "") }

/-- The addressed row is there, a read returns what was submitted, and no other row of any table is
changed. -/
def Applied (m : Moment) (requester : Admin) (db db' : Database) : AdminRequest → Prop
  | .updateUserpass realm username body =>
    (∃ old row, db.userpass.find? (realm, username) = some old ∧
      Replaces db.userpass db'.userpass (realm, username) row ∧
      SubmittedRow X m.salt body old row ∧ ReadsCredential requester db' row) ∧
    db'.realm = db.realm ∧ db'.admin = db.admin ∧ db'.adminRealms = db.adminRealms
  | .updateRealm realmId body =>
    (∃ realm, Endpoints.checkSamlParams X params { body with id := realmId } = .ok realm ∧
      Replaces db.realm db'.realm realmId realm ∧
      (Endpoints.getRealm requester realmId db').result =
        .ok { status := 200, body := .realm realm }) ∧
    db'.userpass = db.userpass ∧ db'.admin = db.admin ∧ db'.adminRealms = db.adminRealms
  | .totpVerify _ body =>
    (∃ old row, db.admin.find? body.username = some old ∧
      Replaces db.admin db'.admin body.username row ∧
      row.totpEnabled = some true ∧ row.totpSecret = some body.secret ∧
      row = { old with totpEnabled := row.totpEnabled, totpSecret := row.totpSecret,
                       totpAuthUrl := row.totpAuthUrl } ∧
      db'.isTotpEnabled body.username = some true ∧
      db'.getTotpSecret body.username = some body.secret) ∧
    db'.realm = db.realm ∧ db'.userpass = db.userpass ∧ db'.adminRealms = db.adminRealms
  | _ => True

/-- The row the request addresses is stored. A second factor is addressed to an administrator with
a password or a JWT login. -/
def Addressed (db : Database) : AdminRequest → Prop
  | .updateUserpass realm username _ => (realm, username) ∈ db.userpass.keys
  | .updateRealm realmId _ => realmId ∈ db.realm.keys
  | .totpVerify _ body => ∃ row ∈ db.admin, row.totpTarget body.username = true
  | _ => True

/-- A request without a password input that asks for other extra claims than those stored. -/
def AsksForOtherClaims (db : Database) : AdminRequest → Prop
  | .updateUserpass realm username body => body.passwordInput = none ∧
    ∃ requested, body.extraClaims = some requested ∧
      ∀ old stored, db.userpass.find? (realm, username) = some old →
        old.extraClaims = some stored → ¬ stored.Perm requested
  | _ => False

end

section
variable {X : Externals} {params : ServerParams} {m : Moment} {requester : Admin} {db : Database}
  {response : HttpResponse}

theorem updateUserpass_ok {realm username : String} {body : UserPass} {salt : String}
    (h : (Endpoints.updateUserpass X salt requester realm username body db).result = .ok response) :
    canManageRealm requester realm db = true ∧ ∃ f hf,
      (Endpoints.updateUserpass X salt requester realm username body db).state =
        db.setUserpass realm username f hf ∧ ∀ old, SubmittedRow X salt body old (f old) := by
  unfold Endpoints.updateUserpass at h ⊢
  cases hcan : canManageRealm requester realm db with
  | false =>
    rw [hcan, if_pos rfl] at h
    cases h
  | true =>
    refine ⟨rfl, ?_⟩
    simp only [hcan, Bool.true_eq_false, if_false] at h ⊢
    cases hclaims : checkExtraClaims X body.extraClaims with
    | error e =>
      simp only [hclaims] at h
      cases h
    | ok u =>
      simp only [hclaims] at h ⊢
      cases hinput : body.passwordInput with
      | none =>
        simp only [hinput] at h ⊢
        split at h
        · cases h
        · rename_i hsame
          rw [if_neg hsame]
          refine ⟨fun r => { r with changePassword := body.changePassword, roles := body.roles },
            fun _ => rfl, rfl, fun old => ?_⟩
          simp [SubmittedRow, hinput]
      | some input =>
        simp only [hinput] at h ⊢
        cases input with
        | plaintext plaintext =>
          simp only at h ⊢
          cases hhash : hashPasswordWithArgon2 X salt plaintext with
          | error e =>
            simp only [hhash] at h
            cases h
          | ok hash =>
            refine ⟨fun r => { r with
              password := hash, changePassword := body.changePassword, roles := body.roles,
              extraClaims := body.extraClaims }, fun _ => rfl, rfl, fun old => ?_⟩
            simp [SubmittedRow, hinput, Endpoints.createdHash, hhash]
        | hashed hashed =>
          simp only at h ⊢
          cases hvalid : validateArgon2PhcString X hashed with
          | error e =>
            simp only [hvalid] at h
            cases h
          | ok u =>
            refine ⟨fun r => { r with
              password := hashed, changePassword := body.changePassword, roles := body.roles,
              extraClaims := body.extraClaims }, fun _ => rfl, rfl, fun old => ?_⟩
            simp [SubmittedRow, hinput, Endpoints.createdHash, hvalid]

theorem canManageRealm_congr {db' : Database} (ha : db'.admin = db.admin)
    (hm : db'.adminRealms = db.adminRealms) (r : String) :
    canManageRealm requester r db' = canManageRealm requester r db := by
  have hlist : db'.listAdmins = db.listAdmins := by
    unfold Database.listAdmins
    rw [ha]
    refine List.map_congr_left fun row _ => ?_
    simp only [Database.toAdmin, Database.realmsOf, hm]
  simp only [canManageRealm, hlist]

theorem updateUserpass_applied_iff {realm username : String} {body : UserPass}
    (h : (Endpoints.updateUserpass X m.salt requester realm username body db).result =
      .ok response) :
    Applied X params m requester db
        (Endpoints.updateUserpass X m.salt requester realm username body db).state
        (.updateUserpass realm username body) ↔
      (realm, username) ∈ db.userpass.keys := by
  obtain ⟨hcan, f, hf, hstate, hrow⟩ := updateUserpass_ok h
  rw [hstate]
  constructor
  · rintro ⟨⟨old, _, hold, _⟩, _⟩
    obtain ⟨hmem, hkey⟩ := Table.find?_eq_some_iff.mp hold
    exact hkey ▸ Table.key_mem_keys hmem
  · intro hk
    obtain ⟨old, hmem, hkey⟩ := Table.mem_keys.mp hk
    obtain ⟨hrealm, husername⟩ := Prod.mk.inj hkey
    have hfind : db.userpass.find? (realm, username) = some old :=
      Table.find?_eq_some_iff.mpr ⟨hmem, hkey⟩
    have hreplaces : Replaces db.userpass (db.setUserpass realm username f hf).userpass
        (realm, username) (f old) := by
      refine replaces_updateWhere hf hfind ?_ ?_
      · simp [hrealm, husername]
      · intro y hy
        simpa [UserPassRow.key] using hy
    obtain ⟨hr, hu⟩ := Prod.mk.inj ((hf old).trans hkey)
    refine ⟨⟨old, f old, hfind, hreplaces, hrow old, ?_⟩, rfl, rfl, rfl⟩
    have hcan' : canManageRealm requester realm (db.setUserpass realm username f hf) = true :=
      (canManageRealm_congr rfl rfl realm).trans hcan
    rw [ReadsCredential, hr, hu]
    simp only [Endpoints.getUserpass, hcan', Bool.true_eq_false, if_false, Database.getUserpass,
      hreplaces.1, Option.map_some, Outcome.ok_result]
    rfl

theorem updateRealm_ok {realmId : String} {body : Realm}
    (h : (Endpoints.updateRealm X params requester realmId body db).result = .ok response) :
    canManageRealm requester realmId db = true ∧ ∃ realm,
      Endpoints.checkSamlParams X params { body with id := realmId } = .ok realm ∧
      (Endpoints.updateRealm X params requester realmId body db).state = db.updateRealm realm := by
  unfold Endpoints.updateRealm at h ⊢
  cases hcan : canManageRealm requester realmId db with
  | false =>
    rw [hcan, if_pos rfl] at h
    cases h
  | true =>
    refine ⟨rfl, ?_⟩
    simp only [hcan, Bool.true_eq_false, if_false] at h ⊢
    cases hcheck : Endpoints.checkSamlParams X params { body with id := realmId } with
    | error e =>
      simp only [hcheck] at h
      cases h
    | ok realm => exact ⟨realm, rfl, rfl⟩

theorem updateRealm_applied_iff {realmId : String} {body : Realm}
    (h : (Endpoints.updateRealm X params requester realmId body db).result = .ok response) :
    Applied X params m requester db
        (Endpoints.updateRealm X params requester realmId body db).state
        (.updateRealm realmId body) ↔
      realmId ∈ db.realm.keys := by
  obtain ⟨hcan, realm, hcheck, hstate⟩ := updateRealm_ok h
  have hid : realm.id = realmId := checkSamlParams_id hcheck
  rw [hstate]
  constructor
  · rintro ⟨⟨_, _, ⟨hfind, _⟩, _⟩, _⟩
    obtain ⟨hmem, hkey⟩ := Table.find?_eq_some_iff.mp hfind
    have hkeys : realmId ∈ (db.updateRealm realm).realm.keys := hkey ▸ Table.key_mem_keys hmem
    simpa [Database.updateRealm] using hkeys
  · intro hk
    obtain ⟨old, hmem, hkey⟩ := Table.mem_keys.mp hk
    let assign (r : Realm) : Realm := { realm with id := r.id }
    have hreplaces : Replaces db.realm (db.updateRealm realm).realm realmId (assign old) := by
      refine replaces_updateWhere (f := assign) (fun _ => rfl)
        (Table.find?_eq_some_iff.mpr ⟨hmem, hkey⟩) ?_ ?_
      · simp [hkey, hid]
      · intro y hy
        simpa [hid] using hy
    have hassigned : assign old = realm := by
      simp only [assign, hkey, ← hid]
    rw [hassigned] at hreplaces
    refine ⟨⟨realm, hcheck, hreplaces, ?_⟩, rfl, rfl, rfl⟩
    have hadmin : requester.canAdministerRealm realmId = true := by
      rcases canManageRealm_iff.mp hcan with hmember | ⟨hsuper, _⟩
      · simp [Admin.canAdministerRealm, hmember]
      · simp [Admin.canAdministerRealm, hsuper]
    simp only [Endpoints.getRealm, hadmin, Bool.true_eq_false, if_false, Database.getRealm,
      hreplaces.1, Outcome.ok_result]

def enrol (secret url : String) (r : AdminRow) : AdminRow :=
  { r with totpEnabled := some true, totpSecret := some secret, totpAuthUrl := some url }

theorem totpVerify_ok {now : Int} {realmId : String} {body : TotpVerifyRequest}
    (h : (Endpoints.totpVerify X now requester realmId body db).result = .ok response) :
    ∃ url, (Endpoints.totpVerify X now requester realmId body db).state =
      db.setAdmin (AdminRow.totpTarget body.username) (enrol body.secret url) (fun _ => rfl) := by
  unfold Endpoints.totpVerify at h ⊢
  cases hcan : canManageRealm requester realmId db with
  | false =>
    rw [hcan, if_pos rfl] at h
    cases h
  | true =>
    simp only [hcan, Bool.true_eq_false, if_false] at h ⊢
    cases haccepts : Endpoints.totpAccepts X now realmId body db with
    | error e =>
      simp only [haccepts] at h
      cases h
    | ok u =>
      simp only [haccepts, Database.enableTotp] at h ⊢
      cases hsecret : Totps.fromSecret X body.secret (some realmId) body.username none with
      | error e =>
        simp only [hsecret] at h
        cases h
      | ok totps => exact ⟨_, rfl⟩

theorem totpVerify_applied_iff {realmId : String} {body : TotpVerifyRequest}
    (h : (Endpoints.totpVerify X m.now requester realmId body db).result = .ok response) :
    Applied X params m requester db
        (Endpoints.totpVerify X m.now requester realmId body db).state
        (.totpVerify realmId body) ↔
      ∃ row ∈ db.admin, row.totpTarget body.username = true := by
  obtain ⟨url, hstate⟩ := totpVerify_ok h
  rw [hstate]
  constructor
  · rintro ⟨⟨_, _, _, _, _, _, _, henabled, _⟩, _⟩
    obtain ⟨row, hfind, _⟩ := Option.map_eq_some_iff.mp henabled
    have htarget := List.find?_some hfind
    obtain ⟨old, hold, he⟩ := (Database.mem_setAdmin _ _ _ _).mp (List.mem_of_find?_eq_some hfind)
    refine ⟨old, hold, ?_⟩
    by_contra hno
    rw [if_neg hno] at he
    exact hno (he ▸ htarget)
  · rintro ⟨old, hmem, htarget⟩
    have hfind : db.admin.find? body.username = some old :=
      Table.find?_eq_some_iff.mpr ⟨hmem, Database.totpTarget_id htarget⟩
    let after := db.setAdmin (AdminRow.totpTarget body.username) (enrol body.secret url)
      (fun _ => rfl)
    have hreplaces : Replaces db.admin after.admin body.username (enrol body.secret url old) :=
      replaces_updateWhere (f := enrol body.secret url) (fun _ => rfl) hfind htarget
        (fun _ => Database.totpTarget_id)
    have henrolled : after.admin.rows.find? (AdminRow.totpTarget body.username) =
        some (enrol body.secret url old) :=
      Database.find?_totpTarget (Table.find?_eq_some_iff.mp hreplaces.1).1 htarget
    refine ⟨⟨old, _, hfind, hreplaces, rfl, rfl, rfl, ?_, ?_⟩, rfl, rfl, rfl⟩
    · exact congrArg (Option.map fun r : AdminRow => r.totpEnabled.getD false) henrolled
    · exact congrArg (Option.map fun r : AdminRow => r.totpSecret.getD "") henrolled

theorem other_claims_refused {req : AdminRequest} (h : AsksForOtherClaims db req) :
    (handleAdmin X params m requester db req).result ≠ .ok response := by
  cases req with
  | updateUserpass realm username body =>
    obtain ⟨hinput, requested, hrequested, hother⟩ := h
    have hchanged : Endpoints.extraClaimsChanged db realm username body.extraClaims = true := by
      rw [hrequested]
      simp only [Endpoints.extraClaimsChanged, Database.getUserpass]
      cases hfind : db.userpass.find? (realm, username) with
      | none => rfl
      | some old =>
        simp only [Option.map_some, UserPassRow.toUserPass]
        cases hstored : old.extraClaims with
        | none => rfl
        | some stored =>
          have hne := hother old stored hfind hstored
          rw [← List.isPerm_iff] at hne
          simpa using hne
    intro hok
    simp only [handleAdmin, Endpoints.updateUserpass, hinput, hchanged, if_true] at hok
    repeat' split at hok
    all_goals cases hok
  | _ => exact h.elim

/-- Every acknowledged change of a credential, a realm or a second factor is applied exactly when
the row it addresses is stored; and other extra claims without a password are never acknowledged. -/
theorem acknowledged_writes_iff (X : Externals) (params : ServerParams) (m : Moment)
    (requester : Admin) (db : Database) (req : AdminRequest) (hw : req.changesRow = true) :
    (∀ response, (handleAdmin X params m requester db req).result = .ok response →
      (Applied X params m requester db (handleAdmin X params m requester db req).state req ↔
        Addressed db req)) ∧
    (AsksForOtherClaims db req → ∀ response,
      (handleAdmin X params m requester db req).result ≠ .ok response) := by
  refine ⟨fun response h => ?_, fun hother _ => other_claims_refused hother⟩
  cases req with
  | updateUserpass realm username body => exact updateUserpass_applied_iff h
  | updateRealm realmId body => exact updateRealm_applied_iff h
  | totpVerify realmId body => exact totpVerify_applied_iff h
  | _ => cases hw

end

namespace Transparent

def ghost : UserPass :=
  { realm := adminRealm, username := "ghost", changePassword := false, roles := ["ops"]
    passwordInput := some (.plaintext "secret") }

/-- The change of the initial credential that every first login asks for. -/
def passwordKept : UserPass :=
  { realm := adminRealm, username := "admin", changePassword := false }

/-- The initial administrator clears the flag of its own credential. -/
theorem acknowledged_writes_iff_root :
    (∀ response, (handleAdmin externals params (moment 1000) Database.adminRealmAdmin start.db
        (.updateUserpass adminRealm "admin" passwordKept)).result = .ok response →
      (Applied externals params (moment 1000) Database.adminRealmAdmin start.db
        (handleAdmin externals params (moment 1000) Database.adminRealmAdmin start.db
          (.updateUserpass adminRealm "admin" passwordKept)).state
        (.updateUserpass adminRealm "admin" passwordKept) ↔
        Addressed start.db (.updateUserpass adminRealm "admin" passwordKept))) ∧
    (handleAdmin externals params (moment 1000) Database.adminRealmAdmin start.db
      (.updateUserpass adminRealm "admin" passwordKept)).result =
        .ok { status := 200, body := .userpass passwordKept } ∧
    Addressed start.db (.updateUserpass adminRealm "admin" passwordKept) :=
  ⟨(acknowledged_writes_iff externals params (moment 1000) Database.adminRealmAdmin start.db
    (.updateUserpass adminRealm "admin" passwordKept) rfl).1, by decide,
    (by decide : (adminRealm, "admin") ∈ start.db.userpass.keys)⟩

/-- The update is answered with success, and nothing is stored. -/
theorem ghost_update_acknowledged :
    (handleAdmin externals params (moment 1000) Database.adminRealmAdmin start.db
      (.updateUserpass adminRealm "ghost" ghost)).result =
        .ok { status := 200, body := .userpass { ghost with passwordInput := none } } ∧
    ¬ Applied externals params (moment 1000) Database.adminRealmAdmin start.db
      (handleAdmin externals params (moment 1000) Database.adminRealmAdmin start.db
        (.updateUserpass adminRealm "ghost" ghost)).state
      (.updateUserpass adminRealm "ghost" ghost) := by
  have hok : (handleAdmin externals params (moment 1000) Database.adminRealmAdmin start.db
      (.updateUserpass adminRealm "ghost" ghost)).result =
        .ok { status := 200, body := .userpass { ghost with passwordInput := none } } := by
    decide
  refine ⟨hok, fun h => ?_⟩
  have hkey := (updateUserpass_applied_iff hok).mp h
  revert hkey
  decide

end Transparent
end AuthVerifier
