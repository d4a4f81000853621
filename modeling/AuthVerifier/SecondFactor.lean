import AuthVerifier.Server

/-!
Enforcement of the second factor. `login` looks the TOTP state up under the administrator whose id
is the login name, `AdminAuth` later finds the administrator by the credential; nothing ties the
two together. The login enforces the second factor of the administrator it lets in exactly when the
two lookups agree on it.
-/

set_option autoImplicit false

namespace AuthVerifier
open Effects Transition

/-- The secret of an enrolled administrator; a missing one reads as the empty text. -/
def Admin.enrolledSecret (a : Admin) : Option String :=
  if a.totpEnabled = some true then some (a.totpSecret.getD "") else none

def AdminRow.enrolledSecret (r : AdminRow) : Option String :=
  if r.totpEnabled = some true then some (r.totpSecret.getD "") else none

section
variable (X : Externals) (params : ServerParams)

/-- The second factor of the administrator that `AdminAuth` finds for the client. -/
def adminSecret (db : Database) (client : AuthenticatedClientScheme) : Option String :=
  (db.findAdminsByAuthScheme X client.authScheme client.username).head?.bind Admin.enrolledSecret

/-- The second factor that `login` asks the client for. -/
def loginSecret (db : Database) (username : String) : Option String :=
  (db.admin.rows.find? (AdminRow.totpTarget username)).bind AdminRow.enrolledSecret

def CodeValid (m : Moment) (realm : Realm) (account secret code : String) : Prop :=
  ∃ totpParams totps, realmTotpParams realm = .ok totpParams ∧
    Totps.fromSecret X secret none account totpParams = .ok totps ∧
    totps.validateToken X m.now code = true

def CarriesCode (m : Moment) (realm : Realm) (account secret : String) (body : LoginRequest) :
    Prop :=
  ∃ code, body.totpCode = some code ∧ CodeValid X m realm account secret code

/-- With a verified primary credential: if `AdminAuth` finds an enrolled administrator, the login
goes through only with a valid code for that administrator's secret; if it finds none, the login
goes through whatever the body. -/
def SecondFactorEnforced (s : ServerState) (m : Moment) (realm : Realm)
    (client : AuthenticatedClientScheme) : Prop :=
  ∀ body,
    let goesThrough := login X params m s.db s.sessions (some realm) (some client) body =
      completeLogin X params m s.db s.sessions realm client
    match adminSecret X s.db client with
    | some secret => goesThrough → CarriesCode X m realm client.username secret body
    | none => goesThrough

/-- The two lookups agree: neither finds an enrolled administrator, or both do and a code for the
secret that `login` uses is a code for the secret of the other. -/
def FactorsAgree (db : Database) (m : Moment) (realm : Realm)
    (client : AuthenticatedClientScheme) : Prop :=
  match adminSecret X db client, loginSecret db client.username with
  | none, none => True
  | some secret, some used => ∀ code, CodeValid X m realm client.username used code →
      CodeValid X m realm client.username secret code
  | _, _ => False

end

section
variable {X : Externals} {params : ServerParams} {m : Moment} {db : Database} {sessions : Sessions}
  {realm : Realm} {client : AuthenticatedClientScheme} {body : LoginRequest}

theorem isTotpEnabled_eq (username : String) :
    (db.isTotpEnabled username).getD false = (loginSecret db username).isSome := by
  unfold Database.isTotpEnabled loginSecret
  cases db.admin.rows.find? (AdminRow.totpTarget username) with
  | none => rfl
  | some row =>
    simp only [Option.map_some, Option.getD_some, Option.bind_some, AdminRow.enrolledSecret]
    cases row.totpEnabled with
    | none => simp
    | some flag => cases flag <;> simp

theorem getTotpSecret_eq {username secret : String} (h : loginSecret db username = some secret) :
    db.getTotpSecret username = some secret := by
  unfold Database.getTotpSecret
  unfold loginSecret at h
  cases hr : db.admin.rows.find? (AdminRow.totpTarget username) with
  | none => simp [hr] at h
  | some row =>
    simp only [hr, Option.bind_some, AdminRow.enrolledSecret] at h
    split at h
    · simpa using h
    · cases h

theorem secondFactor_ok_iff :
    secondFactor X m db realm client body = .ok () ↔
      ∀ secret, loginSecret db client.username = some secret →
        CarriesCode X m realm client.username secret body := by
  unfold secondFactor
  rw [isTotpEnabled_eq]
  cases hs : loginSecret db client.username with
  | none => simp
  | some secret =>
    simp only [Option.isSome_some, Bool.true_eq_false, if_false, Option.some.injEq, forall_eq']
    rw [getTotpSecret_eq hs]
    cases hc : body.totpCode with
    | none => simp [CarriesCode, hc]
    | some code =>
      simp only [CarriesCode, hc, Option.some.injEq, exists_eq_left', CodeValid]
      cases hp : realmTotpParams realm with
      | error e => simp
      | ok totpParams =>
        cases hf : Totps.fromSecret X secret none client.username totpParams with
        | error e => simp [hf]
        | ok totps =>
          cases hv : totps.validateToken X m.now code with
          | false => simp [hf, hv]
          | true => simp [hf, hv]

theorem completeLogin_result :
    (∃ id response, (completeLogin X params m db sessions realm client).result = .ok response ∧
      response.body = .authentication (some id) .authenticated) ∨
    (∃ e, (completeLogin X params m db sessions realm client).result = .error (.unexpected e)) ∨
    ∃ e, (completeLogin X params m db sessions realm client).result = .error (.generic e) := by
  unfold completeLogin issueSession
  dsimp only
  split
  · rename_i e he
    unfold issueToken at he
    split at he
    · cases he
    · cases he
      exact .inr (.inl ⟨_, rfl⟩)
  · split
    · rename_i e he
      unfold SessionStore.upsertSession at he
      split at he
      · cases he
        exact .inr (.inr ⟨_, rfl⟩)
      · cases he
    · exact .inl ⟨_, _, rfl, rfl⟩

theorem realmTotpParams_error {e : AuthError} (h : realmTotpParams realm = .error e) :
    ∃ msg, e = .totp msg := by
  unfold realmTotpParams at h
  split at h
  · cases h
  · rename_i p _
    split at h
    · cases h
    · rename_i e' he
      cases h
      simp only [realmParamsToTotpParams] at he
      split at he
      · cases he
      · split at he
        · cases he
        · split at he
          · cases he
          · cases he
            exact ⟨_, rfl⟩

/-- A login stopped at the second factor answers with no session: it asks for a code, refuses one,
or fails with an error of its own kind. -/
theorem secondFactor_answer {answer : Answer}
    (h : secondFactor X m db realm client body = .error answer) :
    (∃ response, answer = .ok response ∧
      ∀ id, response.body ≠ .authentication (some id) .authenticated) ∨
    (∃ msg, answer = .error (.session msg)) ∨ ∃ msg, answer = .error (.totp msg) := by
  unfold secondFactor at h
  split at h
  · cases h
  · split at h
    · cases h
      exact .inl ⟨_, rfl, by simp⟩
    · split at h
      · cases h
        exact .inr (.inl ⟨_, rfl⟩)
      · split at h
        · rename_i e he
          cases h
          obtain ⟨msg, rfl⟩ := realmTotpParams_error he
          exact .inr (.inr ⟨msg, rfl⟩)
        · split at h
          · cases h
            exact .inr (.inr ⟨_, rfl⟩)
          · split at h
            · cases h
            · cases h
              exact .inl ⟨_, rfl, by simp⟩

theorem login_goesThrough_iff :
    login X params m db sessions (some realm) (some client) body =
      completeLogin X params m db sessions realm client ↔
      secondFactor X m db realm client body = .ok () := by
  simp only [login]
  cases hf : secondFactor X m db realm client body with
  | ok u =>
    cases u
    simp
  | error answer =>
    simp only [reduceCtorEq, iff_false]
    intro he
    have hres : answer = (completeLogin X params m db sessions realm client).result :=
      congrArg Outcome.result he
    have hcomplete := @completeLogin_result X params m db sessions realm client
    rw [← hres] at hcomplete
    rcases secondFactor_answer hf with ⟨response, rfl, hn⟩ | ⟨msg, rfl⟩ | ⟨msg, rfl⟩
    · rcases hcomplete with ⟨id, response', hr, hb⟩ | ⟨e, hr⟩ | ⟨e, hr⟩
      · cases hr
        exact hn id hb
      · cases hr
      · cases hr
    · simp at hcomplete
    · simp at hcomplete

theorem secondFactorEnforced_iff {s : ServerState} :
    SecondFactorEnforced X params s m realm client ↔ FactorsAgree X s.db m realm client := by
  unfold SecondFactorEnforced FactorsAgree
  simp only [login_goesThrough_iff, secondFactor_ok_iff]
  cases ha : adminSecret X s.db client with
  | none =>
    cases hl : loginSecret s.db client.username with
    | none => simp
    | some used =>
      simp only [Option.some.injEq, forall_eq', iff_false]
      intro h
      -- a client that is no administrator is asked for a code it cannot have
      obtain ⟨code, hcode, _⟩ := h { totpCode := none }
      cases hcode
  | some secret =>
    cases hl : loginSecret s.db client.username with
    | none =>
      simp only [iff_false]
      intro h
      obtain ⟨code, hcode, _⟩ := h { totpCode := none } (by simp)
      cases hcode
    | some used =>
      simp only [Option.some.injEq, forall_eq']
      constructor
      · intro h code hv
        obtain ⟨code', hcode, hv'⟩ := h { totpCode := some code } ⟨code, rfl, hv⟩
        cases hcode
        exact hv'
      · intro h body hb
        obtain ⟨code, hcode, hv⟩ := hb
        exact ⟨code, hcode, h code hv⟩

end

section
variable (X : Externals) (params : ServerParams)

/-- The step, if it is a login whose primary credential is verified, has the property. -/
def AtLogin (P : Moment → Realm → AuthenticatedClientScheme → Prop) (s : ServerState) (c : Call) :
    Prop :=
  ∀ query authorization body realm client, c.request = .login query authorization body →
    (primaryAuth X s.db s.jwks c.moment query authorization).result = .ok (some realm, client) →
    P c.moment realm client

def EnforcedAt (s : ServerState) (c : Call) : Prop :=
  AtLogin X (SecondFactorEnforced X params s) s c

def AgreeingAt (s : ServerState) (c : Call) : Prop := AtLogin X (FactorsAgree X s.db) s c

end

section
variable {X : Externals} {params : ServerParams}

theorem enforcedAt_iff (s : ServerState) (c : Call) :
    EnforcedAt X params s c ↔ AgreeingAt X s c := by
  unfold EnforcedAt AgreeingAt AtLogin
  simp only [secondFactorEnforced_iff]

/-- Along a run, every login enforces the second factor of the administrator it lets in exactly
when at every login the two lookups agree. -/
theorem second_factor_iff (start : ServerState) (calls : List Call) :
    (∀ x ∈ trace (step X params) start calls, EnforcedAt X params x.1 x.2) ↔
      ∀ x ∈ trace (step X params) start calls, AgreeingAt X x.1 x.2 :=
  trace_forall_iff (step X params) enforcedAt_iff calls

theorem not_enforcedAt_of_other_name {s : ServerState} {m : Moment} {query : String}
    {authorization : Option String} {body : LoginRequest} {realm : Realm}
    {client : AuthenticatedClientScheme} {secret : String}
    (hp : (primaryAuth X s.db s.jwks m query authorization).result = .ok (some realm, client))
    (ha : adminSecret X s.db client = some secret) (hl : loginSecret s.db client.username = none) :
    ¬ EnforcedAt X params s ⟨m, .login query authorization body⟩ := by
  intro h
  have hagree := secondFactorEnforced_iff.mp (h query authorization body realm client rfl hp)
  simp only [FactorsAgree, ha, hl] at hagree

end

/-- Root creates the super admin `ops` with the credential `bob` and enrols it. -/
def enrolledRun : List Call :=
  [Transparent.rootLogin,
   ⟨Transparent.moment 1001, .admin "" (some Transparent.rootCookie) (.createUserpass "_"
      { realm := "_", username := "bob", passwordInput := some (.plaintext "pw"),
        changePassword := false })⟩,
   ⟨Transparent.moment 1002, .admin "" (some Transparent.rootCookie) (.createAdmin
      { id := "ops", realms := ["_"], userpass := some "bob" })⟩,
   ⟨Transparent.moment 1003, .admin "" (some Transparent.rootCookie) (.totpVerify "_"
      { username := "ops", token := "903383"
        secret := "GEZDGNBVGY3TQOJQGEZDGNBVGY3TQOJQ" })⟩]

set_option maxRecDepth 2000 in
/-- The credential of `bob` is verified; the administrator behind it is enrolled, but `login` looks
for one that is called `bob`. -/
theorem enrolledRun_lookups :
    let s := run (step Transparent.externals Transparent.params) Transparent.start enrolledRun
    let client : AuthenticatedClientScheme :=
      { username := "bob", authScheme := .usernamePassword }
    (primaryAuth Transparent.externals s.db s.jwks (Transparent.moment 1004) "realm=_"
        (some "Basic Ym9iOnB3")).result = .ok (some Database.adminRealmRecord, client) ∧
      adminSecret Transparent.externals s.db client =
        some "GEZDGNBVGY3TQOJQGEZDGNBVGY3TQOJQ" ∧
      loginSecret s.db "bob" = none := by
  decide

theorem enrolled_admin_logs_in_without_code :
    ¬ EnforcedAt Transparent.externals Transparent.params
      (run (step Transparent.externals Transparent.params) Transparent.start enrolledRun)
      ⟨Transparent.moment 1004, .login "realm=_" (some "Basic Ym9iOnB3") {}⟩ :=
  not_enforcedAt_of_other_name enrolledRun_lookups.1 enrolledRun_lookups.2.1
    enrolledRun_lookups.2.2

end AuthVerifier
