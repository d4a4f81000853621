import AuthVerifier.AdminIdentity
import AuthVerifier.PasswordLogin
import AuthVerifier.SecondFactor

/-!
Enrolment of a second factor against its use. An administrator is enrolled under some realm, whose
algorithm and period go into the `otpauth` URL and into the check of the first code; the secret is
stored without them. A login checks codes with the settings of the realm that is logged in to. The
two agree exactly when the settings do, for an administrator who logs in under its own id.
-/

set_option autoImplicit false

namespace AuthVerifier
open Effects Relational Transition

/-- The code of a counter value: algorithm, secret and number of digits come first. -/
abbrev Hotp := TotpAlgorithm → List UInt8 → Nat → Nat → String

/-- `totp_rs` as documented: what `TOTP::new` refuses, RFC 6238 within the skew, and Base32. A
period of zero divides by zero and accepts nothing. -/
structure Rfc6238 (X : Externals) (hotp : Hotp) : Prop where
  new : ∀ t : Totps, X.totpNew t = .ok () ↔ (6 ≤ t.digits ∧ t.digits ≤ 8) ∧ 16 ≤ t.secret.length ∧
    (∀ issuer ∈ t.issuer, ':' ∉ issuer.toList) ∧ ':' ∉ t.accountName.toList
  check : ∀ (t : Totps) (now : Int) (token : String), X.checkCurrent t now token = true ↔
    0 < t.step ∧ ∃ counter, counter ≤ now.toNat / t.step + t.skew ∧
      now.toNat / t.step ≤ counter + t.skew ∧ token = hotp t.algorithm t.secret t.digits counter
  base32 : ∀ bytes, X.secretToBytes (X.secretToBase32 bytes) = .ok bytes

/-- What an authenticator app shows for the instance behind an `otpauth` URL. -/
def Totps.currentCode (hotp : Hotp) (t : Totps) (now : Int) : String :=
  hotp t.algorithm t.secret t.digits (now.toNat / t.step)

/-- The same secret under the same algorithm, period, digits and skew. -/
def Totps.SameParameters (t u : Totps) : Prop :=
  t.algorithm = u.algorithm ∧ t.digits = u.digits ∧ t.skew = u.skew ∧ t.step = u.step ∧
    t.secret = u.secret

def effectiveTotpParams (realm : Realm) : Except AuthError TotpParams :=
  (realmTotpParams realm).map (fun params => params.getD {})

/-- Every realm is there with the TOTP settings it has in the other database. -/
def SameTotpSettings (db db' : Database) : Prop :=
  ∀ id, (db.getRealm id).map (fun r => r.authParams.totpParams) =
    (db'.getRealm id).map (fun r => r.authParams.totpParams)

section
variable (X : Externals) (params : ServerParams)

/-- The call is a `totp_generate` under the realm, and answers the secret and the URL of `t`. -/
def GeneratedWith (s : ServerState) (c : Call) (realmId secret : String) (t : Totps) : Prop :=
  ∃ query cookie body realm settings,
    c.request = .admin query cookie (.totpGenerate realmId body) ∧
    (handle X params s c).2 =
      .ok { status := 200, body := .totpGenerated secret (t.getOtpauthUrl X) } ∧
    s.db.getRealm realmId = some realm ∧ realmTotpParams realm = .ok settings ∧
    createTotpSecret X c.moment.totpSecret (body.issuer.getD realmId) body.username settings =
      .ok (t, secret)

/-- The call is a successful `totp_verify` under the realm, and `t` is what it checked with. -/
def VerifiedWith (s : ServerState) (c : Call) (realmId : String) (body : TotpVerifyRequest)
    (t : Totps) : Prop :=
  ∃ query cookie realm settings, c.request = .admin query cookie (.totpVerify realmId body) ∧
    (handle X params s c).2 = .ok { status := 200, body := .statusOk } ∧
    s.db.getRealm realmId = some realm ∧ realmTotpParams realm = .ok settings ∧
    Totps.fromSecret X body.secret (some (body.issuer.getD realmId)) body.username settings = .ok t

/-- The instance that a login of the client to the realm checks codes with. -/
def CheckedWith (db : Database) (realm : Realm) (client : AuthenticatedClientScheme) (t : Totps) :
    Prop :=
  ∃ secret settings, loginSecret db client.username = some secret ∧
    realmTotpParams realm = .ok settings ∧
    Totps.fromSecret X secret none client.username settings = .ok t

/-- After the steps of `tr`, the administrator of the verified body logs in to the realm that
`AdminAuth` serves: its secret was generated and verified under `realmId`, it is still enrolled with
it, and no realm has other TOTP settings than then. -/
structure EnrolledLogin (tr : List (ServerState × Call)) (s : ServerState) (c : Call)
    (realmId : String) (body : TotpVerifyRequest) (generated verified : Totps) (realm : Realm)
    (client : AuthenticatedClientScheme) : Prop where
  generation : ∃ x ∈ tr, GeneratedWith X params x.1 x.2 realmId body.secret generated ∧
    SameTotpSettings x.1.db s.db
  verification : ∃ x ∈ tr, VerifiedWith X params x.1 x.2 realmId body verified ∧
    SameTotpSettings x.1.db s.db
  login : ∃ query authorization request, c.request = .login query authorization request ∧
    (primaryAuth X s.db s.jwks c.moment query authorization).result = .ok (some realm, client)
  served : realm.id = adminRealm
  enrolled : ∃ admin,
    (s.db.findAdminsByAuthScheme X client.authScheme client.username).head? = some admin ∧
    admin.id = body.username ∧ admin.totpEnabled = some true ∧ admin.totpSecret = some body.secret

/-- The code shown for the generated URL lets the client in, and whatever the login checks codes
with is what the first code was checked with. -/
def LoginAgrees (hotp : Hotp) (m : Moment) (db : Database) (realm : Realm)
    (client : AuthenticatedClientScheme) (generated verified : Totps) : Prop :=
  secondFactor X m db realm client { totpCode := some (generated.currentCode hotp m.now) } =
      .ok () ∧
    ∀ used, CheckedWith X db realm client used → used.SameParameters verified

/-- If the login asks for a second factor at all, it is the enrolled secret, a name that `TOTP::new`
takes, and settings equal to those of the realm of the enrolment. -/
def UsesEnrolment (db : Database) (realm : Realm) (client : AuthenticatedClientScheme)
    (realmId secret : String) : Prop :=
  ∀ used, loginSecret db client.username = some used →
    X.secretToBytes used = X.secretToBytes secret ∧ ':' ∉ client.username.toList ∧
      (db.getRealm realmId).map effectiveTotpParams = some (effectiveTotpParams realm)

def AgreesAfter (hotp : Hotp) (tr : List (ServerState × Call)) (s : ServerState) (c : Call) :
    Prop :=
  ∀ realmId body generated verified realm client,
    EnrolledLogin X params tr s c realmId body generated verified realm client →
      LoginAgrees X hotp c.moment s.db realm client generated verified

def MatchesAfter (tr : List (ServerState × Call)) (s : ServerState) (c : Call) : Prop :=
  ∀ realmId body generated verified realm client,
    EnrolledLogin X params tr s c realmId body generated verified realm client →
      UsesEnrolment X s.db realm client realmId body.secret

end

section
variable {X : Externals} {params : ServerParams} {hotp : Hotp} {s : ServerState} {c : Call}
  {db : Database} {realm : Realm} {client : AuthenticatedClientScheme}

def TotpParams.withSecret (p : TotpParams) (secret : List UInt8) (issuer : Option String)
    (accountName : String) : Totps :=
  ⟨p.algorithm, p.digits, p.skew, p.step, secret, issuer, accountName⟩

theorem Totps.new_ok_iff {p : TotpParams} {secret : List UInt8} {issuer : Option String}
    {accountName : String} {t : Totps} :
    Totps.new X p secret issuer accountName = .ok t ↔
      t = p.withSecret secret issuer accountName ∧ X.totpNew t = .ok () := by
  unfold Totps.new
  dsimp only
  split
  · rename_i hnew
    constructor
    · intro h
      cases h
      exact ⟨rfl, hnew⟩
    · rintro ⟨rfl, -⟩
      rfl
  · rename_i e hnew
    constructor
    · intro h
      cases h
    · rintro ⟨rfl, hok⟩
      unfold TotpParams.withSecret at hok
      rw [hnew] at hok
      cases hok

theorem Totps.fromSecret_ok_iff {secret : String} {issuer : Option String} {accountName : String}
    {settings : Option TotpParams} {t : Totps} :
    Totps.fromSecret X secret issuer accountName settings = .ok t ↔
      ∃ bytes, X.secretToBytes secret = .ok bytes ∧
        t = (settings.getD {}).withSecret bytes issuer accountName ∧ X.totpNew t = .ok () := by
  unfold Totps.fromSecret
  cases X.secretToBytes secret with
  | error e => simp
  | ok bytes => simp [Totps.new_ok_iff]

theorem createTotpSecret_ok_iff {drawn : List UInt8} {issuer accountName secret : String}
    {settings : Option TotpParams} {t : Totps} :
    createTotpSecret X drawn issuer accountName settings = .ok (t, secret) ↔
      (t = (settings.getD {}).withSecret drawn (some issuer) accountName ∧
        X.totpNew t = .ok ()) ∧ secret = X.secretToBase32 t.secret := by
  rw [← Totps.new_ok_iff]
  unfold createTotpSecret
  cases Totps.new X (settings.getD {}) drawn (some issuer) accountName with
  | error e => simp
  | ok t' =>
    simp only [Except.ok.injEq, Prod.mk.injEq]
    constructor
    · rintro ⟨rfl, rfl⟩
      exact ⟨rfl, rfl⟩
    · rintro ⟨rfl, rfl⟩
      exact ⟨rfl, rfl⟩

theorem realmTotpParams_eq_of {r r' : Realm} (h : r.authParams.totpParams = r'.authParams.totpParams) :
    realmTotpParams r = realmTotpParams r' := by
  unfold realmTotpParams
  rw [h]

theorem SameTotpSettings.getRealm {db' : Database} {id : String} {r : Realm}
    (h : SameTotpSettings db' db) (hr : db'.getRealm id = some r) :
    ∃ r', db.getRealm id = some r' ∧ realmTotpParams r' = realmTotpParams r := by
  have hid := h id
  rw [hr, Option.map_some] at hid
  obtain ⟨r', hr', hsame⟩ := Option.map_eq_some_iff.mp hid.symm
  exact ⟨r', hr', realmTotpParams_eq_of hsame⟩

theorem SameTotpSettings.of_rows {db' : Database} (h : db'.realm.rows = db.realm.rows) :
    SameTotpSettings db' db := by
  intro id
  simp only [Database.getRealm, Table.find?, h]

theorem effectiveTotpParams_ok_iff {r : Realm} {p : TotpParams} :
    effectiveTotpParams r = .ok p ↔ ∃ settings, realmTotpParams r = .ok settings ∧
      settings.getD {} = p := by
  unfold effectiveTotpParams
  cases realmTotpParams r with
  | error e => simp [Except.map]
  | ok settings => simp [Except.map]

theorem VerifiedWith.step_pos {realmId : String} {body : TotpVerifyRequest} {t : Totps}
    (hrfc : Rfc6238 X hotp) (h : VerifiedWith X params s c realmId body t) : 0 < t.step := by
  obtain ⟨query, cookie, r, settings, hreq, hanswer, hr, hsettings, ht⟩ := h
  obtain ⟨m, request⟩ := c
  dsimp only at hreq
  subst hreq
  obtain ⟨requester, hok, -⟩ := handle_admin_ok (by decide) hanswer
  have haccepts : Endpoints.totpAccepts X m.now realmId body s.db = .ok () := by
    simp only [handleAdmin, Endpoints.totpVerify] at hok
    split at hok
    · cases hok
    · split at hok
      · cases hok
      · assumption
  simp only [Endpoints.totpAccepts, hr, hsettings, ht] at haccepts
  split at haccepts
  · rename_i hvalid
    exact ((hrfc.check t m.now body.token).mp hvalid).1
  · cases haccepts

/-- What an enrolment comes down to when its administrator logs in: one instance, over the settings
that the realm of the enrolment still has, generated and verified alike. -/
theorem EnrolledLogin.sameInstance {tr : List (ServerState × Call)} {realmId : String}
    {body : TotpVerifyRequest} {generated verified : Totps} (hrfc : Rfc6238 X hotp)
    (h : EnrolledLogin X params tr s c realmId body generated verified realm client) :
    ∃ r p bytes issuer, s.db.getRealm realmId = some r ∧ effectiveTotpParams r = .ok p ∧
      X.secretToBytes body.secret = .ok bytes ∧
      verified = p.withSecret bytes issuer body.username ∧ X.totpNew verified = .ok () ∧
      0 < p.step ∧ generated.SameParameters verified := by
  obtain ⟨x, -, hgenerated, hsame⟩ := h.generation
  obtain ⟨y, -, hverified, hsame'⟩ := h.verification
  have hstep := hverified.step_pos hrfc
  obtain ⟨_, _, gbody, rg, sg, -, -, hrg, hsg, hcreate⟩ := hgenerated
  obtain ⟨_, _, rv, sv, -, -, hrv, hsv, hfrom⟩ := hverified
  obtain ⟨⟨hgen, -⟩, hsecret⟩ := createTotpSecret_ok_iff.mp hcreate
  obtain ⟨bytes, hbytes, hver, hnew⟩ := Totps.fromSecret_ok_iff.mp hfrom
  obtain ⟨r, hr, hsettings⟩ := hsame'.getRealm hrv
  obtain ⟨r', hr', hsettings'⟩ := hsame.getRealm hrg
  obtain rfl : r = r' := Option.some.inj (hr.symm.trans hr')
  rw [hsv] at hsettings
  rw [hsg, hsettings] at hsettings'
  obtain rfl : sv = sg := Except.ok.inj hsettings'
  -- the generated secret decodes to what was drawn
  have hdrawn : bytes = generated.secret := by
    rw [hsecret, hrfc.base32] at hbytes
    exact (Except.ok.inj hbytes).symm
  refine ⟨r, sv.getD {}, bytes, _, hr, effectiveTotpParams_ok_iff.mpr ⟨sv, hsettings, rfl⟩, hbytes,
    hver, hnew, ?_, ?_⟩
  · rw [hver] at hstep
    exact hstep
  · subst hdrawn
    rw [hver, hgen]
    exact ⟨rfl, rfl, rfl, rfl, rfl⟩

theorem TotpParams.withSecret_same_iff {p q : TotpParams} {bytes bytes' : List UInt8}
    {issuer issuer' : Option String} {account account' : String} :
    (p.withSecret bytes issuer account).SameParameters (q.withSecret bytes' issuer' account') ↔
      p = q ∧ bytes = bytes' := by
  obtain ⟨algorithm, digits, skew, step⟩ := p
  obtain ⟨algorithm', digits', skew', step'⟩ := q
  simp only [Totps.SameParameters, TotpParams.withSecret, TotpParams.mk.injEq, and_assoc]

theorem loginAgrees_iff {tr : List (ServerState × Call)} {realmId : String}
    {body : TotpVerifyRequest} {generated verified : Totps} (hrfc : Rfc6238 X hotp)
    (h : EnrolledLogin X params tr s c realmId body generated verified realm client) :
    LoginAgrees X hotp c.moment s.db realm client generated verified ↔
      UsesEnrolment X s.db realm client realmId body.secret := by
  obtain ⟨r, p, bytes, issuer, hr, hp, hbytes, rfl, hnew, hstep, hsame⟩ := h.sameInstance hrfc
  rw [UsesEnrolment, hr, hbytes, Option.map_some, hp]
  constructor
  · rintro ⟨hcode, hused⟩ used hsecret
    obtain ⟨code, -, settings, t, hsettings, ht, -⟩ := secondFactor_ok_iff.mp hcode used hsecret
    obtain ⟨bytes', hbytes', rfl, hnew'⟩ := Totps.fromSecret_ok_iff.mp ht
    obtain ⟨heq, rfl⟩ := TotpParams.withSecret_same_iff.mp
      (hused _ ⟨used, settings, hsecret, hsettings, ht⟩)
    refine ⟨hbytes', ((hrfc.new _).mp hnew').2.2.2, ?_⟩
    rw [effectiveTotpParams_ok_iff.mpr ⟨settings, hsettings, heq⟩]
  · intro huses
    constructor
    · refine secondFactor_ok_iff.mpr fun used hsecret => ⟨_, rfl, ?_⟩
      obtain ⟨hbytes', hname, heffective⟩ := huses used hsecret
      obtain ⟨settings, hsettings, heq⟩ :=
        effectiveTotpParams_ok_iff.mp (Option.some.inj heffective).symm
      subst heq
      obtain ⟨hdigits, hlength, -, -⟩ := (hrfc.new _).mp hnew
      have hlogin : X.totpNew ((settings.getD {}).withSecret bytes none client.username) = .ok () :=
        (hrfc.new _).mpr ⟨hdigits, hlength, (fun _ hissuer => nomatch hissuer), hname⟩
      obtain ⟨halgorithm, hdig, hskew, hperiod, hbyt⟩ := hsame
      refine ⟨settings, _, hsettings, Totps.fromSecret_ok_iff.mpr ⟨bytes, hbytes', rfl, hlogin⟩, ?_⟩
      -- the code shown is that of the current counter, in the middle of the window
      refine (hrfc.check _ _ _).mpr ⟨hstep, _, Nat.le_add_right _ _, Nat.le_add_right _ _, ?_⟩
      rw [Totps.currentCode, halgorithm, hdig, hperiod, hbyt]
      rfl
    · rintro used ⟨secret, settings, hsecret, hsettings, ht⟩
      obtain ⟨hbytes', -, heffective⟩ := huses secret hsecret
      obtain ⟨bytes', hbytes'', rfl, -⟩ := Totps.fromSecret_ok_iff.mp ht
      rw [hbytes''] at hbytes'
      obtain ⟨settings', hsettings', heq⟩ :=
        effectiveTotpParams_ok_iff.mp (Option.some.inj heffective).symm
      rw [hsettings] at hsettings'
      cases hsettings'
      exact TotpParams.withSecret_same_iff.mpr ⟨heq, Except.ok.inj hbytes'⟩

/-- An administrator who logs in under its own id is asked for the enrolled secret, and all depends
on the settings of the two realms. -/
theorem usesEnrolment_own_id_iff {tr : List (ServerState × Call)} {realmId : String}
    {body : TotpVerifyRequest} {generated verified : Totps} (hrfc : Rfc6238 X hotp)
    (h : EnrolledLogin X params tr s c realmId body generated verified realm client)
    (hname : client.username = body.username) :
    UsesEnrolment X s.db realm client realmId body.secret ↔
      (s.db.getRealm realmId).map effectiveTotpParams = some (effectiveTotpParams realm) := by
  have hsecret : loginSecret s.db client.username = some body.secret := by
    obtain ⟨admin, hfound, hid, henabled, hstored⟩ := h.enrolled
    obtain ⟨query, authorization, request, -, hauth⟩ := h.login
    obtain ⟨row, hrow, hcredential, rfl⟩ :=
      Database.mem_findAdminsByAuthScheme.mp (List.mem_of_mem_head? hfound)
    -- a login is by password or by token, and the row has the column for it
    have hcolumn : row.userpass.isSome = true ∨ row.jwt.isSome = true := by
      rcases primaryAuth_ok_cases hauth with ⟨_, _, -, -, rfl⟩ | ⟨hscheme, -⟩
      · exact .inl (Option.isSome_of_eq_some hcredential)
      · rw [hscheme] at hcredential
        exact .inr (Option.isSome_of_eq_some hcredential)
    have htarget : row.totpTarget client.username = true := by
      have hrowid : row.id = client.username := hid.trans hname.symm
      simp [AdminRow.totpTarget, hrowid, hcolumn]
    have hflag : row.totpEnabled = some true := henabled
    have hvalue : row.totpSecret = some body.secret := hstored
    rw [loginSecret, Database.find?_totpTarget hrow htarget]
    simp [AdminRow.enrolledSecret, hflag, hvalue]
  obtain ⟨r, p, bytes, issuer, -, -, hbytes, rfl, hnew, -, -⟩ := h.sameInstance hrfc
  have hcolon : ':' ∉ client.username.toList := hname ▸ ((hrfc.new _).mp hnew).2.2.2
  rw [UsesEnrolment, hsecret]
  constructor
  · intro huses
    exact (huses _ rfl).2.2
  · rintro hsettings used hused
    cases hused
    exact ⟨rfl, hcolon, hsettings⟩

/-- Along a run, every login of an enrolled administrator takes the code that its authenticator
shows, under the settings of the enrolment, exactly when every one finds the enrolled secret and
equal settings. -/
theorem totp_agreement_iff (X : Externals) (params : ServerParams) (hotp : Hotp)
    (hrfc : Rfc6238 X hotp) (start : ServerState) (calls : List Call) :
    Along (step X params) start (AgreesAfter X params hotp) calls ↔
      Along (step X params) start (MatchesAfter X params) calls := by
  unfold Along AgreesAfter MatchesAfter
  constructor
  · intro h pre c post hcalls realmId body generated verified realm client he
    exact (loginAgrees_iff hrfc he).mp (h pre c post hcalls _ _ _ _ _ _ he)
  · intro h pre c post hcalls realmId body generated verified realm client he
    exact (loginAgrees_iff hrfc he).mpr (h pre c post hcalls _ _ _ _ _ _ he)

end
namespace Transparent

def algorithmText : TotpAlgorithm → String
  | .sha1 => "SHA1"
  | .sha256 => "SHA256"
  | .sha512 => "SHA512"

def clearHotp : Hotp := fun algorithm secret digits counter =>
  algorithmText algorithm ++ "." ++ String.ofList (secret.map (fun b => Char.ofNat b.toNat)) ++ "."
    ++ toString digits ++ "." ++ toString counter

def timed : Externals :=
  { externals with
    secretToBytes := fun s => .ok (s.toList.map fun c => UInt8.ofNat c.toNat)
    secretToBase32 := fun bytes => String.ofList (bytes.map fun b => Char.ofNat b.toNat)
    totpUrl := fun t => "otpauth://totp/" ++ t.accountName ++ "?secret="
      ++ String.ofList (t.secret.map fun b => Char.ofNat b.toNat)
    checkCurrent := fun t now token =>
      0 < t.step && (List.range (2 * t.skew + 1)).any fun i =>
        t.skew ≤ now.toNat / t.step + i &&
          token == clearHotp t.algorithm t.secret t.digits (now.toNat / t.step + i - t.skew) }

theorem timed_rfc6238 : Rfc6238 timed clearHotp where
  new := fun t => by simp [timed, externals, and_assoc]
  check := fun t now token => by
    simp only [timed, Bool.and_eq_true, decide_eq_true_eq, List.any_eq_true, List.mem_range,
      beq_iff_eq]
    refine and_congr_right fun _ => ?_
    constructor
    · rintro ⟨i, hi, hskew, htoken⟩
      exact ⟨_, by omega, by omega, htoken⟩
    · rintro ⟨counter, hlow, hhigh, htoken⟩
      refine ⟨counter + t.skew - now.toNat / t.step, by omega, by omega, ?_⟩
      rw [htoken]
      congr 1
      omega
  base32 := fun bytes => by
    simp [timed, externals, Function.comp_def, ofNat_clearByte]

def drawnSecret : List UInt8 :=
  [97, 98, 99, 100, 101, 102, 103, 104, 105, 106, 107, 108, 109, 110, 111, 112]

def sha256Realm : Realm :=
  { id := "r", authParams := { totpParams := some ⟨"SHA256", 60⟩ }, sessionMaxAgeSeconds := 3600
    sessionMaxStaleAgeSeconds := 3600 }

def sha256Instance : Totps := ⟨.sha256, 6, 1, 60, drawnSecret, some "r", "admin"⟩

def generateCall : Call :=
  ⟨{ moment 1002 with totpSecret := drawnSecret },
    .admin "" (some rootCookie) (.totpGenerate "r" { username := "admin" })⟩

def verifyBody : TotpVerifyRequest :=
  { username := "admin", token := sha256Instance.currentCode clearHotp 1003
    secret := "abcdefghijklmnop" }

def verifyCall : Call := asRoot 1003 (.totpVerify "r" verifyBody)

def enrolmentRun : List Call :=
  [rootLogin, asRoot 1001 (.createRealm sha256Realm), generateCall, verifyCall]

def enrolledLogin : Call := ⟨moment 1004, .login "realm=_" rootHeader {}⟩

def enrolledState : ServerState := run (step timed params) start enrolmentRun

def enrolledAdmin : Admin :=
  { Database.adminRealmAdmin with
    totpEnabled := some true, totpSecret := some verifyBody.secret
    totpAuthUrl := some "otpauth://totp/admin?secret=abcdefghijklmnop" }

/-- The state before the generation and the one before the verification. -/
def generatingState : ServerState := run (step timed params) start (enrolmentRun.take 2)

def verifyingState : ServerState := run (step timed params) start (enrolmentRun.take 3)

theorem enrolmentRun_facts :
    (handle timed params generatingState generateCall).2 = .ok
      { status := 200
        body := .totpGenerated verifyBody.secret (sha256Instance.getOtpauthUrl timed) } ∧
    generatingState.db.getRealm "r" = some sha256Realm ∧
    verifyingState.db.getRealm "r" = some sha256Realm ∧
    (handle timed params verifyingState verifyCall).2 = .ok { status := 200, body := .statusOk } ∧
    generatingState.db.realm.rows = enrolledState.db.realm.rows ∧
    verifyingState.db.realm.rows = enrolledState.db.realm.rows ∧
    (primaryAuth timed enrolledState.db enrolledState.jwks (moment 1004) "realm=_"
      rootHeader).result = .ok (some Database.adminRealmRecord, ⟨"admin", .usernamePassword⟩) ∧
    (enrolledState.db.findAdminsByAuthScheme timed .usernamePassword "admin").head? =
      some enrolledAdmin ∧
    (enrolledState.db.getRealm "r").map effectiveTotpParams ≠
      some (effectiveTotpParams Database.adminRealmRecord) := by
  decide

theorem enrolmentRun_enrolled :
    EnrolledLogin timed params (trace (step timed params) start enrolmentRun) enrolledState
      enrolledLogin "r" verifyBody sha256Instance sha256Instance Database.adminRealmRecord
      ⟨"admin", .usernamePassword⟩ := by
  obtain ⟨hgenerate, hrealm, hrealm', hverify, hrows, hrows', hauth, hadmin, -⟩ :=
    enrolmentRun_facts
  let settings : Option TotpParams := some { algorithm := .sha256, step := 60 }
  have hsettings : realmTotpParams sha256Realm = .ok settings := by decide
  have hgenerated : GeneratedWith timed params generatingState generateCall "r" verifyBody.secret
      sha256Instance :=
    ⟨"", some rootCookie, { username := "admin" }, sha256Realm, settings, rfl, hgenerate, hrealm,
      hsettings, by decide⟩
  have hverified : VerifiedWith timed params verifyingState verifyCall "r" verifyBody
      sha256Instance :=
    ⟨"", some rootCookie, sha256Realm, settings, rfl, hverify, hrealm', hsettings,
      by decide⟩
  have hsame : SameTotpSettings generatingState.db enrolledState.db := .of_rows hrows
  have hsame' : SameTotpSettings verifyingState.db enrolledState.db := .of_rows hrows'
  have hgeneration : (generatingState, generateCall) ∈
      trace (step timed params) start enrolmentRun :=
    mem_trace_of_split _ (enrolmentRun.take 2) [verifyCall] rfl
  have hverification : (verifyingState, verifyCall) ∈
      trace (step timed params) start enrolmentRun :=
    mem_trace_of_split _ (enrolmentRun.take 3) [] rfl
  -- from here on the two states are just states, not to be computed again
  generalize generatingState = s₁ at hgeneration hgenerated hsame
  generalize verifyingState = s₂ at hverification hverified hsame'
  exact ⟨⟨_, hgeneration, hgenerated, hsame⟩, ⟨_, hverification, hverified, hsame'⟩,
    ⟨_, _, _, rfl, hauth⟩, rfl, ⟨enrolledAdmin, hadmin, rfl, rfl, rfl⟩⟩

/-- Root enrols with SHA256 and a period of a minute, and its login wants SHA1 and half a minute. -/
theorem enrolled_admin_locked_out :
    ¬ Along (step timed params) start (AgreesAfter timed params clearHotp)
      (enrolmentRun ++ [enrolledLogin]) := by
  intro h
  have hagrees := h enrolmentRun enrolledLogin [] rfl _ _ _ _ _ _ enrolmentRun_enrolled
  have huses := (loginAgrees_iff timed_rfc6238 enrolmentRun_enrolled).mp hagrees
  have hsettings :=
    (usesEnrolment_own_id_iff timed_rfc6238 enrolmentRun_enrolled rfl).mp huses
  obtain ⟨-, -, -, -, -, -, -, -, hdiffer⟩ := enrolmentRun_facts
  exact hdiffer hsettings

theorem totp_agreement_iff_enrolled :
    (Along (step timed params) start (AgreesAfter timed params clearHotp)
        (enrolmentRun ++ [enrolledLogin]) ↔
      Along (step timed params) start (MatchesAfter timed params)
        (enrolmentRun ++ [enrolledLogin])) ∧
    Rfc6238 timed clearHotp :=
  ⟨totp_agreement_iff timed params clearHotp timed_rfc6238 start
    (enrolmentRun ++ [enrolledLogin]), timed_rfc6238⟩

end Transparent
end AuthVerifier
