import AuthVerifier.Lib.JsonStrings
import AuthVerifier.RealmClaim
import AuthVerifier.SentStatements

/-!
Keys are compared twice: by the authorization code as Rust strings, and by the database under the
collation of its key columns. Where a collation joins different texts, the realm that was checked
need not be the realm whose rows a statement meets.
-/

set_option autoImplicit false

namespace AuthVerifier
open Effects Relational Schedule Prog

theorem any_congr {α : Type} {p p' : α → Bool} {l : List α} (h : ∀ x ∈ l, p x = p' x) :
    l.any p = l.any p' := by
  induction l with
  | nil => rfl
  | cons x l ih =>
    rw [List.any_cons, List.any_cons, h x List.mem_cons_self,
      ih fun y hy => h y (List.mem_cons_of_mem x hy)]

theorem filter_not_congr {α : Type} {p p' : α → Bool} {l : List α} (h : ∀ x ∈ l, p x = p' x) :
    (l.filter fun x => !p x) = l.filter fun x => !p' x :=
  List.filter_congr fun x hx => by rw [h x hx]

theorem update_congr {α : Type} {p p' : α → Bool} {f : α → α} {l : List α}
    (h : ∀ x ∈ l, p x = p' x) :
    (l.map fun x => if p x then f x else x) = l.map fun x => if p' x then f x else x :=
  List.map_congr_left fun x hx => by rw [h x hx]

namespace Query
variable {same same' : List String → List String → Bool} {s : Rows}

def AgreeOn {ρ : Type} (same same' : List String → List String → Bool) (key : List String)
    (stored : ρ → List String) (rows : List ρ) : Prop :=
  ∀ r ∈ rows, same key (stored r) = same' key (stored r)

theorem agreeOn {ρ : Type} {key : List String} {stored : ρ → List String} {rows : List ρ}
    (h : ∀ c ∈ against key stored rows, same c.1 c.2 = same' c.1 c.2) :
    AgreeOn same same' key stored rows := fun _ hr => h _ (List.mem_map_of_mem hr)

theorem isEntry_congr {realm username : String}
    (h : ∀ c ∈ against [realm, username] (fun r => [r.realm, r.username]) s.userpass,
      same c.1 c.2 = same' c.1 c.2) :
    ∀ r ∈ s.userpass, isEntry same realm username r = isEntry same' realm username r := agreeOn h

theorem setUserpass_congr {realm username : String}
    (h : ∀ c ∈ against [realm, username] (fun r => [r.realm, r.username]) s.userpass,
      same c.1 c.2 = same' c.1 c.2) (f : UserPassRow → UserPassRow) :
    setUserpass same s realm username f = setUserpass same' s realm username f := by
  unfold setUserpass
  rw [update_congr (isEntry_congr h)]

theorem setAdmin_congr {id : String}
    (h : ∀ c ∈ against [id] (fun r => [r.id]) s.admin, same c.1 c.2 = same' c.1 c.2)
    (p : AdminRow → Bool) (f : AdminRow → AdminRow) :
    setAdmin same s id p f = setAdmin same' s id p f := by
  unfold setAdmin
  rw [update_congr fun r hr => by rw [agreeOn h r hr]]

theorem exec_congr {takes : Bool} {q : Query}
    (h : ∀ c ∈ q.comparisons s, same c.1 c.2 = same' c.1 c.2) :
    q.exec same takes s = q.exec same' takes s := by
  cases q with
  | insertRealm realm => simp only [exec, any_congr (agreeOn h)]
  | selectRealm id => simp only [exec, find?_congr (agreeOn h)]
  | updateRealm realm => simp only [exec, update_congr (agreeOn h)]
  | deleteRealm id =>
    simp only [comparisons, List.forall_mem_append] at h
    simp only [exec, filter_not_congr (agreeOn h.1.1), filter_not_congr (agreeOn h.1.2),
      filter_not_congr (agreeOn h.2)]
  | selectRealms => rfl
  | insertUserpass u =>
    simp only [comparisons, List.forall_mem_append] at h
    simp only [exec, any_congr (isEntry_congr h.1), any_congr (agreeOn h.2)]
  | selectUserpass realm username => simp only [exec, find?_congr (isEntry_congr h)]
  | selectPassword realm username => simp only [exec, find?_congr (isEntry_congr h)]
  | updateUserpass u => simp only [exec, setUserpass_congr h]
  | updateUserpassMetadata realm username changePassword roles =>
    simp only [exec, setUserpass_congr h]
  | deleteUserpass realm username => simp only [exec, filter_not_congr (isEntry_congr h)]
  | deleteUserpassByUsername username => simp only [exec, filter_not_congr (agreeOn h)]
  | selectUserpassByRealm realm => simp only [exec, List.filter_congr (agreeOn h)]
  | selectAllUserpass => rfl
  | insertAdmin a => simp only [exec, any_congr (agreeOn h)]
  | selectAdmin id => simp only [exec, find?_congr (agreeOn h)]
  | updateAdmin a => simp only [exec, setAdmin_congr h]
  | deleteAdmin id =>
    simp only [comparisons, List.forall_mem_append] at h
    simp only [exec, filter_not_congr (agreeOn h.1), filter_not_congr (agreeOn h.2)]
  | selectAdmins => rfl
  | selectAdminIdsByUserpass username =>
    have hname : ∀ r ∈ s.admin, (r.userpass.any fun name => same [username] [name]) =
        r.userpass.any fun name => same' [username] [name] := by
      intro r hr
      cases hu : r.userpass with
      | none => rfl
      | some name => exact agreeOn h name (List.mem_filterMap.mpr ⟨r, hr, hu⟩)
    simp only [exec, List.filter_congr hname]
  | insertMembership adminId realmId =>
    simp only [comparisons, List.forall_mem_append] at h
    simp only [exec, any_congr (agreeOn h.1.1), any_congr (agreeOn h.1.2), any_congr (agreeOn h.2)]
  | selectMemberships adminId => simp only [exec, List.filter_congr (agreeOn h)]
  | deleteMemberships adminId => simp only [exec, filter_not_congr (agreeOn h)]
  | enableTotp username secret url => simp only [exec, setAdmin_congr h]
  | disableTotp username => simp only [exec, setAdmin_congr h]
  | selectTotpSecret username =>
    simp only [exec]
    rw [find?_congr fun r hr => by rw [agreeOn h r hr]]
  | selectTotpEnabled username =>
    simp only [exec]
    rw [find?_congr fun r hr => by rw [agreeOn h r hr]]

theorem insertRow_inj {t t' taken referenced : Bool} {inserted : Rows}
    (h : insertRow t taken referenced s inserted = insertRow t' taken referenced s inserted) :
    t = t' := by
  cases t <;> cases t' <;> cases taken <;> cases referenced <;> simp_all [insertRow]

end Query

namespace Dialect
variable {D : Dialect} {q : Query} {s : Rows}

theorem exec_of_exact (h : D.Exact q s) : D.exec q s = q.exec sqlite.same (D.takes q) s := by
  refine Query.exec_congr fun c hc => ?_
  rw [same_sqlite, Bool.eq_iff_iff, decide_eq_true_iff]
  exact h c hc

theorem takes_of_exec (h : q.exec sqlite.same (D.takes q) s = sqlite.exec q s) :
    D.takes q = sqlite.takes q := by
  cases q with
  | insertRealm realm => exact Query.insertRow_inj h
  | insertUserpass u => exact Query.insertRow_inj h
  | insertAdmin a => exact Query.insertRow_inj h
  | insertMembership adminId realmId => exact Query.insertRow_inj h
  | _ => rfl

theorem key_of_matched {ρ : Type} {key : List String} {stored : ρ → List String} {rows : List ρ}
    {realm : ρ → String} {touched : String}
    (h : ∀ c ∈ Query.against key stored rows, D.same c.1 c.2 = true ↔ c.1 = c.2)
    (ht : touched ∈ (rows.filter fun r => D.same key (stored r)).map realm) :
    ∃ r, key = stored r ∧ realm r = touched := by
  simp only [List.mem_map, List.mem_filter] at ht
  obtain ⟨r, ⟨hr, hsame⟩, hrealm⟩ := ht
  exact ⟨r, (h _ (List.mem_map_of_mem hr)).mp hsame, hrealm⟩

theorem realmKey_of_touched (h : D.Exact q s) {touched : String}
    (ht : touched ∈ q.realmsTouched D.same s) : q.realmKey = some touched := by
  unfold Exact at h
  cases q with
  | insertRealm realm =>
    rcases List.mem_cons.mp ht with rfl | ht
    · rfl
    · obtain ⟨r, hkey, rfl⟩ := key_of_matched h ht
      simpa [Query.realmKey] using hkey
  | selectRealm id =>
    obtain ⟨r, hkey, rfl⟩ := key_of_matched h ht
    simpa [Query.realmKey] using hkey
  | updateRealm realm =>
    obtain ⟨r, hkey, rfl⟩ := key_of_matched h ht
    simpa [Query.realmKey] using hkey
  | deleteRealm id =>
    simp only [Query.comparisons, List.forall_mem_append] at h
    simp only [Query.realmsTouched, List.mem_append] at ht
    rcases ht with (ht | ht) | ht
    · obtain ⟨r, hkey, rfl⟩ := key_of_matched h.1.1 ht
      simpa [Query.realmKey] using hkey
    · obtain ⟨r, hkey, rfl⟩ := key_of_matched h.1.2 ht
      simpa [Query.realmKey] using hkey
    · obtain ⟨r, hkey, rfl⟩ := key_of_matched h.2 ht
      simpa [Query.realmKey] using hkey
  | insertUserpass u =>
    simp only [Query.comparisons, List.forall_mem_append] at h
    simp only [Query.realmsTouched, List.mem_cons, List.mem_append] at ht
    rcases ht with rfl | ht | ht
    · rfl
    · obtain ⟨r, hkey, rfl⟩ := key_of_matched h.1 ht
      simp only [List.cons.injEq] at hkey
      simp [Query.realmKey, hkey.1]
    · obtain ⟨r, hkey, rfl⟩ := key_of_matched h.2 ht
      simpa [Query.realmKey] using hkey
  | selectUserpass realm username | selectPassword realm username
  | updateUserpassMetadata realm username _ _ | deleteUserpass realm username =>
    obtain ⟨r, hkey, rfl⟩ := key_of_matched h ht
    simp only [List.cons.injEq] at hkey
    simp [Query.realmKey, hkey.1]
  | updateUserpass u =>
    obtain ⟨r, hkey, rfl⟩ := key_of_matched h ht
    simp only [List.cons.injEq] at hkey
    simp [Query.realmKey, hkey.1]
  | selectUserpassByRealm realm =>
    obtain ⟨r, hkey, rfl⟩ := key_of_matched h ht
    simpa [Query.realmKey] using hkey
  | _ => simp [Query.realmsTouched] at ht

end Dialect

namespace Sent
variable {id : String} {requester : Admin} {s : Rows}

/-- A statement names no realm but this one where it reads or writes records and credentials. -/
def About (id : String) (sent : Sent) : Prop :=
  ∀ v ∈ sent, ∀ key, v.1.realmKey = some key → key = id

theorem about_nil : About id [] := fun _ hv => by cases hv

theorem About.append {sent rest : Sent} (h : About id sent) (hrest : About id rest) :
    About id (sent ++ rest) := List.forall_mem_append.mpr ⟨h, hrest⟩

theorem about_cons {q : Query} {rest : Sent} (hq : ∀ key, q.realmKey = some key → key = id)
    (h : About id rest) : About id ((q, s) :: rest) := List.forall_mem_cons.mpr ⟨hq, h⟩

theorem about_unnamed {q : Query} {rest : Sent} (hq : q.realmKey = none) (h : About id rest) :
    About id ((q, s) :: rest) := about_cons (fun _ hkey => by cases hq.symm.trans hkey) h

theorem about_named {q : Query} {rest : Sent} (hq : q.realmKey = some id) (h : About id rest) :
    About id ((q, s) :: rest) :=
  about_cons (fun _ hkey => (Option.some.inj (hq.symm.trans hkey)).symm) h

theorem About.ite {b : Bool} {sent rest : Sent} (h : About id sent) (hrest : About id rest) :
    About id (if b then sent else rest) := by
  cases b with
  | true => exact h
  | false => exact hrest

theorem about_listing : About id (listing s) := by
  refine about_unnamed rfl fun v hv key hkey => ?_
  obtain ⟨row, _, rfl⟩ := List.mem_map.mp hv
  cases hkey

theorem about_deciding (realm : String) : About id (deciding requester s realm) :=
  about_nil.ite about_listing

theorem about_decidingEach (rs : List String) : About id (decidingEach requester s rs) := by
  induction rs with
  | nil => exact about_nil
  | cons r rs ih => exact (about_deciding r).append (ih.ite about_nil)

theorem about_decidingAll (rs : List String) : About id (decidingAll requester s rs) :=
  about_nil.ite (about_decidingEach rs)

theorem about_reading (adminId : String) : About id (reading s adminId) :=
  about_unnamed rfl (About.ite (about_unnamed rfl about_nil) about_nil)

theorem about_joining (adminId : String) (rs : List String) (s : Rows) :
    About id (joining adminId rs s) := by
  induction rs generalizing s with
  | nil => exact about_nil
  | cons r rs ih => exact about_unnamed rfl ((ih _).ite about_nil)

theorem about_storing (a : Admin) : About id (storing s a) :=
  about_unnamed rfl (about_unnamed rfl (about_joining _ _ _))

theorem about_managing {realm : String} {next : Sent} (h : About id next) :
    About id (managing requester s realm next) :=
  (about_deciding realm).append (h.ite about_nil)

theorem about_owning {realms : List String} {next : Sent} (h : About id next) :
    About id (owning requester s realms next) :=
  (about_decidingAll realms).append (h.ite about_nil)

theorem about_finding {adminId : String} {next : Admin → Sent}
    (h : ∀ admin, About id (next admin)) : About id (finding s adminId next) := by
  refine (about_reading adminId).append ?_
  cases s.findAdmin adminId with
  | none => exact about_nil
  | some admin => exact h admin

theorem about_relinking (realm username : String) (relinked : Admin → Option Admin) :
    About id (relinking s realm username relinked) := by
  unfold relinking
  split
  · refine about_finding fun admin => ?_
    cases relinked admin with
    | none => exact about_nil
    | some admin => exact about_storing admin
  · exact about_nil

variable {X : Externals} {params : ServerParams}

theorem about_creatingUserpass (salt realm : String) (body : UserPass) :
    About realm (creatingUserpass X requester s salt realm body) := by
  refine about_managing ?_
  cases checkExtraClaims X body.extraClaims with
  | error e => exact about_nil
  | ok _ => cases Endpoints.createdHash X salt body.passwordInput with
    | error e => exact about_nil
    | ok hash => exact about_named rfl ((about_relinking _ _ _).ite about_nil)

theorem about_updatingUserpass (salt realm username : String) (body : UserPass) :
    About realm (updatingUserpass X requester s salt realm username body) := by
  refine about_managing ?_
  cases checkExtraClaims X body.extraClaims with
  | error e => exact about_nil
  | ok _ =>
    dsimp only
    cases body.passwordInput with
    | none =>
      dsimp only
      cases body.extraClaims with
      | none => exact about_named rfl about_nil
      | some requested => exact about_named rfl (about_nil.ite (about_named rfl about_nil))
    | some input => cases input with
      | plaintext plaintext =>
        dsimp only
        cases hashPasswordWithArgon2 X salt plaintext with
        | error e => exact about_nil
        | ok hash => exact about_named rfl about_nil
      | hashed hashed =>
        dsimp only
        cases validateArgon2PhcString X hashed with
        | error e => exact about_nil
        | ok _ => exact about_named rfl about_nil

theorem about_verifyingTotp (now : Int) (realm : String) (body : TotpVerifyRequest) :
    About realm (verifyingTotp X requester s now realm body) := by
  refine about_managing (about_named rfl ?_)
  cases Statements.totpAccepts X now realm body (s.findRealm realm) with
  | error e => exact about_nil
  | ok _ => cases Totps.fromSecret X body.secret (some realm) body.username none with
    | error e => exact about_nil
    | ok totps => exact about_unnamed rfl about_nil

theorem about_administering {c : AdminCall}
    (h : (KeyedRequest.administer c).realmId = some id) :
    About id (administering X params s c) := by
  obtain ⟨m, requester, request⟩ := c
  cases request with
  | addAdminToRealm adminId realm =>
    refine about_managing (about_finding fun admin => ?_)
    have hadded : About id (if admin.realms.contains realm then []
        else storing s { admin with realms := admin.realms ++ [realm] }) :=
      about_nil.ite (about_storing _)
    exact hadded.ite (about_owning hadded)
  | removeAdminFromRealm adminId realm =>
    refine about_managing (about_finding fun admin => about_owning ?_)
    split
    · exact about_storing _
    · exact about_nil
  | createRealm body =>
    cases h
    refine About.ite ?_ about_nil
    cases hc : Endpoints.checkSamlParams X params body with
    | error e => exact about_nil
    | ok realm => exact about_named (congrArg some (checkSamlParams_id hc)) about_nil
  | updateRealm realm body =>
    cases h
    refine about_managing ?_
    cases hc : Endpoints.checkSamlParams X params { body with id := id } with
    | error e => exact about_nil
    | ok updated => exact about_named (congrArg some (checkSamlParams_id hc)) about_nil
  | getRealm realm | deleteRealm realm =>
    cases h
    exact About.ite (about_named rfl about_nil) about_nil
  | createUserpass realm body =>
    cases h
    exact about_creatingUserpass m.salt _ body
  | getUserpass realm username =>
    cases h
    exact about_managing (about_named rfl about_nil)
  | updateUserpass realm username body =>
    cases h
    exact about_updatingUserpass m.salt _ username body
  | deleteUserpass realm username =>
    cases h
    exact about_managing (about_named rfl (about_relinking _ _ _))
  | listUserpassByRealm realm | totpGenerate realm body =>
    cases h
    exact about_managing (about_named rfl about_nil)
  | totpVerify realm body =>
    cases h
    exact about_verifyingTotp m.now _ body
  | totpDisable realm username => exact about_managing (about_unnamed rfl about_nil)
  | _ => cases h

theorem about_ofRequest {r : KeyedRequest} (h : r.realmId = some id) :
    About id (ofRequest X params s r) := by
  cases r with
  | administer c => exact about_administering h
  | grantedClaims realm username | realmRecord realm =>
    cases h
    exact about_named rfl about_nil
  | _ => cases h

end Sent

def IdpParams.texts (p : IdpParams) : List String :=
  p.jwtIssuerUri :: p.jwksUri :: p.jwtAudience.toList

def SamlParams.texts (p : SamlParams) : List String :=
  [p.idpEntityId, p.idpSsoUrl, p.spEntityId, p.spAcsUrl, p.defaultReturnUrl]
    ++ p.idpSigningCertificates ++ p.allowedReturnOrigins
    ++ p.attributeClaimMap.flatMap (fun entry => [entry.1, entry.2])
    ++ [p.idpNameidFormat, p.metadataXml, p.subjectAttribute, p.roleAttribute].flatMap Option.toList

def RealmAuthParams.texts (p : RealmAuthParams) : List String :=
  (p.jwtParams.map JwtParams.idpParams).getD [] |>.flatMap IdpParams.texts
    |>.append (p.totpParams.map TotpRealmParams.algorithm).toList
    |>.append (p.samlParams.map SamlParams.texts |>.getD [])

def Admin.texts (a : Admin) : List String :=
  a.id :: [a.userpass, a.jwt, a.fido2, a.clientCertificate, a.totpSecret,
      a.totpAuthUrl].flatMap Option.toList
    ++ (a.digitalCredentials.getD []).flatMap fun entry => [entry.1, entry.2]

/-- What a statement binds to `TEXT` and `JSONB` columns; the JSON texts it binds to a `TEXT` column
have no control characters. -/
def Query.texts : Query → List String
  | .insertRealm realm | .updateRealm realm => realm.id :: realm.authParams.texts
  | .insertUserpass u | .updateUserpass u => [u.realm, u.username]
  | .selectUserpass realm username | .selectPassword realm username
  | .updateUserpassMetadata realm username _ _ | .deleteUserpass realm username =>
    [realm, username]
  | .insertAdmin a | .updateAdmin a => a.texts
  | .insertMembership adminId realmId => [adminId, realmId]
  | .enableTotp username secret url => [username, secret, url]
  | .selectRealm id | .deleteRealm id | .selectUserpassByRealm id | .deleteUserpassByUsername id
  | .selectAdmin id | .deleteAdmin id | .selectAdminIdsByUserpass id | .selectMemberships id
  | .deleteMemberships id | .disableTotp id | .selectTotpSecret id | .selectTotpEnabled id => [id]
  | .selectRealms | .selectAllUserpass | .selectAdmins => []

namespace Query

/-- The keys of the row that an insertion adds to an index. -/
def indexed : Query → List String
  | .insertRealm realm => [realm.id]
  | .insertUserpass u => [u.realm, u.username]
  | .insertAdmin a => [a.id]
  | .insertMembership adminId realmId => [adminId, realmId]
  | _ => []

/-- The width of `TEXT` and `BLOB` columns in MySQL. -/
def maxText : Nat := 65535

def rolesFit (roles : List String) : Bool :=
  (String.ofList (JsonStrings.write (roles.map String.toList))).utf8ByteSize ≤ maxText

/-- `BIGINT UNSIGNED`. -/
def agesFit (realm : Realm) : Bool :=
  0 ≤ realm.sessionMaxAgeSeconds && 0 ≤ realm.sessionMaxStaleAgeSeconds
    && 0 ≤ realm.certificateMaxAgeSeconds

def entryFits (X : Externals) (u : UserPass) : Bool :=
  u.passwordHash.utf8ByteSize ≤ maxText && rolesFit u.roles
    && u.extraClaims.all fun claims => X.extraClaimsSize claims ≤ maxText

def adminFits (a : Admin) : Bool :=
  (a.userpass.all fun text => text.length ≤ 255)
    && (a.totpSecret.all fun text => text.length ≤ 4096)
    && [a.jwt, a.fido2, a.clientCertificate, a.totpAuthUrl].all fun text =>
      text.all fun text => text.utf8ByteSize ≤ maxText

/-- An update stores its values only in the rows it meets. -/
def fits (X : Externals) (same : List String → List String → Bool) : Query → Rows → Bool
  | .insertRealm realm, _ => agesFit realm
  | .updateRealm realm, s =>
    agesFit realm || !(s.realm.any fun r => same [realm.id] [r.id])
  | .insertUserpass u, _ => entryFits X u
  | .updateUserpass u, s =>
    entryFits X u || !(s.userpass.any (isEntry same u.realm u.username))
  | .updateUserpassMetadata realm username _ roles, s =>
    rolesFit roles || !(s.userpass.any (isEntry same realm username))
  | .insertAdmin a, _ => adminFits a
  | .updateAdmin a, s => adminFits a || !(s.admin.any fun r => same [a.id] [r.id])
  | .enableTotp username secret url, s =>
    secret.length ≤ 4096 && url.utf8ByteSize ≤ maxText
      || !(s.admin.any fun r => same [username] [r.id] && hasLogin r)
  | _, _ => true

end Query

/-- A dialect, and whether the engine carries a statement out, given the rows it meets: no value of
the statement is one that cannot be sent, or stored in a column that is no key. -/
structure Engine extends Dialect where
  accepts : Query → Rows → Bool

namespace Engine

def sqlite : Engine := { toDialect := Dialect.sqlite, accepts := fun _ _ => true }

/-- No text may hold `NUL`, and an inserted key has to fit into a page of its index. -/
def postgres (fitsPage : List String → Bool) : Engine where
  toDialect := Dialect.postgres
  accepts := fun q _ => (q.texts.all fun text => !text.toList.contains '\x00')
    && (q.indexed.isEmpty || fitsPage q.indexed)

def mysql {W : Type} [DecidableEq W] (X : Externals) (collation : String → W)
    (takesRealmId : String → Bool) : Engine where
  toDialect := Dialect.mysql collation takesRealmId
  accepts := Query.fits X (Dialect.mysql collation takesRealmId).same

variable {E : Engine} {q : Query} {s : Rows}

def answers (E : Engine) (q : Query) (s : Rows) : Rows × Option q.Answer :=
  if E.accepts q s then answered E.exec q s else (s, none)

theorem accepts_of_answers (h : E.answers q s = answered Dialect.sqlite.exec q s) :
    E.accepts q s = true ∧ E.exec q s = Dialect.sqlite.exec q s := by
  unfold answers at h
  cases haccepts : E.accepts q s with
  | false =>
    rw [haccepts] at h
    cases congrArg Prod.snd h
  | true =>
    rw [haccepts, if_pos rfl] at h
    simp only [answered, Prod.mk.injEq, Option.some.injEq] at h
    exact ⟨rfl, Prod.ext h.1 h.2⟩

theorem agrees_iff : (E.Exact q s ∧ E.answers q s = answered Dialect.sqlite.exec q s) ↔
    (∀ c ∈ q.comparisons s, E.same c.1 c.2 = true → c.1 = c.2) ∧
      E.takes q = Dialect.sqlite.takes q ∧ E.accepts q s = true := by
  constructor
  · rintro ⟨hexact, hanswers⟩
    obtain ⟨haccepts, hexec⟩ := accepts_of_answers hanswers
    refine ⟨fun c hc => (hexact c hc).mp, ?_, haccepts⟩
    exact Dialect.takes_of_exec ((Dialect.exec_of_exact hexact).symm.trans hexec)
  · rintro ⟨hspelt, htakes, haccepts⟩
    have hexact : E.Exact q s := fun c hc => ⟨hspelt c hc, fun h => by rw [h, E.same_self]⟩
    refine ⟨hexact, ?_⟩
    have hexec : E.exec q s = Dialect.sqlite.exec q s := by
      rw [Dialect.exec_of_exact hexact, htakes]
      rfl
    rw [answers, haccepts, if_pos rfl, answered, hexec, answered]

end Engine

/-- What the keys of a request promise on an engine, beginning with these rows. -/
structure KeysHold (X : Externals) (params : ServerParams) (E : Engine) (r : KeyedRequest)
    (s : Rows) : Prop where
  /-- A lookup or write matches a stored row exactly when their keys are equal as strings. -/
  exact : ∀ v ∈ (r.queries X params).attempts E.answers s, E.Exact v.1 v.2
  /-- The realm that was decided on is the one whose rows are read or changed. -/
  decided : ∀ realmId, r.realmId = some realmId → ∀ v ∈ (r.queries X params).attempts E.answers s,
    ∀ touched ∈ v.1.realmsTouched E.same v.2, touched = realmId
  /-- Every statement returns and leaves the rows it does on SQLite. -/
  rows : ∀ v ∈ (r.queries X params).attempts E.answers s,
    E.answers v.1 v.2 = answered Dialect.sqlite.exec v.1 v.2
  /-- So does the request. -/
  answer : (r.queries X params).attempt E.answers s =
    (((r.queries X params).run Dialect.sqlite.exec s).1,
      some ((r.queries X params).run Dialect.sqlite.exec s).2)

/-- The keys that a request sends, each with the stored keys it is compared with. -/
def comparedKeys (X : Externals) (params : ServerParams) (r : KeyedRequest) (s : Rows) :
    List (List String × List String) :=
  (Sent.ofRequest X params s r).flatMap fun v => v.1.comparisons v.2

/-- No key of the request meets another spelling of it, and its values are taken as on SQLite. -/
structure KeysTold (X : Externals) (params : ServerParams) (E : Engine) (r : KeyedRequest)
    (s : Rows) : Prop where
  spelt : ∀ c ∈ comparedKeys X params r s, E.same c.1 c.2 = true → c.1 = c.2
  taken : ∀ v ∈ Sent.ofRequest X params s r, E.takes v.1 = Dialect.sqlite.takes v.1
  accepted : ∀ v ∈ Sent.ofRequest X params s r, E.accepts v.1 v.2 = true

section
variable {X : Externals} {params : ServerParams} {E : Engine} {r : KeyedRequest} {s : Rows}

theorem KeysTold.keysHold (h : KeysTold X params E r s) : KeysHold X params E r s := by
  have hagree : ∀ v ∈ (r.queries X params).visits Dialect.sqlite.exec s, E.Exact v.1 v.2 ∧
      E.answers v.1 v.2 = answered Dialect.sqlite.exec v.1 v.2 := by
    rw [Sent.visits_queries]
    intro v hv
    refine Engine.agrees_iff.mpr ⟨fun c hc => ?_, h.taken v hv, h.accepted v hv⟩
    exact h.spelt c (List.mem_flatMap.mpr ⟨v, hv, hc⟩)
  obtain ⟨hattempts, hrun⟩ := attempt_of_visits fun v hv => (hagree v hv).2
  rw [← hattempts] at hagree
  refine ⟨fun v hv => (hagree v hv).1, ?_, fun v hv => (hagree v hv).2, hrun⟩
  intro realmId hr v hv touched ht
  have hkey := Dialect.realmKey_of_touched (hagree v hv).1 ht
  rw [hattempts, Sent.visits_queries] at hv
  exact Sent.about_ofRequest hr v hv touched hkey

theorem KeysHold.keysTold (h : KeysHold X params E r s) : KeysTold X params E r s := by
  have hattempts := (visits_of_attempts h.rows).trans (Sent.visits_queries X params r s)
  have hagree : ∀ v ∈ Sent.ofRequest X params s r,
      (∀ c ∈ v.1.comparisons v.2, E.same c.1 c.2 = true → c.1 = c.2) ∧
        E.takes v.1 = Dialect.sqlite.takes v.1 ∧ E.accepts v.1 v.2 = true := by
    rw [← hattempts]
    exact fun v hv => Engine.agrees_iff.mp ⟨h.exact v hv, h.rows v hv⟩
  refine ⟨fun c hc => ?_, fun v hv => (hagree v hv).2.1, fun v hv => (hagree v hv).2.2⟩
  obtain ⟨v, hv, hc⟩ := List.mem_flatMap.mp hc
  exact (hagree v hv).1 c hc

end

/-- A request keeps its promise on an engine exactly when no key that it sends meets another
spelling, and the columns take its values as on SQLite. -/
theorem keysHold_iff (X : Externals) (params : ServerParams) (E : Engine) (r : KeyedRequest)
    (s : Rows) : KeysHold X params E r s ↔ KeysTold X params E r s :=
  ⟨KeysHold.keysTold, KeysTold.keysHold⟩

section
variable {X : Externals} {params : ServerParams} {E : Engine} {r : KeyedRequest} {s : Rows}

/-- Bytewise keys are told apart, so all there is to ask is what the columns take. -/
theorem keysHold_of_injective (h : Function.Injective E.weight) :
    KeysHold X params E r s ↔ ∀ v ∈ Sent.ofRequest X params s r,
      E.takes v.1 = Dialect.sqlite.takes v.1 ∧ E.accepts v.1 v.2 = true := by
  rw [keysHold_iff]
  constructor
  · exact fun htold v hv => ⟨htold.taken v hv, htold.accepted v hv⟩
  · intro htakes
    refine ⟨fun c _ hsame => ?_, fun v hv => (htakes v hv).1, fun v hv => (htakes v hv).2⟩
    exact List.map_injective_iff.mpr h (of_decide_eq_true hsame)

theorem keysHold_sqlite : KeysHold X params Engine.sqlite r s :=
  (keysHold_of_injective Function.injective_id).mpr fun _ _ => ⟨rfl, rfl⟩

def serve (X : Externals) (params : ServerParams) (E : Engine) (s : Rows) (r : KeyedRequest) :
    Rows :=
  ((r.queries X params).attempt E.answers s).1

/-- Requests whose keys are told apart, one after another, leave the rows they leave on SQLite. -/
theorem serve_run {rs : List KeyedRequest}
    (h : ∀ before r after, rs = before ++ r :: after →
      KeysTold X params E r (before.foldl (serve X params Engine.sqlite) s)) :
    rs.foldl (serve X params E) s = rs.foldl (serve X params Engine.sqlite) s := by
  induction rs generalizing s with
  | nil => rfl
  | cons r rs ih =>
    have hserve : serve X params E s r = serve X params Engine.sqlite s r :=
      congrArg Prod.fst ((h [] r rs rfl).keysHold.answer.trans keysHold_sqlite.answer.symm)
    rw [List.foldl_cons, List.foldl_cons, hserve]
    refine ih fun before r' after hsplit => ?_
    exact h (r :: before) r' after (by rw [hsplit]; rfl)

end

namespace Transparent

def mysql : Engine :=
  Engine.mysql externals (fun text => text.toList.map Char.toLower) Dialect.realmIdPattern

/-- `bob` has claimed the realm `tenant`, where `alice` has a credential. -/
def claimedRows : Rows where
  realm := [Database.adminRealmRecord, { Database.adminRealmRecord with id := "tenant" }]
  userpass := [⟨"tenant", "alice", initialHash, false, ["editor"], none⟩]
  admin := [AdminRow.ofAdmin { id := "root", realms := [], userpass := some "root" },
    AdminRow.ofAdmin { id := "bob", realms := [], userpass := some "bob" }]
  adminRealms := [⟨"root", adminRealm⟩, ⟨"bob", "tenant"⟩]

def aliceEntry : UserPass :=
  { realm := "tenant", username := "alice", passwordHash := "", changePassword := false,
    roles := ["editor"] }

/-- A super admin asks for the credential, spelling the realm one way or another. -/
def readAlice (realm : String) : AdminCall :=
  ⟨moment 1000, { id := "root", realms := [adminRealm] }, .getUserpass realm "alice"⟩

def askedOn (E : Engine) (c : AdminCall) : Option QueryHandlers.Response :=
  ((c.queries externals params).attempt E.answers claimedRows).2

/-- The administrator of the realm spells it as it is stored. -/
example : KeysHold externals params mysql (.administer
    ⟨moment 1000, { id := "bob", realms := ["tenant"] }, .getUserpass "tenant" "alice"⟩)
    claimedRows :=
  KeysTold.keysHold ⟨by decide, by decide, by decide⟩

/-- Refused under the name it was claimed by, the credential is handed out under another spelling;
bytewise keys would have found nothing. -/
theorem other_spelling_of_claimed_realm :
    askedOn mysql (readAlice "tenant") = some (.error (Endpoints.credentialsForbidden "tenant")) ∧
    askedOn mysql (readAlice "TENANT") =
      some (.ok { status := 200, body := .userpass aliceEntry }) ∧
    askedOn Engine.sqlite (readAlice "TENANT") =
      some (.error (.badRequest "User password entry for 'alice' in realm 'TENANT' not found")) ∧
    ¬ KeysHold externals params mysql (.administer (readAlice "TENANT")) claimedRows := by
  have hmysql : askedOn mysql (readAlice "TENANT") =
      some (.ok { status := 200, body := .userpass aliceEntry }) := by
    decide
  have hsqlite : askedOn Engine.sqlite (readAlice "TENANT") = some
      (.error (.badRequest "User password entry for 'alice' in realm 'TENANT' not found")) := by
    decide
  refine ⟨by decide, hmysql, hsqlite, fun h => ?_⟩
  have hanswer := hmysql.symm.trans
    ((congrArg Prod.snd (h.answer.trans keysHold_sqlite.answer.symm)).trans hsqlite)
  cases hanswer

end Transparent
end AuthVerifier
