import AuthVerifier.Server
import AuthVerifier.Transparent

/-!
Who can act as a super admin. `AdminAuth` resolves the requester from the scheme and the subject of
the session, whatever realm the session was opened in, so a login elsewhere under the name of a
super admin's credential is taken for that super admin. Without such namesakes, a super admin
is only ever injected for a session of the admin realm.
-/

set_option autoImplicit false

namespace AuthVerifier
open Effects Transition

section
variable (X : Externals) (params : ServerParams)

def SuperCredential (db : Database) (scheme : AuthScheme) (value : String) : Prop :=
  ∃ row ∈ db.admin, (⟨row.id, adminRealm⟩ : AdminRealmRow) ∈ db.adminRealms ∧
    row.credential X scheme = some value

/-- A step in which the client authenticates in another realm than the admin realm. -/
def ForeignLogin (x : ServerState × Call) (client : AuthenticatedClientScheme) : Prop :=
  ∃ token realm, Issues X params x.1 x.2.moment token realm client x.2.request ∧
    realm.id ≠ adminRealm

/-- The credentials that a request asks to put on a super admin. -/
inductive Grants (db : Database) : AdminRequest → AuthScheme → String → Prop where
  | createAdmin (body : Admin) (scheme : AuthScheme) (value : String)
      (hm : adminRealm ∈ body.realms)
      (hv : (AdminRow.ofAdmin body).credential X scheme = some value) :
      Grants db (.createAdmin body) scheme value
  | updateAdmin (id : String) (body : Admin) (scheme : AuthScheme) (value : String)
      (hm : adminRealm ∈ body.realms)
      (hv : (AdminRow.ofAdmin body).credential X scheme = some value) :
      Grants db (.updateAdmin id body) scheme value
  | addAdminToRealm (id : String) (target : Admin) (scheme : AuthScheme) (value : String)
      (ht : db.getAdmin id = some target)
      (hv : (AdminRow.ofAdmin target).credential X scheme = some value) :
      Grants db (.addAdminToRealm id adminRealm) scheme value
  | createUserpass (body : UserPass) (target : Admin)
      (ht : db.getAdmin body.username = some target) (hm : adminRealm ∈ target.realms) :
      Grants db (.createUserpass adminRealm body) .usernamePassword body.username

theorem Grants.realm_of_createUserpass {X : Externals} {db : Database} {realm : String}
    {body : UserPass} {scheme : AuthScheme} {value : String}
    (h : Grants X db (.createUserpass realm body) scheme value) : realm = adminRealm := by
  cases h
  rfl

/-- The step opens no foreign session under a super admin's credential, and, if it changes the
records, asks for no super admin to have a credential under which a foreign session was opened
before. -/
structure NoNamesake (tr : List (ServerState × Call)) (s : ServerState) (c : Call) : Prop where
  login : ∀ client, ForeignLogin X params (s, c) client →
    ¬ SuperCredential X s.db client.authScheme client.username
  grant : ∀ query cookie req, c.request = .admin query cookie req →
    (step X params s c).db ≠ s.db → ∀ x ∈ tr, ∀ client, ForeignLogin X params x client →
      ¬ Grants X s.db req client.authScheme client.username

/-- Session tokens are not forged: a token that a caller puts into the store and that verifies was
signed by an earlier step. -/
def Unforged (tr : List (ServerState × Call)) (_ : ServerState) (c : Call) : Prop :=
  ∀ query cookie body, c.request = .sessions query cookie (.upsertSession body) →
    ∀ token claims, X.cookieFromStr body.sessionValue = .ok token →
      X.verifySession token = .ok claims →
      ∃ x ∈ tr, ∃ realm client, Issues X params x.1 x.2.moment token realm client x.2.request

end

section
variable {X : Externals} {params : ServerParams} {m : Moment} {requester : Admin}
  {db db' : Database} {scheme : AuthScheme} {value : String}

theorem SuperCredential.of_eq (ha : db'.admin = db.admin)
    (hm : ∀ x ∈ db'.adminRealms, x ∈ db.adminRealms) (h : SuperCredential X db' scheme value) :
    SuperCredential X db scheme value := by
  obtain ⟨row, hrow, hmem, hv⟩ := h
  exact ⟨row, ha ▸ hrow, hm _ hmem, hv⟩

theorem superCredential_of_getAdmin {id : String} {a : Admin} (h : db.getAdmin id = some a)
    (hm : adminRealm ∈ a.realms) (hv : (AdminRow.ofAdmin a).credential X scheme = some value) :
    SuperCredential X db scheme value := by
  obtain ⟨row, hrow, _, rfl⟩ := Database.getAdmin_eq_some_iff.mp h
  exact ⟨row, hrow, Database.mem_realmsOf.mp hm, hv⟩

theorem superCredential_createAdmin {a : Admin}
    (h : SuperCredential X (db.createAdmin a).state scheme value) :
    SuperCredential X db scheme value ∨
      adminRealm ∈ a.realms ∧ (AdminRow.ofAdmin a).credential X scheme = some value := by
  by_cases hid : a.id ∈ db.admin.keys
  · rw [Database.createAdmin_of_mem hid] at h
    exact .inl h
  · have hs := Database.createAdmin_spec hid
    obtain ⟨row, hrow, hmem, hv⟩ := h
    rw [hs.admin] at hrow
    have hmem' := hs.added _ hmem
    rcases (Database.mem_insertAdmin db).mp hrow with hrow | rfl
    · rcases hmem' with hmem' | ⟨he, _⟩
      · exact .inl ⟨row, hrow, hmem', hv⟩
      · have hk := Relational.Table.key_mem_keys hrow
        rw [show row.id = a.id from he] at hk
        exact absurd hk hid
    · rcases hmem' with hmem' | ⟨_, hr⟩
      · exact absurd (db.membershipAdmin _ hmem') hid
      · exact .inr ⟨hr, hv⟩

theorem superCredential_updateAdmin {a : Admin}
    (h : SuperCredential X (db.updateAdmin a).state scheme value) :
    SuperCredential X db scheme value ∨
      adminRealm ∈ a.realms ∧ (AdminRow.ofAdmin a).credential X scheme = some value := by
  obtain ⟨row, hrow, hmem, hv⟩ := h
  obtain ⟨old, hold, he⟩ := Database.mem_updateAdmin_admin.mp hrow
  have hadded := (Database.updateAdmin_spec db a).added _ hmem
  rw [Database.mem_clearMemberships] at hadded
  by_cases hid : old.id = a.id
  · have hrowid : row.id = a.id := by
      rw [← he]
      simp [hid, Database.assignAdmin]
    rcases hadded with ⟨_, hne⟩ | ⟨_, hr⟩
    · exact absurd hrowid hne
    · refine .inr ⟨hr, ?_⟩
      rw [← hv, ← he]
      simp only [hid, beq_self_eq_true, if_true]
      cases scheme <;> rfl
  · have hsame : old = row := by simpa [hid] using he
    subst hsame
    rcases hadded with ⟨hold', _⟩ | ⟨he', _⟩
    · exact .inl ⟨old, hold, hold', hv⟩
    · exact absurd he' hid

theorem superCredential_deleteAdmin {id : String}
    (h : SuperCredential X (db.deleteAdmin id) scheme value) :
    SuperCredential X db scheme value := by
  obtain ⟨row, hrow, hmem, hv⟩ := h
  have hold := ((Database.mem_deleteAdmin db).mp hrow).1
  have hmember := ((Database.mem_deleteAdmin_adminRealms db).mp hmem).1
  exact ⟨row, hold, hmember, hv⟩

theorem superCredential_setAdmin {p : AdminRow → Bool} {f : AdminRow → AdminRow}
    {hf : ∀ r, (f r).id = r.id} (hc : ∀ r, (f r).credential X scheme = r.credential X scheme)
    (h : SuperCredential X (db.setAdmin p f hf) scheme value) :
    SuperCredential X db scheme value := by
  obtain ⟨row, hrow, hmem, hv⟩ := h
  obtain ⟨old, hold, he⟩ := (Database.mem_setAdmin db p f hf).mp hrow
  refine ⟨old, hold, ?_, ?_⟩
  · have hid : row.id = old.id := by
      rw [← he]
      split
      · exact hf old
      · rfl
    exact hid ▸ hmem
  · rw [← hv, ← he]
    split
    · exact (hc old).symm
    · rfl

theorem superCredential_autoLink {user realm : String} {o : Database}
    (ho : o.admin = db.admin) (hm : o.adminRealms = db.adminRealms)
    (h : SuperCredential X (Endpoints.autoLink o realm user).state scheme value) :
    SuperCredential X db scheme value ∨ realm = adminRealm ∧ scheme = .usernamePassword ∧
      value = user ∧ ∃ target, db.getAdmin user = some target ∧ adminRealm ∈ target.realms := by
  have hget : o.getAdmin user = db.getAdmin user := by
    have hto : o.toAdmin = db.toAdmin := by
      funext row
      simp only [Database.toAdmin, Database.realmsOf, hm]
    simp only [Database.getAdmin, ho, hto]
  have hback : SuperCredential X o scheme value → SuperCredential X db scheme value :=
    SuperCredential.of_eq ho (fun x hx => hm ▸ hx)
  rcases Endpoints.autoLink_cases o realm user with he | ⟨target, hr, ht, he⟩
  · rw [he] at h
    exact .inl (hback h)
  · rw [he] at h
    rcases superCredential_updateAdmin h with h | ⟨hmem, hv⟩
    · exact .inl (hback h)
    · by_cases hs : scheme = .usernamePassword
      · subst hs
        have hval : user = value := by simpa [AdminRow.ofAdmin, AdminRow.credential] using hv
        exact .inr ⟨hr, rfl, hval.symm, target, hget ▸ ht, hmem⟩
      · refine .inl (hback (superCredential_of_getAdmin ht hmem ?_))
        rw [← hv]
        cases scheme <;> first | rfl | exact absurd rfl hs

theorem superCredential_autoUnlink {user realm : String} {o : Database}
    (ho : o.admin = db.admin) (hm : o.adminRealms = db.adminRealms)
    (h : SuperCredential X (Endpoints.autoUnlink o realm user).state scheme value) :
    SuperCredential X db scheme value := by
  have hback : SuperCredential X o scheme value → SuperCredential X db scheme value :=
    SuperCredential.of_eq ho (fun x hx => hm ▸ hx)
  rcases Endpoints.autoUnlink_cases o realm user with he | ⟨target, -, ht, he⟩
  · rw [he] at h
    exact hback h
  · rw [he] at h
    rcases superCredential_updateAdmin h with h | ⟨hmem, hv⟩
    · exact hback h
    · refine hback (superCredential_of_getAdmin ht hmem ?_)
      rw [← hv]
      cases scheme <;> first | rfl | cases hv

theorem writes_superCredential {req : AdminRequest} (h : Writes X params m requester db req db')
    (hs : SuperCredential X db' scheme value) :
    SuperCredential X db scheme value ∨ Grants X db req scheme value := by
  cases h with
  | nothing => exact .inl hs
  | createAdmin body _ =>
    rcases superCredential_createAdmin hs with hs | ⟨hm, hv⟩
    · exact .inl hs
    · exact .inr (.createAdmin body scheme value hm hv)
  | updateAdmin id body _ _ _ _ =>
    rcases superCredential_updateAdmin hs with hs | ⟨hm, hv⟩
    · exact .inl hs
    · refine .inr (.updateAdmin id body scheme value hm ?_)
      rw [← hv]
      cases scheme <;> rfl
  | deleteAdmin id _ _ _ _ => exact .inl (superCredential_deleteAdmin hs)
  | deleteAdminCascade id u _ _ _ _ => exact .inl (superCredential_deleteAdmin hs)
  | addAdminToRealm id realm target _ ht _ _ =>
    rcases superCredential_updateAdmin hs with hs | ⟨hm, hv⟩
    · exact .inl hs
    · have hv' : (AdminRow.ofAdmin target).credential X scheme = some value := by
        rw [← hv]
        cases scheme <;> rfl
      rcases List.mem_append.mp hm with hm | hm
      · exact .inl (superCredential_of_getAdmin ht hm hv')
      · rw [List.mem_singleton] at hm
        subst hm
        exact .inr (.addAdminToRealm id target scheme value ht hv')
  | removeAdminFromRealm id realm target _ ht _ =>
    rcases superCredential_updateAdmin hs with hs | ⟨hm, hv⟩
    · exact .inl hs
    · refine .inl (superCredential_of_getAdmin ht (List.mem_filter.mp hm).1 ?_)
      rw [← hv]
      cases scheme <;> rfl
  | createRealm body realm _ _ _ hd =>
    obtain ⟨_, _, _, ha, hm⟩ := Database.createRealm_ok hd
    exact .inl (hs.of_eq ha (fun x hx => hm ▸ hx))
  | updateRealm => exact .inl (hs.of_eq rfl (fun _ hx => hx))
  | deleteRealm id _ =>
    refine .inl (SuperCredential.of_eq ?_ ?_ hs)
    · rfl
    · intro x hx
      exact ((Database.mem_deleteRealm_adminRealms db).mp hx).1
  | createUserpass realm hash body created _ _ hd =>
    obtain ⟨_, _, _, ha, hm⟩ := Database.createUserpass_ok hd
    rcases superCredential_autoLink ha hm hs with hs | ⟨rfl, rfl, rfl, target, ht, hmem⟩
    · exact .inl hs
    · exact .inr (.createUserpass body target ht hmem)
  | updateUserpass => exact .inl (hs.of_eq rfl (fun _ hx => hx))
  | updateUserpassMetadata => exact .inl (hs.of_eq rfl (fun _ hx => hx))
  | deleteUserpass realm user _ =>
    refine .inl (superCredential_autoUnlink ?_ ?_ hs)
    · rfl
    · rfl
  | totpVerify realm body _ _ _ hd =>
    unfold Database.enableTotp at hd
    split at hd
    · cases hd
    · cases hd
      refine .inl (superCredential_setAdmin ?_ hs)
      intro r
      cases scheme <;> rfl
  | totpDisable realm user _ =>
    refine .inl (superCredential_setAdmin ?_ hs)
    intro r
    cases scheme <;> rfl

theorem step_superCredential {s : ServerState} {c : Call}
    (h : SuperCredential X (step X params s c).db scheme value) :
    SuperCredential X s.db scheme value ∨ ∃ query cookie req,
      c.request = .admin query cookie req ∧ Grants X s.db req scheme value := by
  rcases step_db (X := X) (s := s) c with he | ⟨query, cookie, req, _, hreq, hw⟩
  · rw [he] at h
    exact .inl h
  · rcases writes_superCredential hw h with h | h
    · exact .inl h
    · exact .inr ⟨query, cookie, req, hreq, h⟩

end

section
variable (X : Externals) (params : ServerParams)

/-- What a run without namesakes keeps: every stored token that verifies was signed in it, and no
super admin has a credential under which a foreign session was opened. -/
structure Untangled (tr : List (ServerState × Call)) (s : ServerState) : Prop where
  signed : ∀ r ∈ s.sessions, ∀ token claims, X.cookieFromStr r.cookieString = .ok token →
    X.verifySession token = .ok claims →
    ∃ x ∈ tr, ∃ realm client, Issues X params x.1 x.2.moment token realm client x.2.request
  apart : ∀ x ∈ tr, ∀ client, ForeignLogin X params x client →
    ¬ SuperCredential X s.db client.authScheme client.username

end

section
variable {X : Externals} {params : ServerParams}

theorem step_untangled (hcookie : CookiesRoundTrip X) {tr : List (ServerState × Call)}
    {s : ServerState} {c : Call} (h : Untangled X params tr s) (hforge : Unforged X params tr s c)
    (hname : NoNamesake X params tr s c) :
    Untangled X params (tr ++ [(s, c)]) (step X params s c) := by
  have weaken : ∀ {token : String}, (∃ x ∈ tr, ∃ realm client,
      Issues X params x.1 x.2.moment token realm client x.2.request) →
      ∃ x ∈ tr ++ [(s, c)], ∃ realm client,
        Issues X params x.1 x.2.moment token realm client x.2.request := by
    intro token hx
    obtain ⟨x, hx, hsig⟩ := hx
    exact ⟨x, List.mem_append_left _ hx, hsig⟩
  constructor
  · intro r' hr' token claims hparse hverify
    rcases mem_step_sessions hr' with ⟨r, hr, hsame⟩ | ⟨token', realm, client, hsig, rfl⟩ |
      ⟨query, cookie, body, hreq, _, rfl⟩
    · rw [hsame] at hparse
      exact weaken (h.signed r hr token claims hparse hverify)
    · obtain ⟨_, hsign, _⟩ := hsig.signed
      have hround := hcookie.parse realm.sessionMaxAgeSeconds params.tlsConfigured hsign
      have htok : token' = token := by
        rw [show X.cookieFromStr (X.cookieToString token' realm.sessionMaxAgeSeconds
          params.tlsConfigured) = .ok token from hparse] at hround
        cases hround
        rfl
      subst htok
      exact ⟨(s, c), by simp, realm, client, hsig⟩
    · exact weaken (hforge query cookie body hreq token claims hparse hverify)
  · intro x hx client hforeign hsuper
    rcases List.mem_append.mp hx with hx | hx
    · rcases step_superCredential hsuper with hsame | ⟨query, cookie, req, hreq, hg⟩
      · exact h.apart x hx client hforeign hsame
      · refine hname.grant query cookie req hreq (fun he => ?_) x hx client hforeign hg
        rw [he] at hsuper
        exact h.apart x hx client hforeign hsuper
    · rw [List.mem_singleton] at hx
      subst hx
      rcases step_superCredential hsuper with hsuper | ⟨query, cookie, req, hreq, hg⟩
      · exact hname.login client hforeign hsuper
      · -- a step that issues a session is no administration request
        obtain ⟨token, realm, hsig, _⟩ := hforeign
        rw [hreq] at hsig
        cases hsig

theorem run_untangled (hcookie : CookiesRoundTrip X) (hash : String) (calls : List Call)
    (hforge : Along (step X params) (.initial hash) (Unforged X params) calls)
    (hname : Along (step X params) (.initial hash) (NoNamesake X params) calls) :
    Untangled X params (trace (step X params) (.initial hash) calls)
      (run (step X params) (.initial hash) calls) := by
  refine run_invariant (step X params) (Untangled X params)
    (fun tr s c => Unforged X params tr s c ∧ NoNamesake X params tr s c) ?_ ?_ calls ?_
  · constructor
    · intro r hr
      exact absurd hr Relational.Table.mem_empty
    · intro x hx
      cases hx
  · intro tr s c h hc
    exact step_untangled hcookie h hc.1 hc.2
  · intro pre c post he
    exact ⟨hforge pre c post he, hname pre c post he⟩

/-- Without namesakes, `AdminAuth` injects a super admin only for a session that was opened by a
login in the admin realm. -/
theorem super_admin_sessions (htoken : TokensAuthentic X) (hcookie : CookiesRoundTrip X)
    (hash : String) (calls : List Call)
    (hforge : Along (step X params) (.initial hash) (Unforged X params) calls)
    (hname : Along (step X params) (.initial hash) (NoNamesake X params) calls)
    (m : Moment) (cookie : Option String) (claims : ClientClaims) (admin : Admin)
    (hinj : Injects X (run (step X params) (.initial hash) calls) m cookie claims admin)
    (hsuper : adminRealm ∈ admin.realms) :
    claims.privateClaims.realmId = some adminRealm ∧
      ∃ x ∈ trace (step X params) (.initial hash) calls, ∃ token realm client,
        Issues X params x.1 x.2.moment token realm client x.2.request ∧ realm.id = adminRealm ∧
        claims.registered.sub = some client.username ∧
        claims.privateClaims.authScheme = some client.authScheme := by
  have hrun := run_untangled hcookie hash calls hforge hname
  obtain ⟨_, token, r, hr, _, _, _, hparse, hvalid⟩ := cookieAuth_ok hinj.1
  have hverify := validateToken_ok hvalid
  obtain ⟨x, hx, realm, client, hsig⟩ := hrun.signed r hr token claims hparse hverify
  obtain ⟨signed, hsign, hsub, hscheme, hrealm⟩ := hsig.signed
  obtain ⟨hsub', hscheme', hrealm'⟩ := htoken.identity hsign hverify
  rw [hsub] at hsub'
  rw [hscheme] at hscheme'
  rw [hrealm] at hrealm'
  have hid : realm.id = adminRealm := by
    by_contra hne
    apply hrun.apart x hx client ⟨token, realm, hsig, hne⟩
    obtain ⟨scheme, value, hs, hv, hhead⟩ := adminAuth_ok hinj.2
    obtain ⟨row, hrow, hcred, rfl⟩ :=
      Database.mem_findAdminsByAuthScheme.mp (List.mem_of_head? hhead)
    rw [hscheme'] at hs
    rw [hsub'] at hv
    cases hs
    cases hv
    exact ⟨row, hrow, Database.mem_realmsOf.mp hsuper, hcred⟩
  exact ⟨hid ▸ hrealm', x, hx, token, realm, client, hsig, hid, hsub', hscheme'⟩

end

def ownRealm : Realm :=
  { id := "r", authParams := { usernamePasswordParams := some ⟨true⟩ },
    sessionMaxAgeSeconds := 3600, sessionMaxStaleAgeSeconds := 3600 }

/-- Root sets up realm `r` with the credential `bob` and, after a login of `bob`, makes another super
admin. -/
def ownRealmRun : List Call :=
  let asRoot (now : Int) (request : AdminRequest) : Call :=
    ⟨Transparent.moment now, .admin "" (some Transparent.rootCookie) request⟩
  [Transparent.rootLogin,
   asRoot 1001 (.createRealm ownRealm),
   asRoot 1002 (.createUserpass "r"
    { realm := "r", username := "bob", passwordInput := some (.plaintext "pw"),
      changePassword := false }),
   ⟨Transparent.moment 1003, .login "realm=r" (some "Basic Ym9iOnB3") {}⟩,
   asRoot 1004 (.createAdmin { id := "eve", realms := ["_"], userpass := some "eve" })]

/-- The state in which `bob` logs in. -/
def bobArrives : ServerState :=
  run (step Transparent.externals Transparent.params) Transparent.start (ownRealmRun.take 3)

theorem root_authenticates :
    (primaryAuth Transparent.externals Transparent.start.db Transparent.start.jwks
      (Transparent.moment 1000) "realm=_" (some "Basic YWRtaW46Y2hhbmdlX21l")).result =
        .ok (some Database.adminRealmRecord, ⟨"admin", .usernamePassword⟩) := by
  decide

theorem bob_authenticates :
    (primaryAuth Transparent.externals bobArrives.db bobArrives.jwks (Transparent.moment 1003)
      "realm=r" (some "Basic Ym9iOnB3")).result =
        .ok (some ownRealm, ⟨"bob", .usernamePassword⟩) := by
  decide

/-- `bob` is the only one who opens a session outside the admin realm. -/
theorem foreignLogin_ownRealmRun {x : ServerState × Call}
    (hx : x ∈ trace (step Transparent.externals Transparent.params) Transparent.start ownRealmRun)
    {client : AuthenticatedClientScheme}
    (hforeign : ForeignLogin Transparent.externals Transparent.params x client) :
    x.1 = bobArrives ∧ client = ⟨"bob", .usernamePassword⟩ := by
  obtain ⟨token, realm, hsig, hne⟩ := hforeign
  have harrives : bobArrives = run (step Transparent.externals Transparent.params)
    Transparent.start (ownRealmRun.take 3) := rfl
  simp only [ownRealmRun, List.take_succ_cons, List.take_zero, run] at harrives
  simp only [ownRealmRun, trace, ← harrives, List.mem_cons, List.not_mem_nil, or_false] at hx
  rcases hx with rfl | rfl | rfl | rfl | rfl
  · cases hsig with
    | login _ _ _ _ _ hp _ _ =>
      cases root_authenticates.symm.trans hp
      exact absurd rfl hne
  · cases hsig
  · cases hsig
  · cases hsig with
    | login _ _ _ _ _ hp _ _ =>
      cases bob_authenticates.symm.trans hp
      dsimp only
      exact ⟨rfl, rfl⟩
  · cases hsig

theorem ownRealmRun_noNamesake :
    Along (step Transparent.externals Transparent.params) Transparent.start
      (NoNamesake Transparent.externals Transparent.params) ownRealmRun := by
  intro pre c post he
  have hmem : (run (step Transparent.externals Transparent.params) Transparent.start pre, c) ∈
      trace (step Transparent.externals Transparent.params) Transparent.start ownRealmRun :=
    mem_trace_of_split _ pre post he
  constructor
  · intro client hforeign hsuper
    obtain ⟨hstate, rfl⟩ := foreignLogin_ownRealmRun hmem hforeign
    obtain ⟨row, hrow, hmember, hcred⟩ := hsuper
    rw [show run _ Transparent.start pre = bobArrives from hstate] at hrow hmember
    have hnone : ∀ row ∈ bobArrives.db.admin.rows,
        (⟨row.id, adminRealm⟩ : AdminRealmRow) ∈ bobArrives.db.adminRealms.rows →
          row.credential Transparent.externals .usernamePassword ≠ some "bob" := by decide
    exact hnone row hrow hmember hcred
  · intro query cookie req hreq _ x hx client hforeign hgrant
    have hx' : x ∈ trace (step Transparent.externals Transparent.params) Transparent.start
        ownRealmRun := by
      rw [he, trace_append]
      exact List.mem_append_left _ hx
    obtain ⟨_, rfl⟩ := foreignLogin_ownRealmRun hx' hforeign
    have hc := mem_of_mem_trace _ hmem
    simp only [ownRealmRun, List.mem_cons, List.not_mem_nil, or_false] at hc
    rcases hc with rfl | rfl | rfl | rfl | rfl
    · cases hreq
    · cases hreq
      cases hgrant
    · cases hreq
      exact absurd hgrant.realm_of_createUserpass (by decide)
    · cases hreq
    · cases hreq
      cases hgrant with
      | createAdmin _ _ _ _ hv => exact absurd hv (by decide)

set_option maxRecDepth 2000 in
theorem super_admin_sessions_ownRealmRun :
    ∃ x ∈ trace (step Transparent.externals Transparent.params) Transparent.start ownRealmRun,
      ∃ token realm client,
        Issues Transparent.externals Transparent.params x.1 x.2.moment token realm client
          x.2.request ∧ realm.id = adminRealm := by
  have hforge : Along (step Transparent.externals Transparent.params) Transparent.start
      (Unforged Transparent.externals Transparent.params) ownRealmRun := by
    intro pre c post he query cookie body hreq
    have hc : c ∈ ownRealmRun := by simp [he]
    simp only [ownRealmRun, Transparent.rootLogin, List.mem_cons, List.not_mem_nil, or_false] at hc
    rcases hc with rfl | rfl | rfl | rfl | rfl <;> cases hreq
  have h := @super_admin_sessions Transparent.externals Transparent.params
    Transparent.tokensAuthentic Transparent.cookiesRoundTrip Transparent.initialHash ownRealmRun
    hforge ownRealmRun_noNamesake (Transparent.moment 1005) (some Transparent.rootCookie)
    (issuedClaims 1000 "admin" .usernamePassword "_" [] [] 3600) Database.adminRealmAdmin
    ⟨by decide, by decide⟩ (by decide)
  obtain ⟨_, x, hx, token, realm, client, hsig, hid, _⟩ := h
  exact ⟨x, hx, token, realm, client, hsig, hid⟩

/-- Root sets up realm `r` with its administrator `bob`, whose credential is in `r`; `bob` creates
a credential `admin` in his own realm and logs in to it. -/
def namesakeRun : List Call :=
  let realm : Realm :=
    { id := "r", authParams := { usernamePasswordParams := some ⟨true⟩ },
      sessionMaxAgeSeconds := 3600, sessionMaxStaleAgeSeconds := 3600 }
  let credential (username : String) : UserPass :=
    { realm := "r", username := username, passwordInput := some (.plaintext "pw"),
      changePassword := false }
  [Transparent.rootLogin,
   ⟨Transparent.moment 1001, .admin "" (some Transparent.rootCookie) (.createRealm realm)⟩,
   ⟨Transparent.moment 1002, .admin "" (some Transparent.rootCookie)
      (.createUserpass "r" (credential "bob"))⟩,
   ⟨Transparent.moment 1003, .admin "" (some Transparent.rootCookie)
      (.createAdmin { id := "bob", realms := ["r"], userpass := some "bob" })⟩,
   ⟨Transparent.moment 1004, .login "realm=r" (some "Basic Ym9iOnB3") {}⟩,
   ⟨Transparent.moment 1005, .admin "" (some "bob.r.up.1004.4604.n")
      (.createUserpass "r" (credential "admin"))⟩,
   ⟨Transparent.moment 1006, .login "realm=r" (some "Basic YWRtaW46cHc=") {}⟩]

theorem namesakeRun_unforged :
    Along (step Transparent.externals Transparent.params) Transparent.start
      (Unforged Transparent.externals Transparent.params) namesakeRun := by
  intro pre c post he query cookie body hreq
  have hc : c ∈ namesakeRun := by simp [he]
  simp only [namesakeRun, Transparent.rootLogin, List.mem_cons, List.not_mem_nil, or_false] at hc
  rcases hc with rfl | rfl | rfl | rfl | rfl | rfl | rfl <;> cases hreq

set_option maxRecDepth 2000 in
theorem namesakeRun_injects :
    let s := run (step Transparent.externals Transparent.params) Transparent.start namesakeRun
    let claims := issuedClaims 1006 "admin" .usernamePassword "r" [] [] 3600
    (cookieAuth Transparent.externals s.sessions (Transparent.moment 1007)
        (some "admin.r.up.1006.4606.n")).result = .ok claims ∧
      adminAuth Transparent.externals s.db claims = .ok Database.adminRealmAdmin := by
  decide

theorem namesake_injects_super_admin :
    Along (step Transparent.externals Transparent.params) Transparent.start
      (Unforged Transparent.externals Transparent.params) namesakeRun ∧
    ∃ claims admin,
      Injects Transparent.externals (run (step Transparent.externals Transparent.params)
        Transparent.start namesakeRun) (Transparent.moment 1007)
        (some "admin.r.up.1006.4606.n") claims admin ∧
      adminRealm ∈ admin.realms ∧ claims.privateClaims.realmId ≠ some adminRealm :=
  ⟨namesakeRun_unforged, _, _, namesakeRun_injects, by decide, by decide⟩

end AuthVerifier
