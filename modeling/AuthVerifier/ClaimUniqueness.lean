import AuthVerifier.CredentialFrame
import AuthVerifier.PasswordLogin
import AuthVerifier.SamlIdentityMapping
import AuthVerifier.Server

/-!
Member names of the signed tokens. Extra claims enter with a credential, with the identity mapping
of a realm or with a certificate request; wherever they enter, the names are checked, so no session
token and no certificate has a member twice.
-/

set_option autoImplicit false

namespace AuthVerifier
open Effects Relational Transition

def AdminRequest.credential : AdminRequest → Option UserPass
  | .createUserpass _ body | .updateUserpass _ _ body => some body
  | _ => none

def Request.signsIn : Request → Bool
  | .login .. | .samlAcs .. => true
  | _ => false

/-- Every set of extra claims and every identity mapping that is stored. -/
structure Database.ClaimsChecked (db : Database) : Prop where
  credentials : ∀ r ∈ db.userpass, ∀ extra, r.extraClaims = some extra → Checked extra
  mappings : ∀ r ∈ db.realm, ∀ saml, r.authParams.samlParams = some saml → Saml.MappedClaims saml

section
variable {X : Externals} {params : ServerParams} {m : Moment} {requester : Admin}
  {db db' : Database} {req : AdminRequest}

theorem mem_setUserpass {realm user : String} {f : UserPassRow → UserPassRow}
    {hf : ∀ r, (f r).key = r.key} {r : UserPassRow}
    (h : r ∈ (db.setUserpass realm user f hf).userpass) :
    r ∈ db.userpass ∨ ∃ y ∈ db.userpass, f y = r := by
  simp only [Database.setUserpass, Table.mem_updateWhere] at h
  obtain ⟨y, hy, rfl⟩ := h
  split
  · exact .inr ⟨y, hy, rfl⟩
  · exact .inl hy

theorem updateAdmin_realm (db : Database) (a : Admin) :
    (db.updateAdmin a).state.realm = db.realm :=
  (Database.updateAdmin_spec db a).realm

theorem createAdmin_realm (db : Database) (a : Admin) :
    (db.createAdmin a).state.realm = db.realm := by
  by_cases hk : a.id ∈ db.admin.keys
  · rw [Database.createAdmin_of_mem hk]
    rfl
  · exact (Database.createAdmin_spec hk).realm

theorem autoLink_realm (db : Database) (realm user : String) :
    (Endpoints.autoLink db realm user).state.realm = db.realm := by
  rcases Endpoints.autoLink_cases db realm user with h | ⟨a, -, -, h⟩
  · rw [h]
  · rw [h]
    exact updateAdmin_realm _ _

theorem autoUnlink_realm (db : Database) (realm user : String) :
    (Endpoints.autoUnlink db realm user).state.realm = db.realm := by
  rcases Endpoints.autoUnlink_cases db realm user with h | ⟨a, -, -, h⟩
  · rw [h]
  · rw [h]
    exact updateAdmin_realm _ _

theorem enableTotp_realm {user secret issuer : String}
    (h : db.enableTotp X user secret issuer = .ok db') : db'.realm = db.realm := by
  unfold Database.enableTotp at h
  split at h
  · cases h
  · cases h
    rfl

theorem Writes.extraClaims (h : Writes X params m requester db req db') {r : UserPassRow}
    (hr : r ∈ db'.userpass) : (∃ y ∈ db.userpass, y.extraClaims = r.extraClaims) ∨
      ∃ body, req.credential = some body ∧ body.extraClaims = r.extraClaims := by
  have hsame (he : db'.userpass = db.userpass) :
      ∃ y ∈ db.userpass, y.extraClaims = r.extraClaims := ⟨r, he ▸ hr, rfl⟩
  cases h with
  | nothing => exact .inl ⟨r, hr, rfl⟩
  | createAdmin body => exact .inl (hsame (createAdmin_userpass _ _))
  | updateAdmin id body => exact .inl (hsame (updateAdmin_userpass _ _))
  | deleteAdmin id => exact .inl ⟨r, hr, rfl⟩
  | deleteAdminCascade id u => exact .inl ⟨r, ((Database.mem_deleteUserpassWhere _ _).mp hr).1, rfl⟩
  | addAdminToRealm id realm => exact .inl (hsame (updateAdmin_userpass _ _))
  | removeAdminFromRealm id realm => exact .inl (hsame (updateAdmin_userpass _ _))
  | createRealm body realm _ _ _ hd => exact .inl (hsame (Database.createRealm_ok hd).2.2.1)
  | updateRealm id body => exact .inl ⟨r, hr, rfl⟩
  | deleteRealm id => exact .inl ⟨r, (Table.mem_deleteWhere.mp hr).1, rfl⟩
  | createUserpass realm hash body _ _ _ hd =>
    rw [autoLink_userpass, (Database.createUserpass_ok hd).2.1] at hr
    rcases hr with hr | rfl
    · exact .inl ⟨r, hr, rfl⟩
    · exact .inr ⟨body, rfl, rfl⟩
  | updateUserpass realm user hash body =>
    rcases mem_setUserpass hr with hr | ⟨y, _, rfl⟩
    · exact .inl ⟨r, hr, rfl⟩
    · exact .inr ⟨body, rfl, rfl⟩
  | updateUserpassMetadata realm user body =>
    rcases mem_setUserpass hr with hr | ⟨y, hy, rfl⟩
    · exact .inl ⟨r, hr, rfl⟩
    · exact .inl ⟨y, hy, rfl⟩
  | deleteUserpass realm user =>
    rw [autoUnlink_userpass] at hr
    exact .inl ⟨r, ((Database.mem_deleteUserpassWhere _ _).mp hr).1, rfl⟩
  | totpVerify realm body _ _ _ hd => exact .inl (hsame (enableTotp_userpass hd))
  | totpDisable realm user => exact .inl ⟨r, hr, rfl⟩

theorem Writes.authParams (h : Writes X params m requester db req db') {r : Realm}
    (hr : r ∈ db'.realm) : (∃ y ∈ db.realm, y.authParams = r.authParams) ∨
      ∃ body realm, Endpoints.checkSamlParams X params body = .ok realm ∧
        realm.authParams = r.authParams := by
  have hsame (he : db'.realm = db.realm) : ∃ y ∈ db.realm, y.authParams = r.authParams :=
    ⟨r, he ▸ hr, rfl⟩
  cases h with
  | createRealm body realm _ _ hc hd =>
    rcases ((Database.createRealm_ok hd).2.1 r).mp hr with hr | rfl
    · exact .inl ⟨r, hr, rfl⟩
    · exact .inr ⟨body, r, hc, rfl⟩
  | updateRealm id body realm _ hc =>
    simp only [Database.updateRealm, Table.mem_updateWhere] at hr
    obtain ⟨y, hy, rfl⟩ := hr
    split
    · exact .inr ⟨_, realm, hc, rfl⟩
    · exact .inl ⟨y, hy, rfl⟩
  | deleteRealm id => exact .inl ⟨r, (Table.mem_deleteWhere.mp hr).1, rfl⟩
  | createAdmin body => exact .inl (hsame (createAdmin_realm _ _))
  | updateAdmin id body => exact .inl (hsame (updateAdmin_realm _ _))
  | addAdminToRealm id realm => exact .inl (hsame (updateAdmin_realm _ _))
  | removeAdminFromRealm id realm => exact .inl (hsame (updateAdmin_realm _ _))
  | createUserpass realm hash body _ _ _ hd =>
    exact .inl (hsame ((autoLink_realm _ _ _).trans (Database.createUserpass_ok hd).2.2.1))
  | deleteUserpass realm user => exact .inl (hsame (autoUnlink_realm _ _ _))
  | totpVerify realm body _ _ _ hd => exact .inl (hsame (enableTotp_realm hd))
  | nothing | deleteAdmin | deleteAdminCascade | updateUserpass | updateUserpassMetadata
  | totpDisable => exact .inl ⟨r, hr, rfl⟩

theorem handleAdmin_of_badClaims {body : UserPass} {e : AuthError}
    (hreq : req.credential = some body) (he : checkExtraClaims X body.extraClaims = .error e) :
    (handleAdmin X params m requester db req).state = db := by
  cases req <;> cases hreq
  · simp only [handleAdmin, Endpoints.createUserpass, he]
    split <;> rfl
  · simp only [handleAdmin, Endpoints.updateUserpass, he]
    split <;> rfl

theorem checkExtraClaims_ok {claims : ExtraClaims} (h : checkExtraClaims X (some claims) = .ok ()) :
    ∀ name ∈ claims.map Prod.fst, name ∉ reservedClaimNames := by
  simp only [checkExtraClaims] at h
  split at h
  · cases h
  · exact rejectReservedClaimNames_ok ‹_›

def AdminRequest.DistinctKeys (req : AdminRequest) : Prop :=
  ∀ body ∈ req.credential, ∀ claims ∈ body.extraClaims, (claims.map Prod.fst).Nodup

def Saml.Validated (X : Externals) : Prop :=
  ∀ saml realmId accepted, X.validateSamlParams saml realmId = .ok accepted →
    Saml.MappedClaims accepted

theorem checkSamlParams_mapped (hX : Saml.Validated X) {body realm : Realm} {saml : SamlParams}
    (h : Endpoints.checkSamlParams X params body = .ok realm)
    (hs : realm.authParams.samlParams = some saml) : Saml.MappedClaims saml := by
  unfold Endpoints.checkSamlParams at h
  split at h
  · rename_i hnone
    cases h
    rw [hnone] at hs
    cases hs
  · split at h
    · cases h
    · split at h
      · cases h
      · split at h
        · cases h
        · rename_i hv
          cases h
          cases hs
          exact hX _ _ _ hv

theorem handleAdmin_claimsChecked (hX : Saml.Validated X) (hkeys : req.DistinctKeys)
    (h : db.ClaimsChecked) : (handleAdmin X params m requester db req).state.ClaimsChecked := by
  have hw : Writes X params m requester db req (handleAdmin X params m requester db req).state :=
    handleAdmin_writes m requester db req
  by_cases hbad : ∃ body e, req.credential = some body ∧
      checkExtraClaims X body.extraClaims = .error e
  · obtain ⟨body, e, hreq, he⟩ := hbad
    rw [handleAdmin_of_badClaims hreq he]
    exact h
  · refine ⟨fun r hr extra hextra => ?_, fun r hr saml hsaml => ?_⟩
    · rcases hw.extraClaims hr with ⟨y, hy, he⟩ | ⟨body, hbody, he⟩
      · exact h.credentials y hy extra (he.trans hextra)
      · have hbodyClaims : body.extraClaims = some extra := he.trans hextra
        refine ⟨hkeys body hbody extra hbodyClaims, ?_⟩
        cases hc : checkExtraClaims X body.extraClaims with
        | error e => exact absurd ⟨body, e, hbody, hc⟩ hbad
        | ok u =>
          rw [hbodyClaims] at hc
          exact checkExtraClaims_ok hc
    · rcases hw.authParams hr with ⟨y, hy, he⟩ | ⟨body, realm, hc, he⟩
      · exact h.mappings y hy saml (he ▸ hsaml)
      · exact checkSamlParams_mapped hX hc (he ▸ hsaml)

/-- The claims of the session token that a login or a post to the assertion consumer signs. -/
inductive Signs (X : Externals) (params : ServerParams) (s : ServerState) (m : Moment) :
    Request → ClientClaims → Prop where
  | login (query : String) (authorization : Option String) (body : LoginRequest) (realm : Realm)
      (client : AuthenticatedClientScheme)
      (hp : (primaryAuth X s.db s.jwks m query authorization).result = .ok (some realm, client))
      (hf : secondFactor X m s.db realm client body = .ok ()) :
      Signs X params s m (.login query authorization body)
        (issuedClaims m.now client.username client.authScheme realm.id
          (grantedClaims s.db realm client).1 (grantedClaims s.db realm client).2
          realm.sessionMaxAgeSeconds)
  | samlAcs (realmId : String) (post : SamlPost) (realm : Realm) (identity : SamlIdentity)
      (hc : consumeResponse s.db realmId post = .ok (realm, identity)) :
      Signs X params s m (.samlAcs realmId post)
        (issuedClaims m.now identity.subject .saml realm.id identity.roles identity.extraClaims
          realm.sessionMaxAgeSeconds)

/-- The claims of the certificate that is issued to a session. -/
inductive Certifies (X : Externals) (s : ServerState) (m : Moment) :
    Request → CertificateClaims → Prop where
  | certify (cookie : Option String) (body : CertifyRequest) (session : ClientClaims)
      (sub realmId : String) (scheme : AuthScheme) (realm : Realm)
      (hs : (cookieAuth X s.sessions m cookie).result = .ok session)
      (hsub : session.registered.sub = some sub)
      (hscheme : session.privateClaims.authScheme = some scheme)
      (hrealmId : session.privateClaims.realmId = some realmId)
      (hrealm : s.db.getRealm realmId = some realm)
      (hnames : rejectReservedClaimNames body.claims = .ok ()) :
      Certifies X s m (.certify cookie body)
        { realmId := realmId, sub := if body.excludeSub then none else some sub,
          authScheme := scheme,
          verificationKey := String.ofList (Text.trim body.verificationKey.toList),
          iat := m.now, exp := m.now + realm.certificateMaxAgeSeconds,
          extra := requestedClaims body.claims session.extra }

theorem issueSession_cookie {sessions : Sessions} {realm : Realm}
    {client : AuthenticatedClientScheme} {roles : List String} {extra : ExtraClaims}
    {issued : String × String}
    (h : (issueSession X params m sessions realm client roles extra).result = .ok issued) :
    ∃ token, X.signSession m.nonce (issuedClaims m.now client.username client.authScheme realm.id
        roles extra realm.sessionMaxAgeSeconds) = .ok token ∧
      issued.2 = buildCookie X token realm.sessionMaxAgeSeconds params.tlsConfigured := by
  unfold issueSession at h
  split at h
  · cases h
  · rename_i token htoken
    dsimp only at h
    split at h
    · cases h
    · cases h
      exact ⟨token, issueToken_ok htoken, rfl⟩

def NoCookie (answer : Answer) : Prop :=
  ∀ response, answer = .ok response → response.setCookie = none

theorem noCookie_unauthorized (text : String) : NoCookie (unauthorized text) := by
  rintro _ ⟨⟩
  rfl

theorem extractRealm_noCookie {query : String} {answer : Answer}
    (h : extractRealm db query = .error answer) : NoCookie answer := by
  unfold extractRealm at h
  split at h
  · cases h
  · split at h
    · cases h
    · cases h
      exact noCookie_unauthorized _

theorem usernamePasswordAuth_noCookie {realm : Option Realm} {header : Option String}
    {client : Option AuthenticatedClientScheme} {answer : Answer}
    (h : usernamePasswordAuth X db realm header client = .error answer) : NoCookie answer := by
  unfold usernamePasswordAuth at h
  repeat' split at h
  all_goals cases h
  · rintro _ ⟨⟩
    rfl
  · exact noCookie_unauthorized _

theorem primaryAuth_noCookie {cache : JwksCache} {query : String} {header : Option String}
    {answer : Answer} (h : (primaryAuth X db cache m query header).result = .error answer) :
    NoCookie answer := by
  unfold primaryAuth at h
  split at h
  · rename_i hr
    cases h
    exact extractRealm_noCookie hr
  · split at h
    · rename_i hu
      cases h
      exact usernamePasswordAuth_noCookie hu
    · dsimp only at h
      split at h
      · rename_i he
        cases h
        unfold ensureAuth at he
        split at he
        · cases he
        · cases he
          exact noCookie_unauthorized _
      · cases h

theorem secondFactor_noCookie {realm : Realm} {client : AuthenticatedClientScheme}
    {body : LoginRequest} {answer : Answer}
    (h : secondFactor X m db realm client body = .error answer) : NoCookie answer := by
  unfold secondFactor at h
  repeat' split at h
  all_goals cases h
  all_goals
    rintro _ ⟨⟩
    try rfl

theorem handleLogin_cookie {s : ServerState} {query : String} {authorization : Option String}
    {body : LoginRequest} {response : HttpResponse} {cookie : String}
    (h : (handleLogin X params s m query authorization body).2 = .ok response)
    (hc : response.setCookie = some cookie) :
    ∃ claims token age, Signs X params s m (.login query authorization body) claims ∧
      X.signSession m.nonce claims = .ok token ∧
      cookie = buildCookie X token age params.tlsConfigured := by
  simp only [handleLogin] at h
  split at h
  · rename_i answer hp
    rw [primaryAuth_noCookie hp response h] at hc
    cases hc
  · rename_i realm client hp
    cases realm with
    | none => cases h
    | some realm =>
      simp only [login] at h
      split at h
      · rename_i answer hf
        rw [secondFactor_noCookie hf response h] at hc
        cases hc
      · rename_i hf
        obtain ⟨issued, hissued, hresponse⟩ := Outcome.bind_eq_ok h
        cases hresponse
        cases hc
        obtain ⟨token, hsign, hcookie⟩ := issueSession_cookie hissued
        exact ⟨_, token, _, .login query authorization body realm client hp hf, hsign, hcookie⟩

theorem handleSamlAcs_cookie {s : ServerState} {realmId : String} {post : SamlPost}
    {response : HttpResponse} {cookie : String}
    (h : (handleSamlAcs X params s m realmId post).2 = .ok response)
    (hc : response.setCookie = some cookie) :
    ∃ claims token age, Signs X params s m (.samlAcs realmId post) claims ∧
      X.signSession m.nonce claims = .ok token ∧
      cookie = buildCookie X token age params.tlsConfigured := by
  simp only [handleSamlAcs] at h
  split at h
  · cases h
    cases hc
  · simp only [samlAcs] at h
    split at h
    · cases h
    · rename_i realm identity hconsume
      obtain ⟨issued, hissued, hresponse⟩ := Outcome.bind_eq_ok h
      cases hresponse
      cases hc
      obtain ⟨token, hsign, hcookie⟩ := issueSession_cookie hissued
      exact ⟨_, token, _, .samlAcs realmId post realm identity hconsume, hsign, hcookie⟩

theorem certify_certificate {s : ServerState} {cookie : Option String} {body : CertifyRequest}
    {response : HttpResponse} {certificate : String}
    (h : (handle X params s ⟨m, .certify cookie body⟩).2 = .ok response)
    (hc : response.body = .certificate certificate) :
    ∃ claims, Certifies X s m (.certify cookie body) claims ∧
      X.signCertificate claims = .ok certificate := by
  simp only [handle, withSession] at h
  split at h
  · cases h
  · rename_i session hs
    simp only [Endpoints.certify, bind, Except.bind, pure, Except.pure, throw, throwThe,
      MonadExceptOf.throw] at h
    repeat' split at h
    all_goals try cases h
    rename_i hnames _ _ _ hsub _ scheme hscheme _ realmId hrealmId _ realm hrealm _ _ _ hsign
    cases hc
    exact ⟨_, .certify cookie body session _ realmId scheme realm hs hsub hscheme hrealmId hrealm
      hnames, hsign⟩

theorem checked_nil : Checked [] := ⟨List.nodup_nil, by simp⟩

theorem grantedClaims_checked (h : db.ClaimsChecked) (realm : Realm)
    (client : AuthenticatedClientScheme) : Checked (grantedClaims db realm client).2 := by
  unfold grantedClaims
  split
  · cases hup : db.getUserpass realm.id client.username with
    | none => exact checked_nil
    | some up =>
      obtain ⟨row, hrow, rfl⟩ := Option.map_eq_some_iff.mp hup
      have hmem := (Table.find?_eq_some_iff.mp hrow).1
      cases hextra : row.extraClaims with
      | none => simpa [UserPassRow.toUserPass, hextra] using checked_nil
      | some extra =>
        simpa [UserPassRow.toUserPass, hextra] using h.credentials row hmem extra hextra
  · exact checked_nil

/-- The names in the identity of a post are checked if those in the settings of the realm are. -/
def SamlPost.FollowsMapping (post : SamlPost) (db : Database) (realmId : String) : Prop :=
  ∀ realm saml identity, db.getRealm realmId = some realm →
    realm.authParams.samlParams = some saml → Saml.MappedClaims saml →
    post.validated = .ok identity → Checked identity.extraClaims

theorem consumeResponse_checked {realmId : String} {post : SamlPost} {realm : Realm}
    {identity : SamlIdentity} (h : db.ClaimsChecked) (hpost : post.FollowsMapping db realmId)
    (hc : consumeResponse db realmId post = .ok (realm, identity)) :
    Checked identity.extraClaims := by
  unfold consumeResponse at hc
  split at hc
  · cases hc
  · split at hc
    · cases hc
    · rename_i hrealm
      split at hc
      · cases hc
      · rename_i hvalidated
        cases hc
        unfold samlRealm at hrealm
        split at hrealm
        · rename_i r hget
          split at hrealm
          · rename_i hsome
            cases hrealm
            obtain ⟨saml, hsaml⟩ := Option.isSome_iff_exists.mp hsome
            have hmem := (Table.find?_eq_some_iff.mp hget).1
            exact hpost _ saml identity hget hsaml (h.mappings _ hmem saml hsaml) hvalidated
          · cases hrealm
        · cases hrealm

theorem nodup_eraseDups (l : List String) : l.eraseDups.Nodup := by
  induction hn : l.length using Nat.strong_induction_on generalizing l with
  | _ n ih =>
    cases l with
    | nil => simp
    | cons a l =>
      rw [List.eraseDups_cons, List.nodup_cons]
      constructor
      · simp [List.mem_eraseDups]
      · refine ih _ ?_ _ rfl
        rw [← hn, List.length_cons]
        exact Nat.lt_succ_of_le (List.length_filter_le _ _)

theorem names_requestedClaims (requested : List String) (extra : ExtraClaims) :
    ((requestedClaims requested extra).map Prod.fst).Sublist requested.eraseDups := by
  unfold requestedClaims
  induction requested.eraseDups with
  | nil => simp
  | cons name rest ih =>
    cases hlookup : extra.lookup name with
    | none => simpa [hlookup] using ih.cons name
    | some value => simpa [hlookup] using ih

theorem requestedClaims_checked {requested : List String} (extra : ExtraClaims)
    (h : rejectReservedClaimNames requested = .ok ()) :
    Checked (requestedClaims requested extra) where
  nodup := (names_requestedClaims requested extra).nodup (nodup_eraseDups requested)
  disjoint name hname := by
    have hmem := (names_requestedClaims requested extra).subset hname
    exact rejectReservedClaimNames_ok h name (List.mem_eraseDups.mp hmem)

theorem Signs.checked {s : ServerState} {request : Request} {claims : ClientClaims}
    (h : Signs X params s m request claims) (hdb : s.db.ClaimsChecked)
    (hpost : ∀ realmId post, request = .samlAcs realmId post → post.FollowsMapping s.db realmId) :
    Checked claims.extra := by
  cases h with
  | login _ _ _ realm client => exact grantedClaims_checked hdb realm client
  | samlAcs realmId post realm identity hc =>
    exact consumeResponse_checked hdb (hpost realmId post rfl) hc

theorem Certifies.checked {s : ServerState} {request : Request} {claims : CertificateClaims}
    (h : Certifies X s m request claims) : Checked claims.extra := by
  cases h with
  | certify _ _ session _ _ _ _ _ _ _ _ _ hnames =>
    exact requestedClaims_checked session.extra hnames

end

/-- A request as it comes in: a response of an identity provider with what validating it came to, or
one of the other requests, in whose maps no key comes twice. -/
inductive Arrival (τ : Type) where
  | samlAcs (moment : Moment) (realmId : String) (bound : Bool)
      (validated : Except AuthError (SamlAssertion τ))
  | other (call : Call) (h : ∀ realmId post, call.request ≠ .samlAcs realmId post)
      (hkeys : ∀ query cookie req, call.request = .admin query cookie req → req.DistinctKeys)

def Arrival.moment {τ : Type} : Arrival τ → Moment
  | .samlAcs moment .. => moment
  | .other call .. => call.moment

section
variable {τ : Type} (X : Externals) (E : SamlCrates) (J : JsonTexts) (params : ServerParams)

def Externals.withSaml (nanos : Int) : Externals :=
  { X with validateSamlParams := Saml.validateSamlParams E nanos }

def identityAt (db : Database) (realmId : String)
    (validated : Except AuthError (SamlAssertion τ)) : Except AuthError SamlIdentity :=
  match (db.getRealm realmId).bind (fun realm => realm.authParams.samlParams) with
  | none => .error (.badRequest s!"realm '{realmId}' does not exist or does not use SAML")
  | some saml => match validated with
    | .error e => .error e
    | .ok assertion => Saml.mapIdentity X E J assertion saml

def Arrival.call (db : Database) : Arrival τ → Call
  | .samlAcs moment realmId bound validated =>
    ⟨moment, .samlAcs realmId ⟨bound, identityAt X E J db realmId validated⟩⟩
  | .other call .. => call

def arrive (s : ServerState) (a : Arrival τ) : ServerState × Answer :=
  handle (X.withSaml E a.moment.nanos) params s (a.call X E J s.db)

def arriveStep (s : ServerState) (a : Arrival τ) : ServerState := (arrive X E J params s a).1

/-- The member names of what is signed for an answer: the session token in the cookie of a login or
of a post to the assertion consumer, and a certificate. -/
structure DistinctNames (s : ServerState) (a : Arrival τ) : Prop where
  session : (a.call X E J s.db).request.signsIn = true →
    ∀ response cookie, (arrive X E J params s a).2 = .ok response →
      response.setCookie = some cookie → ∃ claims token age,
        Signs (X.withSaml E a.moment.nanos) params s a.moment (a.call X E J s.db).request claims ∧
        X.signSession a.moment.nonce claims = .ok token ∧
        cookie = buildCookie X token age params.tlsConfigured ∧
        (names (claims.members J)).Nodup ∧ Checked claims.extra
  certificate : ∀ cookie body, (a.call X E J s.db).request = .certify cookie body →
    ∀ response certificate, (arrive X E J params s a).2 = .ok response →
      response.body = .certificate certificate → ∃ claims,
        Certifies (X.withSaml E a.moment.nanos) s a.moment (.certify cookie body) claims ∧
        X.signCertificate claims = .ok certificate ∧
        (names (claims.members J)).Nodup ∧ Checked claims.extra

end

section
variable {τ : Type} {X : Externals} {E : SamlCrates} {J : JsonTexts} {params : ServerParams}

theorem validated_withSaml (X : Externals) (E : SamlCrates) (nanos : Int) :
    Saml.Validated (X.withSaml E nanos) :=
  fun _ _ _ h => (Saml.validateSamlParams_ok h).2

theorem identityAt_follows (db : Database) (realmId : String) (bound : Bool)
    (validated : Except AuthError (SamlAssertion τ)) :
    SamlPost.FollowsMapping ⟨bound, identityAt X E J db realmId validated⟩ db realmId := by
  intro realm saml identity hrealm hsaml hmapped hidentity
  simp only [identityAt, hrealm, Option.bind_some, hsaml] at hidentity
  split at hidentity
  · cases hidentity
  · exact Saml.mapIdentity_checked hmapped hidentity

theorem Arrival.call_moment (a : Arrival τ) (db : Database) :
    (a.call X E J db).moment = a.moment := by
  cases a <;> rfl

theorem Arrival.call_follows (a : Arrival τ) (db : Database) {realmId : String} {post : SamlPost}
    (h : (a.call X E J db).request = .samlAcs realmId post) : post.FollowsMapping db realmId := by
  cases a with
  | samlAcs moment id bound validated =>
    cases h
    exact identityAt_follows db realmId bound validated
  | other call hother => exact absurd h (hother realmId post)

theorem Arrival.call_distinctKeys (a : Arrival τ) (db : Database) {query : String}
    {cookie : Option String} {req : AdminRequest}
    (h : (a.call X E J db).request = .admin query cookie req) : req.DistinctKeys := by
  cases a with
  | samlAcs => cases h
  | other call _ hkeys => exact hkeys query cookie req h

theorem arriveStep_claimsChecked {s : ServerState} {a : Arrival τ} (h : s.db.ClaimsChecked) :
    (arriveStep X E J params s a).db.ClaimsChecked := by
  rcases step_handleAdmin (X.withSaml E a.moment.nanos) params s (a.call X E J s.db) with
    hsame | ⟨query, cookie, req, requester, hreq, hstate⟩
  · exact hsame ▸ h
  · refine (congrArg Database.ClaimsChecked hstate).mpr ?_
    exact handleAdmin_claimsChecked (validated_withSaml X E a.moment.nanos)
      (a.call_distinctKeys s.db hreq) h

theorem claimsChecked_fresh (passwordHash : String) :
    (Database.fresh passwordHash).ClaimsChecked where
  credentials r hr extra hextra := by
    obtain rfl : r = ⟨adminRealm, Database.appRealmAdminUsername, passwordHash, true, [], none⟩ :=
      List.mem_singleton.mp hr
    cases hextra
  mappings r hr saml hsaml := by
    obtain rfl : r = Database.adminRealmRecord := List.mem_singleton.mp hr
    cases hsaml

theorem distinctNames_of_checked {s : ServerState} {a : Arrival τ} (h : s.db.ClaimsChecked) :
    DistinctNames X E J params s a := by
  refine ⟨fun hsigns response cookie hr hc => ?_, fun cookie body hreq response certificate hr hc => ?_⟩
  · have hsigned : ∃ claims token age,
        Signs (X.withSaml E a.moment.nanos) params s (a.call X E J s.db).moment
          (a.call X E J s.db).request claims ∧
        X.signSession (a.call X E J s.db).moment.nonce claims = .ok token ∧
        cookie = buildCookie X token age params.tlsConfigured := by
      simp only [arrive, handle] at hr
      cases hreq : (a.call X E J s.db).request with
      | login => exact handleLogin_cookie (by simpa [hreq] using hr) hc
      | samlAcs => exact handleSamlAcs_cookie (by simpa [hreq] using hr) hc
      | _ => simp [hreq, Request.signsIn] at hsigns
    obtain ⟨claims, token, age, hclaims, hsign, hcookie⟩ := hsigned
    have hchecked := hclaims.checked h (fun _ _ => a.call_follows s.db)
    rw [a.call_moment] at hclaims hsign
    exact ⟨claims, token, age, hclaims, hsign, hcookie, claims.members_nodup J hchecked, hchecked⟩
  · have hcall : a.call X E J s.db = ⟨a.moment, .certify cookie body⟩ := by
      rw [← a.call_moment s.db, ← hreq]
    rw [arrive, hcall] at hr
    obtain ⟨claims, hclaims, hsign⟩ := certify_certificate hr hc
    exact ⟨claims, hclaims, hsign, claims.members_nodup J hclaims.checked, hclaims.checked⟩

/-- In every run, the claims of each session token and of each certificate have distinct member
names, and no extra claim is named like a typed one; and claims whose extra names are checked come
back from their JSON object. -/
theorem claim_names_unique (passwordHash : String) (arrivals : List (Arrival τ)) :
    (∀ x ∈ trace (arriveStep X E J params) (.initial passwordHash) arrivals,
      DistinctNames X E J params x.1 x.2) ∧
    ∀ claims : ClientClaims, Checked claims.extra →
      ClientClaims.deserialize J (claims.members J) = .ok claims := by
  refine ⟨fun x hx => ?_, fun claims h => claims.deserialize_members J h⟩
  obtain ⟨pre, post, _, hstate⟩ := (mem_trace_iff _).mp hx
  have hchecked : (run (arriveStep X E J params) (.initial passwordHash) pre).db.ClaimsChecked :=
    run_keeps _ (fun s : ServerState => s.db.ClaimsChecked) (claimsChecked_fresh passwordHash)
      (fun _ _ h => arriveStep_claimsChecked h) pre
  exact distinctNames_of_checked (hstate ▸ hchecked)

end

namespace Transparent

/-- Values are kept as their texts, but for the ones the server makes itself. -/
def jsonTexts : JsonTexts where
  read text := .other text
  write
    | .other text => text
    | .null => "null"
    | .string s => "\"" ++ s ++ "\""
    | .strings l => "[" ++ ",".intercalate (l.map (fun s => "\"" ++ s ++ "\"")) ++ "]"
    | .integer n => toString n
  roundTrips _ := rfl

def samlCrates : SamlCrates where
  readMetadata _ := .error "unexpected end of document"
  parseUrl _ := .error "relative URL without a base"
  decodeBase64 _ := .error "invalid length"
  certificateFromDer _ := .error "truncated"
  toLowercase s := s

/-- Root makes a credential with an extra claim. -/
def createAlice : Call :=
  ⟨moment 1001, .admin "" (some rootCookie) (.createUserpass "_"
    { realm := "_", username := "alice", passwordInput := some (.plaintext "pw"),
      changePassword := false, extraClaims := some [("team", "7")] })⟩

def aliceLogin : Call := ⟨moment 1002, .login "realm=_" (some "Basic YWxpY2U6cHc=") {}⟩

theorem keys_rootLogin (query : String) (cookie : Option String) (req : AdminRequest)
    (h : rootLogin.request = .admin query cookie req) : req.DistinctKeys := by cases h

theorem keys_createAlice (query : String) (cookie : Option String) (req : AdminRequest)
    (h : createAlice.request = .admin query cookie req) : req.DistinctKeys := by
  cases h
  intro body hbody claims hclaims
  cases hbody
  cases hclaims
  decide

theorem keys_aliceLogin (query : String) (cookie : Option String) (req : AdminRequest)
    (h : aliceLogin.request = .admin query cookie req) : req.DistinctKeys := by cases h

theorem other_rootLogin (realmId : String) (post : SamlPost) :
    rootLogin.request ≠ .samlAcs realmId post := fun h => by cases h

theorem other_createAlice (realmId : String) (post : SamlPost) :
    createAlice.request ≠ .samlAcs realmId post := fun h => by cases h

theorem other_aliceLogin (realmId : String) (post : SamlPost) :
    aliceLogin.request ≠ .samlAcs realmId post := fun h => by cases h

def aliceArrives : List (Arrival Int) :=
  [.other rootLogin other_rootLogin keys_rootLogin,
   .other createAlice other_createAlice keys_createAlice]

/-- A login whose credential has an extra claim, and claims with an extra one. -/
theorem claim_names_unique_aliceLogin :
    let s := run (arriveStep signing samlCrates jsonTexts params) start aliceArrives
    let a : Arrival Int := .other aliceLogin other_aliceLogin keys_aliceLogin
    (∃ response, (arrive signing samlCrates jsonTexts params s a).2 = .ok response ∧
      response.setCookie.isSome = true) ∧
    DistinctNames signing samlCrates jsonTexts params s a ∧
    ClientClaims.deserialize jsonTexts (ClientClaims.members jsonTexts
      { registered := { sub := some "alice" }, extra := [("team", "7")] }) =
        .ok { registered := { sub := some "alice" }, extra := [("team", "7")] } := by
  intro s a
  have hnames := @claim_names_unique _ signing samlCrates jsonTexts params initialHash
    (aliceArrives ++ [a])
  have hlast : (s, a) ∈ trace (arriveStep signing samlCrates jsonTexts params)
      (.initial initialHash) (aliceArrives ++ [a]) :=
    mem_trace_of_split _ aliceArrives [] rfl
  have hcookie : ((arrive signing samlCrates jsonTexts params s a).2.toOption.bind
      HttpResponse.setCookie).isSome = true := by decide
  refine ⟨?_, hnames.1 (s, a) hlast, hnames.2 _ ⟨by decide, by decide⟩⟩
  cases hresponse : (arrive signing samlCrates jsonTexts params s a).2 with
  | error e =>
    rw [hresponse] at hcookie
    cases hcookie
  | ok response =>
    rw [hresponse] at hcookie
    exact ⟨response, rfl, hcookie⟩

end Transparent
end AuthVerifier
