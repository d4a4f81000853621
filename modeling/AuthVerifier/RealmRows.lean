import AuthVerifier.ClaimUniqueness
import AuthVerifier.Lib.Wire
import Mathlib.Data.List.Sort

/-!
Realms as JSON. Requests carry them as documents, and the `auth_params` column of the `realm`
table holds the settings as the text of one, which every `SELECT` reads again. One row that cannot
be read would fail the listing of all of them. No request leaves such a row.
-/

set_option autoImplicit false

namespace AuthVerifier
open Effects Relational Transition Wire

def IdpParams.fields : Fields IdpParams :=
  ((Fields.required "jwt_issuer_uri" .text).pair <|
    (Fields.required "jwks_uri" .text).pair <|
    Fields.nullable "jwt_audience" .text Codec.text_read_null).as
    (fun p => (p.jwtIssuerUri, p.jwksUri, p.jwtAudience))
    (fun (issuer, jwks, audience) => ⟨issuer, jwks, audience⟩)

def JwtParams.fields : Fields JwtParams :=
  ((Fields.required "idp_params" (.list IdpParams.fields.codec)).pair <|
    Fields.nullable "smallest_refresh_interval_seconds" .int64 Codec.int64_read_null).as
    (fun p => (p.idpParams, p.smallestRefreshIntervalSeconds))
    (fun (idps, interval) => ⟨idps, interval⟩)

def UsernamePasswordParams.fields : Fields UsernamePasswordParams :=
  (Fields.required "allow_expired_passwords" .bool).as
    (fun p => p.allowExpiredPasswords) (fun allow => ⟨allow⟩)

def TotpRealmParams.fields : Fields TotpRealmParams :=
  ((Fields.defaulted "algorithm" .text "SHA1" trivial).pair <|
    Fields.defaulted "step" .uint64 30 (Codec.uint64_fits.mpr (by decide))).as
    (fun p => (p.algorithm, p.step)) (fun (algorithm, step) => ⟨algorithm, step⟩)

def SamlParams.fields : Fields SamlParams :=
  ((Fields.defaulted "idp_entity_id" .text "" trivial).pair <|
    (Fields.defaulted "idp_sso_url" .text "" trivial).pair <|
    (Fields.defaulted "idp_signing_certificates" (.list .text) [] nofun).pair <|
    (Fields.omittable "idp_nameid_format" .text Codec.text_read_null).pair <|
    (Fields.omittable "metadata_xml" .text Codec.text_read_null).pair <|
    (Fields.required "sp_entity_id" .text).pair <|
    (Fields.required "sp_acs_url" .text).pair <|
    (Fields.omittable "subject_attribute" .text Codec.text_read_null).pair <|
    (Fields.defaulted "normalize_subject_case" .bool false trivial).pair <|
    (Fields.omittable "role_attribute" .text Codec.text_read_null).pair <|
    (Fields.defaulted "attribute_claim_map" .textMap [] List.nodup_nil).pair <|
    (Fields.defaulted "allowed_return_origins" (.list .text) [] nofun).pair <|
    Fields.required "default_return_url" .text).as
    (fun p => (p.idpEntityId, p.idpSsoUrl, p.idpSigningCertificates, p.idpNameidFormat,
      p.metadataXml, p.spEntityId, p.spAcsUrl, p.subjectAttribute, p.normalizeSubjectCase,
      p.roleAttribute, p.attributeClaimMap, p.allowedReturnOrigins, p.defaultReturnUrl))
    (fun (entity, sso, certificates, nameid, xml, sp, acs, subject, lower, role, claims, origins,
      default) => ⟨entity, sso, certificates, nameid, xml, sp, acs, subject, lower, role, claims,
      origins, default⟩)

def RealmAuthParams.fields : Fields RealmAuthParams :=
  ((Fields.nullable "jwt_params" JwtParams.fields.codec (Fields.codec_read_null _)).pair <|
    (Fields.nullable "username_password_params" UsernamePasswordParams.fields.codec
      (Fields.codec_read_null _)).pair <|
    (Fields.omittable "totp_params" TotpRealmParams.fields.codec (Fields.codec_read_null _)).pair <|
    Fields.omittable "saml_params" SamlParams.fields.codec (Fields.codec_read_null _)).as
    (fun p => (p.jwtParams, p.usernamePasswordParams, p.totpParams, p.samlParams))
    (fun (jwt, password, totp, saml) => ⟨jwt, password, totp, saml⟩)

def defaultCertificateMaxAgeSeconds : Int := 365 * 24 * 3600

def Realm.fields : Fields Realm :=
  ((Fields.required "id" .text).pair <|
    (Fields.required "auth_params" RealmAuthParams.fields.codec).pair <|
    (Fields.required "session_max_age_seconds" .int64).pair <|
    (Fields.required "session_max_stale_age_seconds" .int64).pair <|
    Fields.defaulted "certificate_max_age_seconds" .int64 defaultCertificateMaxAgeSeconds
      (Codec.int64_fits.mpr (by decide))).as
    (fun r => (r.id, r.authParams, r.sessionMaxAgeSeconds, r.sessionMaxStaleAgeSeconds,
      r.certificateMaxAgeSeconds))
    (fun (id, settings, age, stale, certificate) => ⟨id, settings, age, stale, certificate⟩)

theorem IdpParams.read_eq_some {ms : Entries} {idp : IdpParams} :
    IdpParams.fields.read ms = some idp ↔
      (Fields.required "jwt_issuer_uri" .text).read ms = some idp.jwtIssuerUri ∧
      (Fields.required "jwks_uri" .text).read ms = some idp.jwksUri ∧
      (Fields.nullable "jwt_audience" .text Codec.text_read_null).read ms =
        some idp.jwtAudience := by
  simp only [IdpParams.fields, Fields.as_read_eq_some, Fields.pair_read_eq_some]

theorem JwtParams.read_eq_some {ms : Entries} {jwt : JwtParams} :
    JwtParams.fields.read ms = some jwt ↔
      (Fields.required "idp_params" (.list IdpParams.fields.codec)).read ms = some jwt.idpParams ∧
      (Fields.nullable "smallest_refresh_interval_seconds" .int64 Codec.int64_read_null).read ms =
        some jwt.smallestRefreshIntervalSeconds := by
  simp only [JwtParams.fields, Fields.as_read_eq_some, Fields.pair_read_eq_some]

theorem RealmAuthParams.read_eq_some {ms : Entries} {settings : RealmAuthParams} :
    RealmAuthParams.fields.read ms = some settings ↔
      (Fields.nullable "jwt_params" JwtParams.fields.codec (Fields.codec_read_null _)).read ms =
        some settings.jwtParams ∧
      (Fields.nullable "username_password_params" UsernamePasswordParams.fields.codec
        (Fields.codec_read_null _)).read ms = some settings.usernamePasswordParams ∧
      (Fields.omittable "totp_params" TotpRealmParams.fields.codec
        (Fields.codec_read_null _)).read ms = some settings.totpParams ∧
      (Fields.omittable "saml_params" SamlParams.fields.codec (Fields.codec_read_null _)).read ms =
        some settings.samlParams := by
  simp only [RealmAuthParams.fields, Fields.as_read_eq_some, Fields.pair_read_eq_some]

theorem Realm.read_eq_some {ms : Entries} {realm : Realm} :
    Realm.fields.read ms = some realm ↔
      (Fields.required "id" .text).read ms = some realm.id ∧
      (Fields.required "auth_params" RealmAuthParams.fields.codec).read ms =
        some realm.authParams ∧
      (Fields.required "session_max_age_seconds" .int64).read ms =
        some realm.sessionMaxAgeSeconds ∧
      (Fields.required "session_max_stale_age_seconds" .int64).read ms =
        some realm.sessionMaxStaleAgeSeconds ∧
      (Fields.defaulted "certificate_max_age_seconds" .int64 defaultCertificateMaxAgeSeconds
        (Codec.int64_fits.mpr (by decide))).read ms = some realm.certificateMaxAgeSeconds := by
  simp only [Realm.fields, Fields.as_read_eq_some, Fields.pair_read_eq_some]

structure StoredRealm where
  id : String
  authParams : Document
  cookieMaxAgeSeconds : Int
  maxStaleAgeSeconds : Int
  certificateMaxAgeSeconds : Int

def StoredRealm.ofRealm (realm : Realm) : StoredRealm where
  id := realm.id
  authParams := RealmAuthParams.fields.codec.write realm.authParams
  cookieMaxAgeSeconds := realm.sessionMaxAgeSeconds
  maxStaleAgeSeconds := realm.sessionMaxStaleAgeSeconds
  certificateMaxAgeSeconds := realm.certificateMaxAgeSeconds

/-- The text of the `serde_json` error is left out. -/
def StoredRealm.toRealm (row : StoredRealm) : Except AuthDbError Realm :=
  match RealmAuthParams.fields.codec.read row.authParams with
  | none => .error (.unexpected "Failed to deserialize auth_params")
  | some authParams => .ok
    { id := row.id
      authParams := authParams
      sessionMaxAgeSeconds := row.cookieMaxAgeSeconds
      sessionMaxStaleAgeSeconds := row.maxStaleAgeSeconds
      certificateMaxAgeSeconds := row.certificateMaxAgeSeconds }

abbrev RealmRows := Table StoredRealm String StoredRealm.id

namespace RealmRows

def createRealm (rows : RealmRows) (realm : Realm) : Except AuthDbError RealmRows :=
  if Database.realmIdCheck realm.id = false then .error (.sql .check)
  else if h : realm.id ∈ rows.keys then .error (.conflict s!"realm '{realm.id}' already exists")
  else .ok (rows.insert (.ofRealm realm) h)

def getRealm (rows : RealmRows) (id : String) : Except AuthDbError (Option Realm) :=
  match rows.find? id with
  | none => .ok none
  | some row => row.toRealm.map some

def updateRealm (rows : RealmRows) (realm : Realm) : RealmRows :=
  let assign (r : StoredRealm) : StoredRealm := { r with
    authParams := RealmAuthParams.fields.codec.write realm.authParams
    cookieMaxAgeSeconds := realm.sessionMaxAgeSeconds
    maxStaleAgeSeconds := realm.sessionMaxStaleAgeSeconds
    certificateMaxAgeSeconds := realm.certificateMaxAgeSeconds }
  rows.updateWhere (fun r => r.id == realm.id) assign (fun _ => rfl)

def deleteRealm (rows : RealmRows) (id : String) : RealmRows :=
  rows.deleteWhere (fun r => r.id == id)

def listRealms (rows : RealmRows) : Except AuthDbError (List Realm) :=
  (rows.rows.insertionSort (fun r s => r.id ≤ s.id)).mapM StoredRealm.toRealm

def ofTable (realms : Table Realm String Realm.id) : RealmRows where
  rows := realms.rows.map StoredRealm.ofRealm
  nodup := by
    rw [List.map_map]
    exact realms.nodup

/-- Every statement on the rows does what the operation on the realms does. -/
structure Mirrors (rows : RealmRows) (db : Database) : Prop where
  create : ∀ realm, rows.createRealm realm =
    (db.createRealm realm).map (fun db => ofTable db.realm)
  get : ∀ id, rows.getRealm id = .ok (db.getRealm id)
  update : ∀ realm, rows.updateRealm realm = ofTable (db.updateRealm realm).realm
  delete : ∀ id, rows.deleteRealm id = ofTable (db.deleteRealm id).realm
  list : rows.listRealms = .ok db.listRealms

end RealmRows

/-- The settings and the numbers of a realm come back from a row and from a request. -/
def Realm.Fits (realm : Realm) : Prop := Realm.fields.Fits realm

theorem Realm.Fits.authParams {realm : Realm} (h : realm.Fits) :
    RealmAuthParams.fields.Fits realm.authParams :=
  h.2.1

theorem StoredRealm.toRealm_ofRealm {realm : Realm} (h : realm.Fits) :
    (StoredRealm.ofRealm realm).toRealm = .ok realm := by
  have hread : RealmAuthParams.fields.codec.read (StoredRealm.ofRealm realm).authParams =
      some realm.authParams := RealmAuthParams.fields.codec.read_write _ h.authParams
  rw [toRealm, hread]
  rfl

namespace RealmRows
variable {db : Database}

@[simp] theorem keys_ofTable (realms : Table Realm String Realm.id) :
    (ofTable realms).keys = realms.keys := by
  simp [Table.keys, ofTable, Function.comp_def, StoredRealm.ofRealm]

theorem find?_ofTable (realms : Table Realm String Realm.id) (id : String) :
    (ofTable realms).find? id = (realms.find? id).map StoredRealm.ofRealm := by
  simp only [Table.find?, ofTable, List.find?_map]
  rfl

theorem createRealm_ofTable (db : Database) (realm : Realm) :
    (ofTable db.realm).createRealm realm =
      (db.createRealm realm).map (fun db => ofTable db.realm) := by
  unfold createRealm Database.createRealm
  split
  · rfl
  · by_cases hk : realm.id ∈ db.realm.keys
    · rw [dif_pos (by simpa using hk), dif_pos hk]
      rfl
    · rw [dif_neg (by simpa using hk), dif_neg hk]
      refine congrArg Except.ok (Table.ext_rows ?_)
      simp [Table.insert, ofTable]

theorem updateRealm_ofTable (db : Database) (realm : Realm) :
    (ofTable db.realm).updateRealm realm = ofTable (db.updateRealm realm).realm := by
  refine Table.ext_rows ?_
  simp only [updateRealm, Database.updateRealm, Table.updateWhere, ofTable, List.map_map]
  refine List.map_congr_left (fun r _ => ?_)
  simp only [Function.comp_apply]
  by_cases hid : (r.id == realm.id) = true
  · rw [if_pos (show ((StoredRealm.ofRealm r).id == realm.id) = true from hid), if_pos hid]
    rfl
  · rw [if_neg (show ¬((StoredRealm.ofRealm r).id == realm.id) = true from hid), if_neg hid]

theorem deleteRealm_ofTable (db : Database) (id : String) :
    (ofTable db.realm).deleteRealm id = ofTable (db.deleteRealm id).realm := by
  refine Table.ext_rows ?_
  simp only [deleteRealm, Database.deleteRealm, Table.deleteWhere, ofTable, List.filter_map]
  rfl

theorem getRealm_ofTable (hfits : ∀ realm ∈ db.realm, realm.Fits) (id : String) :
    (ofTable db.realm).getRealm id = .ok (db.getRealm id) := by
  rw [getRealm, find?_ofTable, Database.getRealm]
  cases hfind : db.realm.find? id with
  | none => rfl
  | some realm =>
    obtain ⟨hmem, -⟩ := Table.find?_eq_some_iff.mp hfind
    simp only [Option.map_some, StoredRealm.toRealm_ofRealm (hfits realm hmem)]
    rfl

theorem listRealms_ofTable (hfits : ∀ realm ∈ db.realm, realm.Fits) :
    (ofTable db.realm).listRealms = .ok db.listRealms := by
  have hsort : (ofTable db.realm).rows.insertionSort (fun r s => r.id ≤ s.id) =
      db.listRealms.map StoredRealm.ofRealm :=
    (List.map_insertionSort (fun r s : Realm => r.id ≤ s.id)
      (fun r s : StoredRealm => r.id ≤ s.id) StoredRealm.ofRealm db.realm.rows
      (fun _ _ _ _ => Iff.rfl)).symm
  rw [listRealms, hsort]
  refine Pointwise.mapM_ok_iff.mpr (List.forall₂_map_left_iff.mpr (List.forall₂_same.mpr ?_))
  intro realm hmem
  exact StoredRealm.toRealm_ofRealm (hfits realm ((List.mem_insertionSort _).mp hmem))

theorem mirrors_ofTable (hfits : ∀ realm ∈ db.realm, realm.Fits) :
    (ofTable db.realm).Mirrors db where
  create := createRealm_ofTable db
  get := getRealm_ofTable hfits
  update := updateRealm_ofTable db
  delete := deleteRealm_ofTable db
  list := listRealms_ofTable hfits

end RealmRows

theorem SamlParams.fits_iff {saml : SamlParams} :
    SamlParams.fields.Fits saml ↔ (saml.attributeClaimMap.map Prod.fst).Nodup := by
  constructor
  · rintro ⟨-, -, -, -, -, -, -, -, -, -, hclaims, -, -⟩
    exact hclaims
  · intro hclaims
    have hlist {α : Type} {l : List α} : ∀ a ∈ l, True := fun _ _ => trivial
    have hoption {α : Type} {o : Option α} : ∀ a ∈ o, True := fun _ _ => trivial
    exact ⟨trivial, trivial, hlist, hoption, hoption, trivial, trivial, hoption, trivial, hoption,
      hclaims, hlist, trivial⟩

section
variable {X : Externals} {E : SamlCrates} {nanos : Int} {params : ServerParams} {m : Moment}
  {requester : Admin} {db db' : Database} {req : AdminRequest}

theorem checkSamlParams_fits {body realm : Realm} (hbody : body.Fits)
    (h : Endpoints.checkSamlParams (X.withSaml E nanos) params body = .ok realm) : realm.Fits := by
  unfold Endpoints.checkSamlParams at h
  split at h
  · cases h
    exact hbody
  · rename_i saml hsaml
    split at h
    · cases h
    · split at h
      · cases h
      · split at h
        · cases h
        · rename_i accepted hv
          cases h
          obtain ⟨-, ⟨hjwt, hpassword, htotp, hold⟩, hages⟩ := hbody
          refine ⟨trivial, ⟨hjwt, hpassword, htotp, ?_⟩, hages⟩
          have hclaims := SamlParams.fits_iff.mp (hold saml hsaml)
          rintro _ ⟨⟩
          obtain ⟨⟨idp, rfl⟩, -⟩ := Saml.validateSamlParams_ok hv
          exact SamlParams.fits_iff.mpr hclaims

def AdminRequest.realmBody : AdminRequest → Option Realm
  | .createRealm body | .updateRealm _ body => some body
  | _ => none

theorem Writes.realms_fit (h : Writes (X.withSaml E nanos) params m requester db req db')
    (hdb : ∀ realm ∈ db.realm, realm.Fits) (hbody : ∀ body ∈ req.realmBody, body.Fits) :
    ∀ realm ∈ db'.realm, realm.Fits := by
  have hsame (he : db'.realm = db.realm) : ∀ realm ∈ db'.realm, realm.Fits := he ▸ hdb
  cases h with
  | createRealm body realm _ _ hc hd =>
    intro r hr
    rcases ((Database.createRealm_ok hd).2.1 r).mp hr with hr | rfl
    · exact hdb r hr
    · exact checkSamlParams_fits (hbody body rfl) hc
  | updateRealm id body realm _ hc =>
    have hid : ({ body with id := id } : Realm).Fits := ⟨trivial, (hbody body rfl).2⟩
    have hrealm := checkSamlParams_fits hid hc
    intro r hr
    simp only [Database.updateRealm, Table.mem_updateWhere] at hr
    obtain ⟨y, hy, rfl⟩ := hr
    split
    · exact ⟨trivial, hrealm.2⟩
    · exact hdb y hy
  | deleteRealm id => exact fun r hr => hdb r (Table.mem_deleteWhere.mp hr).1
  | createAdmin body => exact hsame (createAdmin_realm _ _)
  | updateAdmin id body => exact hsame (updateAdmin_realm _ _)
  | addAdminToRealm id realm => exact hsame (updateAdmin_realm _ _)
  | removeAdminFromRealm id realm => exact hsame (updateAdmin_realm _ _)
  | createUserpass realm hash body _ _ _ hd =>
    exact hsame ((autoLink_realm _ _ _).trans (Database.createUserpass_ok hd).2.2.1)
  | deleteUserpass realm user => exact hsame (autoUnlink_realm _ _ _)
  | totpVerify realm body _ _ _ hd => exact hsame (enableTotp_realm hd)
  | nothing | deleteAdmin | deleteAdminCascade | updateUserpass | updateUserpassMetadata
  | totpDisable => exact hdb

theorem step_realms_fit {s : ServerState} {c : Call} (hs : ∀ realm ∈ s.db.realm, realm.Fits)
    (hbody : ∀ query cookie req, c.request = .admin query cookie req →
      ∀ body ∈ req.realmBody, body.Fits) :
    ∀ realm ∈ (step (X.withSaml E nanos) params s c).db.realm, realm.Fits := by
  rcases @step_db (X.withSaml E nanos) params s c with
    hsame | ⟨query, cookie, req, requester, hreq, hwrites⟩
  · exact hsame ▸ hs
  · exact hwrites.realms_fit hs (hbody query cookie req hreq)

end

/-- What arrives at the server, with the bodies that hold a realm as documents. -/
inductive RealmArrival where
  | create (moment : Moment) (query : String) (cookie : Option String) (body : Document)
  | update (moment : Moment) (query : String) (cookie : Option String) (realmId : String)
      (body : Document)
  | other (call : Call)
      (h : ∀ query cookie req, call.request = .admin query cookie req → req.realmBody = none)

section
variable (X : Externals) (E : SamlCrates) (params : ServerParams)

/-- The extractor of the body comes after the middlewares and before the handler. -/
def refuseBody (s : ServerState) (claims : ClientClaims) : ServerState × Answer :=
  match adminAuth X s.db claims with
  | .error e => (s, .error e)
  | .ok _ => (s, .ok { status := 400, body := .message "Json deserialize error" })

def handleBody (s : ServerState) (m : Moment) (query : String) (cookie : Option String)
    (body : Document) (request : Realm → AdminRequest) : ServerState × Answer :=
  match Realm.fields.codec.read body with
  | some realm => handle X params s ⟨m, .admin query cookie (request realm)⟩
  | none => withRealm s (injectAdminRealm s.db) (withSession X s m cookie (refuseBody X))

def arriveRealm (s : ServerState) : RealmArrival → ServerState × Answer
  | .create m query cookie body =>
    handleBody (X.withSaml E m.nanos) params s m query cookie body .createRealm
  | .update m query cookie realmId body =>
    handleBody (X.withSaml E m.nanos) params s m query cookie body (.updateRealm realmId)
  | .other call _ => handle (X.withSaml E call.moment.nanos) params s call

end

section
variable {X : Externals} {E : SamlCrates} {params : ServerParams}

theorem handleBody_realms_fit {s : ServerState} {m : Moment} {query : String}
    {cookie : Option String} {body : Document} {request : Realm → AdminRequest}
    (hs : ∀ realm ∈ s.db.realm, realm.Fits)
    (hrequest : ∀ realm, (request realm).realmBody = some realm) :
    ∀ realm ∈ (handleBody (X.withSaml E m.nanos) params s m query cookie body request).1.db.realm,
      realm.Fits := by
  unfold handleBody
  cases hread : Realm.fields.codec.read body with
  | none =>
    have hdb : (withRealm s (injectAdminRealm s.db) (withSession (X.withSaml E m.nanos) s m cookie
        (refuseBody (X.withSaml E m.nanos)))).1.db = s.db := by
      rcases withRealm_cases with h | h
      · rw [h]
      · rw [h]
        refine withSession_db (fun s claims => ?_)
        unfold refuseBody
        split <;> rfl
    dsimp only
    rw [hdb]
    exact hs
  | some realm =>
    refine step_realms_fit hs ?_
    rintro _ _ _ ⟨⟩ body hbody
    rw [hrequest] at hbody
    cases hbody
    exact Realm.fields.codec.fits_of_read _ _ hread

theorem arriveRealm_realms_fit {s : ServerState} (a : RealmArrival)
    (hs : ∀ realm ∈ s.db.realm, realm.Fits) :
    ∀ realm ∈ (arriveRealm X E params s a).1.db.realm, realm.Fits := by
  cases a with
  | create m query cookie body => exact handleBody_realms_fit hs (fun _ => rfl)
  | update m query cookie realmId body => exact handleBody_realms_fit hs (fun _ => rfl)
  | other call h =>
    refine step_realms_fit hs (fun query cookie req hreq body hbody => ?_)
    rw [h query cookie req hreq] at hbody
    cases hbody

/-- After every run of the server the rows, read as JSON and written as JSON, do what the realms of
the model do: none of them fails to be read. -/
theorem realm_rows_mirror {s : ServerState} (hs : ∀ realm ∈ s.db.realm, realm.Fits)
    (arrivals : List RealmArrival) :
    let db := (run (fun s a => (arriveRealm X E params s a).1) s arrivals).db
    (RealmRows.ofTable db.realm).Mirrors db :=
  RealmRows.mirrors_ofTable
    (run_keeps _ (fun s : ServerState => ∀ realm ∈ s.db.realm, realm.Fits) hs
      (fun _ a h => arriveRealm_realms_fit a h) arrivals)

end

namespace Transparent

/-- A request for a realm without the members that have a default, and with one of another name. -/
def teamDocument : Document :=
  .object [("session_max_stale_age_seconds", .integer 1800),
    ("session_max_age_seconds", .integer 3600), ("owner", .text "alice"), ("id", .text "team"),
    ("auth_params", .object [("totp_params", .object []), ("jwt_params", .object
      [("idp_params", .list [.object
        [("jwks_uri", .text "https://idp/keys"), ("jwt_issuer_uri", .text "https://idp")]])])])]

def teamRealm : Realm :=
  { id := "team"
    authParams :=
      { jwtParams := some ⟨[⟨"https://idp", "https://idp/keys", none⟩], none⟩
        totpParams := some {} }
    sessionMaxAgeSeconds := 3600
    sessionMaxStaleAgeSeconds := 1800 }

def rootLoginArrival : RealmArrival := .other rootLogin (by
  intro query cookie req h
  cases h)

/-- The initial administrator logs in, sends a realm that cannot be read and one that can. -/
def teamArrivals : List RealmArrival :=
  [rootLoginArrival, .create (moment 1001) "" (some rootCookie) (.object [("id", .text "other")]),
    .create (moment 1002) "" (some rootCookie) teamDocument]

theorem realm_rows_mirror_team :
    (RealmRows.ofTable (run (fun s a => (arriveRealm externals samlCrates params s a).1) start
      teamArrivals).db.realm).listRealms = .ok [Database.adminRealmRecord, teamRealm] := by
  have hlist : (run (fun s a => (arriveRealm externals samlCrates params s a).1) start
      teamArrivals).db.listRealms = [Database.adminRealmRecord, teamRealm] := by decide +kernel
  have hstart : ∀ realm ∈ start.db.realm, realm.Fits := by
    intro realm hrealm
    obtain rfl : realm = Database.adminRealmRecord := List.mem_singleton.mp hrealm
    have hread : Realm.fields.codec.read (Realm.fields.codec.write Database.adminRealmRecord) =
        some Database.adminRealmRecord := by decide +kernel
    exact Realm.fields.codec.fits_of_read _ _ hread
  exact (realm_rows_mirror hstart teamArrivals).list.trans (congrArg Except.ok hlist)

end Transparent
end AuthVerifier
