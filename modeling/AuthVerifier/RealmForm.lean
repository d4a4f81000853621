import AuthVerifier.Lib.Script
import AuthVerifier.Lib.UrlPath
import AuthVerifier.RealmRows

/-!
The realms page of the admin UI: `RealmsPage.tsx`, `RealmFormDrawer.tsx`, `JwtIdpList.tsx` and
`samlForm.ts`. The form edits the key URL of an identity provider as `jwks_url`, which the server
does not read, and has no field for the issuer. It does not send the lifetime of certificates.
-/

set_option autoImplicit false

namespace AuthVerifier
namespace RealmForm
open Effects Relational Transition Wire

/-- The value of an `InputNumber`. -/
inductive Number where
  | integer (n : Int)
  | decimal (digits : String)
  deriving DecidableEq

def Number.document : Number → Document
  | .integer n => .integer n
  | .decimal digits => .decimal digits

def orNull : Option Number → Document
  | none => .null
  | some n => n.document

structure ClaimMapping where
  attributeName : String := ""
  claim : String := ""
  deriving DecidableEq

structure SamlFormValues where
  metadataXml : String := ""
  spEntityId : String := ""
  spAcsUrl : String := ""
  subjectAttribute : Option String := none
  normalizeSubjectCase : Bool := false
  roleAttribute : Option String := none
  claimMap : List ClaimMapping := []
  allowedReturnOrigins : List String := []
  defaultReturnUrl : String := ""
  deriving DecidableEq

def toSamlFormValues : Option SamlParams → SamlFormValues
  | none => {}
  | some params =>
    { metadataXml := params.metadataXml.getD ""
      spEntityId := params.spEntityId
      spAcsUrl := params.spAcsUrl
      subjectAttribute := params.subjectAttribute
      normalizeSubjectCase := params.normalizeSubjectCase
      roleAttribute := params.roleAttribute
      claimMap := params.attributeClaimMap.map (fun e => ⟨e.1, e.2⟩)
      allowedReturnOrigins := params.allowedReturnOrigins
      defaultReturnUrl := params.defaultReturnUrl }

def trim (s : String) : String := String.ofList (Script.trim s.toList)

def optional (value : Option String) : Option String :=
  (value.map trim).filter (fun s => s ≠ "")

def toSamlParams (values : SamlFormValues) : SamlParams :=
  { metadataXml := some (trim values.metadataXml)
    spEntityId := trim values.spEntityId
    spAcsUrl := trim values.spAcsUrl
    subjectAttribute := optional values.subjectAttribute
    normalizeSubjectCase := values.normalizeSubjectCase
    roleAttribute := optional values.roleAttribute
    attributeClaimMap :=
      fromEntries (values.claimMap.map (fun m => (trim m.attributeName, trim m.claim)))
    allowedReturnOrigins := values.allowedReturnOrigins.map trim
    defaultReturnUrl := trim values.defaultReturnUrl }

def isSamlDirty (current : SamlFormValues) (saved : Option SamlParams) : Bool :=
  toSamlParams current ≠ toSamlParams (toSamlFormValues saved)

/-- An item of the provider list; one that was added has no value before it is typed into. -/
abbrev IdpItem := Option Entries

structure FormValues where
  id : String := ""
  sessionMaxAgeSeconds : Option Number := some (.integer 3600)
  sessionMaxStaleAgeSeconds : Option Number := some (.integer 1800)
  allowExpiredPasswords : Bool := false
  idpParams : List IdpItem := []
  smallestRefreshIntervalSeconds : Option Number := none
  totpAlgorithm : Option String := none
  totpStep : Option Number := none
  saml : SamlFormValues := {}

structure Drawer where
  realm : Option Realm
  values : FormValues := {}
  upEnabled : Bool := true
  jwtEnabled : Bool := false
  totpEnabled : Bool := false
  samlEnabled : Bool := false

/-- The rules of the SAML section are left open, and so is what a number of the server is to a
script, which has integers up to `2 ^ 53` only. -/
structure Browser where
  double : Int → Int
  origin : String
  samlPasses : (realmId : String) → SamlFormValues → Bool

variable (B : Browser)

def Browser.number (n : Int) : Number := .integer (B.double n)

/-- `useEffect` for a realm of the list: the providers keep all their members. -/
def Drawer.ofRealm (realm : Realm) : Drawer where
  realm := some realm
  values :=
    { id := realm.id
      sessionMaxAgeSeconds := some (B.number realm.sessionMaxAgeSeconds)
      sessionMaxStaleAgeSeconds := some (B.number realm.sessionMaxStaleAgeSeconds)
      allowExpiredPasswords :=
        (realm.authParams.usernamePasswordParams.map (·.allowExpiredPasswords)).getD false
      idpParams := match realm.authParams.jwtParams with
        | none => []
        | some jwt => jwt.idpParams.map (fun idp => some (IdpParams.fields.write idp))
      smallestRefreshIntervalSeconds := some <|
        match realm.authParams.jwtParams.bind (·.smallestRefreshIntervalSeconds) with
        | none => .integer 300
        | some n => B.number n
      totpAlgorithm := some ((realm.authParams.totpParams.map (·.algorithm)).getD "SHA1")
      totpStep := some ((realm.authParams.totpParams.map (fun t => B.number t.step)).getD
        (.integer 30))
      saml := toSamlFormValues realm.authParams.samlParams }
  upEnabled := realm.authParams.usernamePasswordParams.isSome
  jwtEnabled := realm.authParams.jwtParams.isSome
  totpEnabled := realm.authParams.totpParams.isSome
  samlEnabled := realm.authParams.samlParams.isSome

inductive Edit where
  | id (value : String)
  | sessionMaxAge (value : Option Number)
  | sessionMaxStaleAge (value : Option Number)
  | allowExpiredPasswords (value : Bool)
  | addProvider
  | removeProvider (i : Nat)
  | jwksUrl (i : Nat) (value : String)
  | jwtAudience (i : Nat) (value : String)
  | refreshInterval (value : Option Number)
  | totpAlgorithm (value : String)
  | totpStep (value : Option Number)
  | saml (values : SamlFormValues)
  | toggleUp (checked : Bool)
  | toggleJwt (checked : Bool)
  | toggleTotp (checked : Bool)
  | toggleSaml (checked : Bool)

def typeInto (name value : String) (item : IdpItem) : IdpItem :=
  some (put (item.getD []) (name, .text value))

def withDefaultSpUrls (d : Drawer) : SamlFormValues :=
  if d.values.id = "" ∨ d.values.saml.spAcsUrl ≠ "" then d.values.saml
  else
    let entityId := B.origin ++ "/saml/" ++ String.ofList (UrlPath.component d.values.id)
    { d.values.saml with spEntityId := entityId, spAcsUrl := entityId ++ "/acs" }

def Drawer.edit (d : Drawer) : Edit → Drawer
  | .id value => if d.realm.isSome then d else { d with values := { d.values with id := value } }
  | .sessionMaxAge value => { d with values := { d.values with sessionMaxAgeSeconds := value } }
  | .sessionMaxStaleAge value =>
    { d with values := { d.values with sessionMaxStaleAgeSeconds := value } }
  | .allowExpiredPasswords value =>
    { d with values := { d.values with allowExpiredPasswords := value } }
  | .addProvider => { d with values := { d.values with idpParams := d.values.idpParams ++ [none] } }
  | .removeProvider i =>
    { d with values := { d.values with idpParams := d.values.idpParams.eraseIdx i } }
  | .jwksUrl i value => { d with values := { d.values with
      idpParams := d.values.idpParams.modify i (typeInto "jwks_url" value) } }
  | .jwtAudience i value => { d with values := { d.values with
      idpParams := d.values.idpParams.modify i (typeInto "jwt_audience" value) } }
  | .refreshInterval value =>
    { d with values := { d.values with smallestRefreshIntervalSeconds := value } }
  | .totpAlgorithm value => { d with values := { d.values with totpAlgorithm := some value } }
  | .totpStep value => { d with values := { d.values with totpStep := value } }
  | .saml values => { d with values := { d.values with saml := values } }
  | .toggleUp checked => { d with upEnabled := checked }
  | .toggleJwt checked => { d with jwtEnabled := checked }
  | .toggleTotp checked => { d with totpEnabled := checked }
  | .toggleSaml checked =>
    let saml := if checked then withDefaultSpUrls B d else d.values.saml
    { d with samlEnabled := checked, values := { d.values with saml := saml } }

def idpPasses (item : IdpItem) : Bool :=
  match under "jwks_url" (item.getD []) with
  | [.text url] => url ≠ ""
  | _ => false

/-- `validateFields`: the rules of the fields on display. -/
def Drawer.validates (d : Drawer) : Bool :=
  d.values.id ≠ "" && d.values.sessionMaxAgeSeconds.isSome &&
    d.values.sessionMaxStaleAgeSeconds.isSome &&
    (!d.jwtEnabled || d.values.idpParams.all idpPasses) &&
    (!d.samlEnabled || B.samlPasses d.values.id d.values.saml)

def Drawer.toggleDirty (d : Drawer) (orig : RealmAuthParams) : Bool :=
  d.upEnabled ≠ orig.usernamePasswordParams.isSome || d.jwtEnabled ≠ orig.jwtParams.isSome ||
    d.totpEnabled ≠ orig.totpParams.isSome || d.samlEnabled ≠ orig.samlParams.isSome

def Drawer.formDirty (d : Drawer) (orig : Realm) : Bool :=
  d.values.sessionMaxAgeSeconds ≠ some (B.number orig.sessionMaxAgeSeconds) ||
    d.values.sessionMaxStaleAgeSeconds ≠ some (B.number orig.sessionMaxStaleAgeSeconds) ||
    (d.upEnabled && d.values.allowExpiredPasswords ≠
      (orig.authParams.usernamePasswordParams.map (·.allowExpiredPasswords)).getD false) ||
    (d.jwtEnabled && d.values.smallestRefreshIntervalSeconds ≠
      (orig.authParams.jwtParams.bind (·.smallestRefreshIntervalSeconds)).map B.number) ||
    (d.totpEnabled && d.values.totpAlgorithm.getD "SHA1" ≠
      (orig.authParams.totpParams.map (·.algorithm)).getD "SHA1") ||
    (d.totpEnabled && d.values.totpStep.getD (.integer 30) ≠
      (orig.authParams.totpParams.map (fun t => B.number t.step)).getD (.integer 30)) ||
    (d.samlEnabled && isSamlDirty d.values.saml orig.authParams.samlParams)

def Drawer.canSubmit (d : Drawer) : Bool :=
  d.validates B && match d.realm with
    | none => true
    | some orig => d.formDirty B orig || d.toggleDirty orig.authParams

def IdpItem.document : IdpItem → Document
  | none => .null
  | some ms => .object ms

def Drawer.jwtParams (d : Drawer) : Document :=
  if d.jwtEnabled then .object
    [("idp_params", .list (d.values.idpParams.map IdpItem.document)),
      ("smallest_refresh_interval_seconds", orNull d.values.smallestRefreshIntervalSeconds)]
  else .null

def Drawer.authParams (d : Drawer) : Entries :=
  [("username_password_params", if d.upEnabled then
      .object [("allow_expired_passwords", .bool d.values.allowExpiredPasswords)] else .null),
    ("jwt_params", d.jwtParams),
    ("totp_params", if d.totpEnabled then .object
        [("algorithm", .text (d.values.totpAlgorithm.getD "SHA1")),
          ("step", (d.values.totpStep.getD (.integer 30)).document)] else .null),
    ("saml_params", if d.samlEnabled then
      SamlParams.fields.codec.write (toSamlParams d.values.saml) else .null)]

def Drawer.payload (d : Drawer) : Entries :=
  [("id", .text d.values.id), ("auth_params", .object d.authParams),
    ("session_max_age_seconds", orNull d.values.sessionMaxAgeSeconds),
    ("session_max_stale_age_seconds", orNull d.values.sessionMaxStaleAgeSeconds)]

structure Tab where
  realms : List Realm := []
  drawer : Option Drawer := none

structure World where
  db : Database
  tabs : Nat → Tab := fun _ => {}

def World.setTab (w : World) (tab : Nat) (t : Tab) : World :=
  { w with tabs := fun i => if i = tab then t else w.tabs i }

inductive Event where
  | fetchRealms (tab : Nat) (requester : Admin)
  | handleEdit (tab i : Nat)
  | handleCreate (tab : Nat)
  | handleDrawerClose (tab : Nat)
  | edit (tab : Nat) (e : Edit)
  | handleSubmit (tab : Nat) (requester : Admin)
  | handleDelete (tab i : Nat) (requester : Admin)

section
variable (X : Externals) (params : ServerParams)

/-- The answer to what a drawer sends; there is no handler for a body that is no realm. -/
def Drawer.submit (d : Drawer) (requester : Admin) (db : Database) :
    Option (Outcome Database AuthError HttpResponse) :=
  (Realm.fields.codec.read (.object d.payload)).map fun body => match d.realm with
    | some realm => Endpoints.updateRealm X params requester realm.id body db
    | none => Endpoints.createRealm X params requester body db

/-- `handleSubmit`: what succeeds closes the drawer. -/
def World.submit (w : World) (tab : Nat) (d : Drawer) (requester : Admin) : World :=
  match d.submit X params requester w.db with
  | none => w
  | some ⟨db, .error _⟩ => { w with db := db }
  | some ⟨db, .ok _⟩ => { w with db := db }.setTab tab { w.tabs tab with drawer := none }

def World.step (w : World) : Event → World
  | .fetchRealms tab requester => match (Endpoints.listRealms requester w.db).result with
    | .ok { body := .realms realms, .. } => w.setTab tab { w.tabs tab with realms := realms }
    | _ => w
  | .handleEdit tab i => match (w.tabs tab).realms[i]? with
    | none => w
    | some realm => w.setTab tab { w.tabs tab with drawer := some (.ofRealm B realm) }
  | .handleCreate tab => w.setTab tab { w.tabs tab with drawer := some { realm := none } }
  | .handleDrawerClose tab => w.setTab tab { w.tabs tab with drawer := none }
  | .edit tab e => w.setTab tab { w.tabs tab with drawer := (w.tabs tab).drawer.map (·.edit B e) }
  | .handleSubmit tab requester => match (w.tabs tab).drawer with
    | none => w
    | some d => if d.canSubmit B then w.submit X params tab d requester else w
  | .handleDelete tab i requester => match (w.tabs tab).realms[i]? with
    | none => w
    | some realm => { w with db := (Endpoints.deleteRealm requester realm.id w.db).state }

end

theorem under_of_idp_read {ms : Entries} {idp : IdpParams}
    (h : IdpParams.fields.read ms = some idp) :
    under "jwt_issuer_uri" ms = [.text idp.jwtIssuerUri] ∧
      under "jwks_uri" ms = [.text idp.jwksUri] := by
  have htext {name s : String} (h : (Fields.required name .text).read ms = some s) :
      under name ms = [.text s] := by
    obtain ⟨d, hd, hs⟩ := Fields.required_read_eq_some.mp h
    cases d <;> cases hs
    exact hd
  obtain ⟨hissuer, hjwks, -⟩ := IdpParams.read_eq_some.mp h
  exact ⟨htext hissuer, htext hjwks⟩

def IdpItem.ReadAs (item : IdpItem) (idp : IdpParams) : Prop :=
  IdpParams.fields.codec.read item.document = some idp

theorem jwtParams_read {d : Drawer} {jwt : JwtParams}
    (h : JwtParams.fields.codec.read d.jwtParams = some jwt) :
    List.Forall₂ IdpItem.ReadAs d.values.idpParams jwt.idpParams := by
  obtain ⟨ms, hms, hread⟩ := Fields.codec_read_eq_some.mp h
  unfold Drawer.jwtParams at hms
  split at hms
  · cases hms
    obtain ⟨hidps, -⟩ := JwtParams.read_eq_some.mp hread
    rw [Fields.required, Fields.member_read (by simp [under]; rfl)] at hidps
    obtain ⟨ds, hds, hall⟩ := Codec.list_read_eq_some.mp hidps
    cases hds
    exact (List.forall₂_map_left_iff (f := IdpItem.document)).mp hall
  · cases hms

/-- A saved realm has the id of the form and certificates of one year. Its providers are the items
of the list, each of which must be a provider. -/
theorem payload_read {d : Drawer} {body : Realm} (h : Realm.fields.read d.payload = some body) :
    body.id = d.values.id ∧ body.certificateMaxAgeSeconds = defaultCertificateMaxAgeSeconds ∧
      ∀ jwt, body.authParams.jwtParams = some jwt →
        List.Forall₂ IdpItem.ReadAs d.values.idpParams jwt.idpParams := by
  have hunder : under "id" d.payload = [.text d.values.id] ∧
      under "auth_params" d.payload = [.object d.authParams] ∧
      under "certificate_max_age_seconds" d.payload = [] := by
    simp [under, Drawer.payload]
  have hjwtUnder : under "jwt_params" d.authParams = [d.jwtParams] := by
    simp [under, Drawer.authParams]
  obtain ⟨hid, hsettings, -, -, hcertificate⟩ := Realm.read_eq_some.mp h
  refine ⟨?_, ?_, fun jwt hjwt => ?_⟩
  · rw [Fields.required, Fields.member_read hunder.1] at hid
    exact (Option.some.inj hid).symm
  · rw [Fields.defaulted, Fields.member_read_missing hunder.2.2] at hcertificate
    exact (Option.some.inj hcertificate).symm
  · rw [Fields.required, Fields.member_read hunder.2.1] at hsettings
    obtain ⟨hjwtRead, -⟩ := RealmAuthParams.read_eq_some.mp hsettings
    rw [Fields.nullable_read hjwtUnder, hjwt] at hjwtRead
    exact jwtParams_read (Codec.option_read_eq_some.mp hjwtRead)

/-- A realm of the database has a provider with this issuer and this key URI. -/
def Provided (db : Database) (realmId issuer jwks : String) : Prop :=
  ∃ realm ∈ db.realm, realm.id = realmId ∧ ∃ jwt, realm.authParams.jwtParams = some jwt ∧
    ∃ idp ∈ jwt.idpParams, idp.jwtIssuerUri = issuer ∧ idp.jwksUri = jwks

def FromProvided (db : Database) (realm : Realm) : Prop :=
  ∀ jwt, realm.authParams.jwtParams = some jwt →
    ∀ idp ∈ jwt.idpParams, Provided db realm.id idp.jwtIssuerUri idp.jwksUri

def ItemProvided (db : Database) (realmId : String) (item : IdpItem) : Prop :=
  ∀ issuer jwks, under "jwt_issuer_uri" (item.getD []) = [.text issuer] →
    under "jwks_uri" (item.getD []) = [.text jwks] → Provided db realmId issuer jwks

def Drawer.ItemsProvided (d : Drawer) (db : Database) : Prop :=
  ∀ item ∈ d.values.idpParams, match d.realm with
    | some realm => ItemProvided db realm.id item
    | none => under "jwt_issuer_uri" (item.getD []) = []

structure World.Provided (db : Database) (w : World) : Prop where
  stored : ∀ realm ∈ w.db.realm, FromProvided db realm
  listed : ∀ tab, ∀ realm ∈ (w.tabs tab).realms, FromProvided db realm
  edited : ∀ tab, ∀ d ∈ (w.tabs tab).drawer, d.ItemsProvided db

section
variable {B : Browser} {X : Externals} {params : ServerParams} {db : Database} {w : World}

theorem fromProvided_of_mem {realm : Realm} (h : realm ∈ db.realm) : FromProvided db realm :=
  fun jwt hjwt idp hidp => ⟨realm, h, rfl, jwt, hjwt, idp, hidp, rfl, rfl⟩

theorem under_typeInto {name other : String} (h : other ≠ name) (value : String) (item : IdpItem) :
    under other ((typeInto name value item).getD []) = under other (item.getD []) :=
  under_put_of_ne h _

theorem itemsProvided_ofRealm {realm : Realm} (h : FromProvided db realm) :
    (Drawer.ofRealm B realm).ItemsProvided db := by
  intro item hitem issuer jwks hissuer hjwks
  simp only [Drawer.ofRealm] at hitem
  split at hitem
  · cases hitem
  · rename_i jwt hjwt
    obtain ⟨idp, hidp, rfl⟩ := List.mem_map.mp hitem
    have hfits : IdpParams.fields.Fits idp := ⟨trivial, trivial, fun _ _ => trivial⟩
    obtain ⟨hissuer', hjwks'⟩ := under_of_idp_read (IdpParams.fields.read_write idp hfits)
    obtain rfl : idp.jwtIssuerUri = issuer := by simpa using hissuer'.symm.trans hissuer
    obtain rfl : idp.jwksUri = jwks := by simpa using hjwks'.symm.trans hjwks
    exact h jwt hjwt idp hidp

theorem mem_modify {α : Type} {f : α → α} {l : List α} {i : Nat} {x : α} (h : x ∈ l.modify i f) :
    x ∈ l ∨ ∃ y ∈ l, f y = x := by
  obtain ⟨j, hj, rfl⟩ := List.mem_iff_getElem.mp h
  rw [List.getElem_modify]
  split
  · exact .inr ⟨_, List.getElem_mem _, rfl⟩
  · exact .inl (List.getElem_mem _)

def IdpItem.Agrees (item old : IdpItem) : Prop :=
  under "jwt_issuer_uri" (item.getD []) = under "jwt_issuer_uri" (old.getD []) ∧
    under "jwks_uri" (item.getD []) = under "jwks_uri" (old.getD [])

theorem agrees_typeInto {name : String} (hissuer : "jwt_issuer_uri" ≠ name)
    (hjwks : "jwks_uri" ≠ name) (value : String) (item : IdpItem) :
    IdpItem.Agrees (typeInto name value item) item :=
  ⟨under_typeInto hissuer value item, under_typeInto hjwks value item⟩

theorem edit_items (d : Drawer) (e : Edit) : (d.edit B e).realm = d.realm ∧
    ∀ item ∈ (d.edit B e).values.idpParams,
      ∃ old, (old ∈ d.values.idpParams ∨ old = none) ∧ IdpItem.Agrees item old := by
  have hkept {items : List IdpItem} (h : ∀ item ∈ items, item ∈ d.values.idpParams ∨ item = none) :
      ∀ item ∈ items, ∃ old, (old ∈ d.values.idpParams ∨ old = none) ∧ IdpItem.Agrees item old :=
    fun item hitem => ⟨item, h item hitem, rfl, rfl⟩
  have htyped {name : String} (value : String) (i : Nat) (hissuer : "jwt_issuer_uri" ≠ name)
      (hjwks : "jwks_uri" ≠ name) : ∀ item ∈ d.values.idpParams.modify i (typeInto name value),
      ∃ old, (old ∈ d.values.idpParams ∨ old = none) ∧ IdpItem.Agrees item old := by
    intro item hitem
    rcases mem_modify hitem with hold | ⟨old, hold, rfl⟩
    · exact ⟨item, .inl hold, rfl, rfl⟩
    · exact ⟨old, .inl hold, agrees_typeInto hissuer hjwks value old⟩
  cases e with
  | id value =>
    simp only [Drawer.edit]
    split <;> exact ⟨rfl, hkept (fun _ => .inl)⟩
  | addProvider =>
    refine ⟨rfl, hkept (fun item hitem => ?_)⟩
    simpa [Drawer.edit] using hitem
  | removeProvider i => exact ⟨rfl, hkept (fun _ hitem => .inl (List.mem_of_mem_eraseIdx hitem))⟩
  | jwksUrl i value => exact ⟨rfl, htyped value i (by decide) (by decide)⟩
  | jwtAudience i value => exact ⟨rfl, htyped value i (by decide) (by decide)⟩
  | _ => exact ⟨rfl, hkept (fun _ => .inl)⟩

theorem itemsProvided_edit {d : Drawer} (h : d.ItemsProvided db) (e : Edit) :
    (d.edit B e).ItemsProvided db := by
  obtain ⟨hrealm, hitems⟩ := edit_items (B := B) d e
  intro item hitem
  obtain ⟨old, hold, hissuer, hjwks⟩ := hitems item hitem
  rw [hrealm]
  rcases hold with hold | rfl
  · have hprovided := h old hold
    split at hprovided
    · simp only [ItemProvided, hissuer, hjwks]
      exact hprovided
    · simp only [hissuer]
      exact hprovided
  · split
    · intro issuer jwks hi
      rw [hissuer] at hi
      cases hi
    · exact hissuer

theorem checkSamlParams_ok {body realm : Realm}
    (h : Endpoints.checkSamlParams X params body = .ok realm) :
    ∃ saml, realm = { body with authParams := { body.authParams with samlParams := saml } } := by
  unfold Endpoints.checkSamlParams at h
  split at h
  · cases h
    exact ⟨body.authParams.samlParams, rfl⟩
  · split at h
    · cases h
    · split at h
      · cases h
      · split at h
        · cases h
        · rename_i accepted _
          cases h
          exact ⟨some accepted, rfl⟩

theorem mem_updateRealm {realm row : Realm} (h : row ∈ (db.updateRealm realm).realm) :
    row ∈ db.realm ∧ row.id ≠ realm.id ∨ row = realm := by
  simp only [Database.updateRealm, Table.mem_updateWhere_key] at h
  rcases h with hold | ⟨old, hold, hid, rfl⟩
  · exact .inl hold
  · refine .inr ?_
    simp only [hid]

def Drawer.realmId (d : Drawer) : String := (d.realm.map Realm.id).getD d.values.id

/-- What a save stores where it is acknowledged: the record of one realm, with certificates of one
year, whose providers are the items of the list. -/
structure Drawer.Saved (d : Drawer) (before after : Database) (realm : Realm) : Prop where
  id : realm.id = d.realmId
  certificate : realm.certificateMaxAgeSeconds = defaultCertificateMaxAgeSeconds
  providers : ∀ jwt, realm.authParams.jwtParams = some jwt →
    List.Forall₂ IdpItem.ReadAs d.values.idpParams jwt.idpParams
  rows : ∀ row ∈ after.realm, row ∈ before.realm ∧ row.id ≠ realm.id ∨ row = realm

theorem saved_of_check {d : Drawer} {before after : Database} {body realm : Realm} {id : String}
    (hbody : Realm.fields.read d.payload = some body) (hid : id = d.realmId)
    (hcheck : Endpoints.checkSamlParams X params { body with id := id } = .ok realm)
    (hrows : ∀ row ∈ after.realm, row ∈ before.realm ∧ row.id ≠ realm.id ∨ row = realm) :
    d.Saved before after realm := by
  obtain ⟨-, hcertificate, hproviders⟩ := payload_read hbody
  obtain ⟨saml, rfl⟩ := checkSamlParams_ok hcheck
  exact ⟨hid, hcertificate, hproviders, hrows⟩

theorem submit_cases {d : Drawer} {requester : Admin}
    {out : Outcome Database AuthError HttpResponse}
    (h : d.submit X params requester db = some out) :
    (out.state = db ∧ ∃ e, out.result = .error e) ∨
      ∃ realm response, out.result = .ok response ∧ d.Saved db out.state realm := by
  obtain ⟨body, hbody, rfl⟩ := Option.map_eq_some_iff.mp h
  cases hrealm : d.realm with
  | none =>
    simp only [Endpoints.createRealm]
    split
    · exact .inl ⟨rfl, _, rfl⟩
    · split
      · exact .inl ⟨rfl, _, rfl⟩
      · rename_i realm hcheck
        split
        · exact .inl ⟨rfl, _, rfl⟩
        · rename_i after hcreate
          obtain ⟨hnew, hrows, -⟩ := Database.createRealm_ok hcreate
          refine .inr ⟨realm, _, rfl, saved_of_check hbody ?_ hcheck (fun row hrow => ?_)⟩
          · rw [Drawer.realmId, hrealm, (payload_read hbody).1]
            rfl
          · rcases (hrows row).mp hrow with hold | rfl
            · exact .inl ⟨hold, fun he => hnew (he ▸ Table.key_mem_keys hold)⟩
            · exact .inr rfl
  | some orig =>
    simp only [Endpoints.updateRealm]
    split
    · exact .inl ⟨rfl, _, rfl⟩
    · split
      · exact .inl ⟨rfl, _, rfl⟩
      · rename_i realm hcheck
        refine .inr ⟨realm, _, rfl, saved_of_check hbody ?_ hcheck (fun row => mem_updateRealm)⟩
        rw [Drawer.realmId, hrealm]
        rfl

theorem fromProvided_saved {d : Drawer} {before after : Database} {realm : Realm}
    (hd : d.ItemsProvided db) (hs : d.Saved before after realm) : FromProvided db realm := by
  intro jwt hjwt idp hidp
  obtain ⟨item, hitem, hread⟩ := Pointwise.exists_of_mem_right (hs.providers jwt hjwt) hidp
  cases item with
  | none => cases hread
  | some ms =>
    obtain ⟨hissuer, hjwks⟩ := under_of_idp_read hread
    have hprovided := hd (some ms) hitem
    rw [hs.id, Drawer.realmId]
    split at hprovided
    · rename_i orig horig
      rw [horig]
      exact hprovided _ _ hissuer hjwks
    · cases hissuer.symm.trans hprovided

theorem listed_mem {requester : Admin} {response : HttpResponse} {realms : List Realm}
    (h : (Endpoints.listRealms requester db).result = .ok response)
    (hbody : response.body = .realms realms) : ∀ realm ∈ realms, realm ∈ db.realm := by
  cases h
  cases hbody
  intro realm hrealm
  refine (List.mem_insertionSort _).mp (show realm ∈ db.listRealms from ?_)
  split at hrealm
  · exact hrealm
  · exact (List.mem_filter.mp hrealm).1

theorem deleteRealm_mem {requester : Admin} {realmId : String} {realm : Realm}
    (h : realm ∈ (Endpoints.deleteRealm requester realmId db).state.realm) : realm ∈ db.realm := by
  unfold Endpoints.deleteRealm at h
  split at h
  · exact h
  · exact (Table.mem_deleteWhere.mp h).1

theorem provided_setTab {tab : Nat} {t : Tab} (h : w.Provided db)
    (hlisted : ∀ realm ∈ t.realms, FromProvided db realm)
    (hedited : ∀ d ∈ t.drawer, d.ItemsProvided db) : (w.setTab tab t).Provided db := by
  refine ⟨h.stored, fun i => ?_, fun i => ?_⟩
  · simp only [World.setTab]
    split
    · exact hlisted
    · exact h.listed i
  · simp only [World.setTab]
    split
    · exact hedited
    · exact h.edited i

theorem provided_submit {tab : Nat} {d : Drawer} {requester : Admin} (h : w.Provided db)
    (hd : d.ItemsProvided db) : (w.submit X params tab d requester).Provided db := by
  unfold World.submit
  cases hout : d.submit X params requester w.db with
  | none => exact h
  | some out =>
    obtain ⟨after, result⟩ := out
    have hstored : ∀ realm ∈ after.realm, FromProvided db realm := by
      intro row hrow
      rcases submit_cases hout with ⟨hsame, -⟩ | ⟨realm, response, -, hs⟩
      · exact h.stored row (hsame ▸ hrow)
      · rcases hs.rows row hrow with ⟨hold, -⟩ | rfl
        · exact h.stored row hold
        · exact fromProvided_saved hd hs
    have hafter : ({ w with db := after } : World).Provided db := ⟨hstored, h.listed, h.edited⟩
    cases result with
    | error e => exact hafter
    | ok response => exact provided_setTab hafter (h.listed tab) (by simp)

theorem provided_step (h : w.Provided db) (e : Event) : (w.step B X params e).Provided db := by
  cases e with
  | fetchRealms tab requester =>
    simp only [World.step]
    split
    · rename_i hresult
      refine provided_setTab h (fun realm hrealm => h.stored realm ?_) (h.edited tab)
      exact listed_mem hresult rfl realm hrealm
    · exact h
  | handleEdit tab i =>
    simp only [World.step]
    split
    · exact h
    · rename_i realm hrealm
      refine provided_setTab h (h.listed tab) ?_
      rintro _ ⟨⟩
      exact itemsProvided_ofRealm (h.listed tab realm (List.mem_of_getElem? hrealm))
  | handleCreate tab =>
    refine provided_setTab h (h.listed tab) ?_
    rintro _ ⟨⟩ item ⟨⟩
  | handleDrawerClose tab => exact provided_setTab h (h.listed tab) (by simp)
  | edit tab e =>
    refine provided_setTab h (h.listed tab) (fun d hd => ?_)
    obtain ⟨old, hold, rfl⟩ := Option.map_eq_some_iff.mp hd
    exact itemsProvided_edit (h.edited tab old hold) e
  | handleSubmit tab requester =>
    simp only [World.step]
    split
    · exact h
    · rename_i d hd
      split
      · exact provided_submit h (h.edited tab d hd)
      · exact h
  | handleDelete tab i requester =>
    simp only [World.step]
    split
    · exact h
    · exact ⟨fun realm hrealm => h.stored realm (deleteRealm_mem hrealm), h.listed, h.edited⟩

end

/-- Whatever is done on the page, in any number of tabs and however stale their lists: a provider of
a realm has the issuer and the key URI of a provider that the realm of this id had at the start.
Adding one, or typing another key URL, has no effect on what is stored. -/
theorem providers_fixed (B : Browser) (X : Externals) (params : ServerParams) (db : Database)
    (events : List Event) (realm : Realm)
    (hrealm : realm ∈ (run (World.step B X params) { db := db } events).db.realm)
    (jwt : JwtParams) (hjwt : realm.authParams.jwtParams = some jwt) (idp : IdpParams)
    (hidp : idp ∈ jwt.idpParams) : Provided db realm.id idp.jwtIssuerUri idp.jwksUri := by
  have hstart : World.Provided db { db := db } :=
    ⟨fun _ => fromProvided_of_mem, by simp, by simp⟩
  have hend := run_keeps (World.step B X params) (World.Provided db) hstart
    (fun _ e h => provided_step h e) events
  exact hend.stored realm hrealm jwt hjwt idp hidp

def exactBrowser : Browser := ⟨id, "https://auth.example.com", fun _ _ => true⟩

def superAdmin : Admin := { id := "admin", realms := ["_"] }

def keysRealm : Realm :=
  { Database.adminRealmRecord with
    authParams :=
      { jwtParams := some ⟨[⟨"https://idp", "https://idp/keys", some "auth"⟩], some 300⟩
        usernamePasswordParams := some ⟨true⟩ }
    certificateMaxAgeSeconds := 7 * 24 * 3600 }

def keysDb : Database := (Database.fresh Transparent.initialHash).updateRealm keysRealm

/-- Another key URL and another refresh interval are typed in, and saved. -/
def retype : List Event :=
  [.fetchRealms 0 superAdmin, .handleEdit 0 0, .edit 0 (.jwksUrl 0 "https://other/keys"),
    .edit 0 (.refreshInterval (some (.integer 600))), .handleSubmit 0 superAdmin]

def retypedRealm : Realm :=
  { keysRealm with
    authParams :=
      { jwtParams := some ⟨[⟨"https://idp", "https://idp/keys", some "auth"⟩], some 600⟩
        usernamePasswordParams := some ⟨true⟩ }
    certificateMaxAgeSeconds := 365 * 24 * 3600 }

/-- The provider is taken off the list, and another refresh interval saved. -/
def remove : List Event :=
  [.fetchRealms 0 superAdmin, .handleEdit 0 0, .edit 0 (.removeProvider 0),
    .edit 0 (.refreshInterval (some (.integer 600))), .handleSubmit 0 superAdmin]

theorem providers_fixed_retyped :
    retypedRealm ∈ (run (World.step exactBrowser Transparent.externals Transparent.params)
      { db := keysDb } retype).db.realm ∧ Provided keysDb "_" "https://idp" "https://idp/keys" ∧
    { retypedRealm with authParams :=
        { retypedRealm.authParams with jwtParams := some ⟨[], some 600⟩ } } ∈
      (run (World.step exactBrowser Transparent.externals Transparent.params)
        { db := keysDb } remove).db.realm := by
  have hmem : retypedRealm ∈ (run (World.step exactBrowser Transparent.externals Transparent.params)
      { db := keysDb } retype).db.realm := by decide
  refine ⟨hmem, ?_, by decide⟩
  exact providers_fixed exactBrowser Transparent.externals Transparent.params keysDb retype
    retypedRealm hmem ⟨[⟨"https://idp", "https://idp/keys", some "auth"⟩], some 600⟩ rfl
    ⟨"https://idp", "https://idp/keys", some "auth"⟩ List.mem_cons_self

def Saves (B : Browser) (X : Externals) (params : ServerParams) (w : World) (realmId : String)
    (e : Event) : Prop :=
  ∃ tab requester d out response, e = .handleSubmit tab requester ∧
    (w.tabs tab).drawer = some d ∧ d.canSubmit B = true ∧
    d.submit X params requester w.db = some out ∧ out.result = .ok response ∧ d.realmId = realmId

section
variable {B : Browser} {X : Externals} {params : ServerParams} {w : World}

theorem saves_iff {tab : Nat} {requester : Admin} {d : Drawer} {realmId : String}
    (hd : (w.tabs tab).drawer = some d) :
    Saves B X params w realmId (.handleSubmit tab requester) ↔ d.canSubmit B = true ∧
      ∃ out response, d.submit X params requester w.db = some out ∧ out.result = .ok response ∧
        d.realmId = realmId := by
  constructor
  · rintro ⟨tab', requester', d', out, response, ⟨⟩, hd', hcan, hout, hok, hid⟩
    rw [hd] at hd'
    cases hd'
    exact ⟨hcan, out, response, hout, hok, hid⟩
  · rintro ⟨hcan, out, response, hout, hok, hid⟩
    exact ⟨tab, requester, d, out, response, rfl, hd, hcan, hout, hok, hid⟩

theorem submit_db (w : World) (tab : Nat) (d : Drawer) (requester : Admin) :
    (w.submit X params tab d requester).db =
      ((d.submit X params requester w.db).map Outcome.state).getD w.db := by
  unfold World.submit
  split
  · rw [‹d.submit X params requester w.db = _›]
    rfl
  · rw [‹d.submit X params requester w.db = _›]
    rfl
  · rw [‹d.submit X params requester w.db = _›]
    rfl

theorem step_row {e : Event} {row : Realm} (h : row ∈ (w.step B X params e).db.realm) :
    row ∈ w.db.realm ∧ ¬ Saves B X params w row.id e ∨
      row.certificateMaxAgeSeconds = defaultCertificateMaxAgeSeconds ∧
        Saves B X params w row.id e := by
  have hkept (hrow : row ∈ w.db.realm) (he : ∀ tab requester, e ≠ .handleSubmit tab requester) :
      row ∈ w.db.realm ∧ ¬ Saves B X params w row.id e :=
    ⟨hrow, fun ⟨tab, requester, _, _, _, hsubmit, _⟩ => he tab requester hsubmit⟩
  cases e with
  | fetchRealms tab requester =>
    refine .inl (hkept ?_ (by simp))
    simp only [World.step] at h
    split at h <;> exact h
  | handleEdit tab i =>
    refine .inl (hkept ?_ (by simp))
    simp only [World.step] at h
    split at h <;> exact h
  | handleCreate tab => exact .inl (hkept h (by simp))
  | handleDrawerClose tab => exact .inl (hkept h (by simp))
  | edit tab e => exact .inl (hkept h (by simp))
  | handleSubmit tab requester =>
    cases hd : (w.tabs tab).drawer with
    | none =>
      simp only [World.step, hd] at h
      refine .inl ⟨h, ?_⟩
      rintro ⟨_, _, d, _, _, ⟨⟩, hd', -⟩
      cases hd.symm.trans hd'
    | some d =>
      simp only [World.step, hd] at h
      simp only [saves_iff hd]
      split at h
      · rename_i hcan
        rw [submit_db] at h
        cases hout : d.submit X params requester w.db with
        | none =>
          rw [hout] at h
          exact .inl ⟨h, by simp⟩
        | some out =>
          rw [hout] at h
          rcases submit_cases hout with ⟨hsame, e, he⟩ | ⟨realm, response, hok, hs⟩
          · exact .inl ⟨hsame ▸ h, by simp [he]⟩
          · rcases hs.rows row h with ⟨hold, hne⟩ | rfl
            · refine .inl ⟨hold, ?_⟩
              rintro ⟨-, _, _, -, -, hid⟩
              exact hne (hid.symm.trans hs.id.symm)
            · exact .inr ⟨hs.certificate, hcan, out, response, rfl, hok, hs.id.symm⟩
      · rename_i hcan
        exact .inl ⟨h, fun hsaves => hcan hsaves.1⟩
  | handleDelete tab i requester =>
    refine .inl (hkept ?_ (by simp))
    simp only [World.step] at h
    split at h
    · exact h
    · exact deleteRealm_mem h

end

/-- A realm that has been saved on the page has certificates of one year, whatever their lifetime
was before. One that has not is as it was at the start. -/
theorem certificate_lifetime_reset (B : Browser) (X : Externals) (params : ServerParams)
    (db : Database) (events : List Event) (realm : Realm)
    (hrealm : realm ∈ (run (World.step B X params) { db := db } events).db.realm) :
    let steps := trace (World.step B X params) { db := db } events
    realm ∈ db.realm ∧ (∀ x ∈ steps, ¬ Saves B X params x.1 realm.id x.2) ∨
      realm.certificateMaxAgeSeconds = defaultCertificateMaxAgeSeconds ∧
        ∃ x ∈ steps, Saves B X params x.1 realm.id x.2 :=
  run_written (World.step B X params) (fun w row => row ∈ w.db.realm)
    (fun w e row => Saves B X params w row.id e)
    (fun row => row.certificateMaxAgeSeconds = defaultCertificateMaxAgeSeconds)
    (fun _ _ _ h => step_row h) events hrealm

theorem certificate_lifetime_reset_retyped :
    retypedRealm.certificateMaxAgeSeconds = 365 * 24 * 3600 ∧
      ∃ x ∈ trace (World.step exactBrowser Transparent.externals Transparent.params)
        { db := keysDb } retype,
        Saves exactBrowser Transparent.externals Transparent.params x.1 "_" x.2 := by
  have hmem : retypedRealm ∈ (run (World.step exactBrowser Transparent.externals Transparent.params)
      { db := keysDb } retype).db.realm := by decide
  have hold : retypedRealm ∉ keysDb.realm := by decide
  rcases certificate_lifetime_reset exactBrowser Transparent.externals Transparent.params keysDb
    retype retypedRealm hmem with ⟨hsame, -⟩ | hsaved
  · exact absurd hsame hold
  · exact hsaved

def Edit.ofProviders : Edit → Bool
  | .addProvider | .removeProvider _ | .jwksUrl .. | .jwtAudience .. => true
  | _ => false

def Drawer.withItems (d : Drawer) (items : List IdpItem) : Drawer :=
  { d with values := { d.values with idpParams := items } }

theorem edit_withItems {B : Browser} {e : Edit} (h : e.ofProviders = true) (d : Drawer)
    (items : List IdpItem) : ∃ items', (d.withItems items).edit B e = d.withItems items' := by
  cases e with
  | addProvider | removeProvider | jwksUrl | jwtAudience => exact ⟨_, rfl⟩
  | _ => cases h

theorem foldl_edit_withItems {B : Browser} {edits : List Edit}
    (h : ∀ e ∈ edits, e.ofProviders = true) (d : Drawer) (items : List IdpItem) :
    ∃ items', edits.foldl (Drawer.edit B) (d.withItems items) = d.withItems items' := by
  induction edits generalizing items with
  | nil => exact ⟨items, rfl⟩
  | cons e edits ih =>
    obtain ⟨he, hedits⟩ := List.forall_mem_cons.mp h
    obtain ⟨next, hnext⟩ := edit_withItems (B := B) he d items
    rw [List.foldl_cons, hnext]
    exact ih hedits next

theorem toggleDirty_ofRealm (B : Browser) (realm : Realm) (items : List IdpItem) :
    ((Drawer.ofRealm B realm).withItems items).toggleDirty realm.authParams = false := by
  simp [Drawer.toggleDirty, Drawer.withItems, Drawer.ofRealm]

theorem formDirty_ofRealm (B : Browser) (realm : Realm) (items : List IdpItem) :
    ((Drawer.ofRealm B realm).withItems items).formDirty B realm = true ↔
      ∃ jwt, realm.authParams.jwtParams = some jwt ∧ jwt.smallestRefreshIntervalSeconds = none := by
  have hsaml : isSamlDirty (toSamlFormValues realm.authParams.samlParams)
      realm.authParams.samlParams = false := by simp [isSamlDirty]
  cases hjwt : realm.authParams.jwtParams with
  | none => simp [Drawer.formDirty, Drawer.withItems, Drawer.ofRealm, hsaml, hjwt]
  | some jwt =>
    cases hinterval : jwt.smallestRefreshIntervalSeconds <;>
      simp [Drawer.formDirty, Drawer.withItems, Drawer.ofRealm, hsaml, hjwt, hinterval]

/-- Whatever is done to the list of providers and to nothing else, the realm can be saved only if
its refresh interval was not set: the change of the list is no reason to enable the button. -/
theorem save_of_provider_edits_iff (B : Browser) (realm : Realm) (edits : List Edit)
    (h : ∀ e ∈ edits, e.ofProviders = true) :
    let d := edits.foldl (Drawer.edit B) (.ofRealm B realm)
    d.canSubmit B = true ↔ d.validates B = true ∧
      ∃ jwt, realm.authParams.jwtParams = some jwt ∧ jwt.smallestRefreshIntervalSeconds = none := by
  obtain ⟨items, hitems⟩ :=
    foldl_edit_withItems (B := B) h (.ofRealm B realm) (Drawer.ofRealm B realm).values.idpParams
  have hd : edits.foldl (Drawer.edit B) (.ofRealm B realm) =
      (Drawer.ofRealm B realm).withItems items := hitems
  have hrealm : ((Drawer.ofRealm B realm).withItems items).realm = some realm := rfl
  simp only [hd, Drawer.canSubmit, hrealm, toggleDirty_ofRealm, Bool.or_false, Bool.and_eq_true,
    formDirty_ofRealm]

/-- Taking the only provider off the list does not enable the button. -/
theorem save_of_provider_edits_iff_removed :
    ¬ ((Drawer.ofRealm exactBrowser keysRealm).edit exactBrowser (.removeProvider 0)).canSubmit
      exactBrowser = true := by
  intro h
  obtain ⟨-, jwt, hjwt, hnone⟩ := (save_of_provider_edits_iff exactBrowser keysRealm
    [.removeProvider 0] (by decide)).mp h
  cases hjwt
  cases hnone

end RealmForm
end AuthVerifier
