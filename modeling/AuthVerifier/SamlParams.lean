import AuthVerifier.ClaimPolicy
import AuthVerifier.Lib.Text

/-!
The SAML settings of a realm, following `saml/params_validation.rs` and the return URLs of
`saml/endpoints.rs`. The metadata document is read by samael, URLs by the `url` crate and
certificates by `x509_cert`.
-/

set_option autoImplicit false

namespace AuthVerifier

structure KeyDescriptor where
  keyUse : Option String
  x509Data : Option (List String)
  deriving DecidableEq

structure SingleSignOnService where
  binding : String
  location : String
  deriving DecidableEq

structure IdpSsoDescriptor where
  protocolSupportEnumeration : Option String
  keyDescriptors : List KeyDescriptor
  singleSignOnServices : List SingleSignOnService
  nameIdFormats : List String
  deriving DecidableEq

/-- `validUntil` is in nanoseconds. -/
structure EntityDescriptor where
  entityId : Option String
  validUntil : Option Int
  idpSsoDescriptors : Option (List IdpSsoDescriptor)
  deriving DecidableEq

inductive EntityDescriptorType where
  | entityDescriptor (entity : EntityDescriptor)
  | entitiesDescriptor
  deriving DecidableEq

inductive Origin where
  | opaqueOrigin
  | tuple (scheme host : String) (port : Nat)
  deriving DecidableEq

def Origin.same : Origin → Origin → Bool
  | .tuple scheme host port, .tuple scheme' host' port' =>
    scheme == scheme' && host == host' && port == port'
  | _, _ => false

def defaultPort (scheme : String) : Option Nat :=
  if scheme == "http" || scheme == "ws" then some 80
  else if scheme == "https" || scheme == "wss" then some 443
  else if scheme == "ftp" then some 21
  else none

def Origin.asciiSerialization : Origin → String
  | .opaqueOrigin => "null"
  | .tuple scheme host port =>
    if defaultPort scheme = some port then scheme ++ "://" ++ host
    else scheme ++ "://" ++ host ++ ":" ++ toString port

/-- A parsed URL; `text` is how it is written out. -/
structure Url where
  text : String
  scheme : String
  username : String
  password : Option String
  hostStr : Option String
  path : String
  query : Option String
  fragment : Option String
  origin : Origin
  deriving DecidableEq

/-- What the SAML code calls: samael, `url`, `base64`, `x509_cert` and `str::to_lowercase`. -/
structure SamlCrates where
  readMetadata : String → Except String EntityDescriptorType
  parseUrl : String → Except String Url
  decodeBase64 : String → Except String (List UInt8)
  /-- The PEM text, once the certificate has been parsed. -/
  certificateFromDer : List UInt8 → Except String (Except String String)
  toLowercase : String → String

namespace Saml

def saml2Protocol : String := "urn:oasis:names:tc:SAML:2.0:protocol"
def nameidTransient : String := "urn:oasis:names:tc:SAML:2.0:nameid-format:transient"
def httpRedirectBinding : String := "urn:oasis:names:tc:SAML:2.0:bindings:HTTP-Redirect"
def maxMetadataBytes : Nat := 256 * 1024

def trimmed (s : String) : String := String.ofList (Text.trim s.toList)

def invalid (field reason : String) : SamlParamsError :=
  .badRequest s!"saml_params.{field}: {reason}"

structure IdpMetadata where
  entityId : String
  ssoUrl : String
  signingCertificates : List String
  nameidFormat : Option String
  deriving DecidableEq

section
variable (E : SamlCrates)

def redirectSsoUrl (idp : IdpSsoDescriptor) : Except SamlParamsError String :=
  match idp.singleSignOnServices.find? (fun s => s.binding == httpRedirectBinding) with
  | none => .error (invalid "metadata_xml"
      "no SingleSignOnService with the HTTP-Redirect binding")
  | some service => match E.parseUrl (trimmed service.location) with
    | .error e => .error (invalid "metadata_xml" s!"invalid SingleSignOnService URL: {e}")
    | .ok url =>
      if url.scheme ≠ "https" then
        .error (invalid "metadata_xml" "the SingleSignOnService URL must use https")
      else .ok url.text

def derCertificateToPem (base64Der : String) : Except SamlParamsError String :=
  let compact := String.ofList (base64Der.toList.filter (fun c => !Text.isWhiteSpace c))
  match E.decodeBase64 compact with
  | .error e => .error (invalid "metadata_xml" s!"an X509Certificate is not valid base64: {e}")
  | .ok der => match E.certificateFromDer der with
    | .error e =>
      .error (invalid "metadata_xml" s!"an X509Certificate is not a valid certificate: {e}")
    | .ok (.error e) => .error (.unexpected s!"failed to PEM-encode a certificate: {e}")
    | .ok (.ok pem) => .ok pem

/-- A descriptor without `use` is for signing too. -/
def KeyDescriptor.forSigning (key : KeyDescriptor) : Bool :=
  key.keyUse.all (fun use => use == "signing")

def signingCertificates (idp : IdpSsoDescriptor) : Except SamlParamsError (List String) :=
  let encoded := (idp.keyDescriptors.filter KeyDescriptor.forSigning).flatMap
    (fun key => key.x509Data.getD [])
  match encoded.mapM (derCertificateToPem E) with
  | .error e => .error e
  | .ok certificates =>
    if certificates.isEmpty then
      .error (invalid "metadata_xml" "no signing certificate in the IDPSSODescriptor")
    else .ok certificates

def IdpSsoDescriptor.supportsSaml2 (idp : IdpSsoDescriptor) : Bool :=
  idp.protocolSupportEnumeration.any
    (fun protocols => (Text.words protocols.toList).contains saml2Protocol.toList)

def readDescriptor (entityId : String) (idp : IdpSsoDescriptor) :
    Except SamlParamsError IdpMetadata :=
  match redirectSsoUrl E idp with
  | .error e => .error e
  | .ok ssoUrl => match signingCertificates E idp with
    | .error e => .error e
    | .ok certificates => .ok
        { entityId := entityId, ssoUrl := ssoUrl, signingCertificates := certificates,
          nameidFormat := idp.nameIdFormats.head?.map trimmed }

def readEntity (nanos : Int) (entity : EntityDescriptor) : Except SamlParamsError IdpMetadata :=
  match entity.entityId.filter (fun id => !Text.isBlank id) with
  | none => .error (invalid "metadata_xml" "missing the IdP entityID")
  | some entityId =>
    if entity.validUntil.any (fun validUntil => validUntil ≤ nanos) then
      .error (invalid "metadata_xml" "the metadata has expired (validUntil is in the past)")
    else match (entity.idpSsoDescriptors.getD []).find? IdpSsoDescriptor.supportsSaml2 with
      | none => .error (invalid "metadata_xml"
          "no IDPSSODescriptor supporting the SAML 2.0 protocol")
      | some idp => readDescriptor E entityId idp

def parseIdpMetadata (nanos : Int) (xml : String) : Except SamlParamsError IdpMetadata :=
  if xml.utf8ByteSize > maxMetadataBytes then
    .error (invalid "metadata_xml" s!"larger than the {maxMetadataBytes}-byte limit")
  else match E.readMetadata xml with
    | .error e => .error (invalid "metadata_xml"
        s!"not a SAML 2.0 <EntityDescriptor> document: {e}")
    | .ok .entitiesDescriptor => .error (invalid "metadata_xml"
        ("an <EntitiesDescriptor> bundle of several entities; paste the metadata of the single "
          ++ "IdP"))
    | .ok (.entityDescriptor entity) => readEntity E nanos entity

def validateSpFields (params : SamlParams) (realmId : String) : Except SamlParamsError Unit :=
  if Text.isBlank params.spEntityId then .error (invalid "sp_entity_id" "must not be empty")
  else match E.parseUrl params.spAcsUrl with
    | .error e => .error (invalid "sp_acs_url" s!"not a valid URL: {e}")
    | .ok acs =>
      let expectedPath := s!"/saml/{realmId}/acs"
      if acs.scheme ≠ "https" ∨ expectedPath.toList.isSuffixOf acs.path.toList = false then
        .error (invalid "sp_acs_url" s!"must be an https URL ending with {expectedPath}")
      else .ok ()

def checkClaimNames (seen : List String) : List String → Except SamlParamsError Unit
  | [] => .ok ()
  | claim :: claims =>
    if Text.isBlank claim then
      .error (invalid "attribute_claim_map" "claim names must not be empty")
    else if claim ∈ seen then
      .error (invalid "attribute_claim_map"
        s!"two SAML attributes map to the same claim '{claim}'")
    else checkClaimNames (claim :: seen) claims

/-- How the error of `reject_reserved_claim_names` is passed on. -/
def reservedClaim : AuthError → SamlParamsError
  | .badRequest reason => invalid "attribute_claim_map" reason
  -- that check raises nothing else
  | _ => .unexpected ""

def subjectAttributeSet (params : SamlParams) : Bool :=
  params.subjectAttribute.any (fun a => !Text.isBlank a)

def validateIdentityMapping (params : SamlParams) : Except SamlParamsError Unit :=
  if subjectAttributeSet params = false ∧ params.idpNameidFormat = some nameidTransient then
    .error (invalid "subject_attribute"
      "required because the IdP issues transient NameIDs, which change on every login")
  else if params.attributeClaimMap.any (fun entry => Text.isBlank entry.1) then
    .error (invalid "attribute_claim_map" "SAML attribute names must not be empty")
  else match checkClaimNames [] (params.attributeClaimMap.map Prod.snd) with
    | .error e => .error e
    | .ok () => match rejectReservedClaimNames (params.attributeClaimMap.map Prod.snd) with
      | .error e => .error (reservedClaim e)
      | .ok () => .ok ()

def allowedOrigins : List String → Except SamlParamsError (List String)
  | [] => .ok []
  | origin :: rest => match E.parseUrl origin with
    | .error e => .error (invalid "allowed_return_origins" s!"'{origin}' is not a valid URL: {e}")
    | .ok url =>
      if url.scheme ≠ "https" ∨ url.hostStr = none ∨ url.path ≠ "/" ∨ url.query.isSome ∨
          url.fragment.isSome ∨ url.username ≠ "" then
        .error (invalid "allowed_return_origins"
          s!"'{origin}' must be an https origin such as https://app.example.com")
      else match allowedOrigins rest with
        | .error e => .error e
        | .ok allowed => .ok (url.origin.asciiSerialization :: allowed)

def validateReturnUrls (params : SamlParams) : Except SamlParamsError Unit :=
  match allowedOrigins E params.allowedReturnOrigins with
  | .error e => .error e
  | .ok allowed => match E.parseUrl params.defaultReturnUrl with
    | .error e => .error (invalid "default_return_url" s!"not a valid URL: {e}")
    | .ok default =>
      if default.scheme ≠ "https" then .error (invalid "default_return_url" "must use https")
      else if default.origin.asciiSerialization ∉ allowed then
        .error (invalid "default_return_url"
          "its origin must be listed in allowed_return_origins")
      else .ok ()

def withMetadata (params : SamlParams) (idp : IdpMetadata) : SamlParams :=
  { params with
    idpEntityId := idp.entityId
    idpSsoUrl := idp.ssoUrl
    idpSigningCertificates := idp.signingCertificates
    idpNameidFormat := idp.nameidFormat }

def checkParams (params : SamlParams) (realmId : String) : Except SamlParamsError SamlParams :=
  match validateSpFields E params realmId with
  | .error e => .error e
  | .ok () => match validateIdentityMapping params with
    | .error e => .error e
    | .ok () => match validateReturnUrls E params with
      | .error e => .error e
      | .ok () => .ok params

def validateSamlParams (nanos : Int) (params : SamlParams) (realmId : String) :
    Except SamlParamsError SamlParams :=
  match (params.metadataXml.map trimmed).filter (fun xml => !xml.isEmpty) with
  | none => .error (invalid "metadata_xml" "the IdP metadata XML is required")
  | some xml => match parseIdpMetadata E nanos xml with
    | .error e => .error e
    | .ok idp => checkParams E (withMetadata params idp) realmId

def resolveReturnUrl (params : SamlParams) : Option String → Except AuthError String
  | none => .ok params.defaultReturnUrl
  | some raw => match E.parseUrl raw with
    | .error _ => .error (.badRequest "return_to is not a valid URL")
    | .ok url =>
      if url.scheme = "https" ∧ url.username = "" ∧ url.password = none ∧
          params.allowedReturnOrigins.any (fun allowed => match E.parseUrl allowed with
            | .ok allowed => allowed.origin.same url.origin
            | .error _ => false) then
        .ok url.text
      else .error (.badRequest
        "return_to is not under an allowed return origin of this realm")

end

/-- The claims of an identity mapping: each has one attribute and none is a typed claim. -/
structure MappedClaims (params : SamlParams) : Prop where
  nodup : (params.attributeClaimMap.map Prod.snd).Nodup
  disjoint : ∀ claim ∈ params.attributeClaimMap.map Prod.snd, claim ∉ reservedClaimNames

theorem checkClaimNames_ok {seen claims : List String} (h : checkClaimNames seen claims = .ok ()) :
    claims.Nodup ∧ ∀ claim ∈ claims, claim ∉ seen := by
  induction claims generalizing seen with
  | nil => simp
  | cons claim claims ih =>
    simp only [checkClaimNames] at h
    split at h
    · cases h
    · split at h
      · cases h
      · rename_i hnew
        obtain ⟨hnodup, hrest⟩ := ih h
        refine ⟨List.nodup_cons.mpr ⟨fun hmem => ?_, hnodup⟩, ?_⟩
        · exact hrest claim hmem List.mem_cons_self
        · intro c hc
          rcases List.mem_cons.mp hc with rfl | hc
          · exact hnew
          · exact fun hseen => hrest c hc (List.mem_cons_of_mem _ hseen)

theorem validateIdentityMapping_ok {params : SamlParams}
    (h : validateIdentityMapping params = .ok ()) : MappedClaims params := by
  unfold validateIdentityMapping at h
  split at h
  · cases h
  · split at h
    · cases h
    · split at h
      · cases h
      · rename_i hnames
        split at h
        · cases h
        · rename_i hreserved
          exact ⟨(checkClaimNames_ok hnames).1, rejectReservedClaimNames_ok hreserved⟩

theorem validateSamlParams_ok {E : SamlCrates} {nanos : Int} {params accepted : SamlParams}
    {realmId : String} (h : validateSamlParams E nanos params realmId = .ok accepted) :
    (∃ idp, accepted = withMetadata params idp) ∧ MappedClaims accepted := by
  unfold validateSamlParams at h
  split at h
  · cases h
  · split at h
    · cases h
    · rename_i idp _
      unfold checkParams at h
      split at h
      · cases h
      · split at h
        · cases h
        · rename_i hmapping
          split at h
          · cases h
          · cases h
            exact ⟨⟨idp, rfl⟩, validateIdentityMapping_ok hmapping⟩

end Saml
end AuthVerifier
