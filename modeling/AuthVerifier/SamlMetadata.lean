import AuthVerifier.Lib.Pointwise
import AuthVerifier.SamlParams
import AuthVerifier.Transparent

/-!
The IdP fields of accepted SAML settings. `validate_saml_params` overwrites them with those of the
metadata before it looks at any of them, so what was submitted in them makes no difference, and the
stored certificates are those that the metadata lists.
-/

set_option autoImplicit false

namespace AuthVerifier
namespace Saml

def SameButIdp (params params' : SamlParams) : Prop :=
  params' = { params with
    idpEntityId := params'.idpEntityId
    idpSsoUrl := params'.idpSsoUrl
    idpSigningCertificates := params'.idpSigningCertificates
    idpNameidFormat := params'.idpNameidFormat }

/-- The certificates that the metadata lists for signing, in document order. -/
def listedCertificates (idp : IdpSsoDescriptor) : List String :=
  (idp.keyDescriptors.filter KeyDescriptor.forSigning).flatMap (fun key => key.x509Data.getD [])

/-- The DER of a listed certificate, whatever white space its base64 is wrapped with. -/
def listedDer (E : SamlCrates) (base64Der : String) : Except String (List UInt8) :=
  E.decodeBase64 (String.ofList (base64Der.toList.filter (fun c => !Text.isWhiteSpace c)))

/-- The document that was submitted is the metadata of this entity, and the descriptor is its first
for SAML 2.0. -/
structure Describes (E : SamlCrates) (params : SamlParams) (entity : EntityDescriptor)
    (idp : IdpSsoDescriptor) : Prop where
  document : ∃ xml, params.metadataXml = some xml ∧
    E.readMetadata (trimmed xml) = .ok (.entityDescriptor entity)
  first : (entity.idpSsoDescriptors.getD []).find? IdpSsoDescriptor.supportsSaml2 = some idp

/-- The IdP fields are those of the metadata. `pemDer` reads a PEM text back. -/
structure FromMetadata (E : SamlCrates) (pemDer : String → Option (List UInt8))
    (params : SamlParams) (entity : EntityDescriptor) (idp : IdpSsoDescriptor) : Prop where
  entityId : entity.entityId = some params.idpEntityId ∧ Text.isBlank params.idpEntityId = false
  ssoUrl : ∃ service ∈ idp.singleSignOnServices, service.binding = httpRedirectBinding ∧
    ∃ url, E.parseUrl (trimmed service.location) = .ok url ∧ url.scheme = "https" ∧
      params.idpSsoUrl = url.text
  nameidFormat : params.idpNameidFormat = idp.nameIdFormats.head?.map trimmed
  someCertificate : params.idpSigningCertificates ≠ []
  /-- One stored certificate for each listed one: none is dropped and none is added. -/
  certificates : List.Forall₂ (fun listed stored => ∃ der,
    listedDer E listed = .ok der ∧ pemDer stored = some der)
      (listedCertificates idp) params.idpSigningCertificates

variable {E : SamlCrates} {nanos : Int} {params accepted : SamlParams} {realmId : String}

theorem SameButIdp.withMetadata {params' : SamlParams} (h : SameButIdp params params')
    (idp : IdpMetadata) : Saml.withMetadata params' idp = Saml.withMetadata params idp := by
  rw [h]
  rfl

theorem SameButIdp.validateSamlParams {params' : SamlParams} (h : SameButIdp params params') :
    Saml.validateSamlParams E nanos params' realmId = Saml.validateSamlParams E nanos params realmId := by
  have hxml : params'.metadataXml = params.metadataXml := by rw [h]
  unfold Saml.validateSamlParams
  simp only [hxml, h.withMetadata]

theorem derCertificateToPem_ok {listed pem : String}
    (h : derCertificateToPem E listed = .ok pem) :
    ∃ der, listedDer E listed = .ok der ∧ E.certificateFromDer der = .ok (.ok pem) := by
  unfold derCertificateToPem at h
  unfold listedDer
  dsimp only at h
  split at h
  · cases h
  · rename_i der hder
    split at h
    · cases h
    · cases h
    · rename_i hcertificate
      cases h
      exact ⟨der, hder, hcertificate⟩

theorem signingCertificates_ok {idp : IdpSsoDescriptor} {certificates : List String}
    (h : signingCertificates E idp = .ok certificates) :
    certificates ≠ [] ∧ List.Forall₂ (fun listed stored => derCertificateToPem E listed = .ok stored)
      (listedCertificates idp) certificates := by
  unfold signingCertificates at h
  dsimp only at h
  split at h
  · cases h
  · rename_i listed hlisted
    split at h
    · cases h
    · rename_i hsome
      cases h
      exact ⟨by simpa using hsome, Pointwise.mapM_ok_iff.mp hlisted⟩

theorem redirectSsoUrl_ok {idp : IdpSsoDescriptor} {ssoUrl : String}
    (h : redirectSsoUrl E idp = .ok ssoUrl) :
    ∃ service ∈ idp.singleSignOnServices, service.binding = httpRedirectBinding ∧
      ∃ url, E.parseUrl (trimmed service.location) = .ok url ∧ url.scheme = "https" ∧
        ssoUrl = url.text := by
  unfold redirectSsoUrl at h
  split at h
  · cases h
  · rename_i service hservice
    split at h
    · cases h
    · rename_i url hurl
      split at h
      · cases h
      · rename_i hscheme
        cases h
        have hbinding := List.find?_some hservice
        exact ⟨service, List.mem_of_find?_eq_some hservice, by simpa using hbinding, url, hurl,
          not_not.mp hscheme, rfl⟩

theorem parseIdpMetadata_ok {xml : String} {read : IdpMetadata}
    (h : parseIdpMetadata E nanos xml = .ok read) :
    ∃ entity idp, E.readMetadata xml = .ok (.entityDescriptor entity) ∧
      (entity.idpSsoDescriptors.getD []).find? IdpSsoDescriptor.supportsSaml2 = some idp ∧
      entity.entityId = some read.entityId ∧ Text.isBlank read.entityId = false ∧
      redirectSsoUrl E idp = .ok read.ssoUrl ∧
      signingCertificates E idp = .ok read.signingCertificates ∧
      read.nameidFormat = idp.nameIdFormats.head?.map trimmed := by
  unfold parseIdpMetadata at h
  split at h
  · cases h
  · split at h
    · cases h
    · cases h
    · rename_i entity hentity
      unfold readEntity at h
      split at h
      · cases h
      · rename_i entityId hid
        obtain ⟨hid, hblank⟩ := Option.filter_eq_some_iff.mp hid
        split at h
        · cases h
        · split at h
          · cases h
          · rename_i idp hidp
            unfold readDescriptor at h
            split at h
            · cases h
            · rename_i ssoUrl hsso
              split at h
              · cases h
              · rename_i certificates hcertificates
                cases h
                exact ⟨entity, idp, hentity, hidp, hid, by simpa using hblank, hsso, hcertificates,
                  rfl⟩

theorem accepted_metadata (h : validateSamlParams E nanos params realmId = .ok accepted) :
    ∃ xml read, params.metadataXml = some xml ∧
      parseIdpMetadata E nanos (trimmed xml) = .ok read ∧ accepted = withMetadata params read := by
  unfold validateSamlParams at h
  split at h
  · cases h
  · rename_i text htext
    obtain ⟨hmap, -⟩ := Option.filter_eq_some_iff.mp htext
    obtain ⟨xml, hxml, rfl⟩ := Option.map_eq_some_iff.mp hmap
    split at h
    · cases h
    · rename_i read hread
      refine ⟨xml, read, hxml, hread, ?_⟩
      unfold checkParams at h
      split at h
      · cases h
      · split at h
        · cases h
        · split at h
          · cases h
          · cases h
            rfl

theorem fromMetadata {pemDer : String → Option (List UInt8)}
    (hpem : ∀ der pem, E.certificateFromDer der = .ok (.ok pem) → pemDer pem = some der)
    (h : validateSamlParams E nanos params realmId = .ok accepted) :
    ∃ entity idp, Describes E accepted entity idp ∧ FromMetadata E pemDer accepted entity idp := by
  obtain ⟨xml, read, hxml, hread, rfl⟩ := accepted_metadata h
  obtain ⟨entity, idp, hentity, hidp, hid, hblank, hsso, hcertificates, hformat⟩ :=
    parseIdpMetadata_ok hread
  obtain ⟨hsome, hlisted⟩ := signingCertificates_ok hcertificates
  refine ⟨entity, idp, ⟨⟨xml, hxml, hentity⟩, hidp⟩, ⟨hid, hblank⟩, redirectSsoUrl_ok hsso, hformat,
    hsome, ?_⟩
  refine hlisted.imp fun listed stored hstored => ?_
  obtain ⟨der, hder, hcertificate⟩ := derCertificateToPem_ok hstored
  exact ⟨der, hder, hpem der stored hcertificate⟩

/-- The verdict and the accepted settings do not depend on the submitted IdP fields, and those of
accepted settings are the ones of the metadata. -/
theorem idp_fields_from_metadata (E : SamlCrates) (pemDer : String → Option (List UInt8))
    (hpem : ∀ der pem, E.certificateFromDer der = .ok (.ok pem) → pemDer pem = some der)
    (nanos : Int) (params : SamlParams) (realmId : String) :
    (∀ params', SameButIdp params params' →
      validateSamlParams E nanos params' realmId = validateSamlParams E nanos params realmId) ∧
    ∀ accepted, validateSamlParams E nanos params realmId = .ok accepted →
      ∃ entity idp, Describes E accepted entity idp ∧ FromMetadata E pemDer accepted entity idp :=
  ⟨fun _ h => h.validateSamlParams, fun _ h => fromMetadata hpem h⟩

end Saml

namespace Transparent

def isHostChar (c : Char) : Bool :=
  ('a' ≤ c && c ≤ 'z') || ('0' ≤ c && c ≤ '9') || c == '.' || c == '-'

def isPathChar (c : Char) : Bool := isHostChar c || ('A' ≤ c && c ≤ 'Z') || c == '/' || c == '_'

/-- URLs of the form `https://[user@]host[/path]`, in the characters that are written as they are. -/
def httpsUrl (user host path : List Char) : Url :=
  let path := if path.isEmpty then ['/'] else path
  { text := String.ofList ("https://".toList ++ (if user.isEmpty then [] else user ++ ['@']) ++ host ++
      path)
    scheme := "https", username := String.ofList user, password := none
    hostStr := some (String.ofList host), path := String.ofList path, query := none, fragment := none
    origin := .tuple "https" (String.ofList host) 443 }

def parseHttpsUrl (s : String) : Except String Url :=
  if "https://".toList.isPrefixOf s.toList then
    let rest := s.toList.drop 8
    let authority := rest.takeWhile (fun c => c != '/')
    let path := rest.dropWhile (fun c => c != '/')
    let (user, host) := (Text.splitOnce '@' authority).getD ([], authority)
    if user.all isHostChar = true ∧ host.all isHostChar = true ∧ host ≠ [] ∧
        path.all isPathChar = true then .ok (httpsUrl user host path)
    else .error "invalid domain character"
  else .error "relative URL without a base"

def pem (der : List UInt8) : String :=
  String.ofList ("PEM:".toList ++ der.map (fun b => Char.ofNat b.toNat))

def pemDer (text : String) : Option (List UInt8) :=
  some ((text.toList.drop 4).map (fun c => c.toNat.toUInt8))

theorem pemDer_pem (der : List UInt8) : pemDer (pem der) = some der := by
  have hdrop (cs : List Char) : ("PEM:".toList ++ cs).drop 4 = cs := rfl
  have htext : (pem der).toList = "PEM:".toList ++ der.map (fun b => Char.ofNat b.toNat) :=
    String.toList_ofList
  rw [pemDer, htext, hdrop, List.map_map]
  exact congrArg some ((List.map_congr_left fun b _ => ofNat_clearByte b).trans (List.map_id der))

def idpDocument : String :=
  "<EntityDescriptor entityID=\"https://idp.example/meta\"> ... </EntityDescriptor>"

def idpEntity : EntityDescriptor :=
  { entityId := some "https://idp.example/meta", validUntil := none
    idpSsoDescriptors := some
      [{ protocolSupportEnumeration := some "urn:oasis:names:tc:SAML:1.1:protocol"
         keyDescriptors := [], singleSignOnServices := [], nameIdFormats := [] },
       { protocolSupportEnumeration := some Saml.saml2Protocol
         keyDescriptors := [⟨some "encryption", some ["RU5D"]⟩, ⟨none, some ["U0lH\n", "TkVX"]⟩]
         singleSignOnServices := [⟨Saml.httpRedirectBinding, " https://idp.example/sso "⟩]
         nameIdFormats := [] }] }

def idpCrates : SamlCrates where
  readMetadata xml :=
    if xml = idpDocument then .ok (.entityDescriptor idpEntity) else .error "not an EntityDescriptor"
  parseUrl := parseHttpsUrl
  decodeBase64 s := match base64Bytes s.toList with
    | some bytes => .ok (bytes.map Nat.toUInt8)
    | none => .error "invalid length"
  certificateFromDer der := .ok (.ok (pem der))
  toLowercase s := s.map Char.toLower

def submittedParams : SamlParams :=
  { idpEntityId := "forged", idpSigningCertificates := ["PEM:forged"]
    metadataXml := some idpDocument, spEntityId := "acme"
    spAcsUrl := "https://auth.example/saml/acme/acs"
    allowedReturnOrigins := ["https://app.example"]
    defaultReturnUrl := "https://app.example/start" }

def acceptedParams : SamlParams :=
  { submittedParams with
    idpEntityId := "https://idp.example/meta", idpSsoUrl := "https://idp.example/sso"
    idpSigningCertificates := ["PEM:SIG", "PEM:NEW"] }

theorem validate_submittedParams :
    Saml.validateSamlParams idpCrates 0 submittedParams "acme" = .ok acceptedParams := by
  decide +kernel

theorem idp_fields_from_metadata_submittedParams :
    Saml.validateSamlParams idpCrates 0 { submittedParams with idpEntityId := "" } "acme" =
        .ok acceptedParams ∧
      ∃ entity idp, Saml.Describes idpCrates acceptedParams entity idp ∧
        Saml.FromMetadata idpCrates pemDer acceptedParams entity idp := by
  have hpem : ∀ der pem, idpCrates.certificateFromDer der = .ok (.ok pem) →
      pemDer pem = some der := by
    intro der text h
    cases h
    exact pemDer_pem der
  obtain ⟨hsame, haccepted⟩ :=
    Saml.idp_fields_from_metadata idpCrates pemDer hpem 0 submittedParams "acme"
  rw [hsame { submittedParams with idpEntityId := "" } rfl]
  exact ⟨validate_submittedParams, haccepted acceptedParams validate_submittedParams⟩

end Transparent
end AuthVerifier
