import AuthVerifier.MetadataPreview
import AuthVerifier.SamlMetadata

/-!
The preview of IdP metadata in the admin UI against what the server derives from it. Both read the
same elements; samael hands the server some of them as typed values.
-/

set_option autoImplicit false

namespace AuthVerifier
namespace MetadataPreview
open Markup X509

/-- The text of an element, where white space around it may have been dropped. -/
def SameText (e : Element) (s : String) : Prop := Text.trim s.toList = Text.trim e.textContent

def listedElements (key : Element) : List Element :=
  (key.childrenNamed "KeyInfo".toList).flatMap fun info =>
    (info.childrenNamed "X509Data".toList).flatMap fun data =>
      data.childrenNamed "X509Certificate".toList

structure ReadsKey (e : Element) (key : KeyDescriptor) : Prop where
  keyUse : key.keyUse = (e.getAttribute "use".toList).map String.ofList
  certificates : List.Forall₂ SameText (listedElements e) (key.x509Data.getD [])

structure ReadsService (e : Element) (service : SingleSignOnService) : Prop where
  binding : e.getAttribute "Binding".toList = some service.binding.toList
  location : e.getAttribute "Location".toList = some service.location.toList

structure ReadsDescriptor (e : Element) (idp : IdpSsoDescriptor) : Prop where
  protocols : idp.protocolSupportEnumeration =
    (e.getAttribute "protocolSupportEnumeration".toList).map String.ofList
  keys : List.Forall₂ ReadsKey (e.childrenNamed "KeyDescriptor".toList) idp.keyDescriptors
  services : List.Forall₂ ReadsService (e.childrenNamed "SingleSignOnService".toList)
    idp.singleSignOnServices
  formats : List.Forall₂ SameText (e.childrenNamed "NameIDFormat".toList) idp.nameIdFormats

/-- `instant` is the time in nanoseconds that a text stands for. -/
structure ReadsEntity (instant : List Char → Option Int) (root : Element)
    (entity : EntityDescriptor) : Prop where
  entityId : entity.entityId = (root.getAttribute "entityID".toList).map String.ofList
  validUntil : entity.validUntil = (root.getAttribute "validUntil".toList).bind instant
  descriptors : List.Forall₂ ReadsDescriptor (root.childrenNamed "IDPSSODescriptor".toList)
    (entity.idpSsoDescriptors.getD [])

def SameTree (E : SamlCrates) (instant : List Char → Option Int) (xml : String) (root : Element) :
    Prop :=
  ∀ entity, E.readMetadata xml = .ok (.entityDescriptor entity) → ReadsEntity instant root entity

def storedSupportsSaml2 (descriptor : Element) : Bool :=
  (descriptor.getAttribute "protocolSupportEnumeration".toList).any fun protocols =>
    (Text.words protocols).contains saml2Protocol

def storedDescriptor (root : Element) : Option Element :=
  (root.childrenNamed "IDPSSODescriptor".toList).find? storedSupportsSaml2

def storedElements (idp : Element) : List Element := (signingKeys idp).flatMap listedElements

def storedDer (E : SamlCrates) (e : Element) : Except String (List UInt8) :=
  Saml.listedDer E (String.ofList e.textContent)

def StoredAs (E : SamlCrates) (e : Element) (pem : String) : Prop :=
  ∃ der, storedDer E e = .ok der ∧ E.certificateFromDer der = .ok (.ok pem)

/-- The rules of the server, where `idp` is the descriptor that it takes. -/
structure Accepted (E : SamlCrates) (instant : List Char → Option Int) (nanos : Int) (xml : String)
    (root idp : Element) : Prop where
  read : ∃ entity, E.readMetadata xml = .ok (.entityDescriptor entity)
  entityId : ∃ id, root.getAttribute "entityID".toList = some id ∧
    Text.isBlank (String.ofList id) = false
  current : ∀ validUntil, root.getAttribute "validUntil".toList = some validUntil →
    ∀ time, instant validUntil = some time → nanos < time
  descriptor : storedDescriptor root = some idp
  ssoUrl : ∃ location url, redirectLocation idp = some location ∧
    E.parseUrl (Saml.trimmed (String.ofList location)) = .ok url ∧ url.scheme = "https"
  someCertificate : storedElements idp ≠ []
  certificates : ∀ e ∈ storedElements idp, ∃ pem, StoredAs E e pem

structure Derived (E : SamlCrates) (root idp : Element) (out : Saml.IdpMetadata) : Prop where
  entityId : root.getAttribute "entityID".toList = some out.entityId.toList
  ssoUrl : ∃ location url, redirectLocation idp = some location ∧
    E.parseUrl (Saml.trimmed (String.ofList location)) = .ok url ∧ out.ssoUrl = url.text
  certificates : List.Forall₂ (StoredAs E) (storedElements idp) out.signingCertificates
  nameidFormat : out.nameidFormat.map String.toList =
    (idp.childrenNamed "NameIDFormat".toList).head?.map fun format => Text.trim format.textContent

/-- The administrator sees what the server derives. A certificate is compared by its DER, which
`pemDer` reads from a PEM text. -/
structure Same (pemDer : String → Option (List UInt8)) (s : IdpMetadataSummary)
    (out : Saml.IdpMetadata) : Prop where
  entityId : s.entityId = out.entityId.toList
  ssoUrl : s.ssoUrl = out.ssoUrl.toList
  certificates : (s.certificates.map fun certificate => Script.atob certificate.base64) =
    out.signingCertificates.map pemDer
  nameIdFormat : s.nameIdFormats.head? = out.nameidFormat.map String.toList

structure Agrees (B : Browser) (E : SamlCrates) (pemDer : String → Option (List UInt8)) (nanos : Int)
    (xml : String) : Prop where
  accepted : (∃ s, parseIdpMetadata B (nanos / 1000000) xml = .ok s ∧ s.AllReadable) ↔
    ∃ out, Saml.parseIdpMetadata E nanos xml = .ok out
  same : ∀ s out, parseIdpMetadata B (nanos / 1000000) xml = .ok s → s.AllReadable →
    Saml.parseIdpMetadata E nanos xml = .ok out → Same pemDer s out

/-- The address is written as the server writes it out, the certificates of the two descriptors are
the same, and so is the first format when both have trimmed it. -/
structure Alike (E : SamlCrates) (shown stored : Element) : Prop where
  ssoUrl : ∀ location url, redirectLocation stored = some location →
    E.parseUrl (Saml.trimmed (String.ofList location)) = .ok url →
      redirectLocation shown = some url.text.toList
  certificates : ((certificateElements shown).map fun e =>
      Script.atob (Script.removeSpaces e.textContent)) =
    (storedElements stored).map fun e => (storedDer E e).toOption
  nameIdFormat : ((shown.childrenNamed "NameIDFormat".toList).head?.map fun format =>
      Script.trim format.textContent) =
    (stored.childrenNamed "NameIDFormat".toList).head?.map fun format =>
      Text.trim format.textContent

/-- The document keeps the rules of both and reads alike, or it breaks a rule of each. -/
def RulesCoincide (B : Browser) (E : SamlCrates) (instant : List Char → Option Int) (nanos : Int)
    (xml : String) (root : Element) : Prop :=
  (∃ shown stored, Shown B (nanos / 1000000) root shown ∧
    Accepted E instant nanos xml root stored ∧ Alike E shown stored) ∨
  ((∀ idp, ¬ Shown B (nanos / 1000000) root idp) ∧
    ∀ idp, ¬ Accepted E instant nanos xml root idp)

theorem filter_trim (cs : List Char) :
    (Text.trim cs).filter (fun c => !Text.isWhiteSpace c) =
      cs.filter fun c => !Text.isWhiteSpace c := by
  obtain ⟨before, after, hcs, hbefore, hafter⟩ := Text.trim_parts cs
  have hnone (ds : List Char) (h : ∀ c ∈ ds, Text.isWhiteSpace c = true) :
      ds.filter (fun c => !Text.isWhiteSpace c) = [] :=
    List.filter_eq_nil_iff.mpr fun c hc => by simp [h c hc]
  conv_rhs => rw [hcs, List.filter_append, List.filter_append, hnone before hbefore,
    hnone after hafter, List.nil_append, List.append_nil]

section
variable {E : SamlCrates} {nanos : Int} {e : Element} {idp : IdpSsoDescriptor}

theorem listedDer_of_sameText {s : String} (h : SameText e s) :
    Saml.listedDer E s = storedDer E e := by
  have hcompact : s.toList.filter (fun c => !Text.isWhiteSpace c) =
      e.textContent.filter fun c => !Text.isWhiteSpace c := by
    rw [← filter_trim, h, filter_trim]
  rw [storedDer, Saml.listedDer, Saml.listedDer, hcompact, String.toList_ofList]

theorem ReadsDescriptor.supportsSaml2 (h : ReadsDescriptor e idp) :
    storedSupportsSaml2 e = Saml.IdpSsoDescriptor.supportsSaml2 idp := by
  rw [storedSupportsSaml2, Saml.IdpSsoDescriptor.supportsSaml2, h.protocols]
  cases e.getAttribute "protocolSupportEnumeration".toList with
  | none => rfl
  | some protocols =>
    rw [Option.map_some, Option.any_some, Option.any_some, String.toList_ofList]
    rfl

theorem ReadsDescriptor.redirectLocation (h : ReadsDescriptor e idp) : redirectLocation e =
    (idp.singleSignOnServices.find? fun s => s.binding == Saml.httpRedirectBinding).map
      fun service => service.location.toList := by
  have hfind := Pointwise.find?_rel (p := fun service =>
      service.getAttribute "Binding".toList == some httpRedirectBinding)
    (q := fun s => s.binding == Saml.httpRedirectBinding) h.services fun a b hab => by
      have hbinding : httpRedirectBinding = Saml.httpRedirectBinding.toList := rfl
      rw [hab.binding, Bool.eq_iff_iff, beq_iff_eq, beq_iff_eq, Option.some.injEq, hbinding,
        String.toList_inj]
  rw [MetadataPreview.redirectLocation]
  generalize (e.childrenNamed "SingleSignOnService".toList).find? _ = found at hfind ⊢
  generalize idp.singleSignOnServices.find? _ = service at hfind ⊢
  cases hfind with
  | none => rfl
  | some hservice => exact hservice.location

theorem ReadsDescriptor.certificates (h : ReadsDescriptor e idp) :
    List.Forall₂ SameText (storedElements e) (Saml.listedCertificates idp) := by
  have hsigning : ∀ ⦃key key'⦄, ReadsKey key key' →
      ((key.getAttribute "use".toList).getD "signing".toList == "signing".toList ↔
        Saml.KeyDescriptor.forSigning key') := by
    intro key key' hkey
    rw [Saml.KeyDescriptor.forSigning, hkey.keyUse, beq_iff_eq]
    cases key.getAttribute "use".toList with
    | none => simp
    | some use =>
      rw [Option.getD_some, Option.map_some, Option.all_some, beq_iff_eq]
      exact ⟨fun huse => by rw [huse]; rfl, fun huse => by simpa using congrArg String.toList huse⟩
  exact List.rel_flatMap (List.rel_filter hsigning h.keys) fun _ _ hkey => hkey.certificates

theorem derCertificateToPem_of_sameText {s : String} (h : SameText e s) (pem : String) :
    Saml.derCertificateToPem E s = .ok pem ↔ StoredAs E e pem := by
  constructor
  · intro hpem
    obtain ⟨der, hder, hcertificate⟩ := Saml.derCertificateToPem_ok hpem
    exact ⟨der, (listedDer_of_sameText h).symm.trans hder, hcertificate⟩
  · rintro ⟨der, hder, hcertificate⟩
    rw [← listedDer_of_sameText h, Saml.listedDer] at hder
    simp only [Saml.derCertificateToPem, hder, hcertificate]

theorem redirectSsoUrl_ok_iff (h : ReadsDescriptor e idp) {ssoUrl : String} :
    Saml.redirectSsoUrl E idp = .ok ssoUrl ↔ ∃ location url,
      MetadataPreview.redirectLocation e = some location ∧
        E.parseUrl (Saml.trimmed (String.ofList location)) = .ok url ∧ url.scheme = "https" ∧
        ssoUrl = url.text := by
  rw [h.redirectLocation, Saml.redirectSsoUrl]
  cases idp.singleSignOnServices.find? (fun s => s.binding == Saml.httpRedirectBinding) with
  | none => simp
  | some service =>
    simp only [Option.map_some, Option.some.injEq, exists_and_left, exists_eq_left',
      String.ofList_toList]
    cases E.parseUrl (Saml.trimmed service.location) with
    | error e => simp
    | ok url =>
      by_cases hscheme : url.scheme = "https"
      · simp [hscheme, eq_comm]
      · simp [hscheme]

theorem signingCertificates_ok_iff (h : ReadsDescriptor e idp) {certificates : List String} :
    Saml.signingCertificates E idp = .ok certificates ↔
      certificates ≠ [] ∧ List.Forall₂ (StoredAs E) (storedElements e) certificates := by
  rw [← Pointwise.forall₂_iff_of_rel h.certificates fun _ _ hsame =>
      derCertificateToPem_of_sameText hsame, ← Pointwise.mapM_ok_iff, Saml.signingCertificates,
    ← Saml.listedCertificates]
  cases (Saml.listedCertificates idp).mapM (Saml.derCertificateToPem E) with
  | error e => simp
  | ok pems =>
    cases pems with
    | nil => simp +contextual [eq_comm]
    | cons pem pems => simp +contextual [eq_comm]

theorem parseIdpMetadata_eq_readEntity {xml : String} (hsize : xml.utf8ByteSize ≤ maxMetadataBytes)
    {entity : EntityDescriptor} (hread : E.readMetadata xml = .ok (.entityDescriptor entity)) :
    Saml.parseIdpMetadata E nanos xml = Saml.readEntity E nanos entity := by
  have hlimit : ¬ xml.utf8ByteSize > Saml.maxMetadataBytes := Nat.not_lt.mpr hsize
  rw [Saml.parseIdpMetadata, if_neg hlimit, hread]

theorem current_of_readEntity {entity : EntityDescriptor} {out : Saml.IdpMetadata}
    (h : Saml.readEntity E nanos entity = .ok out) :
    ∀ time, entity.validUntil = some time → nanos < time := by
  intro time htime
  unfold Saml.readEntity at h
  split at h
  · cases h
  · split at h
    · cases h
    · rename_i hcurrent
      simpa [htime] using hcurrent

end

section
variable {E : SamlCrates} {instant : List Char → Option Int} {nanos : Int} {xml : String}
  {root : Element}

theorem storedDescriptor_reads {entity : EntityDescriptor}
    (h : ReadsEntity instant root entity) :
    (∀ e, storedDescriptor root = some e → ∃ idp, ReadsDescriptor e idp ∧
      (entity.idpSsoDescriptors.getD []).find? Saml.IdpSsoDescriptor.supportsSaml2 = some idp) ∧
    ∀ idp, (entity.idpSsoDescriptors.getD []).find? Saml.IdpSsoDescriptor.supportsSaml2 = some idp →
      ∃ e, storedDescriptor root = some e ∧ ReadsDescriptor e idp := by
  have hrel : Option.Rel ReadsDescriptor (storedDescriptor root)
      ((entity.idpSsoDescriptors.getD []).find? Saml.IdpSsoDescriptor.supportsSaml2) :=
    Pointwise.find?_rel h.descriptors fun _ _ hdescriptor => hdescriptor.supportsSaml2
  generalize (entity.idpSsoDescriptors.getD []).find? _ = idp at hrel ⊢
  generalize storedDescriptor root = e at hrel ⊢
  cases hrel <;> simp_all

theorem head?_sameText {e : Element} {idp : IdpSsoDescriptor} (h : ReadsDescriptor e idp) :
    (idp.nameIdFormats.head?.map Saml.trimmed).map String.toList =
      (e.childrenNamed "NameIDFormat".toList).head?.map fun format =>
        Text.trim format.textContent := by
  have hformats := h.formats
  generalize e.childrenNamed "NameIDFormat".toList = formats at hformats ⊢
  generalize idp.nameIdFormats = texts at hformats ⊢
  cases hformats with
  | nil => rfl
  | cons hsame _ =>
    rw [List.head?_cons, List.head?_cons, Option.map_some, Option.map_some, Option.map_some,
      Saml.trimmed, String.toList_ofList]
    exact congrArg some hsame

theorem accepted_of_parse (hsize : xml.utf8ByteSize ≤ maxMetadataBytes)
    (hsame : SameTree E instant xml root) {out : Saml.IdpMetadata}
    (h : Saml.parseIdpMetadata E nanos xml = .ok out) :
    ∃ e, Accepted E instant nanos xml root e ∧ Derived E root e out := by
  obtain ⟨entity, idp, hread, hidp, hid, hblank, hsso, hcertificates, hformat⟩ :=
    Saml.parseIdpMetadata_ok h
  have hreads := hsame entity hread
  rw [parseIdpMetadata_eq_readEntity hsize hread] at h
  obtain ⟨e, hstored, hdescriptor⟩ := (storedDescriptor_reads hreads).2 idp hidp
  obtain ⟨location, url, hlocation, hurl, hscheme, hout⟩ :=
    (redirectSsoUrl_ok_iff hdescriptor).mp hsso
  obtain ⟨hsome, hlisted⟩ := (signingCertificates_ok_iff hdescriptor).mp hcertificates
  have hentityId : root.getAttribute "entityID".toList = some out.entityId.toList := by
    rw [hreads.entityId, Option.map_eq_some_iff] at hid
    obtain ⟨id, hattribute, hid⟩ := hid
    rw [hattribute, ← hid, String.toList_ofList]
  refine ⟨e, ⟨⟨entity, hread⟩, ⟨_, hentityId, by rwa [String.ofList_toList]⟩, ?_, hstored,
    ⟨location, url, hlocation, hurl, hscheme⟩, ?_, ?_⟩, hentityId,
    ⟨location, url, hlocation, hurl, hout⟩, hlisted, ?_⟩
  · intro validUntil hvalid time htime
    exact current_of_readEntity h time (by rw [hreads.validUntil, hvalid]; exact htime)
  · intro hnil
    rw [hnil, List.forall₂_nil_left_iff] at hlisted
    exact hsome hlisted
  · exact Pointwise.exists_forall₂_iff.mp ⟨_, hlisted⟩
  · rw [hformat, head?_sameText hdescriptor]

theorem parse_of_accepted (hsize : xml.utf8ByteSize ≤ maxMetadataBytes)
    (hsame : SameTree E instant xml root) {e : Element} (h : Accepted E instant nanos xml root e) :
    ∃ out, Saml.parseIdpMetadata E nanos xml = .ok out := by
  obtain ⟨entity, hread⟩ := h.read
  have hreads := hsame entity hread
  obtain ⟨idp, hdescriptor, hidp⟩ := (storedDescriptor_reads hreads).1 e h.descriptor
  obtain ⟨location, url, hlocation, hurl, hscheme⟩ := h.ssoUrl
  have hsso := (redirectSsoUrl_ok_iff hdescriptor).mpr ⟨location, url, hlocation, hurl, hscheme, rfl⟩
  obtain ⟨certificates, hlisted⟩ := Pointwise.exists_forall₂_iff.mpr h.certificates
  have hsome : certificates ≠ [] := by
    rintro rfl
    exact h.someCertificate (List.forall₂_nil_right_iff.mp hlisted)
  have hcertificates := (signingCertificates_ok_iff hdescriptor).mpr ⟨hsome, hlisted⟩
  obtain ⟨id, hid, hblank⟩ := h.entityId
  have hentityId : entity.entityId.filter (fun id => !Text.isBlank id) = some (String.ofList id) := by
    rw [hreads.entityId, hid]
    simp [hblank]
  have hcurrent : entity.validUntil.any (fun validUntil => validUntil ≤ nanos) = false := by
    rw [hreads.validUntil]
    cases hvalid : root.getAttribute "validUntil".toList with
    | none => rfl
    | some validUntil =>
      cases htime : instant validUntil with
      | none => simp [htime]
      | some time => simpa [htime] using h.current validUntil hvalid time htime
  rw [parseIdpMetadata_eq_readEntity hsize hread, Saml.readEntity, hentityId]
  dsimp only
  rw [if_neg (by simp [hcurrent]), hidp]
  dsimp only
  rw [Saml.readDescriptor, hsso]
  dsimp only
  rw [hcertificates]
  exact ⟨_, rfl⟩

theorem toOption_map_pemDer {pemDer : String → Option (List UInt8)}
    (hpem : ∀ der pem, E.certificateFromDer der = .ok (.ok pem) → pemDer pem = some der)
    {es : List Element} {pems : List String} (h : List.Forall₂ (StoredAs E) es pems) :
    (es.map fun e => (storedDer E e).toOption) = pems.map pemDer := by
  induction h with
  | nil => rfl
  | cons hx _ ih =>
    obtain ⟨der, hder, hcertificate⟩ := hx
    rw [List.map_cons, List.map_cons, ih, hder, hpem _ _ hcertificate]
    rfl

theorem base64_metadataCertificate (e : Element) :
    (metadataCertificate e).base64 = Script.removeSpaces e.textContent := by
  unfold metadataCertificate
  dsimp only
  cases readCertificateInfo (Script.removeSpaces e.textContent) <;> rfl

theorem same_iff_alike {pemDer : String → Option (List UInt8)}
    (hpem : ∀ der pem, E.certificateFromDer der = .ok (.ok pem) → pemDer pem = some der)
    {shown stored : Element} (hshown : ∃ location, redirectLocation shown = some location)
    {out : Saml.IdpMetadata} (hout : Derived E root stored out) :
    Same pemDer (summary root shown) out ↔ Alike E shown stored := by
  obtain ⟨location, url, hlocation, hurl, hssoUrl⟩ := hout.ssoUrl
  obtain ⟨written, hwritten⟩ := hshown
  have hcertificates : ((summary root shown).certificates.map fun certificate =>
      Script.atob certificate.base64) =
        (certificateElements shown).map fun e => Script.atob (Script.removeSpaces e.textContent) := by
    rw [summary, signingCertificates, List.map_map]
    exact List.map_congr_left fun e _ => congrArg Script.atob (base64_metadataCertificate e)
  have hformat : (summary root shown).nameIdFormats.head? =
      (shown.childrenNamed "NameIDFormat".toList).head?.map fun format =>
        Script.trim format.textContent := by
    rw [summary, nameIdFormats, List.head?_map]
  constructor
  · intro hsame
    refine ⟨fun location' url' hlocation' hurl' => ?_, ?_, ?_⟩
    · rw [hlocation] at hlocation'
      cases hlocation'
      rw [hurl] at hurl'
      cases hurl'
      have hshownUrl : (redirectLocation shown).getD [] = out.ssoUrl.toList := hsame.ssoUrl
      rw [hwritten, Option.getD_some] at hshownUrl
      rw [hwritten, hshownUrl, hssoUrl]
    · rw [← hcertificates, hsame.certificates, toOption_map_pemDer hpem hout.certificates]
    · rw [← hformat, hsame.nameIdFormat, hout.nameidFormat]
  · intro halike
    refine ⟨?_, ?_, ?_, ?_⟩
    · rw [summary, entityId, hout.entityId, Option.getD_some]
    · rw [summary, ssoUrl, halike.ssoUrl location url hlocation hurl, Option.getD_some, hssoUrl]
    · rw [hcertificates, halike.certificates, toOption_map_pemDer hpem hout.certificates]
    · rw [hformat, halike.nameIdFormat, hout.nameidFormat]

theorem listedElements_sublist (key : Element) :
    (listedElements key).Sublist (key.descendantsNamed "X509Certificate".toList) := by
  have hbelow : (listedElements key).Sublist key.descendants :=
    key.flatMap_childElements_sublist fun info => info.flatMap_childElements_sublist fun data =>
      data.childElements_sublist _
  have hname : ∀ e ∈ listedElements key, (e.localName == "X509Certificate".toList) = true := by
    intro e he
    obtain ⟨info, -, he⟩ := List.mem_flatMap.mp he
    obtain ⟨data, -, he⟩ := List.mem_flatMap.mp he
    exact (List.mem_filter.mp he).2
  rw [← List.filter_eq_self.mpr hname]
  exact hbelow.filter _

theorem storedElements_sublist (idp : Element) :
    (storedElements idp).Sublist (certificateElements idp) :=
  sublist_flatMap (List.Sublist.refl _) fun key _ => listedElements_sublist key

theorem certificates_alike_iff
    (hbase64 : ∀ s der, E.decodeBase64 s = .ok der → Base64.decode s.toList = some der)
    {idp : Element} (hreadable : ∀ e ∈ certificateElements idp,
      ∃ bytes, Script.atob (Script.removeSpaces e.textContent) = some bytes)
    (hstored : ∀ e ∈ storedElements idp, ∃ pem, StoredAs E e pem) :
    (((certificateElements idp).map fun e => Script.atob (Script.removeSpaces e.textContent)) =
      (storedElements idp).map fun e => (storedDer E e).toOption) ↔
    storedElements idp = certificateElements idp := by
  have hsublist := storedElements_sublist idp
  constructor
  · intro h
    have hlength := congrArg List.length h
    rw [List.length_map, List.length_map] at hlength
    exact hsublist.eq_of_length hlength.symm
  · intro h
    rw [← h]
    refine List.map_congr_left fun e he => ?_
    obtain ⟨bytes, hbytes⟩ := hreadable e (hsublist.subset he)
    obtain ⟨pem, der, hder, -⟩ := hstored e he
    have hdecode := hbase64 _ _ hder
    rw [String.toList_ofList, String.toList_ofList] at hdecode
    rw [hbytes, hder, Script.atob_removeSpaces_eq hdecode hbytes]
    rfl

/-- The admin UI and the server agree on a document exactly if it keeps the rules of both and has the
same values for both, or breaks a rule of each. -/
theorem preview_agrees_iff (B : Browser) (E : SamlCrates) (instant : List Char → Option Int)
    (pemDer : String → Option (List UInt8))
    (hpem : ∀ der pem, E.certificateFromDer der = .ok (.ok pem) → pemDer pem = some der)
    (nanos : Int) (xml : String) (root : Element) (hsize : xml.utf8ByteSize ≤ maxMetadataBytes)
    (htree : B.parseFromString (Script.trim xml.toList) = some root)
    (hsame : SameTree E instant xml root) :
    Agrees B E pemDer nanos xml ↔ RulesCoincide B E instant nanos xml root := by
  have hui (s : IdpMetadataSummary) :=
    @parseIdpMetadata_ok_iff B (nanos / 1000000) root xml s hsize htree
  constructor
  · intro hagrees
    by_cases hshown : ∃ idp, Shown B (nanos / 1000000) root idp
    · left
      obtain ⟨shown, hshown⟩ := hshown
      obtain ⟨hok, hreadable⟩ := (hui _).mpr ⟨shown, hshown, rfl⟩
      obtain ⟨out, hout⟩ := hagrees.accepted.mp ⟨_, hok, hreadable⟩
      obtain ⟨stored, hstored, hderived⟩ := accepted_of_parse hsize hsame hout
      obtain ⟨location, hlocation, -⟩ := hshown.ssoUrl
      exact ⟨shown, stored, hshown, hstored, (same_iff_alike hpem ⟨location, hlocation⟩ hderived).mp
        (hagrees.same _ out hok hreadable hout)⟩
    · right
      refine ⟨fun idp hidp => hshown ⟨idp, hidp⟩, fun idp hidp => ?_⟩
      obtain ⟨s, hok, hreadable⟩ := hagrees.accepted.mpr (parse_of_accepted hsize hsame hidp)
      obtain ⟨shown, hidp, -⟩ := (hui s).mp ⟨hok, hreadable⟩
      exact hshown ⟨shown, hidp⟩
  · rintro (⟨shown, stored, hshown, hstored, halike⟩ | ⟨hnotShown, hnotStored⟩)
    · obtain ⟨hok, hreadable⟩ := (hui _).mpr ⟨shown, hshown, rfl⟩
      refine ⟨⟨fun _ => parse_of_accepted hsize hsame hstored, fun _ => ⟨_, hok, hreadable⟩⟩, ?_⟩
      intro s out hs hsreadable hout
      obtain ⟨shown', hshown', rfl⟩ := (hui s).mp ⟨hs, hsreadable⟩
      obtain ⟨stored', hstored', hderived⟩ := accepted_of_parse hsize hsame hout
      obtain rfl := Option.some.inj (hshown.descriptor.symm.trans hshown'.descriptor)
      obtain rfl := Option.some.inj (hstored.descriptor.symm.trans hstored'.descriptor)
      obtain ⟨location, hlocation, -⟩ := hshown.ssoUrl
      exact (same_iff_alike hpem ⟨location, hlocation⟩ hderived).mpr halike
    · refine ⟨⟨?_, ?_⟩, ?_⟩
      · rintro ⟨s, hs, hreadable⟩
        obtain ⟨shown, hshown, -⟩ := (hui s).mp ⟨hs, hreadable⟩
        exact absurd hshown (hnotShown shown)
      · rintro ⟨out, hout⟩
        obtain ⟨stored, hstored, -⟩ := accepted_of_parse hsize hsame hout
        exact absurd hstored (hnotStored stored)
      · intro s out hs hreadable
        obtain ⟨shown, hshown, -⟩ := (hui s).mp ⟨hs, hreadable⟩
        exact absurd hshown (hnotShown shown)

end

end MetadataPreview

namespace Transparent
open Markup MetadataPreview

/-- The certificate of the test user `user1.acme.com`. -/
def userCertificate : List UInt8 :=
  [48, 130, 1, 207, 48, 130, 1, 118, 160, 3, 2, 1, 2, 2, 20, 115, 101, 141, 140, 213, 174, 228,
   187, 38, 214, 101, 114, 59, 238, 76, 209, 79, 17, 25, 18, 48, 10, 6, 8, 42, 134, 72, 206, 61, 4,
   3, 2, 48, 19, 49, 17, 48, 15, 6, 3, 85, 4, 3, 12, 8, 97, 99, 109, 101, 46, 99, 111, 109, 48, 30,
   23, 13, 50, 54, 48, 52, 49, 50, 48, 54, 50, 48, 53, 54, 90, 23, 13, 50, 55, 48, 52, 49, 50, 48,
   54, 50, 48, 53, 54, 90, 48, 25, 49, 23, 48, 21, 6, 3, 85, 4, 3, 12, 14, 117, 115, 101, 114, 49,
   46, 97, 99, 109, 101, 46, 99, 111, 109, 48, 89, 48, 19, 6, 7, 42, 134, 72, 206, 61, 2, 1, 6, 8,
   42, 134, 72, 206, 61, 3, 1, 7, 3, 66, 0, 4, 69, 78, 205, 32, 179, 29, 88, 212, 218, 19, 9, 236,
   164, 88, 72, 224, 57, 178, 72, 124, 252, 214, 55, 155, 15, 96, 239, 55, 204, 118, 72, 38, 21,
   119, 32, 244, 134, 18, 13, 73, 29, 53, 10, 90, 13, 64, 64, 138, 246, 110, 208, 11, 243, 49, 118,
   204, 97, 52, 138, 204, 192, 84, 199, 121, 163, 129, 161, 48, 129, 158, 48, 11, 6, 3, 85, 29, 15,
   4, 4, 3, 2, 7, 128, 48, 19, 6, 3, 85, 29, 37, 4, 12, 48, 10, 6, 8, 43, 6, 1, 5, 5, 7, 3, 2, 48,
   41, 6, 3, 85, 29, 31, 4, 34, 48, 32, 48, 30, 160, 28, 160, 26, 134, 24, 104, 116, 116, 112, 115,
   58, 47, 47, 97, 99, 109, 101, 46, 99, 111, 109, 47, 99, 114, 108, 46, 112, 101, 109, 48, 15, 6,
   3, 85, 29, 17, 4, 8, 48, 6, 135, 4, 127, 0, 0, 1, 48, 29, 6, 3, 85, 29, 14, 4, 22, 4, 20, 96,
   67, 84, 58, 223, 37, 197, 129, 131, 1, 45, 130, 57, 218, 137, 202, 104, 214, 17, 130, 48, 31, 6,
   3, 85, 29, 35, 4, 24, 48, 22, 128, 20, 84, 161, 5, 32, 9, 244, 166, 93, 158, 152, 189, 84, 132,
   200, 124, 5, 140, 49, 226, 172, 48, 10, 6, 8, 42, 134, 72, 206, 61, 4, 3, 2, 3, 71, 0, 48, 68,
   2, 32, 58, 183, 46, 131, 117, 156, 139, 157, 173, 173, 56, 9, 63, 41, 22, 183, 90, 105, 207, 40,
   64, 179, 226, 249, 181, 130, 194, 82, 127, 167, 141, 170, 2, 32, 4, 126, 161, 141, 144, 69, 1,
   67, 210, 99, 190, 193, 28, 185, 69, 32, 8, 35, 219, 11, 221, 163, 200, 97, 185, 8, 11, 176, 152,
   11, 120, 161]

def certificateElement : Element :=
  ⟨"ds:X509Certificate".toList, [], [.text (Base64.encode userCertificate)]⟩

def keyElement : Element :=
  ⟨"md:KeyDescriptor".toList, [("use".toList, "signing".toList)],
    [.element "ds:KeyInfo".toList [] [.element "ds:X509Data".toList []
      [.element certificateElement.name [] certificateElement.children]]]⟩

def serviceNode (location : String) : Node :=
  .element "md:SingleSignOnService".toList
    [("Binding".toList, httpRedirectBinding), ("Location".toList, location.toList)] []

def idpElement (location : String) : Element :=
  ⟨"md:IDPSSODescriptor".toList, [("protocolSupportEnumeration".toList, saml2Protocol)],
    [.element keyElement.name keyElement.attributes keyElement.children, serviceNode location]⟩

def idpRoot (location : String) : Element :=
  ⟨"md:EntityDescriptor".toList,
    [("xmlns:md".toList, "urn:oasis:names:tc:SAML:2.0:metadata".toList),
      ("xmlns:ds".toList, "http://www.w3.org/2000/09/xmldsig#".toList),
      ("entityID".toList, "https://idp.example.com/metadata".toList)],
    [.element (idpElement location).name (idpElement location).attributes
      (idpElement location).children]⟩

def xmlStart : String :=
  "<md:EntityDescriptor xmlns:md=\"urn:oasis:names:tc:SAML:2.0:metadata\" "
    ++ "xmlns:ds=\"http://www.w3.org/2000/09/xmldsig#\" "
    ++ "entityID=\"https://idp.example.com/metadata\">"

def xmlDescriptor : String :=
  "<md:IDPSSODescriptor protocolSupportEnumeration=\"urn:oasis:names:tc:SAML:2.0:protocol\">"
    ++ "<md:KeyDescriptor use=\"signing\"><ds:KeyInfo><ds:X509Data><ds:X509Certificate>"

def xmlService : String :=
  "</ds:X509Certificate></ds:X509Data></ds:KeyInfo></md:KeyDescriptor><md:SingleSignOnService "
    ++ "Binding=\"urn:oasis:names:tc:SAML:2.0:bindings:HTTP-Redirect\" Location=\""

def xmlEnd : String := "\"/></md:IDPSSODescriptor></md:EntityDescriptor>"

def idpXml (location : String) : String :=
  xmlStart ++ xmlDescriptor ++ String.ofList (Base64.encode userCertificate) ++ xmlService ++ location
    ++ xmlEnd

def previewBrowser (xml : String) (root : Element) : Browser where
  parseFromString cs := if cs = Script.trim xml.toList then some root else none
  getTime _ := none

def typedEntity (location : String) : EntityDescriptor :=
  { entityId := some "https://idp.example.com/metadata", validUntil := none
    idpSsoDescriptors := some
      [{ protocolSupportEnumeration := some Saml.saml2Protocol
         keyDescriptors :=
           [⟨some "signing", some [String.ofList (Base64.encode userCertificate)]⟩]
         singleSignOnServices := [⟨Saml.httpRedirectBinding, location⟩], nameIdFormats := [] }] }

def previewCrates (xml : String) (entity : EntityDescriptor) : SamlCrates :=
  { idpCrates with
    readMetadata := fun s =>
      if s = xml then .ok (.entityDescriptor entity) else .error "not an EntityDescriptor"
    decodeBase64 := fun s => match Base64.decode s.toList with
      | some bytes => .ok bytes
      | none => .error "invalid base64" }

def noInstant (_ : List Char) : Option Int := none

theorem readMetadata_previewCrates (xml : String) (entity : EntityDescriptor) :
    (previewCrates xml entity).readMetadata xml = .ok (.entityDescriptor entity) :=
  if_pos rfl

theorem parseUrl_previewCrates (xml : String) (entity : EntityDescriptor) :
    (previewCrates xml entity).parseUrl = parseHttpsUrl := rfl

theorem readable_userCertificate : X509.Readable userCertificate := by
  rw [← X509.readDer_ok_iff]
  have hok : (X509.readDer userCertificate).isOk = true := by decide +kernel
  cases h : X509.readDer userCertificate with
  | ok info => exact ⟨info, rfl⟩
  | error e =>
    rw [h] at hok
    cases hok

theorem textContent_certificateElement :
    certificateElement.textContent = Base64.encode userCertificate :=
  textContent_text _ _ _

theorem sameText_certificateElement :
    SameText certificateElement (String.ofList (Base64.encode userCertificate)) := by
  rw [SameText, textContent_certificateElement, String.toList_ofList]

theorem listedElements_keyElement : listedElements keyElement = [certificateElement] := rfl

theorem readsDescriptor_idpElement (location : String) (idp : IdpSsoDescriptor)
    (h : (typedEntity location).idpSsoDescriptors = some [idp]) :
    ReadsDescriptor (idpElement location) idp := by
  cases h
  have hkey : ReadsKey keyElement
      ⟨some "signing", some [String.ofList (Base64.encode userCertificate)]⟩ := by
    refine ⟨rfl, ?_⟩
    rw [listedElements_keyElement]
    exact .cons sameText_certificateElement .nil
  exact ⟨rfl, .cons hkey .nil, .cons ⟨rfl, rfl⟩ .nil, .nil⟩

theorem sameTree_idpRoot (location : String) (xml : String) :
    SameTree (previewCrates xml (typedEntity location)) noInstant xml (idpRoot location) := by
  intro entity hentity
  rw [readMetadata_previewCrates] at hentity
  cases hentity
  exact ⟨rfl, rfl, .cons (readsDescriptor_idpElement location _ rfl) .nil⟩

theorem certificateElements_idpElement (location : String) :
    certificateElements (idpElement location) = [certificateElement] := rfl

theorem storedElements_idpElement (location : String) :
    storedElements (idpElement location) = [certificateElement] := rfl

theorem atob_certificateElement :
    Script.atob (Script.removeSpaces certificateElement.textContent) = some userCertificate := by
  rw [textContent_certificateElement, Script.removeSpaces_encode, Script.atob_encode]

theorem storedDer_of_textContent (xml : String) (entity : EntityDescriptor) {e : Element}
    {bytes : List UInt8} (h : e.textContent = Base64.encode bytes) :
    storedDer (previewCrates xml entity) e = .ok bytes := by
  have hplain : (Base64.encode bytes).filter (fun c => !Text.isWhiteSpace c) = Base64.encode bytes :=
    List.filter_eq_self.mpr fun c hc => by
      simp [Script.isSpace_of_isCode (Base64.isCode_of_mem_encode hc)]
  rw [storedDer, Saml.listedDer, h, String.toList_ofList, hplain]
  simp only [previewCrates, String.toList_ofList, Base64.decode_encode]

theorem storedDer_certificateElement (xml : String) (entity : EntityDescriptor) :
    storedDer (previewCrates xml entity) certificateElement = .ok userCertificate :=
  storedDer_of_textContent xml entity textContent_certificateElement

theorem certificateFromDer_previewCrates (xml : String) (entity : EntityDescriptor)
    (der : List UInt8) :
    (previewCrates xml entity).certificateFromDer der = .ok (.ok (pem der)) := rfl

variable {location : String}

theorem shown_idpRoot (B : Browser) (now : Int) (h : "https://".toList <+: location.toList) :
    Shown B now (idpRoot location) (idpElement location) := by
  have hnames : ((idpRoot location :: (idpRoot location).descendants).all fun e =>
      e.name != "parsererror".toList) = true := rfl
  have hcurrent : (idpRoot location).getAttribute "validUntil".toList = none := rfl
  refine ⟨?_, rfl, ⟨_, rfl, by decide⟩, ?_, rfl, ⟨location.toList, rfl, h⟩, ?_, ?_⟩
  · intro e he
    simpa using List.all_eq_true.mp hnames e he
  · intro validUntil hvalid
    cases hcurrent.symm.trans hvalid
  · rw [certificateElements_idpElement]
    exact List.cons_ne_nil _ _
  · rw [certificateElements_idpElement]
    exact List.forall_mem_singleton.mpr
      ⟨userCertificate, atob_certificateElement, readable_userCertificate⟩

theorem parse_location (xml : String) (entity : EntityDescriptor) {url : Url}
    (hurl : parseHttpsUrl (Saml.trimmed location) = .ok url) :
    (previewCrates xml entity).parseUrl (Saml.trimmed (String.ofList location.toList)) = .ok url := by
  rw [parseUrl_previewCrates, String.ofList_toList]
  exact hurl

theorem accepted_idpRoot (nanos : Int) (xml : String) {url : Url}
    (hurl : parseHttpsUrl (Saml.trimmed location) = .ok url) (hscheme : url.scheme = "https") :
    Accepted (previewCrates xml (typedEntity location)) noInstant nanos xml (idpRoot location)
      (idpElement location) := by
  have hid : (idpRoot location).getAttribute "entityID".toList =
      some "https://idp.example.com/metadata".toList := rfl
  have hcurrent : (idpRoot location).getAttribute "validUntil".toList = none := rfl
  have hlocation : redirectLocation (idpElement location) = some location.toList := rfl
  have hdescriptor : storedDescriptor (idpRoot location) = some (idpElement location) := rfl
  have hstored : StoredAs (previewCrates xml (typedEntity location)) certificateElement
      (pem userCertificate) :=
    ⟨userCertificate, storedDer_certificateElement xml _, certificateFromDer_previewCrates xml _ _⟩
  exact {
    read := ⟨_, readMetadata_previewCrates xml _⟩
    entityId := ⟨_, hid, by decide⟩
    current := fun validUntil hvalid => nomatch hcurrent.symm.trans hvalid
    descriptor := hdescriptor
    ssoUrl := ⟨location.toList, url, hlocation, parse_location xml _ hurl, hscheme⟩
    someCertificate := by
      rw [storedElements_idpElement]
      exact List.cons_ne_nil _ _
    certificates := by
      rw [storedElements_idpElement]
      exact List.forall_mem_singleton.mpr ⟨_, hstored⟩ }

theorem alike_idpElement {xml : String} {url : Url}
    (hurl : parseHttpsUrl (Saml.trimmed location) = .ok url) :
    Alike (previewCrates xml (typedEntity location)) (idpElement location) (idpElement location) ↔
      location = url.text := by
  have hlocation : redirectLocation (idpElement location) = some location.toList := rfl
  constructor
  · intro h
    have hsso := h.ssoUrl _ url hlocation (parse_location xml _ hurl)
    rw [hlocation] at hsso
    exact String.toList_inj.mp (Option.some.inj hsso)
  · intro h
    refine ⟨fun location' url' hlocation' hurl' => ?_, ?_, rfl⟩
    · rw [hlocation] at hlocation'
      cases hlocation'
      rw [parse_location xml _ hurl] at hurl'
      cases hurl'
      rw [hlocation, h]
    · rw [certificateElements_idpElement, storedElements_idpElement, List.map_singleton,
        List.map_singleton, atob_certificateElement, storedDer_certificateElement]
      rfl

theorem size_idpXml (h : location.utf8ByteSize ≤ 1000) :
    (idpXml location).utf8ByteSize ≤ maxMetadataBytes := by
  have hstart : xmlStart.utf8ByteSize ≤ 1000 := by decide +kernel
  have hdescriptor : xmlDescriptor.utf8ByteSize ≤ 1000 := by decide +kernel
  have hservice : xmlService.utf8ByteSize ≤ 1000 := by decide +kernel
  have hend : xmlEnd.utf8ByteSize ≤ 1000 := by decide
  have hcertificate := Script.size_ofList_le (Base64.encode userCertificate)
  have hlength : (Base64.encode userCertificate).length ≤ 1000 := by decide +kernel
  simp only [idpXml, String.utf8ByteSize_append, maxMetadataBytes]
  omega

theorem pemDer_previewCrates (xml : String) (entity : EntityDescriptor) (der : List UInt8)
    (text : String) (h : (previewCrates xml entity).certificateFromDer der = .ok (.ok text)) :
    pemDer text = some der := by
  rw [certificateFromDer_previewCrates] at h
  cases h
  exact pemDer_pem der

theorem parseFromString_previewBrowser (xml : String) (root : Element) :
    (previewBrowser xml root).parseFromString (Script.trim xml.toList) = some root :=
  if_pos rfl

def pathXml : String := idpXml "https://idp.example.com/sso"

/-- An address with a path is written out as it is. -/
theorem preview_agrees_iff_path :
    Agrees (previewBrowser pathXml (idpRoot "https://idp.example.com/sso"))
      (previewCrates pathXml (typedEntity "https://idp.example.com/sso")) pemDer 0 pathXml := by
  have hurl : parseHttpsUrl (Saml.trimmed "https://idp.example.com/sso") =
      .ok (httpsUrl [] "idp.example.com".toList "/sso".toList) := by decide
  refine (preview_agrees_iff _ _ noInstant pemDer (pemDer_previewCrates _ _) 0 _ _
    (size_idpXml (by decide)) (parseFromString_previewBrowser _ _)
    (sameTree_idpRoot _ _)).mpr (.inl ⟨_, _, shown_idpRoot _ _ (by decide),
      accepted_idpRoot 0 _ hurl rfl, (alike_idpElement hurl).mpr (by decide)⟩)

def bareXml : String := idpXml "https://idp.example.com"

/-- An address without a path is shown as it is, and the server adds the slash. -/
theorem preview_shows_another_url :
    bareXml.utf8ByteSize ≤ maxMetadataBytes ∧
    (previewBrowser bareXml (idpRoot "https://idp.example.com")).parseFromString
      (Script.trim bareXml.toList) = some (idpRoot "https://idp.example.com") ∧
    SameTree (previewCrates bareXml (typedEntity "https://idp.example.com")) noInstant bareXml
      (idpRoot "https://idp.example.com") ∧
    (∃ s out,
      parseIdpMetadata (previewBrowser bareXml (idpRoot "https://idp.example.com")) 0 bareXml =
        .ok s ∧ s.AllReadable ∧ s.ssoUrl = "https://idp.example.com".toList ∧
      Saml.parseIdpMetadata (previewCrates bareXml (typedEntity "https://idp.example.com")) 0
        bareXml = .ok out ∧ out.ssoUrl = "https://idp.example.com/") ∧
    ¬ Agrees (previewBrowser bareXml (idpRoot "https://idp.example.com"))
      (previewCrates bareXml (typedEntity "https://idp.example.com")) pemDer 0 bareXml := by
  have hsize : bareXml.utf8ByteSize ≤ maxMetadataBytes := size_idpXml (by decide)
  have htree := parseFromString_previewBrowser bareXml (idpRoot "https://idp.example.com")
  have hsame := sameTree_idpRoot "https://idp.example.com" bareXml
  have hurl : parseHttpsUrl (Saml.trimmed "https://idp.example.com") =
      .ok (httpsUrl [] "idp.example.com".toList []) := by decide
  obtain ⟨hok, hreadable⟩ := (parseIdpMetadata_ok_iff hsize htree).mpr
    ⟨_, shown_idpRoot _ (0 / 1000000) (by decide), rfl⟩
  have haccepted := accepted_idpRoot 0 bareXml hurl rfl
  obtain ⟨out, hout⟩ := parse_of_accepted hsize hsame haccepted
  obtain ⟨stored, hstored, hderived⟩ := accepted_of_parse hsize hsame hout
  obtain rfl := Option.some.inj (haccepted.descriptor.symm.trans hstored.descriptor)
  obtain ⟨location, url, hlocation, hparse, hssoUrl⟩ := hderived.ssoUrl
  have hderivedUrl : out.ssoUrl = "https://idp.example.com/" := by
    cases hlocation
    rw [String.ofList_toList, parseUrl_previewCrates, hurl] at hparse
    cases hparse
    rw [hssoUrl]
    decide
  refine ⟨hsize, htree, hsame, ⟨_, out, hok, hreadable, rfl, hout, hderivedUrl⟩, fun hagrees => ?_⟩
  have hshownUrl : "https://idp.example.com".toList = out.ssoUrl.toList :=
    (hagrees.same _ out hok hreadable hout).ssoUrl
  rw [hderivedUrl] at hshownUrl
  exact absurd hshownUrl (by decide)

end Transparent
end AuthVerifier
