import AuthVerifier.CertificateInfo
import AuthVerifier.Lib.ElementTree

/-!
The preview of IdP metadata in the admin UI, `parseIdpMetadata` of `utils/samlMetadata.ts`, over the
elements of the document.
-/

set_option autoImplicit false

namespace AuthVerifier
namespace MetadataPreview
open Markup X509

/-- What the browser decides: `DOMParser`, and how `Date` reads a text. -/
structure Browser where
  /-- The root of the document that the text is parsed to. -/
  parseFromString : List Char → Option Element
  /-- `new Date(text).getTime()`, or none for `NaN`. -/
  getTime : List Char → Option Int

def saml2Protocol : List Char := "urn:oasis:names:tc:SAML:2.0:protocol".toList
def httpRedirectBinding : List Char := "urn:oasis:names:tc:SAML:2.0:bindings:HTTP-Redirect".toList
def maxMetadataBytes : Nat := 256 * 1024

structure MetadataCertificate where
  base64 : List Char
  info : Option CertificateInfo
  error : Option String
  deriving DecidableEq

structure IdpMetadataSummary where
  entityId : List Char
  ssoUrl : List Char
  certificates : List MetadataCertificate
  nameIdFormats : List (List Char)
  deriving DecidableEq

def hasParserError (root : Element) : Bool :=
  (root :: root.descendants).any fun e => e.name == "parsererror".toList

def parseRoot (B : Browser) (xml : List Char) : Throws Element :=
  if (String.ofList xml).utf8ByteSize > maxMetadataBytes then
    .error "the metadata is larger than 256 KiB"
  else match B.parseFromString xml with
    | none => .error "the metadata is not well-formed XML"
    | some root =>
      if hasParserError root then .error "the metadata is not well-formed XML"
      else if root.localName = "EntitiesDescriptor".toList then
        .error ("this is a federation bundle with several entities; paste the metadata of the " ++
          "single IdP")
      else if root.localName ≠ "EntityDescriptor".toList then
        .error "the metadata has no EntityDescriptor"
      else .ok root

/-- A descriptor without `use` serves both signing and encryption. -/
def signingKeys (idp : Element) : List Element :=
  (idp.childrenNamed "KeyDescriptor".toList).filter fun key =>
    (key.getAttribute "use".toList).getD "signing".toList == "signing".toList

def certificateElements (idp : Element) : List Element :=
  (signingKeys idp).flatMap fun key => key.descendantsNamed "X509Certificate".toList

def metadataCertificate (e : Element) : MetadataCertificate :=
  let base64 := Script.removeSpaces e.textContent
  match readCertificateInfo base64 with
  | .ok info => { base64 := base64, info := some info, error := none }
  | .error e => { base64 := base64, info := none, error := some e }

def signingCertificates (idp : Element) : List MetadataCertificate :=
  (certificateElements idp).map metadataCertificate

def entityId (root : Element) : List Char := (root.getAttribute "entityID".toList).getD []

/-- The date that has passed: an empty attribute is none, and an invalid date is never over. -/
def expiredOn (B : Browser) (now : Int) (root : Element) : Option (List Char) :=
  (root.getAttribute "validUntil".toList).filter fun validUntil =>
    !validUntil.isEmpty && (B.getTime validUntil).any fun time => time ≤ now

def supportsSaml2 (descriptor : Element) : Bool :=
  let protocols := (descriptor.getAttribute "protocolSupportEnumeration".toList).getD []
  (Script.splitSpaces protocols).contains saml2Protocol

def idpDescriptor (root : Element) : Option Element :=
  (root.childrenNamed "IDPSSODescriptor".toList).find? supportsSaml2

def redirectLocation (idp : Element) : Option (List Char) :=
  ((idp.childrenNamed "SingleSignOnService".toList).find? fun service =>
    service.getAttribute "Binding".toList == some httpRedirectBinding).bind fun service =>
      service.getAttribute "Location".toList

def ssoUrl (idp : Element) : List Char := (redirectLocation idp).getD []

def nameIdFormats (idp : Element) : List (List Char) :=
  (idp.childrenNamed "NameIDFormat".toList).map fun format => Script.trim format.textContent

def readDescriptor (entityId : List Char) (idp : Element) : Throws IdpMetadataSummary :=
  if (ssoUrl idp).isEmpty then .error "the IdP has no HTTP-Redirect SingleSignOnService"
  else if !"https://".toList.isPrefixOf (ssoUrl idp) then
    .error "the IdP SingleSignOnService must use https"
  else if (signingCertificates idp).isEmpty then .error "the IdP has no signing certificate"
  else .ok
    { entityId := entityId, ssoUrl := ssoUrl idp, certificates := signingCertificates idp,
      nameIdFormats := nameIdFormats idp }

def readRoot (B : Browser) (now : Int) (root : Element) : Throws IdpMetadataSummary :=
  if (entityId root).isEmpty then .error "the EntityDescriptor has no entityID"
  else match expiredOn B now root with
    | some validUntil => .error s!"the metadata expired on {String.ofList validUntil}"
    | none => match idpDescriptor root with
      | none => .error "the metadata has no SAML 2.0 IDPSSODescriptor"
      | some idp => readDescriptor (entityId root) idp

def parseIdpMetadata (B : Browser) (now : Int) (xml : String) : Throws IdpMetadataSummary :=
  match parseRoot B (Script.trim xml.toList) with
  | .error e => .error e
  | .ok root => readRoot B now root

def IdpMetadataSummary.AllReadable (summary : IdpMetadataSummary) : Prop :=
  ∀ certificate ∈ summary.certificates, certificate.info.isSome

/-- The rules of the admin UI, where `idp` is the descriptor that it takes. -/
structure Shown (B : Browser) (now : Int) (root idp : Element) : Prop where
  noParserError : ∀ e ∈ root :: root.descendants, e.name ≠ "parsererror".toList
  name : root.localName = "EntityDescriptor".toList
  entityId : ∃ id, root.getAttribute "entityID".toList = some id ∧ id ≠ []
  current : ∀ validUntil, root.getAttribute "validUntil".toList = some validUntil → validUntil ≠ [] →
    ∀ time, B.getTime validUntil = some time → now < time
  descriptor : idpDescriptor root = some idp
  ssoUrl : ∃ location, redirectLocation idp = some location ∧ "https://".toList <+: location
  someCertificate : certificateElements idp ≠ []
  readable : ∀ e ∈ certificateElements idp,
    ∃ bytes, Script.atob (Script.removeSpaces e.textContent) = some bytes ∧ Readable bytes

def summary (root idp : Element) : IdpMetadataSummary :=
  { entityId := entityId root, ssoUrl := ssoUrl idp, certificates := signingCertificates idp,
    nameIdFormats := nameIdFormats idp }

variable {B : Browser} {now : Int} {root idp : Element}

theorem parseRoot_ok_iff {xml : List Char} {r : Element}
    (hsize : (String.ofList xml).utf8ByteSize ≤ maxMetadataBytes)
    (htree : B.parseFromString xml = some root) :
    parseRoot B xml = .ok r ↔ r = root ∧ (∀ e ∈ root :: root.descendants,
      e.name ≠ "parsererror".toList) ∧ root.localName = "EntityDescriptor".toList := by
  have herror : hasParserError root = false ↔
      ∀ e ∈ root :: root.descendants, e.name ≠ "parsererror".toList := by
    simp [hasParserError]
  unfold parseRoot
  rw [if_neg (by omega), htree, ← herror]
  dsimp only
  split
  · rename_i h
    simp [h]
  · rename_i h
    split
    · rename_i hbundle
      simp only [reduceCtorEq, false_iff, not_and, hbundle]
      exact fun _ _ => by decide
    · split
      · rename_i hname
        simp only [reduceCtorEq, false_iff]
        exact fun hok => hname hok.2.2
      · rename_i hname
        rw [Except.ok.injEq, eq_comm]
        exact ⟨fun hr => ⟨hr, Bool.eq_false_iff.mpr h, not_not.mp hname⟩, fun hr => hr.1⟩

theorem entityId_isEmpty_iff : (entityId root).isEmpty = false ↔
    ∃ id, root.getAttribute "entityID".toList = some id ∧ id ≠ [] := by
  unfold entityId
  cases root.getAttribute "entityID".toList <;> simp

theorem expiredOn_eq_none_iff : expiredOn B now root = none ↔
    ∀ validUntil, root.getAttribute "validUntil".toList = some validUntil → validUntil ≠ [] →
      ∀ time, B.getTime validUntil = some time → now < time := by
  unfold expiredOn
  rw [Option.filter_eq_none_iff]
  refine forall_congr' fun validUntil => forall_congr' fun _ => ?_
  cases B.getTime validUntil <;> simp

theorem readDescriptor_ok_iff {entityId : List Char} {s : IdpMetadataSummary} :
    readDescriptor entityId idp = .ok s ↔
      (∃ location, redirectLocation idp = some location ∧ "https://".toList <+: location) ∧
      certificateElements idp ≠ [] ∧
      s = { entityId := entityId, ssoUrl := ssoUrl idp, certificates := signingCertificates idp,
            nameIdFormats := nameIdFormats idp } := by
  have hsso : ((ssoUrl idp).isEmpty = false ∧ "https://".toList.isPrefixOf (ssoUrl idp) = true) ↔
      ∃ location, redirectLocation idp = some location ∧ "https://".toList <+: location := by
    unfold ssoUrl
    cases redirectLocation idp with
    | none => simp
    | some location =>
      simp only [Option.getD_some, List.isPrefixOf_iff_prefix, Option.some.injEq, exists_eq_left',
        and_iff_right_iff_imp]
      rintro ⟨rest, rfl⟩
      rfl
  have hcertificates : (signingCertificates idp).isEmpty = false ↔ certificateElements idp ≠ [] := by
    simp [signingCertificates]
  rw [← hsso, ← hcertificates]
  unfold readDescriptor
  generalize "https://".toList.isPrefixOf (ssoUrl idp) = https
  cases (ssoUrl idp).isEmpty <;> cases https <;> cases (signingCertificates idp).isEmpty <;>
    simp [eq_comm]

theorem readRoot_ok_iff {s : IdpMetadataSummary} : readRoot B now root = .ok s ↔
    (∃ id, root.getAttribute "entityID".toList = some id ∧ id ≠ []) ∧
      (∀ validUntil, root.getAttribute "validUntil".toList = some validUntil → validUntil ≠ [] →
        ∀ time, B.getTime validUntil = some time → now < time) ∧
      ∃ idp, idpDescriptor root = some idp ∧ readDescriptor (entityId root) idp = .ok s := by
  rw [← entityId_isEmpty_iff, ← expiredOn_eq_none_iff]
  unfold readRoot
  cases (entityId root).isEmpty <;> cases expiredOn B now root <;> cases idpDescriptor root <;> simp

theorem allReadable_iff : (summary root idp).AllReadable ↔ ∀ e ∈ certificateElements idp,
    ∃ bytes, Script.atob (Script.removeSpaces e.textContent) = some bytes ∧ Readable bytes := by
  have hinfo (e : Element) : (metadataCertificate e).info.isSome = true ↔
      ∃ bytes, Script.atob (Script.removeSpaces e.textContent) = some bytes ∧ Readable bytes := by
    have htwice := Script.removeSpaces_removeSpaces e.textContent
    rw [← congrArg Script.atob htwice, ← readCertificateInfo_ok_iff]
    unfold metadataCertificate
    dsimp only
    cases readCertificateInfo (Script.removeSpaces e.textContent) <;> simp
  simp only [IdpMetadataSummary.AllReadable, summary, signingCertificates, List.forall_mem_map, hinfo]

theorem parseIdpMetadata_ok_iff {xml : String} {s : IdpMetadataSummary}
    (hsize : xml.utf8ByteSize ≤ maxMetadataBytes)
    (htree : B.parseFromString (Script.trim xml.toList) = some root) :
    (parseIdpMetadata B now xml = .ok s ∧ s.AllReadable) ↔
      ∃ idp, Shown B now root idp ∧ s = summary root idp := by
  have hroot (r : Element) := @parseRoot_ok_iff B root _ r
    (Nat.le_trans (Script.size_trim_le xml) hsize) htree
  have hparse : parseIdpMetadata B now xml = .ok s ↔
      parseRoot B (Script.trim xml.toList) = .ok root ∧ readRoot B now root = .ok s := by
    unfold parseIdpMetadata
    cases h : parseRoot B (Script.trim xml.toList) with
    | error e => simp
    | ok r =>
      obtain ⟨rfl, -⟩ := (hroot r).mp h
      simp
  rw [hparse, hroot, readRoot_ok_iff]
  constructor
  · rintro ⟨⟨⟨-, herror, hname⟩, hid, hcurrent, idp, hidp, hread⟩, hreadable⟩
    obtain ⟨hsso, hsome, rfl⟩ := readDescriptor_ok_iff.mp hread
    exact ⟨idp, ⟨herror, hname, hid, hcurrent, hidp, hsso, hsome, allReadable_iff.mp hreadable⟩, rfl⟩
  · rintro ⟨idp, hshown, rfl⟩
    exact ⟨⟨⟨rfl, hshown.noParserError, hshown.name⟩, hshown.entityId, hshown.current, idp,
      hshown.descriptor, readDescriptor_ok_iff.mpr ⟨hshown.ssoUrl, hshown.someCertificate, rfl⟩⟩,
      allReadable_iff.mpr hshown.readable⟩

end MetadataPreview
end AuthVerifier
