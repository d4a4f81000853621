import AuthVerifier.Lib.Base64
import AuthVerifier.Lib.Markup
import AuthVerifier.Lib.Text
import AuthVerifier.Models

/-!
The documents that `saml/sp_metadata.rs` and `redirect_page` of `saml/endpoints.rs` write values
into. `escape_markup` replaces five characters, one after the other, in the whole text.
-/

set_option autoImplicit false

namespace AuthVerifier
namespace Saml

def replace (c : Char) (written : String) (text : String) : String :=
  String.ofList (text.toList.flatMap fun d => if d = c then written.toList else [d])

def escapeMarkup (text : String) : String :=
  replace '\'' "&#39;" (replace '"' "&quot;" (replace '>' "&gt;" (replace '<' "&lt;"
    (replace '&' "&amp;" text))))

def pageStart : String :=
  "<!DOCTYPE html>\n<html><head><meta charset=\"utf-8\">"
    ++ "<meta http-equiv=\"refresh\" content=\"0;url="

def pageMiddle : String :=
  "\"><title>Signing in</title></head>\n<body><p><a href=\""

def pageEnd : String := "\">Continue</a></p></body></html>\n"

def redirectPage (returnUrl : String) : String :=
  let url := escapeMarkup returnUrl
  pageStart ++ url ++ pageMiddle ++ url ++ pageEnd

/-- The certificate is read from its file by the `openssl` crate, which also writes it as DER. -/
structure SamlSpSigningKey where
  certificateDer : Except String (List UInt8)

def httpPostBinding : String := "urn:oasis:names:tc:SAML:2.0:bindings:HTTP-POST"

def metadataStart : String :=
  "<?xml version=\"1.0\" encoding=\"UTF-8\"?>\n"
    ++ "<md:EntityDescriptor xmlns:md=\"urn:oasis:names:tc:SAML:2.0:metadata\" "
    ++ "xmlns:ds=\"http://www.w3.org/2000/09/xmldsig#\" entityID=\""

def afterEntityId : String :=
  "\">\n  <md:SPSSODescriptor AuthnRequestsSigned=\"true\" WantAssertionsSigned=\"true\" "
    ++ "protocolSupportEnumeration=\"urn:oasis:names:tc:SAML:2.0:protocol\">\n"
    ++ "    <md:KeyDescriptor use=\"signing\">\n      <ds:KeyInfo><ds:X509Data><ds:X509Certificate>"

def afterCertificate : String :=
  "</ds:X509Certificate></ds:X509Data></ds:KeyInfo>\n    </md:KeyDescriptor>"

def nameIdFormatElement (format : Option String) : String :=
  (format.map fun format =>
    "\n    <md:NameIDFormat>" ++ escapeMarkup format ++ "</md:NameIDFormat>").getD ""

def beforeAcsUrl : String :=
  "\n    <md:AssertionConsumerService Binding=\"" ++ httpPostBinding ++ "\" Location=\""

def metadataEnd : String :=
  "\" index=\"0\" isDefault=\"true\"/>\n  </md:SPSSODescriptor>\n</md:EntityDescriptor>\n"

def renderSpMetadata (params : SamlParams) (signingKey : SamlSpSigningKey) :
    Except AuthError String :=
  match signingKey.certificateDer with
  | .error e => .error (.unexpected s!"failed to encode the SAML certificate: {e}")
  | .ok certificate => .ok
      (metadataStart ++ escapeMarkup params.spEntityId ++ afterEntityId
        ++ String.ofList (Base64.encode certificate) ++ afterCertificate
        ++ nameIdFormatElement params.idpNameidFormat ++ beforeAcsUrl
        ++ escapeMarkup params.spAcsUrl ++ metadataEnd)

theorem toList_replace (c : Char) (written text : String) : (replace c written text).toList =
    text.toList.flatMap fun d => if d = c then written.toList else [d] := by
  rw [replace, String.toList_ofList]

theorem escapeChar_eq (c : Char) :
    (((((if c = '&' then "&amp;".toList else [c]).flatMap
      fun d => if d = '<' then "&lt;".toList else [d]).flatMap
      fun d => if d = '>' then "&gt;".toList else [d]).flatMap
      fun d => if d = '"' then "&quot;".toList else [d]).flatMap
      fun d => if d = '\'' then "&#39;".toList else [d]) = Markup.escapeChar c := by
  rcases Markup.escapeChar_cases c with ⟨name, hname, -⟩ | ⟨hplain, hescape⟩
  · simp only [Markup.references, List.mem_cons, Prod.mk.injEq, List.not_mem_nil, or_false] at hname
    rcases hname with ⟨rfl, -⟩ | ⟨rfl, -⟩ | ⟨rfl, -⟩ | ⟨rfl, -⟩ | ⟨rfl, -⟩ <;> decide
  · have hamp : c ≠ '&' := Markup.ne_of_plain hplain (by decide)
    have hlt : c ≠ '<' := Markup.ne_of_plain hplain (by decide)
    have hgt : c ≠ '>' := Markup.ne_of_plain hplain (by decide)
    have hquot : c ≠ '"' := Markup.ne_of_plain hplain (by decide)
    have hapos : c ≠ '\'' := Markup.ne_of_plain hplain (by decide)
    simp only [hescape, hamp, hlt, hgt, hquot, hapos, if_false, List.flatMap_cons, List.flatMap_nil,
      List.append_nil]

theorem toList_escapeMarkup (text : String) :
    (escapeMarkup text).toList = Markup.escape text.toList := by
  simp only [escapeMarkup, toList_replace, List.flatMap_assoc]
  exact List.flatMap_congr fun c _ => by
    rw [← escapeChar_eq, List.flatMap_assoc, List.flatMap_assoc, List.flatMap_assoc]

open Markup

def element (name : String) (attributes : List (String × List Char)) (children : List Node) : Node :=
  .element name.toList (attributes.map fun a => (a.1.toList, a.2)) children

def text (s : String) : Node := .text s.toList

def redirectTree (url : List Char) : Node :=
  element "html" []
    [element "head" []
      [element "meta" [("charset", "utf-8".toList)] [],
        element "meta" [("http-equiv", "refresh".toList), ("content", "0;url=".toList ++ url)] [],
        element "title" [] [text "Signing in"]],
      text "\n",
      element "body" [] [element "p" [] [element "a" [("href", url)] [text "Continue"]]]]

def pageStartEvents : List Event :=
  [.declaration, .text "\n".toList, .startTag "html".toList, .endOfTag false,
    .startTag "head".toList, .endOfTag false, .startTag "meta".toList,
    .attribute "charset".toList "utf-8".toList, .endOfTag false, .startTag "meta".toList,
    .attribute "http-equiv".toList "refresh".toList]

def pageMiddleEvents : List Event :=
  [.endOfTag false, .startTag "title".toList, .endOfTag false, .text "Signing in".toList,
    .endTag "title".toList, .endTag "head".toList, .text "\n".toList, .startTag "body".toList,
    .endOfTag false, .startTag "p".toList, .endOfTag false, .startTag "a".toList]

def pageEndEvents : List Event :=
  [.endOfTag false, .text "Continue".toList, .endTag "a".toList, .endTag "p".toList,
    .endTag "body".toList, .endTag "html".toList]

theorem toList_ofList_append (cs ds es : List Char) :
    (String.ofList cs ++ String.ofList ds ++ String.ofList es).toList = cs ++ ds ++ es := by
  simp only [String.toList_append, String.toList_ofList]

theorem run_pageStart : run html (.data (.content [])) pageStart.toList =
    some (pageStartEvents, .data (.value "content".toList "0;url=".toList)) := by
  have hchars : pageStart.toList = _ :=
    (String.toList_append ..).trans (congrArg₂ _ String.toList_ofList String.toList_ofList)
  rw [hchars]
  decide +kernel

theorem run_pageMiddle (name v : List Char) : run html (.data (.value name v)) pageMiddle.toList =
    some (.attribute name v :: pageMiddleEvents, .data (.value "href".toList [])) := by
  have hchars : pageMiddle.toList = _ := String.toList_ofList
  rw [hchars]
  exact run_quote (by decide)

theorem run_pageEnd (name v : List Char) : run html (.data (.value name v)) pageEnd.toList =
    some (.attribute name v :: pageEndEvents, .data (.content "\n".toList)) :=
  run_quote (by decide)

theorem parse_redirectPage {url : String} (h : ∀ c ∈ url.toList, html.Keeps c) :
    parse html (redirectPage url).toList = some (redirectTree url.toList) := by
  have hfirst := run_escape (.value "content".toList "0;url=".toList) h
  have hsecond := run_escape (.value "href".toList []) h
  have hrun := run_append run_pageStart (run_append hfirst (run_append (run_pageMiddle _ _)
    (run_append hsecond (run_pageEnd _ _))))
  simp only [redirectPage, String.toList_append, toList_escapeMarkup, List.append_assoc]
  rw [parse, hrun]
  rfl

def textNodes (cs : List Char) : List Node := if cs.isEmpty then [] else [.text cs]

def keyDescriptorTree (certificate : List Char) : Node :=
  element "md:KeyDescriptor" [("use", "signing".toList)]
    [text "\n      ",
      element "ds:KeyInfo" []
        [element "ds:X509Data" [] [element "ds:X509Certificate" [] (textNodes certificate)]],
      text "\n    "]

def nameIdFormatNodes (format : Option (List Char)) : List Node :=
  (format.map fun format =>
    [text "\n    ", element "md:NameIDFormat" [] (textNodes format)]).getD []

def acsTree (acsUrl : List Char) : Node :=
  element "md:AssertionConsumerService"
    [("Binding", httpPostBinding.toList), ("Location", acsUrl), ("index", "0".toList),
      ("isDefault", "true".toList)] []

def spMetadataTree (entityId acsUrl : List Char) (format : Option (List Char))
    (certificate : List Char) : Node :=
  element "md:EntityDescriptor"
    [("xmlns:md", "urn:oasis:names:tc:SAML:2.0:metadata".toList),
      ("xmlns:ds", "http://www.w3.org/2000/09/xmldsig#".toList), ("entityID", entityId)]
    [text "\n  ",
      element "md:SPSSODescriptor"
        [("AuthnRequestsSigned", "true".toList), ("WantAssertionsSigned", "true".toList),
          ("protocolSupportEnumeration", "urn:oasis:names:tc:SAML:2.0:protocol".toList)]
        ([text "\n    ", keyDescriptorTree certificate] ++ nameIdFormatNodes format ++
          [text "\n    ", acsTree acsUrl, text "\n  "]),
      text "\n"]

def metadataStartEvents : List Event :=
  [.declaration, .text "\n".toList, .startTag "md:EntityDescriptor".toList,
    .attribute "xmlns:md".toList "urn:oasis:names:tc:SAML:2.0:metadata".toList,
    .attribute "xmlns:ds".toList "http://www.w3.org/2000/09/xmldsig#".toList]

def afterEntityIdEvents : List Event :=
  [.endOfTag false, .text "\n  ".toList, .startTag "md:SPSSODescriptor".toList,
    .attribute "AuthnRequestsSigned".toList "true".toList,
    .attribute "WantAssertionsSigned".toList "true".toList,
    .attribute "protocolSupportEnumeration".toList "urn:oasis:names:tc:SAML:2.0:protocol".toList,
    .endOfTag false, .text "\n    ".toList, .startTag "md:KeyDescriptor".toList,
    .attribute "use".toList "signing".toList, .endOfTag false, .text "\n      ".toList,
    .startTag "ds:KeyInfo".toList, .endOfTag false, .startTag "ds:X509Data".toList, .endOfTag false,
    .startTag "ds:X509Certificate".toList, .endOfTag false]

def afterCertificateEvents : List Event :=
  [.endTag "ds:X509Certificate".toList, .endTag "ds:X509Data".toList, .endTag "ds:KeyInfo".toList,
    .text "\n    ".toList, .endTag "md:KeyDescriptor".toList]

def nameIdFormatEvents (format : Option (List Char)) : List Event :=
  (format.map fun format =>
    [.text "\n    ".toList, .startTag "md:NameIDFormat".toList, .endOfTag false] ++
      (textEvents format ++ [.endTag "md:NameIDFormat".toList])).getD []

def beforeAcsUrlEvents : List Event :=
  [.text "\n    ".toList, .startTag "md:AssertionConsumerService".toList,
    .attribute "Binding".toList httpPostBinding.toList]

def metadataEndEvents : List Event :=
  [.attribute "index".toList "0".toList, .attribute "isDefault".toList "true".toList, .endOfTag true,
    .text "\n  ".toList, .endTag "md:SPSSODescriptor".toList, .text "\n".toList,
    .endTag "md:EntityDescriptor".toList]

theorem run_metadataStart : run xml (.data (.content [])) metadataStart.toList =
    some (metadataStartEvents, .data (.value "entityID".toList [])) := by
  have hchars : metadataStart.toList = _ := toList_ofList_append _ _ _
  rw [hchars]
  decide +kernel

theorem run_afterEntityId (name v : List Char) :
    run xml (.data (.value name v)) afterEntityId.toList =
      some (.attribute name v :: afterEntityIdEvents, .data (.content [])) := by
  have hchars : afterEntityId.toList = _ := toList_ofList_append _ _ _
  rw [hchars]
  exact run_quote (by decide +kernel)

theorem run_afterCertificate (certificate : List Char) :
    run xml (.data (.content certificate)) afterCertificate.toList =
      some (textEvents certificate ++ afterCertificateEvents, .data (.content [])) := by
  have hchars : afterCertificate.toList = _ := String.toList_ofList
  rw [hchars]
  exact run_tag (by decide)

theorem run_beforeAcsUrl : run xml (.data (.content [])) beforeAcsUrl.toList =
    some (beforeAcsUrlEvents, .data (.value "Location".toList [])) := by
  have hchars : beforeAcsUrl.toList = _ := toList_ofList_append _ _ _
  rw [hchars]
  decide +kernel

theorem run_metadataEnd (name v : List Char) :
    run xml (.data (.value name v)) metadataEnd.toList =
      some (.attribute name v :: metadataEndEvents, .data (.content "\n".toList)) := by
  have hchars : metadataEnd.toList = _ := String.toList_ofList
  rw [hchars]
  exact run_quote (by decide)

theorem run_nameIdFormat {format : Option String}
    (h : ∀ s, format = some s → ∀ c ∈ s.toList, xml.Keeps c) :
    run xml (.data (.content [])) (nameIdFormatElement format).toList =
      some (nameIdFormatEvents (format.map String.toList), .data (.content [])) := by
  cases format with
  | none => rfl
  | some format =>
    have hopen : run xml (.data (.content [])) "\n    <md:NameIDFormat>".toList =
        some ([.text "\n    ".toList, .startTag "md:NameIDFormat".toList, .endOfTag false],
          .data (.content [])) := by decide
    have hclose : run xml (.data (.content format.toList)) "</md:NameIDFormat>".toList =
        some (textEvents format.toList ++ [.endTag "md:NameIDFormat".toList],
          .data (.content [])) := run_tag (by decide)
    have hrun := run_append hopen (run_append (run_escape (.content []) (h format rfl)) hclose)
    simp only [nameIdFormatElement, Option.map_some, Option.getD_some, String.toList_append,
      toList_escapeMarkup, List.append_assoc]
    exact hrun

theorem run_certificate (certificate : List UInt8) :
    run xml (.data (.content [])) (Base64.encode certificate) =
      some ([], .data (.content (Base64.encode certificate))) := by
  have hall : ('=' :: Base64.alphabet).all (fun c =>
      (xml.legal c && xml.attributeChar c == c) && escapeChar c == [c]) = true := by decide +kernel
  have hcode : ∀ c ∈ Base64.encode certificate, xml.Keeps c ∧ escapeChar c = [c] := by
    intro c hc
    have hc := List.all_eq_true.mp hall c (Base64.mem_of_isCode (Base64.isCode_of_mem_encode hc))
    simp only [Bool.and_eq_true, beq_iff_eq] at hc
    exact hc
  have hrun := run_escape (.content []) fun c hc => (hcode c hc).1
  have hplain : escape (Base64.encode certificate) = Base64.encode certificate := by
    rw [escape, List.flatMap_congr fun c hc => (hcode c hc).2, List.flatMap_singleton']
  rwa [hplain] at hrun

theorem parse_renderSpMetadata {params : SamlParams} {signingKey : SamlSpSigningKey}
    {certificate : List UInt8} {metadata : String}
    (hkey : signingKey.certificateDer = .ok certificate)
    (hmetadata : renderSpMetadata params signingKey = .ok metadata)
    (hentity : ∀ c ∈ params.spEntityId.toList, xml.Keeps c)
    (hacs : ∀ c ∈ params.spAcsUrl.toList, xml.Keeps c)
    (hformat : ∀ s, params.idpNameidFormat = some s → ∀ c ∈ s.toList, xml.Keeps c) :
    parse xml metadata.toList = some (spMetadataTree params.spEntityId.toList
      params.spAcsUrl.toList (params.idpNameidFormat.map String.toList)
      (Base64.encode certificate)) := by
  have hrun := run_append run_metadataStart
    (run_append (run_escape (.value "entityID".toList []) hentity)
      (run_append (run_afterEntityId _ _) (run_append (run_certificate certificate)
        (run_append (run_afterCertificate _) (run_append (run_nameIdFormat hformat)
          (run_append run_beforeAcsUrl (run_append
            (run_escape (.value "Location".toList []) hacs) (run_metadataEnd _ _))))))))
  rw [renderSpMetadata, hkey] at hmetadata
  cases hmetadata
  simp only [String.toList_append, String.toList_ofList, toList_escapeMarkup, List.append_assoc]
  rw [parse, hrun]
  generalize params.idpNameidFormat.map String.toList = format
  generalize Base64.encode certificate = cs
  rcases cs with _ | ⟨c, cs⟩ <;> rcases format with _ | _ | ⟨d, format⟩ <;> rfl

def isControl (c : Char) : Bool := c.toNat < 0x20 || (0x7f ≤ c.toNat && c.toNat < 0xa0)

/-- What XML has no way to write, although it is no control character. -/
def isNoncharacter (c : Char) : Bool := c.toNat == 0xFFFE || c.toNat == 0xFFFF

theorem xml_keeps {c : Char} (hc : isControl c = false) (hn : isNoncharacter c = false) :
    xml.Keeps c := by
  simp only [isControl, Bool.or_eq_false_iff, Bool.and_eq_false_iff, decide_eq_false_iff_not] at hc
  simp only [isNoncharacter, Bool.or_eq_false_iff, beq_eq_false_iff_ne] at hn
  have hvalid : c.toNat < 0xD800 ∨ 0xDFFF < c.toNat ∧ c.toNat < 0x110000 := c.valid
  refine ⟨?_, ?_⟩
  · simp only [xml, isXmlChar, Bool.or_eq_true, Bool.and_eq_true, beq_iff_eq, decide_eq_true_eq]
    omega
  · have htab : c ≠ '\t' := by
      rintro rfl
      exact hc.1 (by decide)
    have hnewline : c ≠ '\n' := by
      rintro rfl
      exact hc.1 (by decide)
    simp only [xml, htab, hnewline, or_self, if_false]

theorem html_keeps {c : Char} (hc : isControl c = false) : html.Keeps c := by
  have hreturn : c ≠ '\r' := by
    rintro rfl
    exact absurd hc (by decide)
  have hnul : c.toNat ≠ 0 := by
    intro hnul
    simp [isControl, hnul] at hc
  exact ⟨by simp [html, hreturn, hnul], rfl⟩

/-- Whatever is written into the page or the metadata is read back, and stays in its place. -/
theorem written_values_read_back :
    (∀ s : String,
      (∀ c ∈ (escapeMarkup s).toList, c ≠ '<' ∧ c ≠ '>' ∧ c ≠ '"' ∧ c ≠ '\'') ∧
      (∀ before after, (escapeMarkup s).toList = before ++ '&' :: after →
        ∃ e ∈ references, reference e.2 <+: '&' :: after) ∧
      unescape (escapeMarkup s).toList = s.toList) ∧
    (∀ url : String, (∀ c ∈ url.toList, isControl c = false) →
      parse html (redirectPage url).toList = some (redirectTree url.toList)) ∧
    ∀ (params : SamlParams) (signingKey : SamlSpSigningKey) (metadata : String),
      (∀ s ∈ params.spEntityId :: params.spAcsUrl :: params.idpNameidFormat.toList,
        ∀ c ∈ s.toList, isControl c = false ∧ isNoncharacter c = false) →
      renderSpMetadata params signingKey = .ok metadata →
      ∃ certificate, signingKey.certificateDer = .ok certificate ∧
        parse xml metadata.toList = some (spMetadataTree params.spEntityId.toList
          params.spAcsUrl.toList (params.idpNameidFormat.map String.toList)
          (Base64.encode certificate)) := by
  refine ⟨fun s => ⟨fun c hc => ?_, fun before after h => ?_, ?_⟩, fun url hurl => ?_,
    fun params signingKey metadata hvalues hmetadata => ?_⟩
  · rw [toList_escapeMarkup] at hc
    have hdelimiter := isDelimiter_of_mem_escape hc
    simpa [isDelimiter] using hdelimiter
  · rw [toList_escapeMarkup] at h
    exact reference_of_ampersand h
  · rw [toList_escapeMarkup, unescape_escape]
  · exact parse_redirectPage fun c hc => html_keeps (hurl c hc)
  · have hkeeps : ∀ s ∈ params.spEntityId :: params.spAcsUrl :: params.idpNameidFormat.toList,
        ∀ c ∈ s.toList, xml.Keeps c :=
      fun s hs c hc => xml_keeps (hvalues s hs c hc).1 (hvalues s hs c hc).2
    cases hkey : signingKey.certificateDer with
    | error e => simp [renderSpMetadata, hkey] at hmetadata
    | ok certificate =>
      have hparse := parse_renderSpMetadata hkey hmetadata (hkeeps _ (by simp))
        (hkeeps _ (by simp)) fun s hs => hkeeps s (by simp [hs])
      exact ⟨certificate, rfl, hparse⟩

theorem writable_of_all {ss : List String} (h : (ss.all fun s => s.toList.all fun c =>
    !isControl c && !isNoncharacter c) = true) :
    ∀ s ∈ ss, ∀ c ∈ s.toList, isControl c = false ∧ isNoncharacter c = false := by
  intro s hs c hc
  simpa using List.all_eq_true.mp (List.all_eq_true.mp h s hs) c hc

/-- The metadata of a realm whose values need every reference. -/
theorem written_values_read_back_quoted :
    unescape (escapeMarkup "R&amp;D <\"a\">'").toList = "R&amp;D <\"a\">'".toList ∧
    parse html (redirectPage "/?a=1&b='2'").toList = some (redirectTree "/?a=1&b='2'".toList) ∧
    ∀ metadata, renderSpMetadata
        { spEntityId := "R&D", spAcsUrl := "https://a/?<b>", defaultReturnUrl := "/" }
        { certificateDer := .ok [48, 0] } = .ok metadata →
      parse xml metadata.toList =
        some (spMetadataTree "R&D".toList "https://a/?<b>".toList none "MAA=".toList) := by
  refine ⟨(written_values_read_back.1 _).2.2, written_values_read_back.2.1 _
    (Text.forall_false_of_all (by decide)), fun metadata h => ?_⟩
  obtain ⟨certificate, hcertificate, hparse⟩ :=
    written_values_read_back.2.2 _ _ metadata (writable_of_all (by decide)) h
  cases hcertificate
  exact hparse

/-- U+FFFF is no control character, and no XML document contains it. -/
theorem noncharacter_unreadable :
    (∀ c ∈ "\uffff".toList, isControl c = false) ∧
    ∃ metadata, renderSpMetadata
        { spEntityId := "\uffff", spAcsUrl := "https://a", defaultReturnUrl := "/" }
        { certificateDer := .ok [48, 0] } = .ok metadata ∧
      (∃ c ∈ metadata.toList, isXmlChar c = false) ∧ parse xml metadata.toList = none := by
  refine ⟨Text.forall_false_of_all (by decide), _, rfl, ?_⟩
  have hmem : Char.ofNat 0xFFFF ∈ escape "\uffff".toList := by decide
  have hillegal : isXmlChar (Char.ofNat 0xFFFF) = false := by decide
  simp only [String.toList_append, toList_escapeMarkup, List.append_assoc]
  refine ⟨⟨_, List.mem_append_right _ (List.mem_append_left _ hmem), hillegal⟩, ?_⟩
  rw [parse, run_eq_none_of_illegal (show xml.legal (Char.ofNat 0xFFFF) = false from hillegal) _
    (List.mem_append_right _ (List.mem_append_left _ hmem))]

end Saml
end AuthVerifier
