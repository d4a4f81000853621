import AuthVerifier.DerReader
import AuthVerifier.Lib.Script

/-!
What the admin UI shows of a certificate, `readCertificateInfo` of `utils/x509.ts`. Texts are cut by
UTF-16 units there; a character of two units makes the number that it is part of `NaN` either way.
-/

set_option autoImplicit false

namespace AuthVerifier
namespace X509

structure CertificateInfo where
  subject : List Char
  /-- In milliseconds. -/
  notBefore : Int
  notAfter : Int
  deriving DecidableEq

def commonNameOid : List UInt8 := [0x55, 0x04, 0x03]
def utcTime : UInt8 := 0x17
def explicitVersion : UInt8 := 0xa0

def text (bytes : List UInt8) (t : Tlv) : List Char := Script.decodeText (content bytes t)

def withoutZ (cs : List Char) : List Char := if cs.getLast? = some 'Z' then cs.dropLast else cs

def part (rest : List Char) (start : Nat) : Option ℚ :=
  match (rest.drop start).take 2 with
  | [] => some 0
  | cs => Script.number? cs

def timeOf (utc : Bool) (digits : List Char) : Option Int := do
  let size := if utc then 2 else 4
  let number ← Script.number? (digits.take size)
  let year := if utc then (if number < 50 then number + 2000 else number + 1900) else number
  let rest := digits.drop size
  let month ← part rest 0
  let day ← part rest 2
  let hours ← part rest 4
  let minutes ← part rest 6
  let seconds ← part rest 8
  Script.dateUtc year (month - 1) day hours minutes seconds

def readTime (bytes : List UInt8) (t : Tlv) : Throws Int :=
  match timeOf (t.tag == utcTime) (withoutZ (text bytes t)) with
  | some date => .ok date
  | none => .error "invalid certificate validity date"

def isCommonName (bytes : List UInt8) (oid : Tlv) : Bool :=
  oid.stop - oid.start == 3 && (List.range 3).all fun i => bytes[oid.start + i]? == commonNameOid[i]?

def commonNameAmong (bytes : List UInt8) : List Tlv → Throws (Option (List Char))
  | [] => .ok none
  | a :: attributes => do
    match ← children bytes a with
    | oid :: value :: _ =>
      if isCommonName bytes oid then return some (text bytes value)
      else commonNameAmong bytes attributes
    | _ => commonNameAmong bytes attributes

def commonNameOf (bytes : List UInt8) : List Tlv → Throws (List Char)
  | [] => .ok []
  | rdn :: rdns => do
    match ← commonNameAmong bytes (← children bytes rdn) with
    | some name => return name
    | none => commonNameOf bytes rdns

def commonName (bytes : List UInt8) (name : Tlv) : Throws (List Char) := do
  commonNameOf bytes (← children bytes name)

/-- In front of the serial number there may be a version; then come the signature, the issuer, the
validity and the subject. -/
def firstField (fields : List Tlv) : Nat :=
  if fields.head?.any fun field => field.tag == explicitVersion then 1 else 0

def readDer (bytes : List UInt8) : Throws CertificateInfo := do
  match ← children bytes (← readTlv bytes 0) with
  | [] => .error "not an X.509 certificate"
  | tbs :: _ =>
    let fields ← children bytes tbs
    match fields[firstField fields + 3]?, fields[firstField fields + 4]? with
    | some validity, some subject =>
      match ← children bytes validity with
      | notBefore :: notAfter :: _ =>
        let name ← commonName bytes subject
        let notBefore ← readTime bytes notBefore
        let notAfter ← readTime bytes notAfter
        return { subject := name, notBefore := notBefore, notAfter := notAfter }
      | _ => .error "certificate has no validity period"
    | _, _ => .error "not an X.509 certificate"

def readCertificateInfo (base64 : List Char) : Throws CertificateInfo :=
  match Script.atob (Script.removeSpaces base64) with
  | some bytes => readDer bytes
  | none => .error "certificate is not valid base64"

/-- The elements of the certificate down to the two dates are there, and these are dates. -/
def Readable (bytes : List UInt8) : Prop :=
  ∃ certificate tbs rest fields, readTlv bytes 0 = .ok certificate ∧
    children bytes certificate = .ok (tbs :: rest) ∧ children bytes tbs = .ok fields ∧
    ∃ validity subject, fields[firstField fields + 3]? = some validity ∧
      fields[firstField fields + 4]? = some subject ∧ (∃ name, commonName bytes subject = .ok name) ∧
      ∃ notBefore notAfter rest, children bytes validity = .ok (notBefore :: notAfter :: rest) ∧
        ∀ t ∈ [notBefore, notAfter], (timeOf (t.tag == utcTime) (withoutZ (text bytes t))).isSome

theorem readTime_ok_iff {bytes : List UInt8} {t : Tlv} : (∃ time, readTime bytes t = .ok time) ↔
    (timeOf (t.tag == utcTime) (withoutZ (text bytes t))).isSome := by
  unfold readTime
  cases timeOf (t.tag == utcTime) (withoutZ (text bytes t)) <;> simp

theorem bind_ok_iff {α β : Type} {x : Throws α} {f : α → Throws β} {b : β} :
    (x >>= f) = .ok b ↔ ∃ a, x = .ok a ∧ f a = .ok b := by
  cases x with
  | error e => exact ⟨fun h => (nomatch h), fun ⟨_, h, _⟩ => (nomatch h)⟩
  | ok a => exact ⟨fun h => ⟨a, rfl, h⟩, fun ⟨_, h, hf⟩ => by cases h; exact hf⟩

theorem readDer_ok_iff {bytes : List UInt8} :
    (∃ info, readDer bytes = .ok info) ↔ Readable bytes := by
  unfold readDer
  constructor
  · rintro ⟨info, h⟩
    obtain ⟨certificate, hcertificate, h⟩ := bind_ok_iff.mp h
    obtain ⟨parts, hparts, h⟩ := bind_ok_iff.mp h
    split at h
    · cases h
    · rename_i tbs rest
      obtain ⟨fields, hfields, h⟩ := bind_ok_iff.mp h
      split at h
      · rename_i validity subject hvalidity hsubject
        obtain ⟨dates, hdates, h⟩ := bind_ok_iff.mp h
        split at h
        · rename_i notBefore notAfter more
          obtain ⟨name, hname, h⟩ := bind_ok_iff.mp h
          obtain ⟨start, hstart, h⟩ := bind_ok_iff.mp h
          obtain ⟨stop, hstop, -⟩ := bind_ok_iff.mp h
          have htimes : ∀ t ∈ [notBefore, notAfter], ∃ time, readTime bytes t = .ok time :=
            List.forall_mem_cons.mpr ⟨⟨start, hstart⟩, List.forall_mem_singleton.mpr ⟨stop, hstop⟩⟩
          exact ⟨certificate, tbs, rest, fields, hcertificate, hparts, hfields, validity, subject,
            hvalidity, hsubject, ⟨name, hname⟩, notBefore, notAfter, more, hdates,
            fun t ht => readTime_ok_iff.mp (htimes t ht)⟩
        · cases h
      · cases h
  · rintro ⟨certificate, tbs, rest, fields, hcertificate, hparts, hfields, validity, subject,
      hvalidity, hsubject, ⟨name, hname⟩, notBefore, notAfter, more, hdates, htimes⟩
    obtain ⟨start, hstart⟩ := readTime_ok_iff.mpr (htimes notBefore (by simp))
    obtain ⟨stop, hstop⟩ := readTime_ok_iff.mpr (htimes notAfter (by simp))
    refine ⟨⟨name, start, stop⟩, bind_ok_iff.mpr ⟨certificate, hcertificate, bind_ok_iff.mpr
      ⟨_, hparts, bind_ok_iff.mpr ⟨fields, hfields, ?_⟩⟩⟩⟩
    rw [hvalidity, hsubject]
    exact bind_ok_iff.mpr ⟨_, hdates, bind_ok_iff.mpr ⟨name, hname, bind_ok_iff.mpr
      ⟨start, hstart, bind_ok_iff.mpr ⟨stop, hstop, rfl⟩⟩⟩⟩

theorem readCertificateInfo_ok_iff {base64 : List Char} :
    (∃ info, readCertificateInfo base64 = .ok info) ↔
      ∃ bytes, Script.atob (Script.removeSpaces base64) = some bytes ∧ Readable bytes := by
  unfold readCertificateInfo
  cases Script.atob (Script.removeSpaces base64) with
  | none => simp
  | some bytes => simp [readDer_ok_iff]

end X509
end AuthVerifier
