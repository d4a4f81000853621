import AuthVerifier.Lib.Text
import AuthVerifier.Tokens
import Mathlib.Algebra.GroupWithZero.Nat

/-!
A transparent instance of the external crates. Password hashes and tokens carry their content in
clear, one-time codes are the secret itself, and digests are the text behind a tag. It obeys the
laws that the results below assume of the real crates and makes the whole model executable.
-/

set_option autoImplicit false

namespace AuthVerifier.Transparent

def decimal (digits : List Char) : Int :=
  (digits.foldl (fun n c => 10 * n + (c.toNat - '0'.toNat)) 0 : Nat)

def schemeTexts : List (AuthScheme × String) :=
  [(.usernamePassword, "up"), (.jwt, "jwt"), (.saml, "sa")]

def present (field : List Char) : Option String :=
  if field = ['-'] then none else some (String.ofList field)

/-- Session tokens: subject, realm, scheme, `iat`, `exp` and a random part. -/
def writeToken (nonce : String) (c : ClientClaims) : String :=
  let scheme := (schemeTexts.find? (fun e => some e.1 = c.privateClaims.authScheme)).map Prod.snd
  c.registered.sub.getD "-" ++ "." ++ c.privateClaims.realmId.getD "-" ++ "." ++ scheme.getD "-"
    ++ "." ++ toString (c.registered.iat.getD 0).toNat
    ++ "." ++ toString (c.registered.exp.getD 0).toNat ++ "." ++ nonce

def readToken (token : String) : Option ClientClaims :=
  match Text.splitAll '.' token.toList with
  | [sub, realm, scheme, iat, exp, _] =>
    (schemeTexts.find? (fun e => e.2.toList = scheme)).map fun e =>
      { registered := { sub := some (String.ofList sub), exp := some (decimal exp),
                        iat := some (decimal iat) }
        privateClaims := { authScheme := some e.1, realmId := some (String.ofList realm) } }
  | _ => none

def signSession (nonce : String) (c : ClientClaims) : Except String String :=
  let token := writeToken nonce c
  if readToken token = some c ∧ ';' ∉ token.toList then .ok token
  else .error "unsupported claims"

def verifySession (token : String) : Except String ClientClaims :=
  match readToken token with
  | some c => .ok c
  | none => .error "InvalidToken"

/-- Bearer tokens: `kid`, key material, then issuer, subject, audience and `exp`. -/
def readBearer (token : String) : Option (String × String × ClientClaims) :=
  match Text.splitAll '.' token.toList with
  | [kid, material, iss, sub, aud, exp] =>
    some (String.ofList kid, String.ofList material,
      { registered := { iss := present iss, sub := present sub, aud := (present aud).map ([·]),
                        exp := (present exp).map (fun e => decimal e.toList) } })
  | _ => none

def cookieToString (value : String) (maxAge : Int) (isHttps : Bool) : String :=
  "_ea_=" ++ value ++ "; HttpOnly; SameSite=Strict; " ++ (if isHttps then "Secure; " else "")
    ++ "Path=/; Max-Age=" ++ toString maxAge

/-- The text between the first `=` and the first `;` after it. -/
def cookieFromStr (text : String) : Except String String :=
  match text.toList.dropWhile (fun c => c != '=') with
  | [] => .error "missing pair"
  | _ :: rest => .ok (String.ofList (rest.takeWhile (fun c => c != ';')))

def base64Value (c : Char) : Option Nat :=
  if 'A' ≤ c ∧ c ≤ 'Z' then some (c.toNat - 65)
  else if 'a' ≤ c ∧ c ≤ 'z' then some (c.toNat - 71)
  else if '0' ≤ c ∧ c ≤ '9' then some (c.toNat + 4)
  else if c = '+' then some 62
  else if c = '/' then some 63
  else none

def base64Bytes : List Char → Option (List Nat)
  | [] => some []
  | [a, b, '=', '='] => do
    let n := 64 * (← base64Value a) + (← base64Value b)
    return [n / 16]
  | [a, b, c, '='] => do
    let n := 4096 * (← base64Value a) + 64 * (← base64Value b) + (← base64Value c)
    return [n / 1024, n / 4 % 256]
  | a :: b :: c :: d :: rest => do
    let n := 262144 * (← base64Value a) + 4096 * (← base64Value b) + 64 * (← base64Value c)
      + (← base64Value d)
    return n / 65536 :: n / 256 % 256 :: n % 256 :: (← base64Bytes rest)
  | _ => none

def base64Utf8 (text : String) : Option String :=
  match base64Bytes text.toList with
  | none => none
  | some bytes =>
    if bytes.all (fun b => b < 128) then some (String.ofList (bytes.map Char.ofNat)) else none

example : base64Utf8 "YWRtaW46Y2hhbmdlX21l" = some "admin:change_me" := by
  decide

def base32Digits : List Char := "ABCDEFGHIJKLMNOPQRSTUVWXYZ234567".toList

/-- Five bits a digit; those that fill no byte are dropped. -/
def base32Bytes (text : List Char) : Option (List UInt8) := do
  let values ← text.mapM base32Digits.idxOf?
  let number := values.foldl (fun n v => 32 * n + v) 0
  let bits := 5 * values.length
  return (List.range (bits / 8)).map fun i => UInt8.ofNat (number / 2 ^ (bits - 8 * (i + 1)))

def base32Text (bytes : List UInt8) : String :=
  let number := bytes.foldl (fun n b => 256 * n + b.toNat) 0
  let count := (8 * bytes.length + 4) / 5
  let padded := number * 2 ^ (5 * count - 8 * bytes.length)
  String.ofList ((List.range count).map fun i =>
    base32Digits.getD (padded / 32 ^ (count - (i + 1)) % 32) 'A')

example : (base32Bytes "GEZDGNBVGY3TQOJQ".toList).map base32Text = some "GEZDGNBVGY3TQOJQ" := by
  decide

/-- A code of as many digits as the instance asks for. -/
def clearCode (t : Totps) (counter : Nat) : String :=
  let number := t.secret.foldl (fun n b => 31 * n + b.toNat) counter
  String.ofList ((List.range t.digits).map fun i =>
    Char.ofNat ('0'.toNat + number / 10 ^ (t.digits - (i + 1)) % 10))

/-- The codes of the current period and of `skew` periods before and after it. -/
def checkCurrent (t : Totps) (now : Int) (token : String) : Bool :=
  (List.range (2 * t.skew + 1)).any fun i =>
    t.skew ≤ now.toNat / t.step + i && token == clearCode t (now.toNat / t.step + i - t.skew)

def externals : Externals where
  parsePhc s := .ok
    { algorithm := "argon2id", version := some 19, params := .ok ⟨65536, 3, 4⟩,
      salt := some "salt", hash := some s }
  argon2Hash salt password := .ok ("$argon2id$v=19$m=65536,t=3,p=4$" ++ salt ++ "$" ++ password)
  argon2Verify phc password := (("$" ++ password).toList).isSuffixOf ((phc.hash.getD "").toList)
  extraClaimsSize claims := (claims.map (fun c => c.1.length + c.2.length + 4)).sum + 1
  digitalCredentialsJson claims := String.join (claims.map (fun c => c.1 ++ ":" ++ c.2 ++ ","))
  secretToBytes s := match base32Bytes s.toList with
    | some bytes => .ok bytes
    | none => .error "Base32"
  secretToBase32 := base32Text
  totpNew t :=
    if (6 ≤ t.digits ∧ t.digits ≤ 8) ∧ 16 ≤ t.secret.length ∧
        (∀ issuer ∈ t.issuer, ':' ∉ issuer.toList) ∧ ':' ∉ t.accountName.toList then .ok ()
    else .error "refused"
  totpUrl t := "otpauth://totp/" ++ t.accountName ++ "?secret=" ++ base32Text t.secret
  checkCurrent := checkCurrent
  base64Utf8 := base64Utf8
  signSession := signSession
  verifySession := verifySession
  signCertificate c := .ok (c.realmId ++ "." ++ c.sub.getD "-" ++ "." ++ c.verificationKey)
  decodeHeaderKid token := match readBearer token with
    | some (kid, _, _) => .ok (present kid.toList)
    | none => .error "InvalidToken"
  verifyWithJwk key token := match readBearer token with
    | some (_, material, c) => if material = key.material then .ok c else .error "InvalidSignature"
    | none => .error "InvalidToken"
  cookieToString := cookieToString
  cookieFromStr := cookieFromStr
  sha256Hex s := "sha256:" ++ s
  validateSamlParams params _ := .ok params

def params : ServerParams :=
  { samlSpConfigured := false, tlsConfigured := true, certificateKeyConfigured := false }

def initialHash : String := "$argon2id$v=19$m=65536,t=3,p=4$salt$change_me"

/-- A request at a given second, with no reachable identity provider. Its draws are the same for
every second; where two tokens are signed in one second, the second request is given its own. -/
def moment (now : Int) : Moment :=
  { nanos := now * 1000000000, salt := "salt", nonce := "n", totpSecret := [],
    fetchJwks := fun _ => none, jwksOrder := ⟨id, fun _ => .refl _⟩ }

theorem ofNat_clearByte (b : UInt8) : UInt8.ofNat (Char.ofNat b.toNat).toNat = b := by
  have hvalid : b.toNat.isValidChar := .inl (Nat.lt_trans b.toNat_lt (by decide))
  have hback : (Char.ofNat b.toNat).toNat = b.toNat := by
    rw [Char.ofNat, dif_pos hvalid]
    rfl
  rw [hback, UInt8.ofNat_toNat]

theorem verify_sign {nonce token : String} {c : ClientClaims}
    (h : externals.signSession nonce c = .ok token) : externals.verifySession token = .ok c := by
  simp only [externals, signSession] at h
  split at h
  · rename_i hr
    cases h
    simp [externals, verifySession, hr.1]
  · cases h

theorem cookie_roundTrip {nonce token : String} {c : ClientClaims} {age : Int} {https : Bool}
    (h : externals.signSession nonce c = .ok token) :
    externals.cookieFromStr (externals.cookieToString token age https) = .ok token := by
  simp only [externals, signSession] at h
  split at h
  · rename_i hr
    cases h
    have hsemi : ∀ ch ∈ (writeToken nonce c).toList, (ch != ';') = true := by
      intro ch hch
      have hne : ch ≠ ';' := fun he => hr.2 (he ▸ hch)
      simpa using hne
    simp only [externals, cookieFromStr, cookieToString, String.toList_append, List.append_assoc]
    simp [List.takeWhile_append_of_pos hsemi]
  · cases h

theorem tokensAuthentic : TokensAuthentic externals := by
  constructor
  intro nonce token c c' hs hv
  rw [verify_sign hs] at hv
  cases hv
  exact ⟨rfl, rfl, rfl⟩

theorem cookiesRoundTrip : CookiesRoundTrip externals :=
  ⟨fun _ _ h => cookie_roundTrip h⟩

end AuthVerifier.Transparent
