import AuthVerifier.Externals

/-! TOTP settings and instances, following `totp.rs`. -/

set_option autoImplicit false

namespace AuthVerifier

structure TotpParams where
  algorithm : TotpAlgorithm := .sha1
  digits : Nat := 6
  skew : Nat := 1
  step : Nat := 30
  deriving DecidableEq

def toAsciiUppercase (s : String) : String := String.ofList (s.toList.map Char.toUpper)

def realmParamsToTotpParams (p : TotpRealmParams) : Except AuthError TotpParams :=
  let name := toAsciiUppercase p.algorithm
  if name = "SHA1" then .ok { algorithm := .sha1, digits := 6, skew := 1, step := p.step }
  else if name = "SHA256" then .ok { algorithm := .sha256, digits := 6, skew := 1, step := p.step }
  else if name = "SHA512" then .ok { algorithm := .sha512, digits := 6, skew := 1, step := p.step }
  else .error (.totp
    s!"Unknown TOTP algorithm '{name}'; supported values: SHA1, SHA256, SHA512")

def realmTotpParams (realm : Realm) : Except AuthError (Option TotpParams) :=
  match realm.authParams.totpParams with
  | none => .ok none
  | some p => match realmParamsToTotpParams p with
    | .ok params => .ok (some params)
    | .error e => .error e

section
variable (X : Externals)

/-- `TOTP::new`; errors are the messages of `AuthError::Totp`. -/
def Totps.new (params : TotpParams) (secret : List UInt8) (issuer : Option String)
    (accountName : String) : Except String Totps :=
  let totp : Totps := ⟨params.algorithm, params.digits, params.skew, params.step, secret,
    issuer, accountName⟩
  match X.totpNew totp with
  | .ok () => .ok totp
  | .error e => .error s!"Failed to create TOTP: {e}"

def Totps.fromSecret (secretBase32 : String) (issuer : Option String) (accountName : String)
    (params : Option TotpParams) : Except String Totps :=
  match X.secretToBytes secretBase32 with
  | .error e => .error s!"Invalid Base32 secret: {e}"
  | .ok bytes => Totps.new X (params.getD {}) bytes issuer accountName

def Totps.validateToken (t : Totps) (now : Int) (token : String) : Bool :=
  X.checkCurrent t now token

def Totps.getOtpauthUrl (t : Totps) : String := X.totpUrl t

/-- A fresh instance over the drawn secret, with the secret in Base32. -/
def createTotpSecret (drawn : List UInt8) (issuer accountName : String)
    (params : Option TotpParams) : Except String (Totps × String) :=
  match Totps.new X (params.getD {}) drawn (some issuer) accountName with
  | .error e => .error e
  | .ok totps => .ok (totps, X.secretToBase32 totps.secret)

end

end AuthVerifier
