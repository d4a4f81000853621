import AuthVerifier.Models

/-!
What the server takes from outside its own sources: the crates it calls (`Externals`) and what
a single request reads from its surroundings (`Moment`).
-/

set_option autoImplicit false

namespace AuthVerifier

structure Argon2Params where
  mCost : Nat
  tCost : Nat
  pCost : Nat
  deriving DecidableEq

/-- A parsed PHC string; `params` is what `Params::try_from` reads out of it. -/
structure PasswordHash where
  algorithm : String
  version : Option Nat
  params : Except String Argon2Params
  salt : Option String
  hash : Option String

inductive TotpAlgorithm where
  | sha1 | sha256 | sha512
  deriving DecidableEq

/-- A configured `totp_rs::TOTP`. -/
structure Totps where
  algorithm : TotpAlgorithm
  digits : Nat
  skew : Nat
  step : Nat
  secret : List UInt8
  issuer : Option String
  accountName : String
  deriving DecidableEq

/-- A published key: its `kid` and the rest of the JWK as opaque key material. -/
structure Jwk where
  keyId : Option String
  material : String
  deriving DecidableEq

abbrev JwkSet := List Jwk

structure SamlIdentity where
  subject : String
  roles : List String
  extraClaims : ExtraClaims
  deriving DecidableEq

/-- How `validate_saml_params` fails: a rejected setting, or a certificate it cannot re-encode. -/
inductive SamlParamsError where
  | badRequest : String → SamlParamsError
  | unexpected : String → SamlParamsError
  deriving DecidableEq

def SamlParamsError.toAuthError : SamlParamsError → AuthError
  | .badRequest msg => .badRequest msg
  | .unexpected msg => .unexpected msg

structure Externals where
  -- argon2
  parsePhc : String → Except String PasswordHash
  argon2Hash : (salt password : String) → Except String String
  argon2Verify : PasswordHash → (password : String) → Bool
  -- serde_json
  extraClaimsSize : ExtraClaims → Nat
  digitalCredentialsJson : List (String × String) → String
  -- totp_rs
  secretToBytes : String → Except String (List UInt8)
  secretToBase32 : List UInt8 → String
  totpNew : Totps → Except String Unit
  totpUrl : Totps → String
  checkCurrent : Totps → (now : Int) → (token : String) → Bool
  -- base64 followed by `String::from_utf8`
  base64Utf8 : String → Option String
  -- jsonwebtoken under the server's own session key
  signSession : (nonce : String) → ClientClaims → Except String String
  verifySession : String → Except String ClientClaims
  -- jsonwebtoken under the certificate key
  signCertificate : CertificateClaims → Except String String
  -- jsonwebtoken under a published key: the `kid` of the header, then signature and payload
  decodeHeaderKid : String → Except String (Option String)
  verifyWithJwk : Jwk → String → Except String ClientClaims
  -- cookie and sha2
  cookieToString : (value : String) → (maxAge : Int) → (isHttps : Bool) → String
  cookieFromStr : String → Except String String
  sha256Hex : String → String
  -- samael and the metadata parser
  validateSamlParams : SamlParams → (realmId : String) → Except SamlParamsError SamlParams

structure ServerParams where
  samlSpConfigured : Bool
  tlsConfigured : Bool
  certificateKeyConfigured : Bool
  deriving DecidableEq

/-- The order in which a `HashMap` of key sets is iterated: any order of its entries. -/
structure IterationOrder where
  order : List (String × JwkSet) → List (String × JwkSet)
  perm : ∀ entries, (order entries).Perm entries

/-- The clock in nanoseconds, the random draws and the JWKS endpoints as one request meets them. -/
structure Moment where
  nanos : Int
  salt : String
  nonce : String
  totpSecret : List UInt8
  fetchJwks : String → Option JwkSet
  jwksOrder : IterationOrder

def Moment.now (m : Moment) : Int := m.nanos / 1000000000

end AuthVerifier
