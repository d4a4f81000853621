import AuthVerifier.ClaimPolicy
import AuthVerifier.Database
import AuthVerifier.Lib.Text

/-! `POST /certify` and `GET /whoami`, following `client_endpoints.rs`. -/

set_option autoImplicit false

namespace AuthVerifier

def maxVerificationKeyLen : Nat := 8192

def checkVerificationKey (key : String) : Except AuthError Unit :=
  if key.isEmpty then .error (.badRequest "verification_key must not be empty")
  else if key.utf8ByteSize > maxVerificationKeyLen then
    .error (.badRequest s!"verification_key must not exceed {maxVerificationKeyLen} bytes")
  else if !"-----BEGIN ".toList.isPrefixOf key.toList ||
      !Text.contains key.toList "-----END ".toList then
    .error (.badRequest "verification_key must be a PEM-encoded key or certificate")
  else .ok ()

def requestedClaims (names : List String) (extra : ExtraClaims) : ExtraClaims :=
  names.eraseDups.filterMap (fun name => (extra.lookup name).map (fun value => (name, value)))

namespace Endpoints
variable (X : Externals) (params : ServerParams)

def certify (m : Moment) (db : Database) (claims : ClientClaims) (body : CertifyRequest) :
    Except AuthError HttpResponse := do
  let key := String.ofList (Text.trim body.verificationKey.toList)
  checkVerificationKey key
  rejectReservedClaimNames body.claims
  if params.certificateKeyConfigured = false then
    throw (.config "certificate signing is not configured on this server")
  let some sub := claims.registered.sub | throw (.session "no subject in session claims")
  let some scheme := claims.privateClaims.authScheme
    | throw (.session "no auth scheme in session claims")
  let some realmId := claims.privateClaims.realmId
    | throw (.session "no realm ID in session claims")
  let some realm := db.getRealm realmId
    | throw (.session s!"realm '{realmId}' no longer exists")
  let extra := requestedClaims body.claims claims.extra
  if body.excludeSub && extra.isEmpty then
    throw (.badRequest ("exclude_sub requires at least one requested claim in 'claims' to actually "
      ++ "be present in the session — a certificate cannot be both anonymous and empty"))
  match X.signCertificate
      { realmId := realmId, sub := if body.excludeSub then none else some sub,
        authScheme := scheme, verificationKey := key, iat := m.now,
        exp := m.now + realm.certificateMaxAgeSeconds, extra := extra } with
  | .ok certificate => return { status := 200, body := .certificate certificate }
  | .error e => throw (.unexpected s!"Failed to issue certificate: {e}")

def whoami (claims : ClientClaims) : HttpResponse := { status := 200, body := .claims claims }

end Endpoints
end AuthVerifier
