/-!
The data model shared by the server and its client: realms, credentials, administrators,
sessions and claims, with the field names of the JSON they are exchanged in.

A `HashMap` is an association list with distinct keys. A `serde_json::Value` is its
serialized text, which is canonical because object members are kept sorted.
-/

set_option autoImplicit false

namespace AuthVerifier

def adminRealm : String := "_"

abbrev JsonText := String
abbrev ExtraClaims := List (String × JsonText)

inductive AuthScheme where
  | usernamePassword | jwt | fido2 | digitalCredentials | clientCertificate | saml
  deriving DecidableEq

/-- The scheme as `serde_json` writes it, quotes included: sessions store this text. -/
def AuthScheme.json : AuthScheme → String
  | .usernamePassword => "\"up\""
  | .jwt => "\"jwt\""
  | .fido2 => "\"f2\""
  | .digitalCredentials => "\"dc\""
  | .clientCertificate => "\"cc\""
  | .saml => "\"sa\""

theorem AuthScheme.json_injective {scheme scheme' : AuthScheme} (h : scheme.json = scheme'.json) :
    scheme = scheme' := by
  cases scheme <;> cases scheme' <;> first | rfl | (revert h; decide)

structure AuthenticatedClientScheme where
  username : String
  authScheme : AuthScheme
  deriving DecidableEq

structure IdpParams where
  jwtIssuerUri : String
  jwksUri : String
  jwtAudience : Option String
  deriving DecidableEq

structure JwtParams where
  idpParams : List IdpParams
  smallestRefreshIntervalSeconds : Option Int
  deriving DecidableEq

structure UsernamePasswordParams where
  allowExpiredPasswords : Bool
  deriving DecidableEq

structure TotpRealmParams where
  algorithm : String := "SHA1"
  step : Nat := 30
  deriving DecidableEq

structure SamlParams where
  idpEntityId : String := ""
  idpSsoUrl : String := ""
  idpSigningCertificates : List String := []
  idpNameidFormat : Option String := none
  metadataXml : Option String := none
  spEntityId : String
  spAcsUrl : String
  subjectAttribute : Option String := none
  normalizeSubjectCase : Bool := false
  roleAttribute : Option String := none
  attributeClaimMap : List (String × String) := []
  allowedReturnOrigins : List String := []
  defaultReturnUrl : String
  deriving DecidableEq

structure RealmAuthParams where
  jwtParams : Option JwtParams := none
  usernamePasswordParams : Option UsernamePasswordParams := none
  totpParams : Option TotpRealmParams := none
  samlParams : Option SamlParams := none
  deriving DecidableEq

structure Realm where
  id : String
  authParams : RealmAuthParams
  sessionMaxAgeSeconds : Int
  sessionMaxStaleAgeSeconds : Int
  certificateMaxAgeSeconds : Int := 365 * 24 * 3600
  deriving DecidableEq

inductive PasswordInput where
  | plaintext : String → PasswordInput
  | hashed : String → PasswordInput
  deriving DecidableEq

/-- `passwordHash` is never read from a request body: it is server-owned. -/
structure UserPass where
  realm : String
  username : String
  passwordHash : String := ""
  passwordInput : Option PasswordInput := none
  changePassword : Bool
  roles : List String := []
  extraClaims : Option ExtraClaims := none
  deriving DecidableEq

structure Admin where
  id : String
  realms : List String
  userpass : Option String := none
  jwt : Option String := none
  fido2 : Option String := none
  digitalCredentials : Option (List (String × String)) := none
  clientCertificate : Option String := none
  totpEnabled : Option Bool := none
  totpSecret : Option String := none
  totpAuthUrl : Option String := none
  deriving DecidableEq

def Admin.isSuperAdmin (a : Admin) : Bool := a.realms.contains adminRealm

/-- The static check: direct membership, or membership of the admin realm. -/
def Admin.canAdministerRealm (a : Admin) (realm : String) : Bool :=
  a.realms.contains adminRealm || a.realms.contains realm

structure SessionData where
  sessionId : String
  realmId : String
  username : String
  authScheme : String
  cookieString : String
  maxStaleAgeSeconds : Int
  maxAgeSeconds : Int
  createdAt : Int
  deriving DecidableEq

structure RegisteredClaims where
  iss : Option String := none
  sub : Option String := none
  aud : Option (List String) := none
  exp : Option Int := none
  nbf : Option Int := none
  iat : Option Int := none
  jti : Option String := none
  deriving DecidableEq

structure AuthorizationClaims where
  roles : Option (List String) := none
  deriving DecidableEq

structure AuthPrivateClaims where
  authScheme : Option AuthScheme := none
  realmId : Option String := none
  deriving DecidableEq

structure ClientClaims where
  registered : RegisteredClaims := {}
  authorization : AuthorizationClaims := {}
  privateClaims : AuthPrivateClaims := {}
  extra : ExtraClaims := []
  deriving DecidableEq

structure CertificateClaims where
  realmId : String
  sub : Option String
  authScheme : AuthScheme
  verificationKey : String
  iat : Int
  exp : Int
  extra : ExtraClaims
  deriving DecidableEq

structure CertifyRequest where
  verificationKey : String
  claims : List String := []
  excludeSub : Bool := false
  deriving DecidableEq

structure LoginRequest where
  totpCode : Option String := none
  deriving DecidableEq

structure TotpGenerateRequest where
  username : String
  issuer : Option String := none
  deriving DecidableEq

structure TotpVerifyRequest where
  username : String
  token : String
  secret : String
  issuer : Option String := none
  deriving DecidableEq

structure UpsertSessionRequest where
  sessionId : String
  realm : Realm
  authenticatedClient : AuthenticatedClientScheme
  sessionValue : String
  deriving DecidableEq

inductive SessionsAction where
  | logoutOtherSessions | logoutAllSessions
  deriving DecidableEq

structure GetSessionRequest where
  authenticatedClients : List AuthenticatedClientScheme
  sessionsAction : Option SessionsAction
  deriving DecidableEq

inductive AuthenticationNextStep where
  | authenticated | totpRequired
  deriving DecidableEq

inductive Body where
  | empty
  | realm : Realm → Body
  | realms : List Realm → Body
  | userpass : UserPass → Body
  | userpassList : List UserPass → Body
  | admin : Admin → Body
  | admins : List Admin → Body
  | totpGenerated : (secretBase32 otpauthUrl : String) → Body
  | statusOk
  | authentication : (sessionId : Option String) → AuthenticationNextStep → Body
  | message : String → Body
  | session : Option SessionData → Body
  | sessionIds : List String → Body
  | claims : ClientClaims → Body
  | certificate : String → Body
  deriving DecidableEq

structure HttpResponse where
  status : Nat
  body : Body := .empty
  setCookie : Option String := none
  deriving DecidableEq

/-- Constraint violations of the SQL engine, in place of its own error texts. -/
inductive SqlError where
  | primaryKey | foreignKey | check
  deriving DecidableEq

inductive AuthDbError where
  | unexpected : String → AuthDbError
  | sql : SqlError → AuthDbError
  | invalidCredentials
  | conflict : String → AuthDbError
  deriving DecidableEq

inductive AuthError where
  | badRequest : String → AuthError
  | config : String → AuthError
  | conflict : String → AuthError
  | cookie : String → AuthError
  | db : AuthDbError → AuthError
  | forbidden : String → AuthError
  | generic : String → AuthError
  | jwt : String → AuthError
  | jwks : String → AuthError
  | session : String → AuthError
  | sessionNotFound
  | saml : String → AuthError
  | totp : String → AuthError
  | unexpected : String → AuthError
  deriving DecidableEq

def AuthError.ofDb : AuthDbError → AuthError
  | .conflict msg => .conflict msg
  | other => .db other

end AuthVerifier
