import AuthVerifier.AppTokens
import AuthVerifier.Lib.Text
import AuthVerifier.Tokens

/-!
Login with a Kubernetes service-account token, following `endpoints/kubernetes.rs`: the role is
looked up, its key set fetched, the token checked against both, and an app token issued to the
service account it names.
-/

set_option autoImplicit false

namespace AuthVerifier
open Effects Relational

inductive Algorithm where
  | hs256 | hs384 | hs512 | es256 | es384 | rs256 | rs384 | rs512 | ps256 | ps384 | ps512 | edDsa
  deriving DecidableEq

def Algorithm.name : Algorithm → String
  | .hs256 => "HS256"
  | .hs384 => "HS384"
  | .hs512 => "HS512"
  | .es256 => "ES256"
  | .es384 => "ES384"
  | .rs256 => "RS256"
  | .rs384 => "RS384"
  | .rs512 => "RS512"
  | .ps256 => "PS256"
  | .ps384 => "PS384"
  | .ps512 => "PS512"
  | .edDsa => "EdDSA"

structure JwtHeader where
  alg : Algorithm
  kid : Option String
  deriving DecidableEq

/-- A role, with its bound lists as the JSON texts they are stored as. -/
structure K8sRole where
  name : String
  jwksUrl : String
  boundSaNames : String
  boundSaNamespaces : String
  tokenTtlSecs : Int
  /-- `None` disables issuer validation. -/
  expectedIssuer : Option String
  /-- The empty list disables audience validation. -/
  boundAudiences : String
  deriving DecidableEq

abbrev K8sRoles := Table K8sRole String K8sRole.name

structure K8sLoginRequest where
  role : String
  jwt : String
  deriving DecidableEq

structure K8sLoginResponse where
  clientToken : String
  renewable : Bool
  leaseDuration : Int
  policies : List String
  metadata : List (String × String)
  deriving DecidableEq

/-- What the login takes from `jsonwebtoken`, `serde_json` and `sha2`: the header of a token,
whether a key verifies its signature, its payload as far as the login reads it, a stored list of
texts, and the digest of an app token. -/
structure K8sCrates where
  decodeHeader : String → Except String JwtHeader
  verifies : Jwk → Algorithm → (token : String) → Bool
  payload : (token : String) → Except String RegisteredClaims
  parseStrings : String → Option (List String)
  digest : String → List UInt8

/-- What one login meets: the clock, the token drawn for it and the endpoint of the keys. -/
structure K8sMoment where
  now : Int
  drawn : String
  fetchJwks : String → Option JwkSet

namespace Kubernetes
variable (K : K8sCrates)

def k8sLoginGenericErr : String := "invalid Kubernetes login credentials"

/-- The namespace and the name of the service account; the name is all that is left. -/
def parseK8sSub (sub : String) : Except String (String × String) :=
  match Text.splitN ':' 4 sub.toList with
  | [system, serviceaccount, ns, name] =>
    if system = "system".toList ∧ serviceaccount = "serviceaccount".toList then
      .ok (String.ofList ns, String.ofList name)
    else .error s!"unexpected sub format: '{sub}'"
  | _ => .error s!"unexpected sub format: '{sub}'"

def allowedK8sAlgorithms : List Algorithm := [.rs256, .rs384, .rs512, .es256, .es384]

def buildValidation (expectedIssuer : Option String) (boundAudiences : List String) : Validation :=
  { requiredSpecClaims := [.exp]
    validateAud := !boundAudiences.isEmpty
    aud := if boundAudiences.isEmpty then none else some boundAudiences
    iss := expectedIssuer.map (fun iss => [iss]) }

/-- `validate_nbf`, with the leeway of the other time checks. -/
def immature (leeway now : Int) (c : RegisteredClaims) : Bool :=
  match c.nbf with
  | some nbf => nbf > now + leeway
  | none => false

/-- `jsonwebtoken::decode` under one key. The error is dropped by the caller. -/
def decode (now : Int) (token : String) (alg : Algorithm) (validation : Validation) (key : Jwk) :
    Except String RegisteredClaims :=
  if K.verifies key alg token = false then .error "InvalidSignature"
  else match K.payload token with
    | .error e => .error e
    | .ok claims => match validation.check now claims with
      | .error e => .error e
      | .ok () =>
        if immature validation.leeway now claims then .error "ImmatureSignature" else .ok claims

/-- The keys with the `kid` of the header, or all keys if none has it. -/
def candidates (headerKid : Option String) (keys : JwkSet) : JwkSet :=
  let matching := keys.filter fun key => match headerKid with
    | some kid => key.keyId = some kid
    | none => true
  if matching.isEmpty then keys else matching

/-- The first candidate that the token decodes under; errors are swallowed. -/
def firstDecoded (now : Int) (token : String) (alg : Algorithm) (validation : Validation) :
    JwkSet → Except String RegisteredClaims
  | [] => .error "JWT validation failed: no key in JWKS could verify the signature"
  | key :: rest => match decode K now token alg validation key with
    | .ok claims => .ok claims
    | .error _ => firstDecoded now token alg validation rest

def validateK8sJwt (now : Int) (token : String) (keys : JwkSet) (expectedIssuer : Option String)
    (boundAudiences : List String) : Except String RegisteredClaims :=
  match K.decodeHeader token with
  | .error e => .error s!"invalid JWT header: {e}"
  | .ok header =>
    if header.alg ∉ allowedK8sAlgorithms then
      .error (s!"unsupported JWT algorithm '{header.alg.name}': only asymmetric algorithms "
        ++ "(RS256/RS384/RS512/ES256/ES384) are accepted")
    else firstDecoded K now token header.alg (buildValidation expectedIssuer boundAudiences)
      (candidates header.kid keys)

def allows (bound : List String) (value : String) : Bool := bound.contains "*" || bound.contains value

def rejected : AuthError := .forbidden k8sLoginGenericErr

/-- The service account that a token is accepted for under a role, once its keys are there. -/
def authenticate (now : Int) (role : K8sRole) (keys : JwkSet) (token : String) :
    Except AuthError (String × String) :=
  match K.parseStrings role.boundAudiences with
  | none => .error (.generic "role has corrupt bound_audiences data")
  | some boundAudiences =>
    match validateK8sJwt K now token keys role.expectedIssuer boundAudiences with
    | .error _ => .error rejected
    | .ok claims => match parseK8sSub (claims.sub.getD "") with
      | .error _ => .error rejected
      | .ok (ns, name) => match K.parseStrings role.boundSaNames with
        | none => .error (.generic "role has corrupt bound_sa_names data")
        | some boundNames =>
          if allows boundNames name = false then .error rejected
          else match K.parseStrings role.boundSaNamespaces with
            | none => .error (.generic "role has corrupt bound_sa_namespaces data")
            | some boundNamespaces =>
              if allows boundNamespaces ns = false then .error rejected else .ok (ns, name)

def k8sLogin (m : K8sMoment) (roles : K8sRoles) (tokens : AppTokens)
    (body : Except String K8sLoginRequest) : Outcome AppTokens AuthError K8sLoginResponse :=
  match body with
  | .error e => .error tokens (.badRequest s!"invalid Kubernetes login body: {e}")
  | .ok payload => match roles.find? payload.role with
    | none => .error tokens rejected
    | some role => match m.fetchJwks role.jwksUrl with
      | none => .error tokens (.generic "JWKS fetch failed; check server logs")
      | some keys => match authenticate K m.now role keys payload.jwt with
        | .error e => .error tokens e
        | .ok (ns, name) =>
          let token := AppTokenEndpoints.newToken K.digest m.now m.drawn (ns ++ "/" ++ name) []
            role.tokenTtlSecs true
          match AppTokenDb.issueAppToken tokens token with
          | .error e => .error tokens (AuthError.ofDb e)
          | .ok tokens => .ok tokens
              { clientToken := m.drawn, renewable := true, leaseDuration := role.tokenTtlSecs
                policies := []
                metadata := [("role", payload.role), ("service_account_name", name),
                             ("service_account_namespace", ns)] }

end Kubernetes
end AuthVerifier
