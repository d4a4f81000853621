import AuthVerifier.Lib.Outcome
import AuthVerifier.Lib.Run
import AuthVerifier.Lib.Table
import AuthVerifier.Models

/-!
App tokens: the `app_tokens` table, which the three SQL backends query alike, the middleware that
reads the `X-Vault-Token` header and the self-service endpoints behind it, following
`database/impls/sqlite.rs`, `middleware/app_token_extract.rs` and `endpoints/auth_token.rs`. A token
is known by its digest.
-/

set_option autoImplicit false

namespace AuthVerifier
open Effects Relational

structure AppToken where
  tokenHash : List UInt8
  entity : String
  policies : List String
  /-- Unix time from which the token is not accepted; zero stands for never. -/
  expiry : Int
  renewable : Bool
  leaseDurationSecs : Int
  createdAt : Int
  deriving DecidableEq

abbrev AppTokens := Table AppToken (List UInt8) AppToken.tokenHash

namespace AppTokenDb

def issueAppToken (s : AppTokens) (token : AppToken) : Except AuthDbError AppTokens :=
  if h : token.tokenHash ∈ s.keys then .error (.sql .primaryKey) else .ok (s.insert token h)

def current (now : Int) (token : AppToken) : Bool := token.expiry == 0 || token.expiry > now

def lookupAppToken (s : AppTokens) (now : Int) (tokenHash : List UInt8) : Option AppToken :=
  (s.find? tokenHash).filter (current now)

/-- The `WHERE` of the renewing `UPDATE`. -/
def extensible (now : Int) (tokenHash : List UInt8) (token : AppToken) : Bool :=
  token.tokenHash == tokenHash && token.renewable && token.expiry > 0 && token.expiry > now

def extend (now : Int) (token : AppToken) : AppToken :=
  { token with expiry := now + token.leaseDurationSecs }

def nonExpiring (tokenHash : List UInt8) (token : AppToken) : Bool :=
  token.tokenHash == tokenHash && token.renewable && token.expiry == 0

/-- The text of a failure is that of `AuthDbError::Unexpected`. -/
def renewAppToken (s : AppTokens) (now : Int) (tokenHash : List UInt8) :
    AppTokens × Except String Unit :=
  let renewed := s.updateWhere (extensible now tokenHash) (extend now) (fun _ => rfl)
  if s.rows.countP (extensible now tokenHash) = 0 then
    if renewed.rows.countP (nonExpiring tokenHash) > 0 then (renewed, .ok ())
    else (renewed, .error "unexpected DB error: token not found, expired, or not renewable")
  else (renewed, .ok ())

def revokeAppToken (s : AppTokens) (tokenHash : List UInt8) : AppTokens :=
  s.deleteWhere (fun token => token.tokenHash == tokenHash)

end AppTokenDb

def AppToken.ttl (now : Int) (token : AppToken) : Int :=
  if token.expiry = 0 then token.leaseDurationSecs else max (token.expiry - now) 0

structure AppTokenClaims where
  entity : String
  policies : List String
  renewable : Bool
  ttl : Int
  tokenHash : List UInt8
  deriving DecidableEq

def AppTokenClaims.fromDb (now : Int) (token : AppToken) : AppTokenClaims :=
  { entity := token.entity, policies := token.policies, renewable := token.renewable,
    ttl := token.ttl now, tokenHash := token.tokenHash }

structure AppTokenData where
  id : String
  entityId : String
  policies : List String
  renewable : Bool
  ttl : Int
  creationTime : Int
  deriving DecidableEq

/-- The `auth` object of the answer to a renewal. -/
structure RenewedAuth where
  clientToken : String
  renewable : Bool
  leaseDuration : Int
  policies : List String
  deriving DecidableEq

/-- The readings of the clock one request makes, in order: for the lookup and the claims of the
middleware, for the statement that writes, for the lookup of the handler and for the answer. -/
structure TokenTimes where
  lookup : Int
  claims : Int
  store : Int
  reread : Int
  answer : Int
  ordered : lookup ≤ claims ∧ claims ≤ store ∧ store ≤ reread ∧ reread ≤ answer

inductive TokenRequest where
  /-- By a login, which has drawn the token. -/
  | issue (token entity : String) (policies : List String) (leaseDurationSecs : Int)
      (renewable : Bool)
  | lookupSelf (header : Option String)
  | renewSelf (header : Option String)
  | revokeSelf (header : Option String)

structure TokenCall where
  times : TokenTimes
  request : TokenRequest

inductive TokenAnswer where
  | issued (token : String)
  | lookedUp (data : AppTokenData)
  | renewed (auth : RenewedAuth)
  | revoked
  deriving DecidableEq

/-- A refusal of the middleware, with its `errors`, or an error of the handler. -/
inductive TokenFailure where
  | refused (errors : List String)
  | failed (error : AuthError)
  deriving DecidableEq

namespace AppTokenEndpoints
open AppTokenDb
variable (digest : String → List UInt8) (s : AppTokens) (t : TokenTimes)

/-- The record `issue_app_token` stores. -/
def newToken (now : Int) (token entity : String) (policies : List String)
    (leaseDurationSecs : Int) (renewable : Bool) : AppToken :=
  { tokenHash := digest token, entity := entity, policies := policies,
    expiry := if leaseDurationSecs > 0 then now + leaseDurationSecs else 0,
    renewable := renewable, leaseDurationSecs := leaseDurationSecs, createdAt := now }

def issueAppToken (token entity : String) (policies : List String) (leaseDurationSecs : Int)
    (renewable : Bool) : Outcome AppTokens TokenFailure TokenAnswer :=
  match AppTokenDb.issueAppToken s
      (newToken digest t.store token entity policies leaseDurationSecs renewable) with
  | .error e => .error s (.failed (AuthError.ofDb e))
  | .ok s => .ok s (.issued token)

/-- The `AppTokenExtract` middleware in front of a handler. -/
def appTokenExtract (header : Option String)
    (handler : String → AppTokenClaims → Outcome AppTokens TokenFailure TokenAnswer) :
    Outcome AppTokens TokenFailure TokenAnswer :=
  match header with
  | none => .error s (.refused ["Forbidden: missing X-Vault-Token header"])
  | some raw => match lookupAppToken s t.lookup (digest raw) with
    | none => .error s (.refused ["permission denied"])
    | some token => handler raw (.fromDb t.claims token)

def lookupSelf (raw : String) (claims : AppTokenClaims) :
    Outcome AppTokens TokenFailure TokenAnswer :=
  match lookupAppToken s t.reread claims.tokenHash with
  | none => .error s (.failed (.session "token not found"))
  | some token => .ok s (.lookedUp
      { id := raw, entityId := token.entity, policies := token.policies,
        renewable := token.renewable, ttl := token.ttl t.answer,
        creationTime := token.createdAt })

def renewSelf (raw : String) (claims : AppTokenClaims) :
    Outcome AppTokens TokenFailure TokenAnswer :=
  match renewAppToken s t.store claims.tokenHash with
  | (s, .error e) => .error s (.failed (.forbidden e))
  | (s, .ok ()) => match lookupAppToken s t.reread claims.tokenHash with
    | none => .error s (.failed (.generic "token vanished after renew"))
    | some token => .ok s (.renewed
        { clientToken := raw, renewable := token.renewable, leaseDuration := token.ttl t.answer,
          policies := token.policies })

def revokeSelf (claims : AppTokenClaims) : Outcome AppTokens TokenFailure TokenAnswer :=
  .ok (revokeAppToken s claims.tokenHash) .revoked

def handle (c : TokenCall) : Outcome AppTokens TokenFailure TokenAnswer :=
  match c.request with
  | .issue token entity policies leaseDurationSecs renewable =>
    issueAppToken digest s c.times token entity policies leaseDurationSecs renewable
  | .lookupSelf header => appTokenExtract digest s c.times header (lookupSelf s c.times)
  | .renewSelf header => appTokenExtract digest s c.times header (renewSelf s c.times)
  | .revokeSelf header => appTokenExtract digest s c.times header (fun _ => revokeSelf s)

def step (c : TokenCall) : AppTokens := (handle digest s c).state

end AppTokenEndpoints
end AuthVerifier
