import AuthVerifier.Login
import AuthVerifier.SamlValidation

/-!
The SAML endpoints, following `saml/endpoints.rs`: any number of `saml_login` calls, of posts to the
assertion consumer and of `delete_expired` runs side by side. Each of them advances by one reading of
the clock or one statement of a store. The identity taken from an assertion, the return URL and the
URL of the identity provider are made by functions of their own.
-/

set_option autoImplicit false

namespace AuthVerifier
open Concurrent Effects

structure SamlParts (τ : Type) where
  samael : Samael τ
  mapIdentity : SamlAssertion τ → SamlParams → Except AuthError SamlIdentity
  resolveReturnUrl : SamlParams → (returnTo : Option String) → Except AuthError String
  signedAuthnRequestUrl : SamlParams → (requestId : String) → Except AuthError String

/-- The reading of `take_pending_request` that is compared with the expiry: on Redis the one after
`GETDEL`. -/
def SamlBackend.checkedAt : SamlBackend → (before after : Int) → Int
  | .sql _, before, _ => before
  | .redis, _, after => after

namespace Sso

structure AcsForm where
  samlResponse : String
  relayState : String
  deriving DecidableEq

/-- A post that comes from the browser that started the login, to a realm that uses SAML. -/
structure Post where
  cookie : Option String
  form : AcsForm
  realm : Realm
  params : SamlParams
  deriving DecidableEq

inductive AcsPhase (τ : Type) where
  | reading
  | taking (now : Int)
  | taken (now : Int) (request : Option PendingSamlRequest)
  | validating (pending : PendingSamlRequest) (checked : Int) (v : ResponseValidation)
      (phase : ValidatePhase τ)
  | issuing (pending : PendingSamlRequest) (checked : Int) (identity : SamlIdentity)
  deriving DecidableEq

inductive Phase (τ : Type) where
  -- `saml_login`: before the clock is read, before the lifetime is checked, before the statement
  | starting (params : SamlParams) (realmId returnUrl requestId : String)
  | composed (params : SamlParams) (request : PendingSamlRequest)
  | storing (params : SamlParams) (request : PendingSamlRequest) (ttl : Int)
  | acs (post : Post) (phase : AcsPhase τ)
  | purging (phase : PurgePhase)
  deriving DecidableEq

inductive Event where
  | begun (requestId realmId returnUrl : String)
  /-- A session was created: by which post and for which request, the reading that decided on the
  expiry of the request, the time of the session and where the browser is sent. -/
  | issued (post : Post) (request : PendingSamlRequest) (checked created : Int) (redirect : String)
  deriving DecidableEq

inductive Answer where
  | redirected (pid : Nat) (location requestCookie : String)
  | signedIn (pid : Nat) (returnUrl sessionCookie : String)
  | failed (pid : Nat) (error : AuthError)
  deriving DecidableEq

structure World (σ τ : Type) where
  clock : τ
  store : σ
  sessions : Sessions := .empty
  calls : Jobs (Phase τ) := .empty
  /-- The newest event first. -/
  log : List Event := []
  answers : List Answer := []

inductive Input (τ : Type) where
  | tick (now : τ)
  | login (pid : Nat) (realmId : String) (returnTo : Option String) (requestId : String)
  | acs (pid : Nat) (cookie : Option String) (realmId : String) (form : AcsForm)
  | deleteExpired (pid : Nat)
  | advance (pid : Nat) (m : Moment)

def samlRealm (db : Database) (realmId : String) : Except AuthError (Realm × SamlParams) :=
  match db.getRealm realmId with
  | none => .error (.badRequest s!"realm '{realmId}' does not exist or does not use SAML")
  | some realm => match realm.authParams.samlParams with
    | none => .error (.badRequest s!"realm '{realmId}' does not exist or does not use SAML")
    | some params => .ok (realm, params)

def isAsciiWhitespace (c : Char) : Bool :=
  c == ' ' || c == '\t' || c == '\n' || c == '\x0C' || c == '\r'

def decode (X : Externals) (samlResponse : String) : Option String :=
  X.base64Utf8 (String.ofList (samlResponse.toList.filter (fun c => !isAsciiWhitespace c)))

def unknownRequest : AuthError := .saml "unknown or expired sign-in request"

section
variable {τ : Type} [Ring τ] [LinearOrder τ] [FloorRing τ]
variable (X : Externals) (params : ServerParams) (P : SamlParts τ) (db : Database)
  (k : SamlBackend) (sha256 : String → List UInt8) (w : World (k.State τ) τ)

def fail {σ : Type} (w : World σ τ) (pid : Nat) (e : AuthError) : World σ τ :=
  { w with calls := w.calls.finish pid, answers := .failed pid e :: w.answers }

def goOn {σ : Type} (w : World σ τ) (pid : Nat) (phase : Phase τ) : World σ τ :=
  { w with calls := w.calls.setPhase pid phase }

def samlLogin (pid : Nat) (realmId : String) (returnTo : Option String) (requestId : String) :
    World (k.State τ) τ :=
  match samlRealm db realmId with
  | .error e => fail w pid e
  | .ok (realm, samlParams) => match P.resolveReturnUrl samlParams returnTo with
    | .error e => fail w pid e
    | .ok returnUrl =>
      { w with
        calls := w.calls.start pid (.starting samlParams realm.id returnUrl requestId)
        log := .begun requestId realm.id returnUrl :: w.log }

/-- The pending request is valid for `PENDING_REQUEST_SECONDS`. -/
def newRequest (now : Int) (realmId returnUrl requestId : String) : PendingSamlRequest :=
  { requestId := requestId, realmId := realmId, returnUrl := returnUrl, createdAt := now,
    expiresAt := now + 600 }

/-- The statement of `store_pending_request`, and the redirect to the identity provider. -/
def storeRequest (pid : Nat) (samlParams : SamlParams) (request : PendingSamlRequest) (ttl : Int) :
    World (k.State τ) τ :=
  match (k.store τ sha256).insertPending w.store w.clock ttl request with
  | .error e => fail w pid e
  | .ok s => match P.signedAuthnRequestUrl samlParams request.requestId with
    | .error e => fail { w with store := s } pid e
    | .ok url =>
      { w with
        store := s
        calls := w.calls.finish pid
        answers := .redirected pid url request.requestId :: w.answers }

def samlAcs (pid : Nat) (cookie : Option String) (realmId : String) (form : AcsForm) :
    World (k.State τ) τ :=
  if cookie ≠ some form.relayState then
    fail w pid (.saml "this sign-in was not started from this browser")
  else match samlRealm db realmId with
    | .error e => fail w pid e
    | .ok (realm, samlParams) =>
      { w with calls := w.calls.start pid (.acs ⟨cookie, form, realm, samlParams⟩ .reading) }

/-- The request is there and has not expired: its response is decoded. -/
def startValidation (pid : Nat) (post : Post) (checked : Int) (pending : PendingSamlRequest) :
    World (k.State τ) τ :=
  match decode X post.form.samlResponse with
  | none => fail w pid (.saml "SAMLResponse is not base64-encoded UTF-8")
  | some xml => goOn w pid (.acs post (.validating pending checked
      { xml := xml, params := post.params, realmId := post.realm.id, requestId := pending.requestId }
      .parse))

def advanceValidation (pid : Nat) (post : Post) (pending : PendingSamlRequest) (checked : Int)
    (v : ResponseValidation) (phase : ValidatePhase τ) : World (k.State τ) τ :=
  let next := v.step (k.store τ sha256) P.samael w.store w.clock phase
  match next.2 with
  | .more phase => goOn { w with store := next.1 } pid (.acs post (.validating pending checked v phase))
  | .done (.error e) => fail { w with store := next.1 } pid e
  | .done (.ok assertion) => match P.mapIdentity assertion post.params with
    | .error e => fail { w with store := next.1 } pid e
    | .ok identity => goOn { w with store := next.1 } pid (.acs post (.issuing pending checked identity))

def momentAt (m : Moment) (clock : τ) : Moment := { m with nanos := ⌊clock * 1000000000⌋ }

def issue (pid : Nat) (m : Moment) (post : Post) (pending : PendingSamlRequest) (checked : Int)
    (identity : SamlIdentity) : World (k.State τ) τ :=
  let issued := issueSession X params (momentAt m w.clock) w.sessions post.realm
    { username := identity.subject, authScheme := .saml } identity.roles identity.extraClaims
  match issued.result with
  | .error e => fail { w with sessions := issued.state } pid e
  | .ok (_, cookie) =>
    { w with
      sessions := issued.state
      calls := w.calls.finish pid
      log := .issued post pending checked ⌊w.clock⌋ pending.returnUrl :: w.log
      answers := .signedIn pid pending.returnUrl cookie :: w.answers }

def advanceAcs (pid : Nat) (m : Moment) (post : Post) : AcsPhase τ → World (k.State τ) τ
  | .reading => goOn w pid (.acs post (.taking ⌊w.clock⌋))
  | .taking now =>
    let taken := (k.store τ sha256).takePending w.store w.clock now post.form.relayState post.realm.id
    goOn { w with store := taken.1 } pid (.acs post (.taken now taken.2))
  | .taken _ none => fail w pid unknownRequest
  | .taken now (some pending) =>
    if (k.store τ sha256).stillValid ⌊w.clock⌋ pending then
      startValidation X k w pid post (k.checkedAt now ⌊w.clock⌋) pending
    else fail w pid unknownRequest
  | .validating pending checked v phase =>
    advanceValidation P k sha256 w pid post pending checked v phase
  | .issuing pending checked identity => issue X params k w pid m post pending checked identity

def advance (pid : Nat) (m : Moment) : Phase τ → World (k.State τ) τ
  | .starting samlParams realmId returnUrl requestId =>
    goOn w pid (.composed samlParams (newRequest ⌊w.clock⌋ realmId returnUrl requestId))
  | .composed samlParams request =>
    match ensureUnexpired ⌊w.clock⌋ request.expiresAt "SAML pending request" with
    | .error e => fail w pid e
    | .ok ttl => goOn w pid (.storing samlParams request ttl)
  | .storing samlParams request ttl => storeRequest P k sha256 w pid samlParams request ttl
  | .acs post phase => advanceAcs X params P k sha256 w pid m post phase
  | .purging phase =>
    let next := purgeStep (k.store τ sha256) w.store w.clock phase
    match next.2 with
    | some phase => goOn { w with store := next.1 } pid (.purging phase)
    | none => { w with store := next.1, calls := w.calls.finish pid }

def step : Input τ → World (k.State τ) τ
  | .tick now => { w with clock := max w.clock now }
  | .login pid realmId returnTo requestId =>
    if pid ∈ w.calls.keys then w else samlLogin P db k w pid realmId returnTo requestId
  | .acs pid cookie realmId form =>
    if pid ∈ w.calls.keys then w else samlAcs db k w pid cookie realmId form
  | .deleteExpired pid => { w with calls := w.calls.start pid (.purging .begin) }
  | .advance pid m => match w.calls.find? pid with
    | none => w
    | some call => advance X params P k sha256 w pid m call.phase

end
end Sso
end AuthVerifier
