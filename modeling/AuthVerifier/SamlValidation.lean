import AuthVerifier.Lib.Jobs
import AuthVerifier.Lib.Run
import AuthVerifier.SamlStore

/-!
The validation of a SAML response, following `saml/response_validation.rs`, and its system: any number
of validations and of `delete_expired` runs side by side. Each of them advances by one reading of the
clock or one statement of the store.
-/

set_option autoImplicit false

namespace AuthVerifier
open Concurrent

inductive SamlBackend where
  | sql (b : SqlBackend)
  | redis
  deriving DecidableEq

namespace SamlBackend
variable (τ : Type)

def State : SamlBackend → Type
  | .sql b => SqlSamlState b
  | .redis => RedisSamlState τ

def empty : (k : SamlBackend) → k.State τ
  | .sql b => ({} : SqlSamlState b)
  | .redis => ({} : RedisSamlState τ)

variable [Ring τ] [LinearOrder τ]

def store (sha256 : String → List UInt8) : (k : SamlBackend) → SamlRequestStore (k.State τ) τ
  | .sql b => sqlSamlRequestStore τ b sha256
  | .redis => redisSamlRequestStore τ

end SamlBackend

structure SamlNameId where
  format : Option String
  value : String
  deriving DecidableEq

structure SamlAttribute where
  name : Option String
  values : List (Option String)
  deriving DecidableEq

structure SamlAssertion (τ : Type) where
  id : String
  issueInstant : τ
  /-- The audiences of every restriction, if the conditions hold any. -/
  audienceRestrictions : Option (List (List String))
  /-- How many statements there are, if any are given. -/
  authnStatements : Option Nat
  /-- The `NameID` of the subject. -/
  nameId : Option SamlNameId := none
  /-- The attributes of each statement. -/
  attributeStatements : Option (List (List SamlAttribute)) := none
  deriving DecidableEq

/-- `ServiceProvider::parse_xml_response` of samael, which checks the signature and the rest at the
time it is called. -/
abbrev Samael (τ : Type) :=
  SamlParams → (now : τ) → (xml requestId : String) → Except String (SamlAssertion τ)

/-- The arguments of `validate_saml_response`. -/
structure ResponseValidation where
  xml : String
  params : SamlParams
  realmId : String
  requestId : String
  deriving DecidableEq

inductive ValidatePhase (τ : Type) where
  | parse
  | checkIssueDelay (assertion : SamlAssertion τ)
  | checkRetention (assertion : SamlAssertion τ)
  | record (assertion : SamlAssertion τ) (ttl : Int)
  deriving DecidableEq

inductive Progress (φ α : Type) where
  | more (phase : φ)
  | done (answer : Except AuthError α)

namespace ResponseValidation

def requireAudience {τ : Type} (assertion : SamlAssertion τ) (spEntityId : String) :
    Except AuthError Unit :=
  match assertion.audienceRestrictions with
  | none => .error (.saml "assertion has no AudienceRestriction")
  | some restrictions =>
    if restrictions.isEmpty then .error (.saml "assertion has no AudienceRestriction")
    else if restrictions.all (fun audience => audience.any (fun a => a == spEntityId)) then .ok ()
    else .error (.saml "assertion is not addressed to this service provider")

section
variable {σ τ : Type} [Ring τ] [LinearOrder τ] [FloorRing τ]

/-- `MAX_ISSUE_DELAY_SECONDS` after it was issued, an assertion is too old. -/
def acceptedUntil (assertion : SamlAssertion τ) : τ := assertion.issueInstant + 300

def expiresAt (assertion : SamlAssertion τ) : Int := ⌊acceptedUntil assertion⌋ + 1

/-- The same second, for all the assertions that were issued at that instant. -/
def forgottenFrom (issueInstant : τ) : Int := ⌊issueInstant + 300⌋ + 1

def parse (samael : Samael τ) (now : τ) (v : ResponseValidation) :
    Except AuthError (SamlAssertion τ) :=
  if v.params.idpSigningCertificates.isEmpty then
    .error (.saml "the realm has no IdP signing certificate")
  else match samael v.params now v.xml v.requestId with
    | .error e => .error (.saml s!"rejected SAML response: {e}")
    | .ok assertion => match requireAudience assertion v.params.spEntityId with
      | .error e => .error e
      | .ok () =>
        if assertion.authnStatements.all (fun n => n == 0) then
          .error (.saml "assertion has no AuthnStatement")
        else .ok assertion

/-- The next reading of the clock or statement of `validate_saml_response`. -/
def step (S : SamlRequestStore σ τ) (samael : Samael τ) (s : σ) (now : τ)
    (v : ResponseValidation) : ValidatePhase τ → σ × Progress (ValidatePhase τ) (SamlAssertion τ)
  | .parse => match parse samael now v with
    | .error e => (s, .done (.error e))
    | .ok assertion => (s, .more (.checkIssueDelay assertion))
  | .checkIssueDelay assertion =>
    if acceptedUntil assertion ≤ now then
      (s, .done (.error (.saml "assertion was issued too long ago")))
    else (s, .more (.checkRetention assertion))
  | .checkRetention assertion =>
    match ensureUnexpired ⌊now⌋ (expiresAt assertion) "SAML assertion id" with
    | .error e => (s, .done (.error e))
    | .ok ttl => (s, .more (.record assertion ttl))
  | .record assertion ttl =>
    let inserted := S.insertSeen s now ttl v.realmId assertion.id (expiresAt assertion)
    (inserted.1, .done (if inserted.2 then .ok assertion
      else .error (.saml "assertion has already been used")))

end
end ResponseValidation

inductive PurgePhase where
  | begin
  | pendingRequests (now : Int)
  | seenAssertions (now : Int)
  deriving DecidableEq

/-- The next reading or statement; nothing is left after the second statement. -/
def purgeStep {σ τ : Type} [Ring τ] [LinearOrder τ] [FloorRing τ] (S : SamlRequestStore σ τ)
    (s : σ) (now : τ) : PurgePhase → σ × Option PurgePhase
  | .begin => (s, some (.pendingRequests ⌊now⌋))
  | .pendingRequests reading => (S.purgePending s reading, some (.seenAssertions reading))
  | .seenAssertions reading => (S.purgeSeen s reading, none)

namespace Replay

inductive Phase (τ : Type) where
  | validating (v : ResponseValidation) (phase : ValidatePhase τ)
  | purging (phase : PurgePhase)
  deriving DecidableEq

inductive Event (τ : Type) where
  | accepted (realmId assertionId : String) (issueInstant : τ)
  /-- Refused because the assertion id is in the replay cache. -/
  | replayed (realmId assertionId : String)
  deriving DecidableEq

structure World (σ τ : Type) where
  clock : τ
  store : σ
  calls : Jobs (Phase τ) := .empty
  /-- The newest event first. -/
  log : List (Event τ) := []

inductive Input (τ : Type) where
  | tick (now : τ)
  | validate (pid : Nat) (v : ResponseValidation)
  | deleteExpired (pid : Nat)
  | advance (pid : Nat)
  deriving DecidableEq

section
variable {σ τ : Type} [Ring τ] [LinearOrder τ] [FloorRing τ] (S : SamlRequestStore σ τ)
  (samael : Samael τ) (w : World σ τ)

/-- What the outside learns from a step of a validation: an acceptance, or a refusal by the cache. -/
def events (v : ResponseValidation) : ValidatePhase τ →
    Progress (ValidatePhase τ) (SamlAssertion τ) → List (Event τ)
  | .record _ _, .done (.ok assertion) =>
    [.accepted v.realmId assertion.id assertion.issueInstant]
  | .record assertion _, .done (.error _) => [.replayed v.realmId assertion.id]
  | _, _ => []

def advanceValidation (pid : Nat) (v : ResponseValidation) (phase : ValidatePhase τ) : World σ τ :=
  let next := v.step S samael w.store w.clock phase
  { w with
    store := next.1
    calls := match next.2 with
      | .more phase => w.calls.setPhase pid (.validating v phase)
      | .done _ => w.calls.finish pid
    log := events v phase next.2 ++ w.log }

def advancePurge (pid : Nat) (phase : PurgePhase) : World σ τ :=
  let next := purgeStep S w.store w.clock phase
  { w with
    store := next.1
    calls := match next.2 with
      | some phase => w.calls.setPhase pid (.purging phase)
      | none => w.calls.finish pid }

def step : Input τ → World σ τ
  | .tick now => { w with clock := max w.clock now }
  | .validate pid v => { w with calls := w.calls.start pid (.validating v .parse) }
  | .deleteExpired pid => { w with calls := w.calls.start pid (.purging .begin) }
  | .advance pid => match w.calls.find? pid with
    | none => w
    | some call => match call.phase with
      | .validating v phase => advanceValidation S samael w pid v phase
      | .purging phase => advancePurge S w pid phase

end
end Replay
end AuthVerifier
