import AuthVerifier.Externals

/-!
Session tokens and cookies, following `session/jwt.rs` and `session/cookies.rs`, with the claim
checks that `jsonwebtoken` makes after the signature.
-/

set_option autoImplicit false

namespace AuthVerifier

inductive SpecClaim where
  | exp | nbf | sub | iss | aud
  deriving DecidableEq

def SpecClaim.present (c : RegisteredClaims) : SpecClaim → Bool
  | .exp => c.exp.isSome
  | .nbf => c.nbf.isSome
  | .sub => c.sub.isSome
  | .iss => c.iss.isSome
  | .aud => c.aud.isSome

/-- `jsonwebtoken::Validation` as `Validation::new` sets it up. -/
structure Validation where
  requiredSpecClaims : List SpecClaim := [.exp]
  leeway : Int := 60
  validateExp : Bool := true
  validateAud : Bool := true
  aud : Option (List String) := none
  iss : Option (List String) := none
  deriving DecidableEq

def Validation.expired (v : Validation) (now : Int) (c : RegisteredClaims) : Bool :=
  match c.exp with
  | none => false
  | some exp => v.validateExp && exp < now - v.leeway

def Validation.issuerMismatch (v : Validation) (c : RegisteredClaims) : Bool :=
  match c.iss, v.iss with
  | some iss, some expected => !expected.contains iss
  | _, _ => false

def Validation.audienceMismatch (v : Validation) (c : RegisteredClaims) : Bool :=
  if v.validateAud = false then false
  else match c.aud, v.aud with
  | some aud, none => !aud.isEmpty
  | some aud, some expected => !aud.any (fun a => expected.contains a)
  | none, _ => false

def Validation.check (v : Validation) (now : Int) (c : RegisteredClaims) : Except String Unit :=
  if v.requiredSpecClaims.all (fun s => s.present c) = false then .error "MissingRequiredClaim"
  else if v.expired now c then .error "ExpiredSignature"
  else if v.issuerMismatch c then .error "InvalidIssuer"
  else if v.audienceMismatch c then .error "InvalidAudience"
  else .ok ()

def issuedClaims (now : Int) (subject : String) (scheme : AuthScheme) (realmId : String)
    (roles : List String) (extra : ExtraClaims) (expirationSeconds : Int) : ClientClaims :=
  { registered := { sub := some subject, exp := some (now + expirationSeconds), iat := some now }
    authorization := { roles := if roles.isEmpty then none else some roles }
    privateClaims := { authScheme := some scheme, realmId := some realmId }
    extra := extra }

section
variable (X : Externals)

def issueToken (m : Moment) (subject : String) (scheme : AuthScheme) (realmId : String)
    (roles : List String) (extra : ExtraClaims) (expirationSeconds : Int) :
    Except AuthError String :=
  match X.signSession m.nonce
      (issuedClaims m.now subject scheme realmId roles extra expirationSeconds) with
  | .ok token => .ok token
  | .error e => .error (.unexpected s!"Failed to issue token: {e}")

def sessionValidation : Validation := { leeway := 1 }

def validateToken (now : Int) (token : String) : Except AuthError ClientClaims :=
  match X.verifySession token with
  | .error e => .error (.unexpected s!"Failed to validate token: {e}")
  | .ok claims => match sessionValidation.check now claims.registered with
    | .error e => .error (.unexpected s!"Failed to validate token: {e}")
    | .ok () => .ok claims

def sessionIdFromCookieValue (value : String) : String := X.sha256Hex value

def buildCookie (value : String) (maxAgeSeconds : Int) (isHttps : Bool) : String :=
  X.cookieToString value maxAgeSeconds isHttps

end

theorem Validation.check_ok_iff {v : Validation} {now : Int} {c : RegisteredClaims} :
    v.check now c = .ok () ↔ (∀ s ∈ v.requiredSpecClaims, s.present c = true) ∧
      v.expired now c = false ∧ v.issuerMismatch c = false ∧ v.audienceMismatch c = false := by
  unfold Validation.check
  rw [← List.all_eq_true]
  cases v.requiredSpecClaims.all (fun s => s.present c) with
  | false => simp
  | true =>
    cases v.expired now c <;> cases v.issuerMismatch c <;> cases v.audienceMismatch c <;> simp

/-- A token under the session key says what it was signed for, as far as identity goes. -/
structure TokensAuthentic (X : Externals) : Prop where
  identity : ∀ {nonce token : String} {c c' : ClientClaims},
    X.signSession nonce c = .ok token → X.verifySession token = .ok c' →
      c'.registered.sub = c.registered.sub ∧
        c'.privateClaims.authScheme = c.privateClaims.authScheme ∧
        c'.privateClaims.realmId = c.privateClaims.realmId

structure CookiesRoundTrip (X : Externals) : Prop where
  parse : ∀ {nonce token : String} {c : ClientClaims} (age : Int) (https : Bool),
    X.signSession nonce c = .ok token →
      X.cookieFromStr (X.cookieToString token age https) = .ok token

theorem validateToken_ok {X : Externals} {now : Int} {token : String} {c : ClientClaims}
    (h : validateToken X now token = .ok c) : X.verifySession token = .ok c := by
  unfold validateToken at h
  cases hv : X.verifySession token with
  | error e => simp [hv] at h
  | ok claims =>
    simp only [hv] at h
    split at h
    · cases h
    · cases h
      rfl

theorem issueToken_ok {X : Externals} {m : Moment} {subject realmId token : String}
    {scheme : AuthScheme} {roles : List String} {extra : ExtraClaims} {age : Int}
    (h : issueToken X m subject scheme realmId roles extra age = .ok token) :
    X.signSession m.nonce (issuedClaims m.now subject scheme realmId roles extra age) =
      .ok token := by
  unfold issueToken at h
  split at h
  · rename_i hs
    cases h
    exact hs
  · cases h

end AuthVerifier
