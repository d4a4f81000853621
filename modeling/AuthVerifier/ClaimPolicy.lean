import AuthVerifier.Externals

/-! Which extra claims may be attached to a credential, following `models/claim_policy.rs`. -/

set_option autoImplicit false

namespace AuthVerifier

/-- The member names the typed claims of a session token serialize to. -/
def clientClaimNames : List String :=
  ["iss", "sub", "aud", "exp", "nbf", "iat", "jti", "roles", "as_as", "as_rid"]

def certificateClaimNames : List String :=
  ["realm_id", "sub", "auth_scheme", "verification_key", "iat", "exp"]

def reservedClaimNames : List String := clientClaimNames ++ certificateClaimNames

def rejectReservedClaimNames : List String → Except AuthError Unit
  | [] => .ok ()
  | name :: rest =>
    if reservedClaimNames.contains name then
      .error (.badRequest
        s!"'{name}' is a reserved claim name and cannot be used as an extra claim")
    else rejectReservedClaimNames rest

def maxExtraClaimsBytes : Nat := 4096

def validateExtraClaimsSize (X : Externals) (claims : ExtraClaims) : Except AuthError Unit :=
  let size := X.extraClaimsSize claims
  if size > maxExtraClaimsBytes then
    .error (.badRequest
      s!"extra_claims is {size} bytes when serialized, exceeding the {maxExtraClaimsBytes}-byte limit")
  else .ok ()

/-- The two checks `create_userpass` and `update_userpass` make when extra claims are given. -/
def checkExtraClaims (X : Externals) : Option ExtraClaims → Except AuthError Unit
  | none => .ok ()
  | some claims => match rejectReservedClaimNames (claims.map Prod.fst) with
    | .error e => .error e
    | .ok () => validateExtraClaimsSize X claims

theorem rejectReservedClaimNames_ok {names : List String}
    (h : rejectReservedClaimNames names = .ok ()) : ∀ name ∈ names, name ∉ reservedClaimNames := by
  induction names with
  | nil => simp
  | cons name rest ih =>
    simp only [rejectReservedClaimNames] at h
    split at h
    · cases h
    · rename_i hn
      intro n hmem
      rcases List.mem_cons.mp hmem with rfl | hmem
      · simpa using hn
      · exact ih h n hmem

end AuthVerifier
