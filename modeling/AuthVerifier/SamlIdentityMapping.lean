import AuthVerifier.ClaimMembers
import AuthVerifier.SamlParams
import AuthVerifier.SamlValidation

/-! The session identity of a verified assertion, following `saml/identity_mapping.rs`. -/

set_option autoImplicit false

namespace AuthVerifier.Saml

/-- Non-empty values of every attribute with the given `Name`. -/
def attributeValues {τ : Type} (assertion : SamlAssertion τ) (name : String) : List String :=
  (((assertion.attributeStatements.getD []).flatten.filter (fun a => a.name == some name)).flatMap
    (fun a => a.values.filterMap id)).filter (fun value => !value.isEmpty)

def nameIdSubject {τ : Type} (assertion : SamlAssertion τ) : Except AuthError String :=
  match assertion.nameId.filter (fun nameId => !nameId.value.isEmpty) with
  | none => .error (.saml "assertion has no NameID")
  | some nameId =>
    if nameId.format = some nameidTransient then
      .error (.saml "the NameID is transient and no subject attribute is configured")
    else .ok nameId.value

def subjectOf {τ : Type} (assertion : SamlAssertion τ) (params : SamlParams) :
    Except AuthError String :=
  match params.subjectAttribute with
  | none => nameIdSubject assertion
  | some name => match attributeValues assertion name with
    | [value] => .ok value
    | [] => .error (.saml s!"subject attribute '{name}' is missing")
    | _ => .error (.saml s!"subject attribute '{name}' has several values")

def rolesOf {τ : Type} (assertion : SamlAssertion τ) (params : SamlParams) : List String :=
  match params.roleAttribute with
  | none => []
  | some name => (attributeValues assertion name).foldl
      (fun roles role => if role ∈ roles then roles else roles ++ [role]) []

def insertClaim (extra : ExtraClaims) (claim : String) (value : JsonText) : ExtraClaims :=
  extra.filter (fun e => e.1 != claim) ++ [(claim, value)]

def claimValue : List String → Option Json
  | [] => none
  | [single] => some (.string single)
  | several => some (.strings several)

def extraClaimsOf {τ : Type} (J : JsonTexts) (assertion : SamlAssertion τ) (params : SamlParams) :
    ExtraClaims :=
  params.attributeClaimMap.foldl
    (fun extra entry => match claimValue (attributeValues assertion entry.1) with
      | none => extra
      | some value => insertClaim extra entry.2 (J.write value)) []

section
variable {τ : Type} (X : Externals) (E : SamlCrates) (J : JsonTexts)

def mapIdentity (assertion : SamlAssertion τ) (params : SamlParams) :
    Except AuthError SamlIdentity :=
  match subjectOf assertion params with
  | .error e => .error e
  | .ok subject =>
    let extra := extraClaimsOf J assertion params
    match validateExtraClaimsSize X extra with
    | .error _ =>
      .error (.saml "the mapped attributes exceed the extra-claims size limit")
    | .ok () => .ok
        { subject := if params.normalizeSubjectCase then E.toLowercase subject else subject
          roles := rolesOf assertion params
          extraClaims := extra }

end

theorem nodup_insertClaim {extra : ExtraClaims} {claim : String} {value : JsonText}
    (h : (extra.map Prod.fst).Nodup) : ((insertClaim extra claim value).map Prod.fst).Nodup := by
  simp only [insertClaim, List.map_append, List.nodup_append]
  refine ⟨(List.filter_sublist.map _).nodup h, by simp, ?_⟩
  intro name hname other hother
  obtain ⟨e, he, rfl⟩ := List.mem_map.mp hname
  have hne : e.1 ≠ claim := by simpa using (List.mem_filter.mp he).2
  simpa [List.mem_singleton.mp hother] using hne

theorem mem_insertClaim {extra : ExtraClaims} {claim name : String} {value : JsonText}
    (h : name ∈ (insertClaim extra claim value).map Prod.fst) :
    name ∈ extra.map Prod.fst ∨ name = claim := by
  simp only [insertClaim, List.map_append, List.map_cons, List.map_nil, List.mem_append,
    List.mem_singleton] at h
  refine h.imp (fun h => ?_) id
  obtain ⟨e, he, rfl⟩ := List.mem_map.mp h
  exact List.mem_map_of_mem (List.mem_filter.mp he).1

def NamedIn (allowed : List String) (extra : ExtraClaims) : Prop :=
  (extra.map Prod.fst).Nodup ∧ ∀ name ∈ extra.map Prod.fst, name ∈ allowed

theorem extraClaimsOf_namedIn {τ : Type} (J : JsonTexts) (assertion : SamlAssertion τ)
    (params : SamlParams) :
    NamedIn (params.attributeClaimMap.map Prod.snd) (extraClaimsOf J assertion params) := by
  unfold extraClaimsOf
  refine List.foldlRecOn (motive := NamedIn (params.attributeClaimMap.map Prod.snd)) _ _
    ⟨List.nodup_nil, by simp⟩ ?_
  rintro extra ⟨hnodup, hallowed⟩ entry hentry
  split
  · exact ⟨hnodup, hallowed⟩
  · refine ⟨nodup_insertClaim hnodup, fun name hname => ?_⟩
    rcases mem_insertClaim hname with hname | rfl
    · exact hallowed name hname
    · exact List.mem_map_of_mem hentry

theorem mapIdentity_checked {τ : Type} {X : Externals} {E : SamlCrates} {J : JsonTexts}
    {assertion : SamlAssertion τ} {params : SamlParams} {identity : SamlIdentity}
    (hmap : MappedClaims params) (h : mapIdentity X E J assertion params = .ok identity) :
    Checked identity.extraClaims := by
  unfold mapIdentity at h
  split at h
  · cases h
  · dsimp only at h
    split at h
    · cases h
    · cases h
      obtain ⟨hnodup, hallowed⟩ := extraClaimsOf_namedIn J assertion params
      exact ⟨hnodup, fun name hname => hmap.disjoint name (hallowed name hname)⟩

end AuthVerifier.Saml
