import AuthVerifier.ClaimUniqueness
import AuthVerifier.Lib.FirstOccurrences
import AuthVerifier.SamlMetadata

/-!
What `map_identity` makes of an assertion, said without the order in which it walks the claim map. A
subject attribute counts as configured where the validator counts it so.
-/

set_option autoImplicit false

namespace AuthVerifier
namespace Saml
variable {τ : Type} (X : Externals) (E : SamlCrates) (J : JsonTexts)

def StatedSubject (assertion : SamlAssertion τ) (params : SamlParams) (subject : String) : Prop :=
  if subjectAttributeSet params then
    attributeValues assertion (params.subjectAttribute.getD "") = [subject]
  else ∃ nameId, assertion.nameId = some nameId ∧ nameId.value ≠ "" ∧
    nameId.format ≠ some nameidTransient ∧ nameId.value = subject

def roleValues (assertion : SamlAssertion τ) (params : SamlParams) : List String :=
  (params.roleAttribute.map (attributeValues assertion)).getD []

/-- The extra claim of an entry of the map, if the assertion has the attribute. -/
def claimOf (assertion : SamlAssertion τ) (entry : String × String) : Option (String × JsonText) :=
  (claimValue (attributeValues assertion entry.1)).map fun value => (entry.2, J.write value)

structure IsIdentity (assertion : SamlAssertion τ) (params : SamlParams) (identity : SamlIdentity) :
    Prop where
  subject : ∃ subject, StatedSubject assertion params subject ∧
    identity.subject = if params.normalizeSubjectCase then E.toLowercase subject else subject
  roles : FirstOccurrences.Of (roleValues assertion params) identity.roles
  /-- One claim for each attribute that is present, and each under a name of its own. -/
  extraClaims : identity.extraClaims.Perm (params.attributeClaimMap.filterMap (claimOf J assertion))
  names : (identity.extraClaims.map Prod.fst).Nodup
  size : X.extraClaimsSize identity.extraClaims ≤ maxExtraClaimsBytes

def SameOutcome : Except AuthError SamlIdentity → Except AuthError SamlIdentity → Prop
  | .ok i, .ok j => i.subject = j.subject ∧ i.roles = j.roles ∧ i.extraClaims.Perm j.extraClaims
  | .error e, .error e' => e = e'
  | _, _ => False

variable (τ) in
/-- The mapping of all assertions is as specified, however the claim map is walked. -/
structure MapsAsSpecified (params : SamlParams) : Prop where
  orderFree : ∀ (assertion : SamlAssertion τ) entries, entries.Perm params.attributeClaimMap →
    SameOutcome (mapIdentity X E J assertion { params with attributeClaimMap := entries })
      (mapIdentity X E J assertion params)
  sound : ∀ (assertion : SamlAssertion τ) identity,
    mapIdentity X E J assertion params = .ok identity → IsIdentity X E J assertion params identity
  complete : ∀ (assertion : SamlAssertion τ), (∃ identity, IsIdentity X E J assertion params identity) →
    ∃ identity, mapIdentity X E J assertion params = .ok identity

/-- What is relied on of `serde_json`: the size of a map does not depend on the order of its
entries, and the empty map is small. -/
structure SizesMaps : Prop where
  perm : ∀ extra extra' : ExtraClaims, extra.Perm extra' →
    X.extraClaimsSize extra = X.extraClaimsSize extra'
  empty : X.extraClaimsSize [] ≤ maxExtraClaimsBytes

variable {X E J} {assertion : SamlAssertion τ} {params : SamlParams}

theorem mem_attributeValues {name value : String} :
    value ∈ attributeValues assertion name ↔ value ≠ "" ∧
      ∃ statement ∈ assertion.attributeStatements.getD [], ∃ attr ∈ statement,
        attr.name = some name ∧ some value ∈ attr.values := by
  simp only [attributeValues, List.mem_filter, List.mem_flatMap, List.mem_flatten,
    List.mem_filterMap, beq_iff_eq, id_eq, Bool.not_eq_true', exists_eq_right,
    String.isEmpty_eq_false_iff]
  constructor
  · rintro ⟨⟨attr, ⟨⟨statement, hs, ha⟩, hname⟩, hvalue⟩, hne⟩
    exact ⟨hne, statement, hs, attr, ha, hname, hvalue⟩
  · rintro ⟨hne, statement, hs, attr, ha, hname, hvalue⟩
    exact ⟨⟨attr, ⟨⟨statement, hs, ha⟩, hname⟩, hvalue⟩, hne⟩

theorem foldl_insertClaim_eq {entries : List (String × String)}
    (h : (entries.map Prod.snd).Nodup) :
    entries.foldl (fun extra entry => match claimValue (attributeValues assertion entry.1) with
        | none => extra
        | some value => insertClaim extra entry.2 (J.write value)) [] =
      entries.filterMap (claimOf J assertion) := by
  induction entries using List.reverseRecOn with
  | nil => rfl
  | append_singleton entries e ih =>
    rw [List.map_append, List.nodup_append] at h
    obtain ⟨hnodup, -, hnew⟩ := h
    rw [List.foldl_append, ih hnodup, List.filterMap_append]
    simp only [List.foldl_cons, List.foldl_nil, List.filterMap_cons, List.filterMap_nil]
    cases hvalue : claimValue (attributeValues assertion e.1) with
    | none => simp [claimOf, hvalue]
    | some value =>
      have hkept : (entries.filterMap (claimOf J assertion)).filter (fun x => x.1 != e.2) =
          entries.filterMap (claimOf J assertion) := by
        refine List.filter_eq_self.mpr fun x hx => ?_
        obtain ⟨entry, hentry, hclaim⟩ := List.mem_filterMap.mp hx
        obtain ⟨v, -, rfl⟩ := Option.map_eq_some_iff.mp hclaim
        have hne := hnew entry.2 (List.mem_map_of_mem hentry) e.2 (by simp)
        simpa using hne
      simp [claimOf, hvalue, insertClaim, hkept]

theorem extraClaimsOf_eq (h : MappedClaims params) :
    extraClaimsOf J assertion params = params.attributeClaimMap.filterMap (claimOf J assertion) :=
  foldl_insertClaim_eq h.nodup

theorem validateExtraClaimsSize_ok_iff {extra : ExtraClaims} :
    validateExtraClaimsSize X extra = .ok () ↔ X.extraClaimsSize extra ≤ maxExtraClaimsBytes := by
  unfold validateExtraClaimsSize
  dsimp only
  split
  · rename_i h
    simp [Nat.not_le.mpr h]
  · rename_i h
    simp [Nat.not_lt.mp h]

theorem nameIdSubject_ok_iff {subject : String} :
    nameIdSubject assertion = .ok subject ↔ ∃ nameId, assertion.nameId = some nameId ∧
      nameId.value ≠ "" ∧ nameId.format ≠ some nameidTransient ∧ nameId.value = subject := by
  unfold nameIdSubject
  cases hid : assertion.nameId with
  | none => simp
  | some nameId =>
    by_cases hempty : nameId.value = ""
    · simp [Option.filter, hempty]
    · by_cases htransient : nameId.format = some nameidTransient
      · simp [Option.filter, hempty, htransient]
      · simp [Option.filter, hempty, htransient]

theorem subjectOf_ok_iff {subject : String}
    (h : params.subjectAttribute = none ∨ subjectAttributeSet params = true) :
    subjectOf assertion params = .ok subject ↔ StatedSubject assertion params subject := by
  unfold subjectOf StatedSubject
  cases hname : params.subjectAttribute with
  | none =>
    have hunset : subjectAttributeSet params = false := by simp [subjectAttributeSet, hname]
    rw [hunset]
    simpa using nameIdSubject_ok_iff
  | some name =>
    have hset : subjectAttributeSet params = true := h.resolve_left (by simp [hname])
    rw [hset]
    simp only [if_true, Option.getD_some]
    cases hvalues : attributeValues assertion name with
    | nil => simp
    | cons value rest => cases rest with
      | nil => simp
      | cons => simp

theorem mapIdentity_ok_iff {identity : SamlIdentity} :
    mapIdentity X E J assertion params = .ok identity ↔
      ∃ subject, subjectOf assertion params = .ok subject ∧
        X.extraClaimsSize (extraClaimsOf J assertion params) ≤ maxExtraClaimsBytes ∧
        identity = { subject := if params.normalizeSubjectCase then E.toLowercase subject
                       else subject
                     roles := rolesOf assertion params
                     extraClaims := extraClaimsOf J assertion params } := by
  unfold mapIdentity
  cases hsubject : subjectOf assertion params with
  | error e => simp
  | ok subject =>
    dsimp only
    rw [← validateExtraClaimsSize_ok_iff]
    cases hsize : validateExtraClaimsSize X (extraClaimsOf J assertion params) with
    | error e => simp
    | ok done =>
      constructor
      · intro h
        cases h
        exact ⟨subject, rfl, rfl, rfl⟩
      · rintro ⟨subject', hsubject', -, rfl⟩
        cases hsubject'
        rfl

theorem of_rolesOf : FirstOccurrences.Of (roleValues assertion params) (rolesOf assertion params) := by
  unfold roleValues rolesOf
  cases params.roleAttribute with
  | none => exact FirstOccurrences.of_firsts []
  | some name => exact FirstOccurrences.of_firsts (attributeValues assertion name)

theorem sameOutcome_of_perm (hsize : SizesMaps X) (hmap : MappedClaims params)
    {entries : List (String × String)} (hperm : entries.Perm params.attributeClaimMap) :
    SameOutcome (mapIdentity X E J assertion { params with attributeClaimMap := entries })
      (mapIdentity X E J assertion params) := by
  have hmap' : MappedClaims { params with attributeClaimMap := entries } :=
    ⟨(hperm.map Prod.snd).nodup_iff.mpr hmap.nodup,
      fun claim hclaim => hmap.disjoint claim ((hperm.map Prod.snd).mem_iff.mp hclaim)⟩
  have hextra : (extraClaimsOf J assertion { params with attributeClaimMap := entries }).Perm
      (extraClaimsOf J assertion params) := by
    rw [extraClaimsOf_eq hmap, extraClaimsOf_eq hmap']
    exact hperm.filterMap _
  have hsubject : subjectOf assertion { params with attributeClaimMap := entries } =
      subjectOf assertion params := rfl
  unfold mapIdentity
  rw [hsubject]
  cases subjectOf assertion params with
  | error e => exact rfl
  | ok subject =>
    simp only [validateExtraClaimsSize, hsize.perm _ _ hextra]
    split
    · rename_i hover
      split at hover
      · rename_i hlarge
        simp only [SameOutcome]
      · cases hover
    · rename_i hfits
      split at hfits
      · cases hfits
      · rename_i hsmall
        simp only [SameOutcome]
        exact ⟨trivial, rfl, hextra⟩

def namedOnly (instant : τ) : SamlAssertion τ :=
  { id := "_assertion", issueInstant := instant, audienceRestrictions := none,
    authnStatements := none, nameId := some ⟨none, "alice"⟩ }

theorem attributeValues_namedOnly (instant : τ) (name : String) :
    attributeValues (namedOnly instant) name = [] := rfl

/-- Under accepted settings all assertions are mapped as specified exactly when the subject attribute
is unset or not blank: the mapper takes a blank one for a name. -/
theorem accepted_maps_as_specified_iff (instant : τ) (X : Externals) (E : SamlCrates)
    (J : JsonTexts) (nanos : Int) (submitted params : SamlParams) (realmId : String)
    (hsize : SizesMaps X) (h : validateSamlParams E nanos submitted realmId = .ok params) :
    MapsAsSpecified τ X E J params ↔
      params.subjectAttribute = none ∨ subjectAttributeSet params = true := by
  obtain ⟨-, hmap⟩ := validateSamlParams_ok h
  constructor
  · intro hspec
    cases hname : params.subjectAttribute with
    | none => exact .inl rfl
    | some name =>
      refine .inr ?_
      cases hset : subjectAttributeSet params with
      | true => rfl
      | false =>
        have hextra : extraClaimsOf J (namedOnly instant) params = [] := by
          rw [extraClaimsOf_eq hmap, List.filterMap_eq_nil_iff]
          intro entry _
          rfl
        have hclaims : params.attributeClaimMap.filterMap (claimOf J (namedOnly instant)) = [] := by
          rw [← extraClaimsOf_eq hmap, hextra]
        obtain ⟨identity, hidentity⟩ := hspec.complete (namedOnly instant)
          ⟨{ subject := if params.normalizeSubjectCase then E.toLowercase "alice" else "alice"
             roles := rolesOf (namedOnly instant) params, extraClaims := [] },
            { subject := ⟨"alice", by
                rw [StatedSubject, hset]
                exact ⟨⟨none, "alice"⟩, rfl, by decide, by decide, rfl⟩, rfl⟩
              roles := of_rolesOf
              extraClaims := by rw [hclaims]
              names := List.nodup_nil
              size := hsize.empty }⟩
        obtain ⟨subject, hsubject, -⟩ := mapIdentity_ok_iff.mp hidentity
        simp only [subjectOf, hname, attributeValues_namedOnly] at hsubject
        cases hsubject
  · intro hattribute
    refine ⟨fun assertion entries hperm => sameOutcome_of_perm hsize hmap hperm, ?_, ?_⟩
    · intro assertion identity hidentity
      obtain ⟨subject, hsubject, hfits, rfl⟩ := mapIdentity_ok_iff.mp hidentity
      exact { subject := ⟨subject, (subjectOf_ok_iff hattribute).mp hsubject, rfl⟩
              roles := of_rolesOf
              extraClaims := by rw [extraClaimsOf_eq hmap]
              names := (extraClaimsOf_namedIn J assertion params).1
              size := hfits }
    · rintro assertion ⟨identity, hidentity⟩
      obtain ⟨subject, hsubject, -⟩ := hidentity.subject
      refine ⟨_, mapIdentity_ok_iff.mpr ⟨subject, (subjectOf_ok_iff hattribute).mpr hsubject, ?_, rfl⟩⟩
      rw [extraClaimsOf_eq hmap, ← hsize.perm _ _ hidentity.extraClaims]
      exact hidentity.size

end Saml

namespace Transparent

theorem sizesMaps : Saml.SizesMaps externals where
  perm := by
    intro extra extra' h
    exact congrArg (· + 1) (h.map _).sum_eq
  empty := by decide

/-- Without a subject attribute the NameID is the subject. -/
theorem accepted_maps_as_specified_iff_acceptedParams :
    Saml.MapsAsSpecified Int externals idpCrates jsonTexts acceptedParams ↔
      acceptedParams.subjectAttribute = none ∨ Saml.subjectAttributeSet acceptedParams = true :=
  Saml.accepted_maps_as_specified_iff 0 externals idpCrates jsonTexts 0 submittedParams acceptedParams
    "acme" sizesMaps (by decide)

/-- A subject attribute that is a blank passes for none in the settings, and for a missing attribute
in every login. -/
theorem blank_subject_attribute_fails_logins :
    let blank (params : SamlParams) := { params with subjectAttribute := some " " }
    Saml.validateSamlParams idpCrates 0 (blank submittedParams) "acme" =
        .ok (blank acceptedParams) ∧
      Saml.StatedSubject (Saml.namedOnly (0 : Int)) (blank acceptedParams) "alice" ∧
      Saml.mapIdentity externals idpCrates jsonTexts (Saml.namedOnly (0 : Int))
        (blank acceptedParams) = .error (.saml "subject attribute ' ' is missing") := by
  refine ⟨by decide, ⟨⟨none, "alice"⟩, rfl, by decide, by decide, rfl⟩, by decide⟩

end Transparent
end AuthVerifier
