import AuthVerifier.Kubernetes
import AuthVerifier.Transparent

/-!
Which service-account tokens a Kubernetes role lets in. The checks of the code are those of the
role but for three gaps: a `kid` that no key has falls back to all keys although some declare one,
and an issuer or an audience that is asked for is compared only when the token carries one.
-/

set_option autoImplicit false

namespace AuthVerifier.Kubernetes
open Effects Relational

/-- The key may be used for the header: no `kid` to go by, its own `kid`, or a set without any. -/
def Eligible (headerKid : Option String) (keys : JwkSet) (key : Jwk) : Prop :=
  headerKid = none ∨ key.keyId = headerKid ∨ ∀ other ∈ keys, other.keyId = none

def Bound (K : K8sCrates) (stored value : String) : Prop :=
  ∃ bound, K.parseStrings stored = some bound ∧ ("*" ∈ bound ∨ value ∈ bound)

section
variable (K : K8sCrates) (now : Int) (role : K8sRole) (keys : JwkSet) (token : String)

/-- The checks that the code makes in full: algorithm, `exp` and `nbf` up to the leeway, and a
service account within the bounds of the role. -/
structure Checked (header : JwtHeader) (claims : RegisteredClaims) (ns name : String) : Prop where
  decoded : K.decodeHeader token = .ok header
  allowed : header.alg ∈ allowedK8sAlgorithms
  payload : K.payload token = .ok claims
  expires : ∃ exp, claims.exp = some exp ∧ now - 60 ≤ exp
  begins : ∀ nbf, claims.nbf = some nbf → nbf ≤ now + 60
  account : ':' ∉ ns.toList ∧ claims.sub = some ("system:serviceaccount:" ++ ns ++ ":" ++ name)
  boundName : Bound K role.boundSaNames name
  boundNamespace : Bound K role.boundSaNamespaces ns

/-- What the role asks of a token: an eligible key, and issuer and audience where it names them. -/
def Acceptable (ns name : String) : Prop :=
  ∃ header claims audiences, Checked K now role token header claims ns name ∧
    K.parseStrings role.boundAudiences = some audiences ∧
    (∃ key ∈ keys, Eligible header.kid keys key ∧ K.verifies key header.alg token = true) ∧
    (∀ expected, role.expectedIssuer = some expected → claims.iss = some expected) ∧
    (audiences ≠ [] → ∃ aud, claims.aud = some aud ∧ ∃ a ∈ aud, a ∈ audiences)

/-- What the code asks instead: any key where none has the `kid`, and issuer and audience where the
token carries them. -/
structure Admits (header : JwtHeader) (claims : RegisteredClaims) (audiences : List String)
    (ns name : String) : Prop where
  checked : Checked K now role token header claims ns name
  parsed : K.parseStrings role.boundAudiences = some audiences
  key : ∃ key ∈ keys, (header.kid = none ∨ key.keyId = header.kid ∨
    ∀ other ∈ keys, other.keyId ≠ header.kid) ∧ K.verifies key header.alg token = true
  issuer : ∀ expected iss, role.expectedIssuer = some expected → claims.iss = some iss →
    iss = expected
  audience : audiences ≠ [] → ∀ aud, claims.aud = some aud → ∃ a ∈ aud, a ∈ audiences

/-- The gaps are closed for the token: the `kid` of its header is that of a key, where it has one and
keys declare any, and it carries the claims that the role compares. -/
structure Complete (header : JwtHeader) (claims : RegisteredClaims) (audiences : List String) :
    Prop where
  kid : header.kid = none ∨ (∃ key ∈ keys, key.keyId = header.kid) ∨ ∀ key ∈ keys, key.keyId = none
  issuer : role.expectedIssuer.isSome → claims.iss.isSome
  audience : audiences ≠ [] → claims.aud.isSome

end

section
variable (K : K8sCrates) (m : K8sMoment) (roles : K8sRoles) (tokens : AppTokens)
  (request : K8sLoginRequest) (role : K8sRole)

def issuedToken (ns name : String) : AppToken :=
  AppTokenEndpoints.newToken K.digest m.now m.drawn (ns ++ "/" ++ name) [] role.tokenTtlSecs true

def IssuesFor (ns name : String) : Prop :=
  (k8sLogin K m roles tokens (.ok request)).state.rows =
      tokens.rows ++ [issuedToken K m role ns name] ∧
    (k8sLogin K m roles tokens (.ok request)).result = .ok
      { clientToken := m.drawn, renewable := true, leaseDuration := role.tokenTtlSecs
        policies := []
        metadata := [("role", request.role), ("service_account_name", name),
                     ("service_account_namespace", ns)] }

end

section
variable {K : K8sCrates} {now : Int} {role : K8sRole} {keys : JwkSet} {token : String}

theorem splitN_four {cs a b c d : List Char} (h : Text.splitN ':' 4 cs = [a, b, c, d]) :
    ':' ∉ c ∧ cs = a ++ ':' :: (b ++ ':' :: (c ++ ':' :: d)) := by
  simp only [Text.splitN] at h
  split at h
  · simp at h
  · rename_i h₁
    split at h
    · simp at h
    · rename_i h₂
      split at h
      · simp at h
      · rename_i h₃
        simp only [List.cons.injEq, and_true] at h
        obtain ⟨rfl, rfl, rfl, rfl⟩ := h
        obtain ⟨rfl, -⟩ := Text.splitOnce_eq_some_iff.mp h₁
        obtain ⟨rfl, -⟩ := Text.splitOnce_eq_some_iff.mp h₂
        obtain ⟨rfl, hc⟩ := Text.splitOnce_eq_some_iff.mp h₃
        exact ⟨hc, rfl⟩

theorem parseK8sSub_ok_iff {sub ns name : String} :
    parseK8sSub sub = .ok (ns, name) ↔
      ':' ∉ ns.toList ∧ sub = "system:serviceaccount:" ++ ns ++ ":" ++ name := by
  constructor
  · intro h
    unfold parseK8sSub at h
    split at h
    · rename_i system serviceaccount ns' name' hfields
      split at h
      · rename_i hprefix
        obtain ⟨rfl, rfl⟩ := hprefix
        cases h
        obtain ⟨hns, hsub⟩ := splitN_four hfields
        refine ⟨by simpa using hns, String.toList_inj.mp ?_⟩
        simp [hsub]
      · cases h
    · cases h
  · rintro ⟨hns, rfl⟩
    have hchars : ("system:serviceaccount:" ++ ns ++ ":" ++ name).toList =
        "system".toList ++ ':' :: ("serviceaccount".toList ++ ':' :: (ns.toList ++ ':' :: name.toList)) := by
      simp
    unfold parseK8sSub
    rw [hchars]
    simp only [Text.splitN, Text.splitOnce_append _ hns,
      Text.splitOnce_append _ (show ':' ∉ "system".toList by decide),
      Text.splitOnce_append _ (show ':' ∉ "serviceaccount".toList by decide)]
    simp

theorem subject_iff {sub : Option String} {ns name : String} :
    parseK8sSub (sub.getD "") = .ok (ns, name) ↔
      ':' ∉ ns.toList ∧ sub = some ("system:serviceaccount:" ++ ns ++ ":" ++ name) := by
  rw [parseK8sSub_ok_iff]
  refine and_congr_right fun _ => ?_
  cases sub with
  | some sub => simp
  | none =>
    simp only [Option.getD_none, reduceCtorEq, iff_false]
    intro h
    have hchars := congrArg String.toList h
    simp at hchars

theorem immature_eq_false_iff {leeway : Int} {c : RegisteredClaims} :
    immature leeway now c = false ↔ ∀ nbf, c.nbf = some nbf → nbf ≤ now + leeway := by
  unfold immature
  cases c.nbf with
  | none => simp
  | some nbf => simp

theorem buildValidation_check_iff {expectedIssuer : Option String} {audiences : List String}
    {c : RegisteredClaims} :
    (buildValidation expectedIssuer audiences).check now c = .ok () ↔
      (∃ exp, c.exp = some exp ∧ now - 60 ≤ exp) ∧
      (∀ expected iss, expectedIssuer = some expected → c.iss = some iss → iss = expected) ∧
      (audiences ≠ [] → ∀ aud, c.aud = some aud → ∃ a ∈ aud, a ∈ audiences) := by
  rw [Validation.check_ok_iff]
  have hexp : (∀ s ∈ [SpecClaim.exp], s.present c = true) ∧
      (buildValidation expectedIssuer audiences).expired now c = false ↔
        ∃ exp, c.exp = some exp ∧ now - 60 ≤ exp := by
    simp only [List.mem_singleton, forall_eq, SpecClaim.present]
    cases hc : c.exp with
    | none => simp
    | some exp =>
      have hexpired : (buildValidation expectedIssuer audiences).expired now c =
          decide (exp < now - 60) := by
        rw [Validation.expired, hc]
        rfl
      rw [hexpired, decide_eq_false_iff_not, Int.not_lt]
      simp
  have hiss : (buildValidation expectedIssuer audiences).issuerMismatch c = false ↔
      ∀ expected iss, expectedIssuer = some expected → c.iss = some iss → iss = expected := by
    simp only [Validation.issuerMismatch, buildValidation]
    cases c.iss with
    | none => simp
    | some iss =>
      cases expectedIssuer with
      | none => simp
      | some expected => simp
  have haud : (buildValidation expectedIssuer audiences).audienceMismatch c = false ↔
      (audiences ≠ [] → ∀ aud, c.aud = some aud → ∃ a ∈ aud, a ∈ audiences) := by
    simp only [Validation.audienceMismatch, buildValidation]
    cases audiences with
    | nil => simp
    | cons a audiences =>
      cases c.aud with
      | none => simp
      | some aud => simp
  rw [← and_assoc, ← hexp, hiss, haud]
  rfl

theorem mem_candidates_iff {headerKid : Option String} {key : Jwk} :
    key ∈ candidates headerKid keys ↔ key ∈ keys ∧ (headerKid = none ∨ key.keyId = headerKid ∨
      ∀ other ∈ keys, other.keyId ≠ headerKid) := by
  unfold candidates
  cases headerKid with
  | none => simp
  | some kid =>
    simp only [List.isEmpty_iff, List.filter_eq_nil_iff, decide_eq_true_eq]
    split
    · rename_i hnone
      simp only [reduceCtorEq, false_or]
      exact ⟨fun hmem => ⟨hmem, .inr hnone⟩, And.left⟩
    · rename_i hsome
      simp [hsome]

theorem decode_ok_iff {alg : Algorithm} {v : Validation} {key : Jwk} {claims : RegisteredClaims} :
    decode K now token alg v key = .ok claims ↔ K.verifies key alg token = true ∧
      K.payload token = .ok claims ∧ v.check now claims = .ok () ∧
        immature v.leeway now claims = false := by
  unfold decode
  cases K.verifies key alg token with
  | false => simp
  | true =>
    cases K.payload token with
    | error e => simp
    | ok claims' =>
      simp only [Bool.true_eq_false, if_false, Except.ok.injEq, true_and]
      constructor
      · intro h
        split at h
        · cases h
        · rename_i hcheck
          split at h
          · cases h
          · rename_i himmature
            cases h
            exact ⟨rfl, hcheck, by simpa using himmature⟩
      · rintro ⟨rfl, hcheck, himmature⟩
        simp [hcheck, himmature]

theorem firstDecoded_ok_iff {alg : Algorithm} {v : Validation} {claims : RegisteredClaims} :
    firstDecoded K now token alg v keys = .ok claims ↔
      (∃ key ∈ keys, K.verifies key alg token = true) ∧ K.payload token = .ok claims ∧
        v.check now claims = .ok () ∧ immature v.leeway now claims = false := by
  induction keys with
  | nil => simp [firstDecoded]
  | cons key rest ih =>
    rw [firstDecoded]
    cases hdecode : decode K now token alg v key with
    | ok claims' =>
      obtain ⟨hverifies, hpayload, hchecks⟩ := decode_ok_iff.mp hdecode
      simp only [Except.ok.injEq]
      constructor
      · rintro rfl
        exact ⟨⟨key, List.mem_cons_self, hverifies⟩, hpayload, hchecks⟩
      · rintro ⟨-, hpayload', -⟩
        exact Except.ok.inj (hpayload.symm.trans hpayload')
    | error e =>
      simp only [ih]
      refine and_congr_left fun hchecks => ?_
      have hnot : ¬ K.verifies key alg token = true := fun hverifies => by
        rw [decode_ok_iff.mpr ⟨hverifies, hchecks⟩] at hdecode
        cases hdecode
      simp [hnot]

theorem validateK8sJwt_ok_iff {audiences : List String} {claims : RegisteredClaims} :
    validateK8sJwt K now token keys role.expectedIssuer audiences = .ok claims ↔
      ∃ header, K.decodeHeader token = .ok header ∧ header.alg ∈ allowedK8sAlgorithms ∧
        (∃ key ∈ candidates header.kid keys, K.verifies key header.alg token = true) ∧
        K.payload token = .ok claims ∧
        (buildValidation role.expectedIssuer audiences).check now claims = .ok () ∧
        immature 60 now claims = false := by
  unfold validateK8sJwt
  cases hheader : K.decodeHeader token with
  | error e => simp
  | ok header =>
    simp only [Except.ok.injEq, exists_eq_left']
    by_cases hallowed : header.alg ∈ allowedK8sAlgorithms
    · rw [if_neg (not_not.mpr hallowed), firstDecoded_ok_iff]
      simp only [hallowed, true_and]
      rfl
    · rw [if_pos hallowed]
      simp [hallowed]

theorem allows_iff {bound : List String} {value : String} :
    allows bound value = true ↔ "*" ∈ bound ∨ value ∈ bound := by
  simp [allows]

theorem authenticate_ok_iff {ns name : String} :
    authenticate K now role keys token = .ok (ns, name) ↔
      ∃ header claims audiences, Admits K now role keys token header claims audiences ns name := by
  unfold authenticate
  constructor
  · intro h
    split at h
    · cases h
    · rename_i audiences haudiences
      split at h
      · cases h
      · rename_i claims hvalid
        split at h
        · cases h
        · rename_i ns' name' hsub
          split at h
          · cases h
          · rename_i boundNames hnames
            split at h
            · cases h
            · rename_i hname
              split at h
              · cases h
              · rename_i boundNamespaces hnamespaces
                split at h
                · cases h
                · rename_i hnamespace
                  cases h
                  obtain ⟨header, hheader, hallowed, ⟨key, hkey, hverifies⟩, hpayload, hcheck,
                    himmature⟩ := validateK8sJwt_ok_iff.mp hvalid
                  obtain ⟨hexpires, hissuer, haudience⟩ := buildValidation_check_iff.mp hcheck
                  obtain ⟨hkeys, heligible⟩ := mem_candidates_iff.mp hkey
                  refine ⟨header, claims, audiences, ?_, haudiences, ⟨key, hkeys, heligible,
                    hverifies⟩, hissuer, haudience⟩
                  exact
                    { decoded := hheader, allowed := hallowed, payload := hpayload
                      expires := hexpires, begins := immature_eq_false_iff.mp himmature
                      account := subject_iff.mp hsub
                      boundName := ⟨boundNames, hnames, by simpa [allows_iff] using hname⟩
                      boundNamespace :=
                        ⟨boundNamespaces, hnamespaces, by simpa [allows_iff] using hnamespace⟩ }
  · rintro ⟨header, claims, audiences, h⟩
    obtain ⟨key, hkeys, heligible, hverifies⟩ := h.key
    obtain ⟨boundNames, hnames, hname⟩ := h.checked.boundName
    obtain ⟨boundNamespaces, hnamespaces, hnamespace⟩ := h.checked.boundNamespace
    have hvalid : validateK8sJwt K now token keys role.expectedIssuer audiences = .ok claims :=
      validateK8sJwt_ok_iff.mpr ⟨header, h.checked.decoded, h.checked.allowed,
        ⟨key, mem_candidates_iff.mpr ⟨hkeys, heligible⟩, hverifies⟩, h.checked.payload,
        buildValidation_check_iff.mpr ⟨h.checked.expires, h.issuer, h.audience⟩,
        immature_eq_false_iff.mpr h.checked.begins⟩
    simp only [h.parsed, hvalid, subject_iff.mpr h.checked.account, hnames, hnamespaces,
      allows_iff.mpr hname, allows_iff.mpr hnamespace, Bool.true_eq_false, if_false]

section
variable {m : K8sMoment} {roles : K8sRoles} {tokens : AppTokens} {request : K8sLoginRequest}

theorem issuesFor_iff {ns name : String} (hrole : roles.find? request.role = some role)
    (hkeys : m.fetchJwks role.jwksUrl = some keys) (hnew : K.digest m.drawn ∉ tokens.keys) :
    IssuesFor K m roles tokens request role ns name ↔
      authenticate K m.now role keys request.jwt = .ok (ns, name) := by
  unfold IssuesFor k8sLogin
  simp only [hrole, hkeys]
  cases hauth : authenticate K m.now role keys request.jwt with
  | error e => simp
  | ok account =>
    obtain ⟨ns', name'⟩ := account
    have hissue : AppTokenDb.issueAppToken tokens (issuedToken K m role ns' name') =
        .ok (tokens.insert (issuedToken K m role ns' name') hnew) := dif_neg hnew
    unfold issuedToken at hissue
    simp only [hissue, Except.ok.injEq, Prod.mk.injEq]
    constructor
    · rintro ⟨-, hresult⟩
      simp only [Outcome.ok_result, Except.ok.injEq, K8sLoginResponse.mk.injEq, List.cons.injEq,
        Prod.mk.injEq, true_and, and_true] at hresult
      exact hresult.symm
    · rintro ⟨rfl, rfl⟩
      exact ⟨rfl, rfl⟩

end

theorem acceptable_iff {ns name : String} :
    Acceptable K now role keys token ns name ↔ ∃ header claims audiences,
      Admits K now role keys token header claims audiences ns name ∧
        Complete role keys header claims audiences := by
  constructor
  · rintro ⟨header, claims, audiences, hchecked, hparsed, ⟨key, hkey, heligible, hverifies⟩,
      hissuer, haudience⟩
    refine ⟨header, claims, audiences,
      { checked := hchecked, parsed := hparsed, key := ⟨key, hkey, ?_, hverifies⟩
        issuer := fun expected iss hexpected hiss => ?_, audience := fun hne aud haud => ?_ },
      { kid := ?_, issuer := fun hexpected => ?_, audience := fun hne => ?_ }⟩
    · rcases heligible with hnone | hkid | hundeclared
      · exact .inl hnone
      · exact .inr (.inl hkid)
      · by_cases hnone : header.kid = none
        · exact .inl hnone
        · exact .inr (.inr fun other hother hkid => hnone (hkid ▸ hundeclared other hother))
    · rw [hissuer expected hexpected] at hiss
      exact (Option.some.inj hiss).symm
    · obtain ⟨aud', haud', hmeets⟩ := haudience hne
      cases haud'.symm.trans haud
      exact hmeets
    · rcases heligible with hnone | hkid | hundeclared
      · exact .inl hnone
      · exact .inr (.inl ⟨key, hkey, hkid⟩)
      · exact .inr (.inr hundeclared)
    · obtain ⟨expected, hexpected⟩ := Option.isSome_iff_exists.mp hexpected
      rw [hissuer expected hexpected]
      rfl
    · obtain ⟨aud, haud, -⟩ := haudience hne
      rw [haud]
      rfl
  · rintro ⟨header, claims, audiences, h, hcomplete⟩
    obtain ⟨key, hkey, hcandidate, hverifies⟩ := h.key
    refine ⟨header, claims, audiences, h.checked, h.parsed, ⟨key, hkey, ?_, hverifies⟩,
      fun expected hexpected => ?_, fun hne => ?_⟩
    · rcases hcandidate with hnone | hkid | hother
      · exact .inl hnone
      · exact .inr (.inl hkid)
      · rcases hcomplete.kid with hnone | ⟨other, hmem, hkid⟩ | hundeclared
        · exact .inl hnone
        · exact absurd hkid (hother other hmem)
        · exact .inr (.inr hundeclared)
    · obtain ⟨iss, hiss⟩ := Option.isSome_iff_exists.mp
        (hcomplete.issuer (Option.isSome_of_eq_some hexpected))
      rw [hiss, h.issuer expected iss hexpected hiss]
    · obtain ⟨aud, haud⟩ := Option.isSome_iff_exists.mp (hcomplete.audience hne)
      exact ⟨aud, haud, h.audience hne aud haud⟩

theorem Admits.unique {header header' : JwtHeader} {claims claims' : RegisteredClaims}
    {audiences audiences' : List String} {ns name ns' name' : String}
    (h : Admits K now role keys token header claims audiences ns name)
    (h' : Admits K now role keys token header' claims' audiences' ns' name') :
    header = header' ∧ claims = claims' ∧ audiences = audiences' :=
  ⟨Except.ok.inj (h.checked.decoded.symm.trans h'.checked.decoded),
    Except.ok.inj (h.checked.payload.symm.trans h'.checked.payload),
    Option.some.inj (h.parsed.symm.trans h'.parsed)⟩

/-- The login lets in exactly the tokens that the role asks for, if and only if no token that passes
the other checks falls into one of the gaps. -/
theorem k8s_acceptance_iff (K : K8sCrates) (m : K8sMoment) (roles : K8sRoles) (tokens : AppTokens)
    (request : K8sLoginRequest) (role : K8sRole) (keys : JwkSet)
    (hrole : roles.find? request.role = some role)
    (hkeys : m.fetchJwks role.jwksUrl = some keys) (hnew : K.digest m.drawn ∉ tokens.keys) :
    (∀ ns name, IssuesFor K m roles tokens request role ns name ↔
      Acceptable K m.now role keys request.jwt ns name) ↔
    ∀ header claims audiences ns name,
      Admits K m.now role keys request.jwt header claims audiences ns name →
        Complete role keys header claims audiences := by
  simp only [issuesFor_iff hrole hkeys hnew, authenticate_ok_iff, acceptable_iff]
  constructor
  · intro h header claims audiences ns name hadmits
    obtain ⟨_, _, _, hadmits', hcomplete⟩ := (h ns name).mp ⟨header, claims, audiences, hadmits⟩
    obtain ⟨rfl, rfl, rfl⟩ := hadmits.unique hadmits'
    exact hcomplete
  · intro h ns name
    constructor
    · rintro ⟨header, claims, audiences, hadmits⟩
      exact ⟨header, claims, audiences, hadmits, h _ _ _ _ _ hadmits⟩
    · rintro ⟨header, claims, audiences, hadmits, -⟩
      exact ⟨header, claims, audiences, hadmits⟩

end
/-- RS256 tokens in clear, and the few lists that the role below stores. -/
def clearCrates : K8sCrates where
  decodeHeader token := match Transparent.readBearer token with
    | some (kid, _, _) => .ok { alg := .rs256, kid := Transparent.present kid.toList }
    | none => .error "InvalidToken"
  verifies key alg token := match Transparent.readBearer token with
    | some (_, material, _) => alg = .rs256 ∧ material = key.material
    | none => false
  payload token := match Transparent.readBearer token with
    | some (_, _, claims) => .ok claims.registered
    | none => .error "InvalidToken"
  parseStrings text :=
    if text = "[]" then some [] else if text = "[\"*\"]" then some ["*"] else none
  digest text := text.toList.map (fun c => UInt8.ofNat c.toNat)

def spireRole : K8sRole :=
  { name := "spire", jwksUrl := "https://cluster-a/jwks", boundSaNames := "[\"*\"]"
    boundSaNamespaces := "[\"*\"]", tokenTtlSecs := 3600
    expectedIssuer := some "https://cluster-a", boundAudiences := "[]" }

def spireRoles : K8sRoles := Table.empty.insert spireRole (by simp [Table.keys, Table.empty])

def spireKeys : JwkSet := [⟨some "k1", "m1"⟩]

def spireMoment : K8sMoment :=
  { now := 1000, drawn := "hvs.a", fetchJwks := fun _ => some spireKeys }

/-- A login with a token of the service account `web` of `prod`, from that issuer. -/
def spireLogin (iss : String) : K8sLoginRequest :=
  { role := "spire", jwt := "k1.m1." ++ iss ++ ".system:serviceaccount:prod:web.-.2000" }

theorem k8s_acceptance_iff_spire :
    ((∀ ns name, IssuesFor clearCrates spireMoment spireRoles .empty
        (spireLogin "https://cluster-a") spireRole ns name ↔
      Acceptable clearCrates 1000 spireRole spireKeys (spireLogin "https://cluster-a").jwt ns name) ↔
      ∀ header claims audiences ns name, Admits clearCrates 1000 spireRole spireKeys
          (spireLogin "https://cluster-a").jwt header claims audiences ns name →
        Complete spireRole spireKeys header claims audiences) ∧
    IssuesFor clearCrates spireMoment spireRoles .empty (spireLogin "https://cluster-a") spireRole
      "prod" "web" :=
  ⟨k8s_acceptance_iff clearCrates spireMoment spireRoles .empty (spireLogin "https://cluster-a")
    spireRole spireKeys (by decide +kernel) rfl (by simp [Table.keys, Table.empty]),
    by decide +kernel, by decide +kernel⟩

/-- A token that names no issuer is let in, although the role asks for one. -/
theorem missing_issuer_accepted :
    ¬ ∀ ns name, IssuesFor clearCrates spireMoment spireRoles .empty (spireLogin "-") spireRole
        ns name ↔
      Acceptable clearCrates 1000 spireRole spireKeys (spireLogin "-").jwt ns name := by
  intro h
  have hissued : IssuesFor clearCrates spireMoment spireRoles .empty (spireLogin "-") spireRole
      "prod" "web" := ⟨by decide, by decide⟩
  obtain ⟨header, claims, audiences, hchecked, -, -, hissuer, -⟩ := (h "prod" "web").mp hissued
  have hnone : (clearCrates.payload (spireLogin "-").jwt).map RegisteredClaims.iss = .ok none := by
    decide
  rw [hchecked.payload] at hnone
  cases (hissuer "https://cluster-a" rfl).symm.trans (Except.ok.inj hnone)

end AuthVerifier.Kubernetes
