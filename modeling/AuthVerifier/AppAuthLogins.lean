import AuthVerifier.AppAuthHistory
import AuthVerifier.AppTokenLifecycle

/-!
Which logins are granted, and which tokens are held, over every run of requests: the tables say what
the transcript says, request by request.
-/

set_option autoImplicit false

namespace AuthVerifier
open Effects Relational Transition

namespace AppAuth

section
variable {digest : String → List UInt8} {hist : List Entry} {s : AppAuthState} {e : Entry}
  {g : Generation} {name : String}

theorem consumable_secretRow {now used : Int} {presented : String}
    (hdigest : digest g.secretId = digest presented → g.secretId = presented) :
    AppRoles.consumable name (digest presented) now (secretRow digest used g) = true ↔
      g.name = name ∧ g.secretId = presented ∧ (g.expiry = 0 ∨ now < g.expiry) := by
  have hhash : digest g.secretId = digest presented ↔ g.secretId = presented :=
    ⟨hdigest, fun he => he ▸ rfl⟩
  simp only [AppRoles.consumable, Bool.and_eq_true, Bool.or_eq_true, beq_iff_eq,
    decide_eq_true_eq, and_assoc]
  exact and_congr_right fun _ => and_congr hhash Iff.rfl

theorem consumeSecretId_none {secrets : AppSecretIds} {now : Int} {presented : String}
    (h : SecretsRecorded digest hist secrets)
    (hdigest : ∀ x ∈ drawnIn hist, digest x = digest presented → x = presented)
    (hno : ∀ g, Usable hist now g → g.name = name → g.secretId ≠ presented) :
    AppRoleDb.consumeSecretId secrets now name (digest presented) = (secrets, none) := by
  have hfind : secrets.rows.find? (AppRoles.consumable name (digest presented) now) = none := by
    refine List.find?_eq_none.mpr fun row hrow hcons => ?_
    obtain ⟨g, hg, hleft, rfl⟩ := (h.rows row).mp hrow
    obtain ⟨hname, hsecret, hlive⟩ := (consumable_secretRow
      (hdigest _ (h.drawn g hg).2)).mp hcons
    exact hno g ⟨hg, hlive, hleft⟩ hname hsecret
  simp only [AppRoleDb.consumeSecretId, hfind]

theorem consumeSecretId_some {secrets : AppSecretIds} {now : Int}
    (h : SecretsRecorded digest hist secrets)
    (hdigest : ∀ x ∈ drawnIn hist, digest x = digest g.secretId → x = g.secretId)
    (hg : Usable hist now g) :
    ∃ secrets', AppRoleDb.consumeSecretId secrets now g.name (digest g.secretId) =
        (secrets', some g.accessor) ∧
      ∀ row, row ∈ secrets' ↔ row ∈ secrets ∧ row.accessor ≠ g.accessor ∨
        (g.payload.numUses > 0 → timesUsed g.name g.secretId hist + 1 < g.payload.numUses) ∧
          row = secretRow digest (timesUsed g.name g.secretId hist + 1) g := by
  have hrow := (h.rows _).mpr ⟨g, hg.outstanding, hg.unspent, rfl⟩
  have hkey {row : AppSecretId} (hmem : row ∈ secrets) (ha : row.accessor = g.accessor) :
      row = secretRow digest (timesUsed g.name g.secretId hist) g :=
    Table.eq_of_key hmem hrow ha
  have hfind : secrets.rows.find? (AppRoles.consumable g.name (digest g.secretId) now) =
      some (secretRow digest (timesUsed g.name g.secretId hist) g) := by
    cases hf : secrets.rows.find? (AppRoles.consumable g.name (digest g.secretId) now) with
    | none =>
      have hno := List.find?_eq_none.mp hf _ hrow
      exact absurd ((consumable_secretRow (fun _ => rfl)).mpr
        ⟨rfl, rfl, hg.unexpired⟩) hno
    | some found =>
      obtain ⟨g', hg', _, rfl⟩ := (h.rows found).mp (List.mem_of_find?_eq_some hf)
      have hcons : AppRoles.consumable g.name (digest g.secretId) now
        (secretRow digest (timesUsed g'.name g'.secretId hist) g') = true := List.find?_some hf
      obtain ⟨_, hsecret, _⟩ := (consumable_secretRow
        (hdigest _ (h.drawn g' hg').2)).mp hcons
      rw [h.once g' g hg' hg.outstanding (.inr hsecret)]
  have hunspent := hg.unspent
  unfold Unspent at hunspent
  simp only [AppRoleDb.consumeSecretId, hfind]
  generalize hused : timesUsed g.name g.secretId hist = used at hrow hkey hunspent ⊢
  have hleft : (secretRow digest used g).numUsesRemaining =
      if g.payload.numUses > 0 then g.payload.numUses - used else -1 := rfl
  have haccessor : (secretRow digest used g).accessor = g.accessor := rfl
  rw [hleft, haccessor]
  by_cases hlimited : g.payload.numUses > 0
  · have hlt := hunspent hlimited
    rw [if_pos hlimited]
    by_cases hlast : g.payload.numUses - used = 1
    · rw [if_pos hlast]
      refine ⟨_, rfl, fun row => ?_⟩
      rw [Table.mem_deleteWhere, beq_eq_false_iff_ne]
      constructor
      · exact .inl
      · rintro (hmem | ⟨hmore, _⟩)
        · exact hmem
        · have := hmore hlimited
          omega
    · rw [if_neg hlast, if_pos (by omega)]
      refine ⟨_, rfl, fun row => ?_⟩
      rw [Table.mem_updateWhere_key]
      refine or_congr_right ?_
      have hspent : ({ secretRow digest used g with
          numUsesRemaining := (secretRow digest used g).numUsesRemaining - 1 } : AppSecretId) =
          secretRow digest (used + 1) g := by
        simp only [secretRow, if_pos hlimited, AppSecretId.mk.injEq, true_and]
        omega
      constructor
      · rintro ⟨old, hold, ha, rfl⟩
        rw [hkey hold ha, hspent]
        exact ⟨fun _ => by omega, rfl⟩
      · rintro ⟨_, rfl⟩
        exact ⟨_, hrow, rfl, hspent⟩
  · rw [if_neg hlimited, if_neg (by omega), if_neg (by omega)]
    refine ⟨_, rfl, fun row => ?_⟩
    have hsame : secretRow digest (used + 1) g = secretRow digest used g := by
      simp only [secretRow, if_neg hlimited]
    rw [hsame]
    constructor
    · intro hmem
      by_cases ha : row.accessor = g.accessor
      · exact .inr ⟨fun hl => absurd hl hlimited, hkey hmem ha⟩
      · exact .inl ⟨hmem, ha⟩
    · rintro (⟨hmem, _⟩ | ⟨_, rfl⟩)
      · exact hmem
      · exact hrow

theorem SecretsRecorded.login {secrets secrets' : AppSecretIds} {now : Int} {t : TokenTimes}
    {roleId drawn : String} {answer : AppAuthAnswer} (h : SecretsRecorded digest hist secrets)
    (hg : Usable hist now g) (hasks : asks roleId (standing g.name hist) = true)
    (hrows : ∀ row, row ∈ secrets' ↔ row ∈ secrets ∧ row.accessor ≠ g.accessor ∨
      (g.payload.numUses > 0 → timesUsed g.name g.secretId hist + 1 < g.payload.numUses) ∧
        row = secretRow digest (timesUsed g.name g.secretId hist + 1) g) :
    SecretsRecorded digest
      ((⟨t, .login (.ok ⟨roleId, some g.secretId⟩) drawn⟩, .ok answer) :: hist) secrets' := by
  have hused (n sid : String) : timesUsed n sid
      ((⟨t, .login (.ok ⟨roleId, some g.secretId⟩) drawn⟩, .ok answer) :: hist) =
      if g.secretId = sid ∧ asks roleId (standing n hist) then timesUsed n sid hist + 1
      else timesUsed n sid hist := rfl
  have hself := hused g.name g.secretId
  rw [if_pos ⟨rfl, hasks⟩] at hself
  have hout (g' : Generation) : Outstanding
      ((⟨t, .login (.ok ⟨roleId, some g.secretId⟩) drawn⟩, .ok answer) :: hist) g' ↔
      Outstanding hist g' := by
    rw [Outstanding, since_cons]
    constructor
    · rintro (⟨hreq, _⟩ | ⟨hg', _⟩)
      · cases hreq
      · exact hg'
    · refine fun hg' => .inr ⟨hg', ?_⟩
      rintro ⟨hreq | hreq, _⟩
      · cases hreq
      · cases hreq
  have hother {g' : Generation} (hg' : Outstanding hist g') (hne : g' ≠ g) : timesUsed g'.name
      g'.secretId ((⟨t, .login (.ok ⟨roleId, some g.secretId⟩) drawn⟩, .ok answer) :: hist) =
      timesUsed g'.name g'.secretId hist := by
    rw [hused, if_neg]
    exact fun hsame => hne (h.once g' g hg' hg.outstanding (.inr hsame.1.symm))
  constructor
  · intro row
    rw [hrows, h.rows]
    constructor
    · rintro (⟨⟨g', hg', hleft, rfl⟩, hne⟩ | ⟨hmore, rfl⟩)
      · have hne' : g' ≠ g := fun he => hne (he ▸ rfl)
        refine ⟨g', (hout g').mpr hg', ?_, by rw [hother hg' hne']⟩
        rwa [Unspent, hother hg' hne']
      · refine ⟨g, (hout g).mpr hg.outstanding, ?_, by rw [hself]⟩
        rwa [Unspent, hself]
    · rintro ⟨g', hg', hleft, rfl⟩
      rw [hout] at hg'
      by_cases hne : g' = g
      · subst hne
        rw [Unspent, hself] at hleft
        exact .inr ⟨hleft, by rw [hself]⟩
      · rw [Unspent, hother hg' hne] at hleft
        refine .inl ⟨⟨g', hg', hleft, by rw [hother hg' hne]⟩, ?_⟩
        exact fun ha => hne (h.once g' g hg' hg.outstanding (.inl ha))
  · intro g' hg'
    obtain ⟨haccessor, hsecret⟩ := h.drawn g' ((hout g').mp hg')
    exact ⟨List.mem_append_right _ haccessor, List.mem_append_right _ hsecret⟩
  · exact fun g₁ g₂ h₁ h₂ => h.once g₁ g₂ ((hout g₁).mp h₁) ((hout g₂).mp h₂)
  · intro n sid hno
    have hold : sid ∉ drawnIn hist := fun hmem => hno (List.mem_append_right _ hmem)
    rw [hused, if_neg, h.used n sid hold]
    exact fun hsame => hold (hsame.1 ▸ (h.drawn g hg.outstanding).2)

theorem secretQuiet_login {roles : AppRoleTable} (h : RolesRecorded hist roles) {t : TokenTimes}
    {roleId drawn : String} {presented : Option String} {payload : AppRoleRoleRequest}
    {answer : AppAuthAnswer} (hrole : standing name hist = some (roleId, payload))
    (hbind : payload.bindSecretId = false) :
    SecretQuiet hist (⟨t, .login (.ok ⟨roleId, presented⟩) drawn⟩, .ok answer) := by
  have hasks (other : String) : asks roleId (standing other hist) = false := by
    cases hs : standing other hist with
    | none => rfl
    | some r =>
      obtain ⟨id, settings⟩ := r
      by_cases hid : id = roleId
      · subst hid
        obtain rfl := h.distinct name other _ _ hrole hs rfl
        rw [hrole] at hs
        cases hs
        simp [asks, hbind]
      · simp [asks, hid]
  refine secretQuiet_of_ne (fun n sid => ?_) nofun nofun nofun
  cases presented with
  | none => rfl
  | some raw => exact if_neg fun hsame => by simp [hasks n] at hsame

theorem Held.drawn {raw entity : String} {policies : List String}
    (h : Held hist raw entity policies) : raw ∈ drawnIn hist := by
  obtain ⟨since, e, older, rfl, hgrants, _⟩ := h
  refine List.mem_flatMap.mpr ⟨e.1, by simp, ?_⟩
  cases hgrants <;> exact List.mem_singleton_self _

theorem TokensRecorded.cons {tokens tokens' : AppTokens} (h : TokensRecorded digest hist tokens)
    (hstep : ∀ token ∈ tokens', (∃ old ∈ tokens, token.entity = old.entity ∧
      token.policies = old.policies ∧ token.tokenHash = old.tokenHash ∧
      ∀ raw, digest raw = old.tokenHash → ¬ Revokes raw e) ∨
      ∃ raw, Grants hist e raw token.entity token.policies ∧ token.tokenHash = digest raw) :
    TokensRecorded digest (e :: hist) tokens' := by
  intro token htoken
  rcases hstep token htoken with ⟨old, hold, hentity, hpolicies, hhash, hkeep⟩ |
    ⟨raw, hgrants, hhash⟩
  · obtain ⟨raw, hheld, hraw⟩ := h old hold
    rw [hentity, hpolicies, hhash]
    exact ⟨raw, since_cons.mpr (.inr ⟨hheld, hkeep raw hraw.symm⟩), hraw⟩
  · exact ⟨raw, since_cons.mpr (.inl hgrants), hhash⟩

theorem TokensRecorded.of_same {tokens : AppTokens} (h : TokensRecorded digest hist tokens)
    (hkeep : ∀ raw, ¬ Revokes raw e) : TokensRecorded digest (e :: hist) tokens :=
  h.cons fun token htoken => .inl ⟨token, htoken, rfl, rfl, rfl, fun raw _ => hkeep raw⟩

theorem grant_ok {t : TokenTimes} {role : AppRole} {drawn : String}
    (K : K8sCrates) (h : TokensRecorded K.digest hist s.tokens) (hnew : drawn ∉ drawnIn hist)
    (hdigest : ∀ x ∈ drawnIn hist, K.digest x = K.digest drawn → x = drawn) :
    ∃ tokens', grant K s t role drawn =
        ({ s with tokens := tokens' }, .ok (.loggedIn (granted role drawn))) ∧
      ∀ token ∈ tokens', token ∈ s.tokens ∨ token = AppTokenEndpoints.newToken K.digest t.store
        drawn role.name role.tokenPolicies role.tokenTtlSecs true := by
  have hkey : (AppTokenEndpoints.newToken K.digest t.store drawn role.name role.tokenPolicies
      role.tokenTtlSecs true).tokenHash ∉ s.tokens.keys := by
    intro hmem
    obtain ⟨token, htoken, hhash⟩ := Table.mem_keys.mp hmem
    obtain ⟨raw, hheld, hraw⟩ := h token htoken
    exact hnew (hdigest raw hheld.drawn (hraw.symm.trans hhash) ▸ hheld.drawn)
  refine ⟨s.tokens.insert _ hkey, ?_, fun token htoken => Table.mem_insert.mp htoken⟩
  simp only [grant, AppTokenDb.issueAppToken, dif_neg hkey]

/-- The request draws what was not drawn before, and its texts have digests of their own. -/
structure NewCall (digest : String → List UInt8) (hist : List Entry) (c : AppAuthCall) : Prop where
  undrawn : ∀ x ∈ c.draws, x ∉ drawnIn hist
  digests : ∀ x ∈ drawnIn hist, ∀ y, y ∈ c.draws ∨ y ∈ c.presents → digest x = digest y → x = y

section
variable {K : K8sCrates} {t : TokenTimes} {roleId drawn : String} {presented : Option String}
  {payload : AppRoleRoleRequest}

theorem approleLogin_of_opens (h : Recorded K.digest hist s)
    (hnew : NewCall K.digest hist ⟨t, .login (.ok ⟨roleId, presented⟩) drawn⟩)
    (ho : Opens hist t.lookup roleId presented name payload) :
    (approleLogin K s t (.ok ⟨roleId, presented⟩) drawn).2 =
        .ok (.loggedIn (granted (roleRow name (roleId, payload)) drawn)) ∧
      Recorded K.digest ((⟨t, .login (.ok ⟨roleId, presented⟩) drawn⟩,
          .ok (.loggedIn (granted (roleRow name (roleId, payload)) drawn))) :: hist)
        (approleLogin K s t (.ok ⟨roleId, presented⟩) drawn).1 := by
  obtain ⟨hrole, hsecret⟩ := ho
  have hfind : AppRoleDb.getApproleByRoleId s.roles roleId = some (roleRow name (roleId, payload)) :=
    h.roles.getApproleByRoleId.mpr ⟨name, payload, hrole, rfl⟩
  have hdrawn : drawn ∈ AppAuthCall.draws ⟨t, .login (.ok ⟨roleId, presented⟩) drawn⟩ :=
    List.mem_singleton_self _
  have hquiet : RoleQuiet (⟨t, .login (.ok ⟨roleId, presented⟩) drawn⟩,
      .ok (.loggedIn (granted (roleRow name (roleId, payload)) drawn))) := fun _ _ => rfl
  have htokens {tokens' : AppTokens} (hmem : ∀ token ∈ tokens', token ∈ s.tokens ∨
      token = AppTokenEndpoints.newToken K.digest t.store drawn name payload.tokenPolicies
        payload.tokenTtl true) :
      TokensRecorded K.digest ((⟨t, .login (.ok ⟨roleId, presented⟩) drawn⟩,
        .ok (.loggedIn (granted (roleRow name (roleId, payload)) drawn))) :: hist) tokens' := by
    refine h.tokens.cons fun token htoken => ?_
    rcases hmem token htoken with hold | rfl
    · refine .inl ⟨token, hold, rfl, rfl, rfl, ?_⟩
      rintro raw _ ⟨hreq, _⟩
      cases hreq
    · exact .inr ⟨drawn, .approle ⟨hrole, hsecret⟩, rfl⟩
  have hgrant (secrets' : AppSecretIds) := @grant_ok hist { s with secrets := secrets' } t
    (roleRow name (roleId, payload)) drawn K h.tokens (hnew.undrawn drawn hdrawn)
    fun x hx => hnew.digests x hx drawn (.inl hdrawn)
  simp only [approleLogin, hfind]
  by_cases hbind : payload.bindSecretId = true
  · obtain ⟨g, hg, rfl, rfl, hne⟩ := hsecret hbind
    obtain ⟨secrets', hconsume, hrows⟩ := consumeSecretId_some h.secrets
      (fun x hx => hnew.digests x hx g.secretId (.inr (Option.mem_toList.mpr rfl))) hg
    obtain ⟨tokens', hgranted, hmem⟩ := hgrant secrets'
    have hasks : asks roleId (standing g.name hist) = true := by simp [asks, hrole, hbind]
    have hname : (roleRow g.name (roleId, payload)).name = g.name := rfl
    rw [if_pos (show (roleRow g.name (roleId, payload)).bindSecretId = true from hbind)]
    simp only [Option.getD_some, if_neg hne, hname, hconsume, hgranted]
    exact ⟨trivial, h.roles.of_quiet hquiet, h.secrets.login hg hasks hrows, htokens hmem⟩
  · obtain ⟨tokens', hgranted, hmem⟩ := hgrant s.secrets
    rw [if_neg (show ¬ (roleRow name (roleId, payload)).bindSecretId = true from hbind)]
    rw [show grant K s t (roleRow name (roleId, payload)) drawn = _ from hgranted]
    exact ⟨rfl, h.roles.of_quiet hquiet, h.secrets.of_quiet
      (secretQuiet_login h.roles hrole (Bool.not_eq_true _ ▸ hbind)), htokens hmem⟩

theorem approleLogin_of_not (h : Recorded K.digest hist s)
    (hnew : NewCall K.digest hist ⟨t, .login (.ok ⟨roleId, presented⟩) drawn⟩)
    (hno : ∀ name payload, ¬ Opens hist t.lookup roleId presented name payload) :
    ∃ f, approleLogin K s t (.ok ⟨roleId, presented⟩) drawn = (s, .error f) := by
  simp only [approleLogin]
  cases hfind : AppRoleDb.getApproleByRoleId s.roles roleId with
  | none => exact ⟨_, rfl⟩
  | some role =>
    obtain ⟨name, payload, hrole, rfl⟩ := h.roles.getApproleByRoleId.mp hfind
    have hclosed := hno name payload
    by_cases hbind : payload.bindSecretId = true
    · dsimp only
      rw [if_pos (show (roleRow name (roleId, payload)).bindSecretId = true from hbind)]
      by_cases hempty : presented.getD "" = ""
      · rw [if_pos hempty]
        exact ⟨_, rfl⟩
      · obtain ⟨raw, rfl⟩ : ∃ raw, presented = some raw := by
          cases presented with
          | none => exact absurd rfl hempty
          | some raw => exact ⟨raw, rfl⟩
        have hconsume := @consumeSecretId_none K.digest hist name s.secrets t.lookup raw h.secrets
          (fun x hx => hnew.digests x hx raw (.inr (Option.mem_toList.mpr rfl)))
          fun g hg hname hsecret => hclosed ⟨hrole, fun _ => ⟨g, hg, hname, hsecret ▸ rfl,
            hsecret ▸ hempty⟩⟩
        have hname : (roleRow name (roleId, payload)).name = name := rfl
        rw [if_neg hempty]
        simp only [Option.getD_some, hname, hconsume]
        exact ⟨_, rfl⟩
    · exact absurd ⟨hrole, fun hb => absurd hb hbind⟩ hclosed

theorem Recorded.of_quiet (h : Recorded digest hist s) (hroles : RoleQuiet e)
    (hsecrets : SecretQuiet hist e) (hkeep : ∀ raw, ¬ Revokes raw e) :
    Recorded digest (e :: hist) s :=
  ⟨h.roles.of_quiet hroles, h.secrets.of_quiet hsecrets, h.tokens.of_same hkeep⟩

theorem Recorded.of_error (h : Recorded digest hist s) (c : AppAuthCall) (f : TokenFailure) :
    Recorded digest ((c, .error f) :: hist) s := by
  refine h.of_quiet (roleQuiet_of_error c f) (secretQuiet_of_error c f) ?_
  rintro raw ⟨_, answer, hres⟩
  cases hres

theorem Recorded.createRole (h : Recorded K.digest hist s) {payload : AppRoleRoleRequest}
    {freshId : String} (hnew : NewCall K.digest hist ⟨t, .createRole name payload freshId⟩) :
    Recorded K.digest ((⟨t, .createRole name payload freshId⟩,
      (approleCreateRole s name payload freshId).2) :: hist)
      (approleCreateRole s name payload freshId).1 := by
  unfold approleCreateRole
  split
  · exact h.of_error _ _
  · dsimp only
    split
    · exact h.of_error _ _
    · rename_i roles' hcreate
      refine ⟨?_, h.secrets.of_quiet (secretQuiet_of_ne (fun _ _ => rfl) nofun nofun nofun),
        h.tokens.of_same ?_⟩
      · exact h.roles.createRole (hnew.undrawn freshId (List.mem_singleton_self _)) rfl hcreate
      · rintro raw ⟨hreq, _⟩
        cases hreq

theorem Recorded.generateSecretId (h : Recorded K.digest hist s)
    {payload : AppRoleSecretIdRequest} {accessor secretId : String}
    (hnew : NewCall K.digest hist ⟨t, .generateSecretId name payload accessor secretId⟩) :
    Recorded K.digest ((⟨t, .generateSecretId name payload accessor secretId⟩,
      (approleGenerateSecretId K s t name payload accessor secretId).2) :: hist)
      (approleGenerateSecretId K s t name payload accessor secretId).1 := by
  unfold approleGenerateSecretId
  rw [h.roles.rows]
  cases hrole : standing name hist with
  | none => exact h.of_error _ _
  | some role =>
    dsimp only [Option.map_some]
    split
    · exact h.of_error _ _
    · rename_i secrets' hcreate
      refine ⟨h.roles.of_quiet fun _ _ => rfl, ?_, h.tokens.of_same ?_⟩
      · exact @SecretsRecorded.generate K.digest hist
          ⟨name, payload, accessor, secretId, role.2, t.store⟩ s.secrets secrets' s.roles
          ⟨t, .generateSecretId name payload accessor secretId⟩ h.secrets rfl rfl
          ⟨role.1, hrole⟩ (hnew.undrawn accessor List.mem_cons_self)
          (hnew.undrawn secretId (List.mem_cons_of_mem _ List.mem_cons_self))
          (by simpa [AppRoles.newSecretId, roleRow, secretRow, Generation.expiry, Generation.ttl]
            using hcreate)
      · rintro raw ⟨hreq, _⟩
        cases hreq

theorem Recorded.login (h : Recorded K.digest hist s) {body : Except String AppRoleLoginRequest}
    (hnew : NewCall K.digest hist ⟨t, .login body drawn⟩) :
    Recorded K.digest ((⟨t, .login body drawn⟩, (approleLogin K s t body drawn).2) :: hist)
      (approleLogin K s t body drawn).1 := by
  cases body with
  | error e => exact h.of_error _ _
  | ok request =>
    obtain ⟨roleId, presented⟩ := request
    by_cases ho : ∃ name payload, Opens hist t.lookup roleId presented name payload
    · obtain ⟨name, payload, ho⟩ := ho
      obtain ⟨hres, hrecorded⟩ := approleLogin_of_opens h hnew ho
      rw [hres]
      exact hrecorded
    · obtain ⟨f, hres⟩ := approleLogin_of_not h hnew fun name payload hopens =>
        ho ⟨name, payload, hopens⟩
      rw [hres]
      exact h.of_error _ _

theorem mem_of_issueAppToken {tokens tokens' : AppTokens} {new token : AppToken}
    (h : AppTokenDb.issueAppToken tokens new = .ok tokens') (htoken : token ∈ tokens') :
    token ∈ tokens ∨ token = new := by
  unfold AppTokenDb.issueAppToken at h
  split at h
  · cases h
  · cases h
    exact Table.mem_insert.mp htoken

theorem kubernetes_tokens (json : List String → String) (request : K8sRequest) (token : AppToken)
    (htoken : token ∈ (kubernetes K json s request).1.tokens) : token ∈ s.tokens ∨
      ∃ raw, Grants hist (⟨t, .kubernetes request⟩, (kubernetes K json s request).2) raw
        token.entity token.policies ∧ token.tokenHash = K.digest raw := by
  cases request with
  | login m body =>
    simp only [kubernetes, Kubernetes.handle, Kubernetes.k8sLogin] at htoken ⊢
    split at htoken
    · exact .inl htoken
    · split at htoken
      · exact .inl htoken
      · split at htoken
        · exact .inl htoken
        · split at htoken
          · exact .inl htoken
          · split at htoken
            · exact .inl htoken
            · rename_i hissue
              rcases mem_of_issueAppToken hissue htoken with hold | rfl
              · exact .inl hold
              · exact .inr ⟨m.drawn, .kubernetes rfl rfl, rfl⟩
  | _ => exact .inl htoken

theorem Recorded.kubernetes (h : Recorded K.digest hist s) (json : List String → String)
    (request : K8sRequest) :
    Recorded K.digest ((⟨t, .kubernetes request⟩, (kubernetes K json s request).2) :: hist)
      (kubernetes K json s request).1 := by
  refine ⟨h.roles.of_quiet fun _ _ => rfl,
    h.secrets.of_quiet (secretQuiet_of_ne (fun _ _ => rfl) nofun nofun nofun),
    h.tokens.cons fun token htoken => ?_⟩
  rcases kubernetes_tokens json request token htoken with hold | hgrants
  · refine .inl ⟨token, hold, rfl, rfl, rfl, ?_⟩
    rintro raw _ ⟨hreq, _⟩
    cases hreq
  · exact .inr hgrants

theorem selfService_tokens {request : TokenRequest} (token : AppToken)
    (hissue : ∀ raw entity policies lease renewable,
      request ≠ .issue raw entity policies lease renewable)
    (htoken : token ∈ (selfService K s t request).1.tokens) :
    ∃ old ∈ s.tokens, token.entity = old.entity ∧ token.policies = old.policies ∧
      token.tokenHash = old.tokenHash ∧ ∀ raw, K.digest raw = old.tokenHash →
        request = .revokeSelf (some raw) → ¬ ∃ answer, (selfService K s t request).2 = .ok answer := by
  rcases AppTokenEndpoints.mem_step_iff.mp htoken with ⟨old, hold, hrevokes, rfl⟩ |
    ⟨raw, entity, policies, lease, renewable, hreq, _⟩
  · refine ⟨old, hold, ?_, ?_, ?_, ?_⟩
    · unfold AppTokenEndpoints.carried
      split <;> rfl
    · unfold AppTokenEndpoints.carried
      split <;> rfl
    · unfold AppTokenEndpoints.carried
      split <;> rfl
    · rintro raw hraw rfl ⟨answer, hres⟩
      obtain ⟨answer', hanswer, _⟩ : ∃ answer', (AppTokenEndpoints.handle K.digest s.tokens
          ⟨t, .revokeSelf (some raw)⟩).result = .ok answer' ∧ _ = answer := by
        cases hr : (AppTokenEndpoints.handle K.digest s.tokens ⟨t, .revokeSelf (some raw)⟩).result with
        | error f =>
          simp only [selfService, hr] at hres
          cases hres
        | ok answer' => exact ⟨answer', rfl, rfl⟩
      obtain ⟨raw', found, hheader, hfound, _⟩ := AppTokenEndpoints.appTokenExtract_ok hanswer
      cases hheader
      simp [AppTokenEndpoints.revokes, ← hraw, hfound] at hrevokes
  · exact absurd hreq (hissue raw entity policies lease renewable)

theorem Recorded.selfService (h : Recorded K.digest hist s) {request : TokenRequest}
    {c : AppAuthCall} (hroles : RoleQuiet (c, (selfService K s t request).2))
    (hsecrets : SecretQuiet hist (c, (selfService K s t request).2))
    (hissue : ∀ raw entity policies lease renewable,
      request ≠ .issue raw entity policies lease renewable)
    (hrevoke : ∀ raw, c.request = .revokeSelf (some raw) → request = .revokeSelf (some raw)) :
    Recorded K.digest ((c, (selfService K s t request).2) :: hist)
      (selfService K s t request).1 := by
  refine ⟨h.roles.of_quiet hroles, h.secrets.of_quiet hsecrets, h.tokens.cons fun token htoken => ?_⟩
  obtain ⟨old, hold, hentity, hpolicies, hhash, hkeep⟩ := selfService_tokens token hissue htoken
  refine .inl ⟨old, hold, hentity, hpolicies, hhash, ?_⟩
  rintro raw hraw ⟨hreq, hanswer⟩
  exact hkeep raw hraw (hrevoke raw hreq) hanswer

theorem Recorded.step (h : Recorded K.digest hist s) (json : List String → String)
    {c : AppAuthCall} (hnew : NewCall K.digest hist c) :
    Recorded K.digest ((c, (handle K json s c).2) :: hist) (handle K json s c).1 := by
  obtain ⟨t, request⟩ := c
  have hread {s' : AppAuthState} {request : AppAuthRequest} {result : AppAuthResult} (hs : s' = s)
      (hroles : RoleQuiet (⟨t, request⟩, result)) (hsecrets : SecretQuiet hist (⟨t, request⟩, result))
      (hkeep : ∀ raw, request ≠ .revokeSelf (some raw)) :
      Recorded K.digest ((⟨t, request⟩, result) :: hist) s' := by
    rw [hs]
    exact h.of_quiet hroles hsecrets fun raw hraw => hkeep raw hraw.1
  cases request with
  | createRole name payload freshId => exact h.createRole hnew
  | getRole name =>
    refine hread ?_ (fun _ _ => rfl) (secretQuiet_of_ne (fun _ _ => rfl) nofun nofun nofun) nofun
    simp only [handle, approleGetRole]
    split <;> rfl
  | getRoleId name =>
    refine hread ?_ (fun _ _ => rfl) (secretQuiet_of_ne (fun _ _ => rfl) nofun nofun nofun) nofun
    simp only [handle, approleGetRoleId]
    split <;> rfl
  | listRoles =>
    exact hread rfl (fun _ _ => rfl) (secretQuiet_of_ne (fun _ _ => rfl) nofun nofun nofun) nofun
  | deleteRole name =>
    refine ⟨h.roles.deleteRole, h.secrets.deleteRole, h.tokens.of_same ?_⟩
    rintro raw ⟨hreq, _⟩
    cases hreq
  | generateSecretId name payload accessor secretId => exact h.generateSecretId hnew
  | destroySecretId name accessor =>
    refine ⟨h.roles.of_quiet fun _ _ => rfl, h.secrets.destroy, h.tokens.of_same ?_⟩
    rintro raw ⟨hreq, _⟩
    cases hreq
  | login body drawn => exact h.login hnew
  | kubernetes request => exact h.kubernetes json request
  | lookupSelf header =>
    exact h.selfService (fun _ _ => rfl) (secretQuiet_of_ne (fun _ _ => rfl) nofun nofun nofun)
      nofun nofun
  | renewSelf header =>
    exact h.selfService (fun _ _ => rfl) (secretQuiet_of_ne (fun _ _ => rfl) nofun nofun nofun)
      nofun nofun
  | revokeSelf header =>
    refine h.selfService (fun _ _ => rfl) (secretQuiet_of_ne (fun _ _ => rfl) nofun nofun nofun)
      nofun fun raw hreq => ?_
    cases hreq
    rfl

end

theorem Ordinary.newCall {calls pre post : List AppAuthCall} {c : AppAuthCall}
    (h : Ordinary digest calls) (hsplit : calls = pre ++ c :: post)
    (hinputs : hist.map Prod.fst = pre.reverse) : NewCall digest hist c := by
  have hdrawn (x : String) : x ∈ drawnIn hist ↔ ∃ c ∈ pre, x ∈ c.draws := by
    rw [drawnIn, hinputs]
    simp
  have hmem : c ∈ calls := by simp [hsplit]
  constructor
  · intro x hx hold
    have hnodup := h.drawnOnce
    rw [hsplit, List.flatMap_append, List.nodup_append] at hnodup
    exact hnodup.2.2 x (List.mem_flatMap.mpr ((hdrawn x).mp hold)) x
      (List.mem_flatMap.mpr ⟨c, List.mem_cons_self, hx⟩) rfl
  · intro x hx y hy hsame
    obtain ⟨c', hc', hx⟩ := (hdrawn x).mp hx
    exact h.digests ⟨c', by simp [hsplit, hc'], .inl hx⟩ ⟨c, hmem, hy⟩ hsame

theorem Ordinary.of_append {calls : List AppAuthCall} {c : AppAuthCall}
    (h : Ordinary digest (calls ++ [c])) : Ordinary digest calls where
  drawnOnce := by
    have hnodup := h.drawnOnce
    rw [List.flatMap_append, List.nodup_append] at hnodup
    exact hnodup.1
  digests := by
    refine h.digests.mono ?_
    rintro x ⟨c', hc', hx⟩
    exact ⟨c', List.mem_append_left _ hc', hx⟩

variable {K : K8sCrates} {calls : List AppAuthCall}

theorem recorded_run (json : List String → String) (h : Ordinary K.digest calls) :
    Recorded K.digest (transcript (handle K json) {} calls) (after (handle K json) {} calls) ∧
      (transcript (handle K json) {} calls).map Prod.fst = calls.reverse := by
  refine transcript_invariant (handle K json) (Recorded K.digest)
    (fun pre c => ∃ post, calls = pre ++ c :: post) ?_ ?_ calls
    fun pre c post hsplit => ⟨post, hsplit⟩
  · have hnone (g : Generation) : ¬ Outstanding [] g := not_since_nil
    refine ⟨⟨fun _ => rfl, nofun, nofun⟩, ⟨fun row => ?_, fun g hg => absurd hg (hnone g),
      fun g _ hg => absurd hg (hnone g), fun _ _ _ => rfl⟩, ?_⟩
    · exact ⟨fun hrow => absurd hrow Table.mem_empty, fun ⟨g, hg, _⟩ => absurd hg (hnone g)⟩
    · exact fun token htoken => absurd htoken Table.mem_empty
  · rintro hist s c pre hI hinputs ⟨post, hsplit⟩
    exact hI.step json (h.newCall hsplit hinputs)

/-- After every run, an AppRole login is granted exactly if a role stands with that id that asks for
no secret-ID, or gets one that was generated for it, has been withdrawn neither by itself nor with
the role, is within its time and has opened the role less often than it was granted for; the answer
is by the role's settings of that moment. -/
theorem approle_login_granted_iff (json : List String → String) (t : TokenTimes)
    (roleId drawn : String) (presented : Option String) (auth : AppAuthData)
    (h : Ordinary K.digest (calls ++ [⟨t, .login (.ok ⟨roleId, presented⟩) drawn⟩])) :
    (handle K json (after (handle K json) {} calls)
        ⟨t, .login (.ok ⟨roleId, presented⟩) drawn⟩).2 = .ok (.loggedIn auth) ↔
      ∃ name payload, Opens (transcript (handle K json) {} calls) t.lookup roleId presented name
        payload ∧ auth = granted (roleRow name (roleId, payload)) drawn := by
  obtain ⟨hrecorded, hinputs⟩ := recorded_run json h.of_append
  have hnew := h.newCall rfl hinputs
  constructor
  · intro hres
    by_cases ho : ∃ name payload, Opens (transcript (handle K json) {} calls) t.lookup roleId
        presented name payload
    · obtain ⟨name, payload, ho⟩ := ho
      have hgranted := (approleLogin_of_opens hrecorded hnew ho).1
      cases hgranted.symm.trans hres
      exact ⟨name, payload, ho, rfl⟩
    · obtain ⟨f, hrefused⟩ := approleLogin_of_not hrecorded hnew fun name payload hopens =>
        ho ⟨name, payload, hopens⟩
      cases (congrArg Prod.snd hrefused).symm.trans hres
  · rintro ⟨name, payload, ho, rfl⟩
    exact (approleLogin_of_opens hrecorded hnew ho).1

end

theorem ordered_within (now : Int) : now ≤ now ∧ now ≤ now ∧ now ≤ now ∧ now ≤ now := by
  omega

def appAuthCall (now : Int) (request : AppAuthRequest) : AppAuthCall :=
  ⟨⟨now, now, now, now, now, ordered_within now⟩, request⟩

def firstLogin : List AppAuthCall :=
  [appAuthCall 10 (.createRole "ci" ⟨600, 3600, ["deploy"], true⟩ "role-1"),
    appAuthCall 20 (.generateSecretId "ci" ⟨0, 2⟩ "accessor-1" "secret-1"),
    appAuthCall 30 (.login (.ok ⟨"role-1", some "secret-1"⟩) "hvs.a")]

theorem mem_texts_of_firstLogin {c : AppAuthCall} (hc : c ∈ firstLogin) {x : String}
    (hx : x ∈ c.draws ∨ x ∈ c.presents) :
    x ∈ ["role-1", "accessor-1", "secret-1", "hvs.a", "hvs.b"] := by
  simp only [firstLogin, List.mem_cons, List.not_mem_nil, or_false] at hc
  rcases hc with rfl | rfl | rfl
  all_goals
    simp [appAuthCall, AppAuthCall.draws, AppAuthCall.presents] at hx
    simp
    tauto

theorem ordinary_firstLogin {calls : List AppAuthCall}
    (hnodup : ((firstLogin ++ calls).flatMap AppAuthCall.draws).Nodup)
    (htexts : ∀ c ∈ calls, ∀ x, x ∈ c.draws ∨ x ∈ c.presents →
      x ∈ ["role-1", "accessor-1", "secret-1", "hvs.a", "hvs.b"]) :
    Ordinary Kubernetes.clearCrates.digest (firstLogin ++ calls) := by
  have hmem {x : String} (hx : ∃ c ∈ firstLogin ++ calls, x ∈ c.draws ∨ x ∈ c.presents) :
      x ∈ ["role-1", "accessor-1", "secret-1", "hvs.a", "hvs.b"] := by
    obtain ⟨c, hc, hx⟩ := hx
    rcases List.mem_append.mp hc with hc | hc
    · exact mem_texts_of_firstLogin hc hx
    · exact htexts c hc x hx
  have hinj : ∀ x ∈ ["role-1", "accessor-1", "secret-1", "hvs.a", "hvs.b"],
      ∀ y ∈ ["role-1", "accessor-1", "secret-1", "hvs.a", "hvs.b"],
      Kubernetes.clearCrates.digest x = Kubernetes.clearCrates.digest y → x = y := by
    decide
  exact ⟨hnodup, fun x hx y hy => hinj x (hmem hx) y (hmem hy)⟩

/-- The second login is granted too. -/
theorem approle_login_granted_iff_second :
    ∃ name payload,
      Opens (transcript (handle Kubernetes.clearCrates (fun _ => "[]")) {} firstLogin) 40 "role-1"
        (some "secret-1") name payload ∧
      ({ clientToken := "hvs.b", renewable := true, leaseDuration := 3600, policies := ["deploy"]
         metadata := [("role_name", "ci")] } : AppAuthData) =
        granted (roleRow name ("role-1", payload)) "hvs.b" :=
  (approle_login_granted_iff (fun _ => "[]")
    (appAuthCall 40 (.login (.ok ⟨"role-1", some "secret-1"⟩) "hvs.b")).times "role-1" "hvs.b"
    (some "secret-1") _
    (ordinary_firstLogin (by decide)
      (by simp [AppAuthCall.draws, AppAuthCall.presents]))).mp
    (by decide)

section
variable {K : K8sCrates} {calls : List AppAuthCall}

/-- After every run, what is shown of a token was granted by a login of that run that was let in:
its holder and its policies are those of that moment, whatever has become of the role, and nobody
has revoked it since. -/
theorem shown_token_held (json : List String → String) (t : TokenTimes) (raw : String)
    (data : AppTokenData) (h : Ordinary K.digest (calls ++ [⟨t, .lookupSelf (some raw)⟩]))
    (hshown : (handle K json (after (handle K json) {} calls) ⟨t, .lookupSelf (some raw)⟩).2 =
      .ok (.token (.lookedUp data))) :
    data.id = raw ∧
      Held (transcript (handle K json) {} calls) raw data.entityId data.policies := by
  obtain ⟨hrecorded, hinputs⟩ := recorded_run json h.of_append
  have hnew := h.newCall rfl hinputs
  have hanswer : (AppTokenEndpoints.handle K.digest (after (handle K json) {} calls).tokens
      ⟨t, .lookupSelf (some raw)⟩).result = .ok (.lookedUp data) := by
    cases hr : (AppTokenEndpoints.handle K.digest (after (handle K json) {} calls).tokens
        ⟨t, .lookupSelf (some raw)⟩).result with
    | error f =>
      simp only [handle, selfService, hr] at hshown
      cases hshown
    | ok answer =>
      simp only [handle, selfService, hr] at hshown
      cases hshown
      rfl
  obtain ⟨raw', found, hheader, hfound, hshow⟩ := AppTokenEndpoints.appTokenExtract_ok hanswer
  cases hheader
  obtain ⟨_, hhash, _⟩ := AppTokenEndpoints.lookupAppToken_eq_some_iff.mp hfound
  simp only [AppTokenEndpoints.lookupSelf, AppTokenClaims.fromDb, hhash] at hshow
  split at hshow
  · cases hshow
  · rename_i token hreread
    cases hshow
    obtain ⟨hmem, hkey, _⟩ := AppTokenEndpoints.lookupAppToken_eq_some_iff.mp hreread
    obtain ⟨raw', hheld, hraw⟩ := hrecorded.tokens token hmem
    obtain rfl := hnew.digests raw' hheld.drawn raw
      (.inr (Option.mem_toList.mpr rfl)) (hraw.symm.trans hkey)
    exact ⟨rfl, hheld⟩

end

/-- The token of the first login, after its role is gone. -/
theorem shown_token_held_after_role :
    Held (transcript (handle Kubernetes.clearCrates (fun _ => "[]")) {}
      (firstLogin ++ [appAuthCall 40 (.deleteRole "ci")])) "hvs.a" "ci" ["deploy"] :=
  (shown_token_held (fun _ => "[]") (appAuthCall 50 (.lookupSelf (some "hvs.a"))).times "hvs.a"
    { id := "hvs.a", entityId := "ci", policies := ["deploy"], renewable := true, ttl := 3580
      creationTime := 30 }
    (by
      rw [List.append_assoc]
      exact ordinary_firstLogin (by decide)
        (by simp [appAuthCall, AppAuthCall.draws, AppAuthCall.presents]))
    (by decide)).2

end AppAuth
end AuthVerifier
