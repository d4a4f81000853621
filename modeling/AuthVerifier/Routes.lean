import AuthVerifier.Lib.Routing
import AuthVerifier.Lib.UrlPath

/-!
The routes of the server, following `build_app` of `auth_verifier.rs` and the route attributes of
the handlers. Scopes and resources stand in the order in which they are registered; the layers of a
scope are its middlewares, the one that was wrapped last first. The static files of the
administration page are not among them.
-/

set_option autoImplicit false

namespace AuthVerifier
open Routing

inductive Method where
  | get | post | put | delete
  | other (name : String)
  deriving DecidableEq

inductive Layer where
  | permissiveCors | adminCors | loginRateLimit | extractRealm | injectAdminRealm
  | usernamePasswordAuth | jwtAuth | ensureAuth | cookieAuthSameServer | adminAuth
  | appTokenExtract
  deriving DecidableEq

inductive Handler where
  | versionEndpoint | rolesEndpoint | openapiYamlEndpoint | swaggerUiEndpoint
  | jwksWellKnown | certificateJwksWellKnown | login | whoami | certify
  | upsertSession | getSessionById | getSession | getSessionsForClients | deleteSessions
  | deleteExpiredSessions | deleteSessionsForRealm
  | createRealm | getRealm | updateRealm | deleteRealm | listRealms
  | createUserpass | getUserpass | updateUserpass | deleteUserpass | listUserpassByRealm
  | totpGenerate | totpVerify | totpDisable
  | listAllUserpass | listAdmins | createAdmin | getAdmin | updateAdmin | deleteAdmin
  | addAdminToRealm | removeAdminFromRealm
  | approleLogin | k8sLogin
  | approleCreateRole | approleGetRoleId | approleGenerateSecretId | approleDestroySecretId
  | approleDeleteRole | approleGetRole | approleListRoles
  | k8sCreateRole | k8sDeleteRole | k8sGetRole | k8sListRoles
  | authTokenLookupSelf | authTokenRenewSelf | authTokenRevokeSelf
  | samlLogin | samlAcs | samlMetadata
  deriving DecidableEq

def Handler.attributes : Handler → List Method × List Segment
  | .versionEndpoint => ([.get], [.literal "version"])
  | .rolesEndpoint => ([.get], [.literal "roles"])
  | .openapiYamlEndpoint => ([.get], [.literal "openapi.yaml"])
  | .swaggerUiEndpoint => ([.get], [.literal "swagger-ui"])
  | .jwksWellKnown => ([.get], [.literal "jwks.json"])
  | .certificateJwksWellKnown => ([.get], [.literal "certificate-jwks.json"])
  | .login => ([.post], [])
  | .whoami => ([.get], [])
  | .certify => ([.post], [])
  | .upsertSession => ([.post], [])
  | .getSessionById => ([.get], [.dynamic])
  | .getSession => ([.post], [.dynamic])
  | .getSessionsForClients => ([.post], [.literal "realms", .dynamic, .literal "clients"])
  | .deleteSessions => ([.delete], [])
  | .deleteExpiredSessions => ([.delete], [.literal "expired"])
  | .deleteSessionsForRealm => ([.delete], [.literal "realms", .dynamic])
  | .createRealm => ([.post], [])
  | .getRealm => ([.get], [.dynamic])
  | .updateRealm => ([.put], [.dynamic])
  | .deleteRealm => ([.delete], [.dynamic])
  | .listRealms => ([.get], [])
  | .createUserpass => ([.post], [.dynamic, .literal "userpass"])
  | .getUserpass => ([.get], [.dynamic, .literal "userpass", .dynamic])
  | .updateUserpass => ([.put], [.dynamic, .literal "userpass", .dynamic])
  | .deleteUserpass => ([.delete], [.dynamic, .literal "userpass", .dynamic])
  | .listUserpassByRealm => ([.get], [.dynamic, .literal "userpass"])
  | .totpGenerate => ([.post], [.dynamic, .literal "totp", .literal "generate"])
  | .totpVerify => ([.post], [.dynamic, .literal "totp", .literal "verify"])
  | .totpDisable => ([.delete], [.dynamic, .literal "totp", .dynamic])
  | .listAllUserpass => ([.get], [.literal "userpass"])
  | .listAdmins => ([.get], [])
  | .createAdmin => ([.post], [])
  | .getAdmin => ([.get], [.dynamic])
  | .updateAdmin => ([.put], [.dynamic])
  | .deleteAdmin => ([.delete], [.dynamic])
  | .addAdminToRealm => ([.put], [.dynamic, .literal "realms", .dynamic])
  | .removeAdminFromRealm => ([.delete], [.dynamic, .literal "realms", .dynamic])
  | .approleLogin => ([.post, .put], [])
  | .k8sLogin => ([.post], [])
  | .approleCreateRole => ([.post], [.literal "role", .dynamic])
  | .approleGetRoleId => ([.get], [.literal "role", .dynamic, .literal "role-id"])
  | .approleGenerateSecretId => ([.post], [.literal "role", .dynamic, .literal "secret-id"])
  | .approleDestroySecretId =>
      ([.post], [.literal "role", .dynamic, .literal "secret-id", .literal "destroy"])
  | .approleDeleteRole => ([.delete], [.literal "role", .dynamic])
  | .approleGetRole => ([.get], [.literal "role", .dynamic])
  | .approleListRoles => ([.get], [.literal "role"])
  | .k8sCreateRole => ([.post], [.literal "role", .dynamic])
  | .k8sDeleteRole => ([.delete], [.literal "role", .dynamic])
  | .k8sGetRole => ([.get], [.literal "role", .dynamic])
  | .k8sListRoles => ([.get], [.literal "role"])
  | .authTokenLookupSelf => ([.get], [.literal "lookup-self"])
  | .authTokenRenewSelf => ([.post], [.literal "renew-self"])
  | .authTokenRevokeSelf => ([.post], [.literal "revoke-self"])
  | .samlLogin => ([.get], [.dynamic, .literal "login"])
  | .samlAcs => ([.post], [.dynamic, .literal "acs"])
  | .samlMetadata => ([.get], [.dynamic, .literal "metadata"])

abbrev AppScope := Scope Method Layer Handler

def Handler.resource (h : Handler) : Resource Method Handler := ⟨h.attributes.1, h.attributes.2, h⟩

structure Features where
  swaggerUi : Bool
  saml : Bool
  deriving DecidableEq

section
variable (features : Features)

def publicHandlers : List Handler :=
  if features.swaggerUi then
    [.versionEndpoint, .rolesEndpoint, .openapiYamlEndpoint, .swaggerUiEndpoint]
  else [.versionEndpoint, .rolesEndpoint]

def publicScope : AppScope where
  base := ["public"]
  layers := [.permissiveCors]
  resources := (publicHandlers features).map Handler.resource

def wellKnownScope : AppScope where
  base := [".well-known"]
  layers := [.permissiveCors]
  resources := [.jwksWellKnown, .certificateJwksWellKnown].map Handler.resource

def clientScope : AppScope where
  base := ["login"]
  layers := [.permissiveCors, .loginRateLimit, .extractRealm, .usernamePasswordAuth, .jwtAuth,
    .ensureAuth]
  resources := [Handler.login].map Handler.resource

def whoamiScope : AppScope where
  base := ["whoami"]
  layers := [.adminCors, .extractRealm, .cookieAuthSameServer]
  resources := [Handler.whoami].map Handler.resource

def certifyScope : AppScope where
  base := ["certify"]
  layers := [.adminCors, .cookieAuthSameServer]
  resources := [Handler.certify].map Handler.resource

def sessionsScope : AppScope where
  base := ["sessions"]
  layers := [.adminCors, .extractRealm, .cookieAuthSameServer]
  resources := [.upsertSession, .getSessionById, .getSession, .getSessionsForClients,
    .deleteSessions, .deleteExpiredSessions, .deleteSessionsForRealm].map Handler.resource

def realmsCrudScope : AppScope where
  base := ["admins", "realms"]
  layers := [.adminCors, .injectAdminRealm, .cookieAuthSameServer, .adminAuth]
  resources := [.createRealm, .getRealm, .updateRealm, .deleteRealm, .listRealms].map
    Handler.resource

def appScope : AppScope where
  base := ["realms"]
  layers := [.adminCors, .extractRealm, .cookieAuthSameServer, .adminAuth]
  resources := [.createUserpass, .getUserpass, .updateUserpass, .deleteUserpass,
    .listUserpassByRealm, .totpGenerate, .totpVerify, .totpDisable].map Handler.resource

def adminsScope : AppScope where
  base := ["admins"]
  layers := [.adminCors, .injectAdminRealm, .cookieAuthSameServer, .adminAuth]
  resources := [.listAllUserpass, .listAdmins, .createAdmin, .getAdmin, .updateAdmin,
    .deleteAdmin, .addAdminToRealm, .removeAdminFromRealm].map Handler.resource

def approleLoginScope : AppScope where
  base := ["auth", "approle", "login"]
  layers := [.permissiveCors]
  resources := [Handler.approleLogin].map Handler.resource

def k8sLoginScope : AppScope where
  base := ["auth", "kubernetes", "login"]
  layers := [.permissiveCors]
  resources := [Handler.k8sLogin].map Handler.resource

def approleAdminScope : AppScope where
  base := ["auth", "approle"]
  layers := [.adminCors, .cookieAuthSameServer, .adminAuth]
  resources := [.approleCreateRole, .approleGetRoleId, .approleGenerateSecretId,
    .approleDestroySecretId, .approleDeleteRole, .approleGetRole, .approleListRoles].map
      Handler.resource

def k8sAdminScope : AppScope where
  base := ["auth", "kubernetes"]
  layers := [.adminCors, .cookieAuthSameServer, .adminAuth]
  resources := [.k8sCreateRole, .k8sDeleteRole, .k8sGetRole, .k8sListRoles].map Handler.resource

def authTokenScope : AppScope where
  base := ["auth", "token"]
  layers := [.permissiveCors, .appTokenExtract]
  resources := [.authTokenLookupSelf, .authTokenRenewSelf, .authTokenRevokeSelf].map
    Handler.resource

def samlScope : AppScope where
  base := ["saml"]
  layers := [.loginRateLimit]
  resources := [.samlLogin, .samlAcs, .samlMetadata].map Handler.resource

def buildApp : List AppScope :=
  [publicScope features, wellKnownScope, clientScope, whoamiScope, certifyScope, sessionsScope,
    realmsCrudScope, appScope, adminsScope, approleLoginScope, k8sLoginScope, approleAdminScope,
    k8sAdminScope, authTokenScope] ++ if features.saml then [samlScope] else []

end

section
variable {features : Features} {app' : List AppScope}

theorem buildApp_distinct (features : Features) : Distinct (buildApp features) := by
  obtain ⟨swaggerUi, saml⟩ := features
  constructor
  · cases saml <;> cases swaggerUi <;> decide
  · cases saml <;> cases swaggerUi <;> decide

theorem overlapping_scopes (features : Features) : ∀ a ∈ (buildApp features).map Scope.base,
    ∀ b ∈ (buildApp features).map Scope.base, (a.isPrefixOf b ∨ b.isPrefixOf a) →
      [a, b].Sublist ((buildApp features).map Scope.base) →
      (a, b) ∈ [(realmsCrudScope.base, adminsScope.base),
        (approleLoginScope.base, approleAdminScope.base),
        (k8sLoginScope.base, k8sAdminScope.base)] := by
  obtain ⟨swaggerUi, saml⟩ := features
  cases saml <;> cases swaggerUi <;> decide

theorem overlapping_resources (features : Features) : ∀ s ∈ buildApp features,
    ∀ r ∈ s.resources, ∀ t ∈ s.resources, r.overlaps t = true → [r, t].Sublist s.resources →
      s.base = adminsScope.base ∧ r = Handler.resource .listAllUserpass ∧
        t = Handler.resource .getAdmin := by
  obtain ⟨swaggerUi, saml⟩ := features
  cases saml <;> cases swaggerUi <;> decide

/-- The order that `build_app` has to keep. -/
structure KeepsOrder (app' : List AppScope) : Prop where
  realms : [realmsCrudScope.base, adminsScope.base].Sublist (app'.map Scope.base)
  approle : [approleLoginScope.base, approleAdminScope.base].Sublist (app'.map Scope.base)
  kubernetes : [k8sLoginScope.base, k8sAdminScope.base].Sublist (app'.map Scope.base)
  userpass : ∀ s ∈ app', s.base = adminsScope.base →
    [Handler.resource .listAllUserpass, Handler.resource .getAdmin].Sublist s.resources

theorem KeepsOrder.keepsOverlaps (h : KeepsOrder app') (features : Features) :
    KeepsOverlaps app' (buildApp features) := by
  constructor
  · intro a b hbefore hoverlap
    have hmem := overlapping_scopes features a (hbefore.subset List.mem_cons_self) b
      (hbefore.subset (by simp)) hoverlap hbefore
    simp only [List.mem_cons, Prod.mk.injEq, List.not_mem_nil, or_false] at hmem
    rcases hmem with ⟨rfl, rfl⟩ | ⟨rfl, rfl⟩ | ⟨rfl, rfl⟩
    · exact h.realms
    · exact h.approle
    · exact h.kubernetes
  · intro s hs s' hs' hbase r t hbefore hoverlap
    obtain ⟨hadmins, rfl, rfl⟩ := overlapping_resources features s hs r
      (hbefore.subset List.mem_cons_self) t (hbefore.subset (by simp)) hoverlap hbefore
    exact h.userpass s' hs' (hbase.trans hadmins)

theorem scope_before (h : Reordered app' (buildApp features)) {s t : AppScope}
    (hs : s ∈ buildApp features) (ht : t ∈ buildApp features) (hne : s.base ≠ t.base)
    {method : Method} {path values : List String} {handler : Handler}
    (hanswer : (dispatch app' method path).2 = some (handler, values))
    (hforeign : handler ∉ t.resources.map Resource.handler) (hwant : t.base.isPrefixOf path = true)
    (honly : ∀ a ∈ (buildApp features).map Scope.base, a.isPrefixOf path = true →
      a = t.base ∨ a = s.base) :
    [s.base, t.base].Sublist (app'.map Scope.base) := by
  have hmem : ∀ u ∈ buildApp features, u.base ∈ app'.map Scope.base := fun u hu =>
    h.perm_bases.mem_iff.mpr (List.mem_map_of_mem hu)
  rcases before_or_before (hmem s hs) (hmem t ht) hne with hbefore | hbefore
  · exact hbefore
  · exfalso
    have hnodup := h.perm_bases.nodup_iff.mpr (buildApp_distinct features).bases
    have hfind := @find?_eq_some_of_before _ (fun base => base.isPrefixOf path) _ _ _ hnodup
      hbefore hwant fun a ha => honly a (h.perm_bases.mem_iff.mp ha)
    rw [List.find?_map, Option.map_eq_some_iff] at hfind
    obtain ⟨t', ht', hbase⟩ := hfind
    have hfind' : app'.find? (fun s => s.base.isPrefixOf path) = some t' := ht'
    rw [dispatch, hfind'] at hanswer
    obtain ⟨r, hr, rfl, _⟩ := Scope.answer_eq_some hanswer
    have hperm := h.resources t ht t' (List.mem_of_find?_eq_some ht') hbase
    exact hforeign (List.mem_map_of_mem (hperm.mem_iff.mp hr))

theorem userpass_before (h : Reordered app' (buildApp features))
    (hmem : adminsScope ∈ buildApp features)
    (hanswer : (dispatch app' .get ["admins", "userpass"]).2 = some (.listAllUserpass, []))
    (honly : ∀ a ∈ (buildApp features).map Scope.base, a.isPrefixOf ["admins", "userpass"] = true →
      a = adminsScope.base) {s : AppScope} (hs : s ∈ app') (hbase : s.base = adminsScope.base) :
    [Handler.resource .listAllUserpass, Handler.resource .getAdmin].Sublist s.resources := by
  have hperm := h.resources adminsScope hmem s hs hbase
  have hlist := hperm.mem_iff.mpr (show Handler.resource .listAllUserpass ∈ _ by decide)
  have hget := hperm.mem_iff.mpr (show Handler.resource .getAdmin ∈ _ by decide)
  rcases before_or_before hlist hget (by decide) with hbefore | hbefore
  · exact hbefore
  · exfalso
    have hnodup := hperm.nodup_iff.mpr ((buildApp_distinct features).resources adminsScope hmem)
    have hfind := @find?_eq_some_of_before _ (fun r => r.accepts .get ["userpass"]) _ _ _ hnodup
      hbefore (by decide) fun r hr => by
        have hall : ∀ r ∈ adminsScope.resources, r.accepts .get ["userpass"] = true →
            r = Handler.resource .getAdmin ∨ r = Handler.resource .listAllUserpass := by
          decide
        exact hall r (hperm.mem_iff.mp hr)
    cases ht : app'.find? (fun s => s.base.isPrefixOf ["admins", "userpass"]) with
    | none => simp [dispatch, ht] at hanswer
    | some t =>
      have hin := List.mem_of_find?_eq_some ht
      have hwant : t.base.isPrefixOf ["admins", "userpass"] = true := by
        simpa using List.find?_some ht
      have hadmins := honly t.base (h.perm_bases.mem_iff.mp (List.mem_map_of_mem hin)) hwant
      have hts : t = s := List.inj_on_of_nodup_map
        (h.perm_bases.nodup_iff.mpr (buildApp_distinct features).bases) hin hs
        (hadmins.trans hbase.symm)
      subst hts
      have hdrop : ["admins", "userpass"].drop t.base.length = ["userpass"] := by
        rw [hadmins]
        rfl
      simp only [dispatch, ht, Scope.answer, hdrop, hfind, Option.bind_some] at hanswer
      revert hanswer
      decide

theorem dispatch_hidden (features : Features) :
    dispatch (buildApp features) .get ["admins", "realms"] =
        (realmsCrudScope.layers, some (.listRealms, [])) ∧
      dispatch (buildApp features) .post ["auth", "approle", "login"] =
        (approleLoginScope.layers, some (.approleLogin, [])) ∧
      dispatch (buildApp features) .post ["auth", "kubernetes", "login"] =
        (k8sLoginScope.layers, some (.k8sLogin, [])) ∧
      dispatch (buildApp features) .get ["admins", "userpass"] =
        (adminsScope.layers, some (.listAllUserpass, [])) := by
  obtain ⟨swaggerUi, saml⟩ := features
  cases saml <;> cases swaggerUi <;> decide

/-- Registered in another order, the scopes and their resources answer every request as before
exactly if the logins come before the administration of the same method, the realms before the
administrators, and all credentials before one administrator. -/
theorem dispatch_reordered_iff (features : Features) (h : Reordered app' (buildApp features)) :
    (∀ method path, dispatch app' method path = dispatch (buildApp features) method path) ↔
      KeepsOrder app' := by
  constructor
  · intro hsame
    obtain ⟨hrealms, happrole, hkubernetes, huserpass⟩ := dispatch_hidden features
    obtain ⟨swaggerUi, saml⟩ := features
    refine ⟨?_, ?_, ?_, ?_⟩
    · refine scope_before h (s := realmsCrudScope) (t := adminsScope) ?_ ?_ (by decide)
        (congrArg Prod.snd ((hsame _ _).trans hrealms)) (by decide) (by decide) ?_
      all_goals cases saml <;> cases swaggerUi <;> decide
    · refine scope_before h (s := approleLoginScope) (t := approleAdminScope) ?_ ?_ (by decide)
        (congrArg Prod.snd ((hsame _ _).trans happrole)) (by decide) (by decide) ?_
      all_goals cases saml <;> cases swaggerUi <;> decide
    · refine scope_before h (s := k8sLoginScope) (t := k8sAdminScope) ?_ ?_ (by decide)
        (congrArg Prod.snd ((hsame _ _).trans hkubernetes)) (by decide) (by decide) ?_
      all_goals cases saml <;> cases swaggerUi <;> decide
    · refine fun s hs hbase => userpass_before h ?_
        (congrArg Prod.snd ((hsame _ _).trans huserpass)) ?_ hs hbase
      all_goals cases saml <;> cases swaggerUi <;> decide
  · intro horder
    exact dispatch_eq_of_reordered h (buildApp_distinct features) (horder.keepsOverlaps features)

/-- The other way round, nobody could list the realms. -/
theorem dispatch_reordered_reverse :
    ¬ ∀ method path, dispatch (buildApp ⟨false, true⟩).reverse method path =
      dispatch (buildApp ⟨false, true⟩) method path := by
  refine fun hsame => absurd ((dispatch_reordered_iff ⟨false, true⟩ ⟨?_, ?_⟩).mp hsame).realms
    (by decide)
  · rw [List.map_reverse]
    exact List.reverse_perm _
  · intro s hs s' hs' hbase
    rw [List.inj_on_of_nodup_map (buildApp_distinct ⟨false, true⟩).bases
      (List.mem_reverse.mp hs') hs hbase]

def Handler.scope (features : Features) : Handler → AppScope
  | .versionEndpoint | .rolesEndpoint | .openapiYamlEndpoint | .swaggerUiEndpoint =>
      publicScope features
  | .jwksWellKnown | .certificateJwksWellKnown => wellKnownScope
  | .login => clientScope
  | .whoami => whoamiScope
  | .certify => certifyScope
  | .upsertSession | .getSessionById | .getSession | .getSessionsForClients | .deleteSessions
  | .deleteExpiredSessions | .deleteSessionsForRealm => sessionsScope
  | .createRealm | .getRealm | .updateRealm | .deleteRealm | .listRealms => realmsCrudScope
  | .createUserpass | .getUserpass | .updateUserpass | .deleteUserpass | .listUserpassByRealm
  | .totpGenerate | .totpVerify | .totpDisable => appScope
  | .listAllUserpass | .listAdmins | .createAdmin | .getAdmin | .updateAdmin | .deleteAdmin
  | .addAdminToRealm | .removeAdminFromRealm => adminsScope
  | .approleLogin => approleLoginScope
  | .k8sLogin => k8sLoginScope
  | .approleCreateRole | .approleGetRoleId | .approleGenerateSecretId | .approleDestroySecretId
  | .approleDeleteRole | .approleGetRole | .approleListRoles => approleAdminScope
  | .k8sCreateRole | .k8sDeleteRole | .k8sGetRole | .k8sListRoles => k8sAdminScope
  | .authTokenLookupSelf | .authTokenRenewSelf | .authTokenRevokeSelf => authTokenScope
  | .samlLogin | .samlAcs | .samlMetadata => samlScope

def Handler.registered (features : Features) (h : Handler) : Prop :=
  h.scope features ∈ buildApp features ∧ h.resource ∈ (h.scope features).resources

instance (features : Features) (h : Handler) : Decidable (h.registered features) :=
  inferInstanceAs (Decidable (_ ∧ _))

def Handler.path (features : Features) (h : Handler) (values : List String) : List String :=
  (h.scope features).base ++ instantiate h.attributes.2 values

/-- The values whose path means something else: there are no routes below an administrator
`realms`, and nobody reads an administrator `userpass`. -/
def Handler.shadowed (h : Handler) (values : List String) : Prop :=
  h ∈ [.getAdmin, .updateAdmin, .deleteAdmin, .addAdminToRealm, .removeAdminFromRealm] ∧
      values.head? = some "realms" ∨
    h = .getAdmin ∧ values = ["userpass"]

instance (h : Handler) (values : List String) : Decidable (h.shadowed values) :=
  inferInstanceAs (Decidable (_ ∨ _))

theorem Handler.scope_base (features : Features) (h : Handler) :
    (h.scope features).base = (h.scope ⟨false, false⟩).base := by
  cases h <;> rfl

theorem Handler.of_admins {h : Handler} (hbase : (h.scope features).base = adminsScope.base) :
    h ∈ [.listAllUserpass, .listAdmins, .createAdmin, .getAdmin, .updateAdmin, .deleteAdmin,
      .addAdminToRealm, .removeAdminFromRealm] := by
  rw [Handler.scope_base] at hbase
  revert hbase
  cases h <;> decide

theorem Handler.of_machine_admins {h : Handler}
    (hbase : (h.scope features).base ∈ [approleAdminScope.base, k8sAdminScope.base]) :
    ∃ pattern, h.attributes.2 = .literal "role" :: pattern := by
  have hrole : h.attributes.2.head? = some (.literal "role") := by
    rw [Handler.scope_base] at hbase
    revert hbase
    cases h <;> decide
  exact ⟨_, (List.cons_head?_tail hrole).symm⟩

theorem shadowed_of_base {h : Handler} {values base : List String}
    (hlength : values.length = dynamics h.attributes.2)
    (hpair : (base, (h.scope features).base) ∈ [(realmsCrudScope.base, adminsScope.base),
      (approleLoginScope.base, approleAdminScope.base), (k8sLoginScope.base, k8sAdminScope.base)])
    (hwant : base.isPrefixOf (h.path features values) = true) : h.shadowed values := by
  simp only [List.mem_cons, Prod.mk.injEq, List.not_mem_nil, or_false] at hpair
  unfold Handler.path at hwant
  have hmachine : ∀ name : String, (h.scope features).base = ["auth", name] →
      (h.scope features).base ∈ [approleAdminScope.base, k8sAdminScope.base] →
      ["auth", name, "login"].isPrefixOf ((h.scope features).base ++ instantiate h.attributes.2 values) =
        true → False := by
    intro name hbase hmem hwant
    obtain ⟨pattern, hpattern⟩ := Handler.of_machine_admins hmem
    rw [hbase, hpattern] at hwant
    simp [instantiate, List.isPrefixOf] at hwant
  rcases hpair with ⟨rfl, hadmins⟩ | ⟨rfl, happrole⟩ | ⟨rfl, hkubernetes⟩
  · rw [hadmins] at hwant
    have hmem := Handler.of_admins hadmins
    simp only [List.mem_cons, List.not_mem_nil, or_false] at hmem
    rcases hmem with rfl | rfl | rfl | rfl | rfl | rfl | rfl | rfl
    all_goals
      rcases values with _ | ⟨value, values⟩
    all_goals
      simp_all [Handler.attributes, instantiate, realmsCrudScope, adminsScope, List.isPrefixOf,
        Handler.shadowed, dynamics]
  · exact (hmachine "approle" happrole (by simp [happrole]) hwant).elim
  · exact (hmachine "kubernetes" hkubernetes (by simp [hkubernetes]) hwant).elim

theorem find?_realms (features : Features) (rest : List String) :
    (buildApp features).find? (fun s => s.base.isPrefixOf ("admins" :: "realms" :: rest)) =
      some realmsCrudScope := rfl

theorem dispatch_path_iff {h : Handler} (hregistered : h.registered features) {method : Method}
    (hmethod : method ∈ h.attributes.1) {values : List String}
    (hlength : values.length = dynamics h.attributes.2) :
    (dispatch (buildApp features) method (h.path features values)).2 = some (h, values) ↔
      (∀ value ∈ values, value ≠ "") ∧ ¬ h.shadowed values := by
  obtain ⟨hscope, hresource⟩ := hregistered
  constructor
  · intro hdispatch
    obtain ⟨_, _, _, _, _, _, _, _, hne⟩ := of_dispatch hdispatch
    refine ⟨hne, ?_⟩
    rintro (⟨hmem, hhead⟩ | ⟨rfl, rfl⟩)
    · obtain ⟨rest, hpath, hforeign⟩ : ∃ rest,
          h.path features values = "admins" :: "realms" :: rest ∧
            h ∉ realmsCrudScope.resources.map Resource.handler := by
        obtain ⟨rest, rfl⟩ : ∃ rest, values = "realms" :: rest := by
          cases values with
          | nil => simp at hhead
          | cons value values => exact ⟨values, by simpa using hhead⟩
        simp only [List.mem_cons, List.not_mem_nil, or_false] at hmem
        rcases hmem with rfl | rfl | rfl | rfl | rfl <;> exact ⟨_, rfl, by decide⟩
      rw [hpath, dispatch, find?_realms] at hdispatch
      obtain ⟨r, hr, rfl, _⟩ := Scope.answer_eq_some hdispatch
      exact hforeign (List.mem_map_of_mem hr)
    · have hhidden := (dispatch_hidden features).2.2.2
      obtain rfl : method = .get := by simpa [Handler.attributes] using hmethod
      have hpath : Handler.path features .getAdmin ["userpass"] = ["admins", "userpass"] := rfl
      rw [hpath, hhidden] at hdispatch
      cases hdispatch
  · rintro ⟨hne, hshadowed⟩
    have hdistinct := buildApp_distinct features
    have hbases : ∀ t ∈ buildApp features, t ≠ h.scope features → t.base ≠ (h.scope features).base :=
      fun t ht hts hbase => hts (List.inj_on_of_nodup_map hdistinct.bases ht hscope hbase)
    have hcapture : capture h.attributes.2 (instantiate h.attributes.2 values) = some values :=
      capture_eq_some_iff.mpr ⟨rfl, hlength, hne⟩
    have hown := dispatch_of_first hdistinct.bases.of_map hscope (hdistinct.resources _ hscope)
      hresource hmethod hcapture ?_ ?_
    · exact congrArg Prod.snd hown
    · intro t ht hwant
      by_cases hts : t = h.scope features
      · exact .inl hts
      · rcases before_or_before hscope ht (Ne.symm hts) with hbefore | hbefore
        · exact .inr hbefore
        · have hprefix := List.prefix_or_prefix_of_prefix (List.isPrefixOf_iff_prefix.mp hwant)
            (List.prefix_append (h.scope features).base _)
          simp only [← List.isPrefixOf_iff_prefix] at hprefix
          have hpair := overlapping_scopes features t.base (List.mem_map_of_mem ht)
            (h.scope features).base (List.mem_map_of_mem hscope) hprefix (hbefore.map Scope.base)
          exact absurd (shadowed_of_base hlength hpair hwant) hshadowed
    · intro t ht haccepts
      by_cases htr : t = h.resource
      · exact .inl htr
      · rcases before_or_before hresource ht (Ne.symm htr) with hbefore | hbefore
        · exact .inr hbefore
        · have hself : h.resource.accepts method (instantiate h.attributes.2 values) = true := by
            simp [Resource.accepts, Handler.resource, hmethod, hcapture]
          obtain ⟨_, rfl, hget⟩ := overlapping_resources features _ hscope t ht h.resource hresource
            (Resource.overlaps_of_accepts haccepts hself) hbefore
          obtain rfl : h = .getAdmin := congrArg Resource.handler hget
          obtain ⟨value, rfl⟩ : ∃ value, values = [value] := List.length_eq_one_iff.mp hlength
          obtain ⟨_, hpath⟩ := Bool.and_eq_true_iff.mp haccepts
          obtain ⟨captured, hcaptured⟩ := Option.isSome_iff_exists.mp hpath
          obtain ⟨hnames, _⟩ := capture_eq_some_iff.mp hcaptured
          exact absurd (.inr ⟨rfl, hnames⟩) hshadowed

theorem Handler.registered_of (features : Features) {h : Handler}
    (hswagger : h ∉ [.openapiYamlEndpoint, .swaggerUiEndpoint])
    (hsaml : h ∉ [.samlLogin, .samlAcs, .samlMetadata]) : h.registered features := by
  obtain ⟨swaggerUi, saml⟩ := features
  revert hswagger hsaml
  cases swaggerUi <;> cases saml <;> cases h <;> decide

/-- Who answers a request for a target, with what it takes out of the path. -/
def answeredBy (features : Features) (method : Method) (target : List Char) :
    Option (Option (Handler × List String)) :=
  (UrlPath.received target).map fun path => (dispatch (buildApp features) method path).2

def Addressable (value : String) : Prop := value ≠ "" ∧ value ≠ "." ∧ value ≠ ".."

instance (value : String) : Decidable (Addressable value) :=
  inferInstanceAs (Decidable (_ ∧ _ ∧ _))

theorem not_addressable_iff {value : String} :
    ¬ Addressable value ↔ value = "" ∨ value = "." ∨ value = ".." := by
  unfold Addressable
  tauto

theorem Handler.literals_addressable (features : Features) {h : Handler} {values : List String}
    (hvalues : ∀ value ∈ values, value ≠ "." ∧ value ≠ "..") :
    ∀ value ∈ h.path features values, value ≠ "." ∧ value ≠ ".." := by
  have hall : (h.scope ⟨false, false⟩).base.all (fun s => s != "." && s != "..") = true ∧
      h.attributes.2.all (fun s => s != .literal "." && s != .literal "..") = true := by
    cases h <;> decide
  obtain ⟨hbase, hpattern⟩ := hall
  intro value hv
  rcases List.mem_append.mp hv with hv | hv
  · rw [Handler.scope_base] at hv
    simpa using List.all_eq_true.mp hbase value hv
  · rcases of_mem_instantiate hv with hv | hv
    · simpa using List.all_eq_true.mp hpattern _ hv
    · exact hvalues value hv

theorem Handler.path_isPlain (features : Features) {h : Handler} {values : List String}
    (hvalues : ∀ value ∈ values, UrlPath.isPlain value = true) :
    ∀ value ∈ h.path features values, UrlPath.isPlain value = true := by
  have hall : (h.scope ⟨false, false⟩).base.all UrlPath.isPlain = true ∧
      h.attributes.2.all (·.admits UrlPath.isPlain) = true := by
    cases h <;> decide
  obtain ⟨hbase, hpattern⟩ := hall
  intro value hv
  rcases List.mem_append.mp hv with hv | hv
  · rw [Handler.scope_base] at hv
    exact List.all_eq_true.mp hbase value hv
  · rcases of_mem_instantiate hv with hv | hv
    · exact List.all_eq_true.mp hpattern _ hv
    · exact hvalues value hv

def ReadsAs (target : List Char) (path : List String) : Prop :=
  UrlPath.received target = some (UrlPath.resolve UrlPath.dotsOfValue "" [] path)

theorem answeredBy_of_reads (features : Features) (method : Method) {target : List Char}
    {path : List String} (hread : ReadsAs target path) :
    answeredBy features method target = some
      (dispatch (buildApp features) method
        (UrlPath.resolve UrlPath.dotsOfValue "" [] path)).2 := by
  rw [answeredBy, hread, Option.map_some]

/-- A target that is read as the path of a handler is answered by the handler with the values in
it exactly if all can stand in a path and no other route means them. -/
theorem answeredBy_path_iff {h : Handler} (hregistered : h.registered features)
    {method : Method} (hmethod : method ∈ h.attributes.1) {values : List String}
    (hlength : values.length = dynamics h.attributes.2) {target : List Char}
    (hread : ReadsAs target (h.path features values)) :
    answeredBy features method target = some (some (h, values)) ↔
      (∀ value ∈ values, Addressable value) ∧ ¬ h.shadowed values := by
  have hkept : (∀ value ∈ values, value ≠ "." ∧ value ≠ "..") →
      UrlPath.resolve UrlPath.dotsOfValue "" [] (h.path features values) =
        h.path features values := fun hvalues =>
    UrlPath.resolve_of_no_dots fun value hv => UrlPath.dotsOfValue_eq_none_iff.mpr
      (Handler.literals_addressable features hvalues value hv)
  rw [answeredBy_of_reads features method hread, Option.some_inj]
  constructor
  · intro hdispatch
    obtain ⟨_, _, r, _, _, _, hpath, hcount, _⟩ := of_dispatch hdispatch
    have hdots : ∀ value ∈ values, value ≠ "." ∧ value ≠ ".." := by
      intro value hv
      have hmem : value ∈ UrlPath.resolve UrlPath.dotsOfValue "" [] (h.path features values) := by
        rw [hpath]
        exact List.mem_append_right _ (mem_instantiate hcount hv)
      exact UrlPath.dotsOfValue_eq_none_iff.mp
        (UrlPath.of_mem_resolve (by decide) (fun t ht => by cases ht) hmem)
    rw [hkept hdots] at hdispatch
    obtain ⟨hne, hshadowed⟩ := (dispatch_path_iff hregistered hmethod hlength).mp hdispatch
    exact ⟨fun value hv => ⟨hne value hv, hdots value hv⟩, hshadowed⟩
  · rintro ⟨hvalues, hshadowed⟩
    rw [hkept fun value hv => (hvalues value hv).2,
      (dispatch_path_iff hregistered hmethod hlength).mpr
        ⟨fun value hv => (hvalues value hv).1, hshadowed⟩]

theorem dispatch_of_empty_mem {method : Method} {path : List String} (h : "" ∈ path) :
    (dispatch (buildApp features) method path).2 = none := by
  have hliterals : ∀ s ∈ buildApp features, "" ∉ s.base ∧ ∀ r ∈ s.resources,
      .literal "" ∉ r.pattern := by
    obtain ⟨swaggerUi, saml⟩ := features
    cases saml <;> cases swaggerUi <;> decide
  cases hdispatch : (dispatch (buildApp features) method path).2 with
  | none => rfl
  | some answer =>
    obtain ⟨s, hs, r, hr, _, _, rfl, _, hne⟩ := of_dispatch hdispatch
    obtain ⟨hbase, hpattern⟩ := hliterals s hs
    rcases List.mem_append.mp h with h | h
    · exact absurd h hbase
    · rcases of_mem_instantiate h with h | h
      · exact absurd h (hpattern r hr)
      · exact absurd rfl (hne "" h)

theorem answeredBy_of_last {method : Method} {target : List Char} {path : List String}
    {last : String} (hread : ReadsAs target path) (hpath : path.getLast? = some last)
    (hlast : ¬ Addressable last) : answeredBy features method target = some none := by
  obtain ⟨front, rfl⟩ := List.getLast?_eq_some_iff.mp hpath
  obtain ⟨init, hinit⟩ := @UrlPath.resolve_append_singleton _ UrlPath.dotsOfValue "" [] front last
  rw [answeredBy_of_reads features method hread, hinit, dispatch_of_empty_mem]
  by_cases hdots : UrlPath.dotsOfValue last = none
  · have hempty : last = "" := by
      by_contra hne
      exact hlast ⟨hne, UrlPath.dotsOfValue_eq_none_iff.mp hdots⟩
    simp [hempty]
  · simp [hdots]

theorem component_literals : ["public", "version", "roles", "login", "whoami", "sessions", "admins",
      "realms", "clients", "expired", "userpass", "totp", "generate", "verify", "auth", "approle",
      "kubernetes", "token", "role", "role-id", "secret-id", "destroy", "lookup-self",
      "renew-self", "revoke-self", "saml", "metadata"].map UrlPath.component =
    ["public", "version", "roles", "login", "whoami", "sessions", "admins",
      "realms", "clients", "expired", "userpass", "totp", "generate", "verify", "auth", "approle",
      "kubernetes", "token", "role", "role-id", "secret-id", "destroy", "lookup-self",
      "renew-self", "revoke-self", "saml", "metadata"].map String.toList := by
  decide +kernel

end
end AuthVerifier
