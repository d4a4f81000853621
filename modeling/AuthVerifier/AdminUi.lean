import AuthVerifier.Routes

/-!
The requests of the administration page, following its `services` and `AuthContext.tsx`. The page
is served by the server it talks to, so that a target is what stands after the origin.
-/

set_option autoImplicit false

namespace AuthVerifier
open Routing UrlPath

namespace AdminUi

def apiLogin : String := "/login"
def apiWhoami : String := "/whoami"
def apiSessions : String := "/sessions"
def apiVersion : String := "/public/version"
def apiApprole : String := "/auth/approle"
def apiKubernetes : String := "/auth/kubernetes"
def apiToken : String := "/auth/token"
def rolesPath : String := "/public/roles"
def realmsPath : String := "/admins/realms"
def adminsPath : String := "/admins"

def realmPath (realmId : String) : List Char := realmsPath.toList ++ "/".toList ++ component realmId

def adminPath (adminId : String) : List Char := adminsPath.toList ++ "/".toList ++ component adminId

def adminRealmPath (adminId realmId : String) : List Char :=
  adminPath adminId ++ "/realms/".toList ++ component realmId

def basePath (realmId : String) : List Char :=
  "/realms/".toList ++ component realmId ++ "/userpass".toList

def userPath (realmId username : String) : List Char :=
  basePath realmId ++ "/".toList ++ component username

def generatePath (realmId : String) : List Char :=
  "/realms/".toList ++ component realmId ++ "/totp/generate".toList

def verifyPath (realmId : String) : List Char :=
  "/realms/".toList ++ component realmId ++ "/totp/verify".toList

def disablePath (realmId username : String) : List Char :=
  "/realms/".toList ++ component realmId ++ "/totp/".toList ++ component username

def rolePath (api name : String) : List Char :=
  api.toList ++ "/role/".toList ++ component name

inductive Call where
  | version | login | whoami | logout | listRoles
  | listRealms | getRealm (realmId : String) | createRealm | updateRealm (realmId : String)
  | deleteRealm (realmId : String)
  | revokeAllForRealm (realmId : String) | purgeExpired
  | generate (realmId : String) | verify (realmId : String) | disable (realmId username : String)
  | listAdmins | getAdmin (adminId : String) | createAdmin | updateAdmin (adminId : String)
  | deleteAdmin (adminId : String) | addToRealm (adminId realmId : String)
  | removeFromRealm (adminId realmId : String)
  | listAppRoles | getAppRole (name : String) | saveAppRole (name : String)
  | deleteAppRole (name : String) | generateSecretId (name : String)
  | destroySecretId (name : String)
  | lookup | renew | revoke
  | listK8sRoles | getK8sRole (name : String) | saveK8sRole (name : String)
  | deleteK8sRole (name : String)
  | listCredentials (realmId : String) | getCredential (realmId username : String)
  | createCredential (realmId : String) | updateCredential (realmId username : String)
  | deleteCredential (realmId username : String)
  deriving DecidableEq

def Call.request : Call → Method × List Char
  | .version => (.get, apiVersion.toList)
  | .login => (.post, apiLogin.toList ++ "?realm=_".toList)
  | .whoami => (.get, apiWhoami.toList ++ "?realm=_".toList)
  | .logout => (.delete, apiSessions.toList)
  | .listRoles => (.get, rolesPath.toList)
  | .listRealms => (.get, realmsPath.toList)
  | .getRealm realmId => (.get, realmPath realmId)
  | .createRealm => (.post, realmsPath.toList)
  | .updateRealm realmId => (.put, realmPath realmId)
  | .deleteRealm realmId => (.delete, realmPath realmId)
  | .revokeAllForRealm realmId => (.delete, "/sessions/realms/".toList ++ component realmId)
  | .purgeExpired => (.delete, "/sessions/expired".toList)
  | .generate realmId => (.post, generatePath realmId)
  | .verify realmId => (.post, verifyPath realmId)
  | .disable realmId username => (.delete, disablePath realmId username)
  | .listAdmins => (.get, adminsPath.toList)
  | .getAdmin adminId => (.get, adminPath adminId)
  | .createAdmin => (.post, adminsPath.toList)
  | .updateAdmin adminId => (.put, adminPath adminId)
  | .deleteAdmin adminId => (.delete, adminPath adminId)
  | .addToRealm adminId realmId => (.put, adminRealmPath adminId realmId)
  | .removeFromRealm adminId realmId => (.delete, adminRealmPath adminId realmId)
  | .listAppRoles => (.get, apiApprole.toList ++ "/role?list=true".toList)
  | .getAppRole name => (.get, rolePath apiApprole name)
  | .saveAppRole name => (.post, rolePath apiApprole name)
  | .deleteAppRole name => (.delete, rolePath apiApprole name)
  | .generateSecretId name => (.post, rolePath apiApprole name ++ "/secret-id".toList)
  | .destroySecretId name => (.post, rolePath apiApprole name ++ "/secret-id/destroy".toList)
  | .lookup => (.get, apiToken.toList ++ "/lookup-self".toList)
  | .renew => (.post, apiToken.toList ++ "/renew-self".toList)
  | .revoke => (.post, apiToken.toList ++ "/revoke-self".toList)
  | .listK8sRoles => (.get, apiKubernetes.toList ++ "/role?list=true".toList)
  | .getK8sRole name => (.get, rolePath apiKubernetes name)
  | .saveK8sRole name => (.post, rolePath apiKubernetes name)
  | .deleteK8sRole name => (.delete, rolePath apiKubernetes name)
  | .listCredentials realmId => (.get, basePath realmId)
  | .getCredential realmId username => (.get, userPath realmId username)
  | .createCredential realmId => (.post, basePath realmId)
  | .updateCredential realmId username => (.put, userPath realmId username)
  | .deleteCredential realmId username => (.delete, userPath realmId username)

def Call.meant : Call → Handler × List String
  | .version => (.versionEndpoint, [])
  | .login => (.login, [])
  | .whoami => (.whoami, [])
  | .logout => (.deleteSessions, [])
  | .listRoles => (.rolesEndpoint, [])
  | .listRealms => (.listRealms, [])
  | .getRealm realmId => (.getRealm, [realmId])
  | .createRealm => (.createRealm, [])
  | .updateRealm realmId => (.updateRealm, [realmId])
  | .deleteRealm realmId => (.deleteRealm, [realmId])
  | .revokeAllForRealm realmId => (.deleteSessionsForRealm, [realmId])
  | .purgeExpired => (.deleteExpiredSessions, [])
  | .generate realmId => (.totpGenerate, [realmId])
  | .verify realmId => (.totpVerify, [realmId])
  | .disable realmId username => (.totpDisable, [realmId, username])
  | .listAdmins => (.listAdmins, [])
  | .getAdmin adminId => (.getAdmin, [adminId])
  | .createAdmin => (.createAdmin, [])
  | .updateAdmin adminId => (.updateAdmin, [adminId])
  | .deleteAdmin adminId => (.deleteAdmin, [adminId])
  | .addToRealm adminId realmId => (.addAdminToRealm, [adminId, realmId])
  | .removeFromRealm adminId realmId => (.removeAdminFromRealm, [adminId, realmId])
  | .listAppRoles => (.approleListRoles, [])
  | .getAppRole name => (.approleGetRole, [name])
  | .saveAppRole name => (.approleCreateRole, [name])
  | .deleteAppRole name => (.approleDeleteRole, [name])
  | .generateSecretId name => (.approleGenerateSecretId, [name])
  | .destroySecretId name => (.approleDestroySecretId, [name])
  | .lookup => (.authTokenLookupSelf, [])
  | .renew => (.authTokenRenewSelf, [])
  | .revoke => (.authTokenRevokeSelf, [])
  | .listK8sRoles => (.k8sListRoles, [])
  | .getK8sRole name => (.k8sGetRole, [name])
  | .saveK8sRole name => (.k8sCreateRole, [name])
  | .deleteK8sRole name => (.k8sDeleteRole, [name])
  | .listCredentials realmId => (.listUserpassByRealm, [realmId])
  | .getCredential realmId username => (.getUserpass, [realmId, username])
  | .createCredential realmId => (.createUserpass, [realmId])
  | .updateCredential realmId username => (.updateUserpass, [realmId, username])
  | .deleteCredential realmId username => (.deleteUserpass, [realmId, username])

def Call.query : Call → String
  | .login | .whoami => "?realm=_"
  | .listAppRoles | .listK8sRoles => "?list=true"
  | _ => ""

theorem target_eq (features : Features) (c : Call) : c.request.2 =
    target component (c.meant.1.path features c.meant.2) c.query.toList := by
  have hliterals := component_literals
  simp only [List.map_cons, List.cons.injEq] at hliterals
  cases c
  all_goals
    dsimp only [Call.request, Call.meant, Call.query, apiVersion, apiLogin, apiWhoami, apiSessions,
      rolesPath, realmsPath, adminsPath, apiApprole, apiKubernetes, apiToken, realmPath,
      adminRealmPath, adminPath, userPath, basePath, generatePath, verifyPath, disablePath, rolePath,
      Handler.path, Handler.scope, Handler.attributes, publicScope, clientScope, whoamiScope,
      sessionsScope, realmsCrudScope, appScope, adminsScope, approleAdminScope, k8sAdminScope,
      authTokenScope, instantiate, List.cons_append, List.nil_append]
    simp [hliterals, target_cons, target_nil]

theorem query_eq (c : Call) : c.query.toList = [] ∨ ∃ q, c.query.toList = '?' :: q := by
  cases c
  all_goals first
    | exact .inl rfl
    | exact .inr ⟨_, rfl⟩

theorem reads_request (features : Features) (c : Call) :
    ReadsAs c.request.2 (c.meant.1.path features c.meant.2) := by
  rw [target_eq features c]
  exact received_target (fun value _ => writes_component value) rfl (query_eq c)

/-- A request reaches the handler that it is meant for, with the values that were put into it. -/
def Call.straight (c : Call) : Prop :=
  (∀ value ∈ c.meant.2, Addressable value) ∧ ¬ c.meant.1.shadowed c.meant.2

instance (c : Call) : Decidable c.straight := inferInstanceAs (Decidable (_ ∧ _))

theorem answeredBy_meant_iff (features : Features) (c : Call) :
    answeredBy features c.request.1 c.request.2 = some (some c.meant) ↔ c.straight := by
  have hregistered : c.meant.1.registered features := by
    apply Handler.registered_of <;> cases c <;> simp [Call.meant]
  have hmethod : c.request.1 ∈ c.meant.1.attributes.1 := by
    cases c <;> exact List.mem_cons_self
  have hlength : c.meant.2.length = dynamics c.meant.1.attributes.2 := by
    cases c <;> rfl
  exact answeredBy_path_iff hregistered hmethod hlength (reads_request features c)

def Call.astray : Call → Option (Handler × List String)
  | .getAdmin adminId =>
    if adminId = "realms" then some (.listRealms, [])
    else if adminId = "userpass" then some (.listAllUserpass, [])
    else none
  | .addToRealm adminId realmId =>
    if adminId = "." ∧ Addressable realmId then some (.updateRealm, [realmId]) else none
  | .removeFromRealm adminId realmId =>
    if adminId = "." ∧ Addressable realmId then some (.deleteRealm, [realmId]) else none
  | .generateSecretId name =>
    if name = "." then some (.approleCreateRole, ["secret-id"]) else none
  | .getCredential realmId username =>
    if realmId = "." ∧ username = "userpass" then some (.listUserpassByRealm, ["userpass"])
    else none
  | _ => none

theorem astray_of_middle (features : Features) {value : String} (h : ¬ Addressable value)
    {c : String → Call} (hc : c ∈ [Call.generate, .verify, .generateSecretId, .destroySecretId,
      .listCredentials, .createCredential]) :
    (dispatch (buildApp features) (c value).request.1
      (resolve dotsOfValue "" [] ((c value).meant.1.path features (c value).meant.2))).2 =
        (c value).astray := by
  obtain ⟨swaggerUi, saml⟩ := features
  simp only [List.mem_cons, List.not_mem_nil, or_false] at hc
  rcases not_addressable_iff.mp h with rfl | rfl | rfl
  all_goals
    rcases hc with rfl | rfl | rfl | rfl | rfl | rfl <;> cases swaggerUi <;> cases saml <;> rfl

theorem dispatch_below_realms (features : Features) {last : String} (hne : last ≠ "") :
    (∀ method ∈ [Method.put, .delete],
      (dispatch (buildApp features) method ["realms", last]).2 = none ∧
        (dispatch (buildApp features) method ["realms", "totp", last]).2 = none ∧
        (dispatch (buildApp features) method ["realms", "userpass", last]).2 = none) ∧
      (dispatch (buildApp features) .get ["realms", "userpass", last]).2 =
        if last = "userpass" then some (.listUserpassByRealm, ["userpass"]) else none := by
  constructor
  · intro method hmethod
    change appScope.answer _ _ = none ∧ appScope.answer _ _ = none ∧ appScope.answer _ _ = none
    simp only [List.mem_cons, List.not_mem_nil, or_false] at hmethod
    rcases hmethod with rfl | rfl
    · simp [Scope.answer, appScope, Handler.resource, Handler.attributes, Resource.accepts,
        capture, hne]
    · simp [Scope.answer, appScope, Handler.resource, Handler.attributes, Resource.accepts,
        capture, hne]
  · change appScope.answer _ _ = _
    by_cases hlast : last = "userpass"
    · subst hlast
      rfl
    · simp [Scope.answer, appScope, Handler.resource, Handler.attributes, Resource.accepts,
        capture, hlast, Ne.symm hlast]

theorem dispatch_realm (features : Features) {last : String} (hne : last ≠ "") {h : Handler}
    {method : Method} (hmem : (h, method) ∈ [(.updateRealm, .put), (.deleteRealm, .delete)]) :
    (dispatch (buildApp features) method ["admins", "realms", last]).2 = some (h, [last]) := by
  have hpath : (dispatch (buildApp features) method (h.path features [last])).2 =
      some (h, [last]) := by
    simp only [List.mem_cons, Prod.mk.injEq, List.not_mem_nil, or_false] at hmem
    rcases hmem with ⟨rfl, rfl⟩ | ⟨rfl, rfl⟩
    all_goals
      exact (dispatch_path_iff (Handler.registered_of features (by decide) (by decide)) (by decide)
        rfl).mpr ⟨by simpa using hne, by simp [Handler.shadowed]⟩
  simp only [List.mem_cons, Prod.mk.injEq, List.not_mem_nil, or_false] at hmem
  rcases hmem with ⟨rfl, rfl⟩ | ⟨rfl, rfl⟩ <;> exact hpath

theorem astray_of_front (features : Features) {value last : String} (h : ¬ Addressable value)
    (hlast : Addressable last) {c : String → String → Call} (hc : c ∈ [Call.disable, .addToRealm,
      .removeFromRealm, .getCredential, .updateCredential, .deleteCredential]) :
    (dispatch (buildApp features) (c value last).request.1
      (resolve dotsOfValue "" [] ((c value last).meant.1.path features (c value last).meant.2))).2 =
        (c value last).astray := by
  have hne := hlast.1
  have hliteral : ∀ s ∈ ["admins", "realms", "totp", "userpass"], dotsOfValue s = none := by decide
  have hpaths : ∀ first ∈ ["admins", "realms"], ∀ third ∈ ["realms", "totp", "userpass"],
      resolve dotsOfValue "" [] [first, ".", third, last] = [first, third, last] ∧
        resolve dotsOfValue "" [] [first, "..", third, last] = [third, last] := by
    intro first hfirst third hthird
    refine resolve_dot_second (hliteral first ?_) (hliteral third ?_)
      (dotsOfValue_eq_none_iff.mpr hlast.2)
    · revert first
      decide
    · revert third
      decide
  obtain ⟨hbelow, hget⟩ := dispatch_below_realms features hne
  obtain ⟨hputRealms, _, hputUserpass⟩ := hbelow .put (by decide)
  obtain ⟨hdeleteRealms, hdeleteTotp, hdeleteUserpass⟩ := hbelow .delete (by decide)
  have hadmins := (hpaths "admins" (by decide) "realms" (by decide))
  have htotp := (hpaths "realms" (by decide) "totp" (by decide))
  have huserpass := (hpaths "realms" (by decide) "userpass" (by decide))
  simp only [List.mem_cons, List.not_mem_nil, or_false] at hc
  rcases not_addressable_iff.mp h with rfl | rfl | rfl
  · have hvalues : "" ∈ (c "" last).meant.2 ∧ (∀ v ∈ (c "" last).meant.2, v ≠ "." ∧ v ≠ "..") ∧
        (c "" last).meant.2.length = dynamics (c "" last).meant.1.attributes.2 ∧
        (c "" last).astray = none := by
      rcases hc with rfl | rfl | rfl | rfl | rfl | rfl
      all_goals
        refine ⟨List.mem_cons_self, ?_, rfl, ?_⟩
        · simp [Call.meant, hlast.2]
        · simp [Call.astray]
    obtain ⟨hempty, hvalues, hlength, hastray⟩ := hvalues
    rw [hastray, resolve_of_no_dots fun s hs => dotsOfValue_eq_none_iff.mpr
      (Handler.literals_addressable features hvalues s hs), dispatch_of_empty_mem]
    exact List.mem_append_right _ (List.mem_append_right _ (mem_instantiate hlength hempty))
  · rcases hc with rfl | rfl | rfl | rfl | rfl | rfl
    · change (dispatch (buildApp features) .delete (resolve dotsOfValue "" [] ["realms", ".", "totp", last])).2 = none
      rw [htotp.1, hdeleteTotp]
    · change (dispatch (buildApp features) .put (resolve dotsOfValue "" [] ["admins", ".", "realms", last])).2 = _
      rw [hadmins.1, dispatch_realm features hne (h := .updateRealm) (by decide)]
      simp [Call.astray, hlast]
    · change (dispatch (buildApp features) .delete (resolve dotsOfValue "" [] ["admins", ".", "realms", last])).2 = _
      rw [hadmins.1, dispatch_realm features hne (h := .deleteRealm) (by decide)]
      simp [Call.astray, hlast]
    · change (dispatch (buildApp features) .get (resolve dotsOfValue "" [] ["realms", ".", "userpass", last])).2 = _
      rw [huserpass.1, hget]
      simp [Call.astray]
    · change (dispatch (buildApp features) .put (resolve dotsOfValue "" [] ["realms", ".", "userpass", last])).2 = none
      rw [huserpass.1, hputUserpass]
    · change (dispatch (buildApp features) .delete
        (resolve dotsOfValue "" [] ["realms", ".", "userpass", last])).2 = none
      rw [huserpass.1, hdeleteUserpass]
  · have hnowhere : ∀ method, ∀ first ∈ ["totp", "userpass"],
        (dispatch (buildApp features) method [first, last]).2 = none := by
      intro method first hfirst
      simp only [List.mem_cons, List.not_mem_nil, or_false] at hfirst
      obtain ⟨swaggerUi, saml⟩ := features
      rcases hfirst with rfl | rfl <;> cases saml <;> rfl
    rcases hc with rfl | rfl | rfl | rfl | rfl | rfl
    · change (dispatch (buildApp features) .delete (resolve dotsOfValue "" [] ["realms", "..", "totp", last])).2 = none
      rw [htotp.2, hnowhere _ _ (by decide)]
    · change (dispatch (buildApp features) .put (resolve dotsOfValue "" [] ["admins", "..", "realms", last])).2 = _
      rw [hadmins.2, hputRealms]
      rfl
    · change (dispatch (buildApp features) .delete (resolve dotsOfValue "" [] ["admins", "..", "realms", last])).2 = _
      rw [hadmins.2, hdeleteRealms]
      rfl
    · change (dispatch (buildApp features) .get (resolve dotsOfValue "" [] ["realms", "..", "userpass", last])).2 = _
      rw [huserpass.2, hnowhere _ _ (by decide)]
      rfl
    · change (dispatch (buildApp features) .put
        (resolve dotsOfValue "" [] ["realms", "..", "userpass", last])).2 = none
      rw [huserpass.2, hnowhere _ _ (by decide)]
    · change (dispatch (buildApp features) .delete
        (resolve dotsOfValue "" [] ["realms", "..", "userpass", last])).2 = none
      rw [huserpass.2, hnowhere _ _ (by decide)]

/-- Every request of the page is answered by the handler that it is meant for, or by nobody, or it
is one of those above: an administrator whose name is a dot cannot be taken out of a realm, since
the request for it deletes the realm. -/
theorem answeredBy_request (features : Features) (c : Call) :
    answeredBy features c.request.1 c.request.2 =
      some (if c.straight then some c.meant else c.astray) := by
  by_cases hs : c.straight
  · rw [if_pos hs]
    exact (answeredBy_meant_iff features c).mpr hs
  · rw [if_neg hs]
    have hread := reads_request features c
    cases c
    case getRealm value | updateRealm value | deleteRealm value | revokeAllForRealm value
      | getAppRole value | saveAppRole value | deleteAppRole value | getK8sRole value
      | saveK8sRole value | deleteK8sRole value =>
      exact answeredBy_of_last hread rfl fun h : Addressable value =>
        hs ⟨by simpa [Call.meant] using h, by simp [Call.meant, Handler.shadowed]⟩
    case generate value | verify value | generateSecretId value | destroySecretId value
      | listCredentials value | createCredential value =>
      have hbad : ¬ Addressable value := fun h =>
        hs ⟨by simpa [Call.meant] using h, by simp [Call.meant, Handler.shadowed]⟩
      rw [answeredBy_of_reads _ _ hread]
      exact congrArg some (astray_of_middle features hbad (by simp))
    case disable value last | getCredential value last | updateCredential value last
      | deleteCredential value last =>
      by_cases hlast : Addressable last
      · have hbad : ¬ Addressable value := fun h =>
          hs ⟨by simpa [Call.meant] using ⟨h, hlast⟩, by simp [Call.meant, Handler.shadowed]⟩
        rw [answeredBy_of_reads _ _ hread]
        exact congrArg some (astray_of_front features hbad hlast (by simp))
      · rw [answeredBy_of_last hread rfl hlast]
        have huserpass : last ≠ "userpass" := fun h => hlast (h ▸ by decide)
        simp [Call.astray, huserpass]
    case addToRealm value last | removeFromRealm value last =>
      by_cases hlast : Addressable last
      · rw [answeredBy_of_reads _ _ hread]
        by_cases hvalue : Addressable value
        · obtain rfl : value = "realms" := by
            by_contra hne
            exact hs ⟨by simpa [Call.meant] using ⟨hvalue, hlast⟩,
              by simp [Call.meant, Handler.shadowed, hne]⟩
          rw [resolve_of_no_dots fun s hs => dotsOfValue_eq_none_iff.mpr
            (Handler.literals_addressable features (by simp [Call.meant, hlast.2]) s hs)]
          rfl
        · exact congrArg some (astray_of_front features hvalue hlast (by simp))
      · rw [answeredBy_of_last hread rfl hlast]
        simp [Call.astray, hlast]
    case updateAdmin value | deleteAdmin value =>
      by_cases hvalue : Addressable value
      · obtain rfl : value = "realms" := by
          by_contra hne
          exact hs ⟨by simpa [Call.meant] using hvalue, by simp [Call.meant, Handler.shadowed, hne]⟩
        exact (answeredBy_of_reads _ _ hread).trans rfl
      · exact answeredBy_of_last hread rfl hvalue
    case getAdmin value =>
      by_cases hvalue : Addressable value
      · have hname : value = "realms" ∨ value = "userpass" := by
          by_contra hne
          obtain ⟨hrealms, huserpass⟩ := not_or.mp hne
          exact hs ⟨by simpa [Call.meant] using hvalue,
            by simp [Call.meant, Handler.shadowed, hrealms, huserpass]⟩
        rcases hname with rfl | rfl
        · exact (answeredBy_of_reads _ _ hread).trans rfl
        · exact (answeredBy_of_reads _ _ hread).trans rfl
      · have hrealms : value ≠ "realms" := fun h => hvalue (h ▸ by decide)
        have huserpass : value ≠ "userpass" := fun h => hvalue (h ▸ by decide)
        rw [answeredBy_of_last hread rfl hvalue]
        simp [Call.astray, hrealms, huserpass]
    all_goals exact absurd ⟨by simp [Call.meant], by simp [Call.meant, Handler.shadowed]⟩ hs

end AdminUi
end AuthVerifier
