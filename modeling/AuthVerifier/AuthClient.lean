import AuthVerifier.Routes

/-!
The requests of the client library, following `auth_client.rs`. It writes its values into the paths
as they are, after a base URL that is taken to be an origin.
-/

set_option autoImplicit false

namespace AuthVerifier
open Routing UrlPath

namespace AuthClient

inductive Call where
  | login (realm : String) | whoami (realm : String) | getVersion
  | getSamlMetadata (realmId : String)
  | createRealm | deleteRealm (realmName : String) | listRealms
  | getSession (sessionId : String) | getSessionWithAction (sessionId : String)
  | getSessionsForClients (realmId : String) | deleteSessions | deleteExpiredSessions
  | deleteSessionsForRealm (realmId : String)
  | createRealmAsSuperAdmin | getRealmAsSuperAdmin (realmId : String)
  | deleteRealmAsSuperAdmin (realmId : String) | updateRealmAsSuperAdmin (realmId : String)
  | listRealmsAsSuperAdmin
  | createAdminAsSuperAdmin | getAdminAsSuperAdmin (adminId : String)
  | updateAdminAsSuperAdmin (adminId : String) | deleteAdminAsSuperAdmin (adminId : String)
  | listAdminsAsSuperAdmin | addAdminToRealm (adminId realmId : String)
  | removeAdminFromRealm (adminId realmId : String)
  | createAdminCredentialsInRealm (realmId : String)
  | getAdminCredentialsInRealm (realmId username : String)
  | updateAdminCredentialsInRealm (realmId username : String)
  | deleteAdminCredentialsInRealm (realmId username : String)
  | listAdminCredentialsInRealm (realmId : String) | listAllUserpassAsSuperAdmin
  | generateTotp (realmId : String) | verifyAndEnableTotp (realmId : String)
  | disableTotp (realmId username : String)
  | approleCreateRole (name : String) | approleGetRoleId (name : String)
  | approleGetRole (name : String) | approleGenerateSecretId (name : String)
  | approleDestroySecretId (name : String) | approleDeleteRole (name : String)
  | approleListRoles | approleLogin
  | k8sCreateRole (name : String) | k8sDeleteRole (name : String) | k8sListRoles
  | k8sGetRole (name : String) | k8sLogin
  | tokenLookupSelf | tokenRenewSelf | tokenRevokeSelf
  deriving DecidableEq

def Call.request : Call → Method × String
  | .login realm => (.post, "/login?realm=" ++ realm)
  | .whoami realm => (.get, "/whoami?realm=" ++ realm)
  | .getVersion => (.get, "/public/version")
  | .getSamlMetadata realmId => (.get, "/saml/" ++ realmId ++ "/metadata")
  | .createRealm => (.post, "/admins/realms")
  | .deleteRealm realmName => (.delete, "/admins/realms/" ++ realmName)
  | .listRealms => (.get, "/admins/realms")
  | .getSession sessionId => (.get, "/sessions/" ++ sessionId)
  | .getSessionWithAction sessionId => (.post, "/sessions/" ++ sessionId)
  | .getSessionsForClients realmId => (.post, "/sessions/realms/" ++ realmId ++ "/clients")
  | .deleteSessions => (.delete, "/sessions")
  | .deleteExpiredSessions => (.delete, "/sessions/expired")
  | .deleteSessionsForRealm realmId => (.delete, "/sessions/realms/" ++ realmId)
  | .createRealmAsSuperAdmin => (.post, "/admins/realms")
  | .getRealmAsSuperAdmin realmId => (.get, "/admins/realms/" ++ realmId)
  | .deleteRealmAsSuperAdmin realmId => (.delete, "/admins/realms/" ++ realmId)
  | .updateRealmAsSuperAdmin realmId => (.put, "/admins/realms/" ++ realmId)
  | .listRealmsAsSuperAdmin => (.get, "/admins/realms")
  | .createAdminAsSuperAdmin => (.post, "/admins")
  | .getAdminAsSuperAdmin adminId => (.get, "/admins/" ++ adminId)
  | .updateAdminAsSuperAdmin adminId => (.put, "/admins/" ++ adminId)
  | .deleteAdminAsSuperAdmin adminId => (.delete, "/admins/" ++ adminId)
  | .listAdminsAsSuperAdmin => (.get, "/admins")
  | .addAdminToRealm adminId realmId => (.put, "/admins/" ++ adminId ++ "/realms/" ++ realmId)
  | .removeAdminFromRealm adminId realmId =>
      (.delete, "/admins/" ++ adminId ++ "/realms/" ++ realmId)
  | .createAdminCredentialsInRealm realmId => (.post, "/realms/" ++ realmId ++ "/userpass")
  | .getAdminCredentialsInRealm realmId username =>
      (.get, "/realms/" ++ realmId ++ "/userpass/" ++ username)
  | .updateAdminCredentialsInRealm realmId username =>
      (.put, "/realms/" ++ realmId ++ "/userpass/" ++ username)
  | .deleteAdminCredentialsInRealm realmId username =>
      (.delete, "/realms/" ++ realmId ++ "/userpass/" ++ username)
  | .listAdminCredentialsInRealm realmId => (.get, "/realms/" ++ realmId ++ "/userpass")
  | .listAllUserpassAsSuperAdmin => (.get, "/admins/userpass")
  | .generateTotp realmId => (.post, "/realms/" ++ realmId ++ "/totp/generate")
  | .verifyAndEnableTotp realmId => (.post, "/realms/" ++ realmId ++ "/totp/verify")
  | .disableTotp realmId username => (.delete, "/realms/" ++ realmId ++ "/totp/" ++ username)
  | .approleCreateRole name => (.post, "/auth/approle/role/" ++ name)
  | .approleGetRoleId name => (.get, "/auth/approle/role/" ++ name ++ "/role-id")
  | .approleGetRole name => (.get, "/auth/approle/role/" ++ name)
  | .approleGenerateSecretId name => (.post, "/auth/approle/role/" ++ name ++ "/secret-id")
  | .approleDestroySecretId name => (.post, "/auth/approle/role/" ++ name ++ "/secret-id/destroy")
  | .approleDeleteRole name => (.delete, "/auth/approle/role/" ++ name)
  | .approleListRoles => (.get, "/auth/approle/role?list=true")
  | .approleLogin => (.post, "/auth/approle/login")
  | .k8sCreateRole name => (.post, "/auth/kubernetes/role/" ++ name)
  | .k8sDeleteRole name => (.delete, "/auth/kubernetes/role/" ++ name)
  | .k8sListRoles => (.get, "/auth/kubernetes/role?list=true")
  | .k8sGetRole name => (.get, "/auth/kubernetes/role/" ++ name)
  | .k8sLogin => (.post, "/auth/kubernetes/login")
  | .tokenLookupSelf => (.get, "/auth/token/lookup-self")
  | .tokenRenewSelf => (.post, "/auth/token/renew-self")
  | .tokenRevokeSelf => (.post, "/auth/token/revoke-self")

def Call.meant : Call → Handler × List String
  | .login _ => (.login, [])
  | .whoami _ => (.whoami, [])
  | .getVersion => (.versionEndpoint, [])
  | .getSamlMetadata realmId => (.samlMetadata, [realmId])
  | .createRealm | .createRealmAsSuperAdmin => (.createRealm, [])
  | .deleteRealm realmId | .deleteRealmAsSuperAdmin realmId => (.deleteRealm, [realmId])
  | .listRealms | .listRealmsAsSuperAdmin => (.listRealms, [])
  | .getSession sessionId => (.getSessionById, [sessionId])
  | .getSessionWithAction sessionId => (.getSession, [sessionId])
  | .getSessionsForClients realmId => (.getSessionsForClients, [realmId])
  | .deleteSessions => (.deleteSessions, [])
  | .deleteExpiredSessions => (.deleteExpiredSessions, [])
  | .deleteSessionsForRealm realmId => (.deleteSessionsForRealm, [realmId])
  | .getRealmAsSuperAdmin realmId => (.getRealm, [realmId])
  | .updateRealmAsSuperAdmin realmId => (.updateRealm, [realmId])
  | .createAdminAsSuperAdmin => (.createAdmin, [])
  | .getAdminAsSuperAdmin adminId => (.getAdmin, [adminId])
  | .updateAdminAsSuperAdmin adminId => (.updateAdmin, [adminId])
  | .deleteAdminAsSuperAdmin adminId => (.deleteAdmin, [adminId])
  | .listAdminsAsSuperAdmin => (.listAdmins, [])
  | .addAdminToRealm adminId realmId => (.addAdminToRealm, [adminId, realmId])
  | .removeAdminFromRealm adminId realmId => (.removeAdminFromRealm, [adminId, realmId])
  | .createAdminCredentialsInRealm realmId => (.createUserpass, [realmId])
  | .getAdminCredentialsInRealm realmId username => (.getUserpass, [realmId, username])
  | .updateAdminCredentialsInRealm realmId username => (.updateUserpass, [realmId, username])
  | .deleteAdminCredentialsInRealm realmId username => (.deleteUserpass, [realmId, username])
  | .listAdminCredentialsInRealm realmId => (.listUserpassByRealm, [realmId])
  | .listAllUserpassAsSuperAdmin => (.listAllUserpass, [])
  | .generateTotp realmId => (.totpGenerate, [realmId])
  | .verifyAndEnableTotp realmId => (.totpVerify, [realmId])
  | .disableTotp realmId username => (.totpDisable, [realmId, username])
  | .approleCreateRole name => (.approleCreateRole, [name])
  | .approleGetRoleId name => (.approleGetRoleId, [name])
  | .approleGetRole name => (.approleGetRole, [name])
  | .approleGenerateSecretId name => (.approleGenerateSecretId, [name])
  | .approleDestroySecretId name => (.approleDestroySecretId, [name])
  | .approleDeleteRole name => (.approleDeleteRole, [name])
  | .approleListRoles => (.approleListRoles, [])
  | .approleLogin => (.approleLogin, [])
  | .k8sCreateRole name => (.k8sCreateRole, [name])
  | .k8sDeleteRole name => (.k8sDeleteRole, [name])
  | .k8sListRoles => (.k8sListRoles, [])
  | .k8sGetRole name => (.k8sGetRole, [name])
  | .k8sLogin => (.k8sLogin, [])
  | .tokenLookupSelf => (.authTokenLookupSelf, [])
  | .tokenRenewSelf => (.authTokenRenewSelf, [])
  | .tokenRevokeSelf => (.authTokenRevokeSelf, [])

def Call.query : Call → String
  | .login realm | .whoami realm => "?realm=" ++ realm
  | .approleListRoles | .k8sListRoles => "?list=true"
  | _ => ""

theorem request_eq (features : Features) (c : Call) : c.request.2.toList =
    target String.toList (c.meant.1.path features c.meant.2) c.query.toList := by
  cases c
  all_goals
    dsimp only [Call.request, Call.meant, Call.query, Handler.path, Handler.scope,
      Handler.attributes, publicScope, clientScope, whoamiScope, sessionsScope, realmsCrudScope,
      appScope, adminsScope, approleLoginScope, k8sLoginScope, approleAdminScope, k8sAdminScope,
      authTokenScope, samlScope, instantiate, List.cons_append, List.nil_append]
    simp [target_cons, target_nil]

theorem query_eq (c : Call) : c.query.toList = [] ∨ ∃ q, c.query.toList = '?' :: q := by
  cases c
  all_goals first
    | exact .inl rfl
    | exact .inr ⟨_, by simp [Call.query]; rfl⟩

/-- A request whose values need no encoding reaches the handler that it is meant for exactly if all
values can stand in a path and none makes it another route. -/
theorem answered_as_meant_iff (features : Features) (c : Call)
    (hregistered : c.meant.1.registered features)
    (hplain : ∀ value ∈ c.meant.2, isPlain value = true) :
    answeredBy features c.request.1 c.request.2.toList = some (some c.meant) ↔
      (∀ value ∈ c.meant.2, Addressable value) ∧ ¬ c.meant.1.shadowed c.meant.2 := by
  have hmethod : c.request.1 ∈ c.meant.1.attributes.1 := by
    cases c <;> exact List.mem_cons_self
  have hlength : c.meant.2.length = dynamics c.meant.1.attributes.2 := by
    cases c <;> rfl
  have hwrites : ∀ value ∈ c.meant.1.path features c.meant.2, Writes String.toList value :=
    fun value hv => writes_of_isPlain (Handler.path_isPlain features hplain value hv)
  refine answeredBy_path_iff hregistered hmethod hlength ?_
  rw [ReadsAs, request_eq features c]
  exact received_target hwrites rfl (query_eq c)

theorem answered_as_meant_mail :
    answeredBy ⟨false, false⟩ .delete "/admins/alice@example.org/realms/tenant-1".toList =
      some (some (.removeAdminFromRealm, ["alice@example.org", "tenant-1"])) :=
  (answered_as_meant_iff ⟨false, false⟩ (.removeAdminFromRealm "alice@example.org" "tenant-1")
    (by decide) (by decide)).mpr (by decide)

end AuthClient
end AuthVerifier
