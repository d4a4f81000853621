import AuthVerifier.AppRoles
import AuthVerifier.KubernetesRoleApi

/-!
The service that applications get their tokens from, following `endpoints/approle.rs`,
`endpoints/auth_token.rs` and the queries behind them in `database/impls/sqlite.rs`: AppRole roles
with their secret-IDs, Kubernetes roles, and the tokens that both kinds of login issue. Here one
request ends before the next begins.
-/

set_option autoImplicit false

namespace AuthVerifier
open Effects Relational

structure AppRoleLoginRequest where
  roleId : String
  secretId : Option String
  deriving DecidableEq

structure AppRoleRoleConfigData where
  roleId : String
  tokenTtl : Int
  secretIdTtl : Int
  bindSecretId : Bool
  tokenPolicies : List String
  deriving DecidableEq

abbrev AppRoleTable := Table AppRole String AppRole.name
abbrev AppSecretIds := Table AppSecretId String AppSecretId.accessor

namespace AppRoleDb

def getApproleByRoleId (roles : AppRoleTable) (roleId : String) : Option AppRole :=
  roles.rows.find? (fun role => role.roleId == roleId)

theorem renamed_name (role r : AppRole) : ({ role with name := r.name } : AppRole).name = r.name :=
  rfl

/-- `INSERT ... ON CONFLICT(name) DO UPDATE`, with `role_id` unique. -/
def createApprole (roles : AppRoleTable) (role : AppRole) : Except AuthDbError AppRoleTable :=
  if roles.rows.any (fun r => r.roleId == role.roleId && r.name != role.name) then
    .error (.sql .primaryKey)
  else if h : role.name ∈ roles.keys then
    .ok (roles.updateWhere (fun r => r.name == role.name)
      (fun r => { role with name := r.name }) (renamed_name role))
  else .ok (roles.insert role h)

def listApproleNames (roles : AppRoleTable) : List String := roles.keys.insertionSort (· ≤ ·)

def createSecretId (roles : AppRoleTable) (secrets : AppSecretIds) (secret : AppSecretId) :
    Except AuthDbError AppSecretIds :=
  if h : secret.accessor ∈ secrets.keys then .error (.sql .primaryKey)
  else if secret.roleName ∉ roles.keys then .error (.sql .foreignKey)
  else .ok (secrets.insert secret h)

theorem spent_accessor (secret : AppSecretId) :
    ({ secret with numUsesRemaining := secret.numUsesRemaining - 1 } : AppSecretId).accessor =
      secret.accessor :=
  rfl

def consumeSecretId (secrets : AppSecretIds) (now : Int) (roleName : String)
    (secretIdHash : List UInt8) : AppSecretIds × Option String :=
  match secrets.rows.find? (AppRoles.consumable roleName secretIdHash now) with
  | none => (secrets, none)
  | some row =>
    if row.numUsesRemaining = 1 then
      (secrets.deleteWhere (fun secret => secret.accessor == row.accessor), some row.accessor)
    else if row.numUsesRemaining > 1 then
      (secrets.updateWhere (fun secret => secret.accessor == row.accessor)
        (fun secret => { secret with numUsesRemaining := secret.numUsesRemaining - 1 })
        spent_accessor, some row.accessor)
    else (secrets, some row.accessor)

def destroySecretId (secrets : AppSecretIds) (roleName accessor : String) : AppSecretIds :=
  secrets.deleteWhere (fun s => s.accessor == accessor && s.roleName == roleName)

end AppRoleDb

/-- The `auth` object in the answer to a login. -/
abbrev AppAuthData := K8sLoginResponse

structure AppAuthState where
  roles : AppRoleTable := .empty
  secrets : AppSecretIds := .empty
  k8sRoles : K8sRoles := .empty
  tokens : AppTokens := .empty

/-- The arguments `freshId`, `accessor`, `secretId` and `drawn` are what the server draws. -/
inductive AppAuthRequest where
  | createRole (name : String) (payload : AppRoleRoleRequest) (freshId : String)
  | getRole (name : String)
  | getRoleId (name : String)
  | listRoles
  | deleteRole (name : String)
  | generateSecretId (name : String) (payload : AppRoleSecretIdRequest)
      (accessor secretId : String)
  | destroySecretId (name accessor : String)
  | login (body : Except String AppRoleLoginRequest) (drawn : String)
  | kubernetes (request : K8sRequest)
  | lookupSelf (header : Option String)
  | renewSelf (header : Option String)
  | revokeSelf (header : Option String)

structure AppAuthCall where
  times : TokenTimes
  request : AppAuthRequest

inductive AppAuthAnswer where
  | noContent
  | role (data : AppRoleRoleConfigData)
  | roleId (id : String)
  | keys (names : List String)
  | secretId (secretId accessor : String)
  | loggedIn (auth : AppAuthData)
  | kubernetes (answer : K8sAnswer)
  | token (answer : TokenAnswer)
  deriving DecidableEq

abbrev AppAuthResult := Except TokenFailure AppAuthAnswer

namespace AppAuth
open AppRoleDb
variable (K : K8sCrates) (json : List String → String) (s : AppAuthState) (t : TokenTimes)

def failed (e : AuthError) : AppAuthState × AppAuthResult := (s, .error (.failed e))

def approleCreateRole (name : String) (payload : AppRoleRoleRequest) (freshId : String) :
    AppAuthState × AppAuthResult :=
  if payload.secretIdTtl < 0 ∨ payload.tokenTtl < 0 then
    failed s (.badRequest "secret_id_ttl and token_ttl must be >= 0 (0 = non-expiring)")
  else
    let role : AppRole :=
      { name := name, roleId := ((s.roles.find? name).map AppRole.roleId).getD freshId
        secretIdTtlSecs := payload.secretIdTtl, tokenTtlSecs := payload.tokenTtl
        bindSecretId := payload.bindSecretId, tokenPolicies := payload.tokenPolicies }
    match createApprole s.roles role with
    | .error e => failed s (AuthError.ofDb e)
    | .ok roles => ({ s with roles := roles }, .ok .noContent)

def approleGetRole (name : String) : AppAuthState × AppAuthResult :=
  match s.roles.find? name with
  | none => failed s (AppRoles.notFound name)
  | some role => (s, .ok (.role
      { roleId := role.roleId, tokenTtl := role.tokenTtlSecs
        secretIdTtl := role.secretIdTtlSecs, bindSecretId := role.bindSecretId
        tokenPolicies := role.tokenPolicies }))

def approleGetRoleId (name : String) : AppAuthState × AppAuthResult :=
  match s.roles.find? name with
  | none => failed s (AppRoles.notFound name)
  | some role => (s, .ok (.roleId role.roleId))

def approleGenerateSecretId (name : String) (payload : AppRoleSecretIdRequest)
    (accessor secretId : String) : AppAuthState × AppAuthResult :=
  match s.roles.find? name with
  | none => failed s (AppRoles.notFound name)
  | some role =>
    match createSecretId s.roles s.secrets
        (AppRoles.newSecretId role payload accessor (K.digest secretId) t.store) with
    | .error e => failed s (AuthError.ofDb e)
    | .ok secrets => ({ s with secrets := secrets }, .ok (.secretId secretId accessor))

/-- `DELETE FROM approle_roles`, which cascades to the secret-IDs of the role. -/
def approleDeleteRole (name : String) : AppAuthState × AppAuthResult :=
  ({ s with
      roles := s.roles.deleteWhere (fun role => role.name == name)
      secrets := s.secrets.deleteWhere (fun secret => secret.roleName == name) }, .ok .noContent)

def granted (role : AppRole) (drawn : String) : AppAuthData :=
  { clientToken := drawn, renewable := true, leaseDuration := role.tokenTtlSecs
    policies := role.tokenPolicies, metadata := [("role_name", role.name)] }

def grant (role : AppRole) (drawn : String) : AppAuthState × AppAuthResult :=
  match AppTokenDb.issueAppToken s.tokens (AppTokenEndpoints.newToken K.digest t.store drawn
      role.name role.tokenPolicies role.tokenTtlSecs true) with
  | .error e => failed s (AuthError.ofDb e)
  | .ok tokens => ({ s with tokens := tokens }, .ok (.loggedIn (granted role drawn)))

def approleLogin (body : Except String AppRoleLoginRequest) (drawn : String) :
    AppAuthState × AppAuthResult :=
  match body with
  | .error e => failed s (.badRequest s!"invalid AppRole login body: {e}")
  | .ok payload => match getApproleByRoleId s.roles payload.roleId with
    | none => failed s AppRoles.invalid
    | some role =>
      if role.bindSecretId then
        let rawSecretId := payload.secretId.getD ""
        if rawSecretId = "" then
          failed s (.badRequest "secret_id is required when bind_secret_id is true")
        else match consumeSecretId s.secrets t.lookup role.name (K.digest rawSecretId) with
          | (secrets, none) => failed { s with secrets := secrets } AppRoles.invalid
          | (secrets, some _) => grant K { s with secrets := secrets } t role drawn
      else grant K s t role drawn

def kubernetes (request : K8sRequest) : AppAuthState × AppAuthResult :=
  let out := Kubernetes.handle K json ⟨s.k8sRoles, s.tokens⟩ request
  ({ s with k8sRoles := out.1.roles, tokens := out.1.tokens },
    match out.2 with
    | .error e => .error (.failed e)
    | .ok answer => .ok (.kubernetes answer))

def selfService (request : TokenRequest) : AppAuthState × AppAuthResult :=
  let out := AppTokenEndpoints.handle K.digest s.tokens ⟨t, request⟩
  ({ s with tokens := out.state }, out.result.map .token)

def handle (c : AppAuthCall) : AppAuthState × AppAuthResult :=
  match c.request with
  | .createRole name payload freshId => approleCreateRole s name payload freshId
  | .getRole name => approleGetRole s name
  | .getRoleId name => approleGetRoleId s name
  | .listRoles => (s, .ok (.keys (listApproleNames s.roles)))
  | .deleteRole name => approleDeleteRole s name
  | .generateSecretId name payload accessor secretId =>
    approleGenerateSecretId K s c.times name payload accessor secretId
  | .destroySecretId name accessor =>
    ({ s with secrets := destroySecretId s.secrets name accessor }, .ok .noContent)
  | .login body drawn => approleLogin K s c.times body drawn
  | .kubernetes request => kubernetes K json s request
  | .lookupSelf header => selfService K s c.times (.lookupSelf header)
  | .renewSelf header => selfService K s c.times (.renewSelf header)
  | .revokeSelf header => selfService K s c.times (.revokeSelf header)

end AppAuth
end AuthVerifier
