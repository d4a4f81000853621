import AuthVerifier.Kubernetes
import AuthVerifier.Lib.IpText

/-!
Kubernetes roles, following `k8s_create_role` of a production build and `create_k8s_role`. A role
says where the keys of its cluster are fetched from.
-/

set_option autoImplicit false

namespace AuthVerifier
open Effects Relational

structure K8sRoleRequest where
  jwksUrl : String
  boundServiceAccountNames : List String := []
  boundServiceAccountNamespaces : List String := []
  tokenTtl : Int
  expectedIssuer : Option String := none
  boundAudiences : List String := []
  deriving DecidableEq

namespace Kubernetes

def isPrivateIp : Ip.Addr → Bool
  | .v4 v => v.isLoopback || v.isPrivate || v.isLinkLocal || v.isUnspecified
  | .v6 v => v.isLoopback || v.isUniqueLocal || v.isUnspecified

def httpsPrefix : List Char := "https://".toList

def filteredHost (url : List Char) : List Char :=
  let h := (Text.splitAll '/' (Text.trimStartMatches httpsPrefix url)).headD []
  match Text.rsplitOnce ':' h with
  | some (host, _) => host
  | none => h

def pointsToPrivateIp (url : String) : Bool :=
  ((Ip.parse? (filteredHost url.toList)).map isPrivateIp).getD false

def effective (bound : List String) : List String := if bound.isEmpty then ["*"] else bound

/-- `INSERT ... ON CONFLICT(name) DO UPDATE`. -/
def createK8sRole (roles : K8sRoles) (role : K8sRole) : K8sRoles :=
  if h : role.name ∈ roles.keys then
    roles.updateWhere (fun r => r.name == role.name) (fun r => { role with name := r.name })
      (fun _ => rfl)
  else roles.insert role h

/-- The role that a request asks for; `json` writes a list of texts. -/
def requestedRole (json : List String → String) (name : String) (payload : K8sRoleRequest) :
    K8sRole :=
  { name := name, jwksUrl := payload.jwksUrl
    boundSaNames := json (effective payload.boundServiceAccountNames)
    boundSaNamespaces := json (effective payload.boundServiceAccountNamespaces)
    tokenTtlSecs := payload.tokenTtl, expectedIssuer := payload.expectedIssuer
    boundAudiences := json payload.boundAudiences }

def k8sCreateRole (json : List String → String) (roles : K8sRoles) (name : String)
    (payload : K8sRoleRequest) : Outcome K8sRoles AuthError Unit :=
  if httpsPrefix.isPrefixOf payload.jwksUrl.toList = false then
    .error roles (.badRequest "jwks_url must use the https:// scheme")
  else if pointsToPrivateIp payload.jwksUrl then
    .error roles
      (.badRequest "jwks_url must not point to a private or loopback IP address")
  else if payload.tokenTtl < 0 then
    .error roles (.badRequest "token_ttl must be >= 0 (0 = non-expiring)")
  else .ok (createK8sRole roles (requestedRole json name payload)) ()

section
variable {json : List String → String} {roles : K8sRoles} {name : String}
variable {payload : K8sRoleRequest}

theorem find?_createK8sRole (roles : K8sRoles) (role : K8sRole) :
    (createK8sRole roles role).find? role.name = some role := by
  unfold createK8sRole
  split
  · rename_i h
    obtain ⟨old, hold, hname⟩ := Table.mem_keys.mp h
    refine Table.find?_eq_some_iff.mpr ⟨?_, rfl⟩
    refine Table.mem_updateWhere_key.mpr (.inr ⟨old, hold, hname, ?_⟩)
    rw [hname]
  · exact Table.find?_eq_some_iff.mpr ⟨Table.mem_insert.mpr (.inr rfl), rfl⟩

theorem k8sCreateRole_ok_iff :
    (k8sCreateRole json roles name payload).result = .ok () ↔
      httpsPrefix <+: payload.jwksUrl.toList ∧ pointsToPrivateIp payload.jwksUrl = false ∧
        0 ≤ payload.tokenTtl := by
  unfold k8sCreateRole
  split
  · rename_i h
    simp [← List.isPrefixOf_iff_prefix, h]
  · rename_i hstarts
    have hhttps : httpsPrefix <+: payload.jwksUrl.toList := by
      rw [← List.isPrefixOf_iff_prefix]
      simpa using hstarts
    split
    · rename_i h
      simp [h]
    · rename_i hpublic
      split
      · rename_i h
        simp [Int.not_le.mpr h]
      · rename_i httl
        simp [hhttps, hpublic, Int.not_lt.mp httl]

theorem k8sCreateRole_state (h : (k8sCreateRole json roles name payload).result = .ok ()) :
    (k8sCreateRole json roles name payload).state =
      createK8sRole roles (requestedRole json name payload) := by
  unfold k8sCreateRole at h ⊢
  split at h
  · cases h
  · split at h
    · cases h
    · split at h
      · cases h
      · rename_i hhttps hpublic httl
        rw [if_neg hhttps, if_neg hpublic, if_neg httl]
        rfl

theorem jwksUrl_of_k8sCreateRole
    (h : (k8sCreateRole json roles name payload).result = .ok ()) :
    ((k8sCreateRole json roles name payload).state.find? name).map K8sRole.jwksUrl =
      some payload.jwksUrl := by
  have hfind := find?_createK8sRole roles (requestedRole json name payload)
  rw [k8sCreateRole_state h]
  exact congrArg (Option.map K8sRole.jwksUrl) hfind

end
end Kubernetes
end AuthVerifier
