import AuthVerifier.KubernetesAcceptance
import AuthVerifier.KubernetesRoles
import AuthVerifier.Lib.JsonStrings
import AuthVerifier.Lib.Simulation
import Mathlib.Data.Finmap
import Mathlib.Data.Finset.Sort
import Mathlib.Data.String.Basic

/-!
The Kubernetes roles as their callers see them, following the other endpoints of
`endpoints/kubernetes.rs`. A role is stored with its lists as JSON texts, which a read and a login
parse again; what it is for is said by a book that holds the accepted requests themselves.
-/

set_option autoImplicit false

namespace AuthVerifier
open Effects Relational Transition

structure K8sRoleConfigData where
  jwksUrl : String
  boundServiceAccountNames : List String
  boundServiceAccountNamespaces : List String
  tokenTtl : Int
  expectedIssuer : Option String
  boundAudiences : List String
  deriving DecidableEq

structure K8sState where
  roles : K8sRoles
  tokens : AppTokens

inductive K8sRequest where
  | createRole (name : String) (payload : K8sRoleRequest)
  | deleteRole (name : String)
  | listRoles
  | getRole (name : String)
  | login (m : K8sMoment) (body : Except String K8sLoginRequest)

inductive K8sAnswer where
  | noContent
  | keys (names : List String)
  | config (data : K8sRoleConfigData)
  | loggedIn (response : K8sLoginResponse)
  deriving DecidableEq

namespace Kubernetes

def deleteK8sRole (roles : K8sRoles) (name : String) : K8sRoles :=
  roles.deleteWhere (fun r => r.name == name)

def listK8sRoleNames (roles : K8sRoles) : List String := roles.keys.insertionSort (· ≤ ·)

def roleNotFound (name : String) : AuthError := .badRequest s!"role '{name}' not found"

section
variable (K : K8sCrates) (json : List String → String)

def k8sGetRole (roles : K8sRoles) (name : String) : Except AuthError K8sRoleConfigData :=
  match roles.find? name with
  | none => .error (roleNotFound name)
  | some role => match K.parseStrings role.boundSaNames with
    | none => .error (.generic "role has corrupt bound_sa_names data")
    | some names => match K.parseStrings role.boundSaNamespaces with
      | none => .error (.generic "role has corrupt bound_sa_namespaces data")
      | some namespaces => match K.parseStrings role.boundAudiences with
        | none => .error (.generic "role has corrupt bound_audiences data")
        | some audiences => .ok
            { jwksUrl := role.jwksUrl, boundServiceAccountNames := names
              boundServiceAccountNamespaces := namespaces, tokenTtl := role.tokenTtlSecs
              expectedIssuer := role.expectedIssuer, boundAudiences := audiences }

def handle (s : K8sState) : K8sRequest → K8sState × Except AuthError K8sAnswer
  | .createRole name payload =>
    let out := k8sCreateRole json s.roles name payload
    ({ s with roles := out.state }, out.result.map fun () => .noContent)
  | .deleteRole name => ({ s with roles := deleteK8sRole s.roles name }, .ok .noContent)
  | .listRoles => (s, .ok (.keys (listK8sRoleNames s.roles)))
  | .getRole name => (s, (k8sGetRole K s.roles name).map .config)
  | .login m body =>
    let out := k8sLogin K m s.roles s.tokens body
    ({ s with tokens := out.state }, out.result.map .loggedIn)

end
end Kubernetes

abbrev RoleBook := Finmap fun _ : String => K8sRoleRequest

namespace RoleBook
open Kubernetes

def objection (payload : K8sRoleRequest) : Option AuthError :=
  if ¬ httpsPrefix <+: payload.jwksUrl.toList then
    some (.badRequest "jwks_url must use the https:// scheme")
  else if pointsToPrivateIp payload.jwksUrl then
    some (.badRequest "jwks_url must not point to a private or loopback IP address")
  else if payload.tokenTtl < 0 then
    some (.badRequest "token_ttl must be >= 0 (0 = non-expiring)")
  else none

def permits (bound : List String) (value : String) : Bool :=
  bound.isEmpty || bound.contains "*" || bound.contains value

def shown (payload : K8sRoleRequest) : K8sRoleConfigData :=
  { jwksUrl := payload.jwksUrl
    boundServiceAccountNames := effective payload.boundServiceAccountNames
    boundServiceAccountNamespaces := effective payload.boundServiceAccountNamespaces
    tokenTtl := payload.tokenTtl, expectedIssuer := payload.expectedIssuer
    boundAudiences := payload.boundAudiences }

variable (K : K8sCrates)

/-- The service account that a token stands for under a request, if it is let in. -/
def admitted (now : Int) (payload : K8sRoleRequest) (keys : JwkSet) (token : String) :
    Option (String × String) :=
  match validateK8sJwt K now token keys payload.expectedIssuer payload.boundAudiences with
  | .error _ => none
  | .ok claims => match parseK8sSub (claims.sub.getD "") with
    | .error _ => none
    | .ok (ns, name) =>
      if permits payload.boundServiceAccountNames name &&
          permits payload.boundServiceAccountNamespaces ns then some (ns, name)
      else none

def login (m : K8sMoment) (book : RoleBook) (tokens : AppTokens)
    (body : Except String K8sLoginRequest) : Outcome AppTokens AuthError K8sLoginResponse :=
  match body with
  | .error e => .error tokens (.badRequest s!"invalid Kubernetes login body: {e}")
  | .ok request => match book.lookup request.role with
    | none => .error tokens rejected
    | some payload => match m.fetchJwks payload.jwksUrl with
      | none => .error tokens (.generic "JWKS fetch failed; check server logs")
      | some keys => match admitted K m.now payload keys request.jwt with
        | none => .error tokens rejected
        | some (ns, name) =>
          match AppTokenDb.issueAppToken tokens (AppTokenEndpoints.newToken K.digest m.now m.drawn
              (ns ++ "/" ++ name) [] payload.tokenTtl true) with
          | .error e => .error tokens (AuthError.ofDb e)
          | .ok tokens => .ok tokens
              { clientToken := m.drawn, renewable := true, leaseDuration := payload.tokenTtl
                policies := []
                metadata := [("role", request.role), ("service_account_name", name),
                             ("service_account_namespace", ns)] }

def handle (s : RoleBook × AppTokens) :
    K8sRequest → (RoleBook × AppTokens) × Except AuthError K8sAnswer
  | .createRole name payload => match objection payload with
    | some e => (s, .error e)
    | none => ((s.1.insert name payload, s.2), .ok .noContent)
  | .deleteRole name => ((s.1.erase name, s.2), .ok .noContent)
  | .listRoles => (s, .ok (.keys s.1.keys.sort))
  | .getRole name => match s.1.lookup name with
    | none => (s, .error (roleNotFound name))
    | some payload => (s, .ok (.config (shown payload)))
  | .login m body =>
    let out := login K m s.1 s.2 body
    ((s.1, out.state), out.result.map .loggedIn)

end RoleBook

namespace Kubernetes
variable {K : K8sCrates} {json : List String → String} {roles : K8sRoles} {book : RoleBook}

/-- Each stored role is that of the request which the book holds under its name. -/
def Keeps (json : List String → String) (roles : K8sRoles) (book : RoleBook) : Prop :=
  ∀ name, roles.find? name = (book.lookup name).map (requestedRole json name)

theorem k8sCreateRole_eq (name : String) (payload : K8sRoleRequest) :
    k8sCreateRole json roles name payload = match RoleBook.objection payload with
      | some e => .error roles e
      | none => .ok (createK8sRole roles (requestedRole json name payload)) () := by
  have hstarts : (httpsPrefix.isPrefixOf payload.jwksUrl.toList = false) =
      ¬ httpsPrefix <+: payload.jwksUrl.toList := by
    rw [← List.isPrefixOf_iff_prefix, Bool.not_eq_true]
  unfold k8sCreateRole RoleBook.objection
  simp only [hstarts]
  split
  · rfl
  · split
    · rfl
    · split <;> rfl

theorem find?_createK8sRole_of_ne {role : K8sRole} {name : String} (h : name ≠ role.name) :
    (createK8sRole roles role).find? name = roles.find? name := by
  have hother : ∀ r ∈ createK8sRole roles role, r.name = name → r ∈ roles := by
    intro r hr hname
    unfold createK8sRole at hr
    split at hr
    · rcases Table.mem_updateWhere_key.mp hr with ⟨hr, _⟩ | ⟨old, _, hold, rfl⟩
      · exact hr
      · exact absurd (hname.symm.trans hold) h
    · rcases Table.mem_insert.mp hr with hr | rfl
      · exact hr
      · exact absurd hname.symm h
  have hkept : ∀ r ∈ roles, r.name = name → r ∈ createK8sRole roles role := by
    intro r hr hname
    unfold createK8sRole
    split
    · exact Table.mem_updateWhere_key.mpr (.inl ⟨hr, hname ▸ h⟩)
    · exact Table.mem_insert.mpr (.inl hr)
  refine Option.ext fun r => ?_
  rw [Table.find?_eq_some_iff, Table.find?_eq_some_iff]
  exact ⟨fun hr => ⟨hother r hr.1 hr.2, hr.2⟩, fun hr => ⟨hkept r hr.1 hr.2, hr.2⟩⟩

theorem Keeps.create (h : Keeps json roles book) (name : String) (payload : K8sRoleRequest) :
    Keeps json (createK8sRole roles (requestedRole json name payload))
      (book.insert name payload) := by
  intro other
  by_cases hname : other = name
  · subst hname
    rw [Finmap.lookup_insert]
    exact find?_createK8sRole roles (requestedRole json other payload)
  · rw [Finmap.lookup_insert_of_ne _ hname, ← h other]
    exact find?_createK8sRole_of_ne hname

theorem Keeps.delete (h : Keeps json roles book) (name : String) :
    Keeps json (deleteK8sRole roles name) (book.erase name) := by
  intro other
  have hdelete := @Table.find?_deleteWhere_key _ _ _ _ roles name other
  rw [deleteK8sRole, hdelete]
  by_cases hname : other = name
  · subst hname
    simp
  · simp [hname, h other, Finmap.lookup_erase_ne hname]

theorem Keeps.listNames (h : Keeps json roles book) : listK8sRoleNames roles = book.keys.sort := by
  have hperm : (listK8sRoleNames roles).Perm roles.keys := List.perm_insertionSort _ _
  have hnodup : (listK8sRoleNames roles).Nodup := hperm.nodup_iff.mpr roles.nodup
  have hkeys : (listK8sRoleNames roles).toFinset = book.keys := by
    ext name
    rw [List.mem_toFinset, hperm.mem_iff, Finmap.mem_keys, ← not_iff_not,
      ← Table.find?_eq_none_iff, ← Finmap.lookup_eq_none, h name, Option.map_eq_none_iff]
  rw [← hkeys]
  exact ((List.toFinset_sort (· ≤ ·) hnodup).mpr (List.pairwise_insertionSort _ _)).symm

theorem allows_effective (bound : List String) (value : String) :
    allows (effective bound) value = RoleBook.permits bound value := by
  unfold effective RoleBook.permits
  split
  · rename_i hempty
    simp [hempty, allows]
  · rename_i hempty
    simp [hempty, allows]

section
variable (hjson : ∀ strings, K.parseStrings (json strings) = some strings)
include hjson

theorem Keeps.getRole (h : Keeps json roles book) (name : String) :
    k8sGetRole K roles name = match book.lookup name with
      | none => .error (roleNotFound name)
      | some payload => .ok (RoleBook.shown payload) := by
  unfold k8sGetRole
  rw [h name]
  cases book.lookup name with
  | none => rfl
  | some payload => simp only [Option.map_some, requestedRole, hjson, RoleBook.shown]

theorem authenticate_requestedRole (now : Int) (name : String) (payload : K8sRoleRequest)
    (keys : JwkSet) (token : String) :
    authenticate K now (requestedRole json name payload) keys token =
      match RoleBook.admitted K now payload keys token with
      | none => .error rejected
      | some account => .ok account := by
  simp only [authenticate, requestedRole, hjson, RoleBook.admitted, allows_effective]
  cases validateK8sJwt K now token keys payload.expectedIssuer payload.boundAudiences with
  | error e => rfl
  | ok claims =>
    dsimp only
    cases parseK8sSub (claims.sub.getD "") with
    | error e => rfl
    | ok account =>
      dsimp only
      cases RoleBook.permits payload.boundServiceAccountNames account.2 with
      | false => rfl
      | true => cases RoleBook.permits payload.boundServiceAccountNamespaces account.1 <;> rfl

theorem Keeps.login (h : Keeps json roles book) (m : K8sMoment) (tokens : AppTokens)
    (body : Except String K8sLoginRequest) :
    k8sLogin K m roles tokens body = RoleBook.login K m book tokens body := by
  cases body with
  | error e => rfl
  | ok request =>
    simp only [k8sLogin, RoleBook.login]
    rw [h request.role]
    cases book.lookup request.role with
    | none => rfl
    | some payload =>
      simp only [Option.map_some]
      have hurl : (requestedRole json request.role payload).jwksUrl = payload.jwksUrl := rfl
      rw [hurl]
      cases m.fetchJwks payload.jwksUrl with
      | none => rfl
      | some keys =>
        dsimp only
        rw [authenticate_requestedRole hjson]
        cases RoleBook.admitted K m.now payload keys request.jwt with
        | none => rfl
        | some account => rfl

theorem simulates_book :
    Simulates (handle K json) (RoleBook.handle K)
      (fun s t => Keeps json s.roles t.1 ∧ s.tokens = t.2) := by
  rintro ⟨roles, tokens⟩ ⟨book, _⟩ req ⟨hkeeps, rfl⟩
  cases req with
  | createRole name payload =>
    simp only [handle, RoleBook.handle]
    rw [k8sCreateRole_eq]
    cases RoleBook.objection payload with
    | some e => exact ⟨rfl, hkeeps, rfl⟩
    | none => exact ⟨rfl, hkeeps.create name payload, rfl⟩
  | deleteRole name => exact ⟨rfl, hkeeps.delete name, rfl⟩
  | listRoles =>
    simp only [handle, RoleBook.handle, hkeeps.listNames]
    exact ⟨trivial, hkeeps, trivial⟩
  | getRole name =>
    simp only [handle, RoleBook.handle, hkeeps.getRole hjson]
    cases book.lookup name with
    | none => exact ⟨rfl, hkeeps, rfl⟩
    | some payload => exact ⟨rfl, hkeeps, rfl⟩
  | login m body =>
    simp only [handle, RoleBook.handle, hkeeps.login hjson]
    exact ⟨trivial, hkeeps, trivial⟩

end

/-- Over every run of requests, from no roles at all, the tables answer as the book of accepted
requests does: what is shown of a role is what it was last asked to be, with the lists left empty
shown as `*`, and a login is let in or refused by the same lists, always in the same words. -/
theorem k8s_roles_refine_book (hjson : ∀ strings, K.parseStrings (json strings) = some strings)
    (tokens : AppTokens) (requests : List K8sRequest) :
    outputs (handle K json) ⟨.empty, tokens⟩ requests =
      outputs (RoleBook.handle K) (∅, tokens) requests :=
  (simulates_book hjson).outputs_eq ⟨fun _ => rfl, rfl⟩ requests

def jsonText (strings : List String) : String :=
  String.ofList (JsonStrings.write (strings.map String.toList))

def jsonCrates : K8sCrates :=
  { clearCrates with
    parseStrings := fun text => (JsonStrings.read text.toList).map (·.map String.ofList) }

theorem jsonCrates_parse (strings : List String) :
    jsonCrates.parseStrings (jsonText strings) = some strings := by
  simp [jsonCrates, jsonText, JsonStrings.read_write, Function.comp_def]

/-- A role for the service account `web` of any namespace, read back and used. -/
def spireRequests : List K8sRequest :=
  [.createRole "spire" { jwksUrl := "https://cluster-a/jwks", tokenTtl := 3600
                         boundServiceAccountNames := ["web"] },
    .getRole "spire", .login spireMoment (.ok (spireLogin "https://cluster-a")),
    .deleteRole "spire", .login spireMoment (.ok (spireLogin "https://cluster-a"))]

theorem k8s_roles_refine_book_spire :
    (outputs (handle jsonCrates jsonText) ⟨.empty, .empty⟩ spireRequests)[1]? =
      some (.ok (.config
        { jwksUrl := "https://cluster-a/jwks", boundServiceAccountNames := ["web"]
          boundServiceAccountNamespaces := ["*"], tokenTtl := 3600, expectedIssuer := none
          boundAudiences := [] })) ∧
    (outputs (handle jsonCrates jsonText) ⟨.empty, .empty⟩ spireRequests)[4]? =
      some (.error rejected) := by
  rw [k8s_roles_refine_book jsonCrates_parse .empty spireRequests]
  decide

end Kubernetes
end AuthVerifier
