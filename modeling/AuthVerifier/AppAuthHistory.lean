import AuthVerifier.AppAuth
import AuthVerifier.Lib.Transcript
import Mathlib.Data.Set.Function

/-!
What the granted requests of a run say about its logins. The tables hold digests, counters and
times; here a role is what it was last asked to be, and a secret-ID is good as long as it was
granted for and nobody has withdrawn it.
-/

set_option autoImplicit false

namespace AuthVerifier
open Bounded Effects Relational Transition

def AppAuthCall.draws (c : AppAuthCall) : List String :=
  match c.request with
  | .createRole _ _ freshId => [freshId]
  | .generateSecretId _ _ accessor secretId => [accessor, secretId]
  | .login _ drawn => [drawn]
  | .kubernetes (.login m _) => [m.drawn]
  | _ => []

def AppAuthCall.presents (c : AppAuthCall) : List String :=
  match c.request with
  | .login (.ok payload) _ => payload.secretId.toList
  | .lookupSelf header => header.toList
  | .renewSelf header => header.toList
  | .revokeSelf header => header.toList
  | _ => []

namespace AppAuth

abbrev Entry := AppAuthCall × AppAuthResult

def standing (name : String) : List Entry → Option (String × AppRoleRoleRequest)
  | [] => none
  | (c, result) :: older => match c.request, result with
    | .createRole other payload freshId, .ok _ =>
      if other = name then some (((standing name older).map Prod.fst).getD freshId, payload)
      else standing name older
    | .deleteRole other, .ok _ => if other = name then none else standing name older
    | _, _ => standing name older

def asks (roleId : String) : Option (String × AppRoleRoleRequest) → Bool
  | some (id, payload) => id == roleId && payload.bindSecretId
  | none => false

def timesUsed (name secretId : String) : List Entry → Int
  | [] => 0
  | (c, result) :: older => match c.request, result with
    | .login (.ok ⟨roleId, some presented⟩) _, .ok _ =>
      if presented = secretId ∧ asks roleId (standing name older) then
        timesUsed name secretId older + 1
      else timesUsed name secretId older
    | _, _ => timesUsed name secretId older

/-- A secret-ID as it was generated: the request, the settings of its role and the time. -/
structure Generation where
  name : String
  payload : AppRoleSecretIdRequest
  accessor : String
  secretId : String
  settings : AppRoleRoleRequest
  now : Int

def Generation.ttl (g : Generation) : Int :=
  if g.payload.ttl > 0 then g.payload.ttl else g.settings.secretIdTtl

/-- When it ends, in the arithmetic of a release build; zero stands for never. -/
def Generation.expiry (g : Generation) : Int := if g.ttl > 0 then i64 (g.now + g.ttl) else 0

def Generates (g : Generation) (older : List Entry) (e : Entry) : Prop :=
  e.1.request = .generateSecretId g.name g.payload g.accessor g.secretId ∧
    e.2 = .ok (.secretId g.secretId g.accessor) ∧ e.1.times.store = g.now ∧
    ∃ roleId, standing g.name older = some (roleId, g.settings)

def Withdraws (g : Generation) (e : Entry) : Prop :=
  (e.1.request = .destroySecretId g.name g.accessor ∨ e.1.request = .deleteRole g.name) ∧
    ∃ answer, e.2 = .ok answer

def Outstanding (hist : List Entry) (g : Generation) : Prop :=
  Since (Generates g) (Withdraws g) hist

def Unspent (hist : List Entry) (g : Generation) : Prop :=
  g.payload.numUses > 0 → timesUsed g.name g.secretId hist < g.payload.numUses

structure Usable (hist : List Entry) (now : Int) (g : Generation) : Prop where
  outstanding : Outstanding hist g
  unexpired : g.expiry = 0 ∨ now < g.expiry
  unspent : Unspent hist g

/-- What a run can rely on: nothing is drawn twice, and the digests tell the texts that occur
apart. -/
structure Ordinary (digest : String → List UInt8) (calls : List AppAuthCall) : Prop where
  drawnOnce : (calls.flatMap AppAuthCall.draws).Nodup
  digests : Set.InjOn digest {x | ∃ c ∈ calls, x ∈ c.draws ∨ x ∈ c.presents}

/-- The role lets the login in: it has this id, and gets a good secret-ID if it asks for one. -/
def Opens (hist : List Entry) (now : Int) (roleId : String) (presented : Option String)
    (name : String) (payload : AppRoleRoleRequest) : Prop :=
  standing name hist = some (roleId, payload) ∧
    (payload.bindSecretId = true → ∃ g, Usable hist now g ∧ g.name = name ∧
      presented = some g.secretId ∧ g.secretId ≠ "")

def roleRow (name : String) (role : String × AppRoleRoleRequest) : AppRole :=
  { name := name, roleId := role.1, secretIdTtlSecs := role.2.secretIdTtl
    tokenTtlSecs := role.2.tokenTtl, bindSecretId := role.2.bindSecretId
    tokenPolicies := role.2.tokenPolicies }

def secretRow (digest : String → List UInt8) (used : Int) (g : Generation) : AppSecretId :=
  { accessor := g.accessor, secretIdHash := digest g.secretId, roleName := g.name
    expiry := g.expiry
    numUsesRemaining := if g.payload.numUses > 0 then g.payload.numUses - used else -1 }

def drawnIn (hist : List Entry) : List String := (hist.map Prod.fst).flatMap AppAuthCall.draws

/-- The roles are those that stand, and no two have an id in common. -/
structure RolesRecorded (hist : List Entry) (roles : AppRoleTable) : Prop where
  rows : ∀ name, roles.find? name = (standing name hist).map (roleRow name)
  drawn : ∀ name role, standing name hist = some role → role.1 ∈ drawnIn hist
  distinct : ∀ name other role role', standing name hist = some role →
    standing other hist = some role' → role.1 = role'.1 → name = other

/-- The secret-IDs are those outstanding that have uses left, each with the number left. -/
structure SecretsRecorded (digest : String → List UInt8) (hist : List Entry)
    (secrets : AppSecretIds) : Prop where
  rows : ∀ row, row ∈ secrets ↔ ∃ g, Outstanding hist g ∧ Unspent hist g ∧
    row = secretRow digest (timesUsed g.name g.secretId hist) g
  drawn : ∀ g, Outstanding hist g → g.accessor ∈ drawnIn hist ∧ g.secretId ∈ drawnIn hist
  once : ∀ g g', Outstanding hist g → Outstanding hist g' →
    g.accessor = g'.accessor ∨ g.secretId = g'.secretId → g = g'
  used : ∀ name secretId, secretId ∉ drawnIn hist → timesUsed name secretId hist = 0

/-- The entry is a login that was let in, and answers with this token for this holder. -/
inductive Grants (older : List Entry) : Entry → String → String → List String → Prop where
  | approle {t : TokenTimes} {roleId drawn name : String} {presented : Option String}
      {payload : AppRoleRoleRequest} (opens : Opens older t.lookup roleId presented name payload) :
      Grants older (⟨t, .login (.ok ⟨roleId, presented⟩) drawn⟩,
        .ok (.loggedIn (granted (roleRow name (roleId, payload)) drawn)))
        drawn name payload.tokenPolicies
  | kubernetes {t : TokenTimes} {m : K8sMoment} {request : K8sLoginRequest} {ns account : String}
      {auth : AppAuthData} (token : auth.clientToken = m.drawn)
      (holder : auth.metadata = [("role", request.role), ("service_account_name", account),
        ("service_account_namespace", ns)]) :
      Grants older (⟨t, .kubernetes (.login m (.ok request))⟩, .ok (.kubernetes (.loggedIn auth)))
        m.drawn (ns ++ "/" ++ account) []

def Revokes (raw : String) (e : Entry) : Prop :=
  e.1.request = .revokeSelf (some raw) ∧ ∃ answer, e.2 = .ok answer

def Held (hist : List Entry) (raw entity : String) (policies : List String) : Prop :=
  Since (fun older e => Grants older e raw entity policies) (Revokes raw) hist

def TokensRecorded (digest : String → List UInt8) (hist : List Entry) (tokens : AppTokens) : Prop :=
  ∀ token ∈ tokens, ∃ raw, Held hist raw token.entity token.policies ∧ token.tokenHash = digest raw

structure Recorded (digest : String → List UInt8) (hist : List Entry) (s : AppAuthState) : Prop where
  roles : RolesRecorded hist s.roles
  secrets : SecretsRecorded digest hist s.secrets
  tokens : TokensRecorded digest hist s.tokens

section
variable {digest : String → List UInt8} {hist : List Entry} {e : Entry} {g : Generation}
  {name : String}

def RoleQuiet (e : Entry) : Prop := ∀ name older, standing name (e :: older) = standing name older

/-- After these entries, the next says nothing about secret-IDs. -/
structure SecretQuiet (hist : List Entry) (e : Entry) : Prop where
  used : ∀ name secretId, timesUsed name secretId (e :: hist) = timesUsed name secretId hist
  generates : ∀ g, ¬ Generates g hist e
  withdraws : ∀ g, ¬ Withdraws g e

theorem secretQuiet_of_ne {t : TokenTimes} {request : AppAuthRequest} {result : AppAuthResult}
    (hused : ∀ name secretId, timesUsed name secretId ((⟨t, request⟩, result) :: hist) =
      timesUsed name secretId hist)
    (hgenerate : ∀ name payload accessor secretId,
      request ≠ .generateSecretId name payload accessor secretId)
    (hdestroy : ∀ name accessor, request ≠ .destroySecretId name accessor)
    (hdelete : ∀ name, request ≠ .deleteRole name) :
    SecretQuiet hist (⟨t, request⟩, result) :=
  ⟨hused, fun _ hg => hgenerate _ _ _ _ hg.1, fun _ hg => hg.1.elim (hdestroy _ _) (hdelete _)⟩

theorem roleQuiet_of_error (c : AppAuthCall) (f : TokenFailure) : RoleQuiet (c, .error f) := by
  obtain ⟨t, request⟩ := c
  intro name older
  cases request <;> rfl

theorem secretQuiet_of_error (c : AppAuthCall) (f : TokenFailure) :
    SecretQuiet hist (c, .error f) := by
  refine ⟨?_, ?_, ?_⟩
  · obtain ⟨t, request⟩ := c
    intro name secretId
    cases request with
    | login body drawn =>
      cases body with
      | error _ => rfl
      | ok payload =>
        obtain ⟨roleId, _ | presented⟩ := payload
        · rfl
        · rfl
    | _ => rfl
  · rintro g ⟨_, hres, _⟩
    cases hres
  · rintro g ⟨_, answer, hres⟩
    cases hres

theorem RolesRecorded.of_quiet {roles : AppRoleTable} (h : RolesRecorded hist roles)
    (he : RoleQuiet e) : RolesRecorded (e :: hist) roles where
  rows := by
    intro name
    rw [he, h.rows]
  drawn := by
    intro name role hrole
    rw [he] at hrole
    exact List.mem_append_right _ (h.drawn name role hrole)
  distinct := by
    intro name other role role' hrole hrole'
    rw [he] at hrole hrole'
    exact h.distinct name other role role' hrole hrole'

theorem find?_createApprole {roles roles' : AppRoleTable} {role : AppRole}
    (h : AppRoleDb.createApprole roles role = .ok roles') (name : String) :
    roles'.find? name = if role.name = name then some role else roles.find? name := by
  unfold AppRoleDb.createApprole at h
  split at h
  · cases h
  · split at h
    · rename_i hthere
      cases h
      obtain ⟨old, hold, hname⟩ := Table.mem_keys.mp hthere
      by_cases hn : role.name = name
      · subst hn
        rw [if_pos rfl, Table.find?_updateWhere_key (Table.find?_eq_some_iff.mpr ⟨hold, hname⟩),
          hname]
      · rw [if_neg hn, Table.find?_updateWhere_of_miss]
        intro r hr hrn
        exact hn ((beq_iff_eq.mp hr).symm.trans hrn)
    · cases h
      exact Table.find?_insert

theorem RolesRecorded.createRole {roles roles' : AppRoleTable} {role : AppRole} {t : TokenTimes}
    {payload : AppRoleRoleRequest} {freshId : String} {answer : AppAuthAnswer}
    (h : RolesRecorded hist roles) (hfresh : freshId ∉ drawnIn hist)
    (hrole : role = roleRow name
      (((roles.find? name).map AppRole.roleId).getD freshId, payload))
    (hcreate : AppRoleDb.createApprole roles role = .ok roles') :
    RolesRecorded ((⟨t, .createRole name payload freshId⟩, .ok answer) :: hist) roles' := by
  have hid : (roles.find? name).map AppRole.roleId = (standing name hist).map Prod.fst := by
    rw [h.rows, Option.map_map]
    rfl
  have hstanding (other : String) :
      standing other ((⟨t, .createRole name payload freshId⟩, .ok answer) :: hist) =
        if name = other then some (((standing other hist).map Prod.fst).getD freshId, payload)
        else standing other hist := rfl
  have hnew : ((standing name hist).map Prod.fst).getD freshId ∈ freshId :: drawnIn hist := by
    cases hs : standing name hist with
    | none => exact List.mem_cons_self
    | some r => exact List.mem_cons_of_mem _ (h.drawn name r hs)
  have hother {other : String} {r : String × AppRoleRoleRequest} (hr : standing other hist = some r)
      (hsame : ((standing name hist).map Prod.fst).getD freshId = r.1) : name = other := by
    cases hs : standing name hist with
    | none =>
      rw [hs] at hsame
      change freshId = r.1 at hsame
      exact absurd (hsame ▸ h.drawn other r hr) hfresh
    | some r' =>
      rw [hs] at hsame
      exact h.distinct name other r' r hs hr hsame
  constructor
  · intro other
    rw [find?_createApprole hcreate, hstanding, hrole, hid]
    by_cases hn : name = other
    · subst hn
      rw [if_pos rfl]
      exact if_pos rfl
    · rw [if_neg hn, if_neg (show ¬ (roleRow name _).name = other from hn), h.rows]
  · intro other r hr
    rw [hstanding] at hr
    split at hr
    · rename_i hn
      cases hr
      exact hn ▸ hnew
    · exact List.mem_cons_of_mem _ (h.drawn other r hr)
  · intro n₁ n₂ r₁ r₂ h₁ h₂ hsame
    rw [hstanding] at h₁ h₂
    split at h₁
    · rename_i hn₁
      subst hn₁
      cases h₁
      split at h₂
      · assumption
      · exact hother h₂ hsame
    · split at h₂
      · rename_i hn₂
        subst hn₂
        cases h₂
        exact (hother h₁ hsame.symm).symm
      · exact h.distinct n₁ n₂ r₁ r₂ h₁ h₂ hsame

theorem RolesRecorded.deleteRole {roles : AppRoleTable} {t : TokenTimes} {answer : AppAuthAnswer}
    (h : RolesRecorded hist roles) :
    RolesRecorded ((⟨t, .deleteRole name⟩, .ok answer) :: hist)
      (roles.deleteWhere (fun role => role.name == name)) := by
  have hstanding (other : String) :
      standing other ((⟨t, .deleteRole name⟩, .ok answer) :: hist) =
        if name = other then none else standing other hist := rfl
  have hold {other : String} {r : String × AppRoleRoleRequest}
      (hr : standing other ((⟨t, .deleteRole name⟩, .ok answer) :: hist) = some r) :
      standing other hist = some r := by
    rw [hstanding] at hr
    split at hr
    · cases hr
    · exact hr
  constructor
  · intro other
    rw [Table.find?_deleteWhere_key, hstanding]
    by_cases hn : name = other
    · rw [if_pos hn, if_pos hn.symm]
      rfl
    · rw [if_neg hn, if_neg (Ne.symm hn), h.rows]
  · exact fun other r hr => h.drawn other r (hold hr)
  · exact fun n₁ n₂ r₁ r₂ h₁ h₂ => h.distinct n₁ n₂ r₁ r₂ (hold h₁) (hold h₂)

theorem RolesRecorded.getApproleByRoleId {roles : AppRoleTable} (h : RolesRecorded hist roles)
    {roleId : String} {role : AppRole} :
    AppRoleDb.getApproleByRoleId roles roleId = some role ↔
      ∃ name payload, standing name hist = some (roleId, payload) ∧
        role = roleRow name (roleId, payload) := by
  have hmem (row : AppRole) : row ∈ roles ↔
      ∃ r, standing row.name hist = some r ∧ row = roleRow row.name r := by
    rw [show row ∈ roles ↔ roles.find? row.name = some row from
      ⟨fun hr => Table.find?_eq_some_iff.mpr ⟨hr, rfl⟩, fun hr => (Table.find?_eq_some_iff.mp hr).1⟩,
      h.rows, Option.map_eq_some_iff]
    exact exists_congr fun r => and_congr_right fun _ => eq_comm
  constructor
  · intro hfind
    obtain ⟨r, hr, hrow⟩ := (hmem role).mp (List.mem_of_find?_eq_some hfind)
    have hid : role.roleId = roleId := by simpa using List.find?_some hfind
    have hr1 : r.1 = roleId := by rw [← hid, hrow]; rfl
    subst hr1
    exact ⟨role.name, r.2, hr, hrow⟩
  · rintro ⟨name, payload, hr, rfl⟩
    have hrow : roleRow name (roleId, payload) ∈ roles := (hmem _).mpr ⟨_, hr, rfl⟩
    cases hfind : AppRoleDb.getApproleByRoleId roles roleId with
    | none =>
      have hno := List.find?_eq_none.mp hfind _ hrow
      simp [roleRow] at hno
    | some found =>
      obtain ⟨r, hfound, hfrow⟩ := (hmem found).mp (List.mem_of_find?_eq_some hfind)
      have hid : found.roleId = roleId := by simpa using List.find?_some hfind
      have hr1 : r.1 = roleId := by rw [← hid, hfrow]; rfl
      have hname := h.distinct _ _ _ _ hr hfound hr1.symm
      rw [← hname] at hfound hfrow
      rw [hr] at hfound
      cases hfound
      rw [hfrow]

theorem SecretsRecorded.withdraw {secrets : AppSecretIds} {p : AppSecretId → Bool}
    (h : SecretsRecorded digest hist secrets)
    (hused : ∀ name secretId, timesUsed name secretId (e :: hist) = timesUsed name secretId hist)
    (hgenerates : ∀ g, ¬ Generates g hist e)
    (hp : ∀ g, p (secretRow digest (timesUsed g.name g.secretId hist) g) = true ↔ Withdraws g e) :
    SecretsRecorded digest (e :: hist) (secrets.deleteWhere p) := by
  have hout (g : Generation) :
      Outstanding (e :: hist) g ↔ Outstanding hist g ∧ ¬ Withdraws g e := by
    rw [Outstanding, since_cons]
    exact or_iff_right (hgenerates g)
  constructor
  · intro row
    rw [Table.mem_deleteWhere, h.rows]
    constructor
    · rintro ⟨⟨g, hg, hleft, rfl⟩, hkept⟩
      have hno : ¬ Withdraws g e := by
        rw [← hp g, hkept]
        exact Bool.false_ne_true
      refine ⟨g, (hout g).mpr ⟨hg, hno⟩, ?_, by rw [hused]⟩
      rwa [Unspent, hused]
    · rintro ⟨g, hg, hleft, rfl⟩
      obtain ⟨hg, hno⟩ := (hout g).mp hg
      rw [hused]
      rw [Unspent, hused] at hleft
      refine ⟨⟨g, hg, hleft, rfl⟩, ?_⟩
      rw [← Bool.not_eq_true]
      exact mt (hp g).mp hno
  · intro g hg
    obtain ⟨haccessor, hsecret⟩ := h.drawn g ((hout g).mp hg).1
    exact ⟨List.mem_append_right _ haccessor, List.mem_append_right _ hsecret⟩
  · exact fun g g' hg hg' => h.once g g' ((hout g).mp hg).1 ((hout g').mp hg').1
  · intro name secretId hno
    rw [hused]
    exact h.used name secretId fun hmem => hno (List.mem_append_right _ hmem)

theorem SecretsRecorded.of_quiet {secrets : AppSecretIds} (h : SecretsRecorded digest hist secrets)
    (he : SecretQuiet hist e) : SecretsRecorded digest (e :: hist) secrets := by
  have hsame : secrets.deleteWhere (fun _ => false) = secrets :=
    Table.ext_rows (by simp [Table.deleteWhere])
  rw [← hsame]
  exact h.withdraw he.used he.generates (fun g => by simp [he.withdraws g])

theorem SecretsRecorded.destroy {secrets : AppSecretIds} {t : TokenTimes} {accessor : String}
    {answer : AppAuthAnswer} (h : SecretsRecorded digest hist secrets) :
    SecretsRecorded digest ((⟨t, .destroySecretId name accessor⟩, .ok answer) :: hist)
      (AppRoleDb.destroySecretId secrets name accessor) := by
  refine h.withdraw (fun _ _ => rfl) ?_ fun g => ?_
  · rintro g ⟨hreq, _⟩
    cases hreq
  · rw [Bool.and_eq_true, beq_iff_eq, beq_iff_eq]
    constructor
    · rintro ⟨rfl, rfl⟩
      exact ⟨.inl rfl, answer, rfl⟩
    · rintro ⟨hreq | hreq, _⟩
      · cases hreq
        exact ⟨rfl, rfl⟩
      · cases hreq

theorem SecretsRecorded.deleteRole {secrets : AppSecretIds} {t : TokenTimes}
    {answer : AppAuthAnswer} (h : SecretsRecorded digest hist secrets) :
    SecretsRecorded digest ((⟨t, .deleteRole name⟩, .ok answer) :: hist)
      (secrets.deleteWhere (fun secret => secret.roleName == name)) := by
  refine h.withdraw (fun _ _ => rfl) ?_ fun g => ?_
  · rintro g ⟨hreq, _⟩
    cases hreq
  · rw [beq_iff_eq]
    constructor
    · rintro rfl
      exact ⟨.inr rfl, answer, rfl⟩
    · rintro ⟨hreq | hreq, _⟩
      · cases hreq
      · cases hreq
        rfl

theorem createSecretId_ok {roles : AppRoleTable} {secrets secrets' : AppSecretIds}
    {row : AppSecretId} (h : AppRoleDb.createSecretId roles secrets row = .ok secrets')
    (other : AppSecretId) : other ∈ secrets' ↔ other ∈ secrets ∨ other = row := by
  unfold AppRoleDb.createSecretId at h
  split at h
  · cases h
  · split at h
    · cases h
    · cases h
      exact Table.mem_insert

theorem SecretsRecorded.generate {secrets secrets' : AppSecretIds} {roles : AppRoleTable}
    {c : AppAuthCall} (h : SecretsRecorded digest hist secrets)
    (hreq : c.request = .generateSecretId g.name g.payload g.accessor g.secretId)
    (hnow : c.times.store = g.now)
    (hrole : ∃ roleId, standing g.name hist = some (roleId, g.settings))
    (haccessor : g.accessor ∉ drawnIn hist) (hsecret : g.secretId ∉ drawnIn hist)
    (hcreate : AppRoleDb.createSecretId roles secrets (secretRow digest 0 g) = .ok secrets') :
    SecretsRecorded digest ((c, .ok (.secretId g.secretId g.accessor)) :: hist) secrets' := by
  obtain ⟨t, request⟩ := c
  subst hreq
  have hgen : Generates g hist
      (⟨t, .generateSecretId g.name g.payload g.accessor g.secretId⟩,
        .ok (.secretId g.secretId g.accessor)) := ⟨rfl, rfl, hnow, hrole⟩
  have hout (g' : Generation) : Outstanding
      ((⟨t, .generateSecretId g.name g.payload g.accessor g.secretId⟩,
        .ok (.secretId g.secretId g.accessor)) :: hist) g' ↔ g' = g ∨ Outstanding hist g' := by
    rw [Outstanding, since_cons]
    constructor
    · rintro (⟨hreq, _, hnow', roleId', hrole'⟩ | ⟨hg', _⟩)
      · obtain ⟨roleId, hrole⟩ := hrole
        cases g
        cases g'
        cases hreq
        rw [hrole] at hrole'
        cases hrole'
        obtain rfl := hnow.symm.trans hnow'
        exact .inl rfl
      · exact .inr hg'
    · rintro (rfl | hg')
      · exact .inl hgen
      · refine .inr ⟨hg', ?_⟩
        rintro ⟨hreq | hreq, _⟩
        · cases hreq
        · cases hreq
  have hfresh : timesUsed g.name g.secretId hist = 0 := h.used _ _ hsecret
  have hmem : g.accessor ∈ drawnIn ((⟨t, .generateSecretId g.name g.payload g.accessor g.secretId⟩,
      .ok (.secretId g.secretId g.accessor)) :: hist) ∧
      g.secretId ∈ drawnIn ((⟨t, .generateSecretId g.name g.payload g.accessor g.secretId⟩,
      .ok (.secretId g.secretId g.accessor)) :: hist) :=
    ⟨List.mem_cons_self, List.mem_cons_of_mem _ List.mem_cons_self⟩
  constructor
  · intro row
    rw [createSecretId_ok hcreate, h.rows]
    constructor
    · rintro (⟨g', hg', hleft, rfl⟩ | rfl)
      · exact ⟨g', (hout g').mpr (.inr hg'), hleft, rfl⟩
      · refine ⟨g, (hout g).mpr (.inl rfl), fun hlimited => ?_, ?_⟩
        · exact hfresh ▸ hlimited
        · exact congrArg (secretRow digest · g) hfresh.symm
    · rintro ⟨g', hg', hleft, rfl⟩
      rcases (hout g').mp hg' with rfl | hg'
      · exact .inr (congrArg (secretRow digest · g') hfresh)
      · exact .inl ⟨g', hg', hleft, rfl⟩
  · intro g' hg'
    rcases (hout g').mp hg' with rfl | hg'
    · exact hmem
    · obtain ⟨ha, hs⟩ := h.drawn g' hg'
      exact ⟨List.mem_append_right _ ha, List.mem_append_right _ hs⟩
  · intro g₁ g₂ h₁ h₂ hsame
    rcases (hout g₁).mp h₁ with rfl | hold₁
    · rcases (hout g₂).mp h₂ with rfl | hold₂
      · rfl
      · obtain ⟨ha, hs⟩ := h.drawn g₂ hold₂
        rcases hsame with hsame | hsame
        · exact absurd (hsame ▸ ha) haccessor
        · exact absurd (hsame ▸ hs) hsecret
    · rcases (hout g₂).mp h₂ with rfl | hold₂
      · obtain ⟨ha, hs⟩ := h.drawn g₁ hold₁
        rcases hsame with hsame | hsame
        · exact absurd (hsame ▸ ha) haccessor
        · exact absurd (hsame ▸ hs) hsecret
      · exact h.once g₁ g₂ hold₁ hold₂ hsame
  · intro name secretId hno
    exact h.used name secretId fun hmem => hno (List.mem_append_right _ hmem)

end

end AppAuth
end AuthVerifier
