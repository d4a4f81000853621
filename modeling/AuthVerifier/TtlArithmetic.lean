import AuthVerifier.AppTokenLifecycle
import AuthVerifier.KubernetesRoles
import AuthVerifier.RealmArithmetic
import AuthVerifier.RoleIdStability
import AuthVerifier.SecretIdBound

/-!
The TTLs of roles and secret-IDs in the arithmetic of the server. The role endpoints look at the
sign of a TTL only; the expiries are summed up later, when a token is issued, when a secret-ID is
generated, and by the statement that renews a token. A sum that no `i64` holds is no expiry: it
panics, wraps into the past, or fails the statement.
-/

set_option autoImplicit false

namespace AuthVerifier
open Bounded Effects Relational Transition

def longestTtl : Int := int64.hi - centuryEnd

/-- The expiry of `issue_app_token` and of `approle_generate_secret_id`. -/
def firstExpiry (now ttl : Int) : Option Int := if ttl > 0 then int64.add now ttl else some 0

/-- `SET expiry = ? + lease_duration_secs`. -/
def renewedExpiry (now : Int) (token : AppToken) : Option Int :=
  int64.add now token.leaseDurationSecs

def Lasting (now : Int) (expiry : Option Int) : Prop :=
  ∃ e, expiry = some e ∧ (e = 0 ∨ now < e)

theorem lasting_firstExpiry {now ttl : Int} (hnow : NextCentury now) (h : ttl ≤ longestTtl) :
    Lasting now (firstExpiry now ttl) := by
  unfold firstExpiry
  split
  · have hfits : int64.Fits (now + ttl) := by
      simp only [Range.Fits, int64, NextCentury, centuryStart, centuryEnd, longestTtl] at *
      omega
    exact ⟨now + ttl, Range.add_of_fits hfits, .inr (by omega)⟩
  · exact ⟨0, rfl, .inl rfl⟩

theorem forall_lasting_firstExpiry_iff {ttl : Int} :
    (∀ now, NextCentury now → Lasting now (firstExpiry now ttl)) ↔ ttl ≤ longestTtl := by
  constructor
  · intro h
    by_cases hpos : ttl > 0
    · obtain ⟨e, he, -⟩ := h centuryEnd centuryEnd_mem
      rw [firstExpiry, if_pos hpos] at he
      have hhigh := (Range.add_eq_some.mp he).1.2
      simp only [longestTtl]
      omega
    · have hlongest : (0 : Int) ≤ longestTtl := by decide
      omega
  · intro h now hnow
    exact lasting_firstExpiry hnow h

theorem lasting_renewedExpiry {now : Int} {token : AppToken} (hnow : NextCentury now)
    (hpos : 0 < token.leaseDurationSecs) (h : token.leaseDurationSecs ≤ longestTtl) :
    Lasting now (renewedExpiry now token) := by
  have hlasting := lasting_firstExpiry hnow h
  rwa [firstExpiry, if_pos hpos] at hlasting

theorem firstExpiry_eq {now ttl e : Int} (h : firstExpiry now ttl = some e) :
    (if ttl > 0 then now + ttl else 0) = e := by
  unfold firstExpiry at h
  by_cases hpos : ttl > 0
  · rw [if_pos hpos] at h ⊢
    exact (Range.add_eq_some.mp h).2
  · rw [if_neg hpos] at h ⊢
    exact Option.some.inj h

theorem newToken_expiry {digest : String → List UInt8} {now lease e : Int} {raw entity : String}
    {policies : List String} {renewable : Bool} (h : firstExpiry now lease = some e) :
    (AppTokenEndpoints.newToken digest now raw entity policies lease renewable).expiry = e :=
  firstExpiry_eq h

theorem extend_expiry {now e : Int} {token : AppToken} (h : renewedExpiry now token = some e) :
    (AppTokenDb.extend now token).expiry = e := (Range.add_eq_some.mp h).2

/-- The TTL of a new secret-ID: that of the request, or that of the role. -/
def secretIdTtl (role : AppRole) (payload : AppRoleSecretIdRequest) : Int :=
  if payload.ttl > 0 then payload.ttl else role.secretIdTtlSecs

theorem newSecretId_expiry {role : AppRole} {payload : AppRoleSecretIdRequest} {accessor : String}
    {hash : List UInt8} {now e : Int} (h : firstExpiry now (secretIdTtl role payload) = some e) :
    (AppRoles.newSecretId role payload accessor hash now).expiry = e := by
  unfold firstExpiry at h
  have hexpiry : (AppRoles.newSecretId role payload accessor hash now).expiry =
    if secretIdTtl role payload > 0 then i64 (now + secretIdTtl role payload) else 0 := rfl
  rw [hexpiry]
  by_cases hpos : secretIdTtl role payload > 0
  · rw [if_pos hpos] at h ⊢
    obtain ⟨hfits, hsum⟩ := Range.add_eq_some.mp h
    rw [i64_eq (fits_iff.mp hfits), hsum]
  · rw [if_neg hpos] at h ⊢
    exact Option.some.inj h

namespace AppTokenEndpoints
open AppTokenDb

def LastingCall (digest : String → List UInt8) (s : AppTokens) (c : TokenCall) : Prop :=
  match c.request with
  | .issue _ _ _ lease _ => Lasting c.times.store (firstExpiry c.times.store lease)
  | .renewSelf (some raw) => ∀ token ∈ s, extensible c.times.store (digest raw) token = true →
      Lasting c.times.store (renewedExpiry c.times.store token)
  | _ => True

/-- A request of the next century that issues no token but with these leases. -/
structure Grants (leases : Int → Prop) (c : TokenCall) : Prop where
  timely : NextCentury c.times.store
  lease : ∀ raw entity policies lease renewable,
    c.request = .issue raw entity policies lease renewable → leases lease

/-- No run of the next century meets an expiry that does not last, neither when it issues tokens
with these leases nor in any of their renewals. -/
def LeasesLast (leases : Int → Prop) : Prop :=
  ∀ digest calls, (∀ c ∈ calls, Grants leases c) →
    ∀ x ∈ trace (step digest) .empty calls, LastingCall digest x.1 x.2

/-- All tokens have these leases, and those with a lease of zero do not expire. -/
def Granted (leases : Int → Prop) (s : AppTokens) : Prop :=
  ∀ token ∈ s, leases token.leaseDurationSecs ∧ (token.leaseDurationSecs = 0 → token.expiry = 0)

section
variable {digest : String → List UInt8} {s : AppTokens} {leases : Int → Prop} {c : TokenCall}

theorem Granted.step (h : Granted leases s) (hc : Grants leases c) :
    Granted leases (step digest s c) := by
  intro token htoken
  rcases mem_step_iff.mp htoken with ⟨old, hold, -, rfl⟩ | ⟨_, _, _, lease, _, hreq, -, rfl⟩
  · obtain ⟨hlease, hzero⟩ := h old hold
    unfold carried
    split
    · rename_i hrenews
      refine ⟨hlease, fun hnone => ?_⟩
      -- without an expiry there is nothing to extend
      exfalso
      unfold renews at hrenews
      split at hrenews
      · rw [any_extensible hold] at hrenews
        simp [extensible, hzero hnone] at hrenews
      · cases hrenews
    · exact ⟨hlease, hzero⟩
  · refine ⟨hc.lease _ _ _ _ _ hreq, fun hnone => ?_⟩
    have hzero : lease = 0 := hnone
    simp [newToken, hzero]

theorem Granted.lastingCall (h : Granted leases s) (hsign : ∀ l, leases l → 0 ≤ l)
    (hlast : ∀ l, leases l → l ≤ longestTtl) (hc : Grants leases c) :
    LastingCall digest s c := by
  obtain ⟨t, request⟩ := c
  cases request with
  | issue raw entity policies lease renewable =>
    exact lasting_firstExpiry hc.timely (hlast lease (hc.lease _ _ _ _ _ rfl))
  | renewSelf header =>
    cases header with
    | none => trivial
    | some raw =>
      intro token htoken hext
      obtain ⟨hlease, hzero⟩ := h token htoken
      simp only [extensible, Bool.and_eq_true, decide_eq_true_eq] at hext
      have hnonneg := hsign _ hlease
      have hne : token.leaseDurationSecs ≠ 0 := fun hnone => by
        have hexpiry := hzero hnone
        omega
      exact lasting_renewedExpiry hc.timely (by omega) (hlast _ hlease)
  | lookupSelf header => trivial
  | revokeSelf header => trivial

end

theorem leasesLast_iff {leases : Int → Prop} (hsign : ∀ l, leases l → 0 ≤ l) :
    LeasesLast leases ↔ ∀ l, leases l → l ≤ longestTtl := by
  constructor
  · intro h l hl
    refine forall_lasting_firstExpiry_iff.mp fun now hnow => ?_
    let c : TokenCall := ⟨⟨now, now, now, now, now, by omega⟩, .issue "" "" [] l true⟩
    have hgrants : Grants leases c := ⟨hnow, by rintro _ _ _ _ _ hreq; cases hreq; exact hl⟩
    exact h (fun _ => []) [c] (by simpa using hgrants) (.empty, c) List.mem_cons_self
  · intro h digest calls hcalls
    refine trace_forall_of_invariant (step digest)
      (fun s is => Granted leases s ∧ ∀ c ∈ is, Grants leases c)
      (C := fun _ _ => True) ?_ ?_ calls ⟨by simp [Granted], hcalls⟩ (fun _ _ => trivial)
    · rintro s c is ⟨hs, his⟩ -
      exact hs.lastingCall hsign h (his c List.mem_cons_self)
    · rintro s c is ⟨hs, his⟩ -
      exact ⟨hs.step (his c List.mem_cons_self), fun d hd => his d (List.mem_cons_of_mem c hd)⟩

end AppTokenEndpoints
namespace AppRoles
open Concurrent

def RoleTtls (P : Int → Prop) (role : AppRole) : Prop :=
  P role.secretIdTtlSecs ∧ P role.tokenTtlSecs

/-- The TTLs that a call brings along: those of roles satisfy `P`, those of requests `Q`. -/
def Phase.Ttls (P Q : Int → Prop) : Phase → Prop
  | .upserting role => RoleTtls P role
  | .generating role payload _ _ => RoleTtls P role ∧ Q payload.ttl
  | _ => True

structure Ttls (P Q : Int → Prop) (w : World) : Prop where
  roles : ∀ role ∈ w.roles, RoleTtls P role
  calls : ∀ call ∈ w.calls, call.phase.Ttls P Q

def Input.Ttls (P Q : Int → Prop) : Input → Prop
  | .createRole _ _ payload _ =>
    0 ≤ payload.secretIdTtl → 0 ≤ payload.tokenTtl → P payload.secretIdTtl ∧ P payload.tokenTtl
  | .generate _ _ payload _ _ => Q payload.ttl
  | _ => True

def LastingInput (w : World) : Input → Prop
  | .advance pid => ∀ role payload accessor hash,
      (⟨pid, .generating role payload accessor hash⟩ : Call) ∈ w.calls →
        Lasting w.clock (firstExpiry w.clock (secretIdTtl role payload))
  | _ => True

section
variable {P Q : Int → Prop} {w : World} {b : SqlBackend} {digest : String → List UInt8}

section Calls
variable {pid : Nat} {phase : Phase}

theorem ttls_setPhase (h : ∀ call ∈ w.calls, call.phase.Ttls P Q) (hphase : phase.Ttls P Q) :
    ∀ call ∈ (w.setPhase pid phase).calls, call.phase.Ttls P Q := by
  intro call hcall
  rcases Jobs.mem_setPhase.mp hcall with ⟨hold, -⟩ | ⟨rfl, -⟩
  · exact h call hold
  · exact hphase

theorem ttls_finish (answer : Answer) (h : ∀ call ∈ w.calls, call.phase.Ttls P Q) :
    ∀ call ∈ (w.finish pid answer).calls, call.phase.Ttls P Q :=
  fun call hcall => h call (Jobs.mem_finish.mp hcall).1

theorem ttls_start (h : ∀ call ∈ w.calls, call.phase.Ttls P Q) (hphase : phase.Ttls P Q) :
    ∀ call ∈ (w.start pid phase).calls, call.phase.Ttls P Q := by
  intro call hcall
  rcases Jobs.mem_start hcall with hold | rfl
  · exact h call hold
  · exact hphase

end Calls

theorem Ttls.advance {call : Call} (h : Ttls P Q w) (hcall : call ∈ w.calls) :
    ∀ c ∈ (advance b w call).calls, c.phase.Ttls P Q := by
  obtain ⟨pid, phase⟩ := call
  cases phase with
  | resolved role hash => exact ttls_setPhase h.calls trivial
  | timed roleName hash now =>
    simp only [AppRoles.advance, begin]
    split
    · exact h.calls
    · exact ttls_setPhase h.calls trivial
  | begun roleName hash now =>
    simp only [AppRoles.advance, select]
    split
    · exact h.calls
    · split
      · exact ttls_finish _ h.calls
      · exact ttls_setPhase h.calls trivial
  | selected lock numUses =>
    simp only [AppRoles.advance, write]
    split
    · exact ttls_finish _ h.calls
    · exact ttls_setPhase (by rw [spend_calls]; exact h.calls) trivial
  | written lock => exact ttls_finish (.token pid lock.roleName) h.calls
  | generating role payload accessor hash => exact ttls_setPhase h.calls trivial
  | storing secret =>
    simp only [AppRoles.advance, createSecretId]
    split
    · exact h.calls
    · split
      · exact ttls_finish _ h.calls
      · split
        · exact ttls_finish _ h.calls
        · exact ttls_finish (.secretId pid secret.accessor) h.calls
  | upserting role =>
    simp only [AppRoles.advance, createApprole]
    split
    · exact h.calls
    · split
      · exact ttls_finish _ h.calls
      · split <;> exact ttls_finish (.noContent pid) h.calls

theorem Ttls.step_calls {input : Input} (h : Ttls P Q w) (hinput : input.Ttls P Q) :
    ∀ call ∈ (step b digest w input).calls, call.phase.Ttls P Q := by
  cases input with
  | tick seconds => exact h.calls
  | login pid roleId secretId =>
    simp only [step, login]
    split
    · exact h.calls
    · split
      · split
        · exact h.calls
        · exact ttls_start h.calls trivial
      · exact h.calls
  | generate pid name payload accessor secretId =>
    simp only [step, generate]
    split
    · exact h.calls
    · rename_i role hrole
      exact ttls_start h.calls ⟨h.roles role (Table.find?_eq_some_iff.mp hrole).1, hinput⟩
  | createRole pid name payload freshId =>
    simp only [step, createRole]
    split
    · exact h.calls
    · rename_i hsign
      obtain ⟨hsecret, htoken⟩ := not_or.mp hsign
      exact ttls_start h.calls (hinput (Int.not_lt.mp hsecret) (Int.not_lt.mp htoken))
  | destroy roleName accessor =>
    simp only [step, destroySecretId]
    split <;> exact h.calls
  | deleteRole name =>
    simp only [step, deleteApprole]
    split <;> exact h.calls
  | advance pid =>
    simp only [step]
    split
    · exact h.calls
    · rename_i call hfind
      exact h.advance (Table.find?_eq_some_iff.mp hfind).1

theorem mem_calls_of_upsertOf {input : Input} {role : AppRole}
    (h : upsertOf b w input = some role) :
    ∃ pid, (⟨pid, .upserting role⟩ : Call) ∈ w.calls := by
  unfold upsertOf at h
  split at h
  · split at h
    · rename_i pid role' hfind
      split at h
      · cases h
      · split at h
        · cases h
        · cases h
          exact ⟨pid, (Table.find?_eq_some_iff.mp hfind).1⟩
    · cases h
  · cases h

theorem Ttls.step {input : Input} (h : Ttls P Q w) (hinput : input.Ttls P Q) :
    Ttls P Q (step b digest w input) where
  calls := h.step_calls hinput
  roles := by
    have hstep : RolesAfter b w (AppRoles.step b digest w input) input := step_roles input
    cases hstep with
    | same _ _ hsame =>
      rw [hsame]
      exact h.roles
    | deleted name _ _ hmem => exact fun role hrole => h.roles role ((hmem role).mp hrole).1
    | upserted role hupsert _ _ hmem =>
      intro r hr
      rcases (hmem r).mp hr with ⟨hold, -⟩ | rfl
      · exact h.roles r hold
      · obtain ⟨pid, hcall⟩ := mem_calls_of_upsertOf hupsert
        exact h.calls _ hcall

theorem Ttls.initial (clock : Int) : Ttls P Q { clock := clock } where
  roles := by simp
  calls := by simp

theorem run_ttls (clock : Int) (inputs : List Input) (h : ∀ input ∈ inputs, input.Ttls P Q) :
    Ttls P Q (run (step b digest) { clock := clock } inputs) :=
  run_keeps_of (step b digest) (Ttls P Q) (C := fun _ input => input.Ttls P Q)
    (Ttls.initial clock) (fun _ _ hw hinput => hw.step hinput) inputs
    (fun _ hx => h _ (mem_of_mem_trace _ hx))

theorem Ttls.lastingInput {input : Input}
    (h : Ttls (fun ttl => 0 ≤ ttl ∧ ttl ≤ longestTtl) (fun ttl => ttl ≤ longestTtl) w)
    (hclock : NextCentury w.clock) : LastingInput w input := by
  cases input with
  | advance pid =>
    intro role payload accessor hash hcall
    obtain ⟨⟨⟨-, hrole⟩, -⟩, hrequest⟩ := h.calls _ hcall
    refine lasting_firstExpiry hclock ?_
    unfold secretIdTtl
    split
    · exact hrequest
    · exact hrole
  | tick | login | generate | createRole | destroy | deleteRole => trivial

end

def Input.Moderate : Input → Prop := Input.Ttls (fun ttl => 0 ≤ ttl ∧ ttl ≤ longestTtl)
  (fun ttl => ttl ≤ longestTtl)

end AppRoles

namespace Kubernetes

abbrev RoleCall := String × K8sRoleRequest

def roleStep (json : List String → String) (roles : K8sRoles) (call : RoleCall) : K8sRoles :=
  (k8sCreateRole json roles call.1 call.2).state

theorem ttl_roleStep {json : List String → String} {roles : K8sRoles} {call : RoleCall}
    (h : ∀ role ∈ roles, 0 ≤ role.tokenTtlSecs) :
    ∀ role ∈ roleStep json roles call, 0 ≤ role.tokenTtlSecs := by
  unfold roleStep
  cases hresult : (k8sCreateRole json roles call.1 call.2).result with
  | error e =>
    have hsame : (k8sCreateRole json roles call.1 call.2).state = roles := by
      unfold k8sCreateRole at hresult ⊢
      split
      · rfl
      · split
        · rfl
        · split
          · rfl
          · rename_i hhttps hpublic httl
            rw [if_neg hhttps, if_neg hpublic, if_neg httl] at hresult
            cases hresult
    rwa [hsame]
  | ok answer =>
    obtain ⟨-, -, httl⟩ := k8sCreateRole_ok_iff.mp hresult
    rw [k8sCreateRole_state hresult]
    intro role hrole
    unfold createK8sRole at hrole
    split at hrole
    · rcases Table.mem_updateWhere_key.mp hrole with ⟨hold, -⟩ | ⟨old, -, -, rfl⟩
      · exact h role hold
      · exact httl
    · rcases Table.mem_insert.mp hrole with hold | rfl
      · exact h role hold
      · exact httl

end Kubernetes

/-- What the role endpoints have stored: AppRole roles after a run of their calls, and Kubernetes
roles after a run of requests. -/
structure StoredRoles where
  approles : Table AppRole String AppRole.name
  k8sRoles : K8sRoles

def StoredRoles.Leases (s : StoredRoles) (ttl : Int) : Prop :=
  (∃ role ∈ s.approles, role.tokenTtlSecs = ttl) ∨ ∃ role ∈ s.k8sRoles, role.tokenTtlSecs = ttl

def storedRoles (b : SqlBackend) (digest : String → List UInt8) (clock : Int)
    (inputs : List AppRoles.Input) (json : List String → String)
    (requests : List Kubernetes.RoleCall) : StoredRoles where
  approles := (run (AppRoles.step b digest) { clock := clock } inputs).roles
  k8sRoles := run (Kubernetes.roleStep json) .empty requests

/-- Tokens of the stored roles and their renewals, and the secret-IDs of each role, last through the
century exactly when their TTLs are at most the longest one; and where all requests keep to that, a
run dates no secret-ID otherwise. -/
theorem stored_ttls_last_iff (b : SqlBackend) (digest : String → List UInt8) (clock : Int)
    (inputs : List AppRoles.Input) (json : List String → String)
    (requests : List Kubernetes.RoleCall) :
    let stored := storedRoles b digest clock inputs json requests
    (AppTokenEndpoints.LeasesLast stored.Leases ↔
        ∀ ttl, stored.Leases ttl → ttl ≤ longestTtl) ∧
      (∀ role ∈ stored.approles, ∀ payload : AppRoleSecretIdRequest,
        (∀ now, NextCentury now → Lasting now (firstExpiry now (secretIdTtl role payload))) ↔
          secretIdTtl role payload ≤ longestTtl) ∧
      ((∀ input ∈ inputs, input.Moderate) →
        ∀ x ∈ trace (AppRoles.step b digest) { clock := clock } inputs,
          NextCentury x.1.clock → AppRoles.LastingInput x.1 x.2) := by
  intro stored
  refine ⟨AppTokenEndpoints.leasesLast_iff ?_, ?_, ?_⟩
  · rintro ttl (⟨role, hrole, rfl⟩ | ⟨role, hrole, rfl⟩)
    · have hrun : AppRoles.Ttls (fun ttl => 0 ≤ ttl) (fun _ => True)
          (run (AppRoles.step b digest) { clock := clock } inputs) := by
        refine AppRoles.run_ttls clock inputs fun input _ => ?_
        cases input with
        | createRole => exact fun hsecret htoken => ⟨hsecret, htoken⟩
        | tick | login | generate | destroy | deleteRole | advance => trivial
      exact (hrun.roles role hrole).2
    · exact run_keeps (Kubernetes.roleStep json) (fun roles => ∀ role ∈ roles, 0 ≤ role.tokenTtlSecs)
        (by simp) (fun _ _ h => Kubernetes.ttl_roleStep h) requests role hrole
  · intro role _ payload
    exact forall_lasting_firstExpiry_iff
  · intro hinputs x hx hclock
    obtain ⟨pre, post, rfl, hstate⟩ := (mem_trace_iff _).mp hx
    have hrun : AppRoles.Ttls (fun ttl => 0 ≤ ttl ∧ ttl ≤ longestTtl) (fun ttl => ttl ≤ longestTtl)
        (run (AppRoles.step b digest) { clock := clock } pre) :=
      AppRoles.run_ttls clock pre fun input hinput => hinputs input (List.mem_append_left _ hinput)
    rw [hstate] at hclock ⊢
    exact hrun.lastingInput hclock

/-- A role is stored with the largest token TTL: none of its tokens can be dated, at any reading. -/
theorem approle_accepts_undatable_ttl :
    let inputs : List AppRoles.Input :=
      [.createRole 1 "ci" ⟨0, 9223372036854775807, [], true⟩ "role-id", .advance 1]
    let stored := storedRoles .sqlite (fun _ => []) centuryStart inputs (fun _ => "[]") []
    stored.Leases 9223372036854775807 ∧
      ∀ now, NextCentury now → ¬ Lasting now (firstExpiry now 9223372036854775807) := by
  intro inputs stored
  constructor
  · have hrows : stored.approles.rows =
        [⟨"ci", "role-id", 0, 9223372036854775807, true, []⟩] := by decide
    refine .inl ⟨⟨"ci", "role-id", 0, 9223372036854775807, true, []⟩, ?_, rfl⟩
    rw [Table.mem_def, hrows]
    exact List.mem_singleton_self _
  · rintro now ⟨hlow, -⟩ ⟨e, he, -⟩
    have hhigh := (Range.add_eq_some.mp he).1.2
    simp only [int64, centuryStart] at hhigh hlow
    omega

end AuthVerifier
