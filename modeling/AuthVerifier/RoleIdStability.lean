import AuthVerifier.AppRoles

/-!
The role id of an AppRole. `approle_create_role` reads the id that the role has, or draws one, and
writes the whole row in a later statement, so two creators can each bring their own. A read of the
id changes nothing and can come anywhere in a run.
-/

set_option autoImplicit false

namespace AuthVerifier.AppRoles
open Concurrent Relational Transition

def getRoleId (w : World) (name : String) : Except AuthError String :=
  match w.roles.find? name with
  | none => .error (notFound name)
  | some role => .ok role.roleId

/-- The role that `approle_login` works with. -/
def resolveRole (w : World) (roleId : String) : Option String :=
  (w.roles.rows.find? (fun role => role.roleId == roleId)).map AppRole.name

section
variable (b : SqlBackend) (digest : String → List UInt8)

def Deletes (w : World) (name : String) (input : Input) : Prop :=
  input = .deleteRole name ∧ w.waits (fun l => l.roleName == name) b = false

/-- Once a read has returned an id for a name, later reads return it and logins with it resolve to
the name, until the role is deleted. -/
def StableRoleIds (init : World) (inputs : List Input) : Prop :=
  ∀ pre mid post name roleId, inputs = pre ++ mid ++ post →
    getRoleId (run (step b digest) init pre) name = .ok roleId →
    (∀ x ∈ trace (step b digest) (run (step b digest) init pre) mid, ¬ Deletes b x.1 name x.2) →
    getRoleId (run (step b digest) init (pre ++ mid)) name = .ok roleId ∧
      resolveRole (run (step b digest) init (pre ++ mid)) roleId = some name

def upsertOf (w : World) : Input → Option AppRole
  | .advance pid => match w.calls.find? pid with
    | some ⟨_, .upserting role⟩ =>
      if w.waits (fun _ => false) b then none
      else if w.roles.rows.any (fun r => r.roleId == role.roleId && r.name != role.name) then none
      else some role
    | _ => none
  | _ => none

def KeepsRoleId (w : World) (input : Input) : Prop :=
  ∀ role current, upsertOf b w input = some role → w.roles.find? role.name = some current →
    role.roleId = current.roleId

end

def UniqueRoleIds (w : World) : Prop :=
  ∀ r ∈ w.roles, ∀ r' ∈ w.roles, r.roleId = r'.roleId → r = r'

theorem getRoleId_ok {w : World} {name roleId : String} :
    getRoleId w name = .ok roleId ↔ ∃ role ∈ w.roles, role.name = name ∧ role.roleId = roleId := by
  unfold getRoleId
  cases hf : w.roles.find? name with
  | none =>
    refine iff_of_false (by simp) ?_
    rintro ⟨role, hrole, hname, _⟩
    exact Table.find?_eq_none_iff.mp hf (hname ▸ Table.key_mem_keys hrole)
  | some role =>
    obtain ⟨hrole, hname⟩ := Table.find?_eq_some_iff.mp hf
    constructor
    · intro h
      cases h
      exact ⟨role, hrole, hname, rfl⟩
    · rintro ⟨role', hrole', hname', rfl⟩
      rw [Table.eq_of_key hrole hrole' (hname.trans hname'.symm)]

theorem resolveRole_of_mem {w : World} {role : AppRole} (h : UniqueRoleIds w)
    (hrole : role ∈ w.roles) : resolveRole w role.roleId = some role.name := by
  unfold resolveRole
  cases hf : w.roles.rows.find? (fun r => r.roleId == role.roleId) with
  | none =>
    have hnone := List.find?_eq_none.mp hf role hrole
    simp at hnone
  | some r =>
    have hid : r.roleId = role.roleId := by simpa using List.find?_some hf
    rw [h r (List.mem_of_find?_eq_some hf) role hrole hid]
    rfl

section
variable {b : SqlBackend} {digest : String → List UInt8} {w : World}

@[simp] theorem setPhase_roles (w : World) (pid : Nat) (phase : Phase) :
    (w.setPhase pid phase).roles = w.roles := rfl
@[simp] theorem finish_roles (w : World) (pid : Nat) (answer : Answer) :
    (w.finish pid answer).roles = w.roles := rfl
@[simp] theorem start_roles (w : World) (pid : Nat) (phase : Phase) :
    (w.start pid phase).roles = w.roles := rfl

theorem begin_roles {pid : Nat} {roleName : String} {secretIdHash : List UInt8} {now : Int} :
    (begin b w pid roleName secretIdHash now).roles = w.roles := by
  unfold begin
  split <;> rfl

theorem select_roles {pid : Nat} {roleName : String} {secretIdHash : List UInt8} {now : Int} :
    (select b w pid roleName secretIdHash now).roles = w.roles := by
  unfold select
  split
  · rfl
  · split <;> rfl

theorem write_roles {pid : Nat} {lock : Lock} {numUses : Int} :
    (write b w pid lock numUses).roles = w.roles := by
  have hspend : (spend w lock.accessor numUses).roles = w.roles := by
    unfold spend
    split
    · rfl
    · split <;> rfl
  unfold write
  split
  · rfl
  · exact hspend

theorem createSecretId_roles {pid : Nat} {secret : AppSecretId} :
    (createSecretId b w pid secret).roles = w.roles := by
  unfold createSecretId
  split
  · rfl
  · split
    · rfl
    · split <;> rfl

theorem login_roles {pid : Nat} {roleId : String} {secretId : Option String} :
    (login digest w pid roleId secretId).roles = w.roles := by
  unfold login
  split
  · rfl
  · split
    · split <;> rfl
    · rfl

theorem generate_roles {pid : Nat} {name : String} {payload : AppRoleSecretIdRequest}
    {accessor secretId : String} :
    (generate digest w pid name payload accessor secretId).roles = w.roles := by
  unfold generate
  split <;> rfl

theorem createRole_roles {pid : Nat} {name : String} {payload : AppRoleRoleRequest}
    {freshId : String} : (createRole w pid name payload freshId).roles = w.roles := by
  unfold createRole
  split <;> rfl

theorem destroySecretId_roles {roleName accessor : String} :
    (destroySecretId b w roleName accessor).roles = w.roles := by
  unfold destroySecretId
  split <;> rfl

theorem mem_createApprole {pid : Nat} {role r : AppRole} (hwait : w.waits (fun _ => false) b = false)
    (hfree : w.roles.rows.any (fun r => r.roleId == role.roleId && r.name != role.name) = false) :
    r ∈ (createApprole b w pid role).roles ↔ r ∈ w.roles ∧ r.name ≠ role.name ∨ r = role := by
  unfold createApprole
  rw [hwait, hfree]
  simp only [Bool.false_eq_true, if_false]
  split
  · rename_i hk
    refine (@Table.mem_updateWhere_key _ _ _ _ w.roles role.name (fun r => { role with name := r.name })
      (fun _ => rfl) r).trans (or_congr_right ?_)
    constructor
    · rintro ⟨y, _, hname, rfl⟩
      rw [hname]
    · rintro rfl
      obtain ⟨y, hy, hname⟩ := Table.mem_keys.mp hk
      exact ⟨y, hy, hname, by rw [hname]⟩
  · rename_i hk
    refine (Table.mem_insert (h := hk)).trans (or_congr_left ?_)
    refine (and_iff_left_of_imp fun hr => ?_).symm
    intro hname
    exact hk (hname ▸ Table.key_mem_keys hr)

theorem mem_deleteApprole {name : String} {r : AppRole}
    (hwait : w.waits (fun l => l.roleName == name) b = false) :
    r ∈ (deleteApprole b w name).roles ↔ r ∈ w.roles ∧ r.name ≠ name := by
  unfold deleteApprole
  rw [hwait]
  simp

/-- The roles after a step: all of them, all but one that is deleted, or with one upserted. -/
inductive RolesAfter (b : SqlBackend) (w w' : World) (input : Input) : Prop where
  | same (hnone : upsertOf b w input = none) (hno : ∀ name, ¬ Deletes b w name input)
      (hsame : w'.roles = w.roles)
  | deleted (name : String) (hdel : Deletes b w name input) (hnone : upsertOf b w input = none)
      (hmem : ∀ r, r ∈ w'.roles ↔ r ∈ w.roles ∧ r.name ≠ name)
  | upserted (role : AppRole) (hrole : upsertOf b w input = some role)
      (hno : ∀ name, ¬ Deletes b w name input)
      (hfree : ∀ r ∈ w.roles, r.roleId = role.roleId → r.name = role.name)
      (hmem : ∀ r, r ∈ w'.roles ↔ r ∈ w.roles ∧ r.name ≠ role.name ∨ r = role)

theorem advance_roles (pid : Nat) :
    RolesAfter b w (step b digest w (.advance pid)) (.advance pid) := by
  have hno : ∀ name, ¬ Deletes b w name (.advance pid) := fun name h => by cases h.1
  cases hfind : w.calls.find? pid with
  | none =>
    refine .same (by simp [upsertOf, hfind]) hno ?_
    simp [step, hfind]
  | some call =>
    obtain ⟨cpid, phase⟩ := call
    cases phase with
    | resolved role hash =>
      exact .same (by simp [upsertOf, hfind]) hno (by simp [step, hfind, advance])
    | timed roleName hash now =>
      exact .same (by simp [upsertOf, hfind]) hno (by simp [step, hfind, advance, begin_roles])
    | begun roleName hash now =>
      exact .same (by simp [upsertOf, hfind]) hno (by simp [step, hfind, advance, select_roles])
    | selected lock numUses =>
      exact .same (by simp [upsertOf, hfind]) hno (by simp [step, hfind, advance, write_roles])
    | written lock =>
      exact .same (by simp [upsertOf, hfind]) hno (by simp [step, hfind, advance, commit])
    | generating role payload accessor hash =>
      exact .same (by simp [upsertOf, hfind]) hno (by simp [step, hfind, advance])
    | storing secret =>
      exact .same (by simp [upsertOf, hfind]) hno
        (by simp [step, hfind, advance, createSecretId_roles])
    | upserting role =>
      have hstep : step b digest w (.advance pid) = createApprole b w cpid role := by
        simp [step, hfind, advance]
      rw [hstep]
      by_cases hwait : w.waits (fun _ => false) b = true
      · exact .same (by simp [upsertOf, hfind, hwait]) hno (by simp [createApprole, hwait])
      · have hwait := Bool.eq_false_iff.mpr hwait
        by_cases hused : w.roles.rows.any
            (fun r => r.roleId == role.roleId && r.name != role.name) = true
        · refine .same ?_ hno ?_
          · simp only [upsertOf, hfind, hwait, hused, Bool.false_eq_true, if_false, if_true]
          · simp only [createApprole, hwait, hused, Bool.false_eq_true, if_false, if_true,
              finish_roles]
        · have hfree := Bool.eq_false_iff.mpr hused
          refine .upserted role ?_ hno ?_ (fun r => mem_createApprole hwait hfree)
          · simp only [upsertOf, hfind, hwait, hfree, Bool.false_eq_true, if_false]
          · intro r hr hid
            have hname := List.any_eq_false.mp hfree r hr
            simpa [hid] using hname

theorem step_roles (input : Input) : RolesAfter b w (step b digest w input) input := by
  have hno (h : ∀ name, input ≠ .deleteRole name) : ∀ name, ¬ Deletes b w name input :=
    fun name hd => h name hd.1
  cases input with
  | tick seconds => exact .same rfl (hno (by simp)) rfl
  | login pid roleId secretId => exact .same rfl (hno (by simp)) login_roles
  | generate pid name payload accessor secretId => exact .same rfl (hno (by simp)) generate_roles
  | createRole pid name payload freshId => exact .same rfl (hno (by simp)) createRole_roles
  | destroy roleName accessor => exact .same rfl (hno (by simp)) destroySecretId_roles
  | deleteRole name =>
    by_cases hwait : w.waits (fun l => l.roleName == name) b = true
    · refine .same rfl ?_ ?_
      · rintro name' ⟨hname, hrun⟩
        cases hname
        rw [hwait] at hrun
        cases hrun
      · simp [step, deleteApprole, hwait]
    · have hwait := Bool.eq_false_iff.mpr hwait
      exact .deleted name ⟨rfl, hwait⟩ rfl (fun r => mem_deleteApprole hwait)
  | advance pid => exact advance_roles pid

theorem uniqueRoleIds_step (input : Input) (h : UniqueRoleIds w) :
    UniqueRoleIds (step b digest w input) := by
  have hstep : RolesAfter b w (step b digest w input) input := step_roles input
  cases hstep with
  | same _ _ hsame =>
    unfold UniqueRoleIds
    rw [hsame]
    exact h
  | deleted name _ _ hmem =>
    intro r hr r' hr' hid
    exact h r ((hmem r).mp hr).1 r' ((hmem r').mp hr').1 hid
  | upserted role _ _ hfree hmem =>
    intro r hr r' hr' hid
    rcases (hmem r).mp hr with ⟨hr, hname⟩ | rfl
    · rcases (hmem r').mp hr' with ⟨hr', _⟩ | rfl
      · exact h r hr r' hr' hid
      · exact absurd (hfree r hr hid) hname
    · rcases (hmem r').mp hr' with ⟨hr', hname⟩ | rfl
      · exact absurd (hfree r' hr' hid.symm) hname
      · rfl

/-- One step: the ids that are there stay, but for a deleted role, if and only if an upsert brings the
id that its role has. -/
theorem keepsRoleId_iff (digest : String → List UInt8) (input : Input) :
    KeepsRoleId b w input ↔ ∀ name roleId, getRoleId w name = .ok roleId →
      ¬ Deletes b w name input → getRoleId (step b digest w input) name = .ok roleId := by
  have hstep : RolesAfter b w (step b digest w input) input := step_roles input
  cases hstep with
  | same hnone _ hsame =>
    refine iff_of_true (fun role current hrole => ?_) (fun name roleId hget _ => ?_)
    · rw [hnone] at hrole
      cases hrole
    · rw [getRoleId_ok] at hget ⊢
      rw [hsame]
      exact hget
  | deleted name hdel hnone hmem =>
    refine iff_of_true (fun role current hrole => ?_) (fun name' roleId hget hnot => ?_)
    · rw [hnone] at hrole
      cases hrole
    · obtain ⟨r, hr, hname, hid⟩ := getRoleId_ok.mp hget
      have hne : name' ≠ name := by
        rintro rfl
        exact hnot hdel
      exact getRoleId_ok.mpr ⟨r, (hmem r).mpr ⟨hr, hname ▸ hne⟩, hname, hid⟩
  | upserted role hrole hno _ hmem =>
    constructor
    · intro hkeeps name roleId hget _
      obtain ⟨r, hr, hname, hid⟩ := getRoleId_ok.mp hget
      by_cases hself : name = role.name
      · have hfound : w.roles.find? role.name = some r :=
          Table.find?_eq_some_iff.mpr ⟨hr, hname.trans hself⟩
        exact getRoleId_ok.mpr ⟨role, (hmem role).mpr (.inr rfl), hself.symm,
          (hkeeps role r hrole hfound).trans hid⟩
      · exact getRoleId_ok.mpr ⟨r, (hmem r).mpr (.inl ⟨hr, hname ▸ hself⟩), hname, hid⟩
    · intro hstays role' current hrole' hfound
      rw [hrole] at hrole'
      cases hrole'
      obtain ⟨hcurrent, hname⟩ := Table.find?_eq_some_iff.mp hfound
      have hget : getRoleId w role.name = .ok current.roleId :=
        getRoleId_ok.mpr ⟨current, hcurrent, hname, rfl⟩
      obtain ⟨r, hr, hrname, hrid⟩ := getRoleId_ok.mp (hstays role.name _ hget (hno role.name))
      rcases (hmem r).mp hr with ⟨_, hne⟩ | rfl
      · exact absurd hrname hne
      · exact hrid

theorem run_uniqueRoleIds (clock : Int) (inputs : List Input) :
    UniqueRoleIds (run (step b digest) { clock := clock } inputs) :=
  run_keeps (step b digest) UniqueRoleIds (fun _ hr => absurd hr Table.mem_empty)
    (fun _ input h => uniqueRoleIds_step input h) inputs

theorem getRoleId_stays {name roleId : String} (inputs : List Input)
    (hkeeps : ∀ x ∈ trace (step b digest) w inputs, KeepsRoleId b x.1 x.2)
    (hget : getRoleId w name = .ok roleId)
    (hno : ∀ x ∈ trace (step b digest) w inputs, ¬ Deletes b x.1 name x.2) :
    getRoleId (run (step b digest) w inputs) name = .ok roleId := by
  induction inputs generalizing w with
  | nil => exact hget
  | cons input inputs ih =>
    simp only [trace, List.forall_mem_cons] at hkeeps hno
    exact ih hkeeps.2 ((keepsRoleId_iff digest input).mp hkeeps.1 name roleId hget hno.1) hno.2

end

/-- However creations, updates, deletions and logins interleave, on each backend: role ids are
stable if and only if every upsert of an existing role brings the id that the role has by then. -/
theorem role_ids_stable_iff (b : SqlBackend) (digest : String → List UInt8) (clock : Int)
    (inputs : List Input) :
    StableRoleIds b digest { clock := clock } inputs ↔
      ∀ x ∈ trace (step b digest) { clock := clock } inputs, KeepsRoleId b x.1 x.2 := by
  constructor
  · rintro hstable ⟨w, input⟩ hx
    obtain ⟨pre, post, hinputs, rfl⟩ := (mem_trace_iff (step b digest)).mp hx
    refine (keepsRoleId_iff digest input).mpr fun name roleId hget hnot => ?_
    have hlater := hstable pre [input] post name roleId (by simpa using hinputs) hget (by
      simpa [trace] using hnot)
    rw [run_append] at hlater
    exact hlater.1
  · intro hkeeps pre mid post name roleId hinputs hget hno
    have hmid : ∀ x ∈ trace (step b digest) (run (step b digest) { clock := clock } pre) mid,
        KeepsRoleId b x.1 x.2 := by
      intro x hx
      refine hkeeps x ?_
      rw [hinputs, trace_append, trace_append]
      exact List.mem_append_left _ (List.mem_append_right _ hx)
    have hlater := getRoleId_stays mid hmid hget hno
    rw [← run_append] at hlater
    obtain ⟨role, hrole, rfl, rfl⟩ := getRoleId_ok.mp hlater
    exact ⟨hlater, resolveRole_of_mem (run_uniqueRoleIds clock (pre ++ mid)) hrole⟩

/-- Two calls that both find the name absent, and a read between their upserts. -/
def twoCreators : List Input :=
  [.createRole 1 "ci" ⟨0, 0, [], true⟩ "id-1", .createRole 2 "ci" ⟨0, 0, [], true⟩ "id-2",
    .advance 1, .advance 2]

/-- The second creator takes away the id that was read after the first. -/
theorem role_id_replaced :
    let after (n : Nat) := run (step .sqlite (fun _ => [])) { clock := 0 } (twoCreators.take n)
    getRoleId (after 3) "ci" = .ok "id-1" ∧ getRoleId (after 4) "ci" = .ok "id-2" ∧
      resolveRole (after 4) "id-1" = none ∧
      ¬ StableRoleIds .sqlite (fun _ => []) { clock := 0 } twoCreators := by
  intro after
  have hread : getRoleId (after 3) "ci" = .ok "id-1" := by rfl
  have hlater : getRoleId (after 4) "ci" = .ok "id-2" := by rfl
  refine ⟨hread, hlater, by decide, fun hstable => ?_⟩
  have hsame := (hstable (twoCreators.take 3) [.advance 2] [] "ci" "id-1" rfl hread (by
    intro x hx
    rw [List.mem_singleton.mp hx]
    intro hdel
    cases hdel.1)).1
  exact absurd (hsame.symm.trans hlater) (by decide)

end AuthVerifier.AppRoles
