import AuthVerifier.AdminApi
import AuthVerifier.Lib.Run
import AuthVerifier.Transparent

/-!
Whose second factor `totp_verify` and `totp_disable` may change. The handlers authorize the realm
of the path while the database writes the administrator named in the request, so the two agree
only when that administrator is one the requester may manage.
-/

set_option autoImplicit false

namespace AuthVerifier
open Effects Relational
variable {X : Externals} {params : ServerParams}

structure TotpState where
  enabled : Option Bool
  secret : Option String
  authUrl : Option String
  deriving DecidableEq

def AdminRow.totp (r : AdminRow) : TotpState := ⟨r.totpEnabled, r.totpSecret, r.totpAuthUrl⟩

def AdminRow.withTotp (t : TotpState) (r : AdminRow) : AdminRow :=
  { r with totpEnabled := t.enabled, totpSecret := t.secret, totpAuthUrl := t.authUrl }

@[simp] theorem AdminRow.withTotp_id (t : TotpState) (r : AdminRow) : (r.withTotp t).id = r.id :=
  rfl
@[simp] theorem AdminRow.withTotp_totp (t : TotpState) (r : AdminRow) :
    (r.withTotp t).totp = t := rfl

def AdminRequest.writesTotp : AdminRequest → Bool
  | .totpVerify _ _ | .totpDisable _ _ => true
  | _ => false

/-- The user name and TOTP columns an accepted request writes; `none` when it is refused. -/
def totpWrite (X : Externals) (db : Database) (c : AdminCall) : Option (String × TotpState) :=
  match c.request with
  | .totpVerify realm body =>
    if canManageRealm c.requester realm db = true ∧
        Endpoints.totpAccepts X c.moment.now realm body db = .ok () then
      match Totps.fromSecret X body.secret (some realm) body.username none with
      | .error _ => none
      | .ok totps => some (body.username,
          ⟨some true, some body.secret, some (totps.getOtpauthUrl X)⟩)
    else none
  | .totpDisable realm user =>
    if canManageRealm c.requester realm db = true then some (user, ⟨some false, none, none⟩)
    else none
  | _ => none

theorem adminStep_of_totpWrite_none {db : Database} {c : AdminCall}
    (hc : c.request.writesTotp = true) (h : totpWrite X db c = none) :
    adminStep X params db c = db := by
  obtain ⟨m, requester, request⟩ := c
  cases request <;> simp only [AdminRequest.writesTotp, Bool.false_eq_true] at hc
  case totpVerify realm body =>
    simp only [adminStep, handleAdmin, Endpoints.totpVerify]
    by_cases hm : canManageRealm requester realm db = false
    · simp [hm]
    · cases ha : Endpoints.totpAccepts X m.now realm body db with
      | error e => simp [hm]
      | ok _ =>
        have hm' : canManageRealm requester realm db = true := by simpa using hm
        simp only [totpWrite, hm', ha, and_self, if_true] at h
        cases hs : Totps.fromSecret X body.secret (some realm) body.username none with
        | error e => simp [hm, Database.enableTotp, hs]
        | ok totps => simp [hs] at h
  case totpDisable realm user =>
    by_cases hm : canManageRealm requester realm db = true
    · simp [totpWrite, hm] at h
    · simp [adminStep, handleAdmin, Endpoints.totpDisable, hm]

theorem adminStep_of_totpWrite {db : Database} {c : AdminCall} {user : String} {t : TotpState}
    (h : totpWrite X db c = some (user, t)) :
    adminStep X params db c =
      db.setAdmin (AdminRow.totpTarget user) (AdminRow.withTotp t) (fun _ => rfl) := by
  obtain ⟨m, requester, request⟩ := c
  cases request <;> simp only [totpWrite, reduceCtorEq] at h
  case totpVerify realm body =>
    split at h
    · rename_i hg
      split at h
      · cases h
      · rename_i totps hs
        cases h
        simp only [adminStep, handleAdmin, Endpoints.totpVerify, hg.1, hg.2, Database.enableTotp,
          hs, Bool.true_eq_false, if_false, Outcome.ok_state]
        rfl
    · cases h
  case totpDisable realm u =>
    split at h
    · rename_i hm
      cases h
      simp only [adminStep, handleAdmin, Endpoints.totpDisable, hm, Bool.true_eq_false, if_false,
        Outcome.ok_state, Database.disableTotp]
      rfl
    · cases h

/-- The property of one request: a second factor changes only on an administrator the requester
may manage. -/
def TotpFramed (X : Externals) (params : ServerParams) (db : Database) (c : AdminCall) : Prop :=
  c.request.writesTotp = true → ∀ row ∈ db.admin,
    canManageAdminRealms c.requester (db.realmsOf row.id) db = false →
      ∃ row' ∈ (adminStep X params db c).admin, row'.id = row.id ∧ row'.totp = row.totp

/-- The request is refused, or addresses no administrator with a password or JWT login, or one
the requester may manage, or one that already has the values it writes. -/
def AddressesOwnAdmin (X : Externals) (db : Database) (c : AdminCall) : Prop :=
  ∀ user t, totpWrite X db c = some (user, t) → ∀ row ∈ db.admin,
    row.totpTarget user = true →
      canManageAdminRealms c.requester (db.realmsOf row.id) db = true ∨ row.totp = t

theorem exists_same_totp_iff {db : Database} {user : String} {t : TotpState} {row : AdminRow}
    (hrow : row ∈ db.admin) :
    (∃ row' ∈ (db.setAdmin (AdminRow.totpTarget user) (AdminRow.withTotp t)
        (fun _ => rfl)).admin, row'.id = row.id ∧ row'.totp = row.totp) ↔
      (row.totpTarget user = true → row.totp = t) := by
  have hw (x : AdminRow) := @Database.mem_setAdmin db (AdminRow.totpTarget user)
    (AdminRow.withTotp t) (fun _ => rfl) x
  constructor
  · rintro ⟨row', hmem, hid, htotp⟩ htarget
    obtain ⟨y, hy, rfl⟩ := (hw _).mp hmem
    have hyid : y.id = row.id := by
      by_cases hq : y.totpTarget user = true
      · simpa [hq] using hid
      · simpa [hq] using hid
    have hyrow : y = row := Table.eq_of_key hy hrow hyid
    subst hyrow
    simpa [htarget] using htotp.symm
  · intro h
    by_cases htarget : row.totpTarget user = true
    · refine ⟨row.withTotp t, (hw _).mpr ⟨row, hrow, by simp [htarget]⟩, rfl, ?_⟩
      simpa using (h htarget).symm
    · exact ⟨row, (hw _).mpr ⟨row, hrow, by simp [htarget]⟩, rfl, rfl⟩

theorem totpFramed_iff (db : Database) (c : AdminCall) :
    TotpFramed X params db c ↔ AddressesOwnAdmin X db c := by
  unfold TotpFramed AddressesOwnAdmin
  cases hw : totpWrite X db c with
  | none =>
    constructor
    · intro _ user t h
      cases h
    · intro _ hc row hrow _
      rw [adminStep_of_totpWrite_none hc hw]
      exact ⟨row, hrow, rfl, rfl⟩
  | some w =>
    obtain ⟨user, t⟩ := w
    have hc : c.request.writesTotp = true := by
      cases hreq : c.request <;> simp [totpWrite, hreq] at hw <;> rfl
    constructor
    · intro h user' t' he row hrow htarget
      cases he
      by_cases hm : canManageAdminRealms c.requester (db.realmsOf row.id) db = true
      · exact .inl hm
      · have hex := h hc row hrow (by simpa using hm)
        rw [adminStep_of_totpWrite hw] at hex
        exact .inr ((exists_same_totp_iff hrow).mp hex htarget)
    · intro h _ row hrow hm
      rw [adminStep_of_totpWrite hw]
      refine (exists_same_totp_iff hrow).mpr fun htarget => ?_
      rcases h user t rfl row hrow htarget with hm' | ht
      · rw [hm] at hm'
        cases hm'
      · exact ht

/-- Along a run, second factors change only on administrators the requester may manage exactly
when every TOTP request of the run addresses such an administrator. -/
theorem totp_frame_iff (start : Database) (calls : List AdminCall) :
    (∀ x ∈ Transition.trace (adminStep X params) start calls, TotpFramed X params x.1 x.2) ↔
      ∀ x ∈ Transition.trace (adminStep X params) start calls, AddressesOwnAdmin X x.1 x.2 :=
  Transition.trace_forall_iff _ totpFramed_iff calls

/-- The super admin creates a realm and its administrator, then enrols its own second factor. -/
def enrolledSetup : List AdminCall :=
  let root : Admin := Database.adminRealmAdmin
  [⟨Transparent.moment 0, root, .createRealm
      { id := "acme", authParams := {}, sessionMaxAgeSeconds := 3600,
        sessionMaxStaleAgeSeconds := 600 }⟩,
   ⟨Transparent.moment 1, root, .createAdmin
      { id := "mallory", realms := ["acme"], userpass := some "mallory" }⟩,
   ⟨Transparent.moment 2, root, .totpVerify adminRealm
      { username := "admin", token := "050550"
        secret := "GEZDGNBVGY3TQOJQGEZDGNBVGY3TQOJQ" }⟩]

set_option maxRecDepth 2000 in
/-- The administrator of `acme` strips the super admin of its second factor. -/
theorem totp_disable_strips_super_admin :
    let step := adminStep Transparent.externals Transparent.params
    let db := Transition.run step (Database.fresh "hash") enrolledSetup
    let mallory : Admin := { id := "mallory", realms := ["acme"], userpass := some "mallory" }
    let db' := step db ⟨Transparent.moment 3, mallory, .totpDisable "acme" "admin"⟩
    db.getAdmin "mallory" = some mallory ∧ canManageRealm mallory "acme" db = true ∧
      canManageAdminRealms mallory (db.realmsOf "admin") db = false ∧
      (db.getAdmin "admin").map Admin.totpSecret =
        some (some "GEZDGNBVGY3TQOJQGEZDGNBVGY3TQOJQ") ∧
      (db'.getAdmin "admin").map Admin.totpSecret = some none ∧
      (db.getAdmin "admin").map Admin.totpEnabled = some (some true) ∧
      (db'.getAdmin "admin").map Admin.totpEnabled = some (some false) := by
  decide

end AuthVerifier
