import AuthVerifier.AdminApi
import AuthVerifier.Transparent

/-!
The realm-claim lifecycle. While some administrator lists a realm, a super admin outside it is
refused everything but reading and deleting the realm; once nobody lists it, being outside makes
no difference.
-/

set_option autoImplicit false

namespace AuthVerifier
open Effects Relational
variable {X : Externals} {params : ServerParams} {m : Moment} {requester : Admin}
variable {db : Database} {R : String}

/-- The request names the realm: in its path, or through the current or new realm list of an
existing administrator. -/
def AdminRequest.Names (db : Database) (R : String) : AdminRequest → Prop
  | .createAdmin body => R ∈ body.realms
  | .getAdmin id | .deleteAdmin id => R ∈ db.realmsOf id
  | .updateAdmin id body => R ∈ db.realmsOf id ∨ id ∈ db.admin.keys ∧ R ∈ body.realms
  | .addAdminToRealm id r | .removeAdminFromRealm id r => r = R ∨ R ∈ db.realmsOf id
  | .updateRealm r _ | .createUserpass r _ | .getUserpass r _ | .updateUserpass r _ _
  | .deleteUserpass r _ | .listUserpassByRealm r | .totpGenerate r _ | .totpVerify r _
  | .totpDisable r _ => r = R
  | .createRealm _ | .getRealm _ | .deleteRealm _ | .listRealms | .listAdmins
  | .listAllUserpass => False

/-- The remaining requests that carry the realm id: creating the realm again, or giving it to an
administrator that does not exist. -/
def AdminRequest.Reuses (db : Database) (R : String) : AdminRequest → Prop
  | .createRealm body => body.id = R
  | .updateAdmin id body => id ∉ db.admin.keys ∧ R ∈ body.realms
  | _ => False

theorem canManageRealm_of_claimed (hc : db.Claimed R) (hm : R ∉ requester.realms) :
    canManageRealm requester R db = false := by
  rw [Bool.eq_false_iff]
  intro h
  rcases canManageRealm_iff.mp h with h | ⟨_, h⟩
  · exact hm h
  · exact h hc

theorem canManageAdminRealms_of_claimed {rs : List String} (hc : db.Claimed R)
    (hm : R ∉ requester.realms) (hr : R ∈ rs) : canManageAdminRealms requester rs db = false := by
  rw [Bool.eq_false_iff]
  intro h
  have hcan := canManageRealm_of_mem h hr
  rw [canManageRealm_of_claimed hc hm] at hcan
  cases hcan

theorem exists_getAdmin_of_mem_realmsOf {id : String} (h : R ∈ db.realmsOf id) :
    ∃ target, db.getAdmin id = some target ∧ target.realms = db.realmsOf id := by
  have hk := db.membershipAdmin _ (Database.mem_realmsOf.mp h)
  cases hg : db.getAdmin id with
  | none => exact absurd hk (Database.getAdmin_eq_none_iff.mp hg)
  | some target => exact ⟨target, rfl, Database.getAdmin_realms hg⟩

theorem checkSamlParams_id {body realm : Realm}
    (h : Endpoints.checkSamlParams X params body = .ok realm) : realm.id = body.id := by
  unfold Endpoints.checkSamlParams at h
  cases hs : body.authParams.samlParams with
  | none =>
    simp only [hs] at h
    cases h
    rfl
  | some saml =>
    simp only [hs] at h
    split at h
    · cases h
    · split at h
      · cases h
      · split at h
        · cases h
        · cases h
          rfl

theorem refused_of_check {b : Prop} [Decidable b] {msg : String}
    {o : Outcome Database AuthError HttpResponse} (h : b) :
    ∃ msg', (if b then .error db (.forbidden msg) else o) = .error db (.forbidden msg') :=
  ⟨msg, if_pos h⟩

theorem names_forbidden (hc : db.Claimed R) (hm : R ∉ requester.realms) {req : AdminRequest}
    (hn : req.Names db R) :
    ∃ msg, handleAdmin X params m requester db req = .error db (.forbidden msg) := by
  have hrealm := canManageRealm_of_claimed hc hm
  have hrealms {rs : List String} (hr : R ∈ rs) := canManageAdminRealms_of_claimed hc hm hr
  cases req <;> simp only [AdminRequest.Names] at hn
  case createAdmin body => exact refused_of_check (hrealms hn)
  case getAdmin id =>
    obtain ⟨target, hg, hr⟩ := exists_getAdmin_of_mem_realmsOf hn
    simp only [handleAdmin, Endpoints.getAdmin, hg]
    exact refused_of_check (hrealms (hr ▸ hn))
  case deleteAdmin id =>
    obtain ⟨target, hg, hr⟩ := exists_getAdmin_of_mem_realmsOf hn
    simp only [handleAdmin, Endpoints.deleteAdmin, hg]
    exact refused_of_check (hrealms (hr ▸ hn))
  case updateAdmin id body =>
    simp only [handleAdmin, Endpoints.updateAdmin]
    rcases hn with hn | ⟨hk, hn⟩
    · obtain ⟨target, hg, hr⟩ := exists_getAdmin_of_mem_realmsOf hn
      rw [hg]
      exact refused_of_check (hrealms (hr ▸ hn))
    · cases hg : db.getAdmin id with
      | none => exact absurd hk (Database.getAdmin_eq_none_iff.mp hg)
      | some target =>
        dsimp only
        split
        · exact ⟨_, rfl⟩
        · exact refused_of_check (hrealms hn)
  case addAdminToRealm id r =>
    rcases hn with rfl | hn
    · exact refused_of_check hrealm
    · obtain ⟨target, hg, hr⟩ := exists_getAdmin_of_mem_realmsOf hn
      have hne : target.realms.isEmpty = false := by
        rw [← hr] at hn
        cases hrs : target.realms with
        | nil => simp [hrs] at hn
        | cons a as => rfl
      simp only [handleAdmin, Endpoints.addAdminToRealm, hg]
      split
      · exact ⟨_, rfl⟩
      · exact refused_of_check ⟨hne, hrealms (hr ▸ hn)⟩
  case removeAdminFromRealm id r =>
    rcases hn with rfl | hn
    · exact refused_of_check hrealm
    · obtain ⟨target, hg, hr⟩ := exists_getAdmin_of_mem_realmsOf hn
      simp only [handleAdmin, Endpoints.removeAdminFromRealm, hg]
      split
      · exact ⟨_, rfl⟩
      · exact refused_of_check (hrealms (hr ▸ hn))
  -- what is left names the realm in its path, and checks `can_manage_realm` on it first
  all_goals
    subst hn
    exact refused_of_check hrealm

theorem reuses_fails (hc : db.Claimed R) {req : AdminRequest} (hr : req.Reuses db R) :
    ∃ e, handleAdmin X params m requester db req = .error db e := by
  cases req <;> simp only [AdminRequest.Reuses] at hr
  case updateAdmin id body =>
    have hg := Database.getAdmin_eq_none_iff.mpr hr.1
    simp only [handleAdmin, Endpoints.updateAdmin, hg]
    exact ⟨_, rfl⟩
  case createRealm body =>
    obtain ⟨id, hid⟩ := hc
    have hk : R ∈ db.realm.keys := db.membershipRealm _ hid
    simp only [handleAdmin, Endpoints.createRealm]
    split
    · exact ⟨_, rfl⟩
    · cases hs : Endpoints.checkSamlParams X params body with
      | error e => exact ⟨_, rfl⟩
      | ok realm =>
        dsimp only
        cases hd : db.createRealm realm with
        | error e => exact ⟨_, rfl⟩
        | ok db' =>
          have hfresh := (Database.createRealm_ok hd).1
          rw [checkSamlParams_id hs, hr] at hfresh
          exact absurd hk hfresh

def HttpResponse.shownRealms (r : HttpResponse) : List String :=
  match r.body with
  | .realm realm => [realm.id]
  | .realms realms => realms.map Realm.id
  | .userpass u => [u.realm]
  | .userpassList us => us.map UserPass.realm
  | .admin a => a.realms
  | .admins as => as.flatMap Admin.realms
  | .session (some d) => [d.realmId]
  | _ => []

theorem lists_hide_claimed (hc : db.Claimed R) (hm : R ∉ requester.realms) {req : AdminRequest}
    (hreq : req = .listAdmins ∨ req = .listAllUserpass) {response : HttpResponse}
    (h : (handleAdmin X params m requester db req).result = .ok response) :
    R ∉ response.shownRealms := by
  have hrealm := canManageRealm_of_claimed hc hm
  rcases hreq with rfl | rfl
  · simp only [handleAdmin, Endpoints.listAdmins] at h
    split at h
    · cases h
    · cases h
      simp only [HttpResponse.shownRealms, List.mem_flatMap, List.mem_filter, not_exists, not_and]
      intro a ha hr
      have hvis := ha.2
      have hne : a.realms.isEmpty = false := by
        cases hrs : a.realms with
        | nil => simp [hrs] at hr
        | cons r rs => rfl
      simp only [Endpoints.adminVisible, hne, realmManageableGivenClaims_eq] at hvis
      have hcan := List.all_eq_true.mp hvis R hr
      rw [hrealm] at hcan
      cases hcan
  · simp only [handleAdmin, Endpoints.listAllUserpass] at h
    split at h
    · cases h
    · cases h
      simp only [HttpResponse.shownRealms, List.mem_map, List.mem_filter, not_exists, not_and]
      intro u hu hr
      have hvis := hu.2
      rw [realmManageableGivenClaims_eq, hr, hrealm] at hvis
      cases hvis

def Admin.joining (a : Admin) (R : String) : Admin := { a with realms := R :: a.realms }

section Joining
variable (hs : adminRealm ∈ requester.realms)
include hs

theorem isSuperAdmin_joining : (requester.joining R).isSuperAdmin = requester.isSuperAdmin := by
  simp [Admin.isSuperAdmin, Admin.joining, hs]

theorem canAdministerRealm_joining (r : String) :
    (requester.joining R).canAdministerRealm r = requester.canAdministerRealm r := by
  simp [Admin.canAdministerRealm, Admin.joining, hs]

theorem canManageRealm_joining (hc : ¬ db.Claimed R) (r : String) :
    canManageRealm (requester.joining R) r db = canManageRealm requester r db := by
  rw [Bool.eq_iff_iff, canManageRealm_iff, canManageRealm_iff]
  by_cases hr : r = R
  · subst hr
    simp [Admin.joining, hs, hc]
  · simp [Admin.joining, hs, hr]

theorem canManageAdminRealms_joining (hc : ¬ db.Claimed R) (rs : List String) :
    canManageAdminRealms (requester.joining R) rs db = canManageAdminRealms requester rs db := by
  unfold canManageAdminRealms
  simp only [canManageRealm_joining hs hc, isSuperAdmin_joining hs]

theorem adminVisible_joining (hc : ¬ db.Claimed R) (a : Admin) :
    Endpoints.adminVisible (requester.joining R) (claimedRealms db.listAdmins) a =
      Endpoints.adminVisible requester (claimedRealms db.listAdmins) a := by
  unfold Endpoints.adminVisible
  simp only [realmManageableGivenClaims_eq, canManageRealm_joining hs hc, isSuperAdmin_joining hs]

theorem handleAdmin_joining (hc : ¬ db.Claimed R) (req : AdminRequest) :
    handleAdmin X params m (requester.joining R) db req =
      handleAdmin X params m requester db req := by
  have hsup := @isSuperAdmin_joining requester R hs
  have hadm := @canAdministerRealm_joining requester R hs
  have hrealm := canManageRealm_joining hs hc
  have hrealms := canManageAdminRealms_joining hs hc
  cases req with
  | createAdmin body => simp only [handleAdmin, Endpoints.createAdmin, hrealms]
  | getAdmin id => simp only [handleAdmin, Endpoints.getAdmin, hrealms]
  | updateAdmin id body => simp only [handleAdmin, Endpoints.updateAdmin, hrealms]
  | deleteAdmin id => simp only [handleAdmin, Endpoints.deleteAdmin, hrealms, hsup]
  | listAdmins =>
    have hvis : Endpoints.adminVisible (requester.joining R) (claimedRealms db.listAdmins) =
        Endpoints.adminVisible requester (claimedRealms db.listAdmins) :=
      funext (adminVisible_joining hs hc)
    simp only [handleAdmin, Endpoints.listAdmins, hsup, hvis]
  | addAdminToRealm id r => simp only [handleAdmin, Endpoints.addAdminToRealm, hrealm, hrealms]
  | removeAdminFromRealm id r =>
    simp only [handleAdmin, Endpoints.removeAdminFromRealm, hrealm, hrealms]
  | createRealm body => simp only [handleAdmin, Endpoints.createRealm, hsup]
  | getRealm r => simp only [handleAdmin, Endpoints.getRealm, hadm]
  | updateRealm r body => simp only [handleAdmin, Endpoints.updateRealm, hrealm]
  | deleteRealm r => simp only [handleAdmin, Endpoints.deleteRealm, hadm]
  | listRealms => simp only [handleAdmin, Endpoints.listRealms, hsup, hadm]
  | createUserpass r body => simp only [handleAdmin, Endpoints.createUserpass, hrealm]
  | getUserpass r user => simp only [handleAdmin, Endpoints.getUserpass, hrealm]
  | updateUserpass r user body => simp only [handleAdmin, Endpoints.updateUserpass, hrealm]
  | deleteUserpass r user => simp only [handleAdmin, Endpoints.deleteUserpass, hrealm]
  | listUserpassByRealm r => simp only [handleAdmin, Endpoints.listUserpassByRealm, hrealm]
  | listAllUserpass =>
    simp only [handleAdmin, Endpoints.listAllUserpass, hsup, realmManageableGivenClaims_eq, hrealm]
  | totpGenerate r body => simp only [handleAdmin, Endpoints.totpGenerate, hrealm]
  | totpVerify r body => simp only [handleAdmin, Endpoints.totpVerify, hrealm]
  | totpDisable r user => simp only [handleAdmin, Endpoints.totpDisable, hrealm]

end Joining

def AuthError.isForbidden : AuthError → Bool
  | .forbidden _ => true
  | _ => false

def Admitted (o : Outcome Database AuthError HttpResponse) : Prop :=
  ∀ e, o.result = .error e → e.isForbidden = false

theorem Admitted.ok {db : Database} {r : HttpResponse} : Admitted (.ok db r) := by
  intro e h
  cases h

theorem Admitted.error {db : Database} {e : AuthError} (h : e.isForbidden = false) :
    Admitted (.error db e) := by
  intro e' he
  cases he
  exact h

theorem ofDb_isForbidden (e : AuthDbError) : (AuthError.ofDb e).isForbidden = false := by
  cases e <;> rfl

theorem Admitted.mapError_bind {o : Outcome Database AuthDbError Unit}
    {f : Database → Unit → Outcome Database AuthError HttpResponse}
    (h : ∀ db u, Admitted (f db u)) : Admitted ((o.mapError AuthError.ofDb).bind f) := by
  obtain ⟨db, r⟩ := o
  cases r with
  | ok u => exact h db u
  | error e => exact .error (ofDb_isForbidden e)

theorem storeAdmin_admitted (db : Database) (a : Admin) : Admitted (Endpoints.storeAdmin db a) :=
  Admitted.mapError_bind fun _ _ => .ok

theorem link_admitted {o : Outcome Database AuthDbError Unit} {db : Database} {r : HttpResponse}
    {b : Prop} [Decidable b] :
    Admitted ((if b then .ok db () else o.mapError AuthError.ofDb).bind
      fun db () => Outcome.ok db r) := by
  split
  · exact .ok
  · exact Admitted.mapError_bind fun _ _ => .ok

theorem autoLink_admitted (db : Database) (realm user : String) (r : HttpResponse) :
    Admitted ((Endpoints.autoLink db realm user).bind fun db () => .ok db r) := by
  unfold Endpoints.autoLink
  split
  · cases db.getAdmin user with
    | none => exact .ok
    | some admin => exact link_admitted
  · exact .ok

theorem autoUnlink_admitted (db : Database) (realm user : String) (r : HttpResponse) :
    Admitted ((Endpoints.autoUnlink db realm user).bind fun db () => .ok db r) := by
  unfold Endpoints.autoUnlink
  split
  · cases db.getAdmin user with
    | none => exact .ok
    | some admin =>
      dsimp only
      split
      · exact Admitted.mapError_bind fun _ _ => .ok
      · exact .ok
  · exact .ok

theorem checkSamlParams_isForbidden {realm : Realm} {e : AuthError}
    (h : Endpoints.checkSamlParams X params realm = .error e) : e.isForbidden = false := by
  unfold Endpoints.checkSamlParams at h
  cases hs : realm.authParams.samlParams with
  | none => simp [hs] at h
  | some saml =>
    simp only [hs] at h
    split at h
    · cases h
      rfl
    · split at h
      · cases h
        rfl
      · split at h
        · rename_i e' _
          cases h
          cases e' <;> rfl
        · cases h

theorem rejectReservedClaimNames_isForbidden {names : List String} {e : AuthError}
    (h : rejectReservedClaimNames names = .error e) : e.isForbidden = false := by
  induction names with
  | nil => cases h
  | cons name names ih =>
    unfold rejectReservedClaimNames at h
    split at h
    · cases h
      rfl
    · exact ih h

theorem checkExtraClaims_isForbidden {claims : Option ExtraClaims} {e : AuthError}
    (h : checkExtraClaims X claims = .error e) : e.isForbidden = false := by
  cases claims with
  | none => cases h
  | some claims =>
    simp only [checkExtraClaims] at h
    cases hn : rejectReservedClaimNames (claims.map Prod.fst) with
    | error e' =>
      simp only [hn] at h
      cases h
      exact rejectReservedClaimNames_isForbidden hn
    | ok _ =>
      simp only [hn, validateExtraClaimsSize] at h
      split at h
      · cases h
        rfl
      · cases h

theorem validateArgon2PhcString_isForbidden {hash : String} {e : AuthError}
    (h : validateArgon2PhcString X hash = .error e) : e.isForbidden = false := by
  unfold validateArgon2PhcString at h
  repeat' split at h
  all_goals cases h
  all_goals rfl

theorem createdHash_isForbidden {salt : String} {input : Option PasswordInput} {e : AuthError}
    (h : Endpoints.createdHash X salt input = .error e) : e.isForbidden = false := by
  unfold Endpoints.createdHash at h
  split at h
  · split at h
    · cases h
    · cases h
      rfl
  · split at h
    · cases h
    · rename_i hv
      cases h
      exact validateArgon2PhcString_isForbidden hv
  · cases h
    rfl

theorem realmTotpParams_isForbidden {realm : Realm} {e : AuthError}
    (h : realmTotpParams realm = .error e) : e.isForbidden = false := by
  unfold realmTotpParams at h
  split at h
  · cases h
  · split at h
    · cases h
    · rename_i hp
      cases h
      simp only [realmParamsToTotpParams] at hp
      repeat' split at hp
      all_goals cases hp
      all_goals rfl

/-- The request is a `totp_verify` whose code does not match its secret. -/
def WrongCode (X : Externals) (m : Moment) (db : Database) : AdminRequest → Prop
  | .totpVerify realm body => ∃ e, Endpoints.totpAccepts X m.now realm body db = .error e ∧
      e.isForbidden = true
  | _ => False

namespace Endpoints
variable {id realm user : String}

theorem createAdmin_admitted {body : Admin}
    (h : canManageAdminRealms requester body.realms db = true) :
    Admitted (createAdmin requester body db) := by
  simp only [createAdmin, h, Bool.true_eq_false, if_false]
  exact Admitted.mapError_bind fun _ _ => .ok

theorem getAdmin_admitted
    (h : ∀ target, db.getAdmin id = some target →
      canManageAdminRealms requester target.realms db = true) :
    Admitted (getAdmin requester id db) := by
  unfold getAdmin
  cases ht : db.getAdmin id with
  | none => exact .error rfl
  | some target =>
    simp only [h target ht, Bool.true_eq_false, if_false]
    exact .ok

theorem updateAdmin_admitted {body : Admin}
    (h : ∀ target, db.getAdmin id = some target →
      canManageAdminRealms requester target.realms db = true ∧
        canManageAdminRealms requester body.realms db = true) :
    Admitted (updateAdmin requester id body db) := by
  unfold updateAdmin
  cases ht : db.getAdmin id with
  | none => exact .error rfl
  | some target =>
    simp only [h target ht, Bool.true_eq_false, if_false]
    exact storeAdmin_admitted _ _

theorem deleteAdmin_admitted (hs : requester.isSuperAdmin = true)
    (h : ∀ target, db.getAdmin id = some target →
      canManageAdminRealms requester target.realms db = true) :
    Admitted (deleteAdmin requester id db) := by
  unfold deleteAdmin
  cases ht : db.getAdmin id with
  | none =>
    simp only [hs, Bool.true_eq_false, if_false]
    exact .ok
  | some target =>
    simp only [h target ht, Bool.true_eq_false, if_false]
    cases target.userpass with
    | none => exact .ok
    | some u => exact .ok

theorem addAdminToRealm_admitted (hr : canManageRealm requester realm db = true)
    (h : ∀ target, db.getAdmin id = some target →
      canManageAdminRealms requester target.realms db = true) :
    Admitted (addAdminToRealm requester id realm db) := by
  simp only [addAdminToRealm, hr, Bool.true_eq_false, if_false]
  cases ht : db.getAdmin id with
  | none => exact .error rfl
  | some target =>
    simp only [h target ht, Bool.true_eq_false, and_false, if_false]
    split
    · exact .ok
    · exact storeAdmin_admitted _ _

theorem removeAdminFromRealm_admitted (hr : canManageRealm requester realm db = true)
    (h : ∀ target, db.getAdmin id = some target →
      canManageAdminRealms requester target.realms db = true) :
    Admitted (removeAdminFromRealm requester id realm db) := by
  simp only [removeAdminFromRealm, hr, Bool.true_eq_false, if_false]
  cases ht : db.getAdmin id with
  | none => exact .error rfl
  | some target =>
    simp only [h target ht, Bool.true_eq_false, if_false]
    split
    · exact storeAdmin_admitted _ _
    · exact .ok

theorem createRealm_admitted {body : Realm} (hs : requester.isSuperAdmin = true) :
    Admitted (createRealm X params requester body db) := by
  simp only [createRealm, hs, Bool.true_eq_false, if_false]
  cases hc : checkSamlParams X params body with
  | error e => exact .error (checkSamlParams_isForbidden hc)
  | ok realm =>
    dsimp only
    cases db.createRealm realm with
    | error e => exact .error (ofDb_isForbidden e)
    | ok db' => exact .ok

theorem getRealm_admitted (h : requester.canAdministerRealm realm = true) :
    Admitted (getRealm requester realm db) := by
  simp only [getRealm, h, Bool.true_eq_false, if_false]
  cases db.getRealm realm with
  | none => exact .error rfl
  | some r => exact .ok

theorem updateRealm_admitted {body : Realm} (hr : canManageRealm requester realm db = true) :
    Admitted (updateRealm X params requester realm body db) := by
  simp only [updateRealm, hr, Bool.true_eq_false, if_false]
  cases hc : checkSamlParams X params { body with id := realm } with
  | error e => exact .error (checkSamlParams_isForbidden hc)
  | ok r => exact .ok

theorem createUserpass_admitted {body : UserPass} (hr : canManageRealm requester realm db = true) :
    Admitted (createUserpass X m.salt requester realm body db) := by
  simp only [createUserpass, hr, Bool.true_eq_false, if_false]
  cases hx : checkExtraClaims X body.extraClaims with
  | error e => exact .error (checkExtraClaims_isForbidden hx)
  | ok _ =>
    dsimp only
    cases hp : createdHash X m.salt body.passwordInput with
    | error e => exact .error (createdHash_isForbidden hp)
    | ok hash =>
      dsimp only
      split
      · exact .error rfl
      · exact .error (ofDb_isForbidden _)
      · exact autoLink_admitted _ _ _ _

theorem getUserpass_admitted (hr : canManageRealm requester realm db = true) :
    Admitted (getUserpass requester realm user db) := by
  simp only [getUserpass, hr, Bool.true_eq_false, if_false]
  cases db.getUserpass realm user with
  | none => exact .error rfl
  | some u => exact .ok

theorem updateUserpass_admitted {body : UserPass} (hr : canManageRealm requester realm db = true) :
    Admitted (updateUserpass X m.salt requester realm user body db) := by
  simp only [updateUserpass, hr, Bool.true_eq_false, if_false]
  cases hx : checkExtraClaims X body.extraClaims with
  | error e => exact .error (checkExtraClaims_isForbidden hx)
  | ok _ =>
    dsimp only
    split
    · split
      · exact .error rfl
      · exact .ok
    · split
      · exact .error rfl
      · exact .ok
    · split
      · rename_i hv
        exact .error (validateArgon2PhcString_isForbidden hv)
      · exact .ok

theorem totpGenerate_admitted {body : TotpGenerateRequest}
    (hr : canManageRealm requester realm db = true) :
    Admitted (totpGenerate X m.totpSecret requester realm body db) := by
  simp only [totpGenerate, hr, Bool.true_eq_false, if_false]
  split
  · exact .error rfl
  · split
    · rename_i hp
      exact .error (realmTotpParams_isForbidden hp)
    · split
      · exact .error rfl
      · exact .ok

theorem totpVerify_admitted {body : TotpVerifyRequest}
    (hr : canManageRealm requester realm db = true)
    (hw : ¬ WrongCode X m db (.totpVerify realm body)) :
    Admitted (totpVerify X m.now requester realm body db) := by
  simp only [totpVerify, hr, Bool.true_eq_false, if_false]
  cases ha : totpAccepts X m.now realm body db with
  | error e =>
    refine .error ?_
    by_contra hf
    exact hw ⟨e, ha, by simpa using hf⟩
  | ok _ =>
    dsimp only
    cases db.enableTotp X body.username body.secret realm with
    | error e => exact .error (ofDb_isForbidden e)
    | ok db' => exact .ok

end Endpoints

theorem canManageAdminRealms_of_forall {rs : List String} (hs : adminRealm ∈ requester.realms)
    (h : ∀ r ∈ rs, canManageRealm requester r db = true) :
    canManageAdminRealms requester rs db = true := by
  rw [canManageAdminRealms_iff]
  by_cases hrs : rs = []
  · exact .inl ⟨hrs, hs⟩
  · exact .inr ⟨hrs, h⟩

theorem handleAdmin_admitted {req : AdminRequest} (hs : adminRealm ∈ requester.realms)
    (hn : ∀ r, req.Names db r → canManageRealm requester r db = true)
    (hw : ¬ WrongCode X m db req) : Admitted (handleAdmin X params m requester db req) := by
  have hsup : requester.isSuperAdmin = true := isSuperAdmin_iff.mpr hs
  have hadm (r : String) : requester.canAdministerRealm r = true := by
    simp [Admin.canAdministerRealm, hs]
  have htarget {id : String} (h : ∀ r ∈ db.realmsOf id, canManageRealm requester r db = true)
      (target : Admin) (ht : db.getAdmin id = some target) :
      canManageAdminRealms requester target.realms db = true := by
    rw [Database.getAdmin_realms ht]
    exact canManageAdminRealms_of_forall hs h
  cases req with
  | createAdmin body =>
    exact Endpoints.createAdmin_admitted (canManageAdminRealms_of_forall hs hn)
  | getAdmin id => exact Endpoints.getAdmin_admitted (htarget hn)
  | updateAdmin id body =>
    refine Endpoints.updateAdmin_admitted fun target ht => ?_
    have hk : id ∈ db.admin.keys := by
      by_contra hk
      rw [Database.getAdmin_eq_none_iff.mpr hk] at ht
      cases ht
    exact ⟨htarget (fun r hr => hn r (.inl hr)) target ht,
      canManageAdminRealms_of_forall hs (fun r hr => hn r (.inr ⟨hk, hr⟩))⟩
  | deleteAdmin id => exact Endpoints.deleteAdmin_admitted hsup (htarget hn)
  | listAdmins =>
    simp only [handleAdmin, Endpoints.listAdmins, hsup, Bool.true_eq_false, if_false]
    exact .ok
  | addAdminToRealm id r =>
    exact Endpoints.addAdminToRealm_admitted (hn r (.inl rfl))
      (htarget (fun r hr => hn r (.inr hr)))
  | removeAdminFromRealm id r =>
    exact Endpoints.removeAdminFromRealm_admitted (hn r (.inl rfl))
      (htarget (fun r hr => hn r (.inr hr)))
  | createRealm body => exact Endpoints.createRealm_admitted hsup
  | getRealm r => exact Endpoints.getRealm_admitted (hadm r)
  | updateRealm r body => exact Endpoints.updateRealm_admitted (hn r rfl)
  | deleteRealm r =>
    simp only [handleAdmin, Endpoints.deleteRealm, hadm, Bool.true_eq_false, if_false]
    exact .ok
  | listRealms => exact .ok
  | createUserpass r body => exact Endpoints.createUserpass_admitted (hn r rfl)
  | getUserpass r user => exact Endpoints.getUserpass_admitted (hn r rfl)
  | updateUserpass r user body => exact Endpoints.updateUserpass_admitted (hn r rfl)
  | deleteUserpass r user =>
    simp only [handleAdmin, Endpoints.deleteUserpass, hn r rfl, Bool.true_eq_false, if_false]
    exact autoUnlink_admitted _ _ _ _
  | listUserpassByRealm r =>
    simp only [handleAdmin, Endpoints.listUserpassByRealm, hn r rfl, Bool.true_eq_false, if_false]
    exact .ok
  | listAllUserpass =>
    simp only [handleAdmin, Endpoints.listAllUserpass, hsup, Bool.true_eq_false, if_false]
    exact .ok
  | totpGenerate r body => exact Endpoints.totpGenerate_admitted (hn r rfl)
  | totpVerify r body => exact Endpoints.totpVerify_admitted (hn r rfl) hw
  | totpDisable r user =>
    simp only [handleAdmin, Endpoints.totpDisable, hn r rfl, Bool.true_eq_false, if_false]
    exact .ok

theorem getRealm_of_claimed (hs : adminRealm ∈ requester.realms) (hc : db.Claimed R) :
    ∃ realm, realm.id = R ∧ handleAdmin X params m requester db (.getRealm R) =
      .ok db { status := 200, body := .realm realm } := by
  obtain ⟨id, hid⟩ := hc
  obtain ⟨realm, hrealm, hk⟩ := Table.mem_keys.mp (db.membershipRealm _ hid)
  have hg : db.getRealm R = some realm := Table.find?_eq_some_iff.mpr ⟨hrealm, hk⟩
  refine ⟨realm, hk, ?_⟩
  simp [handleAdmin, Endpoints.getRealm, Admin.canAdministerRealm, hs, hg]

end AuthVerifier
