import AuthVerifier.PublicView
import AuthVerifier.Transparent

/-!
Which answers depend on stored secrets. Two databases that agree on everything public are
answered alike by every endpoint but those that serialize whole records.
-/

set_option autoImplicit false

namespace AuthVerifier
open Effects Relational
variable {X : Externals} {params : ServerParams} {m : Moment} {requester : Admin}
variable {db db' : Database}

def HttpResponse.HashesEmpty (r : HttpResponse) : Prop :=
  match r.body with
  | .userpass u => u.passwordHash = ""
  | .userpassList us => ∀ u ∈ us, u.passwordHash = ""
  | _ => True

def NonDisclosing (X : Externals) (params : ServerParams) (m : Moment) (requester : Admin)
    (db db' : Database) (req : AdminRequest) : Prop :=
  (handleAdmin X params m requester db req).result =
      (handleAdmin X params m requester db' req).result ∧
    ∀ r, (handleAdmin X params m requester db req).result = .ok r → r.HashesEmpty

def shownAdmins (requester : Admin) (db : Database) : AdminRequest → List String
  | .getAdmin id =>
    if canManageAdminRealms requester (db.realmsOf id) db = true then [id] else []
  | .addAdminToRealm id r =>
    if canManageRealm requester r db = true ∧ r ∈ db.realm.keys ∧
        (db.realmsOf id = [] ∨ canManageAdminRealms requester (db.realmsOf id) db = true) then [id]
    else []
  | .removeAdminFromRealm id r =>
    if canManageRealm requester r db = true ∧
        canManageAdminRealms requester (db.realmsOf id) db = true then [id]
    else []
  | .listAdmins =>
    if requester.isSuperAdmin = true then
      (db.listAdmins.filter (fun a => canManageAdminRealms requester a.realms db)).map Admin.id
    else []
  | _ => []

def listedCredentials (requester : Admin) (db : Database) : AdminRequest → List UserPass
  | .listUserpassByRealm r =>
    if canManageRealm requester r db = true then db.listUserpassByRealm r else []
  | .listAllUserpass =>
    if requester.isSuperAdmin = true then
      db.listAllUserpass.filter (fun u => canManageRealm requester u.realm db)
    else []
  | _ => []

/-- Every shown administrator has the same TOTP material in both states, and no listed
credential has a stored hash. -/
def ShowsNoSecret (requester : Admin) (db db' : Database) (req : AdminRequest) : Prop :=
  (∀ id ∈ shownAdmins requester db req,
      (db.getAdmin id).map Admin.secrets = (db'.getAdmin id).map Admin.secrets) ∧
    (∀ u ∈ listedCredentials requester db req, u.passwordHash = "") ∧
    ∀ u ∈ listedCredentials requester db' req, u.passwordHash = ""

def AdminRequest.serializesRecords : AdminRequest → Bool
  | .getAdmin _ | .addAdminToRealm _ _ | .removeAdminFromRealm _ _ | .listAdmins
  | .listUserpassByRealm _ | .listAllUserpass => true
  | _ => false

namespace Endpoints
variable (h : PublicEq db db')
include h

theorem createAdmin_publicEq (body : Admin) :
    (createAdmin requester body db').result = (createAdmin requester body db).result := by
  have hres := h.createAdmin_result body
  unfold createAdmin
  rw [h.canManageAdminRealms]
  split
  · rfl
  · simp only [Outcome.bind, Outcome.mapError, hres]
    cases (db.createAdmin body).result <;> rfl

theorem storeAdmin_publicEq (a : Admin) :
    (storeAdmin db' a).result = (storeAdmin db a).result := by
  have hres := h.updateAdmin_result (a := a) rfl rfl
  simp only [storeAdmin, Outcome.bind, Outcome.mapError, hres]
  cases (db.updateAdmin a).result <;> rfl

theorem updateAdmin_publicEq (id : String) (body : Admin) :
    (updateAdmin requester id body db').result = (updateAdmin requester id body db).result := by
  unfold updateAdmin
  rcases h.getAdmin_cases id with ⟨ha, ha'⟩ | ⟨a, a', ha, ha', hred⟩
  · simp only [ha, ha', Outcome.error_result]
  · have hrs : a'.realms = a.realms := (Admin.mk.inj hred).2.1
    simp only [ha, ha', hrs, h.canManageAdminRealms]
    split
    · rfl
    · split
      · rfl
      · exact storeAdmin_publicEq h _

theorem deleteAdmin_publicEq (id : String) :
    (deleteAdmin requester id db').result = (deleteAdmin requester id db).result := by
  unfold deleteAdmin
  rcases h.getAdmin_cases id with ⟨ha, ha'⟩ | ⟨a, a', ha, ha', hred⟩
  · simp only [ha, ha']
    split <;> rfl
  · have hrs : a'.realms = a.realms := (Admin.mk.inj hred).2.1
    have hup : a'.userpass = a.userpass := (Admin.mk.inj hred).2.2.1
    simp only [ha, ha', hrs, hup, h.canManageAdminRealms]
    split
    · rfl
    · cases a.userpass <;> rfl

theorem createRealm_publicEq (body : Realm) :
    (createRealm X params requester body db').result =
      (createRealm X params requester body db).result := by
  unfold createRealm
  split
  · rfl
  · cases checkSamlParams X params body with
    | error e => rfl
    | ok realm =>
      dsimp only
      by_cases hc : Database.realmIdCheck realm.id = false
      · simp [Database.createRealm, hc]
      · by_cases hk : realm.id ∈ db.realm.keys
        · simp [Database.createRealm, hc, hk, h.realm]
        · simp [Database.createRealm, hc, hk, h.realm]

theorem createUserpass_publicEq (realm : String) (body : UserPass) :
    (createUserpass X m.salt requester realm body db').result =
      (createUserpass X m.salt requester realm body db).result := by
  unfold createUserpass
  rw [h.canManageRealm]
  split
  · rfl
  · cases checkExtraClaims X body.extraClaims with
    | error e => rfl
    | ok _ =>
      dsimp only
      cases createdHash X m.salt body.passwordInput with
      | error e => rfl
      | ok hash =>
        dsimp only
        rcases h.createUserpass { body with
            realm := realm, passwordHash := hash, passwordInput := none } with
          ⟨e, he, he'⟩ | ⟨d, d', hd, hd', hpub⟩
        · rw [he, he']
          cases e <;> rfl
        · have hlink := hpub.autoLink_result realm body.username
          rw [hd, hd']
          simp only [Outcome.bind, hlink]
          cases (autoLink d realm body.username).result <;> rfl

theorem updateUserpass_publicEq (realm user : String) (body : UserPass) :
    (updateUserpass X m.salt requester realm user body db').result =
      (updateUserpass X m.salt requester realm user body db).result := by
  have hchanged : extraClaimsChanged db' realm user body.extraClaims =
      extraClaimsChanged db realm user body.extraClaims := by
    unfold extraClaimsChanged
    simp only [h.getUserpass]
  unfold updateUserpass
  rw [h.canManageRealm]
  split
  · rfl
  · cases checkExtraClaims X body.extraClaims with
    | error e => rfl
    | ok _ =>
      simp only [hchanged]
      split
      · split <;> rfl
      · split <;> rfl
      · split <;> rfl

theorem deleteUserpass_publicEq (realm user : String) :
    (deleteUserpass requester realm user db').result =
      (deleteUserpass requester realm user db).result := by
  unfold deleteUserpass
  rw [h.canManageRealm]
  split
  · rfl
  · have hlink := (h.deleteUserpass realm user).autoUnlink_result realm user
    simp only [Outcome.bind, hlink]
    cases (autoUnlink (db.deleteUserpass realm user) realm user).result <;> rfl

theorem totpGenerate_publicEq (realm : String) (body : TotpGenerateRequest) :
    (totpGenerate X m.totpSecret requester realm body db').result =
      (totpGenerate X m.totpSecret requester realm body db).result := by
  unfold totpGenerate
  rw [h.canManageRealm, h.getRealm]
  repeat' split
  all_goals rfl

end Endpoints

theorem handleAdmin_publicEq (h : PublicEq db db') {req : AdminRequest}
    (hs : req.serializesRecords = false) (hv : ∀ r b, req ≠ .totpVerify r b) :
    (handleAdmin X params m requester db' req).result =
      (handleAdmin X params m requester db req).result := by
  cases req <;> simp only [AdminRequest.serializesRecords, Bool.true_eq_false] at hs
  case createAdmin body => exact Endpoints.createAdmin_publicEq h body
  case updateAdmin id body => exact Endpoints.updateAdmin_publicEq h id body
  case deleteAdmin id => exact Endpoints.deleteAdmin_publicEq h id
  case createRealm body => exact Endpoints.createRealm_publicEq h body
  case getRealm r =>
    simp only [handleAdmin, Endpoints.getRealm, h.getRealm]
    repeat' split
    all_goals rfl
  case updateRealm r body =>
    simp only [handleAdmin, Endpoints.updateRealm, h.canManageRealm]
    repeat' split
    all_goals rfl
  case deleteRealm r =>
    simp only [handleAdmin, Endpoints.deleteRealm]
    split <;> rfl
  case listRealms =>
    simp only [handleAdmin, Endpoints.listRealms, Database.listRealms, h.realm]
    rfl
  case createUserpass r body => exact Endpoints.createUserpass_publicEq h r body
  case getUserpass r user =>
    simp only [handleAdmin, Endpoints.getUserpass, h.canManageRealm, h.getUserpass]
    repeat' split
    all_goals rfl
  case updateUserpass r user body => exact Endpoints.updateUserpass_publicEq h r user body
  case deleteUserpass r user => exact Endpoints.deleteUserpass_publicEq h r user
  case totpGenerate r body => exact Endpoints.totpGenerate_publicEq h r body
  case totpVerify r body => exact absurd rfl (hv r body)
  case totpDisable r user =>
    simp only [handleAdmin, Endpoints.totpDisable, h.canManageRealm]
    split <;> rfl

namespace Endpoints

theorem storeAdmin_hashesEmpty {a : Admin} :
    Outcome.Answers HttpResponse.HashesEmpty (storeAdmin db a) :=
  .bind fun _ _ => .ok trivial

theorem getAdmin_hashesEmpty {id : String} :
    Outcome.Answers HttpResponse.HashesEmpty (getAdmin requester id db) := by
  unfold getAdmin
  cases db.getAdmin id with
  | none => exact .error
  | some target => exact .guard fun _ => .ok trivial

theorem updateAdmin_hashesEmpty {id : String} {body : Admin} :
    Outcome.Answers HttpResponse.HashesEmpty (updateAdmin requester id body db) := by
  unfold updateAdmin
  cases db.getAdmin id with
  | none => exact .error
  | some target => exact .guard fun _ => .guard fun _ => storeAdmin_hashesEmpty

theorem deleteAdmin_hashesEmpty {id : String} :
    Outcome.Answers HttpResponse.HashesEmpty (deleteAdmin requester id db) := by
  unfold deleteAdmin
  cases db.getAdmin id with
  | none => exact .guard fun _ => .ok trivial
  | some target =>
    refine .guard fun _ => ?_
    cases target.userpass with
    | none => exact .ok trivial
    | some username => exact .ok trivial

theorem addAdminToRealm_hashesEmpty {id realm : String} :
    Outcome.Answers HttpResponse.HashesEmpty (addAdminToRealm requester id realm db) := by
  refine .guard fun _ => ?_
  cases db.getAdmin id with
  | none => exact .error
  | some admin =>
    refine .guard fun _ => ?_
    split
    · exact .ok trivial
    · exact storeAdmin_hashesEmpty

theorem removeAdminFromRealm_hashesEmpty {id realm : String} :
    Outcome.Answers HttpResponse.HashesEmpty (removeAdminFromRealm requester id realm db) := by
  refine .guard fun _ => ?_
  cases db.getAdmin id with
  | none => exact .error
  | some admin =>
    refine .guard fun _ => ?_
    dsimp only
    split
    · exact storeAdmin_hashesEmpty
    · exact .ok trivial

theorem createRealm_hashesEmpty {body : Realm} :
    Outcome.Answers HttpResponse.HashesEmpty (createRealm X params requester body db) := by
  refine .guard fun _ => ?_
  cases checkSamlParams X params body with
  | error e => exact .error
  | ok realm =>
    dsimp only
    cases db.createRealm realm with
    | error e => exact .error
    | ok db' => exact .ok trivial

theorem getRealm_hashesEmpty {realm : String} :
    Outcome.Answers HttpResponse.HashesEmpty (getRealm requester realm db) := by
  refine .guard fun _ => ?_
  cases db.getRealm realm with
  | none => exact .error
  | some r => exact .ok trivial

theorem updateRealm_hashesEmpty {realm : String} {body : Realm} :
    Outcome.Answers HttpResponse.HashesEmpty (updateRealm X params requester realm body db) := by
  refine .guard fun _ => ?_
  cases checkSamlParams X params { body with id := realm } with
  | error e => exact .error
  | ok r => exact .ok trivial

theorem createUserpass_hashesEmpty {realm : String} {body : UserPass} :
    Outcome.Answers HttpResponse.HashesEmpty
      (createUserpass X m.salt requester realm body db) := by
  refine .guard fun _ => ?_
  cases checkExtraClaims X body.extraClaims with
  | error e => exact .error
  | ok _ =>
    dsimp only
    cases createdHash X m.salt body.passwordInput with
    | error e => exact .error
    | ok hash =>
      dsimp only
      split
      · exact .error
      · exact .error
      · exact .bind fun _ _ => .ok rfl

theorem getUserpass_hashesEmpty {realm user : String} :
    Outcome.Answers HttpResponse.HashesEmpty (getUserpass requester realm user db) := by
  refine .guard fun _ => ?_
  cases db.getUserpass realm user with
  | none => exact .error
  | some u => exact .ok rfl

theorem updateUserpass_hashesEmpty {realm user : String} {body : UserPass} :
    Outcome.Answers HttpResponse.HashesEmpty
      (updateUserpass X m.salt requester realm user body db) := by
  refine .guard fun _ => ?_
  cases checkExtraClaims X body.extraClaims with
  | error e => exact .error
  | ok _ =>
    dsimp only
    split
    · exact .guard fun _ => .ok rfl
    · split
      · exact .error
      · exact .ok rfl
    · split
      · exact .error
      · exact .ok rfl

theorem listUserpassByRealm_hashesEmpty {realm : String}
    (h : listedCredentials requester db (.listUserpassByRealm realm) = []) :
    Outcome.Answers HttpResponse.HashesEmpty (listUserpassByRealm requester realm db) := by
  refine .guard fun hm => .ok ?_
  have hlist : db.listUserpassByRealm realm = [] := by simpa [listedCredentials, hm] using h
  simp [HttpResponse.HashesEmpty, hlist]

theorem listAllUserpass_hashesEmpty
    (h : listedCredentials requester db .listAllUserpass = []) :
    Outcome.Answers HttpResponse.HashesEmpty (listAllUserpass requester db) := by
  unfold listAllUserpass
  simp only [realmManageableGivenClaims_eq]
  refine .guard fun hm => .ok ?_
  have hsup : requester.isSuperAdmin = true := by simpa using hm
  have hlist : db.listAllUserpass.filter (fun u => canManageRealm requester u.realm db) = [] := by
    simpa only [listedCredentials, hsup, if_true] using h
  simp [HttpResponse.HashesEmpty, hlist]

theorem totpGenerate_hashesEmpty {realm : String} {body : TotpGenerateRequest} :
    Outcome.Answers HttpResponse.HashesEmpty
      (totpGenerate X m.totpSecret requester realm body db) := by
  refine .guard fun _ => ?_
  cases db.getRealm realm with
  | none => exact .error
  | some r =>
    dsimp only
    cases realmTotpParams r with
    | error e => exact .error
    | ok settings =>
      dsimp only
      split
      · exact .error
      · exact .ok trivial

theorem totpVerify_hashesEmpty {realm : String} {body : TotpVerifyRequest} :
    Outcome.Answers HttpResponse.HashesEmpty (totpVerify X m.now requester realm body db) := by
  refine .guard fun _ => ?_
  cases totpAccepts X m.now realm body db with
  | error e => exact .error
  | ok _ =>
    dsimp only
    cases db.enableTotp X body.username body.secret realm with
    | error e => exact .error
    | ok db' => exact .ok trivial

end Endpoints

theorem handleAdmin_hashesEmpty {req : AdminRequest}
    (hs : listedCredentials requester db req = []) :
    Outcome.Answers HttpResponse.HashesEmpty (handleAdmin X params m requester db req) := by
  cases req with
  | createAdmin body => exact .guard fun _ => .bind fun _ _ => .ok trivial
  | getAdmin id => exact Endpoints.getAdmin_hashesEmpty
  | updateAdmin id body => exact Endpoints.updateAdmin_hashesEmpty
  | deleteAdmin id => exact Endpoints.deleteAdmin_hashesEmpty
  | listAdmins => exact .guard fun _ => .ok trivial
  | addAdminToRealm id realm => exact Endpoints.addAdminToRealm_hashesEmpty
  | removeAdminFromRealm id realm => exact Endpoints.removeAdminFromRealm_hashesEmpty
  | createRealm body => exact Endpoints.createRealm_hashesEmpty
  | getRealm realm => exact Endpoints.getRealm_hashesEmpty
  | updateRealm realm body => exact Endpoints.updateRealm_hashesEmpty
  | deleteRealm realm => exact .guard fun _ => .ok trivial
  | listRealms => exact .ok trivial
  | createUserpass realm body => exact Endpoints.createUserpass_hashesEmpty
  | getUserpass realm user => exact Endpoints.getUserpass_hashesEmpty
  | updateUserpass realm user body => exact Endpoints.updateUserpass_hashesEmpty
  | deleteUserpass realm user => exact .guard fun _ => .bind fun _ _ => .ok trivial
  | listUserpassByRealm realm => exact Endpoints.listUserpassByRealm_hashesEmpty hs
  | listAllUserpass => exact Endpoints.listAllUserpass_hashesEmpty hs
  | totpGenerate realm body => exact Endpoints.totpGenerate_hashesEmpty
  | totpVerify realm body => exact Endpoints.totpVerify_hashesEmpty
  | totpDisable realm user => exact .guard fun _ => .ok trivial

theorem redact_withRealms {a a' : Admin} (h : a'.redact = a.redact) (rs : List String) :
    ({ a' with realms := rs } : Admin).redact = ({ a with realms := rs } : Admin).redact := by
  have hinj := Admin.mk.inj h
  simp only [Admin.redact, Admin.mk.injEq]
  tauto

theorem answer_eq_iff {a a' : Admin} (h : a'.redact = a.redact) :
    (Except.ok { status := 200, body := .admin a } : Except AuthError HttpResponse) =
      .ok { status := 200, body := .admin a' } ↔ a.secrets = a'.secrets := by
  constructor
  · intro he
    simp only [Except.ok.injEq, HttpResponse.mk.injEq, Body.admin.injEq] at he
    rw [he.2.1]
  · intro hs
    rw [Admin.eq_of_redact h.symm hs]

theorem storeAdmin_ok {id : String} {a : Admin} (ha : db.getAdmin id = some a) {rs : List String}
    (hrs : ∀ r ∈ rs, r ∈ db.realm.keys) (hnd : rs.Nodup) :
    (Endpoints.storeAdmin db { a with realms := rs }).result =
      .ok { status := 200, body := .admin { a with realms := rs } } := by
  obtain ⟨row, hrow, hid, rfl⟩ := Database.getAdmin_eq_some_iff.mp ha
  have hok : (db.updateAdmin { db.toAdmin row with realms := rs }).result = .ok () :=
    Database.updateAdmin_ok (Table.key_mem_keys hrow) hrs hnd
  simp only [Endpoints.storeAdmin, Outcome.bind, Outcome.mapError, hok]
  rfl

theorem storeAdmin_missing_realm (h : PublicEq db db') {a a' : Admin} (hid : a'.id = a.id)
    (hrs : a'.realms = a.realms) {r : String} (hr : r ∈ a.realms) (hk : r ∉ db.realm.keys) :
    (Endpoints.storeAdmin db a).result = (Endpoints.storeAdmin db' a').result := by
  have hres := h.updateAdmin_result hid hrs
  cases hup : (db.updateAdmin a).result with
  | ok _ => exact absurd (Database.updateAdmin_realms_exist hup r hr) hk
  | error e => simp [Endpoints.storeAdmin, Outcome.bind, Outcome.mapError, hres, hup]

theorem realmsOf_exist (db : Database) (id : String) : ∀ r ∈ db.realmsOf id, r ∈ db.realm.keys :=
  fun _ hr => db.membershipRealm _ (Database.mem_realmsOf.mp hr)

theorem realmsOf_append_nodup {id r : String} (h : r ∉ db.realmsOf id) :
    (db.realmsOf id ++ [r]).Nodup := by
  refine List.Nodup.append (Database.realmsOf_nodup db id) (List.nodup_singleton r) ?_
  intro x hx hx'
  rw [List.mem_singleton.mp hx'] at hx
  exact h hx

theorem shows_iff {a a' : Admin} {id : String} (ha : db.getAdmin id = some a)
    (ha' : db'.getAdmin id = some a') :
    (∀ i ∈ [id], (db.getAdmin i).map Admin.secrets = (db'.getAdmin i).map Admin.secrets) ↔
      a.secrets = a'.secrets := by
  simp [ha, ha']

theorem Endpoints.adminVisible_eq {a : Admin} :
    adminVisible requester (claimedRealms db.listAdmins) a =
      canManageAdminRealms requester a.realms db := by
  unfold adminVisible canManageAdminRealms
  simp only [realmManageableGivenClaims_eq]

theorem Database.getAdmin_of_mem_listAdmins {a : Admin} (h : a ∈ db.listAdmins) :
    db.getAdmin a.id = some a := by
  obtain ⟨row, hrow, rfl⟩ := Database.mem_listAdmins.mp h
  exact Database.getAdmin_eq_some_iff.mpr ⟨row, hrow, rfl, rfl⟩

theorem eq_of_map_eq {α β γ : Type} {f : α → β} {g : α → γ}
    (hinj : ∀ {a b}, f a = f b → g a = g b → a = b) {l l' : List α} (h : l.map f = l'.map f)
    (hg : ∀ a ∈ l, ∀ b ∈ l', f a = f b → g a = g b) : l = l' := by
  induction l generalizing l' with
  | nil =>
    cases l' with
    | nil => rfl
    | cons b l' => cases h
  | cons a l ih =>
    cases l' with
    | nil => cases h
    | cons b l' =>
      obtain ⟨hab, hl⟩ := List.cons.inj h
      have heq : a = b := hinj hab (hg a (by simp) b (by simp) hab)
      rw [heq, ih hl (fun x hx y hy => hg x (by simp [hx]) y (by simp [hy]))]

theorem same_and_empty_iff {l l' : List UserPass}
    (h : l.map UserPass.redact = l'.map UserPass.redact) :
    (l = l' ∧ ∀ u ∈ l, u.passwordHash = "") ↔
      (∀ u ∈ l, u.passwordHash = "") ∧ ∀ u ∈ l', u.passwordHash = "" := by
  constructor
  · rintro ⟨rfl, he⟩
    exact ⟨he, he⟩
  · rintro ⟨he, he'⟩
    have hid {k : List UserPass} (hk : ∀ u ∈ k, u.passwordHash = "") :
        k.map UserPass.redact = k := by
      conv_rhs => rw [← List.map_id k]
      exact List.map_congr_left fun u hu => UserPass.redact_of_empty (hk u hu)
    refine ⟨?_, he⟩
    rw [← hid he, h, hid he']

section Iff
variable (h : PublicEq db db')
include h

theorem nonDisclosing_getAdmin_iff (id : String) :
    (handleAdmin X params m requester db (.getAdmin id)).result =
        (handleAdmin X params m requester db' (.getAdmin id)).result ↔
      ∀ i ∈ shownAdmins requester db (.getAdmin id),
        (db.getAdmin i).map Admin.secrets = (db'.getAdmin i).map Admin.secrets := by
  simp only [handleAdmin, Endpoints.getAdmin, shownAdmins]
  rcases h.getAdmin_cases id with ⟨ha, ha'⟩ | ⟨a, a', ha, ha', hred⟩
  · simp [ha, ha']
  · have hrs : a'.realms = a.realms := (Admin.mk.inj hred).2.1
    simp only [ha, ha', hrs, h.canManageAdminRealms, Database.getAdmin_realms ha]
    by_cases hm : canManageAdminRealms requester (db.realmsOf id) db = true
    · simp only [hm, if_true, Bool.true_eq_false, if_false, shows_iff ha ha', Outcome.ok_result]
      exact answer_eq_iff hred
    · simp [hm]

theorem addAdminToRealm_answers_iff {id r : String} {a a' : Admin} (ha : db.getAdmin id = some a)
    (ha' : db'.getAdmin id = some a') (hred : a'.redact = a.redact) :
    ((if (db.realmsOf id).contains r then
          Outcome.ok db { status := 200, body := .admin a }
        else Endpoints.storeAdmin db { a with realms := db.realmsOf id ++ [r] }).result =
      (if (db.realmsOf id).contains r then
          Outcome.ok db' { status := 200, body := .admin a' }
        else Endpoints.storeAdmin db' { a' with realms := db.realmsOf id ++ [r] }).result) ↔
      (r ∈ db.realm.keys → a.secrets = a'.secrets) := by
  by_cases hin : r ∈ db.realmsOf id
  · have hk : r ∈ db.realm.keys := realmsOf_exist db id r hin
    simp only [List.contains_eq_mem, hin, decide_true, if_true, hk, true_imp_iff,
      Outcome.ok_result]
    exact answer_eq_iff hred
  · simp only [List.contains_eq_mem, hin, decide_false, Bool.false_eq_true, if_false]
    by_cases hk : r ∈ db.realm.keys
    · have hmem : ∀ x ∈ db.realmsOf id ++ [r], x ∈ db.realm.keys := by
        intro x hx
        rcases List.mem_append.mp hx with hx | hx
        · exact realmsOf_exist db id x hx
        · rw [List.mem_singleton.mp hx]
          exact hk
      have hnd := realmsOf_append_nodup hin
      rw [storeAdmin_ok ha hmem hnd, storeAdmin_ok ha' (h.realm ▸ hmem) hnd]
      simp only [hk, true_imp_iff]
      exact answer_eq_iff (redact_withRealms hred _)
    · have hfail : (Endpoints.storeAdmin db { a with realms := db.realmsOf id ++ [r] }).result =
          (Endpoints.storeAdmin db' { a' with realms := db.realmsOf id ++ [r] }).result :=
        storeAdmin_missing_realm h (Admin.mk.inj hred).1 rfl (r := r) (by simp) hk
      simp [hfail, hk]

theorem nonDisclosing_addAdminToRealm_iff (id r : String) :
    (handleAdmin X params m requester db (.addAdminToRealm id r)).result =
        (handleAdmin X params m requester db' (.addAdminToRealm id r)).result ↔
      ∀ i ∈ shownAdmins requester db (.addAdminToRealm id r),
        (db.getAdmin i).map Admin.secrets = (db'.getAdmin i).map Admin.secrets := by
  simp only [handleAdmin, Endpoints.addAdminToRealm, shownAdmins, h.canManageRealm]
  by_cases hr : canManageRealm requester r db = true
  · rcases h.getAdmin_cases id with ⟨ha, ha'⟩ | ⟨a, a', ha, ha', hred⟩
    · simp only [hr, ha, ha', Bool.true_eq_false, if_false, Outcome.error_result, true_iff]
      intro i hi
      have hid : i = id := by
        split at hi
        · exact List.mem_singleton.mp hi
        · cases hi
      rw [hid, ha, ha']
    · have hrs : a'.realms = a.realms := (Admin.mk.inj hred).2.1
      have hrs₀ : a.realms = db.realmsOf id := Database.getAdmin_realms ha
      simp only [hr, ha, ha', hrs, hrs₀, h.canManageAdminRealms, Bool.true_eq_false, if_false,
        true_and]
      by_cases hm : db.realmsOf id = [] ∨ canManageAdminRealms requester (db.realmsOf id) db = true
      · have hguard : ¬ ((db.realmsOf id).isEmpty = false ∧
            canManageAdminRealms requester (db.realmsOf id) db = false) := by
          rintro ⟨h₁, h₂⟩
          rcases hm with hm | hm
          · simp [hm] at h₁
          · rw [hm] at h₂
            cases h₂
        simp only [hguard, if_false, hm, and_true]
        rw [addAdminToRealm_answers_iff h ha ha' hred]
        by_cases hk : r ∈ db.realm.keys
        · simp only [hk, true_imp_iff, if_true, shows_iff ha ha']
        · simp [hk]
      · rw [not_or] at hm
        have hne : (db.realmsOf id).isEmpty = false := by simpa using hm.1
        simp [hne, hm.1, hm.2]
  · simp [hr]

theorem nonDisclosing_removeAdminFromRealm_iff (id r : String) :
    (handleAdmin X params m requester db (.removeAdminFromRealm id r)).result =
        (handleAdmin X params m requester db' (.removeAdminFromRealm id r)).result ↔
      ∀ i ∈ shownAdmins requester db (.removeAdminFromRealm id r),
        (db.getAdmin i).map Admin.secrets = (db'.getAdmin i).map Admin.secrets := by
  simp only [handleAdmin, Endpoints.removeAdminFromRealm, shownAdmins, h.canManageRealm]
  by_cases hr : canManageRealm requester r db = true
  · rcases h.getAdmin_cases id with ⟨ha, ha'⟩ | ⟨a, a', ha, ha', hred⟩
    · simp only [hr, ha, ha', Bool.true_eq_false, if_false, Outcome.error_result, true_iff]
      intro i hi
      have hid : i = id := by
        split at hi
        · exact List.mem_singleton.mp hi
        · cases hi
      rw [hid, ha, ha']
    · have hrs : a'.realms = a.realms := (Admin.mk.inj hred).2.1
      have hrs₀ : a.realms = db.realmsOf id := Database.getAdmin_realms ha
      simp only [hr, ha, ha', hrs, hrs₀, h.canManageAdminRealms, Bool.true_eq_false, if_false,
        true_and]
      by_cases hm : canManageAdminRealms requester (db.realmsOf id) db = true
      · have hmem : ∀ x ∈ (db.realmsOf id).filter (fun x => x != r), x ∈ db.realm.keys :=
          fun x hx => realmsOf_exist db id x (List.mem_of_mem_filter hx)
        have hnd := (Database.realmsOf_nodup db id).filter (fun x => x != r)
        simp only [hm, Bool.true_eq_false, if_false, if_true, shows_iff ha ha']
        split
        · rw [storeAdmin_ok ha hmem hnd, storeAdmin_ok ha' (h.realm ▸ hmem) hnd]
          exact answer_eq_iff (redact_withRealms hred _)
        · exact answer_eq_iff (redact_withRealms hred _)
      · simp [hm]
  · simp [hr]

theorem nonDisclosing_listAdmins_iff :
    (handleAdmin X params m requester db .listAdmins).result =
        (handleAdmin X params m requester db' .listAdmins).result ↔
      ∀ i ∈ shownAdmins requester db .listAdmins,
        (db.getAdmin i).map Admin.secrets = (db'.getAdmin i).map Admin.secrets := by
  simp only [handleAdmin, Endpoints.listAdmins, shownAdmins]
  by_cases hsup : requester.isSuperAdmin = true
  · have hvis (d : Database) : d.listAdmins.filter
        (Endpoints.adminVisible requester (claimedRealms d.listAdmins)) =
        d.listAdmins.filter (fun a => canManageAdminRealms requester a.realms d) :=
      List.filter_congr fun a _ => Endpoints.adminVisible_eq
    simp only [hsup, Bool.true_eq_false, if_false, if_true, hvis, Outcome.ok_result,
      Except.ok.injEq, HttpResponse.mk.injEq, Body.admins.injEq, and_true, true_and,
      h.canManageAdminRealms]
    have hmap : (db'.listAdmins.filter (fun a => canManageAdminRealms requester a.realms db)).map
        Admin.redact =
        (db.listAdmins.filter (fun a => canManageAdminRealms requester a.realms db)).map
          Admin.redact := by
      have hfilter (l : List Admin) :
          (l.filter (fun a => canManageAdminRealms requester a.realms db)).map Admin.redact =
            (l.map Admin.redact).filter
              (fun a => canManageAdminRealms requester a.realms db) := by
        rw [List.filter_map]
        rfl
      rw [hfilter, hfilter, h.listAdmins]
    constructor
    · intro hl i hi
      obtain ⟨a, ha, rfl⟩ := List.mem_map.mp hi
      have ha' : a ∈ db'.listAdmins := List.mem_of_mem_filter (hl ▸ ha)
      rw [Database.getAdmin_of_mem_listAdmins (List.mem_of_mem_filter ha),
        Database.getAdmin_of_mem_listAdmins ha']
    · intro hs
      refine eq_of_map_eq Admin.eq_of_redact hmap.symm ?_
      intro a ha a' ha' hred
      have hid : a.id = a'.id := (Admin.mk.inj hred).1
      have hsec := hs a.id (List.mem_map_of_mem ha)
      rw [Database.getAdmin_of_mem_listAdmins (List.mem_of_mem_filter ha), hid,
        Database.getAdmin_of_mem_listAdmins (List.mem_of_mem_filter ha')] at hsec
      simpa using hsec
  · simp [hsup]

theorem nonDisclosing_listUserpassByRealm_iff (r : String) :
    NonDisclosing X params m requester db db' (.listUserpassByRealm r) ↔
      (∀ u ∈ listedCredentials requester db (.listUserpassByRealm r), u.passwordHash = "") ∧
        ∀ u ∈ listedCredentials requester db' (.listUserpassByRealm r), u.passwordHash = "" := by
  simp only [NonDisclosing, handleAdmin, Endpoints.listUserpassByRealm, listedCredentials,
    h.canManageRealm]
  by_cases hm : canManageRealm requester r db = true
  · simp only [hm, Bool.true_eq_false, if_false, if_true, Outcome.ok_result, Except.ok.injEq,
      HttpResponse.mk.injEq, Body.userpassList.injEq, and_true, true_and, forall_eq',
      HttpResponse.HashesEmpty]
    exact same_and_empty_iff (h.listUserpassByRealm r).symm
  · simp [hm]

theorem nonDisclosing_listAllUserpass_iff :
    NonDisclosing X params m requester db db' .listAllUserpass ↔
      (∀ u ∈ listedCredentials requester db .listAllUserpass, u.passwordHash = "") ∧
        ∀ u ∈ listedCredentials requester db' .listAllUserpass, u.passwordHash = "" := by
  simp only [NonDisclosing, handleAdmin, Endpoints.listAllUserpass, listedCredentials,
    realmManageableGivenClaims_eq, h.canManageRealm]
  by_cases hsup : requester.isSuperAdmin = true
  · have hfilter (l : List UserPass) :
        (l.filter (fun u => canManageRealm requester u.realm db)).map UserPass.redact =
          (l.map UserPass.redact).filter (fun u => canManageRealm requester u.realm db) := by
      rw [List.filter_map]
      rfl
    have hmap : (db.listAllUserpass.filter (fun u => canManageRealm requester u.realm db)).map
        UserPass.redact =
        (db'.listAllUserpass.filter (fun u => canManageRealm requester u.realm db)).map
          UserPass.redact := by
      rw [hfilter, hfilter, h.listAllUserpass]
    simp only [hsup, Bool.true_eq_false, if_false, if_true, Outcome.ok_result, Except.ok.injEq,
      HttpResponse.mk.injEq, Body.userpassList.injEq, and_true, true_and, forall_eq',
      HttpResponse.HashesEmpty]
    exact same_and_empty_iff hmap
  · simp [hsup]

end Iff

/-- Two states that differ only in stored secrets are answered alike, without hashes, exactly
when the answer shows no administrator whose TOTP material differs and lists no stored hash. -/
theorem nonDisclosing_iff (m : Moment) (requester : Admin) (db db' : Database)
    (req : AdminRequest) (h : PublicEq db db') (hv : ∀ r b, req ≠ .totpVerify r b) :
    NonDisclosing X params m requester db db' req ↔ ShowsNoSecret requester db db' req := by
  by_cases hs : req.serializesRecords = true
  · have hempty (hl : listedCredentials requester db req = [])
        (hl' : listedCredentials requester db' req = []) :
        NonDisclosing X params m requester db db' req ↔
          (handleAdmin X params m requester db req).result =
            (handleAdmin X params m requester db' req).result :=
      and_iff_left (handleAdmin_hashesEmpty hl)
    cases req <;> simp only [AdminRequest.serializesRecords, Bool.false_eq_true] at hs
    case getAdmin id =>
      rw [hempty rfl rfl, nonDisclosing_getAdmin_iff h]
      simp [ShowsNoSecret, listedCredentials]
    case addAdminToRealm id r =>
      rw [hempty rfl rfl, nonDisclosing_addAdminToRealm_iff h]
      simp [ShowsNoSecret, listedCredentials]
    case removeAdminFromRealm id r =>
      rw [hempty rfl rfl, nonDisclosing_removeAdminFromRealm_iff h]
      simp [ShowsNoSecret, listedCredentials]
    case listAdmins =>
      rw [hempty rfl rfl, nonDisclosing_listAdmins_iff h]
      simp [ShowsNoSecret, listedCredentials]
    case listUserpassByRealm r =>
      rw [nonDisclosing_listUserpassByRealm_iff h]
      simp [ShowsNoSecret, shownAdmins]
    case listAllUserpass =>
      rw [nonDisclosing_listAllUserpass_iff h]
      simp [ShowsNoSecret, shownAdmins]
  · have hs' : req.serializesRecords = false := by simpa using hs
    have hshown : shownAdmins requester db req = [] ∧ listedCredentials requester db req = [] ∧
        listedCredentials requester db' req = [] := by
      cases req <;> simp only [AdminRequest.serializesRecords, Bool.true_eq_false] at hs'
      all_goals exact ⟨rfl, rfl, rfl⟩
    have hsame := @handleAdmin_publicEq X params m requester db db' h req hs' hv
    constructor
    · intro _
      simp [ShowsNoSecret, hshown]
    · intro _
      exact ⟨hsame.symm, handleAdmin_hashesEmpty hshown.2.1⟩

theorem fresh_publicEq (hash hash' : String) :
    PublicEq (Database.fresh hash) (Database.fresh hash') := by
  refine ⟨rfl, rfl, rfl, rfl⟩

theorem getUserpass_nonDisclosing :
    PublicEq (Database.fresh "$argon2id$a") (Database.fresh "$argon2id$b") ∧
      NonDisclosing Transparent.externals Transparent.params (Transparent.moment 0)
        Database.adminRealmAdmin (Database.fresh "$argon2id$a") (Database.fresh "$argon2id$b")
        (.getUserpass adminRealm "admin") := by
  have h := fresh_publicEq "$argon2id$a" "$argon2id$b"
  refine ⟨h, (nonDisclosing_iff (Transparent.moment 0) Database.adminRealmAdmin _ _ _ h ?_).mpr ?_⟩
  · intro r b he
    cases he
  · simp [ShowsNoSecret, shownAdmins, listedCredentials]

/-- Listing the credentials of the admin realm shows the stored hash. -/
theorem listUserpassByRealm_discloses :
    PublicEq (Database.fresh "$argon2id$a") (Database.fresh "$argon2id$b") ∧
      ¬ NonDisclosing Transparent.externals Transparent.params (Transparent.moment 0)
        Database.adminRealmAdmin (Database.fresh "$argon2id$a") (Database.fresh "$argon2id$b")
        (.listUserpassByRealm adminRealm) := by
  refine ⟨fresh_publicEq _ _, ?_⟩
  rintro ⟨hsame, _⟩
  revert hsame
  decide

end AuthVerifier
