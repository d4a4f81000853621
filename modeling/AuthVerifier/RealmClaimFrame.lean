import AuthVerifier.AuthorityClosure
import AuthVerifier.ClaimUniqueness
import AuthVerifier.CredentialUnlink
import AuthVerifier.RealmClaim

/-!
What a super admin outside a claimed realm leaves of it. Apart from reading and deleting the realm
itself, one request reaches into it: the deletion of an administrator whose record names a
credential there. A request about sessions leaves those of the realm alone unless it asks for them.
-/

set_option autoImplicit false

namespace AuthVerifier
open Effects Relational
variable {X : Externals} {params : ServerParams} {m : Moment} {requester : Admin}
variable {db db' : Database} {R : String}

/-- The realm's record, its memberships and its credentials are the same in both states. -/
structure SameRealm (R : String) (db db' : Database) : Prop where
  record : ∀ row : Realm, row.id = R → (row ∈ db'.realm ↔ row ∈ db.realm)
  members : ∀ id, (⟨id, R⟩ : AdminRealmRow) ∈ db'.adminRealms ↔ ⟨id, R⟩ ∈ db.adminRealms
  credentials : ∀ row : UserPassRow, row.realm = R → (row ∈ db'.userpass ↔ row ∈ db.userpass)

def LeavesAlone (R : String) (db : Database) (o : Outcome Database AuthError HttpResponse) : Prop :=
  SameRealm R db o.state ∧ ∀ response, o.result = .ok response → R ∉ response.shownRealms

/-- The request deletes an administrator whose `userpass` names a credential of the realm. -/
def CascadesInto (requester : Admin) (db : Database) (req : AdminRequest) (R : String) : Prop :=
  ∃ username, CascadesTo requester db req username ∧ (R, username) ∈ db.userpass.keys

theorem updateAdmin_sameMembers {a : Admin} {id : String} (hget : db.getAdmin id = some a)
    (userpass : Option String) {x : AdminRealmRow} :
    x ∈ (db.updateAdmin { a with userpass := userpass }).state.adminRealms ↔
      x ∈ db.adminRealms := by
  have hid : a.id = id := Database.getAdmin_id hget
  have hrealms : a.realms = db.realmsOf id := Database.getAdmin_realms hget
  by_cases hx : x.adminId = a.id
  · obtain ⟨adminId, realmId⟩ := x
    simp only at hx
    subst hx
    constructor
    · intro h
      rcases (Database.updateAdmin_spec db _).added _ h with h | ⟨_, h⟩
      · exact absurd rfl ((Database.mem_clearMemberships _).mp h).2
      · simp only [hrealms] at h
        exact hid ▸ Database.mem_realmsOf.mp h
    · intro h
      refine Database.insertAdminRealms_complete (updateAdmin_relinked hget userpass) realmId ?_
      simp only [hrealms, ← hid]
      exact Database.mem_realmsOf.mpr h
  · exact Database.mem_updateAdmin_adminRealms_of_ne hx

theorem autoLink_sameMembers {realm user : String} {x : AdminRealmRow} :
    x ∈ (Endpoints.autoLink db realm user).state.adminRealms ↔ x ∈ db.adminRealms := by
  rcases Endpoints.autoLink_cases db realm user with h | ⟨a, -, ha, h⟩
  · rw [h]
  · rw [h]
    exact updateAdmin_sameMembers ha _

theorem autoUnlink_sameMembers {realm user : String} {x : AdminRealmRow} :
    x ∈ (Endpoints.autoUnlink db realm user).state.adminRealms ↔ x ∈ db.adminRealms := by
  rcases Endpoints.autoUnlink_cases db realm user with h | ⟨a, -, ha, h⟩
  · rw [h]
  · rw [h]
    exact updateAdmin_sameMembers ha _

theorem mem_updateRealm_of_ne {realm row : Realm} (h : row.id ≠ realm.id) :
    row ∈ (db.updateRealm realm).realm ↔ row ∈ db.realm := by
  simp only [Database.updateRealm, Table.mem_updateWhere_key]
  constructor
  · rintro (hold | ⟨old, _, hid, rfl⟩)
    · exact hold.1
    · exact absurd hid h
  · exact fun hrow => .inl ⟨hrow, h⟩

section
variable (hc : db.Claimed R) (hm : R ∉ requester.realms)
include hc hm

theorem not_mem_of_manages {rs : List String}
    (h : canManageAdminRealms requester rs db = true) : R ∉ rs := by
  intro hr
  rw [canManageAdminRealms_of_claimed hc hm hr] at h
  cases h

theorem ne_of_manages {r : String} (h : canManageRealm requester r db = true) : r ≠ R := by
  rintro rfl
  rw [canManageRealm_of_claimed hc hm] at h
  cases h

theorem writes_record {req : AdminRequest} (h : Writes X params m requester db req db')
    (hd : req ≠ .deleteRealm R) {row : Realm} (hrow : row.id = R) :
    row ∈ db'.realm ↔ row ∈ db.realm := by
  have hsame (he : db'.realm = db.realm) : row ∈ db'.realm ↔ row ∈ db.realm := by rw [he]
  cases h with
  | nothing => exact Iff.rfl
  | createAdmin body h => exact hsame (createAdmin_realm _ _)
  | updateAdmin id body target ht h hb => exact hsame (updateAdmin_realm _ _)
  | deleteAdmin id target ht h hu => exact Iff.rfl
  | deleteAdminCascade id u target ht h hu => exact Iff.rfl
  | addAdminToRealm id realm target hr ht h hn => exact hsame (updateAdmin_realm _ _)
  | removeAdminFromRealm id realm target hr ht h => exact hsame (updateAdmin_realm _ _)
  | createRealm body realm _ h hs hcreated =>
    obtain ⟨hfresh, hmem, _⟩ := Database.createRealm_ok hcreated
    rw [hmem]
    refine ⟨fun h => h.resolve_right ?_, .inl⟩
    rintro rfl
    obtain ⟨id, hid⟩ := hc
    exact hfresh (hrow ▸ db.membershipRealm _ hid)
  | updateRealm id body realm h hs =>
    refine mem_updateRealm_of_ne ?_
    rw [checkSamlParams_id hs, hrow]
    exact (ne_of_manages hc hm h).symm
  | deleteRealm id h =>
    have hid : id ≠ R := fun he => hd (he ▸ rfl)
    simp only [Database.deleteRealm, Table.mem_deleteWhere, beq_eq_false_iff_ne]
    exact and_iff_left (hrow ▸ hid.symm)
  | createUserpass realm hash body db₁ h hp hcreated =>
    exact hsame ((autoLink_realm _ _ _).trans (Database.createUserpass_ok hcreated).2.2.1)
  | updateUserpass realm user hash body h => exact Iff.rfl
  | updateUserpassMetadata realm user body h => exact Iff.rfl
  | deleteUserpass realm user h => exact hsame (autoUnlink_realm _ _ _)
  | totpVerify realm body _ h ha henabled => exact hsame (enableTotp_realm henabled)
  | totpDisable realm user h => exact Iff.rfl

theorem writes_members {req : AdminRequest} (h : Writes X params m requester db req db')
    (hd : req ≠ .deleteRealm R) (id : String) :
    (⟨id, R⟩ : AdminRealmRow) ∈ db'.adminRealms ↔ ⟨id, R⟩ ∈ db.adminRealms := by
  -- Authority outside the realm never reaches the memberships of the realm.
  have houtside {db'' : Database} (h : SameOutside {r | r ≠ R} db db'') :
      (⟨id, R⟩ : AdminRealmRow) ∈ db''.adminRealms ↔ ⟨id, R⟩ ∈ db.adminRealms :=
    h id R (by simp)
  have hrealms {rs : List String} (h : canManageAdminRealms requester rs db = true) :
      ∀ r ∈ rs, r ∈ ({r | r ≠ R} : Set String) :=
    fun r hr he => not_mem_of_manages hc hm h (he ▸ hr)
  have hsame (he : db'.adminRealms = db.adminRealms) :
      (⟨id, R⟩ : AdminRealmRow) ∈ db'.adminRealms ↔ ⟨id, R⟩ ∈ db.adminRealms := by rw [he]
  cases h with
  | nothing => exact Iff.rfl
  | createAdmin body h => exact houtside (createAdmin_sameOutside (hrealms h))
  | updateAdmin id body target ht h hb =>
    exact houtside (updateAdmin_sameOutside (Database.getAdmin_realms ht ▸ hrealms h) (hrealms hb))
  | deleteAdmin id target ht h hu =>
    exact houtside (deleteAdmin_sameOutside (Database.getAdmin_realms ht ▸ hrealms h))
  | deleteAdminCascade id u target ht h hu =>
    exact houtside (deleteAdmin_sameOutside (Database.getAdmin_realms ht ▸ hrealms h))
  | addAdminToRealm id realm target hr ht h hn =>
    have hold : ∀ r ∈ target.realms, r ∈ ({r | r ≠ R} : Set String) := by
      rcases h with h | h
      · simp [h]
      · exact hrealms h
    refine houtside (updateAdmin_sameOutside ?_ ?_)
    · rw [Database.getAdmin_id ht, ← Database.getAdmin_realms ht]
      exact hold
    · intro r hmem
      rcases List.mem_append.mp hmem with hmem | hmem
      · exact hold r hmem
      · rw [List.mem_singleton.mp hmem]
        exact ne_of_manages hc hm hr
  | removeAdminFromRealm id realm target hr ht h =>
    refine houtside (updateAdmin_sameOutside ?_ ?_)
    · rw [Database.getAdmin_id ht, ← Database.getAdmin_realms ht]
      exact hrealms h
    · exact fun r hmem => hrealms h r (List.mem_of_mem_filter hmem)
  | createRealm body realm _ h hs hcreated =>
    exact hsame (Database.createRealm_ok hcreated).2.2.2.2
  | updateRealm id body realm h hs => exact Iff.rfl
  | deleteRealm id h => exact houtside (deleteRealm_sameOutside fun he => hd (he ▸ rfl))
  | createUserpass realm hash body db₁ h hp hcreated =>
    rw [autoLink_sameMembers]
    exact (congrArg (_ ∈ ·) (Database.createUserpass_ok hcreated).2.2.2.2).to_iff
  | updateUserpass realm user hash body h => exact Iff.rfl
  | updateUserpassMetadata realm user body h => exact Iff.rfl
  | deleteUserpass realm user h =>
    rw [autoUnlink_sameMembers]
    exact Iff.rfl
  | totpVerify realm body _ h ha henabled => exact hsame (enableTotp_adminRealms henabled)
  | totpDisable realm user h => exact Iff.rfl

theorem writes_sameRealm {req : AdminRequest} (h : Writes X params m requester db req db')
    (hd : req ≠ .deleteRealm R) (hcascade : ¬ CascadesInto requester db req R) :
    SameRealm R db db' := by
  refine ⟨fun row hrow => writes_record hc hm h hd hrow, writes_members hc hm h hd,
    fun row hrow => ?_⟩
  rcases writes_credentials h row with hsame | hmanages | ⟨hgone, ⟨he, _⟩ | hto⟩
  · exact hsame
  · exact absurd hrow (ne_of_manages hc hm hmanages)
  · exact absurd (hrow ▸ he) hd
  · refine iff_of_false hgone fun hin => hcascade ⟨row.username, hto, ?_⟩
    exact hrow ▸ Table.key_mem_keys hin

theorem shows_nothing {req : AdminRequest} (hget : req ≠ .getRealm R) (hlist : req ≠ .listRealms)
    {response : HttpResponse} (h : (handleAdmin X params m requester db req).result = .ok response) :
    R ∉ response.shownRealms := by
  by_cases hn : req.Names db R
  · obtain ⟨msg, hforbidden⟩ := @names_forbidden X params m requester db R hc hm req hn
    rw [hforbidden] at h
    cases h
  by_cases hr : req.Reuses db R
  · obtain ⟨e, hfails⟩ := @reuses_fails X params m requester db R hc req hr
    rw [hfails] at h
    cases h
  cases req <;> simp only [AdminRequest.Names, AdminRequest.Reuses, not_false_eq_true, not_or,
    not_and] at hn hr
  case listAdmins => exact lists_hide_claimed hc hm (.inl rfl) h
  case listAllUserpass => exact lists_hide_claimed hc hm (.inr rfl) h
  case listRealms => exact absurd rfl hlist
  case createAdmin body =>
    simp only [handleAdmin, Endpoints.createAdmin] at h
    split at h
    · cases h
    · obtain ⟨_, _, h⟩ := Outcome.bind_eq_ok h
      cases h
      exact hn
  case getAdmin id =>
    simp only [handleAdmin, Endpoints.getAdmin] at h
    split at h
    · cases h
    · rename_i target ht
      split at h
      · cases h
      · cases h
        have hrealms : R ∉ target.realms := (Database.getAdmin_realms ht).symm ▸ hn
        exact hrealms
  case updateAdmin id body =>
    simp only [handleAdmin, Endpoints.updateAdmin] at h
    split at h
    · cases h
    · rename_i target ht
      split at h
      · cases h
      · split at h
        · cases h
        · obtain ⟨_, _, h⟩ := Outcome.bind_eq_ok h
          cases h
          refine hn.2 ?_
          by_contra hk
          rw [Database.getAdmin_eq_none_iff.mpr hk] at ht
          cases ht
  case deleteAdmin id =>
    simp only [handleAdmin, Endpoints.deleteAdmin] at h
    split at h
    · split at h
      · cases h
      · cases h
        exact List.not_mem_nil
    · split at h
      · cases h
      · split at h
        · cases h
          exact List.not_mem_nil
        · cases h
          exact List.not_mem_nil
  case addAdminToRealm id r =>
    simp only [handleAdmin, Endpoints.addAdminToRealm] at h
    split at h
    · cases h
    · split at h
      · cases h
      · rename_i target ht
        have hold : R ∉ target.realms := (Database.getAdmin_realms ht).symm ▸ hn.2
        split at h
        · cases h
        · split at h
          · cases h
            exact hold
          · obtain ⟨_, _, h⟩ := Outcome.bind_eq_ok h
            cases h
            simpa [HttpResponse.shownRealms, hold] using Ne.symm hn.1
  case removeAdminFromRealm id r =>
    simp only [handleAdmin, Endpoints.removeAdminFromRealm] at h
    split at h
    · cases h
    · split at h
      · cases h
      · rename_i target ht
        have hold : R ∉ target.realms := (Database.getAdmin_realms ht).symm ▸ hn.2
        have hkept : R ∉ target.realms.filter (fun x => x != r) :=
          fun hin => hold (List.mem_of_mem_filter hin)
        split at h
        · cases h
        · split at h
          · obtain ⟨_, _, h⟩ := Outcome.bind_eq_ok h
            cases h
            exact hkept
          · cases h
            exact hkept
  case createRealm body =>
    simp only [handleAdmin, Endpoints.createRealm] at h
    split at h
    · cases h
    · split at h
      · cases h
      · rename_i realm hs
        split at h
        · cases h
        · cases h
          simpa [HttpResponse.shownRealms, checkSamlParams_id hs] using Ne.symm hr
  case getRealm r =>
    simp only [handleAdmin, Endpoints.getRealm] at h
    split at h
    · cases h
    · split at h
      · rename_i realm hg
        cases h
        obtain ⟨_, hid⟩ := Table.find?_eq_some_iff.mp hg
        have hne : realm.id ≠ R := fun he => hget (congrArg _ (hid.symm.trans he))
        simpa [HttpResponse.shownRealms] using Ne.symm hne
      · cases h
  case updateRealm r body =>
    simp only [handleAdmin, Endpoints.updateRealm] at h
    split at h
    · cases h
    · split at h
      · cases h
      · rename_i realm hs
        cases h
        simpa [HttpResponse.shownRealms, checkSamlParams_id hs] using Ne.symm hn
  case deleteRealm r =>
    simp only [handleAdmin, Endpoints.deleteRealm] at h
    split at h
    · cases h
    · cases h
      exact List.not_mem_nil
  case createUserpass r body =>
    simp only [handleAdmin, Endpoints.createUserpass] at h
    split at h
    · cases h
    · split at h
      · cases h
      · split at h
        · cases h
        · split at h
          · cases h
          · cases h
          · obtain ⟨_, _, h⟩ := Outcome.bind_eq_ok h
            cases h
            simpa [HttpResponse.shownRealms] using Ne.symm hn
  case getUserpass r user =>
    simp only [handleAdmin, Endpoints.getUserpass] at h
    split at h
    · cases h
    · split at h
      · rename_i u hu
        cases h
        obtain ⟨row, hrow, rfl⟩ := Option.map_eq_some_iff.mp hu
        obtain ⟨_, hkey⟩ := Table.find?_eq_some_iff.mp hrow
        have hrealm : row.realm = r := congrArg Prod.fst hkey
        simpa [HttpResponse.shownRealms, UserPassRow.toUserPass, hrealm] using Ne.symm hn
      · cases h
  case updateUserpass r user body =>
    simp only [handleAdmin, Endpoints.updateUserpass] at h
    split at h
    · cases h
    · split at h
      · cases h
      · split at h
        · split at h
          · cases h
          · cases h
            simpa [HttpResponse.shownRealms] using Ne.symm hn
        · split at h
          · cases h
          · cases h
            simpa [HttpResponse.shownRealms] using Ne.symm hn
        · split at h
          · cases h
          · cases h
            simpa [HttpResponse.shownRealms] using Ne.symm hn
  case deleteUserpass r user =>
    simp only [handleAdmin, Endpoints.deleteUserpass] at h
    split at h
    · cases h
    · obtain ⟨_, _, h⟩ := Outcome.bind_eq_ok h
      cases h
      exact List.not_mem_nil
  case listUserpassByRealm r =>
    simp only [handleAdmin, Endpoints.listUserpassByRealm] at h
    split at h
    · cases h
    · cases h
      simp only [HttpResponse.shownRealms, Database.listUserpassByRealm, List.map_map, List.mem_map,
        List.mem_insertionSort, List.mem_filter, beq_iff_eq, not_exists, not_and, and_imp]
      rintro row - hrow he
      exact hn (hrow.symm.trans he)
  case totpGenerate r body =>
    simp only [handleAdmin, Endpoints.totpGenerate] at h
    split at h
    · cases h
    · split at h
      · cases h
      · split at h
        · cases h
        · split at h
          · cases h
          · cases h
            exact List.not_mem_nil
  case totpVerify r body =>
    simp only [handleAdmin, Endpoints.totpVerify] at h
    split at h
    · cases h
    · split at h
      · cases h
      · split at h
        · cases h
        · cases h
          exact List.not_mem_nil
  case totpDisable r user =>
    simp only [handleAdmin, Endpoints.totpDisable] at h
    split at h
    · cases h
    · cases h
      exact List.not_mem_nil

/-- A request of the administration scopes, other than those for the realm itself, leaves it alone
unless it deletes an administrator that names one of its credentials. -/
theorem leavesAlone_iff {req : AdminRequest} (hget : req ≠ .getRealm R) (hlist : req ≠ .listRealms)
    (hd : req ≠ .deleteRealm R) :
    LeavesAlone R db (handleAdmin X params m requester db req) ↔
      ¬ CascadesInto requester db req R := by
  constructor
  · rintro ⟨hsame, _⟩ ⟨username, ⟨id, target, rfl, ht, hmanages, hname⟩, hkey⟩
    obtain ⟨row, hrow, hk⟩ := Table.mem_keys.mp hkey
    have hrealm : row.realm = R := congrArg Prod.fst hk
    have huser : row.username = username := congrArg Prod.snd hk
    have hin := (hsame.credentials row hrealm).mpr hrow
    simp only [handleAdmin, Endpoints.deleteAdmin, ht, hmanages, hname, Bool.true_eq_false,
      if_false, Outcome.ok_state] at hin
    have hkept := ((Database.mem_deleteUserpassWhere _ _).mp hin).2
    simp [huser] at hkept
  · intro hcascade
    exact ⟨writes_sameRealm hc hm (handleAdmin_writes m requester db req) hd hcascade,
      fun _ h => shows_nothing hc hm hget hlist h⟩

end

def SessionsRequest.AsksFor (now : Int) (sessions : Sessions) (R : String) : SessionsRequest → Prop
  | .upsertSession body => body.realm.id = R
  | .getSessionById id | .getSession id _ => ∃ row ∈ sessions, row.sessionId = id ∧ row.realmId = R
  | .getSessionsForClients realm _ | .deleteSessionsForRealm realm => realm = R
  | .deleteSessions ids => ∃ row ∈ sessions, row.sessionId ∈ ids ∧ row.realmId = R
  | .deleteExpiredSessions => ∃ row ∈ sessions, row.realmId = R ∧
      (row.staleAt ≤ now ∨ row.createdAt + row.maxAgeSeconds ≤ now)

/-- No session of the realm is changed, and the answer shows neither one nor its id. -/
structure LeavesSessionsAlone (R : String) (sessions : Sessions)
    (o : Outcome Sessions AuthError HttpResponse) : Prop where
  same : ∀ row : SessionRow, row.realmId = R → (row ∈ o.state ↔ row ∈ sessions)
  unshown : ∀ response, o.result = .ok response → R ∉ response.shownRealms
  unlisted : ∀ response ids, o.result = .ok response → response.body = .sessionIds ids →
    ∀ row ∈ sessions, row.realmId = R → row.sessionId ∉ ids

section
variable {now : Int} {sessions : Sessions}

theorem LeavesSessionsAlone.of_error {o : Outcome Sessions AuthError HttpResponse} {e : AuthError}
    (h : o.result = .error e)
    (hsame : ∀ row : SessionRow, row.realmId = R → (row ∈ o.state ↔ row ∈ sessions)) :
    LeavesSessionsAlone R sessions o := by
  refine ⟨hsame, fun response hok => ?_, fun response ids hok => ?_⟩
  · rw [h] at hok
    cases hok
  · rw [h] at hok
    cases hok

theorem LeavesSessionsAlone.of_silent {sessions' : Sessions}
    (hsame : ∀ row : SessionRow, row.realmId = R → (row ∈ sessions' ↔ row ∈ sessions)) :
    LeavesSessionsAlone R sessions (.ok sessions' { status := 204 }) := by
  refine ⟨hsame, fun response hok => ?_, fun response ids hok hbody => ?_⟩
  · cases hok
    exact List.not_mem_nil
  · cases hok
    cases hbody

theorem mem_getSession_of_outside {id : String}
    (h : ∀ row ∈ sessions, row.sessionId = id → row.realmId ≠ R) {row : SessionRow}
    (hrow : row.realmId = R) : row ∈ (SessionStore.getSession sessions now id).1 ↔ row ∈ sessions := by
  by_cases hid : row.sessionId = id
  · subst hid
    refine iff_of_false (fun hin => ?_) fun hin => h row hin rfl hrow
    obtain ⟨r, hr, he, _, rfl⟩ := SessionStore.mem_getSession_self hin
    exact h r hr he hrow
  · exact SessionStore.mem_getSession_of_ne hid

theorem getSession_realm {id : String} {d : SessionData}
    (h : ∀ row ∈ sessions, row.sessionId = id → row.realmId ≠ R)
    (hd : (SessionStore.getSession sessions now id).2 = some d) : d.realmId ≠ R := by
  obtain ⟨row, hrow, hid, _, rfl⟩ := SessionStore.getSession_some hd
  exact h row hrow hid

theorem LeavesSessionsAlone.of_shown {d : SessionData} {sessions' : Sessions}
    (hd : d.realmId ≠ R)
    (hsame : ∀ row : SessionRow, row.realmId = R → (row ∈ sessions' ↔ row ∈ sessions)) :
    LeavesSessionsAlone R sessions (.ok sessions' { status := 200, body := .session (some d) }) := by
  refine ⟨hsame, fun response hok => ?_, fun response ids hok hbody => ?_⟩
  · cases hok
    simpa [HttpResponse.shownRealms] using hd.symm
  · cases hok
    cases hbody

theorem not_mem_listing {realmId : String} {clients : List AuthenticatedClientScheme}
    (hne : realmId ≠ R) {row : SessionRow} (hrow : row ∈ sessions) (hr : row.realmId = R) :
    row.sessionId ∉ (SessionStore.getSessionsForClients sessions now realmId clients).map
      SessionData.sessionId := by
  intro hin
  simp only [SessionStore.getSessionsForClients, List.map_map, List.mem_map, List.mem_filter,
    Function.comp_apply, SessionRow.toData, SessionStore.matchesClient, Bool.and_eq_true,
    beq_iff_eq] at hin
  obtain ⟨other, ⟨hother, ⟨⟨hrealm, _⟩, _⟩, _⟩, hid⟩ := hin
  rw [Table.eq_of_key hother hrow hid] at hrealm
  exact hne (hrealm.symm.trans hr)

theorem getSession_leavesAlone {id : String} {body : GetSessionRequest}
    (h : ∀ row ∈ sessions, row.sessionId = id → row.realmId ≠ R) :
    LeavesSessionsAlone R sessions (Endpoints.getSession now sessions id body) := by
  have hsame {row : SessionRow} (hrow : row.realmId = R) :
      row ∈ (SessionStore.getSession sessions now id).1 ↔ row ∈ sessions :=
    mem_getSession_of_outside h hrow
  unfold Endpoints.getSession
  cases hg : SessionStore.getSession sessions now id with
  | mk after found =>
    rw [hg] at hsame
    cases found with
    | none => exact .of_error rfl fun row hrow => hsame hrow
    | some d =>
      have hd : d.realmId ≠ R := getSession_realm h (congrArg Prod.snd hg)
      cases body.sessionsAction with
      | none => exact .of_shown hd fun row hrow => hsame hrow
      | some action =>
        refine .of_shown hd fun row hrow => ?_
        rw [← hsame hrow, SessionStore.deleteSessions, Table.mem_deleteWhere]
        refine and_iff_left_of_imp fun hin => ?_
        rw [← Bool.not_eq_true, List.contains_iff_mem]
        have hother : row.sessionId ≠ id := fun hid => h row ((hsame hrow).mp hin) hid hrow
        have hlisted := @not_mem_listing R now after d.realmId body.authenticatedClients hd row hin
          hrow
        cases action with
        | logoutOtherSessions =>
          exact fun hlogout => hlisted (List.mem_of_mem_filter hlogout)
        | logoutAllSessions =>
          simp only [Endpoints.sessionsToLogout, List.mem_append, List.mem_singleton, hlisted,
            hother, or_self, not_false_eq_true]

theorem handleSessions_leavesAlone {req : SessionsRequest} (h : ¬ req.AsksFor now sessions R) :
    LeavesSessionsAlone R sessions (handleSessions now sessions req) := by
  cases req <;> simp only [SessionsRequest.AsksFor, not_exists, not_and] at h
  case upsertSession body =>
    simp only [handleSessions, Endpoints.upsertSession]
    split
    · exact .of_error rfl fun _ _ => Iff.rfl
    · rename_i after hs
      refine .of_silent fun row hrow => ?_
      rw [(SessionStore.upsertSession_ok hs).2]
      refine or_iff_left ?_
      rintro rfl
      exact h hrow
  case getSessionById id =>
    have hsame {row : SessionRow} (hrow : row.realmId = R) :
        row ∈ (SessionStore.getSession sessions now id).1 ↔ row ∈ sessions :=
      mem_getSession_of_outside h hrow
    simp only [handleSessions, Endpoints.getSessionById]
    cases hg : SessionStore.getSession sessions now id with
    | mk after found =>
      rw [hg] at hsame
      cases found with
      | some d => exact .of_shown (getSession_realm h (congrArg Prod.snd hg)) fun _ => hsame
      | none =>
        refine ⟨fun _ => hsame, fun response hok => ?_, fun response ids hok hbody => ?_⟩
        · cases hok
          exact List.not_mem_nil
        · cases hok
          cases hbody
  case getSession id body => exact getSession_leavesAlone h
  case getSessionsForClients realmId clients =>
    refine ⟨fun _ _ => Iff.rfl, fun response hok => ?_, fun response ids hok hbody => ?_⟩
    · cases hok
      exact List.not_mem_nil
    · cases hok
      cases hbody
      exact fun row hrow hr => not_mem_listing h hrow hr
  case deleteSessions ids =>
    refine .of_silent fun row hrow => ?_
    rw [SessionStore.deleteSessions, Table.mem_deleteWhere]
    refine and_iff_left_of_imp fun hin => ?_
    simpa using fun hid => h row hin hid hrow
  case deleteExpiredSessions =>
    refine .of_silent fun row hrow => ?_
    rw [SessionStore.deleteExpiredSessions, Table.mem_deleteWhere]
    refine and_iff_left_of_imp fun hin => ?_
    simpa [not_or] using h row hin hrow
  case deleteSessionsForRealm realmId =>
    refine .of_silent fun row hrow => ?_
    rw [SessionStore.deleteSessionsForRealm, Table.mem_deleteWhere]
    refine and_iff_left_of_imp fun hin => ?_
    simpa [hrow] using Ne.symm h

end

/-- The realm-claim rule for a super admin outside `R`. While `R` is claimed, naming it is refused,
and the requests left open to it are those that read and delete the realm and the deletion of an
administrator whose record names a credential of it. While it is not claimed, the super admin is
answered as a member of `R` would be. -/
theorem claimed_realm_closed (m : Moment) (requester : Admin) (db : Database) (R : String)
    (hs : adminRealm ∈ requester.realms) (hm : R ∉ requester.realms) :
    let handle := handleAdmin X params m requester db
    (db.Claimed R →
      (∀ req, AdminRequest.Names db R req → ∃ msg, handle req = .error db (.forbidden msg)) ∧
      (∀ req, AdminRequest.Reuses db R req → ∃ e, handle req = .error db e) ∧
      (∃ realm, realm.id = R ∧
        handle (.getRealm R) = .ok db { status := 200, body := .realm realm }) ∧
      handle (.deleteRealm R) = .ok (db.deleteRealm R) { status := 204 } ∧
      (∀ req, req ≠ .getRealm R → req ≠ .listRealms → req ≠ .deleteRealm R →
        (LeavesAlone R db (handle req) ↔ ¬ CascadesInto requester db req R)) ∧
      ∀ sessions req, ¬ SessionsRequest.AsksFor m.now sessions R req →
        LeavesSessionsAlone R sessions (handleSessions m.now sessions req)) ∧
    (¬ db.Claimed R → ∀ req,
      handleAdmin X params m (requester.joining R) db req = handle req ∧
      ((∀ r, AdminRequest.Names db r req → r ∈ requester.realms ∨ ¬ db.Claimed r) →
        ¬ WrongCode X m db req → Admitted (handle req))) := by
  refine ⟨fun hc => ⟨?_, ?_, ?_, ?_, ?_, ?_⟩, fun hc req => ⟨?_, ?_⟩⟩
  · intro req hn
    exact names_forbidden hc hm hn
  · intro req hr
    exact reuses_fails hc hr
  · exact getRealm_of_claimed hs hc
  · simp [handleAdmin, Endpoints.deleteRealm, Admin.canAdministerRealm, hs]
  · intro req hget hlist hd
    exact leavesAlone_iff hc hm hget hlist hd
  · intro sessions req hasks
    exact handleSessions_leavesAlone hasks
  · exact handleAdmin_joining hs hc req
  · intro hn hw
    refine handleAdmin_admitted hs (fun r hr => ?_) hw
    rcases hn r hr with h | h
    · exact canManageRealm_iff.mpr (.inl h)
    · exact canManageRealm_iff.mpr (.inr ⟨hs, h⟩)

/-- A realm with an administrator of its own and one without, and a credential in the first. -/
def claimedSetup : Database :=
  let realm (id : String) : Realm :=
    { id := id, authParams := {}, sessionMaxAgeSeconds := 3600, sessionMaxStaleAgeSeconds := 600 }
  let handle := handleAdmin Transparent.externals Transparent.params (Transparent.moment 0)
    Database.adminRealmAdmin
  let db₁ := (handle (Database.fresh "hash") (.createRealm (realm "acme"))).state
  let db₂ := (handle db₁ (.createRealm (realm "beta"))).state
  let db₃ := (handle db₂ (.createUserpass "acme"
    { realm := "acme", username := "victim", passwordInput := some (.plaintext "pw"),
      changePassword := false })).state
  (handle db₃ (.createAdmin { id := "alice", realms := ["acme"], userpass := some "alice" })).state

theorem claimedSetup_memberships :
    claimedSetup.adminRealms.rows = [⟨"admin", adminRealm⟩, ⟨"alice", "acme"⟩] := by
  decide

theorem claimed_claimedSetup : claimedSetup.Claimed "acme" := by
  refine ⟨"alice", ?_⟩
  rw [Table.mem_def, claimedSetup_memberships]
  simp

theorem claimed_realm_closed_claimedSetup :
    let handle := handleAdmin Transparent.externals Transparent.params (Transparent.moment 1)
      Database.adminRealmAdmin claimedSetup
    (∃ msg, handle (.deleteAdmin "alice") = .error claimedSetup (.forbidden msg)) ∧
      Admitted (handle (.totpDisable "beta" "alice")) := by
  have hacme : (⟨"alice", "acme"⟩ : AdminRealmRow) ∈ claimedSetup.adminRealms := by
    rw [Table.mem_def, claimedSetup_memberships]
    simp
  have hbeta : ¬ claimedSetup.Claimed "beta" := by
    rintro ⟨id, h⟩
    rw [Table.mem_def, claimedSetup_memberships] at h
    simp [adminRealm] at h
  have hrule (R : String) (hR : R ∉ Database.adminRealmAdmin.realms) :=
    @claimed_realm_closed Transparent.externals Transparent.params (Transparent.moment 1)
      Database.adminRealmAdmin claimedSetup R (by decide) hR
  refine ⟨((hrule "acme" (by decide)).1 claimed_claimedSetup).1 _ (Database.mem_realmsOf.mpr hacme),
    ?_⟩
  refine ((hrule "beta" (by decide)).2 hbeta (.totpDisable "beta" "alice")).2 ?_ id
  rintro r rfl
  exact .inr hbeta

/-- The super admin deletes a credential of a realm it is shut out of, by way of an administrator
without realms that it has made for this. -/
theorem super_admin_deletes_claimed_credential :
    let step := adminStep Transparent.externals Transparent.params
    let root : Admin := Database.adminRealmAdmin
    let db := step claimedSetup ⟨Transparent.moment 1, root,
      .createAdmin { id := "decoy", realms := [], userpass := some "victim" }⟩
    let db' := step db ⟨Transparent.moment 2, root, .deleteAdmin "decoy"⟩
    db.getAdmin "admin" = some root ∧ (⟨"alice", "acme"⟩ : AdminRealmRow) ∈ db.adminRealms ∧
      "acme" ∉ root.realms ∧ ("acme", "victim") ∈ db.userpass.keys ∧
      ("acme", "victim") ∉ db'.userpass.keys := by
  decide

end AuthVerifier
