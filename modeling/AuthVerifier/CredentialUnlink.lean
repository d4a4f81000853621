import AuthVerifier.AdminIdentity
import AuthVerifier.Server

/-!
Unlinking a deleted credential. Any administrator may name any credential of the admin realm, while
a deletion looks at the one whose id is the credential. It leaves no dangling name exactly where the
credential was named by that administrator alone, which is so throughout a run in which
administrators are only ever given credentials named after them.
-/

set_option autoImplicit false

namespace AuthVerifier
open Effects Relational Transition

def Admin.unlink (username : String) (a : Admin) : Admin :=
  if a.userpass = some username then { a with userpass := none } else a

/-- Every record that named the credential names none; otherwise all records are as they were, their
second factors and memberships included. -/
def Unlinked (username : String) (db db' : Database) : Prop :=
  ∀ id, db'.getAdmin id = (db.getAdmin id).map (Admin.unlink username)

def NamedByItself (username : String) (db : Database) : Prop :=
  ∀ row ∈ db.admin, row.userpass = some username → row.id = username

def Database.NamedAfterId (db : Database) : Prop :=
  ∀ row ∈ db.admin, ∀ username, row.userpass = some username → username = row.id

def AdminRequest.misnames : AdminRequest → Bool
  | .createAdmin body => body.userpass.any (fun u => u != body.id)
  | .updateAdmin id body => body.userpass.any (fun u => u != id)
  | _ => false

section
variable (X : Externals) (params : ServerParams)

/-- The call is a deletion of the credential of the admin realm, and it succeeds. -/
def DeletesCredential (s : ServerState) (c : Call) (username : String) : Prop :=
  ∃ query cookie, c.request = .admin query cookie (.deleteUserpass adminRealm username) ∧
    (handle X params s c).2 = .ok { status := 204 }

/-- After a deletion no administrator names the credential, and nothing else has changed. -/
def UnlinksDeleted (s : ServerState) (c : Call) : Prop :=
  ∀ username, DeletesCredential X params s c username →
    Unlinked username s.db (step X params s c).db

/-- A credential that is deleted is named by no administrator but the one of its own name. -/
def DeletesOwnOnly (s : ServerState) (c : Call) : Prop :=
  ∀ username, DeletesCredential X params s c username → NamedByItself username s.db

end

section
variable {X : Externals} {params : ServerParams} {db db' : Database} {requester : Admin}
  {username : String}

theorem Unlinked.userpass_ne (h : Unlinked username db db') {row : AdminRow}
    (hrow : row ∈ db'.admin) : row.userpass ≠ some username := by
  intro hname
  have hget : db'.getAdmin row.id = some (db'.toAdmin row) :=
    Database.getAdmin_eq_some_iff.mpr ⟨row, hrow, rfl, rfl⟩
  rw [h row.id] at hget
  obtain ⟨a, -, ha⟩ := Option.map_eq_some_iff.mp hget
  have hnone := congrArg Admin.userpass ha
  rw [show (db'.toAdmin row).userpass = row.userpass from rfl, hname] at hnone
  unfold Admin.unlink at hnone
  split at hnone
  · cases hnone
  · contradiction

theorem insertAdminRealms_rows {id : String} {rs : List String}
    (h : (db.insertAdminRealms id rs).result = .ok ()) :
    (db.insertAdminRealms id rs).state.adminRealms.rows =
      db.adminRealms.rows ++ rs.map (AdminRealmRow.mk id) := by
  induction rs generalizing db with
  | nil => simp [Database.insertAdminRealms, Outcome.ok]
  | cons r rs ih =>
    unfold Database.insertAdminRealms at h ⊢
    cases hins : db.insertAdminRealm id r with
    | error e =>
      simp only [hins] at h
      cases h
    | ok db₁ =>
      simp only [hins] at h ⊢
      have hrows : db₁.adminRealms.rows = db.adminRealms.rows ++ [⟨id, r⟩] := by
        unfold Database.insertAdminRealm at hins
        split at hins
        · cases hins
        · split at hins
          · cases hins
            rfl
          · cases hins
      rw [ih h, hrows]
      simp

theorem realmsOf_updateAdmin {a : Admin} (h : (db.updateAdmin a).result = .ok ()) (id : String) :
    (db.updateAdmin a).state.realmsOf id = if id = a.id then a.realms else db.realmsOf id := by
  unfold Database.realmsOf
  rw [Database.updateAdmin, insertAdminRealms_rows h]
  simp only [Database.clearMemberships, Database.setAdmin, Table.deleteWhere, List.filter_append,
    List.filter_filter, List.map_append, List.filter_map]
  by_cases hid : id = a.id
  · subst hid
    simp [Function.comp_def]
  · have hne : a.id ≠ id := fun he => hid he.symm
    have hfilter : db.adminRealms.rows.filter (fun r => (r.adminId == id) && !(r.adminId == a.id)) =
        db.adminRealms.rows.filter (fun r => r.adminId == id) := by
      refine List.filter_congr fun r _ => ?_
      by_cases hr : r.adminId = id
      · simp [hr, hid]
      · simp [hr]
    simp [Function.comp_def, hne, hid, hfilter]

theorem getAdmin_updateAdmin {a : Admin} (h : (db.updateAdmin a).result = .ok ())
    (hid : a.id ∈ db.admin.keys) (id : String) :
    (db.updateAdmin a).state.getAdmin id = if id = a.id then some a else db.getAdmin id := by
  obtain ⟨row, hrow, hrowid⟩ := Table.mem_keys.mp hid
  have hadmin (x : AdminRow) := @Database.mem_updateAdmin_admin db a x
  have hrealms := realmsOf_updateAdmin h
  apply Option.ext
  intro b
  rw [Database.getAdmin_eq_some_iff]
  by_cases he : id = a.id
  · subst he
    rw [if_pos rfl, Option.some.injEq]
    constructor
    · rintro ⟨x, hx, hxid, rfl⟩
      obtain ⟨y, hy, rfl⟩ := (hadmin x).mp hx
      by_cases hya : y.id = a.id
      · simp only [hya, beq_self_eq_true, if_true] at hxid ⊢
        simp only [Database.toAdmin, Database.assignAdmin, AdminRow.ofAdmin, hrealms, hya, if_true]
      · rw [if_neg (by simpa using hya)] at hxid
        exact absurd hxid hya
    · rintro rfl
      refine ⟨Database.assignAdmin a row, (hadmin _).mpr ⟨row, hrow, ?_⟩, hrowid, ?_⟩
      · rw [if_pos (by simpa using hrowid)]
      · simp only [Database.toAdmin, Database.assignAdmin, AdminRow.ofAdmin, hrealms, hrowid,
          if_true]
  · rw [if_neg he, Database.getAdmin_eq_some_iff]
    have hsame (x : AdminRow) (hx : x.id = id) :
        (db.updateAdmin a).state.toAdmin x = db.toAdmin x := by
      simp only [Database.toAdmin, hrealms, hx, he, if_false]
    constructor
    · rintro ⟨x, hx, hxid, rfl⟩
      obtain ⟨y, hy, rfl⟩ := (hadmin x).mp hx
      by_cases hya : y.id = a.id
      · rw [if_pos (by simpa using hya)] at hxid
        exact absurd (hxid.symm.trans hya) he
      · rw [if_neg (by simpa using hya)] at hxid ⊢
        exact ⟨y, hy, hxid, (hsame y hxid).symm⟩
    · rintro ⟨x, hx, hxid, rfl⟩
      refine ⟨x, (hadmin x).mpr ⟨x, hx, if_neg ?_⟩, hxid, hsame x hxid⟩
      simpa [hxid] using he

theorem updateAdmin_relinked {a : Admin} {id : String} (hget : db.getAdmin id = some a)
    (userpass : Option String) : (db.updateAdmin { a with userpass := userpass }).result = .ok () := by
  have hid : a.id = id := Database.getAdmin_id hget
  have hrealms : a.realms = db.realmsOf id := Database.getAdmin_realms hget
  refine Database.updateAdmin_ok ?_ ?_ ?_
  · by_contra hno
    rw [show ({ a with userpass := userpass } : Admin).id = id from hid,
      ← Database.getAdmin_eq_none_iff, hget] at hno
    cases hno
  · intro r hr
    rw [show ({ a with userpass := userpass } : Admin).realms = db.realmsOf id from hrealms] at hr
    exact db.membershipRealm _ (Database.mem_realmsOf.mp hr)
  · rw [show ({ a with userpass := userpass } : Admin).realms = db.realmsOf id from hrealms]
    exact Database.realmsOf_nodup db id

theorem getAdmin_autoUnlink (db : Database) (username id : String) :
    (Endpoints.autoUnlink db adminRealm username).state.getAdmin id =
      (db.getAdmin id).map (if id = username then Admin.unlink username else fun a => a) := by
  unfold Endpoints.autoUnlink
  rw [if_pos rfl]
  cases hget : db.getAdmin username with
  | none =>
    by_cases he : id = username
    · subst he
      simp [hget]
    · simp [he]
  | some a =>
    have hid : a.id = username := Database.getAdmin_id hget
    dsimp only
    split
    · rename_i hname
      have hok := updateAdmin_relinked hget none
      have hkey : ({ a with userpass := none } : Admin).id ∈ db.admin.keys := by
        by_contra hno
        rw [show ({ a with userpass := none } : Admin).id = username from hid,
          ← Database.getAdmin_eq_none_iff, hget] at hno
        cases hno
      rw [Outcome.mapError_state, getAdmin_updateAdmin hok hkey id]
      by_cases he : id = username
      · subst he
        simp [hget, hid, Admin.unlink, hname]
      · simp [he, hid]
    · rename_i hname
      by_cases he : id = username
      · subst he
        simp [hget, Admin.unlink, hname]
      · simp [he]

theorem deleteUserpass_ok {response : HttpResponse}
    (h : (Endpoints.deleteUserpass requester adminRealm username db).result = .ok response) :
    (Endpoints.deleteUserpass requester adminRealm username db).state =
      (Endpoints.autoUnlink (db.deleteUserpass adminRealm username) adminRealm username).state := by
  unfold Endpoints.deleteUserpass at h ⊢
  split at h
  · cases h
  · rename_i hcan
    rw [if_neg hcan]
    exact Outcome.bind_state_eq (fun _ _ => rfl)

/-- One deletion: nobody names the credential afterwards, and all else is as it was, exactly when
nobody but the administrator of that id named it before. -/
theorem unlinked_iff (db : Database) (username : String) :
    Unlinked username db
        (Endpoints.autoUnlink (db.deleteUserpass adminRealm username) adminRealm username).state ↔
      NamedByItself username db := by
  have hstate (id : String) := getAdmin_autoUnlink (db.deleteUserpass adminRealm username) username id
  have hsame (id : String) :
      (db.deleteUserpass adminRealm username).getAdmin id = db.getAdmin id := rfl
  constructor
  · intro h row hrow hname
    by_contra hne
    have hget : db.getAdmin row.id = some (db.toAdmin row) :=
      Database.getAdmin_eq_some_iff.mpr ⟨row, hrow, rfl, rfl⟩
    -- the record is left as it is, and still names the credential
    have hkept := (hstate row.id).symm.trans (h row.id)
    rw [hsame, hget, if_neg hne] at hkept
    have huserpass := congrArg (fun a => a.map Admin.userpass) hkept
    simp [Admin.unlink, Database.toAdmin, hname] at huserpass
  · intro h id
    rw [hstate, hsame]
    by_cases he : id = username
    · rw [if_pos he]
    · rw [if_neg he]
      cases hget : db.getAdmin id with
      | none => rfl
      | some a =>
        obtain ⟨row, hrow, hrowid, rfl⟩ := Database.getAdmin_eq_some_iff.mp hget
        have hno : row.userpass ≠ some username :=
          fun hname => he (hrowid.symm.trans (h row hrow hname))
        have hunlink : Admin.unlink username (db.toAdmin row) = db.toAdmin row := if_neg hno
        rw [Option.map_some, Option.map_some, hunlink]

theorem DeletesCredential.step_db {s : ServerState} {c : Call}
    (h : DeletesCredential X params s c username) :
    (step X params s c).db = (Endpoints.autoUnlink (s.db.deleteUserpass adminRealm username)
      adminRealm username).state := by
  obtain ⟨query, cookie, hreq, hok⟩ := h
  obtain ⟨m, request⟩ := c
  dsimp only at hreq
  subst hreq
  obtain ⟨requester, hhandled, hstate⟩ := handle_admin_ok (by decide) hok
  rw [hstate]
  exact deleteUserpass_ok hhandled

/-- In every run: each deletion of a credential of the admin realm unlinks it and changes nothing
else, exactly when each credential that is deleted is named by no administrator but the one of its
own name. -/
theorem credential_unlink_iff (X : Externals) (params : ServerParams) (s : ServerState)
    (calls : List Call) :
    (∀ x ∈ trace (step X params) s calls, UnlinksDeleted X params x.1 x.2) ↔
      ∀ x ∈ trace (step X params) s calls, DeletesOwnOnly X params x.1 x.2 := by
  refine trace_forall_iff (step X params) (fun s c => ?_) calls
  unfold UnlinksDeleted DeletesOwnOnly
  refine forall_congr' fun username => ?_
  constructor
  · intro h hd
    have hunlinked := h hd
    rw [hd.step_db] at hunlinked
    exact (unlinked_iff s.db username).mp hunlinked
  · intro h hd
    rw [hd.step_db]
    exact (unlinked_iff s.db username).mpr (h hd)

theorem Database.NamedAfterId.namedByItself (h : db.NamedAfterId) (username : String) :
    NamedByItself username db :=
  fun row hrow hname => (h row hrow username hname).symm

theorem Database.NamedAfterId.getAdmin (h : db.NamedAfterId) {id u : String} {a : Admin}
    (hget : db.getAdmin id = some a) (hu : a.userpass = some u) : u = a.id := by
  obtain ⟨row, hrow, hid, rfl⟩ := Database.getAdmin_eq_some_iff.mp hget
  exact h row hrow u hu

theorem Database.NamedAfterId.of_admin {db' : Database} (h : db.NamedAfterId)
    (he : db'.admin = db.admin) : db'.NamedAfterId := by
  unfold Database.NamedAfterId
  rw [he]
  exact h

theorem Database.NamedAfterId.updateAdmin {a : Admin} (h : db.NamedAfterId)
    (ha : ∀ u, a.userpass = some u → u = a.id) : (db.updateAdmin a).state.NamedAfterId := by
  intro row hrow u hu
  obtain ⟨y, hy, rfl⟩ := Database.mem_updateAdmin_admin.mp hrow
  by_cases hid : y.id = a.id
  · rw [if_pos (by simpa using hid)] at hu ⊢
    exact (ha u hu).trans hid.symm
  · rw [if_neg (by simpa using hid)] at hu ⊢
    exact h y hy u hu

theorem Database.NamedAfterId.setAdmin (h : db.NamedAfterId) {p : AdminRow → Bool}
    {f : AdminRow → AdminRow} (hf : ∀ r, (f r).id = r.id)
    (hu : ∀ r, (f r).userpass = r.userpass) : (db.setAdmin p f hf).NamedAfterId := by
  intro row hrow u hname
  obtain ⟨y, hy, rfl⟩ := (Database.mem_setAdmin db p f hf).mp hrow
  split at hname
  · rename_i hp
    rw [if_pos hp, hf]
    exact h y hy u ((hu y).symm.trans hname)
  · rename_i hp
    rw [if_neg hp]
    exact h y hy u hname

theorem Writes.namedAfterId {m : Moment} {req : AdminRequest}
    (hw : Writes X params m requester db req db') (h : db.NamedAfterId)
    (hreq : req.misnames = false) : db'.NamedAfterId := by
  cases hw with
  | nothing => exact h
  | createAdmin body _ =>
    intro row hrow u hu
    by_cases hk : body.id ∈ db.admin.keys
    · rw [Database.createAdmin_of_mem hk] at hrow
      exact h row hrow u hu
    · rw [(Database.createAdmin_spec hk).admin] at hrow
      rcases (Database.mem_insertAdmin db).mp hrow with hrow | rfl
      · exact h row hrow u hu
      · have hname : body.userpass = some u := hu
        have hsame : u = body.id := by simpa [AdminRequest.misnames, hname] using hreq
        exact hsame
  | updateAdmin id body target _ _ _ =>
    refine h.updateAdmin fun u hu => ?_
    have hname : body.userpass = some u := hu
    simpa [AdminRequest.misnames, hname] using hreq
  | deleteAdmin id target _ _ _ =>
    intro row hrow u hu
    exact h row ((Database.mem_deleteAdmin db).mp hrow).1 u hu
  | deleteAdminCascade id u target _ _ _ =>
    intro row hrow u hu
    exact h row ((Database.mem_deleteAdmin db).mp hrow).1 u hu
  | addAdminToRealm id realm target _ ht _ _ =>
    have hnamed (u : String) (hu : target.userpass = some u) : u = target.id := h.getAdmin ht hu
    exact h.updateAdmin hnamed
  | removeAdminFromRealm id realm target _ ht _ =>
    have hnamed (u : String) (hu : target.userpass = some u) : u = target.id := h.getAdmin ht hu
    exact h.updateAdmin hnamed
  | createRealm body realm _ _ _ hd => exact h.of_admin (Database.createRealm_ok hd).2.2.2.1
  | updateRealm | deleteRealm | updateUserpass | updateUserpassMetadata => exact h.of_admin rfl
  | createUserpass realm hash body db₁ _ _ hd =>
    have h₁ : db₁.NamedAfterId := h.of_admin (Database.createUserpass_ok hd).2.2.2.1
    rcases Endpoints.autoLink_cases db₁ realm body.username with he | ⟨a, _, hget, he⟩
    · rw [he]
      exact h₁
    · rw [he]
      refine h₁.updateAdmin fun u hu => ?_
      cases hu
      exact (Database.getAdmin_id hget).symm
  | deleteUserpass realm user _ =>
    have h₁ : (db.deleteUserpass realm user).NamedAfterId := h.of_admin rfl
    rcases Endpoints.autoUnlink_cases (db.deleteUserpass realm user) realm user with
      he | ⟨a, _, hget, he⟩
    · rw [he]
      exact h₁
    · rw [he]
      exact h₁.updateAdmin fun u hu => by cases hu
  | totpVerify realm body _ _ _ hd =>
    unfold Database.enableTotp at hd
    split at hd
    · cases hd
    · cases hd
      exact h.setAdmin _ (fun _ => rfl)
  | totpDisable realm user _ => exact h.setAdmin _ (fun _ => rfl)

theorem Database.namedAfterId_fresh (passwordHash : String) :
    (Database.fresh passwordHash).NamedAfterId := by
  intro row hrow u hu
  have hone : row = AdminRow.ofAdmin Database.adminRealmAdmin := List.mem_singleton.mp hrow
  rw [hone] at hu ⊢
  exact (Option.some.inj hu).symm

/-- Where no request gives an administrator a credential of another name, every deletion of a run
unlinks its credential. -/
theorem unlinks_of_named_after_id (passwordHash : String) {calls : List Call}
    (hreq : ∀ c ∈ calls, ∀ query cookie req, c.request = .admin query cookie req →
      req.misnames = false) :
    ∀ x ∈ trace (step X params) (.initial passwordHash) calls,
      UnlinksDeleted X params x.1 x.2 := by
  rw [credential_unlink_iff]
  intro x hx username _
  obtain ⟨pre, post, hcalls, hrun⟩ := (mem_trace_iff _).mp hx
  have hkeep : (run (step X params) (.initial passwordHash) pre).db.NamedAfterId := by
    refine run_keeps_of (step X params) (fun s => s.db.NamedAfterId)
      (C := fun _ c => ∀ query cookie req, c.request = .admin query cookie req →
        req.misnames = false) (Database.namedAfterId_fresh passwordHash) ?_ pre ?_
    · intro s c h hc
      rcases AuthVerifier.step_db c with hsame | ⟨query, cookie, req, requester, hr, hw⟩
      · rw [hsame]
        exact h
      · exact hw.namedAfterId h (hc query cookie req hr)
    · intro y hy
      refine hreq y.2 ?_
      rw [hcalls]
      exact List.mem_append_left _ (mem_of_mem_trace _ hy)
  rw [hrun]
  exact hkeep.namedByItself username

end

namespace Transparent

/-- An administrator is given a credential of another name, which is then deleted. -/
def sharedRun : List Call :=
  [rootLogin,
   asRoot 1001 (.createUserpass adminRealm
    { realm := adminRealm, username := "shared", changePassword := false
      passwordInput := some (.plaintext "secret") }),
   asRoot 1002 (.createAdmin { id := "alice", realms := [], userpass := some "shared" }),
   asRoot 1003 (.deleteUserpass adminRealm "shared")]

def sharedServer : ServerState := run (step externals params) start (sharedRun.take 3)

def deleteShared : Call := asRoot 1003 (.deleteUserpass adminRealm "shared")

def sharedRow : AdminRow := AdminRow.ofAdmin { id := "alice", realms := [], userpass := some "shared" }

theorem sharedServer_facts :
    (handle externals params sharedServer deleteShared).2 = .ok { status := 204 } ∧
      sharedRow ∈ (step externals params sharedServer deleteShared).db.admin := by
  decide

/-- The administrator goes on naming the deleted credential. -/
theorem shared_credential_dangles :
    ¬ (∀ x ∈ trace (step externals params) start sharedRun,
      UnlinksDeleted externals params x.1 x.2) := by
  intro h
  have hmem : (sharedServer, deleteShared) ∈ trace (step externals params) start sharedRun :=
    mem_trace_of_split _ (sharedRun.take 3) [] rfl
  have hdeletes : DeletesCredential externals params sharedServer deleteShared "shared" :=
    ⟨"", some rootCookie, rfl, sharedServer_facts.1⟩
  have hunlinked := h _ hmem "shared" hdeletes
  exact hunlinked.userpass_ne sharedServer_facts.2 rfl

end Transparent
end AuthVerifier
