import AuthVerifier.AdminStatements
import AuthVerifier.Lib.Run
import AuthVerifier.Transparent

/-!
Two requests on one administrator record at the same time. A handler reads the record, changes a
field in memory and writes every column and all memberships back, in statements of their own; what
another request writes in between is lost. Where the conflicting statements of the two requests come
in one order, the requests might as well have come one after the other.
-/

set_option autoImplicit false

namespace AuthVerifier
open Effects Relational Schedule

/-- The parts of the database the statements tell apart. None of them adds or removes an
administrator or a realm. -/
inductive Cell where
  | adminIds | adminColumns | memberships | credentials | realms
  deriving DecidableEq

namespace Cell

abbrev Value : Cell → Type
  | .adminIds => List String
  | .adminColumns => Table AdminRow String AdminRow.id
  | .memberships => Table AdminRealmRow (String × String) AdminRealmRow.key
  | .credentials => Table UserPassRow (String × String) UserPassRow.key
  | .realms => Table Realm String Realm.id

def get : (c : Cell) → Database → Value c
  | .adminIds, db => db.admin.keys
  | .adminColumns, db => db.admin
  | .memberships, db => db.adminRealms
  | .credentials, db => db.userpass
  | .realms, db => db.realm

end Cell

namespace Stmt

def reads : Stmt → List Cell
  | .selectAdminIds => [.adminIds]
  | .selectAdmin _ => [.adminColumns]
  | .selectMemberships _ => [.memberships]
  | .insertMembership .. => [.adminIds, .realms]
  | .insertUserpass _ => [.realms]
  | .selectRealm _ => [.realms]
  | .updateAdmin _ | .deleteMemberships _ | .enableTotp .. | .disableTotp _ | .deleteUserpass .. => []

def writes : Stmt → List Cell
  | .updateAdmin _ | .enableTotp .. | .disableTotp _ => [.adminColumns]
  | .deleteMemberships _ | .insertMembership .. => [.memberships]
  | .insertUserpass _ | .deleteUserpass .. => [.credentials]
  | .selectAdminIds | .selectAdmin _ | .selectMemberships _ | .selectRealm _ => []

theorem frame (i : Stmt) (db : Database) (c : Cell) (h : c ∉ i.writes) :
    c.get (i.exec db).1 = c.get db := by
  cases i with
  | insertMembership id realm =>
    simp only [exec]
    cases hins : db.insertAdminRealm id realm with
    | error e => rfl
    | ok db' =>
      obtain ⟨hr, hu, ha, _⟩ := Database.insertAdminRealm_ok hins
      cases c <;> simp_all [attempt, Cell.get, writes]
  | insertUserpass u =>
    simp only [exec]
    cases hins : db.createUserpass u with
    | error e => rfl
    | ok db' =>
      obtain ⟨_, _, hr, ha, hm⟩ := Database.createUserpass_ok hins
      cases c <;> simp_all [attempt, Cell.get, writes]
  | updateAdmin | enableTotp | disableTotp =>
    cases c with
    | adminIds => exact Database.setAdmin_keys _ _ _ _
    | adminColumns => exact absurd List.mem_cons_self h
    | memberships | credentials | realms => rfl
  | deleteMemberships =>
    cases c with
    | memberships => exact absurd List.mem_cons_self h
    | adminIds | adminColumns | credentials | realms => rfl
  | deleteUserpass =>
    cases c with
    | credentials => exact absurd List.mem_cons_self h
    | adminIds | adminColumns | memberships | realms => rfl
  | selectAdminIds | selectAdmin | selectMemberships | selectRealm => rfl

theorem insertMembership_congr {db db' : Database} (id realm : String)
    (hids : db.admin.keys = db'.admin.keys) (hrealms : db.realm = db'.realm)
    (hmemberships : db.adminRealms = db'.adminRealms) :
    ((insertMembership id realm).exec db).1.adminRealms =
        ((insertMembership id realm).exec db').1.adminRealms ∧
      ((insertMembership id realm).exec db).2 = ((insertMembership id realm).exec db').2 := by
  simp only [exec]
  by_cases hdup : (id, realm) ∈ db.adminRealms.keys
  · have hdup' : (id, realm) ∈ db'.adminRealms.keys := hmemberships ▸ hdup
    simp [Database.insertAdminRealm, hdup', attempt, hmemberships]
  · have hdup' : (id, realm) ∉ db'.adminRealms.keys := hmemberships ▸ hdup
    by_cases hfk : id ∈ db.admin.keys ∧ realm ∈ db.realm.keys
    · have hfk' : id ∈ db'.admin.keys ∧ realm ∈ db'.realm.keys := by
        rw [← hids, ← hrealms]
        exact hfk
      simp [Database.insertAdminRealm, hdup', hfk, hfk', attempt, hmemberships]
    · have hfk' : ¬ (id ∈ db'.admin.keys ∧ realm ∈ db'.realm.keys) := by
        rw [← hids, ← hrealms]
        exact hfk
      simp only [Database.insertAdminRealm, dif_neg hdup, dif_neg hdup', dif_neg hfk, dif_neg hfk',
        attempt]
      exact ⟨hmemberships, trivial⟩

theorem insertUserpass_congr {db db' : Database} {u : UserPass} (hrealms : db.realm = db'.realm)
    (hcredentials : db.userpass = db'.userpass) :
    ((insertUserpass u).exec db).1.userpass = ((insertUserpass u).exec db').1.userpass ∧
      ((insertUserpass u).exec db).2 = ((insertUserpass u).exec db').2 := by
  simp only [exec]
  by_cases hdup : (u.realm, u.username) ∈ db.userpass.keys
  · have hdup' : (u.realm, u.username) ∈ db'.userpass.keys := hcredentials ▸ hdup
    simp [Database.createUserpass, hdup', attempt, hcredentials]
  · have hdup' : (u.realm, u.username) ∉ db'.userpass.keys := hcredentials ▸ hdup
    by_cases hfk : u.realm ∈ db.realm.keys
    · have hfk' : u.realm ∈ db'.realm.keys := hrealms ▸ hfk
      simp [Database.createUserpass, hdup', hfk, hfk', attempt, hcredentials]
    · have hfk' : u.realm ∉ db'.realm.keys := hrealms ▸ hfk
      simp only [Database.createUserpass, dif_neg hdup, dif_neg hdup', dif_neg hfk, dif_neg hfk',
        attempt]
      exact ⟨hcredentials, trivial⟩

theorem congr (i : Stmt) (db db' : Database)
    (h : ∀ c : Cell, c ∈ i.reads ∨ c ∈ i.writes → c.get db = c.get db') :
    (∀ c ∈ i.writes, c.get (i.exec db).1 = c.get (i.exec db').1) ∧
      (i.exec db).2 = (i.exec db').2 := by
  have hreads (c : Cell) (hc : c ∈ i.reads) : c.get db = c.get db' := h c (.inl hc)
  have hwrites (c : Cell) (hc : c ∈ i.writes) : c.get db = c.get db' := h c (.inr hc)
  cases i with
  | insertMembership id realm =>
    have hsame := insertMembership_congr id realm
      (hreads .adminIds (by simp [reads])) (hreads .realms (by simp [reads]))
      (hwrites .memberships (by simp [writes]))
    exact ⟨List.forall_mem_singleton.mpr hsame.1, hsame.2⟩
  | insertUserpass u =>
    have hsame := insertUserpass_congr (u := u) (hreads .realms (by simp [reads]))
      (hwrites .credentials (by simp [writes]))
    exact ⟨List.forall_mem_singleton.mpr hsame.1, hsame.2⟩
  | updateAdmin | enableTotp | disableTotp =>
    have hsame : db.admin = db'.admin := hwrites .adminColumns (by simp [writes])
    refine ⟨List.forall_mem_singleton.mpr ?_, rfl⟩
    simp [Cell.get, exec, Database.disableTotp, Database.setAdmin, hsame]
  | deleteMemberships =>
    have hsame : db.adminRealms = db'.adminRealms := hwrites .memberships (by simp [writes])
    refine ⟨List.forall_mem_singleton.mpr ?_, rfl⟩
    simp [Cell.get, exec, Database.clearMemberships, hsame]
  | deleteUserpass =>
    have hsame : db.userpass = db'.userpass := hwrites .credentials (by simp [writes])
    refine ⟨List.forall_mem_singleton.mpr ?_, rfl⟩
    simp [Cell.get, exec, Database.deleteUserpass, Database.deleteUserpassWhere, hsame]
  | selectAdminIds =>
    have hsame : db.admin.keys = db'.admin.keys := hreads .adminIds (by simp [reads])
    have hsorted (rows : List AdminRow) :
        (rows.insertionSort (fun r s => r.id ≤ s.id)).map AdminRow.id =
          (rows.map AdminRow.id).insertionSort (fun a b => a ≤ b) :=
      List.map_insertionSort _ _ _ _ (fun _ _ _ _ => Iff.rfl)
    refine ⟨by simp [writes], ?_⟩
    simp only [exec, hsorted]
    exact congrArg (fun ids => ids.insertionSort (fun a b => a ≤ b)) hsame
  | selectAdmin id =>
    have hsame : db.admin = db'.admin := hreads .adminColumns (by simp [reads])
    exact ⟨by simp [writes], by simp [exec, hsame]⟩
  | selectMemberships id =>
    have hsame : db.adminRealms = db'.adminRealms := hreads .memberships (by simp [reads])
    exact ⟨by simp [writes], by simp [exec, Database.realmsOf, hsame]⟩
  | selectRealm id =>
    have hsame : db.realm = db'.realm := hreads .realms (by simp [reads])
    exact ⟨by simp [writes], by simp [exec, Database.getRealm, hsame]⟩

end Stmt

def adminFootprint : Footprint Stmt.exec Cell where
  Value := Cell.Value
  get := Cell.get
  reads := Stmt.reads
  writes := Stmt.writes
  ext {db db'} h := by
    obtain ⟨realm, userpass, admin, adminRealms, _, _, _⟩ := db
    obtain ⟨realm', userpass', admin', adminRealms', _, _, _⟩ := db'
    obtain rfl : realm = realm' := h .realms
    obtain rfl : userpass = userpass' := h .credentials
    obtain rfl : admin = admin' := h .adminColumns
    obtain rfl : adminRealms = adminRealms' := h .memberships
    rfl
  frame := Stmt.frame
  congr := Stmt.congr

/-- The same `admin` row and the same `admin_realms` rows of an administrator. -/
def SameRecord (id : String) (db db' : Database) : Prop :=
  db.admin.find? id = db'.admin.find? id ∧
    ∀ realm, (⟨id, realm⟩ : AdminRealmRow) ∈ db.adminRealms ↔ ⟨id, realm⟩ ∈ db'.adminRealms

section
variable (X : Externals) (params : ServerParams)

/-- Both requests have left their mark on the record: it is as after the one and then the other. -/
def NoLostUpdate (id : String) (db : Database) (a b : RecordCall) (after : Database) : Prop :=
  SameRecord id after (adminStep X params (adminStep X params db a.toAdminCall) b.toAdminCall) ∨
    SameRecord id after (adminStep X params (adminStep X params db b.toAdminCall) a.toAdminCall)

def together (turns : List Side) (a b : RecordCall) (db : Database) :
    Option (Completed Stmt Database Statements.Response Statements.Response) :=
  interleave Stmt.exec turns (a.statements X) (b.statements X) db

end

/-- Two requests lose no update of a record where all conflicts between their statements go one way:
no statement of the one comes before a statement of the other that writes what it reads or writes, or
reads what it writes. -/
theorem no_lost_update_of_conflictOrdered {X : Externals} (params : ServerParams) {turns : List Side}
    {a b : RecordCall} {db : Database}
    {c : Completed Stmt Database Statements.Response Statements.Response}
    (h : together X turns a b db = some c)
    (hord : ConflictOrdered adminFootprint.Conflicts c.steps) (id : String) :
    NoLostUpdate X params id db a b c.state := by
  rcases serial_of_conflictOrdered adminFootprint.commutes h hord with ⟨mid, ha, hb⟩ | ⟨mid, hb, ha⟩
  · left
    rw [RecordCall.run_statements X params] at ha hb
    have hmid : adminStep X params db a.toAdminCall = mid := congrArg Prod.fst ha
    have hafter : adminStep X params mid b.toAdminCall = c.state := congrArg Prod.fst hb
    rw [hmid, hafter]
    exact ⟨rfl, fun _ => Iff.rfl⟩
  · right
    rw [RecordCall.run_statements X params] at ha hb
    have hmid : adminStep X params db b.toAdminCall = mid := congrArg Prod.fst hb
    have hafter : adminStep X params mid a.toAdminCall = c.state := congrArg Prod.fst ha
    rw [hmid, hafter]
    exact ⟨rfl, fun _ => Iff.rfl⟩

namespace Transparent
open Transition

/-- The administrator of two realms, and one that belongs to none yet. -/
def owner : Admin := { id := "owner", realms := ["acme", "globex"], userpass := some "owner" }
def newcomer : Admin := { id := "ops", realms := [], jwt := some "ops" }

def byRoot (request : AdminRequest) : AdminCall := ⟨moment 0, Database.adminRealmAdmin, request⟩

def acmeRealm : Realm :=
  { id := "acme", authParams := {}, sessionMaxAgeSeconds := 60, sessionMaxStaleAgeSeconds := 60 }

def staffed : Database :=
  run (adminStep externals params) (Database.fresh initialHash)
    [byRoot (.createRealm acmeRealm), byRoot (.createRealm { acmeRealm with id := "globex" }),
      byRoot (.createAdmin owner), byRoot (.createAdmin newcomer)]

def addToAcme : RecordCall := ⟨moment 1, owner, .addAdminToRealm "ops" "acme"⟩
def addToGlobex : RecordCall := ⟨moment 1, owner, .addAdminToRealm "ops" "globex"⟩

def bothRead : List Side :=
  [.left, .left, .right, .right, .left, .left, .left, .right, .right, .right]

theorem bothRead_completes :
    (together externals bothRead addToAcme addToGlobex staffed).isSome = true := by
  decide

/-- Both requests are answered with success, and the administrator is in one realm only. -/
theorem membership_lost : ∃ c, together externals bothRead addToAcme addToGlobex staffed = some c ∧
    c.left = .ok { status := 200, body := .admin { newcomer with realms := ["acme"] } } ∧
    c.right = .ok { status := 200, body := .admin { newcomer with realms := ["globex"] } } ∧
    ¬ NoLostUpdate externals params "ops" staffed addToAcme addToGlobex c.state := by
  refine ⟨_, (Option.some_get bothRead_completes).symm, by decide, by decide, ?_⟩
  have hlost : (⟨"ops", "acme"⟩ : AdminRealmRow) ∉ ((together externals bothRead addToAcme
      addToGlobex staffed).get bothRead_completes).state.adminRealms := by
    decide
  rintro (⟨_, hsame⟩ | ⟨_, hsame⟩)
  · exact hlost ((hsame "acme").mpr (by decide))
  · exact hlost ((hsame "acme").mpr (by decide))

def disableTotp : RecordCall := ⟨moment 1, owner, .totpDisable "acme" "ops"⟩

/-- The second factor is switched off after the columns and before the memberships are written. -/
def inBetween : List Side := [.left, .left, .left, .right, .left, .left]

theorem inBetween_completes :
    (together externals inBetween addToAcme disableTotp staffed).isSome = true := by
  decide

theorem no_lost_update_inBetween : ∃ c,
    together externals inBetween addToAcme disableTotp staffed = some c ∧
      NoLostUpdate externals params "ops" staffed addToAcme disableTotp c.state := by
  have hrun := (Option.some_get inBetween_completes).symm
  exact ⟨_, hrun, no_lost_update_of_conflictOrdered params hrun ⟨.left, by decide⟩ "ops"⟩

end Transparent
end AuthVerifier
