import AuthVerifier.AdminApi
import AuthVerifier.Lib.Run
import AuthVerifier.Transparent
import Mathlib.Data.Set.Basic

/-!
Authority is closed: requesters whose realms lie in a set without the admin realm never change a
membership outside that set, over any sequence of requests.
-/

set_option autoImplicit false

namespace AuthVerifier
open Effects Relational
variable {X : Externals} {params : ServerParams} {m : Moment} {requester : Admin}
variable {db db' : Database} {S : Set String}

/-- The memberships of realms outside `S` are the same in both states. -/
def SameOutside (S : Set String) (db db' : Database) : Prop :=
  ∀ a r, r ∉ S → ((⟨a, r⟩ : AdminRealmRow) ∈ db'.adminRealms ↔ ⟨a, r⟩ ∈ db.adminRealms)

theorem SameOutside.refl (db : Database) : SameOutside S db db := fun _ _ _ => Iff.rfl

theorem SameOutside.trans {db₁ db₂ db₃ : Database} (h : SameOutside S db₁ db₂)
    (h' : SameOutside S db₂ db₃) : SameOutside S db₁ db₃ :=
  fun a r hr => (h' a r hr).trans (h a r hr)

theorem SameOutside.of_adminRealms (h : db'.adminRealms = db.adminRealms) :
    SameOutside S db db' := by
  intro a r _
  rw [h]

theorem createAdmin_sameOutside {a : Admin} (ha : ∀ r ∈ a.realms, r ∈ S) :
    SameOutside S db (db.createAdmin a).state := by
  by_cases hk : a.id ∈ db.admin.keys
  · rw [Database.createAdmin_of_mem hk]
    exact .refl db
  · have hs := Database.createAdmin_spec hk
    intro id r hr
    constructor
    · intro h
      rcases hs.added _ h with h | ⟨_, h⟩
      · exact h
      · exact absurd (ha r h) hr
    · intro h
      exact hs.kept _ h

/-- `update_admin` replaces the memberships of one administrator: when the old and the new ones
lie in `S`, nothing outside changes. -/
theorem updateAdmin_sameOutside {a : Admin} (hold : ∀ r ∈ db.realmsOf a.id, r ∈ S)
    (hnew : ∀ r ∈ a.realms, r ∈ S) : SameOutside S db (db.updateAdmin a).state := by
  intro id r hr
  by_cases hid : id = a.id
  · subst hid
    have hs := Database.updateAdmin_spec db a
    have hbefore : (⟨a.id, r⟩ : AdminRealmRow) ∉ db.adminRealms :=
      fun h => hr (hold r (Database.mem_realmsOf.mpr h))
    have hafter : (⟨a.id, r⟩ : AdminRealmRow) ∉ (db.updateAdmin a).state.adminRealms := by
      intro h
      rcases hs.added _ h with h | ⟨_, h⟩
      · exact ((Database.mem_clearMemberships _).mp h).2 rfl
      · exact hr (hnew r h)
    exact ⟨fun h => absurd h hafter, fun h => absurd h hbefore⟩
  · exact Database.mem_updateAdmin_adminRealms_of_ne hid

theorem deleteAdmin_sameOutside {id : String} (hold : ∀ r ∈ db.realmsOf id, r ∈ S) :
    SameOutside S db (db.deleteAdmin id) := by
  intro a r hr
  rw [Database.mem_deleteAdmin_adminRealms]
  constructor
  · exact fun h => h.1
  · intro h
    refine ⟨h, fun ha => hr (hold r (Database.mem_realmsOf.mpr ?_))⟩
    rw [← ha]
    exact h

theorem deleteRealm_sameOutside {id : String} (h : id ∈ S) :
    SameOutside S db (db.deleteRealm id) := by
  intro a r hr
  rw [Database.mem_deleteRealm_adminRealms]
  constructor
  · exact fun h => h.1
  · exact fun hm => ⟨hm, fun (he : r = id) => hr (he ▸ h)⟩

theorem enableTotp_adminRealms {user secret issuer : String}
    (h : db.enableTotp X user secret issuer = .ok db') : db'.adminRealms = db.adminRealms := by
  unfold Database.enableTotp at h
  split at h
  · cases h
  · cases h
    rfl

theorem writes_sameOutside {req : AdminRequest} (hS : adminRealm ∉ S)
    (hreq : ∀ r ∈ requester.realms, r ∈ S) (h : Writes X params m requester db req db') :
    SameOutside S db db' := by
  have hsuper : adminRealm ∉ requester.realms := fun hm => hS (hreq _ hm)
  have hrealm {r : String} (hc : canManageRealm requester r db = true) : r ∈ S :=
    hreq r (mem_realms_of_canManageRealm hsuper hc)
  have hrealms {rs : List String} (hc : canManageAdminRealms requester rs db = true) :
      ∀ r ∈ rs, r ∈ S :=
    fun r hr => hreq r ((subset_realms_of_canManageAdminRealms hsuper hc).2 r hr)
  cases h with
  | nothing => exact .refl db
  | createAdmin body h => exact createAdmin_sameOutside (hrealms h)
  | updateAdmin id body target ht h hb =>
    exact updateAdmin_sameOutside (Database.getAdmin_realms ht ▸ hrealms h) (hrealms hb)
  | deleteAdmin id target ht h hu =>
    exact deleteAdmin_sameOutside (Database.getAdmin_realms ht ▸ hrealms h)
  | deleteAdminCascade id u target ht h hu =>
    have hd := @deleteAdmin_sameOutside db S id (Database.getAdmin_realms ht ▸ hrealms h)
    exact hd.trans (.of_adminRealms rfl)
  | addAdminToRealm id realm target hr ht h hn =>
    have hold : ∀ r ∈ target.realms, r ∈ S := by
      rcases h with h | h
      · simp [h]
      · exact hrealms h
    refine updateAdmin_sameOutside ?_ ?_
    · rw [Database.getAdmin_id ht, ← Database.getAdmin_realms ht]
      exact hold
    · intro r hmem
      rcases List.mem_append.mp hmem with hmem | hmem
      · exact hold r hmem
      · rw [List.mem_singleton.mp hmem]
        exact hrealm hr
  | removeAdminFromRealm id realm target hr ht h =>
    refine updateAdmin_sameOutside ?_ ?_
    · rw [Database.getAdmin_id ht, ← Database.getAdmin_realms ht]
      exact hrealms h
    · intro r hmem
      exact hrealms h r (List.mem_of_mem_filter hmem)
  | createRealm body realm _ h hc hd =>
    exact .of_adminRealms (Database.createRealm_ok hd).2.2.2.2
  | updateRealm id body realm h hc => exact .of_adminRealms rfl
  | deleteRealm id h =>
    refine deleteRealm_sameOutside (hreq id ?_)
    simpa [Admin.canAdministerRealm, hsuper] using h
  | createUserpass realm hash body db₁ h hp hd =>
    have hne : realm ≠ adminRealm := fun he => hS (he ▸ hrealm h)
    rw [Endpoints.autoLink_of_ne hne]
    exact .of_adminRealms (Database.createUserpass_ok hd).2.2.2.2
  | updateUserpass realm user hash body h => exact .of_adminRealms rfl
  | updateUserpassMetadata realm user body h => exact .of_adminRealms rfl
  | deleteUserpass realm user h =>
    have hne : realm ≠ adminRealm := fun he => hS (he ▸ hrealm h)
    rw [Endpoints.autoUnlink_of_ne hne]
    exact .of_adminRealms rfl
  | totpVerify realm body _ h ha hd => exact .of_adminRealms (enableTotp_adminRealms hd)
  | totpDisable realm user h => exact .of_adminRealms rfl

theorem run_sameOutside (hS : adminRealm ∉ S) (calls : List AdminCall)
    (h : ∀ c ∈ calls, ∀ r ∈ c.requester.realms, r ∈ S) (db : Database) :
    SameOutside S db (Transition.run (adminStep X params) db calls) := by
  induction calls generalizing db with
  | nil => exact .refl db
  | cons c calls ih =>
    have hstep : SameOutside S db (adminStep X params db c) :=
      writes_sameOutside hS (h c (by simp)) (handleAdmin_writes c.moment c.requester db c.request)
    exact hstep.trans (ih (fun c' hc' => h c' (by simp [hc'])) _)

/-- No sequence of requests by requesters confined to `S` changes a membership outside `S` or
deletes an administrator that has one. -/
theorem authority_closed (S : Set String) (hS : adminRealm ∉ S) (db : Database)
    (calls : List AdminCall) (h : ∀ c ∈ calls, ∀ r ∈ c.requester.realms, r ∈ S) :
    let db' := Transition.run (adminStep X params) db calls
    (∀ a r, r ∉ S → ((⟨a, r⟩ : AdminRealmRow) ∈ db'.adminRealms ↔ ⟨a, r⟩ ∈ db.adminRealms)) ∧
      (∀ a r, r ∉ S → (⟨a, r⟩ : AdminRealmRow) ∈ db.adminRealms → a ∈ db'.admin.keys) := by
  have hsame := @run_sameOutside X params S hS calls h db
  refine ⟨hsame, ?_⟩
  intro a r hr hm
  exact (Transition.run (adminStep X params) db calls).membershipAdmin _ ((hsame a r hr).mpr hm)

/-- A realm admin that adds itself to the admin realm and then deletes the super admin. -/
def intruderCalls : List AdminCall :=
  let intruder : Admin := { id := "mallory", realms := ["acme"] }
  [⟨Transparent.moment 0, intruder, .addAdminToRealm "mallory" adminRealm⟩,
   ⟨Transparent.moment 1, intruder, .deleteAdmin "admin"⟩]

theorem authority_closed_intruder :
    let db' := Transition.run (adminStep Transparent.externals Transparent.params)
      (Database.fresh "hash") intruderCalls
    adminRealm ∉ ({"acme"} : Set String) ∧
      ((⟨"mallory", adminRealm⟩ : AdminRealmRow) ∈ db'.adminRealms ↔
        ⟨"mallory", adminRealm⟩ ∈ (Database.fresh "hash").adminRealms) ∧
      "admin" ∈ db'.admin.keys := by
  have hS : adminRealm ∉ ({"acme"} : Set String) := by decide
  have hc : ∀ c ∈ intruderCalls, ∀ r ∈ c.requester.realms, r ∈ ({"acme"} : Set String) := by
    simp [intruderCalls]
  have h := @authority_closed Transparent.externals Transparent.params {"acme"} hS
    (Database.fresh "hash") intruderCalls hc
  exact ⟨hS, h.1 _ _ hS, h.2 "admin" adminRealm hS (by decide)⟩

end AuthVerifier
