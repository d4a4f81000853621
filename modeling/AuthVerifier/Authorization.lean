import AuthVerifier.DatabaseFacts

/-!
The realm-claim rule of `server/endpoints/mod.rs`. A realm is claimed while some administrator
lists it; a super admin who is not a member acts only on unclaimed realms.
-/

set_option autoImplicit false

namespace AuthVerifier
variable {db : Database} {requester : Admin}

def canManageRealm (requester : Admin) (realmId : String) (db : Database) : Bool :=
  if requester.realms.contains realmId then true
  else if !requester.isSuperAdmin then false
  else !(db.listAdmins.any (fun a => a.realms.contains realmId))

def canManageAdminRealms (requester : Admin) (realms : List String) (db : Database) : Bool :=
  if realms.isEmpty then requester.isSuperAdmin
  else realms.all (fun r => canManageRealm requester r db)

def claimedRealms (admins : List Admin) : List String := admins.flatMap Admin.realms

def realmManageableGivenClaims (requester : Admin) (realmId : String) (claimed : List String) :
    Bool :=
  requester.realms.contains realmId || (requester.isSuperAdmin && !claimed.contains realmId)

theorem any_listAdmins_iff {r : String} :
    db.listAdmins.any (fun a => a.realms.contains r) = true ↔ db.Claimed r := by
  rw [Database.claimed_iff]
  simp

theorem isSuperAdmin_iff : requester.isSuperAdmin = true ↔ adminRealm ∈ requester.realms := by
  simp [Admin.isSuperAdmin]

theorem canManageRealm_iff {r : String} :
    canManageRealm requester r db = true ↔
      r ∈ requester.realms ∨ adminRealm ∈ requester.realms ∧ ¬ db.Claimed r := by
  unfold canManageRealm
  by_cases hm : r ∈ requester.realms
  · simp [hm]
  · by_cases hs : adminRealm ∈ requester.realms
    · have hc := @any_listAdmins_iff db r
      simp only [List.contains_eq_mem, hm, decide_false, Bool.false_eq_true, if_false,
        Admin.isSuperAdmin, hs, decide_true, Bool.not_true, Bool.not_eq_true', false_or, true_and]
      simp only [List.contains_eq_mem] at hc
      rw [← hc]
      simp
    · simp [hm, hs, Admin.isSuperAdmin]

theorem canManageAdminRealms_iff {rs : List String} :
    canManageAdminRealms requester rs db = true ↔
      (rs = [] ∧ adminRealm ∈ requester.realms) ∨
        (rs ≠ [] ∧ ∀ r ∈ rs, canManageRealm requester r db = true) := by
  unfold canManageAdminRealms
  cases rs with
  | nil => simp [Admin.isSuperAdmin]
  | cons r rs => simp

theorem mem_realms_of_canManageRealm {r : String} (hs : adminRealm ∉ requester.realms)
    (h : canManageRealm requester r db = true) : r ∈ requester.realms := by
  rcases canManageRealm_iff.mp h with h | ⟨h, _⟩
  · exact h
  · exact absurd h hs

theorem subset_realms_of_canManageAdminRealms {rs : List String}
    (hs : adminRealm ∉ requester.realms) (h : canManageAdminRealms requester rs db = true) :
    rs ≠ [] ∧ ∀ r ∈ rs, r ∈ requester.realms := by
  rcases canManageAdminRealms_iff.mp h with ⟨_, h⟩ | ⟨hne, h⟩
  · exact absurd h hs
  · exact ⟨hne, fun r hr => mem_realms_of_canManageRealm hs (h r hr)⟩

theorem canManageRealm_of_mem {r : String} {rs : List String}
    (h : canManageAdminRealms requester rs db = true) (hr : r ∈ rs) :
    canManageRealm requester r db = true := by
  rcases canManageAdminRealms_iff.mp h with ⟨hnil, _⟩ | ⟨_, h⟩
  · simp [hnil] at hr
  · exact h r hr

theorem realmManageableGivenClaims_eq {r : String} :
    realmManageableGivenClaims requester r (claimedRealms db.listAdmins) =
      canManageRealm requester r db := by
  have hc : r ∈ claimedRealms db.listAdmins ↔ db.Claimed r := by
    rw [Database.claimed_iff, claimedRealms, List.mem_flatMap]
  rw [Bool.eq_iff_iff, canManageRealm_iff, ← hc]
  simp [realmManageableGivenClaims, Admin.isSuperAdmin]

end AuthVerifier
