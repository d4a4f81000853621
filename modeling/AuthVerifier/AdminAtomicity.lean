import AuthVerifier.DatabaseFacts

/-!
What a failed `create_admin` or `update_admin` leaves behind. Neither runs in a transaction: the
`admin` row is written first and the memberships follow one `INSERT` at a time, so an error on the
way keeps what came before it. The realms that get in are those listed before the first one that is
unknown or repeated.
-/

set_option autoImplicit false

namespace AuthVerifier.Database
open Effects Relational
variable {db : Database}

/-- The same rows in `admin` and in `admin_realms`. -/
def SameAdmins (db db' : Database) : Prop :=
  (∀ x, x ∈ db'.admin ↔ x ∈ db.admin) ∧ ∀ x, x ∈ db'.adminRealms ↔ x ∈ db.adminRealms

def Atomic (db : Database) (o : Outcome Database AuthDbError Unit) : Prop :=
  ∀ e, o.result = .error e → db.SameAdmins o.state

/-- Distinct realms, all of them in the `realm` table. -/
def RealmList (db : Database) (rs : List String) : Prop :=
  rs.Nodup ∧ ∀ r ∈ rs, r ∈ db.realm.keys

/-- The realms that a loop of `INSERT`s gets through, after those already `seen`. -/
def insertable (known : List String) : (seen rs : List String) → List String
  | _, [] => []
  | seen, r :: rs =>
    if r ∈ seen ∨ r ∉ known then [] else r :: insertable known (r :: seen) rs

theorem mem_keys_adminRealms {id r : String} :
    (id, r) ∈ db.adminRealms.keys ↔ r ∈ db.realmsOf id := by
  rw [mem_realmsOf, Table.mem_keys]
  constructor
  · rintro ⟨x, hx, hkey⟩
    have hxe : x = ⟨id, r⟩ := AdminRealmRow.key_inj hkey
    exact hxe ▸ hx
  · intro h
    exact ⟨_, h, rfl⟩

theorem insertAdminRealm_cases {id r : String} (hid : id ∈ db.admin.keys) :
    (r ∈ db.realmsOf id ∨ r ∉ db.realm.keys) ∧
        (∃ e, db.insertAdminRealm id r = .error e) ∨
      r ∉ db.realmsOf id ∧ r ∈ db.realm.keys ∧
        ∃ db', db.insertAdminRealm id r = .ok db' := by
  by_cases hdup : r ∈ db.realmsOf id
  · have hkey := mem_keys_adminRealms.mpr hdup
    exact .inl ⟨.inl hdup, _, by rw [insertAdminRealm, dif_pos hkey]⟩
  · have hkey := mt mem_keys_adminRealms.mp hdup
    by_cases hr : r ∈ db.realm.keys
    · exact .inr ⟨hdup, hr, _, by rw [insertAdminRealm, dif_neg hkey, dif_pos ⟨hid, hr⟩]⟩
    · exact .inl ⟨.inr hr, _, by rw [insertAdminRealm, dif_neg hkey, dif_neg (fun h => hr h.2)]⟩

theorem insertAdminRealms_exact {id : String} {seen : List String} (rs : List String)
    (hid : id ∈ db.admin.keys) (hseen : ∀ r, r ∈ seen ↔ r ∈ db.realmsOf id) :
    (∀ x, x ∈ (db.insertAdminRealms id rs).state.adminRealms ↔
        x ∈ db.adminRealms ∨ x.adminId = id ∧ x.realmId ∈ insertable db.realm.keys seen rs) ∧
      ((db.insertAdminRealms id rs).result = .ok () ↔
        db.RealmList rs ∧ ∀ r ∈ rs, r ∉ seen) := by
  induction rs generalizing db seen with
  | nil => simp [insertAdminRealms, insertable, RealmList]
  | cons r rs ih =>
    rcases insertAdminRealm_cases (r := r) hid with
      ⟨hbad, e, herror⟩ | ⟨hnew, hknown, db₁, hok⟩
    · have hstop : r ∈ seen ∨ r ∉ db.realm.keys := hbad.imp_left (hseen r).mpr
      simp only [insertAdminRealms, herror, insertable, if_pos hstop]
      refine ⟨by simp, ?_⟩
      simp only [Outcome.error_result, reduceCtorEq, false_iff]
      rintro ⟨hlist, hfresh⟩
      rcases hstop with hin | hout
      · exact hfresh r (by simp) hin
      · exact hout (hlist.2 r (by simp))
    · obtain ⟨hrealm, _, hadmin, hmem⟩ := insertAdminRealm_ok hok
      have hgo : ¬ (r ∈ seen ∨ r ∉ db.realm.keys) := by
        rw [hseen r]
        exact not_or.mpr ⟨hnew, not_not.mpr hknown⟩
      have hseen₁ : ∀ r', r' ∈ r :: seen ↔ r' ∈ db₁.realmsOf id := by
        intro r'
        rw [mem_realmsOf, hmem, ← mem_realmsOf, ← hseen r', List.mem_cons]
        simp [or_comm]
      obtain ⟨hstate, hresult⟩ := ih (hadmin ▸ hid) hseen₁
      simp only [insertAdminRealms, hok, insertable, if_neg hgo]
      rw [hrealm] at hstate
      constructor
      · intro x
        rw [hstate x, hmem x]
        constructor
        · rintro ((hx | rfl) | ⟨hxid, hxr⟩)
          · exact .inl hx
          · exact .inr ⟨rfl, by simp⟩
          · exact .inr ⟨hxid, by simp [hxr]⟩
        · rintro (hx | ⟨hxid, hxr⟩)
          · exact .inl (.inl hx)
          · rcases List.mem_cons.mp hxr with hxr | hxr
            · exact .inl (.inr (by rw [← hxid, ← hxr]))
            · exact .inr ⟨hxid, hxr⟩
      · rw [hresult]
        simp only [RealmList, hrealm, List.nodup_cons, List.mem_cons, forall_eq_or_imp]
        have hfresh : r ∉ seen := fun h => hgo (.inl h)
        constructor
        · rintro ⟨⟨hnd, hall⟩, hout⟩
          exact ⟨⟨⟨fun hin => hout r hin (.inl rfl), hnd⟩, hknown, hall⟩, hfresh,
            fun r' hr' hin => hout r' hr' (.inr hin)⟩
        · rintro ⟨⟨⟨hnot, hnd⟩, _, hall⟩, _, hout⟩
          refine ⟨⟨hnd, hall⟩, ?_⟩
          rintro r' hr' (rfl | hin)
          · exact hnot hr'
          · exact hout r' hr' hin

theorem realmsOf_of_absent {id : String} (h : id ∉ db.admin.keys) (r : String) :
    r ∉ db.realmsOf id := by
  intro hr
  exact h (db.membershipAdmin _ (mem_realmsOf.mp hr))

theorem createAdmin_exact {a : Admin} (hid : a.id ∉ db.admin.keys) :
    (∀ x, x ∈ (db.createAdmin a).state.admin ↔ x ∈ db.admin ∨ x = AdminRow.ofAdmin a) ∧
      (∀ x, x ∈ (db.createAdmin a).state.adminRealms ↔ x ∈ db.adminRealms ∨
        x.adminId = a.id ∧ x.realmId ∈ insertable db.realm.keys [] a.realms) ∧
      ((db.createAdmin a).result = .ok () ↔ db.RealmList a.realms) := by
  have hcreate : db.createAdmin a =
      (db.insertAdmin (AdminRow.ofAdmin a) hid).insertAdminRealms a.id a.realms := dif_neg hid
  have hrow : AdminRow.ofAdmin a ∈ (db.insertAdmin (AdminRow.ofAdmin a) hid).admin :=
    (mem_insertAdmin db).mpr (.inr rfl)
  have hadmin : a.id ∈ (db.insertAdmin (AdminRow.ofAdmin a) hid).admin.keys :=
    Table.key_mem_keys hrow
  have hseen : ∀ r, r ∈ ([] : List String) ↔
      r ∈ (db.insertAdmin (AdminRow.ofAdmin a) hid).realmsOf a.id :=
    fun r => iff_of_false (by simp) (realmsOf_of_absent hid r)
  have hexact := insertAdminRealms_exact a.realms hadmin hseen
  refine ⟨?_, ?_, ?_⟩
  · intro x
    rw [(createAdmin_spec hid).admin]
    exact mem_insertAdmin db
  · rw [hcreate]
    exact hexact.1
  · rw [hcreate, hexact.2]
    exact and_iff_left (by simp)

theorem atomic_createAdmin_iff {a : Admin} :
    db.Atomic (db.createAdmin a) ↔ a.id ∈ db.admin.keys ∨ db.RealmList a.realms := by
  by_cases hid : a.id ∈ db.admin.keys
  · rw [createAdmin_of_mem hid]
    exact iff_of_true (fun _ _ => ⟨fun _ => .rfl, fun _ => .rfl⟩) (.inl hid)
  · obtain ⟨hadmin, _, hok⟩ := createAdmin_exact hid
    constructor
    · intro hatomic
      right
      by_contra hbad
      cases hr : (db.createAdmin a).result with
      | ok u => exact hbad (hok.mp hr)
      | error e =>
        -- The row went in before the statement that failed.
        have hrow := ((hatomic e hr).1 _).mp ((hadmin (AdminRow.ofAdmin a)).mpr (.inr rfl))
        exact hid (Table.key_mem_keys hrow)
    · rintro (hin | hlist) e he
      · exact absurd hin hid
      · rw [hok.mpr hlist] at he
        cases he

theorem sameAdmins_updateAdmin_of_absent {a : Admin} (hid : a.id ∉ db.admin.keys) :
    db.SameAdmins (db.updateAdmin a).state := by
  have hspec := updateAdmin_spec db a
  constructor
  · intro x
    rw [mem_updateAdmin_admin]
    have hother (y : AdminRow) (hy : y ∈ db.admin) :
        (if y.id == a.id then assignAdmin a y else y) = y := by
      have hne : y.id ≠ a.id := fun h => hid (h ▸ Table.key_mem_keys hy)
      simp [hne]
    constructor
    · rintro ⟨y, hy, rfl⟩
      rw [hother y hy]
      exact hy
    · exact fun hx => ⟨x, hx, hother x hx⟩
  · intro x
    by_cases hx : x.adminId = a.id
    · have hkeys : (db.updateAdmin a).state.admin.keys = db.admin.keys := by
        rw [hspec.admin]
        exact setAdmin_keys db _ (assignAdmin a) (fun _ => rfl)
      refine iff_of_false (fun h => hid ?_) (fun h => hid ?_)
      · exact hx ▸ hkeys ▸ (db.updateAdmin a).state.membershipAdmin x h
      · exact hx ▸ db.membershipAdmin x h
    · exact mem_updateAdmin_adminRealms_of_ne hx

theorem updateAdmin_exact {a : Admin} (hid : a.id ∈ db.admin.keys) :
    (∀ r, r ∈ (db.updateAdmin a).state.realmsOf a.id ↔
        r ∈ insertable db.realm.keys [] a.realms) ∧
      ((db.updateAdmin a).result = .ok () ↔ db.RealmList a.realms) := by
  have hcleared : ∀ r, r ∈ ([] : List String) ↔
      r ∈ ((db.setAdmin (fun r => r.id == a.id) (assignAdmin a)
        (fun _ => rfl)).clearMemberships a.id).realmsOf a.id := by
    intro r
    rw [mem_realmsOf, mem_clearMemberships]
    simp
  have hadmin : a.id ∈ ((db.setAdmin (fun r => r.id == a.id) (assignAdmin a)
      (fun _ => rfl)).clearMemberships a.id).admin.keys := by
    rw [clearMemberships_admin, setAdmin_keys db _ (assignAdmin a) (fun _ => rfl)]
    exact hid
  have hexact := insertAdminRealms_exact a.realms hadmin hcleared
  constructor
  · intro r
    rw [mem_realmsOf]
    refine (hexact.1 ⟨a.id, r⟩).trans ?_
    rw [mem_clearMemberships]
    simp only [ne_eq, not_true, and_false, false_or, true_and]
    rfl
  · exact hexact.2.trans (and_iff_left (by simp))

theorem sameAdmins_updateAdmin_iff {a : Admin} (hid : a.id ∈ db.admin.keys) :
    db.SameAdmins (db.updateAdmin a).state ↔
      AdminRow.ofAdmin a ∈ db.admin ∧
        ∀ r, r ∈ insertable db.realm.keys [] a.realms ↔ r ∈ db.realmsOf a.id := by
  obtain ⟨row, hrow, hrowId⟩ := Table.mem_keys.mp hid
  have hassign : assignAdmin a row = AdminRow.ofAdmin a := by
    rw [assignAdmin, hrowId]
    rfl
  have hrealms := (updateAdmin_exact hid).1
  constructor
  · rintro ⟨hadmin, hmember⟩
    constructor
    · refine (hadmin _).mp (mem_updateAdmin_admin.mpr ⟨row, hrow, ?_⟩)
      simp [hrowId, hassign]
    · intro r
      rw [← hrealms r, mem_realmsOf, mem_realmsOf, hmember]
  · rintro ⟨hsame, hmember⟩
    have hrowEq : row = AdminRow.ofAdmin a := Table.eq_of_key hrow hsame hrowId
    constructor
    · intro x
      rw [mem_updateAdmin_admin]
      have hkeep (y : AdminRow) (hy : y ∈ db.admin) :
          (if y.id == a.id then assignAdmin a y else y) = y := by
        by_cases hne : y.id = a.id
        · have hyrow : y = row := Table.eq_of_key hy hrow (hne.trans hrowId.symm)
          simp only [hne, beq_self_eq_true, if_true]
          rw [hyrow, hassign, hrowEq]
        · simp [hne]
      constructor
      · rintro ⟨y, hy, rfl⟩
        rw [hkeep y hy]
        exact hy
      · exact fun hx => ⟨x, hx, hkeep x hx⟩
    · rintro ⟨id, r⟩
      by_cases hx : id = a.id
      · subst hx
        rw [← mem_realmsOf, ← mem_realmsOf, hrealms r]
        exact hmember r
      · exact mem_updateAdmin_adminRealms_of_ne hx

theorem atomic_updateAdmin_iff {a : Admin} :
    db.Atomic (db.updateAdmin a) ↔ a.id ∉ db.admin.keys ∨ db.RealmList a.realms ∨
      AdminRow.ofAdmin a ∈ db.admin ∧
        ∀ r, r ∈ insertable db.realm.keys [] a.realms ↔ r ∈ db.realmsOf a.id := by
  by_cases hid : a.id ∈ db.admin.keys
  · have hok := (updateAdmin_exact hid).2
    rw [← sameAdmins_updateAdmin_iff hid]
    constructor
    · intro hatomic
      cases hr : (db.updateAdmin a).result with
      | ok u => exact .inr (.inl (hok.mp hr))
      | error e => exact .inr (.inr (hatomic e hr))
    · rintro (hout | hlist | hsame) e he
      · exact absurd hid hout
      · rw [hok.mpr hlist] at he
        cases he
      · exact hsame
  · exact iff_of_true (fun _ _ => sameAdmins_updateAdmin_of_absent hid) (.inl hid)

/-- Exactly when a failing write of an administrator leaves no trace. -/
theorem admin_write_atomic_iff (db : Database) (a : Admin) :
    (db.Atomic (db.createAdmin a) ↔ a.id ∈ db.admin.keys ∨ db.RealmList a.realms) ∧
    (db.Atomic (db.updateAdmin a) ↔ a.id ∉ db.admin.keys ∨ db.RealmList a.realms ∨
      AdminRow.ofAdmin a ∈ db.admin ∧
        ∀ r, r ∈ insertable db.realm.keys [] a.realms ↔ r ∈ db.realmsOf a.id) :=
  ⟨atomic_createAdmin_iff, atomic_updateAdmin_iff⟩

/-- Asked to take an unknown realm besides its own, the first administrator loses its membership to
the error, and an administrator refused for a repeated realm is there all the same. -/
theorem failed_writes_leave_traces :
    ¬ Atomic (fresh "hash") ((fresh "hash").updateAdmin
        { adminRealmAdmin with realms := ["nowhere", "_"] }) ∧
      ((fresh "hash").updateAdmin
        { adminRealmAdmin with realms := ["nowhere", "_"] }).state.realmsOf "admin" = [] ∧
      ¬ Atomic (fresh "hash") ((fresh "hash").createAdmin { id := "bob", realms := ["_", "_"] }) := by
  refine ⟨?_, by decide, ?_⟩
  · intro hatomic
    have hsame := (hatomic (.sql .foreignKey) (by decide)).2 ⟨"admin", "_"⟩
    rw [← mem_realmsOf, ← mem_realmsOf] at hsame
    exact absurd hsame (by decide)
  · intro hatomic
    rcases atomic_createAdmin_iff.mp hatomic with hin | hlist
    · exact absurd hin (by decide)
    · exact absurd hlist.1 (by decide)

end AuthVerifier.Database
