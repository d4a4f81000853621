import AuthVerifier.AdminIdentity
import AuthVerifier.AuthorityClosure
import AuthVerifier.Bootstrap

/-!
How a server can lose its last super admin, and what can bring one back: runs of requests and
restarts.
-/

set_option autoImplicit false

namespace AuthVerifier
open Effects Relational Transition

def Database.HasSuperAdmin (db : Database) : Prop :=
  ∃ a, (⟨a, adminRealm⟩ : AdminRealmRow) ∈ db.adminRealms

inductive Lifecycle where
  | call (c : Call)
  | restart (passwordHash : String)

namespace Lifecycle
variable (X : Externals) (params : ServerParams)

/-- A restart runs `init` on the stored tables; only the key sets were in memory. The schema is set up
(`auto_init_schema`), and no development realm is seeded, which would make another administrator. -/
def step (s : ServerState) : Lifecycle → ServerState
  | .call c => AuthVerifier.step X params s c
  | .restart passwordHash =>
    { s with db := (s.db.init passwordHash).state, jwks := Table.empty }

/-- The restart finds no realm, nor the administrator that start-up makes. -/
def Bootstraps (db : Database) : Lifecycle → Prop
  | .call _ => False
  | .restart _ => db.realm.rows = [] ∧ Database.appRealmAdminUsername ∉ db.admin.keys

end Lifecycle

section
variable {X : Externals} {params : ServerParams} {s : ServerState} {m : Moment} {db : Database}

theorem mem_adminRealms_of_injects {cookie : Option String} {claims : ClientClaims}
    {requester : Admin} {realm : String} (h : Injects X s m cookie claims requester)
    (hrealm : realm ∈ requester.realms) :
    (⟨requester.id, realm⟩ : AdminRealmRow) ∈ s.db.adminRealms := by
  obtain ⟨scheme, value, _, _, hhead⟩ := adminAuth_ok h.2
  have hmem := List.mem_of_mem_head? hhead
  rw [Database.findAdminsByAuthScheme_eq] at hmem
  obtain ⟨row, _, rfl⟩ := List.mem_map.mp hmem
  exact Database.mem_realmsOf.mp hrealm

theorem step_injected (c : Call) :
    (step X params s c).db = s.db ∨ ∃ query cookie req claims requester,
      c.request = .admin query cookie req ∧ Injects X s c.moment cookie claims requester ∧
      Writes X params c.moment requester s.db req (step X params s c).db := by
  rcases step_handleAdmin X params s c with hsame | ⟨query, cookie, req, _, hreq, _⟩
  · exact .inl hsame
  obtain ⟨m, request⟩ := c
  obtain rfl : request = .admin query cookie req := hreq
  simp only [step, handle]
  rcases @withRealm_cases s (adminRealmMiddleware s.db query req)
    (withSession X s m cookie (handleAdminCall X params m req)) with h | h
  · exact .inl (congrArg ServerState.db h)
  · rw [h]
    simp only [withSession]
    split
    · exact .inl rfl
    · rename_i claims hclaims
      simp only [handleAdminCall]
      split
      · exact .inl rfl
      · rename_i requester hrequester
        exact .inr ⟨query, cookie, req, claims, requester, rfl, ⟨hclaims, hrequester⟩,
          handleAdmin_writes m requester s.db req⟩

theorem sameOutside_of_injects {req : AdminRequest} {requester : Admin} {db' : Database}
    (hsuper : adminRealm ∉ requester.realms) (h : Writes X params m requester db req db') :
    db'.HasSuperAdmin ↔ db.HasSuperAdmin := by
  have hsame := writes_sameOutside (S := {r | r ≠ adminRealm}) (by simp)
    (fun r hr (he : r = adminRealm) => hsuper (he ▸ hr)) h
  exact exists_congr fun a => hsame a adminRealm (by simp)

theorem injects_of_lost {c : Call} (hbefore : s.db.HasSuperAdmin)
    (hafter : ¬ (step X params s c).db.HasSuperAdmin) :
    ∃ query cookie req claims requester, c.request = .admin query cookie req ∧
      Injects X s c.moment cookie claims requester ∧ adminRealm ∈ requester.realms := by
  rcases @step_injected X params s c with
    hsame | ⟨query, cookie, req, claims, requester, hreq, hinjects, hwrites⟩
  · exact absurd (hsame ▸ hbefore) hafter
  · refine ⟨query, cookie, req, claims, requester, hreq, hinjects, ?_⟩
    by_contra hsuper
    exact hafter ((sameOutside_of_injects hsuper hwrites).mpr hbefore)

theorem step_of_none (c : Call) (hnone : ¬ s.db.HasSuperAdmin) :
    ¬ (step X params s c).db.HasSuperAdmin := by
  rcases @step_injected X params s c with
    hsame | ⟨_, _, _, _, requester, _, hinjects, hwrites⟩
  · rwa [hsame]
  · have hsuper : adminRealm ∉ requester.realms :=
      fun hmem => hnone ⟨_, mem_adminRealms_of_injects hinjects hmem⟩
    exact mt (sameOutside_of_injects hsuper hwrites).mp hnone

end

namespace Database
variable {db : Database}

theorem Bootstrapped.hasSuperAdmin (h : Bootstrapped db) : db.HasSuperAdmin :=
  ⟨_, ((bootstrapped_admin_iff.mp h.admin).2 _).mpr rfl⟩

theorem hasSuperAdmin_init_iff (hnone : ¬ db.HasSuperAdmin) (passwordHash : String) :
    (db.init passwordHash).state.HasSuperAdmin ↔
      db.realm.rows = [] ∧ appRealmAdminUsername ∉ db.admin.keys := by
  by_cases hempty : db.realm.rows = []
  · by_cases hthere : appRealmAdminUsername ∈ db.admin.keys
    · obtain ⟨db₂, hinit, _, _, hadmin, hmember⟩ := initializeDb_of_empty hempty passwordHash
      have hstart : db.init passwordHash = db₂.createAdmin adminRealmAdmin := by
        rw [init, if_pos (by simp [hempty]), hinit]
      have hthere₂ : adminRealmAdmin.id ∈ db₂.admin.keys := hadmin ▸ hthere
      rw [hstart, createAdmin_of_mem hthere₂]
      refine iff_of_false ?_ (fun h => h.2 hthere)
      rintro ⟨a, ha⟩
      exact hnone ⟨a, hmember ▸ ha⟩
    · have hdone : InitCompletes db passwordHash := (initCompletes_of_empty_iff hempty).mpr hthere
      exact iff_of_true hdone.2.2.hasSuperAdmin ⟨hempty, hthere⟩
  · have hstart : db.init passwordHash = .ok db () := by
      rw [init, if_neg (by simpa using hempty)]
    rw [hstart]
    exact iff_of_false hnone (fun h => hempty h.1)

theorem init_of_hasSuperAdmin (h : db.HasSuperAdmin) (passwordHash : String) :
    db.init passwordHash = .ok db () := by
  obtain ⟨a, ha⟩ := h
  have hrows : db.realm.rows ≠ [] := fun hempty => no_membership hempty _ ha
  rw [init, if_neg (by simpa using hrows)]

end Database

section
variable {X : Externals} {params : ServerParams}

/-- Only a request of a super admin takes away the last super admin, and none comes back in a run
of requests and restarts exactly if none of its restarts finds neither a realm nor the
administrator that start-up makes. -/
theorem super_admins_lost_iff (s : ServerState) :
    (∀ e : Lifecycle, s.db.HasSuperAdmin → ¬ (e.step X params s).db.HasSuperAdmin →
      ∃ m query cookie req claims requester, e = .call ⟨m, .admin query cookie req⟩ ∧
        Injects X s m cookie claims requester ∧ requester.isSuperAdmin = true) ∧
    (¬ s.db.HasSuperAdmin → ∀ es : List Lifecycle,
      (∀ x ∈ trace (Lifecycle.step X params) s es,
        ¬ (Lifecycle.step X params x.1 x.2).db.HasSuperAdmin) ↔
      ∀ x ∈ trace (Lifecycle.step X params) s es, ¬ x.2.Bootstraps x.1.db) := by
  constructor
  · intro e hbefore hafter
    cases e with
    | call c =>
      obtain ⟨m, request⟩ := c
      obtain ⟨query, cookie, req, claims, requester, hreq, hinjects, hsuper⟩ :=
        injects_of_lost hbefore hafter
      obtain rfl : request = .admin query cookie req := hreq
      exact ⟨m, query, cookie, req, claims, requester, rfl, hinjects, isSuperAdmin_iff.mpr hsuper⟩
    | restart passwordHash =>
      refine absurd ?_ hafter
      rw [Lifecycle.step, Database.init_of_hasSuperAdmin hbefore]
      exact hbefore
  · intro hnone es
    refine @trace_forall_iff_of_invariant _ _ (Lifecycle.step X params) s
      (fun s _ => ¬ s.db.HasSuperAdmin)
      (fun s e => ¬ (e.step X params s).db.HasSuperAdmin) (fun s e => ¬ e.Bootstraps s.db)
      ?_ ?_ es hnone
    · intro s e _ hnone
      cases e with
      | call c => exact iff_of_true (step_of_none c hnone) id
      | restart passwordHash =>
        exact not_congr (Database.hasSuperAdmin_init_iff hnone passwordHash)
    · intro s e _ hnone hboots
      cases e with
      | call c => exact step_of_none c hnone
      | restart passwordHash =>
        exact mt (Database.hasSuperAdmin_init_iff hnone passwordHash).mp hboots

end

section Transparent
open AuthVerifier.Transparent

/-- The initial administrator assigns itself to a realm that is not there: the request fails, and
its memberships are gone. -/
def misassign : Call := ⟨moment 1001, .admin "" (some rootCookie)
  (.updateAdmin "admin" { id := "admin", realms := ["nowhere", "_"], userpass := some "admin" })⟩

theorem super_admins_lost_by_failed_request :
    let s := run (step externals params) start [rootLogin, misassign]
    (handle externals params (run (step externals params) start [rootLogin]) misassign).2 =
      .error (.ofDb (.sql .foreignKey)) ∧
    ∀ x ∈ trace (Lifecycle.step externals params) s [.restart "hash", .call rootLogin],
      ¬ (Lifecycle.step externals params x.1 x.2).db.HasSuperAdmin := by
  have hfacts :
      (handle externals params (run (step externals params) start [rootLogin]) misassign).2 =
        .error (.ofDb (.sql .foreignKey)) ∧
      (run (step externals params) start [rootLogin, misassign]).db.adminRealms.rows = [] ∧
      (run (step externals params) start [rootLogin, misassign]).db.realm.rows ≠ [] := by
    decide
  refine ⟨hfacts.1, ((super_admins_lost_iff _).2 ?_ _).mpr ?_⟩
  · rintro ⟨a, ha⟩
    have hmem : (⟨a, adminRealm⟩ : AdminRealmRow) ∈
        (run (step externals params) start [rootLogin, misassign]).db.adminRealms.rows := ha
    rw [hfacts.2.1] at hmem
    cases hmem
  · intro x hx
    simp only [trace, List.mem_cons, List.not_mem_nil, or_false] at hx
    rcases hx with rfl | rfl
    · exact fun h => hfacts.2.2 h.1
    · exact id

end Transparent

end AuthVerifier
