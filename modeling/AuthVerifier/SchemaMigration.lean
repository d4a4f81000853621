import AuthVerifier.Lib.Ddl
import AuthVerifier.SqlSessions

/-!
The schema that `init` of the three SQL backends leaves of a database of an earlier version,
following `database/impls/*.rs`.
-/

set_option autoImplicit false

namespace AuthVerifier
open Ddl Effects

namespace SchemaMigration

def plain (name : String) : Column := { name := name }

def withDefault (b : SqlBackend) (name : String) : Column :=
  { name := name, textDefault := b != .mysql }

/-- Where PostgreSQL has `IF NOT EXISTS` the others count the columns first. MySQL adds the roles in
three steps, of which the first one adds the column. -/
def ifMissing : SqlBackend → Mode
  | .postgres => .conditional
  | _ => .checked

section
variable (b : SqlBackend)

def realm : Table where
  name := "realm"
  columns := ["id", "auth_params", "cookie_max_age_seconds", "max_stale_age_seconds",
    "certificate_max_age_seconds"].map plain
  additions := [⟨plain "certificate_max_age_seconds", ifMissing b⟩]

def userpass : Table where
  name := "userpass"
  columns := ["realm", "username", "password", "change_password"].map plain ++
    [withDefault b "roles", plain "extra_claims"]
  additions := [⟨withDefault b "roles", ifMissing b⟩, ⟨plain "extra_claims", ifMissing b⟩]

def admin : Table where
  name := "admin"
  columns := ["id", "userpass", "jwt", "fido2", "digital_credentials", "certificate",
    "totp_enabled", "totp_secret", "totp_auth_url"].map plain

def adminRealms : Table where
  name := "admin_realms"
  columns := ["admin_id", "realm_id"].map plain

def appTokens : Table where
  name := "app_tokens"
  columns := [plain "token_hash", plain "entity", withDefault b "policies"] ++
    ["expiry", "renewable", "lease_duration_secs", "created_at"].map plain

def approleRoles : Table where
  name := "approle_roles"
  columns := ["name", "role_id", "secret_id_ttl_secs", "token_ttl_secs", "bind_secret_id"].map plain
    ++ [withDefault b "token_policies"]

def appSecretIds : Table where
  name := "app_secret_ids"
  columns := ["accessor", "secret_id_hash", "role_name", "expiry", "num_uses_remaining"].map plain

/-- On every backend the last two columns are added with `IF NOT EXISTS`, whose error is dropped,
and the last one has a default value. -/
def k8sRoles : Table where
  name := "k8s_roles"
  columns := [plain "name", plain "jwks_url", withDefault b "bound_sa_names",
    withDefault b "bound_sa_namespaces", plain "token_ttl_secs", plain "expected_issuer",
    { name := "bound_audiences", textDefault := true }]
  additions := [⟨plain "expected_issuer", .attempted⟩,
    ⟨{ name := "bound_audiences", textDefault := true }, .attempted⟩]

def credentialTables : List Table := [realm b, userpass b, admin, adminRealms]

def appTables : List Table := [appTokens b, approleRoles b, appSecretIds, k8sRoles b]

def tables : List Table := credentialTables b ++ appTables b

/-- `init`. In between, `initialize_db` makes the first records if there is no realm yet; `seeded`
says that it did not fail, or that there was nothing for it to do. -/
def init (E : Engine) (seeded : Bool) (s : Schema) : Outcome Schema Unit Unit :=
  (migrate E (credentialTables b) s).bind fun s () =>
    if seeded then migrate E (appTables b) s else .error s ()

def starts (E : Engine) (s : Schema) (seeded : List Bool) : Schema :=
  seeded.foldl (fun s seeded => (init b E seeded s).state) s

/-- What is known of the engines. SQLite has no `IF NOT EXISTS` for columns; among the servers that
speak the protocol of MySQL there are those that have it and those that do not. -/
def Serves (E : Engine) : SqlBackend → Prop
  | .sqlite => E.addIfNotExists = false ∧ E.textDefaults = true
  | .postgres => E.addIfNotExists = true ∧ E.textDefaults = true
  | .mysql => True

end

section
variable {b : SqlBackend} {E : Engine}

theorem init_of_seeded (s : Schema) : init b E true s = migrate E (tables b) s :=
  (migrate_append (appTables b)).symm

theorem names_nodup (b : SqlBackend) : ((tables b).map Table.name).Nodup := by
  cases b <;> decide

theorem reaches_init (seeded : Bool) (s : Schema) :
    Reaches E (tables b) s (init b E seeded s).state := by
  intro t ht
  cases seeded with
  | true =>
    rw [init_of_seeded]
    exact migrate_state (names_nodup b) ht
  | false =>
    have hstate : (init b E false s).state = (migrate E (credentialTables b) s).state := by
      unfold init Outcome.bind
      split
      · rfl
      · rfl
    have hnames := names_nodup b
    rw [tables, List.map_append] at hnames
    rw [hstate]
    by_cases hmem : t ∈ credentialTables b
    · exact migrate_state hnames.of_append_left hmem
    · refine .inr (migrate_of_ne fun hname => ?_)
      have happ : t ∈ appTables b := (List.mem_append.mp ht).resolve_left hmem
      exact List.disjoint_of_nodup_append hnames hname (List.mem_map_of_mem happ)

theorem wellFormed {t : Table} (ht : t ∈ tables b) : t.WellFormed := by
  have hall : ∀ t ∈ tables b, (t.additions.map fun a => a.column.name).Nodup ∧
      ∀ a ∈ t.additions, a.column.name ∈ t.columns.map Column.name := by
    cases b <;> decide
  exact ⟨(hall t ht).1, (hall t ht).2⟩

theorem takes_plain (name : String) : E.takes (plain name) = true := by
  simp [Engine.takes, plain]

theorem takes_withDefault (h : Serves E b) (name : String) :
    E.takes (withDefault b name) = true := by
  cases b with
  | mysql => simp [Engine.takes, withDefault]
  | sqlite => simp [Engine.takes, h.2]
  | postgres => simp [Engine.takes, h.2]

theorem adds_ifMissing (h : Serves E b) {c : Column} (hc : E.takes c = true) :
    Addition.Adds E ⟨c, ifMissing b⟩ := by
  cases b with
  | postgres => exact ⟨hc, .inr h.1⟩
  | sqlite => exact ⟨hc, .inl rfl⟩
  | mysql => exact ⟨hc, .inl rfl⟩

theorem upgradable_iff (h : Serves E b) (s : Schema) :
    (∀ t ∈ tables b, t.Upgradable E (s t.name)) ↔ (k8sRoles b).Upgradable E (s "k8s_roles") := by
  have hplain := @takes_plain E
  have hdefault := takes_withDefault h
  have hrealm := (realm b).upgradable_of_adds (E := E) (by simp [realm, hplain])
    (by simp [realm, adds_ifMissing h, hplain])
  have huserpass := (userpass b).upgradable_of_adds (E := E) (by simp [userpass, hplain, hdefault])
    (by simp [userpass, adds_ifMissing h, hplain, hdefault])
  have hadmin := admin.upgradable_of_adds (E := E) (by simp [admin, hplain]) (by simp [admin])
  have hadminRealms := adminRealms.upgradable_of_adds (E := E) (by simp [adminRealms, hplain])
    (by simp [adminRealms])
  have happTokens := (appTokens b).upgradable_of_adds (E := E)
    (by simp [appTokens, hplain, hdefault]) (by simp [appTokens])
  have happroleRoles := (approleRoles b).upgradable_of_adds (E := E)
    (by simp [approleRoles, hplain, hdefault]) (by simp [approleRoles])
  have happSecretIds := appSecretIds.upgradable_of_adds (E := E) (by simp [appSecretIds, hplain])
    (by simp [appSecretIds])
  simp only [tables, credentialTables, appTables, List.cons_append, List.nil_append,
    List.forall_mem_cons, hrealm, huserpass, hadmin, hadminRealms, happTokens, happroleRoles,
    happSecretIds, true_and]
  exact and_iff_left (by simp)

theorem upgradable_k8sRoles_iff (h : Serves E b) (old : Option (List String)) :
    (k8sRoles b).Upgradable E old ↔ E.textDefaults = true ∧ ∀ cols, old = some cols →
      ("expected_issuer" ∈ cols ∧ "bound_audiences" ∈ cols) ∨ E.addIfNotExists = true := by
  have hlast : E.takes { name := "bound_audiences", textDefault := true } = E.textDefaults := by
    simp [Engine.takes]
  have hcolumns : (∀ c ∈ (k8sRoles b).columns, E.takes c = true) ↔ E.textDefaults = true := by
    simp [k8sRoles, takes_plain, takes_withDefault h, hlast]
  rw [Table.Upgradable, hcolumns]
  refine and_congr_right fun htext => ?_
  have hadditions (cols : List String) :
      (∀ a ∈ (k8sRoles b).additions, a.Succeeds E (a.column.name ∈ cols)) ↔
        ("expected_issuer" ∈ cols ∧ "bound_audiences" ∈ cols) ∨ E.addIfNotExists = true := by
    have hfirst : Addition.Succeeds E ⟨plain "expected_issuer", .attempted⟩
        ("expected_issuer" ∈ cols) ↔ "expected_issuer" ∈ cols ∨ E.addIfNotExists = true := by
      simp [Addition.Succeeds, Addition.Adds, takes_plain, or_comm]
    have hsecond : Addition.Succeeds E ⟨{ name := "bound_audiences", textDefault := true },
          .attempted⟩ ("bound_audiences" ∈ cols) ↔
        "bound_audiences" ∈ cols ∨ E.addIfNotExists = true := by
      simp [Addition.Succeeds, Addition.Adds, hlast, htext, or_comm]
    simp only [k8sRoles, List.forall_mem_cons, List.not_mem_nil, false_imp_iff, implies_true,
      and_true]
    exact (and_congr hfirst hsecond).trans and_or_right.symm
  cases old with
  | none =>
    refine iff_of_true ((hadditions _).mpr (.inl ?_)) (fun _ heq => by cases heq)
    simp [Table.created, k8sRoles, plain]
  | some cols =>
    rw [Table.created, Option.getD_some, hadditions]
    exact ⟨fun hcols _ heq => Option.some.inj heq ▸ hcols, fun hall => hall cols rfl⟩

/-- Whatever came of the starts before, a start goes through and leaves a schema that the queries
can run on exactly if its first records can be made, the engine takes the default value of the last
column of the Kubernetes roles, and their table is made by this version, or has its last two
columns, or the engine knows `IF NOT EXISTS` for columns, which SQLite does not. -/
theorem start_up_completes_iff (h : Serves E b) (s : Schema)
    (hprior : ∀ t ∈ tables b, t.Prior (s t.name)) (earlier : List Bool) (seeded : Bool) :
    (init b E seeded (starts b E s earlier)).result = .ok () ∧
        (∀ t ∈ tables b, t.Complete ((init b E seeded (starts b E s earlier)).state t.name)) ↔
      seeded = true ∧ E.textDefaults = true ∧ ∀ cols, s "k8s_roles" = some cols →
        ("expected_issuer" ∈ cols ∧ "bound_audiences" ∈ cols) ∨ E.addIfNotExists = true := by
  rw [← upgradable_k8sRoles_iff h, ← upgradable_iff h]
  induction earlier generalizing s with
  | nil =>
    cases seeded with
    | true =>
      rw [starts, List.foldl_nil, init_of_seeded, eq_self, true_and]
      exact migrate_ok_iff (names_nodup b) (fun t ht => wellFormed ht) hprior
    | false =>
      refine iff_of_false (fun hdone => ?_) (fun hdone => absurd hdone.1 Bool.false_ne_true)
      have hfailed := hdone.1
      unfold init Outcome.bind at hfailed
      split at hfailed
      · cases hfailed
      · cases hfailed
  | cons first earlier ih =>
    have hreaches := reaches_init (b := b) (E := E) first s
    rw [← hreaches.upgradable_iff fun t ht => wellFormed ht]
    exact ih _ (hreaches.prior hprior)

end

def withoutIssuer : Schema := fun name =>
  if name = "k8s_roles" then
    some ["name", "jwks_url", "bound_sa_names", "bound_sa_namespaces", "token_ttl_secs"]
  else none

theorem prior_withoutIssuer (b : SqlBackend) : ∀ t ∈ tables b, t.Prior (withoutIssuer t.name) := by
  have hall : ∀ t ∈ tables b, ∀ c ∈ t.columns, ∀ cols ∈ withoutIssuer t.name,
      c.name ∈ cols ∨ c.name ∈ t.additions.map fun a => a.column.name := by
    cases b <;> decide
  exact fun t ht cols hcols c hc => hall t ht c hc cols hcols

/-- On SQLite no start adds the columns that are missing; on PostgreSQL the first one does whose
records can be made. -/
theorem start_up_completes_iff_withoutIssuer :
    (¬ ∃ earlier seeded, (init .sqlite ⟨false, true⟩ seeded
        (starts .sqlite ⟨false, true⟩ withoutIssuer earlier)).result = .ok () ∧
      ∀ t ∈ tables .sqlite, t.Complete ((init .sqlite ⟨false, true⟩ seeded
        (starts .sqlite ⟨false, true⟩ withoutIssuer earlier)).state t.name)) ∧
    (init .postgres ⟨true, true⟩ true
        (starts .postgres ⟨true, true⟩ withoutIssuer [false])).result = .ok () := by
  have hsqlite : Serves ⟨false, true⟩ .sqlite := ⟨rfl, rfl⟩
  have hpostgres : Serves ⟨true, true⟩ .postgres := ⟨rfl, rfl⟩
  constructor
  · rintro ⟨earlier, seeded, hdone⟩
    have hcols := ((start_up_completes_iff hsqlite withoutIssuer (prior_withoutIssuer .sqlite)
      earlier seeded).mp hdone).2.2 _ rfl
    exact absurd hcols (by decide)
  · exact ((start_up_completes_iff hpostgres withoutIssuer (prior_withoutIssuer .postgres) [false]
      true).mpr ⟨rfl, rfl, fun _ _ => .inr rfl⟩).1

end SchemaMigration
end AuthVerifier
