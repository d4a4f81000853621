import AuthVerifier.SamlEndpoints
import AuthVerifier.Transparent
import Mathlib.Data.Rat.Floor

/-!
Single use of SAML login requests over every interleaving of logins, posts to the assertion consumer
and purges. A request is at one place at a time: with the login that makes it, in the store, with the
post that took it, or spent on a session. No step puts it at a second place, and what a session is
issued with is what the login left in the store.
-/

set_option autoImplicit false

namespace AuthVerifier
open Concurrent Expiring Relational Transition

/-- `valid` is an invariant of the store, `holds` what can still be taken, and `separates` the realm
ids that no other realm's posts are mistaken for. -/
structure RequestShelf {σ τ : Type} (S : SamlRequestStore σ τ) where
  valid : σ → Prop
  holds : σ → PendingSamlRequest → Prop
  separates : String → Prop
  valid_insert : ∀ {s s' t ttl r}, S.insertPending s t ttl r = .ok s' → valid s → valid s'
  valid_take : ∀ {s t now id realm}, valid s → valid (S.takePending s t now id realm).1
  valid_insertSeen : ∀ {s t ttl r a e}, valid s → valid (S.insertSeen s t ttl r a e).1
  valid_purgePending : ∀ {s now}, valid s → valid (S.purgePending s now)
  valid_purgeSeen : ∀ {s now}, valid s → valid (S.purgeSeen s now)
  holds_insert : ∀ {s s' t ttl r q}, S.insertPending s t ttl r = .ok s' → holds s' q →
    holds s q ∨ q = r
  holds_of_taken : ∀ {s t now id realm q}, valid s →
    (S.takePending s t now id realm).2 = some q → holds s q
  not_holds_taken : ∀ {s t now id realm q}, valid s →
    (S.takePending s t now id realm).2 = some q → ¬ holds (S.takePending s t now id realm).1 q
  holds_take : ∀ {s t now id realm q}, holds (S.takePending s t now id realm).1 q → holds s q
  realm_of_taken : ∀ {s t now id realm q}, valid s →
    (S.takePending s t now id realm).2 = some q → separates q.realmId → separates realm →
    q.realmId = realm
  /-- A post does not consume the request of another realm. -/
  kept_take : ∀ {s t now id realm q}, valid s → holds s q → separates q.realmId → separates realm →
    q.realmId ≠ realm → holds (S.takePending s t now id realm).1 q
  holds_insertSeen : ∀ {s t ttl r a e q}, holds (S.insertSeen s t ttl r a e).1 q ↔ holds s q
  holds_purgePending : ∀ {s now q}, holds (S.purgePending s now) q → holds s q
  holds_purgeSeen : ∀ {s now q}, holds (S.purgeSeen s now) q → holds s q

section
variable {τ : Type}

def sqlRequestShelf (b : SqlBackend) (sha256 : String → List UInt8) :
    RequestShelf (sqlSamlRequestStore τ b sha256) where
  valid _ := True
  holds s q := q ∈ s.pending
  separates realmId := b.text realmId = realmId
  valid_insert _ _ := trivial
  valid_take _ := trivial
  valid_insertSeen _ := trivial
  valid_purgePending _ := trivial
  valid_purgeSeen _ := trivial
  holds_insert h hq := (SqlSaml.mem_insertPending h).2.2.mp hq
  holds_of_taken _ h := (SqlSaml.takePending_eq_some_iff.mp h).1
  not_holds_taken := by
    intro s t now id realm q _ h hq
    have hselected := (SqlSaml.takePending_eq_some_iff.mp h).2
    have hkept := (SqlSaml.mem_takePending.mp hq).2
    rw [hselected] at hkept
    cases hkept
  holds_take h := (SqlSaml.mem_takePending.mp h).1
  realm_of_taken := by
    intro s t now id realm q _ h hq hrealm
    have hsame := (SqlSaml.selects_iff.mp (SqlSaml.takePending_eq_some_iff.mp h).2).2.1
    rwa [hq, hrealm] at hsame
  kept_take := by
    intro s t now id realm q _ hheld hq hrealm hne
    refine SqlSaml.mem_takePending.mpr ⟨hheld, ?_⟩
    rw [← Bool.not_eq_true, SqlSaml.selects_iff, hq, hrealm]
    exact fun h => hne h.2.1
  holds_insertSeen := by
    intro s t ttl r a e q
    dsimp only [sqlSamlRequestStore]
    rw [SqlSaml.insertSeen_pending]
  holds_purgePending h := (Table.mem_deleteWhere.mp h).1
  holds_purgeSeen h := h

variable [Ring τ] [LinearOrder τ]

def redisRequestShelf : RequestShelf (redisSamlRequestStore τ) where
  valid s := ∀ e ∈ s.pending, e.key = RedisSaml.pendingKey e.value.realmId e.value.requestId
  holds s q := ∃ e ∈ s.pending, e.value = q
  separates realmId := ':' ∉ realmId.toList
  valid_insert := by
    intro s s' t ttl r h hvalid e he
    cases h
    rcases Keyspace.mem_set.mp he with ⟨he, _⟩ | rfl
    · exact hvalid e he
    · rfl
  valid_take hvalid e he := hvalid e (Keyspace.mem_del.mp he).1
  valid_insertSeen hvalid := hvalid
  valid_purgePending hvalid := hvalid
  valid_purgeSeen hvalid := hvalid
  holds_insert := by
    rintro s s' t ttl r q h ⟨e, he, rfl⟩
    cases h
    rcases Keyspace.mem_set.mp he with ⟨he, _⟩ | rfl
    · exact .inl ⟨e, he, rfl⟩
    · exact .inr rfl
  holds_of_taken := by
    intro s t now id realm q _ h
    obtain ⟨e, he, _, hvalue⟩ := Keyspace.mem_of_get h
    exact ⟨e, he, hvalue⟩
  not_holds_taken := by
    rintro s t now id realm q hvalid h ⟨e, he, rfl⟩
    obtain ⟨e', he', hkey', hvalue⟩ := Keyspace.mem_of_get h
    obtain ⟨he, hne⟩ := Keyspace.mem_del.mp he
    rw [hvalid e he, ← hvalue, ← hvalid e' he'] at hne
    exact hne hkey'
  holds_take := by
    rintro s t now id realm q ⟨e, he, rfl⟩
    exact ⟨e, (Keyspace.mem_del.mp he).1, rfl⟩
  realm_of_taken := by
    intro s t now id realm q hvalid h hq hrealm
    obtain ⟨e, he, hkey, rfl⟩ := Keyspace.mem_of_get h
    rw [hvalid e he] at hkey
    exact (RedisSaml.pendingKey_inj hkey hq hrealm).1
  kept_take := by
    rintro s t now id realm q hvalid ⟨e, he, rfl⟩ hq hrealm hne
    refine ⟨e, Keyspace.mem_del.mpr ⟨he, ?_⟩, rfl⟩
    rw [hvalid e he]
    exact fun hkey => hne (RedisSaml.pendingKey_inj hkey hq hrealm).1
  holds_insertSeen := Iff.rfl
  holds_purgePending h := h
  holds_purgeSeen h := h

end

namespace SamlBackend
variable {τ : Type} [Ring τ] [LinearOrder τ]

def shelf (sha256 : String → List UInt8) : (k : SamlBackend) → RequestShelf (k.store τ sha256)
  | .sql b => sqlRequestShelf b sha256
  | .redis => redisRequestShelf

/-- The realm ids that a store does not mistake for others: without a colon on Redis, without a space
at the end on MySQL, and all of them on SQLite and PostgreSQL. -/
def separates : SamlBackend → String → Prop
  | .sql b, realmId => b.text realmId = realmId
  | .redis, realmId => ':' ∉ realmId.toList

theorem shelf_separates (k : SamlBackend) (sha256 : String → List UInt8) :
    (k.shelf sha256 : RequestShelf (k.store τ sha256)).separates = k.separates := by
  cases k with
  | sql b => rfl
  | redis => rfl

theorem checked_lt {k : SamlBackend} {sha256 : String → List UInt8} {s : k.State τ} {t : τ}
    {before after : Int} {id realm : String} {q : PendingSamlRequest}
    (h : ((k.store τ sha256).takePending s t before id realm).2 = some q)
    (hvalid : (k.store τ sha256).stillValid after q = true) :
    k.checkedAt before after < q.expiresAt := by
  cases k with
  | sql b => exact (SqlSaml.selects_iff.mp (SqlSaml.takePending_eq_some_iff.mp h).2).2.2
  | redis => exact of_decide_eq_true hvalid

end SamlBackend

namespace Sso

def Phase.loggingIn {τ : Type} : Phase τ → Option (String × String × String)
  | .starting _ realmId returnUrl requestId => some (requestId, realmId, returnUrl)
  | .composed _ r => some (r.requestId, r.realmId, r.returnUrl)
  | .storing _ r _ => some (r.requestId, r.realmId, r.returnUrl)
  | _ => none

def Phase.carried {τ : Type} : Phase τ → Option PendingSamlRequest
  | .acs _ (.taken _ r) => r
  | .acs _ (.validating r _ _ _) => some r
  | .acs _ (.issuing r _ _) => some r
  | _ => none

def issuedIds (log : List Event) : List String :=
  log.filterMap fun
    | .issued _ r _ _ _ => some r.requestId
    | .begun _ _ _ => none

inductive Place where
  | login (pid : Nat)
  | store
  | post (pid : Nat)
  | session

section
variable {τ : Type} [Ring τ] [LinearOrder τ] {k : SamlBackend} {sha256 : String → List UInt8}

def At (w : World (k.State τ) τ) (A : RequestShelf (k.store τ sha256)) (id : String) : Place → Prop
  | .login pid => ∃ phase, ⟨pid, phase⟩ ∈ w.calls ∧
      ∃ realmId returnUrl, phase.loggingIn = some (id, realmId, returnUrl)
  | .store => ∃ q, A.holds w.store q ∧ q.requestId = id
  | .post pid => ∃ phase, ⟨pid, phase⟩ ∈ w.calls ∧ ∃ q, phase.carried = some q ∧ q.requestId = id
  | .session => id ∈ issuedIds w.log

def Begun (log : List Event) (r : PendingSamlRequest) : Prop :=
  .begun r.requestId r.realmId r.returnUrl ∈ log

/-- A call is for a realm that is told apart, and what it carries is of that realm and in time. -/
def CallOk (A : RequestShelf (k.store τ sha256)) (log : List Event) : Phase τ → Prop
  | .starting _ realmId returnUrl requestId =>
    A.separates realmId ∧ .begun requestId realmId returnUrl ∈ log
  | .composed _ r => A.separates r.realmId ∧ Begun log r
  | .storing _ r _ => A.separates r.realmId ∧ Begun log r
  | .purging _ => True
  | .acs post phase => post.cookie = some post.form.relayState ∧ A.separates post.realm.id ∧
    match phase with
    | .taken now (some r) => r.realmId = post.realm.id ∧ Begun log r ∧
        ∀ after, (k.store τ sha256).stillValid after r = true → k.checkedAt now after < r.expiresAt
    | .validating r checked _ _ => r.realmId = post.realm.id ∧ Begun log r ∧ checked < r.expiresAt
    | .issuing r checked _ => r.realmId = post.realm.id ∧ Begun log r ∧ checked < r.expiresAt
    | _ => True

def EventOk (log : List Event) : Event → Prop
  | .begun _ _ _ => True
  | .issued post r checked _ redirect => r.realmId = post.realm.id ∧ Begun log r ∧
      post.cookie = some post.form.relayState ∧ checked < r.expiresAt ∧ redirect = r.returnUrl

structure Custody (A : RequestShelf (k.store τ sha256)) (w : World (k.State τ) τ) : Prop where
  valid : A.valid w.store
  calls : ∀ c ∈ w.calls, CallOk A w.log c.phase
  held : ∀ q, A.holds w.store q → A.separates q.realmId ∧ Begun w.log q
  events : ∀ e ∈ w.log, EventOk w.log e
  single : ∀ q q', A.holds w.store q → A.holds w.store q' → q.requestId = q'.requestId → q = q'
  one : ∀ id p p', At w A id p → At w A id p' → p = p'
  once : (issuedIds w.log).Nodup

variable {A : RequestShelf (k.store τ sha256)} {w w' : World (k.State τ) τ}

omit [Ring τ] [LinearOrder τ] in
theorem Begun.mono {log log' : List Event} (hlog : ∀ e ∈ log, e ∈ log') {r : PendingSamlRequest}
    (h : Begun log r) : Begun log' r := hlog _ h

theorem CallOk.mono {log log' : List Event} (hlog : ∀ e ∈ log, e ∈ log') {phase : Phase τ}
    (h : CallOk A log phase) : CallOk A log' phase := by
  cases phase with
  | starting params realmId returnUrl requestId => exact ⟨h.1, hlog _ h.2⟩
  | composed params r => exact ⟨h.1, hlog _ h.2⟩
  | storing params r ttl => exact ⟨h.1, hlog _ h.2⟩
  | purging phase => trivial
  | acs post phase =>
    refine ⟨h.1, h.2.1, ?_⟩
    have hrest := h.2.2
    cases phase with
    | reading => trivial
    | taking now => trivial
    | taken now r =>
      cases r with
      | none => trivial
      | some r => exact ⟨hrest.1, hlog _ hrest.2.1, hrest.2.2⟩
    | validating r checked v phase => exact ⟨hrest.1, hlog _ hrest.2.1, hrest.2.2⟩
    | issuing r checked identity => exact ⟨hrest.1, hlog _ hrest.2.1, hrest.2.2⟩

omit [Ring τ] [LinearOrder τ] in
theorem EventOk.mono {log log' : List Event} (hlog : ∀ e ∈ log, e ∈ log') {e : Event}
    (h : EventOk log e) : EventOk log' e := by
  cases e with
  | begun requestId realmId returnUrl => trivial
  | issued post r checked created redirect => exact ⟨h.1, hlog _ h.2.1, h.2.2⟩

theorem CallOk.login {log : List Event} {phase : Phase τ} {id realmId returnUrl : String}
    (h : CallOk A log phase) (hl : phase.loggingIn = some (id, realmId, returnUrl)) :
    .begun id realmId returnUrl ∈ log := by
  cases phase with
  | starting params realmId returnUrl requestId =>
    cases hl
    exact h.2
  | composed params r =>
    cases hl
    exact h.2
  | storing params r ttl =>
    cases hl
    exact h.2
  | acs post phase => cases hl
  | purging phase => cases hl

theorem CallOk.post {log : List Event} {phase : Phase τ} {q : PendingSamlRequest}
    (h : CallOk A log phase) (hc : phase.carried = some q) : Begun log q := by
  cases phase with
  | starting params realmId returnUrl requestId => cases hc
  | composed params r => cases hc
  | storing params r ttl => cases hc
  | purging phase => cases hc
  | acs post phase =>
    have hrest := h.2.2
    cases phase with
    | reading => cases hc
    | taking now => cases hc
    | taken now r =>
      cases hc
      exact hrest.2.1
    | validating r checked v phase =>
      cases hc
      exact hrest.2.1
    | issuing r checked identity =>
      cases hc
      exact hrest.2.1

omit [Ring τ] [LinearOrder τ] in
theorem mem_issuedIds {log : List Event} {id : String} : id ∈ issuedIds log ↔
    ∃ post r checked created redirect, .issued post r checked created redirect ∈ log ∧
      r.requestId = id := by
  simp only [issuedIds, List.mem_filterMap]
  constructor
  · rintro ⟨e, he, hid⟩
    cases e with
    | begun requestId realmId returnUrl => cases hid
    | issued post r checked created redirect =>
      cases hid
      exact ⟨post, r, checked, created, redirect, he, rfl⟩
  · rintro ⟨post, r, checked, created, redirect, he, rfl⟩
    exact ⟨_, he, rfl⟩

theorem at_session_of_log {id : String} (hlog : w'.log = w.log) (h : At w' A id .session) :
    At w A id .session := by
  have hspent : id ∈ issuedIds w'.log := h
  rw [hlog] at hspent
  exact hspent

theorem one_of_move (h : ∀ id p p', At w A id p → At w A id p' → p = p') (id₀ : String) (p₁ : Place)
    (hat : ∀ id p, At w' A id p → At w A id p ∨ (id = id₀ ∧ p = p₁))
    (hleft : ∀ p, At w A id₀ p → At w' A id₀ p → p = p₁) :
    ∀ id p p', At w' A id p → At w' A id p' → p = p' := by
  intro id p p' hp hp'
  rcases hat id p hp with hold | ⟨rfl, rfl⟩
  · rcases hat id p' hp' with hold' | ⟨rfl, rfl⟩
    · exact h id p p' hold hold'
    · exact hleft p hold hp
  · rcases hat id p' hp' with hold' | ⟨_, rfl⟩
    · exact (hleft p' hold' hp').symm
    · rfl

namespace Custody

theorem of_less (h : Custody A w) (hlog : w'.log = w.log) (hvalid : A.valid w'.store)
    (hheld : ∀ q, A.holds w'.store q → A.holds w.store q)
    (hcalls : ∀ c ∈ w'.calls, CallOk A w.log c.phase)
    (hlogin : ∀ pid phase, ⟨pid, phase⟩ ∈ w'.calls → ∀ x, phase.loggingIn = some x →
      ∃ before, ⟨pid, before⟩ ∈ w.calls ∧ before.loggingIn = some x)
    (hpost : ∀ pid phase, ⟨pid, phase⟩ ∈ w'.calls → ∀ q, phase.carried = some q →
      ∃ before, ⟨pid, before⟩ ∈ w.calls ∧ before.carried = some q) : Custody A w' := by
  have hat (id : String) (p : Place) (hp : At w' A id p) : At w A id p := by
    cases p with
    | login pid =>
      obtain ⟨phase, hc, realmId, returnUrl, hl⟩ := hp
      obtain ⟨before, hb, hl'⟩ := hlogin pid phase hc _ hl
      exact ⟨before, hb, realmId, returnUrl, hl'⟩
    | store =>
      obtain ⟨q, hq, hid⟩ := hp
      exact ⟨q, hheld q hq, hid⟩
    | post pid =>
      obtain ⟨phase, hc, q, hl, hid⟩ := hp
      obtain ⟨before, hb, hl'⟩ := hpost pid phase hc q hl
      exact ⟨before, hb, q, hl', hid⟩
    | session => exact at_session_of_log hlog hp
  refine ⟨hvalid, ?_, ?_, ?_, ?_, ?_, ?_⟩
  · rw [hlog]
    exact hcalls
  · rw [hlog]
    exact fun q hq => h.held q (hheld q hq)
  · rw [hlog]
    exact h.events
  · exact fun q q' hq hq' => h.single q q' (hheld q hq) (hheld q' hq')
  · exact fun id p p' hp hp' => h.one id p p' (hat id p hp) (hat id p' hp')
  · rw [hlog]
    exact h.once

theorem drop (h : Custody A w) {pid : Nat} (hlog : w'.log = w.log)
    (hcalls : w'.calls = w.calls.finish pid) (hvalid : A.valid w'.store)
    (hheld : ∀ q, A.holds w'.store q → A.holds w.store q) : Custody A w' := by
  have hmem {c : Job (Phase τ)} (hc : c ∈ w'.calls) : c ∈ w.calls := by
    rw [hcalls] at hc
    exact (Jobs.mem_finish.mp hc).1
  exact h.of_less hlog hvalid hheld (fun c hc => h.calls c (hmem hc))
    (fun _ phase hc _ hl => ⟨phase, hmem hc, hl⟩) (fun _ phase hc _ hl => ⟨phase, hmem hc, hl⟩)

theorem proceed (h : Custody A w) {pid : Nat} {before phase : Phase τ}
    (hcall : ⟨pid, before⟩ ∈ w.calls) (hlog : w'.log = w.log)
    (hcalls : w'.calls = w.calls.setPhase pid phase) (hvalid : A.valid w'.store)
    (hheld : ∀ q, A.holds w'.store q → A.holds w.store q) (hok : CallOk A w.log phase)
    (hlogin : ∀ x, phase.loggingIn = some x → before.loggingIn = some x)
    (hpost : ∀ q, phase.carried = some q → before.carried = some q) : Custody A w' := by
  have hmem {c : Job (Phase τ)} (hc : c ∈ w'.calls) : c ∈ w.calls ∨ c = ⟨pid, phase⟩ := by
    rw [hcalls] at hc
    rcases Jobs.mem_setPhase.mp hc with ⟨hc, _⟩ | ⟨hc, _⟩
    · exact .inl hc
    · exact .inr hc
  refine h.of_less hlog hvalid hheld ?_ ?_ ?_
  · intro c hc
    rcases hmem hc with hc | rfl
    · exact h.calls c hc
    · exact hok
  · intro pid' phase' hc x hl
    rcases hmem hc with hc | hc
    · exact ⟨phase', hc, hl⟩
    · cases hc
      exact ⟨before, hcall, hlogin x hl⟩
  · intro pid' phase' hc q hl
    rcases hmem hc with hc | hc
    · exact ⟨phase', hc, hl⟩
    · cases hc
      exact ⟨before, hcall, hpost q hl⟩

theorem start (h : Custody A w) {pid : Nat} {phase : Phase τ} (hok : CallOk A w.log phase)
    (hlogin : phase.loggingIn = none) (hpost : phase.carried = none) :
    Custody A { w with calls := w.calls.start pid phase } := by
  have hmem {c : Job (Phase τ)} (hc : c ∈ w.calls.start pid phase) :
      c ∈ w.calls ∨ c = ⟨pid, phase⟩ := Jobs.mem_start hc
  refine h.of_less rfl h.valid (fun _ hq => hq) ?_ ?_ ?_
  · intro c hc
    rcases hmem hc with hc | rfl
    · exact h.calls c hc
    · exact hok
  · intro pid' phase' hc x hl
    rcases hmem hc with hc | hc
    · exact ⟨phase', hc, hl⟩
    · cases hc
      rw [hlogin] at hl
      cases hl
  · intro pid' phase' hc q hl
    rcases hmem hc with hc | hc
    · exact ⟨phase', hc, hl⟩
    · cases hc
      rw [hpost] at hl
      cases hl

theorem begun_of_at (h : Custody A w) {id : String} {p : Place} (hp : At w A id p) :
    ∃ realmId returnUrl, .begun id realmId returnUrl ∈ w.log := by
  cases p with
  | login pid =>
    obtain ⟨phase, hc, realmId, returnUrl, hl⟩ := hp
    exact ⟨realmId, returnUrl, (h.calls _ hc).login hl⟩
  | store =>
    obtain ⟨q, hq, rfl⟩ := hp
    exact ⟨q.realmId, q.returnUrl, (h.held q hq).2⟩
  | post pid =>
    obtain ⟨phase, hc, q, hl, rfl⟩ := hp
    exact ⟨q.realmId, q.returnUrl, (h.calls _ hc).post hl⟩
  | session =>
    obtain ⟨post, r, checked, created, redirect, he, rfl⟩ := mem_issuedIds.mp hp
    exact ⟨r.realmId, r.returnUrl, (h.events _ he).2.1⟩

theorem begin (h : Custody A w) {pid : Nat} {params : SamlParams}
    {realmId returnUrl requestId : String} (hrealm : A.separates realmId)
    (hfresh : ∀ realmId returnUrl, .begun requestId realmId returnUrl ∉ w.log) :
    Custody A { w with
      calls := w.calls.start pid (.starting params realmId returnUrl requestId)
      log := .begun requestId realmId returnUrl :: w.log } := by
  have hgrow : ∀ e ∈ w.log, e ∈ Event.begun requestId realmId returnUrl :: w.log :=
    fun e he => List.mem_cons_of_mem _ he
  refine ⟨h.valid, ?_, ?_, ?_, h.single, ?_, h.once⟩
  · intro c hc
    rcases Jobs.mem_start hc with hc | rfl
    · exact (h.calls c hc).mono hgrow
    · exact ⟨hrealm, List.mem_cons_self⟩
  · exact fun q hq => ⟨(h.held q hq).1, hgrow _ (h.held q hq).2⟩
  · intro e he
    rcases List.mem_cons.mp he with rfl | he
    · trivial
    · exact (h.events e he).mono hgrow
  · refine one_of_move h.one requestId (.login pid) ?_ ?_
    · intro id p hp
      cases p with
      | login pid' =>
        obtain ⟨phase, hc, realmId', returnUrl', hl⟩ := hp
        rcases Jobs.mem_start hc with hc | hc
        · exact .inl ⟨phase, hc, realmId', returnUrl', hl⟩
        · cases hc
          cases hl
          exact .inr ⟨rfl, rfl⟩
      | store => exact .inl hp
      | post pid' =>
        obtain ⟨phase, hc, q, hl, hid⟩ := hp
        rcases Jobs.mem_start hc with hc | hc
        · exact .inl ⟨phase, hc, q, hl, hid⟩
        · cases hc
          cases hl
      | session => exact .inl hp
    · intro p hp _
      obtain ⟨realmId', returnUrl', hbegun⟩ := h.begun_of_at hp
      exact absurd hbegun (hfresh realmId' returnUrl')

theorem shelve (h : Custody A w) {pid : Nat} {params : SamlParams} {r : PendingSamlRequest}
    {ttl : Int} (hcall : ⟨pid, .storing params r ttl⟩ ∈ w.calls) (hlog : w'.log = w.log)
    (hcalls : w'.calls = w.calls.finish pid) (hvalid : A.valid w'.store)
    (hheld : ∀ q, A.holds w'.store q → A.holds w.store q ∨ q = r) : Custody A w' := by
  have hmem {c : Job (Phase τ)} (hc : c ∈ w'.calls) : c ∈ w.calls ∧ c.pid ≠ pid := by
    rw [hcalls] at hc
    exact Jobs.mem_finish.mp hc
  have hlogin : At w A r.requestId (.login pid) := ⟨_, hcall, _, _, rfl⟩
  have hnot {q : PendingSamlRequest} (hq : A.holds w.store q) : q.requestId ≠ r.requestId := by
    intro hid
    have hplace := h.one r.requestId .store (.login pid) ⟨q, hq, hid⟩ hlogin
    cases hplace
  refine ⟨hvalid, ?_, ?_, ?_, ?_, ?_, ?_⟩
  · rw [hlog]
    exact fun c hc => h.calls c (hmem hc).1
  · rw [hlog]
    intro q hq
    rcases hheld q hq with hq | rfl
    · exact h.held q hq
    · exact h.calls _ hcall
  · rw [hlog]
    exact h.events
  · intro q q' hq hq' hid
    rcases hheld q hq with hq | rfl
    · rcases hheld q' hq' with hq' | rfl
      · exact h.single q q' hq hq' hid
      · exact absurd hid (hnot hq)
    · rcases hheld q' hq' with hq' | rfl
      · exact absurd hid.symm (hnot hq')
      · rfl
  · refine one_of_move h.one r.requestId .store ?_ ?_
    · intro id p hp
      cases p with
      | login pid' =>
        obtain ⟨phase, hc, hl⟩ := hp
        exact .inl ⟨phase, (hmem hc).1, hl⟩
      | store =>
        obtain ⟨q, hq, rfl⟩ := hp
        rcases hheld q hq with hq | rfl
        · exact .inl ⟨q, hq, rfl⟩
        · exact .inr ⟨rfl, rfl⟩
      | post pid' =>
        obtain ⟨phase, hc, hl⟩ := hp
        exact .inl ⟨phase, (hmem hc).1, hl⟩
      | session => exact .inl (at_session_of_log hlog hp)
    · intro p hp hp'
      obtain rfl := h.one r.requestId p (.login pid) hp hlogin
      obtain ⟨phase, hc, _⟩ := hp'
      exact absurd rfl (hmem hc).2
  · rw [hlog]
    exact h.once

theorem take (h : Custody A w) {pid : Nat} {phase : Phase τ} {q : PendingSamlRequest}
    (hlog : w'.log = w.log) (hcalls : w'.calls = w.calls.setPhase pid phase)
    (hvalid : A.valid w'.store) (hheld : ∀ q, A.holds w'.store q → A.holds w.store q)
    (hq : A.holds w.store q) (hgone : ¬ A.holds w'.store q) (hok : CallOk A w.log phase)
    (hlogin : phase.loggingIn = none) (hpost : phase.carried = some q) : Custody A w' := by
  have hmem {c : Job (Phase τ)} (hc : c ∈ w'.calls) : c ∈ w.calls ∨ c = ⟨pid, phase⟩ := by
    rw [hcalls] at hc
    rcases Jobs.mem_setPhase.mp hc with ⟨hc, _⟩ | ⟨hc, _⟩
    · exact .inl hc
    · exact .inr hc
  refine ⟨hvalid, ?_, ?_, ?_, ?_, ?_, ?_⟩
  · rw [hlog]
    intro c hc
    rcases hmem hc with hc | rfl
    · exact h.calls c hc
    · exact hok
  · rw [hlog]
    exact fun q hq => h.held q (hheld q hq)
  · rw [hlog]
    exact h.events
  · exact fun q q' hq hq' => h.single q q' (hheld q hq) (hheld q' hq')
  · refine one_of_move h.one q.requestId (.post pid) ?_ ?_
    · intro id p hp
      cases p with
      | login pid' =>
        obtain ⟨phase', hc, realmId, returnUrl, hl⟩ := hp
        rcases hmem hc with hc | hc
        · exact .inl ⟨phase', hc, realmId, returnUrl, hl⟩
        · cases hc
          rw [hlogin] at hl
          cases hl
      | store =>
        obtain ⟨q', hq', hid⟩ := hp
        exact .inl ⟨q', hheld q' hq', hid⟩
      | post pid' =>
        obtain ⟨phase', hc, q', hl, hid⟩ := hp
        rcases hmem hc with hc | hc
        · exact .inl ⟨phase', hc, q', hl, hid⟩
        · cases hc
          rw [hpost] at hl
          cases hl
          exact .inr ⟨hid.symm, rfl⟩
      | session => exact .inl (at_session_of_log hlog hp)
    · intro p hp hp'
      obtain rfl := h.one q.requestId p .store hp ⟨q, hq, rfl⟩
      obtain ⟨q', hq', hid⟩ := hp'
      rw [h.single q' q (hheld q' hq') hq hid] at hq'
      exact absurd hq' hgone
  · rw [hlog]
    exact h.once

theorem spend (h : Custody A w) {pid : Nat} {post : Post} {r : PendingSamlRequest}
    {checked created : Int} {identity : SamlIdentity}
    (hcall : ⟨pid, .acs post (.issuing r checked identity)⟩ ∈ w.calls)
    (hlog : w'.log = .issued post r checked created r.returnUrl :: w.log)
    (hcalls : w'.calls = w.calls.finish pid) (hstore : w'.store = w.store) : Custody A w' := by
  have hmem {c : Job (Phase τ)} (hc : c ∈ w'.calls) : c ∈ w.calls ∧ c.pid ≠ pid := by
    rw [hcalls] at hc
    exact Jobs.mem_finish.mp hc
  have hgrow : ∀ e ∈ w.log, e ∈ w'.log := by
    rw [hlog]
    exact fun e he => List.mem_cons_of_mem _ he
  have hpost : At w A r.requestId (.post pid) := ⟨_, hcall, r, rfl, rfl⟩
  obtain ⟨hcookie, _, hrealm, hbegun, hchecked⟩ := h.calls _ hcall
  refine ⟨?_, ?_, ?_, ?_, ?_, ?_, ?_⟩
  · rw [hstore]
    exact h.valid
  · exact fun c hc => (h.calls c (hmem hc).1).mono hgrow
  · rw [hstore]
    exact fun q hq => ⟨(h.held q hq).1, hgrow _ (h.held q hq).2⟩
  · intro e he
    rw [hlog] at he
    rcases List.mem_cons.mp he with rfl | he
    · exact ⟨hrealm, hgrow _ hbegun, hcookie, hchecked, rfl⟩
    · exact (h.events e he).mono hgrow
  · rw [hstore]
    exact h.single
  · refine one_of_move h.one r.requestId .session ?_ ?_
    · intro id p hp
      cases p with
      | login pid' =>
        obtain ⟨phase, hc, hl⟩ := hp
        exact .inl ⟨phase, (hmem hc).1, hl⟩
      | store =>
        obtain ⟨q, hq, hid⟩ := hp
        rw [hstore] at hq
        exact .inl ⟨q, hq, hid⟩
      | post pid' =>
        obtain ⟨phase, hc, hl⟩ := hp
        exact .inl ⟨phase, (hmem hc).1, hl⟩
      | session =>
        have hspent : id ∈ issuedIds w'.log := hp
        rw [hlog] at hspent
        rcases List.mem_cons.mp hspent with rfl | hspent
        · exact .inr ⟨rfl, rfl⟩
        · exact .inl hspent
    · intro p hp hp'
      obtain rfl := h.one r.requestId p (.post pid) hp hpost
      obtain ⟨phase, hc, _⟩ := hp'
      exact absurd rfl (hmem hc).2
  · rw [hlog]
    refine List.nodup_cons.mpr ⟨fun hspent => ?_, h.once⟩
    have hplace := h.one r.requestId .session (.post pid) hspent hpost
    cases hplace

end Custody
end

section
variable {τ : Type} [Ring τ] [LinearOrder τ] [FloorRing τ] {k : SamlBackend}
  {sha256 : String → List UInt8} {A : RequestShelf (k.store τ sha256)} {w : World (k.State τ) τ}
  {X : Externals} {params : ServerParams} {P : SamlParts τ} {db : Database}

theorem shelf_validation {s : k.State τ} {now : τ} {v : ResponseValidation}
    {phase : ValidatePhase τ} :
    (A.valid s → A.valid (v.step (k.store τ sha256) P.samael s now phase).1) ∧
      ∀ q, A.holds (v.step (k.store τ sha256) P.samael s now phase).1 q ↔ A.holds s q := by
  cases phase with
  | parse =>
    simp only [ResponseValidation.step]
    split
    · exact ⟨id, fun _ => Iff.rfl⟩
    · exact ⟨id, fun _ => Iff.rfl⟩
  | checkIssueDelay assertion =>
    simp only [ResponseValidation.step]
    split
    · exact ⟨id, fun _ => Iff.rfl⟩
    · exact ⟨id, fun _ => Iff.rfl⟩
  | checkRetention assertion =>
    simp only [ResponseValidation.step]
    split
    · exact ⟨id, fun _ => Iff.rfl⟩
    · exact ⟨id, fun _ => Iff.rfl⟩
  | record assertion ttl => exact ⟨A.valid_insertSeen, fun _ => A.holds_insertSeen⟩

namespace Custody

theorem advanceValidation (h : Custody A w) {pid : Nat} {post : Post} {pending : PendingSamlRequest}
    {checked : Int} {v : ResponseValidation} {phase : ValidatePhase τ}
    (hcall : ⟨pid, .acs post (.validating pending checked v phase)⟩ ∈ w.calls) :
    Custody A (advanceValidation P k sha256 w pid post pending checked v phase) := by
  obtain ⟨hvalid, hheld⟩ :=
    @shelf_validation τ _ _ _ k sha256 A P w.store w.clock v phase
  have hsub (q : PendingSamlRequest) := (hheld q).mp
  have hok := h.calls _ hcall
  unfold Sso.advanceValidation
  dsimp only
  split
  · exact h.proceed hcall rfl rfl (hvalid h.valid) hsub hok (fun x hx => nomatch hx) (fun _ hq => hq)
  · exact h.drop rfl rfl (hvalid h.valid) hsub
  · split
    · exact h.drop rfl rfl (hvalid h.valid) hsub
    · exact h.proceed hcall rfl rfl (hvalid h.valid) hsub hok (fun x hx => nomatch hx)
        (fun _ hq => hq)

theorem issue (h : Custody A w) {pid : Nat} {m : Moment} {post : Post}
    {pending : PendingSamlRequest} {checked : Int} {identity : SamlIdentity}
    (hcall : ⟨pid, .acs post (.issuing pending checked identity)⟩ ∈ w.calls) :
    Custody A (issue X params k w pid m post pending checked identity) := by
  unfold Sso.issue
  dsimp only
  split
  · exact h.drop rfl rfl h.valid (fun _ hq => hq)
  · exact h.spend hcall rfl rfl rfl

omit [FloorRing τ] in
theorem taking (h : Custody A w) {pid : Nat} {post : Post} {now : Int}
    (hcall : ⟨pid, .acs post (.taking now)⟩ ∈ w.calls) :
    let taken := (k.store τ sha256).takePending w.store w.clock now post.form.relayState post.realm.id
    Custody A (goOn { w with store := taken.1 } pid (.acs post (.taken now taken.2))) := by
  intro taken
  obtain ⟨hcookie, hrealm, _⟩ := h.calls _ hcall
  have hvalid : A.valid taken.1 := A.valid_take h.valid
  have hsub (q : PendingSamlRequest) (hq : A.holds taken.1 q) : A.holds w.store q := A.holds_take hq
  cases hres : taken.2 with
  | none =>
    exact h.proceed hcall rfl rfl hvalid hsub ⟨hcookie, hrealm, trivial⟩ (fun x hx => nomatch hx)
      (fun q hq => nomatch hq)
  | some q =>
    have hheld : A.holds w.store q := A.holds_of_taken h.valid hres
    obtain ⟨hsep, hbegun⟩ := h.held q hheld
    refine h.take rfl rfl hvalid hsub hheld (A.not_holds_taken h.valid hres) ?_ rfl rfl
    exact ⟨hcookie, hrealm, A.realm_of_taken h.valid hres hsep hrealm, hbegun,
      fun _ hstill => SamlBackend.checked_lt hres hstill⟩

theorem advanceAcs (h : Custody A w) {pid : Nat} {m : Moment} {post : Post} {phase : AcsPhase τ}
    (hcall : ⟨pid, .acs post phase⟩ ∈ w.calls) :
    Custody A (advanceAcs X params P k sha256 w pid m post phase) := by
  have hok := h.calls _ hcall
  have hheld (q : PendingSamlRequest) (hq : A.holds w.store q) : A.holds w.store q := hq
  cases phase with
  | reading =>
    exact h.proceed hcall rfl rfl h.valid hheld hok (fun x hx => nomatch hx) (fun q hq => nomatch hq)
  | taking now => exact h.taking hcall
  | taken now request =>
    cases request with
    | none => exact h.drop rfl rfl h.valid hheld
    | some pending =>
      obtain ⟨hcookie, hrealm, hof, hbegun, hchecked⟩ := hok
      simp only [Sso.advanceAcs]
      split
      · rename_i hstill
        unfold startValidation
        split
        · exact h.drop rfl rfl h.valid hheld
        · exact h.proceed hcall rfl rfl h.valid hheld
            ⟨hcookie, hrealm, hof, hbegun, hchecked _ hstill⟩ (fun x hx => nomatch hx) (fun _ hq => hq)
      · exact h.drop rfl rfl h.valid hheld
  | validating pending checked v phase => exact h.advanceValidation hcall
  | issuing pending checked identity => exact h.issue hcall

omit [FloorRing τ] in
theorem storeRequest (h : Custody A w) {pid : Nat} {samlParams : SamlParams}
    {request : PendingSamlRequest} {ttl : Int}
    (hcall : ⟨pid, .storing samlParams request ttl⟩ ∈ w.calls) :
    Custody A (storeRequest P k sha256 w pid samlParams request ttl) := by
  unfold Sso.storeRequest
  split
  · exact h.drop rfl rfl h.valid (fun _ hq => hq)
  · rename_i s hinsert
    have hvalid : A.valid s := A.valid_insert hinsert h.valid
    split
    · exact h.shelve hcall rfl rfl hvalid (fun _ hq => A.holds_insert hinsert hq)
    · exact h.shelve hcall rfl rfl hvalid (fun _ hq => A.holds_insert hinsert hq)

theorem advance (h : Custody A w) {pid : Nat} {m : Moment} {phase : Phase τ}
    (hcall : ⟨pid, phase⟩ ∈ w.calls) : Custody A (advance X params P k sha256 w pid m phase) := by
  have hok := h.calls _ hcall
  have hheld (q : PendingSamlRequest) (hq : A.holds w.store q) : A.holds w.store q := hq
  cases phase with
  | starting samlParams realmId returnUrl requestId =>
    exact h.proceed hcall rfl rfl h.valid hheld hok (fun _ hx => hx) (fun q hq => nomatch hq)
  | composed samlParams request =>
    simp only [Sso.advance]
    split
    · exact h.drop rfl rfl h.valid hheld
    · exact h.proceed hcall rfl rfl h.valid hheld hok (fun _ hx => hx) (fun q hq => nomatch hq)
  | storing samlParams request ttl => exact h.storeRequest hcall
  | acs post phase => exact h.advanceAcs hcall
  | purging phase =>
    cases phase with
    | begin =>
      exact h.proceed hcall rfl rfl h.valid hheld hok (fun x hx => nomatch hx)
        (fun q hq => nomatch hq)
    | pendingRequests now =>
      exact h.proceed hcall rfl rfl (A.valid_purgePending h.valid)
        (fun _ hq => A.holds_purgePending hq) trivial (fun x hx => nomatch hx)
        (fun q hq => nomatch hq)
    | seenAssertions now =>
      exact h.drop rfl rfl (A.valid_purgeSeen h.valid) (fun _ hq => A.holds_purgeSeen hq)

end Custody

omit [Ring τ] [LinearOrder τ] [FloorRing τ] in
theorem samlRealm_mem {realmId : String} {realm : Realm} {samlParams : SamlParams}
    (h : samlRealm db realmId = .ok (realm, samlParams)) : realm ∈ db.realm := by
  unfold samlRealm at h
  split at h
  · cases h
  · rename_i realm' hget
    split at h
    · cases h
    · cases h
      exact (Table.find?_eq_some_iff.mp hget).1

def Input.requestId {τ : Type} : Input τ → Option String
  | .login _ _ _ requestId => some requestId
  | _ => none

namespace Custody

theorem step (h : Custody A w) (hrealms : ∀ realm ∈ db.realm, A.separates realm.id) (input : Input τ)
    (hfresh : ∀ requestId, input.requestId = some requestId → ∀ realmId returnUrl,
      .begun requestId realmId returnUrl ∉ w.log) :
    Custody A (step X params P db k sha256 w input) := by
  cases input with
  | tick now =>
    exact h.of_less rfl h.valid (fun _ hq => hq) h.calls (fun _ phase hc _ hl => ⟨phase, hc, hl⟩)
      (fun _ phase hc _ hl => ⟨phase, hc, hl⟩)
  | login pid realmId returnTo requestId =>
    simp only [Sso.step]
    split
    · exact h
    · unfold samlLogin
      split
      · exact h.drop rfl rfl h.valid (fun _ hq => hq)
      · rename_i realm samlParams hrealm
        split
        · exact h.drop rfl rfl h.valid (fun _ hq => hq)
        · exact h.begin (hrealms _ (samlRealm_mem hrealm)) (hfresh requestId rfl)
  | acs pid cookie realmId form =>
    simp only [Sso.step]
    split
    · exact h
    · unfold samlAcs
      split
      · exact h.drop rfl rfl h.valid (fun _ hq => hq)
      · rename_i hcookie
        split
        · exact h.drop rfl rfl h.valid (fun _ hq => hq)
        · rename_i realm samlParams hrealm
          exact h.start ⟨not_not.mp hcookie, hrealms _ (samlRealm_mem hrealm), trivial⟩ rfl rfl
  | deleteExpired pid => exact h.start trivial rfl rfl
  | advance pid m =>
    simp only [Sso.step]
    split
    · exact h
    · rename_i call hfind
      obtain ⟨hcall, rfl⟩ := Table.find?_eq_some_iff.mp hfind
      exact h.advance hcall

theorem kept_by_post (h : Custody A w) {pid : Nat} {m : Moment} {post : Post} {phase : AcsPhase τ}
    (hcall : ⟨pid, .acs post phase⟩ ∈ w.calls) {q : PendingSamlRequest} (hq : A.holds w.store q)
    (hne : q.realmId ≠ post.realm.id) :
    A.holds (Sso.advanceAcs X params P k sha256 w pid m post phase).store q := by
  cases phase with
  | reading => exact hq
  | taking now =>
    exact A.kept_take h.valid hq (h.held q hq).1 (h.calls _ hcall).2.1 hne
  | taken now request =>
    cases request with
    | none => exact hq
    | some pending =>
      simp only [Sso.advanceAcs, startValidation]
      split
      · split
        · exact hq
        · exact hq
      · exact hq
  | validating pending checked v phase =>
    have hkept := ((@shelf_validation τ _ _ _ k sha256 A P w.store w.clock v phase).2 q).mpr hq
    simp only [Sso.advanceAcs, Sso.advanceValidation]
    split
    · exact hkept
    · exact hkept
    · split
      · exact hkept
      · exact hkept
  | issuing pending checked identity =>
    simp only [Sso.advanceAcs, Sso.issue]
    split
    · exact hq
    · exact hq

end Custody

/-- A step of a call issues no session and leaves the log alone, or it is the last step of a post and
adds one row and its event. -/
def Issues (X : Externals) (params : ServerParams) (w w' : World (k.State τ) τ) : Prop :=
  (w'.sessions = w.sessions ∧ w'.log = w.log) ∨
    ∃ (m : Moment) (post : Post) (r : PendingSamlRequest) (checked : Int) (redirect : String)
      (client : AuthenticatedClientScheme) (token : String),
      w'.sessions.rows =
        w.sessions.rows ++ [issuedRow X params (momentAt m w.clock) post.realm client token] ∧
      w'.log = .issued post r checked ⌊w.clock⌋ redirect :: w.log

theorem issues_advanceAcs {pid : Nat} {m : Moment} {post : Post} {phase : AcsPhase τ} :
    Issues X params w (advanceAcs X params P k sha256 w pid m post phase) := by
  cases phase with
  | reading => exact .inl ⟨rfl, rfl⟩
  | taking now => exact .inl ⟨rfl, rfl⟩
  | taken now request =>
    cases request with
    | none => exact .inl ⟨rfl, rfl⟩
    | some pending =>
      simp only [advanceAcs, startValidation]
      split
      · split
        · exact .inl ⟨rfl, rfl⟩
        · exact .inl ⟨rfl, rfl⟩
      · exact .inl ⟨rfl, rfl⟩
  | validating pending checked v phase =>
    simp only [advanceAcs, advanceValidation]
    split
    · exact .inl ⟨rfl, rfl⟩
    · exact .inl ⟨rfl, rfl⟩
    · split
      · exact .inl ⟨rfl, rfl⟩
      · exact .inl ⟨rfl, rfl⟩
  | issuing pending checked identity =>
    simp only [advanceAcs, issue]
    split
    · rename_i e herror
      exact .inl ⟨issueSession_error herror, rfl⟩
    · rename_i sessionId cookie hok
      obtain ⟨token, hrows⟩ := issueSession_ok hok
      exact .inr ⟨m, post, pending, checked, pending.returnUrl, _, token, hrows, rfl⟩

theorem issues_advance {pid : Nat} {m : Moment} {phase : Phase τ} :
    Issues X params w (advance X params P k sha256 w pid m phase) := by
  cases phase with
  | starting samlParams realmId returnUrl requestId => exact .inl ⟨rfl, rfl⟩
  | composed samlParams request =>
    simp only [advance]
    split
    · exact .inl ⟨rfl, rfl⟩
    · exact .inl ⟨rfl, rfl⟩
  | storing samlParams request ttl =>
    simp only [advance, storeRequest]
    split
    · exact .inl ⟨rfl, rfl⟩
    · split
      · exact .inl ⟨rfl, rfl⟩
      · exact .inl ⟨rfl, rfl⟩
  | acs post phase => exact issues_advanceAcs
  | purging phase =>
    cases phase with
    | begin => exact .inl ⟨rfl, rfl⟩
    | pendingRequests now => exact .inl ⟨rfl, rfl⟩
    | seenAssertions now => exact .inl ⟨rfl, rfl⟩

theorem issues_step {input : Input τ} :
    Issues X params w (step X params P db k sha256 w input) ∨
      ∃ requestId realmId returnUrl, input.requestId = some requestId ∧
        (step X params P db k sha256 w input).sessions = w.sessions ∧
        (step X params P db k sha256 w input).log = .begun requestId realmId returnUrl :: w.log := by
  cases input with
  | tick now => exact .inl (.inl ⟨rfl, rfl⟩)
  | login pid realmId returnTo requestId =>
    simp only [step]
    split
    · exact .inl (.inl ⟨rfl, rfl⟩)
    · unfold samlLogin
      split
      · exact .inl (.inl ⟨rfl, rfl⟩)
      · split
        · exact .inl (.inl ⟨rfl, rfl⟩)
        · exact .inr ⟨requestId, _, _, rfl, rfl, rfl⟩
  | acs pid cookie realmId form =>
    simp only [step]
    split
    · exact .inl (.inl ⟨rfl, rfl⟩)
    · unfold samlAcs
      split
      · exact .inl (.inl ⟨rfl, rfl⟩)
      · split
        · exact .inl (.inl ⟨rfl, rfl⟩)
        · exact .inl (.inl ⟨rfl, rfl⟩)
  | deleteExpired pid => exact .inl (.inl ⟨rfl, rfl⟩)
  | advance pid m =>
    simp only [step]
    split
    · exact .inl (.inl ⟨rfl, rfl⟩)
    · exact .inl issues_advance

theorem begun_step {input : Input τ} {requestId realmId returnUrl : String}
    (h : .begun requestId realmId returnUrl ∈ (step X params P db k sha256 w input).log) :
    .begun requestId realmId returnUrl ∈ w.log ∨ input.requestId = some requestId := by
  rcases issues_step (w := w) with
    (⟨_, hlog⟩ | ⟨_, _, _, _, _, _, _, _, hlog⟩) | ⟨own, _, _, hid, _, hlog⟩
  · rw [hlog] at h
    exact .inl h
  · rw [hlog] at h
    rcases List.mem_cons.mp h with he | h
    · cases he
    · exact .inl h
  · rw [hlog] at h
    rcases List.mem_cons.mp h with he | h
    · cases he
      exact .inr hid
    · exact .inl h

/-- The logins still to come have request ids of their own, none of them used before. -/
def Fresh (w : World (k.State τ) τ) (inputs : List (Input τ)) : Prop :=
  (inputs.filterMap Input.requestId).Nodup ∧
    ∀ requestId ∈ inputs.filterMap Input.requestId, ∀ realmId returnUrl,
      .begun requestId realmId returnUrl ∉ w.log

theorem Fresh.step {input : Input τ} {inputs : List (Input τ)} (h : Fresh w (input :: inputs)) :
    Fresh (step X params P db k sha256 w input) inputs := by
  obtain ⟨hnodup, hnew⟩ := h
  cases hid : input.requestId with
  | none =>
    rw [List.filterMap_cons_none hid] at hnodup hnew
    refine ⟨hnodup, fun requestId hmem realmId returnUrl hbegun => ?_⟩
    rcases begun_step hbegun with hold | hown
    · exact hnew requestId hmem realmId returnUrl hold
    · rw [hid] at hown
      cases hown
  | some own =>
    rw [List.filterMap_cons_some hid] at hnodup hnew
    obtain ⟨hnot, hnodup⟩ := List.nodup_cons.mp hnodup
    refine ⟨hnodup, fun requestId hmem realmId returnUrl hbegun => ?_⟩
    rcases begun_step hbegun with hold | hown
    · exact hnew requestId (List.mem_cons_of_mem _ hmem) realmId returnUrl hold
    · rw [hid, Option.some_inj] at hown
      exact hnot (hown ▸ hmem)

theorem Custody.next (h : Custody A w) (hrealms : ∀ realm ∈ db.realm, A.separates realm.id)
    {input : Input τ} {inputs : List (Input τ)} (hfresh : Fresh w (input :: inputs)) :
    Custody A (Sso.step X params P db k sha256 w input) := by
  refine h.step hrealms input (fun requestId hid => hfresh.2 requestId ?_)
  rw [List.filterMap_cons_some hid]
  exact List.mem_cons_self

omit [FloorRing τ] in
theorem custody_empty (clock : τ) :
    Custody (k.shelf sha256) { clock := clock, store := k.empty τ } := by
  have hnone (q : PendingSamlRequest) :
      ¬ (k.shelf sha256 : RequestShelf (k.store τ sha256)).holds (k.empty τ) q := by
    cases k with
    | sql b => exact List.not_mem_nil
    | redis => exact fun ⟨e, he, _⟩ => nomatch he
  refine ⟨?_, by simp, fun q hq => absurd hq (hnone q), by simp,
    fun q _ hq => absurd hq (hnone q), ?_, List.nodup_nil⟩
  · cases k with
    | sql b => trivial
    | redis => exact fun e he => nomatch he
  · intro id p p' hp
    cases p with
    | login pid =>
      obtain ⟨phase, hc, _⟩ := hp
      cases hc
    | store =>
      obtain ⟨q, hq, _⟩ := hp
      exact absurd hq (hnone q)
    | post pid =>
      obtain ⟨phase, hc, _⟩ := hp
      cases hc
    | session => cases hp

def issuedSessions (log : List Event) : List (String × Int) :=
  (log.filterMap fun
    | .issued post _ _ created _ => some (post.realm.id, created)
    | .begun _ _ _ => none).reverse

theorem momentAt_now [IsStrictOrderedRing τ] (m : Moment) (clock : τ) :
    (momentAt m clock).now = ⌊clock⌋ := by
  simp only [momentAt, Moment.now]
  have hlow : ⌊clock⌋ * 1000000000 ≤ ⌊clock * 1000000000⌋ := by
    rw [Int.le_floor]
    push_cast
    have hfloor : ((⌊clock⌋ : Int) : τ) ≤ clock := Int.floor_le clock
    gcongr
  have hhigh : ⌊clock * 1000000000⌋ < (⌊clock⌋ + 1) * 1000000000 := by
    rw [Int.floor_lt]
    push_cast
    have hfloor : clock < ((⌊clock⌋ : Int) : τ) + 1 := Int.lt_floor_add_one clock
    gcongr
  omega

theorem sessions_step [IsStrictOrderedRing τ] {input : Input τ}
    (h : w.sessions.rows.map (fun row => (row.realmId, row.createdAt)) = issuedSessions w.log) :
    (step X params P db k sha256 w input).sessions.rows.map
        (fun row => (row.realmId, row.createdAt)) =
      issuedSessions (step X params P db k sha256 w input).log := by
  rcases issues_step (w := w) with
    (⟨hsessions, hlog⟩ | ⟨m, post, r, checked, redirect, client, token, hrows, hlog⟩) |
      ⟨_, _, _, _, hsessions, hlog⟩
  · rw [hsessions, hlog, h]
  · rw [hrows, hlog, List.map_append, h]
    simp [issuedSessions, issuedRow, newSession, momentAt_now]
  · rw [hsessions, hlog, h]
    rfl

theorem run_custody (hrealms : ∀ realm ∈ db.realm, A.separates realm.id) (inputs : List (Input τ))
    (h : Custody A w) (hfresh : Fresh w inputs) :
    Custody A (run (step X params P db k sha256) w inputs) := by
  induction inputs generalizing w with
  | nil => exact h
  | cons input inputs ih => exact ih (h.next hrealms hfresh) hfresh.step

def KeepsOthers (A : RequestShelf (k.store τ sha256)) (w w' : World (k.State τ) τ) :
    Input τ → Prop
  | .acs _ _ _ _ => ∀ q, A.holds w.store q → A.holds w'.store q
  | .advance pid _ => ∀ post phase, w.calls.find? pid = some ⟨pid, .acs post phase⟩ →
      ∀ q, A.holds w.store q → q.realmId ≠ post.realm.id → A.holds w'.store q
  | _ => True

theorem Custody.keepsOthers (h : Custody A w) (input : Input τ) :
    KeepsOthers A w (Sso.step X params P db k sha256 w input) input := by
  cases input with
  | tick now => trivial
  | login pid realmId returnTo requestId => trivial
  | acs pid cookie realmId form =>
    intro q hq
    simp only [Sso.step]
    split
    · exact hq
    · unfold samlAcs
      split
      · exact hq
      · split
        · exact hq
        · exact hq
  | deleteExpired pid => trivial
  | advance pid m =>
    intro post phase hfind q hq hne
    simp only [Sso.step, hfind]
    exact h.kept_by_post (Table.find?_eq_some_iff.mp hfind).1 hq hne

/-- On each of the four stores, in every run of logins, posts and purges whose logins have request ids
of their own: a request id leads to one session at most; the sessions in the store are those of the
log; each is for the realm whose login began the request, came with the cookie of the browser that
began it, passed the check of the expiry and leads to the return URL of that login; and no post
consumes the request of another realm. -/
theorem saml_single_use [IsStrictOrderedRing τ] (k : SamlBackend) (sha256 : String → List UInt8)
    (X : Externals) (params : ServerParams) (P : SamlParts τ) (db : Database)
    (hrealms : ∀ realm ∈ db.realm, k.separates realm.id) (clock : τ) (inputs : List (Input τ))
    (hids : (inputs.filterMap Input.requestId).Nodup) :
    let system := step X params P db k sha256
    let start : World (k.State τ) τ := { clock := clock, store := k.empty τ }
    let w := run system start inputs
    (issuedIds w.log).Nodup ∧
    w.sessions.rows.map (fun row => (row.realmId, row.createdAt)) = issuedSessions w.log ∧
    (∀ post r checked created redirect, .issued post r checked created redirect ∈ w.log →
      r.realmId = post.realm.id ∧ .begun r.requestId post.realm.id redirect ∈ w.log ∧
      post.cookie = some post.form.relayState ∧ checked < r.expiresAt) ∧
    ∀ x ∈ trace system start inputs, KeepsOthers (k.shelf sha256) x.1 (system x.1 x.2) x.2 := by
  intro system start w
  have hshelf : ∀ realm ∈ db.realm,
      (k.shelf sha256 : RequestShelf (k.store τ sha256)).separates realm.id := by
    rw [SamlBackend.shelf_separates]
    exact hrealms
  have hfresh : Fresh start inputs := ⟨hids, fun _ _ _ _ hbegun => nomatch hbegun⟩
  have hcustody : Custody (k.shelf sha256) w :=
    run_custody hshelf inputs (custody_empty clock) hfresh
  refine ⟨hcustody.once, ?_, ?_, ?_⟩
  · exact run_keeps system (fun w : World (k.State τ) τ =>
      w.sessions.rows.map (fun row => (row.realmId, row.createdAt)) = issuedSessions w.log) rfl
      (fun _ _ h => sessions_step h) inputs
  · intro post r checked created redirect hissued
    obtain ⟨hrealm, hbegun, hcookie, hchecked, rfl⟩ := hcustody.events _ hissued
    refine ⟨hrealm, ?_, hcookie, hchecked⟩
    rw [← hrealm]
    exact hbegun
  · exact trace_forall_of_invariant system
      (fun w inputs => Custody (k.shelf sha256) w ∧ Fresh w inputs) (C := fun _ _ => True)
      (fun _ input _ h _ => h.1.keepsOthers input)
      (fun _ _ _ h _ => ⟨h.1.next hshelf h.2, h.2.step⟩) inputs
      ⟨custody_empty clock, hfresh⟩ (fun _ _ => trivial)

end

/-- A stand-in for the identity provider: it answers the request `_1`, at a given time. -/
def idp (issueInstant : ℚ) : SamlParts ℚ where
  samael _ _ xml requestId :=
    if xml = "signed" ∧ requestId = "_1" then
      .ok { id := "_a", issueInstant := issueInstant, audienceRestrictions := some [["sp"]],
            authnStatements := some 1 }
    else .error "invalid signature"
  mapIdentity _ _ := .ok { subject := "alice", roles := [], extraClaims := [] }
  resolveReturnUrl params returnTo := .ok (returnTo.getD params.defaultReturnUrl)
  signedAuthnRequestUrl params requestId := .ok (params.idpSsoUrl ++ "?RelayState=" ++ requestId)

def idpRealm (id : String) : Realm :=
  { id := id
    authParams := { samlParams := some { idpSigningCertificates := ["cert"], spEntityId := "sp",
                                         spAcsUrl := "acs", defaultReturnUrl := "/" } }
    sessionMaxAgeSeconds := 3600, sessionMaxStaleAgeSeconds := 600 }

def twoRealms (a b : String) (h : a ≠ b) : Database :=
  { Database.empty with
    realm := ⟨[idpRealm a, idpRealm b], by simpa [idpRealm] using h⟩
    userpassRealm := by simp [Database.empty]
    membershipRealm := by simp [Database.empty] }

def steps (n pid : Nat) : List (Input ℚ) := List.replicate n (.advance pid (Transparent.moment 0))

def begun (realmId : String) : List (Input ℚ) := .login 1 realmId none "_1" :: steps 3 1

def posted (pid : Nat) (realmId relayState : String) : Input ℚ :=
  .acs pid (some relayState) realmId { samlResponse := "c2lnbmVk", relayState := relayState }

/-- The response is posted to another realm, then twice at once to its own. -/
def postedThrice : List (Input ℚ) :=
  begun "acme" ++ [posted 2 "other" "_1", posted 3 "acme" "_1", posted 4 "acme" "_1"] ++ steps 3 2 ++
    steps 1 3 ++ steps 1 4 ++ steps 1 3 ++ steps 2 4 ++ steps 6 3

theorem saml_single_use_postedThrice :
    let w := run (step Transparent.externals Transparent.params (idp 0)
      (twoRealms "acme" "other" (by decide)) .redis (fun _ => []))
      { clock := 0, store := SamlBackend.redis.empty ℚ } postedThrice
    issuedIds w.log = ["_1"] ∧ w.answers.length = 4 ∧ (issuedIds w.log).Nodup := by
  have hrealms : ∀ realm ∈ (twoRealms "acme" "other" (by decide)).realm.rows,
      ':' ∉ realm.id.toList := by decide
  exact ⟨by decide +kernel, by decide +kernel, (saml_single_use .redis (fun _ => [])
    Transparent.externals Transparent.params (idp 0) (twoRealms "acme" "other" (by decide)) hrealms 0
    postedThrice (by decide)).1⟩

/-- A post whose take is in time may end with a session after the expiry. A colon in a realm id on
Redis, or a space at its end on MySQL, gives the request of one realm to a post of another. -/
theorem saml_session_after_expiry :
    (run (step Transparent.externals Transparent.params (idp 599)
      (twoRealms "acme" "other" (by decide)) (.sql .sqlite) (fun _ => []))
      { clock := 0, store := (SamlBackend.sql .sqlite).empty ℚ }
      (begun "acme" ++ [.tick 599, posted 2 "acme" "_1"] ++ steps 2 2 ++ [.tick 600] ++
        steps 6 2)).log.any (fun
          | .issued _ r _ created _ => r.expiresAt ≤ created
          | .begun _ _ _ => false) = true ∧
    (run (step Transparent.externals Transparent.params (idp 0)
      (twoRealms "a:b" "a" (by decide)) .redis (fun _ => []))
      { clock := 0, store := SamlBackend.redis.empty ℚ }
      (begun "a:b" ++ [posted 2 "a" "b:_1"] ++ steps 8 2)).log.any (fun
          | .issued post r _ _ _ => r.realmId == "a:b" && post.realm.id == "a"
          | .begun _ _ _ => false) = true ∧
    (run (step Transparent.externals Transparent.params (idp 0)
      (twoRealms "acme" "acme " (by decide)) (.sql .mysql) (fun _ => []))
      { clock := 0, store := (SamlBackend.sql .mysql).empty ℚ }
      (begun "acme" ++ [posted 2 "acme " "_1"] ++ steps 8 2)).log.any (fun
          | .issued post r _ _ _ => r.realmId == "acme" && post.realm.id == "acme "
          | .begun _ _ _ => false) = true := by
  refine ⟨?_, ?_, ?_⟩
  · decide +kernel
  · decide +kernel
  · decide +kernel

end Sso
end AuthVerifier
