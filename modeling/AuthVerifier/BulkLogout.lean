import AuthVerifier.RedisListing
import AuthVerifier.SessionLifetime
import AuthVerifier.SessionsEndpoints

/-!
Bulk logout on every session store. The request is three calls to the store, each at its own second
of the clock: an access, a listing for the clients of the request, and a deletion. What it achieves
depends on the listing. A SQL store leaves out a session in the second of its first deadline, and
MySQL adds one that its collation takes for a session of the clients; Redis leaves out a session
whose set has expired or was never told of it, and adds one that another key or another login put
into the set.
-/

set_option autoImplicit false

namespace AuthVerifier
open Bounded Effects Expiring Relational Transition

structure PostTimes where
  access : Int
  listing : Int
  deletion : Int
  ordered : access ≤ listing ∧ listing ≤ deletion

section Handler
variable {σ : Type} (apply : σ → StoreCall → Outcome σ AuthError StoreAnswer)

def sessionsToLogout (sessionId : String) (existing : List SessionData) :
    SessionsAction → List String
  | .logoutOtherSessions =>
    (existing.map SessionData.sessionId).filter (fun id => id != sessionId)
  | .logoutAllSessions => existing.map SessionData.sessionId ++ [sessionId]

/-- `get_session` of `sessions_endpoints.rs`, over the store it is given. -/
def postSession (st : σ) (t : PostTimes) (sessionId : String) (body : GetSessionRequest) :
    Outcome σ AuthError HttpResponse :=
  (apply st ⟨t.access, .getSession sessionId⟩).bind fun st answer =>
    match answer with
    | .session (some data) =>
      match body.sessionsAction with
      | none => .ok st { status := 200, body := .session (some data) }
      | some action =>
        (apply st ⟨t.listing, .getSessionsForClients data.realmId body.authenticatedClients⟩).bind
          fun st answer =>
            match answer with
            | .sessions existing =>
              (apply st ⟨t.deletion, .deleteSessions (sessionsToLogout sessionId existing action)⟩).bind
                fun st _ => .ok st { status := 200, body := .session (some data) }
            | _ => .error st .sessionNotFound
    | _ => .error st .sessionNotFound

variable {apply} {st found listed deleted : σ} {t : PostTimes} {sessionId : String}
  {body : GetSessionRequest} {data : SessionData} {existing : List SessionData}
  {action : SessionsAction} {answer : StoreAnswer}

theorem postSession_of_calls (haction : body.sessionsAction = some action)
    (hget : apply st ⟨t.access, .getSession sessionId⟩ = .ok found (.session (some data)))
    (hlist : apply found
        ⟨t.listing, .getSessionsForClients data.realmId body.authenticatedClients⟩ =
      .ok listed (.sessions existing))
    (hdelete : apply listed
        ⟨t.deletion, .deleteSessions (sessionsToLogout sessionId existing action)⟩ =
      .ok deleted answer) :
    postSession apply st t sessionId body =
      .ok deleted { status := 200, body := .session (some data) } := by
  simp only [postSession, hget, haction, hlist, hdelete, Outcome.bind, Outcome.ok]

end Handler

theorem postSession_sqlite {W : Type} [DecidableEq W] (collation : String → W) (now : Int)
    (s : Sessions) (id : String) (body : GetSessionRequest) :
    postSession (SqlBackend.sqlite.apply collation) s ⟨now, now, now, by omega⟩ id body =
      Endpoints.getSession now s id body := by
  unfold postSession Endpoints.getSession
  simp only [SqlBackend.apply_sqlite_getSession, SqlBackend.apply_sqlite_getSessionsForClients,
    SqlBackend.apply_sqlite_deleteSessions, Outcome.bind, Outcome.ok]
  rcases SessionStore.getSession s now id with ⟨s', _ | data⟩
  · rfl
  · cases body.sessionsAction with
    | none => rfl
    | some action =>
      cases action with
      | logoutOtherSessions => rfl
      | logoutAllSessions => rfl

def Covers (realmId : String) (clients : List AuthenticatedClientScheme) (d : SessionData) : Prop :=
  d.realmId = realmId ∧
    ∃ client ∈ clients, d.username = client.username ∧ d.authScheme = client.authScheme.json

section Abstract
variable {σ : Type} (reported : σ → Int → String → Option SessionData) (held : String → Prop)

/-- Of the sessions held under their ids, those of the realm and the clients are gone and no others
are. Of the session that was named in the request, the action decides. -/
structure BulkLogout (before accessed after : σ) (t : PostTimes) (id : String) (data : SessionData)
    (clients : List AuthenticatedClientScheme) (action : SessionsAction) : Prop where
  named : action = .logoutAllSessions → ∀ t' ≥ t.deletion, reported after t' id = none
  kept : action = .logoutOtherSessions → reported accessed t.access id = some data ∧
    ∀ t' ≥ t.deletion, reported after t' id = reported accessed t' id
  complete : ∀ sid d, held sid → sid ≠ id → reported before t.access sid = some d →
    Covers data.realmId clients d → ∀ t' ≥ t.deletion, reported after t' sid = none
  exact : ∀ sid d, held sid → sid ≠ id → reported before t.access sid = some d →
    ¬ Covers data.realmId clients d →
    ∀ t' ≥ t.deletion, reported after t' sid = reported before t' sid

variable {reported} {held} {before accessed after : σ} {t : PostTimes} {id : String} {data : SessionData}
  {clients : List AuthenticatedClientScheme} {action : SessionsAction} {existing : List SessionData}

theorem mem_sessionsToLogout_of_ne {sid : String} (h : sid ≠ id) :
    sid ∈ sessionsToLogout id existing action ↔ sid ∈ existing.map SessionData.sessionId := by
  cases action with
  | logoutOtherSessions => simp [sessionsToLogout, h]
  | logoutAllSessions => simp [sessionsToLogout, h]

theorem mem_sessionsToLogout_self :
    id ∈ sessionsToLogout id existing action ↔ action = .logoutAllSessions := by
  cases action with
  | logoutOtherSessions => simp [sessionsToLogout]
  | logoutAllSessions => simp [sessionsToLogout]

/-- On a store that ends exactly the sessions it is told to, a bulk logout is as good as the listing
in between: of the sessions that live on, it must have all that are covered and no others. -/
theorem bulkLogout_iff
    (hearlier : ∀ t₁ t₂ sid d, t.access ≤ t₁ → t₁ ≤ t₂ → held sid →
      reported before t₂ sid = some d → reported before t₁ sid = some d)
    (hother : ∀ t' sid, held sid → sid ≠ id → reported accessed t' sid = reported before t' sid)
    (hagain : reported accessed t.access id = some data)
    (hafter : ∀ t' sid, t' ≥ t.deletion → held sid ∨ sid = id → reported after t' sid =
      if sid ∈ sessionsToLogout id existing action then none else reported accessed t' sid) :
    BulkLogout reported held before accessed after t id data clients action ↔
      ∀ sid d, held sid → sid ≠ id → reported before t.deletion sid = some d →
        (sid ∈ existing.map SessionData.sessionId ↔ Covers data.realmId clients d) := by
  have hle : t.access ≤ t.deletion := Int.le_trans t.ordered.1 t.ordered.2
  have hsid (t' : Int) (sid : String) (ht' : t' ≥ t.deletion) (hheld : held sid) (hne : sid ≠ id) :
      reported after t' sid =
        if sid ∈ existing.map SessionData.sessionId then none else reported before t' sid := by
    rw [hafter t' sid ht' (.inl hheld), hother t' sid hheld hne]
    simp only [mem_sessionsToLogout_of_ne hne]
  constructor
  · intro h sid d hheld hne hd
    have hd₀ := hearlier t.access t.deletion sid d (Int.le_refl _) hle hheld hd
    have hnow := hsid t.deletion sid (Int.le_refl _) hheld hne
    constructor
    · intro hmem
      by_contra hcov
      have hkeep := h.exact sid d hheld hne hd₀ hcov t.deletion (Int.le_refl _)
      rw [hnow, if_pos hmem, hd] at hkeep
      cases hkeep
    · intro hcov
      by_contra hmem
      have hgone := h.complete sid d hheld hne hd₀ hcov t.deletion (Int.le_refl _)
      rw [hnow, if_neg hmem, hd] at hgone
      cases hgone
  · intro h
    -- What is reported after the deletion was reported at the deletion and at the access.
    have hlater (t' : Int) (sid : String) (d d' : SessionData) (ht' : t' ≥ t.deletion)
        (hheld : held sid) (hd : reported before t.access sid = some d)
        (hd' : reported before t' sid = some d') :
        d' = d ∧ reported before t.deletion sid = some d := by
      have hacc := hearlier t.access t' sid d' (Int.le_refl _) (Int.le_trans hle ht') hheld hd'
      rw [hd] at hacc
      cases hacc
      exact ⟨rfl, hearlier _ _ sid d hle ht' hheld hd'⟩
    refine ⟨?_, ?_, ?_, ?_⟩
    · intro haction t' ht'
      rw [hafter t' id ht' (.inr rfl), if_pos (mem_sessionsToLogout_self.mpr haction)]
    · intro haction
      refine ⟨hagain, fun t' ht' => ?_⟩
      have hno : id ∉ sessionsToLogout id existing action := by
        rw [mem_sessionsToLogout_self, haction]
        exact SessionsAction.noConfusion
      rw [hafter t' id ht' (.inr rfl), if_neg hno]
    · intro sid d hheld hne hd hcov t' ht'
      rw [hsid t' sid ht' hheld hne]
      split
      · rfl
      · rename_i hmem
        rw [Option.eq_none_iff_forall_ne_some]
        intro d' hd'
        exact hmem ((h sid d hheld hne (hlater t' sid d d' ht' hheld hd hd').2).mpr hcov)
    · intro sid d hheld hne hd hcov t' ht'
      rw [hsid t' sid ht' hheld hne]
      split
      · rename_i hmem
        symm
        rw [Option.eq_none_iff_forall_ne_some]
        intro d' hd'
        exact hcov ((h sid d hheld hne (hlater t' sid d d' ht' hheld hd hd').2).mp hmem)
      · rfl

end Abstract
/-- What holds of the table at any time: the primary key, that the database can bind the ids, that
deadlines are in range, and that no idle deadline is further ahead than an access now could have put
it. -/
structure Kept {W : Type} [DecidableEq W] (collation : String → W) (b : SqlBackend) (now : Int)
    (s : Sessions) : Prop where
  keys : b.KeysApart collation s
  bindable : ∀ row ∈ s, b.unbindable [row.sessionId] = false
  fits : ∀ row ∈ s, IsI64 (row.createdAt + row.maxAgeSeconds) ∧ IsI64 row.maxStaleAgeSeconds
  idle : ∀ row ∈ s, row.staleAt ≤ now + row.maxStaleAgeSeconds

section Sql
variable {W : Type} [DecidableEq W] {collation : String → W} {b : SqlBackend} {s : Sessions}
  {t : PostTimes} {id : String} {data : SessionData} {body : GetSessionRequest}
  {action : SessionsAction}

theorem Kept.empty (now : Int) : Kept collation b now .empty :=
  ⟨fun _ hr => absurd hr Table.mem_empty, fun _ hr => absurd hr Table.mem_empty,
    fun _ hr => absurd hr Table.mem_empty, fun _ hr => absurd hr Table.mem_empty⟩

theorem Kept.later {now now' : Int} (h : Kept collation b now s) (hle : now ≤ now') :
    Kept collation b now' s := by
  refine ⟨h.keys, h.bindable, h.fits, fun row hrow => ?_⟩
  have := h.idle row hrow
  omega

theorem Kept.idle_step {c : StoreCall} (h : Kept collation b c.now s) (htyped : c.Typed)
    (hplain : b.Plain collation s c) :
    ∀ row ∈ b.step collation s c, row.staleAt ≤ c.now + row.maxStaleAgeSeconds := by
  intro row hrow
  obtain ⟨now, op⟩ := c
  cases op with
  | upsertSession id realm client value =>
    rcases @SqlBackend.step_upsertSession _ _ collation b s now id value realm client with
      ⟨_, hu⟩ | ⟨_, hs⟩
    · rcases ((SqlBackend.upsertSession_ok hu).2.2 row).mp hrow with hold | rfl
      · exact h.idle row hold
      · rw [SessionStore.newSession_staleAt (hplain.fits id realm client value rfl).1]
        exact Int.le_refl _
    · rw [hs] at hrow
      exact h.idle row hrow
  | getSession id =>
    rw [SqlBackend.step_getSession hplain] at hrow
    by_cases hid : row.sessionId = id
    · subst hid
      obtain ⟨old, hold, _, hlive, he⟩ := SessionStore.mem_getSession_self hrow
      obtain ⟨hfits, hidle⟩ := h.fits old hold
      have hle := ((SessionStore.expired_eq_false_iff hfits).mp hlive).2
      rw [he, SessionStore.touch_staleAt htyped.clock.1 hidle hfits hle]
      simp only [SessionStore.touch]
      omega
    · exact h.idle row ((SessionStore.mem_getSession_of_ne hid).mp hrow)
  | getSessionsForClients realmId clients =>
    rw [SqlBackend.step_getSessionsForClients] at hrow
    exact h.idle row hrow
  | deleteSessions ids =>
    rw [SqlBackend.step_deleteSessions hplain] at hrow
    exact h.idle row (Table.mem_deleteWhere.mp hrow).1
  | deleteExpiredSessions =>
    rw [SqlBackend.step_deleteExpiredSessions fun row hrow => (h.fits row hrow).1] at hrow
    exact h.idle row (Table.mem_deleteWhere.mp hrow).1
  | deleteSessionsForRealm realmId =>
    rw [SqlBackend.step_deleteSessionsForRealm hplain] at hrow
    exact h.idle row (Table.mem_deleteWhere.mp hrow).1

theorem Kept.step {c : StoreCall} (h : Kept collation b c.now s)
    (hc : c.Typed ∧ b.Plain collation s c) : Kept collation b c.now (b.step collation s c) := by
  obtain ⟨htyped, hplain⟩ := hc
  refine ⟨h.keys.step, fun row hrow => ?_, fun row hrow => ?_, h.idle_step htyped hplain⟩
  · rcases SqlBackend.mem_step hrow with ⟨old, hold, hsame⟩ | ⟨id, realm, client, value, hop, _, rfl⟩
    · have hid : row.sessionId = old.sessionId := by rw [hsame]
      rw [hid]
      exact h.bindable old hold
    · have hbind := hplain.bindable
      rw [hop] at hbind
      exact SqlBackend.unbindable_head hbind
  · rcases SqlBackend.mem_step hrow with ⟨old, hold, hsame⟩ | ⟨id, realm, client, value, hop, _, rfl⟩
    · have hfits := h.fits old hold
      rw [hsame]
      exact hfits
    · exact ⟨(hplain.fits id realm client value hop).2, (htyped.ages id realm client value hop).1⟩

theorem reported_eq_getSession {now : Int} (hbind : b.unbindable [id] = false)
    (hapart : b.Apart collation s id) :
    b.reported collation s now id = (SessionStore.getSession s now id).2 :=
  SqlBackend.reported_of_plain (.of_getSession hbind hapart)

theorem getSession_eq_some_iff {now : Int} {d : SessionData}
    (hfits : ∀ row ∈ s, IsI64 (row.createdAt + row.maxAgeSeconds)) :
    (SessionStore.getSession s now id).2 = some d ↔
      ∃ row ∈ s, row.sessionId = id ∧ now ≤ row.staleAt ∧
        now ≤ row.createdAt + row.maxAgeSeconds ∧ row.toData = d := by
  rw [SessionStore.getSession_snd, Option.map_eq_some_iff]
  simp only [Option.filter_eq_some_iff, Table.find?_eq_some_iff, Bool.not_eq_true']
  constructor
  · rintro ⟨row, ⟨⟨hrow, hid⟩, hlive⟩, rfl⟩
    obtain ⟨hidle, habs⟩ := (SessionStore.expired_eq_false_iff (hfits row hrow)).mp hlive
    exact ⟨row, hrow, hid, hidle, habs, rfl⟩
  · rintro ⟨row, hrow, hid, hidle, habs, rfl⟩
    exact ⟨row, ⟨⟨hrow, hid⟩,
      (SessionStore.expired_eq_false_iff (hfits row hrow)).mpr ⟨hidle, habs⟩⟩, rfl⟩

theorem getSession_again {now : Int} (h : Kept collation b now s) (hnow : 0 ≤ now)
    (hdata : (SessionStore.getSession s now id).2 = some data) :
    (SessionStore.getSession (SessionStore.getSession s now id).1 now id).2 = some data := by
  have hfits (row : SessionRow) (hrow : row ∈ s) := (h.fits row hrow).1
  obtain ⟨row, hrow, rfl, hidle, habs, rfl⟩ := (getSession_eq_some_iff hfits).mp hdata
  have hbound := h.idle row hrow
  have hlive : SessionStore.expired now row = false :=
    (SessionStore.expired_eq_false_iff (hfits row hrow)).mpr ⟨hidle, habs⟩
  have htouched : SessionStore.touch now row ∈
      (SessionStore.getSession s now row.sessionId).1 :=
    (SessionStore.mem_getSession_of_live hrow hlive).mpr (.inr rfl)
  have hlive' : SessionStore.expired now (SessionStore.touch now row) = false := by
    have hfits' : IsI64 ((SessionStore.touch now row).createdAt +
        (SessionStore.touch now row).maxAgeSeconds) := hfits row hrow
    refine (SessionStore.expired_eq_false_iff hfits').mpr ⟨?_, habs⟩
    rw [SessionStore.touch_staleAt hnow (h.fits row hrow).2 (hfits row hrow) habs]
    omega
  have hget := SessionStore.getSession_of_live htouched hlive'
  exact congrArg Prod.snd hget

def Lists (collation : String → W) (b : SqlBackend) (now : Int) (realmId : String)
    (clients : List AuthenticatedClientScheme) (row : SessionRow) : Prop :=
  now < row.staleAt ∧ now < row.createdAt + row.maxAgeSeconds ∧
    b.same collation row.realmId realmId = true ∧
    ∃ client ∈ clients, b.same collation row.username client.username = true ∧
      b.same collation row.authScheme client.authScheme.json = true

theorem rowsForClients_of_fits {now : Int} {realmId : String}
    {clients : List AuthenticatedClientScheme}
    (hfits : ∀ row ∈ s, IsI64 (row.createdAt + row.maxAgeSeconds)) :
    ∃ rows, b.rowsForClients collation s.rows realmId now clients = some rows ∧
      ∀ row, row ∈ rows ↔ row ∈ s ∧ Lists collation b now realmId clients row := by
  cases clients with
  | nil => exact ⟨[], rfl, by simp [Lists]⟩
  | cons client clients =>
    have htruth (row : SessionRow) (hrow : row ∈ s.rows) :
        SqlText.truth (b.engine collation) row.column (clientCondition realmId now client clients) =
          some (decide ((b.engine collation).sameText row.realmId realmId = true ∧
            now < row.staleAt) &&
            (decide (now < row.createdAt + row.maxAgeSeconds) &&
              (client :: clients).any (SqlBackend.matchesUnder (b.engine collation) row))) := by
      have hsum : (b.engine collation).sum row.createdAt row.maxAgeSeconds =
          some (row.createdAt + row.maxAgeSeconds) := by
        cases b with
        | sqlite => rfl
        | postgres => exact Range.add_of_fits (fits_iff.mpr (hfits row hrow))
        | mysql => exact Range.add_of_fits (fits_iff.mpr (hfits row hrow))
      rw [SqlBackend.truth_clientCondition, hsum, Option.map_some]
      by_cases hlive : (b.engine collation).sameText row.realmId realmId = true ∧ now < row.staleAt
      · rw [if_pos hlive, decide_eq_true hlive, Bool.true_and]
      · rw [if_neg hlive, decide_eq_false hlive, Bool.false_and]
    refine ⟨_, (SqlBackend.rowsForClients_cons b).trans (SqlText.filterRows_eq_filter htruth), ?_⟩
    intro row
    simp only [List.mem_filter, Bool.and_eq_true, decide_eq_true_eq, List.any_eq_true,
      SqlBackend.matchesUnder, Lists]
    constructor
    · rintro ⟨hrow, ⟨hrealm, hidle⟩, habs, hclient⟩
      exact ⟨hrow, hidle, habs, hrealm, hclient⟩
    · rintro ⟨hrow, hidle, habs, hrealm, hclient⟩
      exact ⟨hrow, ⟨hrealm, hidle⟩, habs, hclient⟩

/-- No session of the request is left out by its listing: none has its first deadline in the second
of the listing, unless the deletion comes later. And none is added that the collation takes for one
of the realm and the clients. -/
structure ListsExactly (collation : String → W) (b : SqlBackend) (s : Sessions) (t : PostTimes)
    (id realmId : String) (clients : List AuthenticatedClientScheme) : Prop where
  boundary : ∀ row ∈ s, row.sessionId ≠ id → Covers realmId clients row.toData →
    ¬ (min row.staleAt (row.createdAt + row.maxAgeSeconds) = t.listing ∧ t.listing = t.deletion)
  foreign : ∀ row ∈ s, row.sessionId ≠ id →
    t.deletion ≤ min row.staleAt (row.createdAt + row.maxAgeSeconds) →
    Lists collation b t.listing realmId clients row → Covers realmId clients row.toData

theorem Lists.of_covers {now : Int} {realmId : String} {clients : List AuthenticatedClientScheme}
    {row : SessionRow} (hidle : now < row.staleAt)
    (habs : now < row.createdAt + row.maxAgeSeconds) (h : Covers realmId clients row.toData) :
    Lists collation b now realmId clients row := by
  obtain ⟨hrealm, client, hclient, hname, hscheme⟩ := h
  refine ⟨hidle, habs, ?_, client, hclient, ?_, ?_⟩
  · rw [show row.realmId = realmId from hrealm]
    exact SqlBackend.same_self _
  · rw [show row.username = client.username from hname]
    exact SqlBackend.same_self _
  · rw [show row.authScheme = client.authScheme.json from hscheme]
    exact SqlBackend.same_self _

theorem apply_getSessionsForClients {now : Int} {realmId : String}
    {clients : List AuthenticatedClientScheme} {rows : List SessionRow}
    (hbind : b.unbindable (StoreOp.texts (.getSessionsForClients realmId clients)) = false)
    (hrows : b.rowsForClients collation s.rows realmId now clients = some rows) :
    b.apply collation s ⟨now, .getSessionsForClients realmId clients⟩ =
      .ok s (.sessions (rows.map SessionRow.toData)) := by
  simp only [SqlBackend.apply, hbind, Bool.false_eq_true, if_false, hrows]

theorem apply_eq_ok {s' : Sessions} {c : StoreCall} {answer : StoreAnswer}
    (hrows : (b.apply collation s c).state.rows = s'.rows)
    (hresult : (b.apply collation s c).result = .ok answer) :
    b.apply collation s c = .ok s' answer := by
  rw [Outcome.ok, ← Table.ext_rows hrows, ← hresult]

theorem postSession_sql (h : Kept collation b t.access s)
    (hget : b.Plain collation s ⟨t.access, .getSession id⟩)
    (haction : body.sessionsAction = some action)
    (hok : (postSession (b.apply collation) s t id body).result =
      .ok { status := 200, body := .session (some data) }) :
    (SessionStore.getSession s t.access id).2 = some data ∧
    ∃ rows : List SessionRow,
      (∀ row, row ∈ rows ↔ row ∈ (SessionStore.getSession s t.access id).1 ∧
        Lists collation b t.listing data.realmId body.authenticatedClients row) ∧
      (postSession (b.apply collation) s t id body).state =
        SessionStore.deleteSessions (SessionStore.getSession s t.access id).1
          (sessionsToLogout id (rows.map SessionRow.toData) action) := by
  have hids (row : SessionRow) (hrow : row ∈ (SessionStore.getSession s t.access id).1) :
      ∃ old ∈ s, old.sessionId = row.sessionId := by
    obtain ⟨old, hold, hsame⟩ := SessionStore.mem_getSession hrow
    exact ⟨old, hold, by rw [hsame]⟩
  have hfits (row : SessionRow) (hrow : row ∈ (SessionStore.getSession s t.access id).1) :
      IsI64 (row.createdAt + row.maxAgeSeconds) := by
    obtain ⟨old, hold, hsame⟩ := SessionStore.mem_getSession hrow
    have hold := (h.fits old hold).1
    rw [hsame]
    exact hold
  rw [postSession, SqlBackend.apply_getSession hget] at hok ⊢
  cases hg : (SessionStore.getSession s t.access id).2 with
  | none =>
    simp only [Outcome.bind, Outcome.ok, hg] at hok
    cases hok
  | some found =>
    obtain ⟨rows, hrows, hmem⟩ : ∃ rows, b.rowsForClients collation
        (SessionStore.getSession s t.access id).1.rows found.realmId t.listing
          body.authenticatedClients = some rows ∧ _ := rowsForClients_of_fits hfits
    simp only [Outcome.bind, Outcome.ok, hg, haction] at hok ⊢
    cases hlist : b.unbindable
        (StoreOp.texts (.getSessionsForClients found.realmId body.authenticatedClients)) with
    | true =>
      simp only [SqlBackend.apply, hlist, if_true, Outcome.error] at hok
      cases hok
    | false =>
      simp only [apply_getSessionsForClients hlist hrows, Outcome.ok] at hok ⊢
      cases hdelete : b.unbindable
          (sessionsToLogout id (rows.map SessionRow.toData) action) with
      | true =>
        simp only [SqlBackend.apply, StoreOp.texts, hdelete, if_true, Outcome.error] at hok
        cases hok
      | false =>
        -- The ids are those of listed rows, which the primary key tells apart, and the named one.
        have hapart : ∀ sid ∈ sessionsToLogout id (rows.map SessionRow.toData) action,
            b.Apart collation (SessionStore.getSession s t.access id).1 sid := by
          intro sid hsid
          by_cases hid : sid = id
          · rw [hid]
            exact (hget.get id rfl).of_ids hids
          · rw [mem_sessionsToLogout_of_ne hid, List.map_map] at hsid
            obtain ⟨row, hrow, rfl⟩ := List.mem_map.mp hsid
            obtain ⟨old, hold, he⟩ := hids row ((hmem row).mp hrow).1
            refine SqlBackend.Apart.of_ids ?_ hids
            show b.Apart collation s row.sessionId
            rw [← he]
            exact h.keys old hold
        have hplain : b.Plain collation (SessionStore.getSession s t.access id).1
            ⟨t.deletion, .deleteSessions (sessionsToLogout id (rows.map SessionRow.toData)
              action)⟩ := .of_deleteSessions hdelete hapart
        simp only [SqlBackend.apply_deleteSessions hplain, Outcome.ok] at hok ⊢
        cases hok
        exact ⟨rfl, rows, hmem, rfl⟩

theorem getSession_deleteSessions (s : Sessions) (now : Int) (sid : String) (ids : List String) :
    (SessionStore.getSession (SessionStore.deleteSessions s ids) now sid).2 =
      if sid ∈ ids then none else (SessionStore.getSession s now sid).2 := by
  rw [SessionStore.getSession_snd, SessionStore.getSession_snd, SessionStore.deleteSessions,
    Table.find?_deleteWhere]
  cases hf : s.find? sid with
  | none => simp
  | some row =>
    have hid := (Table.find?_eq_some_iff.mp hf).2
    by_cases hmem : sid ∈ ids
    · simp [Option.filter, hid, hmem]
    · simp [Option.filter, hid, hmem]

theorem bulkLogout_sql_iff (h : Kept collation b t.access s) (hnow : 0 ≤ t.access)
    (hget : b.Plain collation s ⟨t.access, .getSession id⟩)
    (haction : body.sessionsAction = some action)
    (hok : (postSession (b.apply collation) s t id body).result =
      .ok { status := 200, body := .session (some data) }) :
    BulkLogout (b.reported collation) (fun sid => sid ∈ s.keys) s
        (b.step collation s ⟨t.access, .getSession id⟩)
        (postSession (b.apply collation) s t id body).state t id data body.authenticatedClients
        action ↔
      ListsExactly collation b s t id data.realmId body.authenticatedClients := by
  obtain ⟨hdata, rows, hrows, hstate⟩ := postSession_sql h hget haction hok
  have hfits (row : SessionRow) (hrow : row ∈ s) := (h.fits row hrow).1
  have hne (row : SessionRow) (hid : row.sessionId ≠ id) :
      row ∈ (SessionStore.getSession s t.access id).1 ↔ row ∈ s :=
    SessionStore.mem_getSession_of_ne hid
  -- Under the ids of stored sessions every table in question reports what a string comparison finds.
  have hreported (s' : Sessions) (hs' : ∀ row' ∈ s', ∃ row ∈ s, row.sessionId = row'.sessionId)
      (t' : Int) (sid : String) (hsid : sid ∈ s.keys) :
      b.reported collation s' t' sid = (SessionStore.getSession s' t' sid).2 := by
    obtain ⟨row, hrow, rfl⟩ := Table.mem_keys.mp hsid
    exact reported_eq_getSession (h.bindable row hrow) ((h.keys row hrow).of_ids hs')
  have hbefore := hreported s fun row hrow => ⟨row, hrow, rfl⟩
  have hids : ∀ row' ∈ (SessionStore.getSession s t.access id).1,
      ∃ row ∈ s, row.sessionId = row'.sessionId := by
    intro row' hrow'
    obtain ⟨row, hrow, hsame⟩ := SessionStore.mem_getSession hrow'
    exact ⟨row, hrow, by rw [hsame]⟩
  have haccessed := hreported _ hids
  have hid : id ∈ s.keys := by
    obtain ⟨row, hrow, rfl, _⟩ := SessionStore.getSession_some hdata
    exact Table.key_mem_keys hrow
  have hearlier (t₁ t₂ : Int) (sid : String) (d : SessionData) (_ : t.access ≤ t₁) (hle : t₁ ≤ t₂)
      (hsid : sid ∈ s.keys) (hd : b.reported collation s t₂ sid = some d) :
      b.reported collation s t₁ sid = some d := by
    rw [hbefore t₂ sid hsid, getSession_eq_some_iff hfits] at hd
    rw [hbefore t₁ sid hsid, getSession_eq_some_iff hfits]
    obtain ⟨row, hrow, hrowid, hidle, habs, hd⟩ := hd
    exact ⟨row, hrow, hrowid, by omega, by omega, hd⟩
  have hother (t' : Int) (sid : String) (hsid : sid ∈ s.keys) (hsidne : sid ≠ id) :
      b.reported collation (SessionStore.getSession s t.access id).1 t' sid =
        b.reported collation s t' sid := by
    rw [haccessed t' sid hsid, hbefore t' sid hsid, SessionStore.getSession_snd,
      SessionStore.getSession_snd, Table.find?_congr fun row hrow => hne row (hrow ▸ hsidne)]
  have hagain : b.reported collation (SessionStore.getSession s t.access id).1 t.access id =
      some data := by
    rw [haccessed t.access id hid]
    exact getSession_again h hnow hdata
  have hafter (t' : Int) (sid : String) (_ : t' ≥ t.deletion) (hsid : sid ∈ s.keys ∨ sid = id) :
      b.reported collation (SessionStore.deleteSessions (SessionStore.getSession s t.access id).1
        (sessionsToLogout id (rows.map SessionRow.toData) action)) t' sid =
      if sid ∈ sessionsToLogout id (rows.map SessionRow.toData) action then none
      else b.reported collation (SessionStore.getSession s t.access id).1 t' sid := by
    have hheld : sid ∈ s.keys := hsid.elim (fun h => h) fun he => he ▸ hid
    rw [haccessed t' sid hheld, ← getSession_deleteSessions]
    exact hreported _ (fun row hrow => hids row (Table.mem_deleteWhere.mp hrow).1) t' sid hheld
  rw [hstate, SqlBackend.step_getSession hget]
  refine (bulkLogout_iff hearlier hother hagain hafter).trans ?_
  have hlisted (row : SessionRow) (hrow : row ∈ s) (hrowid : row.sessionId ≠ id) :
      row.sessionId ∈ (rows.map SessionRow.toData).map SessionData.sessionId ↔
        Lists collation b t.listing data.realmId body.authenticatedClients row := by
    rw [List.map_map, List.mem_map]
    constructor
    · rintro ⟨row', hrow', he⟩
      have he : row'.sessionId = row.sessionId := he
      obtain ⟨hmem, hlists⟩ := (hrows row').mp hrow'
      rwa [Table.eq_of_key ((hne row' (he ▸ hrowid)).mp hmem) hrow he] at hlists
    · exact fun hlists => ⟨row, (hrows row).mpr ⟨(hne row hrowid).mpr hrow, hlists⟩, rfl⟩
  constructor
  · intro hexact
    have hrow (row : SessionRow) (hrow : row ∈ s) (hrowid : row.sessionId ≠ id)
        (hlive : t.deletion ≤ min row.staleAt (row.createdAt + row.maxAgeSeconds)) :
        Lists collation b t.listing data.realmId body.authenticatedClients row ↔
          Covers data.realmId body.authenticatedClients row.toData := by
      have hkey := Table.key_mem_keys hrow
      rw [← hlisted row hrow hrowid]
      refine hexact row.sessionId row.toData hkey hrowid ?_
      rw [hbefore _ _ hkey, getSession_eq_some_iff hfits]
      exact ⟨row, hrow, rfl, by omega, by omega, rfl⟩
    constructor
    · rintro row hmem hrowid hcov ⟨hdeadline, heq⟩
      have hlists := (hrow row hmem hrowid (by omega)).mpr hcov
      have hidle := hlists.1
      have habs := hlists.2.1
      omega
    · exact fun row hmem hrowid hlive hlists => (hrow row hmem hrowid hlive).mp hlists
  · rintro ⟨hboundary, hforeign⟩ sid d hsid hsidne hd
    rw [hbefore _ _ hsid, getSession_eq_some_iff hfits] at hd
    obtain ⟨row, hrow, rfl, hidle, habs, rfl⟩ := hd
    rw [hlisted row hrow hsidne]
    constructor
    · exact hforeign row hrow hsidne (by omega)
    · intro hcov
      have hoff := hboundary row hrow hsidne hcov
      have hle := t.ordered.2
      exact .of_covers (by omega) (by omega) hcov

end Sql

namespace RedisStore

def SameReports (now : Int) (r r' : RedisState) : Prop :=
  ∀ t ≥ now, ∀ id, reported r' t id = reported r t id

section
variable {r r' : RedisState} {now : Int} {id : String}

theorem reported_congr
    (h : r'.sessions.get now (sessionKey id) = r.sessions.get now (sessionKey id)) :
    reported r' now id = reported r now id := by
  apply Option.ext
  intro d
  rw [reported_eq_some_iff, reported_eq_some_iff, h]

/-- Redis can keep the absolute deadlines of the sessions that are there, in milliseconds. -/
def InRange (now : Int) (r : RedisState) : Prop :=
  ∀ id data, r.sessions.get now (sessionKey id) = some data →
    IsI64 ((data.createdAt + data.maxAgeSeconds) * 1000)

theorem InRange.later {now' : Int} (h : InRange now r) (hle : now ≤ now') : InRange now' r :=
  fun id data hd => h id data (Keyspace.get_later hle hd)

theorem InRange.step {c : StoreCall} (h : InRange c.now r) (hexpiry : c.ExpiryFits) :
    InRange c.now (step r c) := by
  intro id data hd
  rcases step_shrinks r c with hs | ⟨new, realm, client, value, hop, hs⟩
  · exact h id data (hs.1 id data hd)
  · rw [hs] at hd
    rcases get_storeSession hd with ⟨rfl, rfl⟩ | ⟨_, hold⟩
    · exact hexpiry _ realm client value hop
    · exact h id data hold

theorem accessible_iff {d : SessionData} (hrange : IsI64 ((d.createdAt + d.maxAgeSeconds) * 1000))
    (hnow : 0 ≤ now) :
    Accessible d now ↔ now < d.createdAt + d.maxAgeSeconds ∧ 0 < d.maxStaleAgeSeconds := by
  have hfits : IsI64 (d.createdAt + d.maxAgeSeconds) := by
    unfold IsI64 at *
    omega
  have habs : absoluteExpiry d = d.createdAt + d.maxAgeSeconds := i64_eq hfits
  have hrest (hle : now ≤ d.createdAt + d.maxAgeSeconds) : refreshedTtl d now =
      min d.maxStaleAgeSeconds (d.createdAt + d.maxAgeSeconds - now) := by
    have hrest : IsI64 (d.createdAt + d.maxAgeSeconds - now) := by
      unfold IsI64 at *
      omega
    rw [refreshedTtl, habs, i64_eq hrest]
  constructor
  · rintro ⟨hle, hremaining, _⟩
    rw [habs] at hle
    rw [hrest hle] at hremaining
    omega
  · rintro ⟨hlt, hidle⟩
    refine ⟨by omega, ?_, ?_⟩
    · rw [hrest (by omega)]
      omega
    · rw [hrest (by omega)]
      unfold expiryAccepted IsI64 at *
      omega

theorem reported_earlier {now' : Int} {d : SessionData} (hrange : InRange now r) (hnow : 0 ≤ now)
    (hle : now ≤ now') (h : reported r now' id = some d) : reported r now id = some d := by
  obtain ⟨hget, haccess⟩ := reported_eq_some_iff.mp h
  have hget := Keyspace.get_later hle hget
  have hd := hrange id d hget
  have haccess := (accessible_iff hd (by omega)).mp haccess
  exact reported_eq_some_iff.mpr
    ⟨hget, (accessible_iff hd hnow).mpr ⟨by omega, haccess.2⟩⟩

theorem SameReports.listMember (r : RedisState) (now : Int) (index id : String) :
    SameReports now r (listMember r now index id).1 := by
  intro t ht sid
  unfold RedisStore.listMember
  cases hg : r.sessions.get now (sessionKey id) with
  | none => exact reported_congr rfl
  | some data =>
    by_cases hpast : now > absoluteExpiry data
    · simp only [if_pos hpast]
      by_cases hsid : sid = id
      · subst hsid
        have hgone : reported r t sid = none := by
          rw [Option.eq_none_iff_forall_ne_some]
          intro d hd
          obtain ⟨hget, habs, _, _⟩ := reported_eq_some_iff.mp hd
          rw [Keyspace.get_later ht hget] at hg
          cases hg
          omega
        rw [hgone, reported_of_absent Keyspace.entry_del_self]
      · have hkey : sessionKey sid ≠ sessionKey id := fun h => hsid (sessionKey_injective h)
        apply reported_congr
        simp only [Keyspace.get, Keyspace.entry_del_ne hkey]
    · simp only [if_neg hpast]

theorem SameReports.listMembers (now : Int) (index : String) (ids : List String) (r : RedisState) :
    SameReports now r (listMembers now index r ids).1 := by
  induction ids generalizing r with
  | nil => exact fun _ _ _ => rfl
  | cons id ids ih =>
    intro t ht sid
    exact (ih (RedisStore.listMember r now index id).1 t ht sid).trans
      (SameReports.listMember r now index id t ht sid)

theorem SameReports.listClients (now : Int) (realmId : String)
    (clients : List AuthenticatedClientScheme) (r : RedisState) :
    SameReports now r (listClients now realmId r clients).1 := by
  induction clients generalizing r with
  | nil => exact fun _ _ _ => rfl
  | cons client clients ih =>
    intro t ht sid
    exact (ih _ t ht sid).trans (SameReports.listMembers now _ _ r t ht sid)

theorem reported_deleteSessions (r : RedisState) (now t : Int) (sid : String) (ids : List String) :
    reported (deleteSessions r now ids) t sid = if sid ∈ ids then none else reported r t sid := by
  have hentry := @entry_deleteSessions r now sid t ids
  split
  · rename_i hmem
    rw [if_pos hmem] at hentry
    rw [reported_of_absent hentry]
  · rename_i hmem
    rw [if_neg hmem] at hentry
    apply reported_congr
    simp only [Keyspace.get, hentry]

end

section
variable {r : RedisState} {t : PostTimes} {id : String} {data : SessionData}
  {body : GetSessionRequest} {action : SessionsAction}

theorem reported_other (hdata : reported r t.access id = some data) (t' : Int) {sid : String}
    (hsid : sid ≠ id) :
    reported (step r ⟨t.access, .getSession id⟩) t' sid = reported r t' sid := by
  have hkey : sessionKey sid ≠ sessionKey id := fun h => hsid (sessionKey_injective h)
  rw [step_of_reported hdata]
  apply reported_congr
  simp only [Keyspace.get, Keyspace.entry_set_ne hkey]

theorem reported_again (hdata : reported r t.access id = some data) :
    reported (step r ⟨t.access, .getSession id⟩) t.access id = some data := by
  obtain ⟨_, haccess⟩ := reported_eq_some_iff.mp hdata
  rw [step_of_reported hdata]
  refine reported_eq_some_iff.mpr ⟨?_, haccess⟩
  have hlive : t.access < t.access + refreshedTtl data t.access := by
    have := haccess.remaining
    omega
  simp [Keyspace.get, Option.filter, Entry.live, hlive]

def afterListing (r : RedisState) (t : PostTimes) (id realmId : String)
    (clients : List AuthenticatedClientScheme) : RedisState :=
  (getSessionsForClients (step r ⟨t.access, .getSession id⟩) t.listing realmId clients).1

def listedSessions (r : RedisState) (t : PostTimes) (id realmId : String)
    (clients : List AuthenticatedClientScheme) : List SessionData :=
  (getSessionsForClients (step r ⟨t.access, .getSession id⟩) t.listing realmId clients).2

theorem postSession_redis (haction : body.sessionsAction = some action)
    (hdata : reported r t.access id = some data) :
    (postSession apply r t id body).state =
      deleteSessions (afterListing r t id data.realmId body.authenticatedClients) t.deletion
        (sessionsToLogout id (listedSessions r t id data.realmId body.authenticatedClients)
          action) := by
  rw [postSession, apply_getSession_of_reported hdata]
  simp only [Outcome.bind, Outcome.ok, haction]
  rfl

def Indexed (r : RedisState) (now : Int) (realmId : String)
    (clients : List AuthenticatedClientScheme) (sid : String) : Prop :=
  ∃ client ∈ clients, sid ∈ r.userSessions.smembers now (clientIndex realmId client)

/-- Of the other sessions that live on, the sets of the clients have those that the request is meant
to end and no others. -/
def IndexExact (r : RedisState) (t : PostTimes) (id realmId : String)
    (clients : List AuthenticatedClientScheme) : Prop :=
  ∀ sid d, sid ≠ id → reported r t.deletion sid = some d →
    (Indexed r t.listing realmId clients sid ↔ Covers realmId clients d)

theorem mem_listedSessions (hown : OwnIds t.access r) (hdata : reported r t.access id = some data)
    (realmId : String) (clients : List AuthenticatedClientScheme) {sid : String} {d : SessionData}
    (hsid : sid ≠ id) (hd : reported r t.deletion sid = some d) :
    sid ∈ (listedSessions r t id realmId clients).map SessionData.sessionId ↔
      Indexed r t.listing realmId clients sid := by
  have hown' : OwnIds t.listing (step r ⟨t.access, .getSession id⟩) :=
    (OwnIds.step (c := ⟨t.access, .getSession id⟩) hown).later t.ordered.1
  have husers : (step r ⟨t.access, .getSession id⟩).userSessions = r.userSessions := by
    rw [step_of_reported hdata]
  rw [← reported_other hdata t.deletion hsid] at hd
  obtain ⟨hget, habs, _, _⟩ := reported_eq_some_iff.mp hd
  have hlisted : listed (step r ⟨t.access, .getSession id⟩) t.listing sid = some d := by
    rw [listed, Keyspace.get_later t.ordered.2 hget, Option.filter, if_pos]
    have := t.ordered.2
    simp only [decide_eq_true_eq]
    omega
  unfold listedSessions Indexed
  rw [getSessionsForClients_eq, husers]
  simp only [List.mem_map, List.mem_flatMap, List.mem_filterMap]
  constructor
  · rintro ⟨d', ⟨client, hclient, sid', hmem, hl⟩, rfl⟩
    rw [(hown' sid' d' (Option.filter_eq_some_iff.mp hl).1).1]
    exact ⟨client, hclient, hmem⟩
  · rintro ⟨client, hclient, hmem⟩
    exact ⟨d, ⟨client, hclient, sid, hmem, hlisted⟩,
      (hown' sid d (Option.filter_eq_some_iff.mp hlisted).1).1⟩

theorem bulkLogout_redis_iff (hown : OwnIds t.access r) (hrange : InRange t.access r)
    (hnow : 0 ≤ t.access) (haction : body.sessionsAction = some action)
    (hdata : reported r t.access id = some data) :
    BulkLogout reported (fun _ => True) r (step r ⟨t.access, .getSession id⟩)
        (postSession apply r t id body).state t id data body.authenticatedClients action ↔
      IndexExact r t id data.realmId body.authenticatedClients := by
  have hafter (t' : Int) (sid : String) (ht' : t' ≥ t.deletion) :
      reported (deleteSessions (afterListing r t id data.realmId body.authenticatedClients)
        t.deletion (sessionsToLogout id
          (listedSessions r t id data.realmId body.authenticatedClients) action)) t' sid =
      if sid ∈ sessionsToLogout id
          (listedSessions r t id data.realmId body.authenticatedClients) action then none
      else reported (step r ⟨t.access, .getSession id⟩) t' sid := by
    rw [reported_deleteSessions, afterListing, getSessionsForClients,
      SameReports.listClients t.listing _ _ _ t' (Int.le_trans t.ordered.2 ht') sid]
  rw [postSession_redis haction hdata]
  refine (bulkLogout_iff
    (fun _ _ _ _ hle₁ hle₂ _ hd =>
      reported_earlier (hrange.later hle₁) (Int.le_trans hnow hle₁) hle₂ hd)
    (fun t' _ _ hsid => reported_other hdata t' hsid) (reported_again hdata)
    (fun t' sid ht' _ => hafter t' sid ht')).trans ?_
  refine forall₂_congr fun sid d => ?_
  constructor
  · intro h hsid hd
    rw [← mem_listedSessions hown hdata _ _ hsid hd]
    exact h trivial hsid hd
  · intro h _ hsid hd
    rw [mem_listedSessions hown hdata _ _ hsid hd]
    exact h hsid hd

theorem reported_of_posted (h : (postSession apply r t id body).result =
      .ok { status := 200, body := .session (some data) })
    (haction : body.sessionsAction = some action) : reported r t.access id = some data := by
  obtain ⟨answer, hanswer, hrest⟩ := Outcome.bind_eq_ok h
  obtain ⟨found, hfound, hsession⟩ := Outcome.bind_eq_ok hanswer
  cases hsession
  cases found with
  | none => cases hrest
  | some found =>
    simp only [haction] at hrest
    obtain ⟨listing, _, hrest⟩ := Outcome.bind_eq_ok hrest
    cases listing with
    | done => cases hrest
    | session data => cases hrest
    | sessions existing =>
      obtain ⟨_, _, hrest⟩ := Outcome.bind_eq_ok hrest
      cases hrest
      exact reported_eq_some.mpr hfound

end
end RedisStore

section
variable {W : Type} [DecidableEq W]

/-- After any history of calls that the stores take as they are meant, a bulk logout that succeeds is
complete and exact: on a SQL store exactly when none of the sessions it is to end reaches its first
deadline in the second of the listing and the deletion, and the listing has no others; on Redis
exactly when the sets of the clients have the ids of the sessions it is to end, and of no other
session that lives on. -/
theorem bulk_logout_exact_iff (collation : String → W) (history : List StoreCall)
    (hclock : Clocked StoreCall.now StoreCall.now history) (htyped : ∀ c ∈ history, c.Typed)
    (t : PostTimes) (hnow : 0 ≤ t.access) (hbefore : ∀ c ∈ history, c.now ≤ t.access) (id : String)
    (body : GetSessionRequest) (action : SessionsAction)
    (haction : body.sessionsAction = some action) (data : SessionData) :
    (∀ b : SqlBackend,
      (∀ x ∈ trace (b.step collation) .empty history, b.Plain collation x.1 x.2) →
      b.Plain collation (run (b.step collation) .empty history) ⟨t.access, .getSession id⟩ →
      (postSession (b.apply collation) (run (b.step collation) .empty history) t id body).result =
          .ok { status := 200, body := .session (some data) } →
      (BulkLogout (b.reported collation)
          (fun sid => sid ∈ (run (b.step collation) .empty history).keys)
          (run (b.step collation) .empty history)
          (b.step collation (run (b.step collation) .empty history) ⟨t.access, .getSession id⟩)
          (postSession (b.apply collation) (run (b.step collation) .empty history) t id body).state
          t id data body.authenticatedClients action ↔
        ListsExactly collation b (run (b.step collation) .empty history) t id data.realmId
          body.authenticatedClients)) ∧
    ((∀ c ∈ history, c.ExpiryFits) →
      (postSession RedisStore.apply (run RedisStore.step {} history) t id body).result =
          .ok { status := 200, body := .session (some data) } →
      (BulkLogout RedisStore.reported (fun _ => True) (run RedisStore.step {} history)
          (RedisStore.step (run RedisStore.step {} history) ⟨t.access, .getSession id⟩)
          (postSession RedisStore.apply (run RedisStore.step {} history) t id body).state
          t id data body.authenticatedClients action ↔
        RedisStore.IndexExact (run RedisStore.step {} history) t id data.realmId
          body.authenticatedClients)) := by
  constructor
  · intro b hplain hget hok
    refine bulkLogout_sql_iff ?_ hnow hget haction hok
    refine run_of_clocked (b.step collation) StoreCall.now StoreCall.now (Kept collation b)
      (fun _ _ _ hle h => h.later hle) (fun _ _ h hc => h.step hc) history hclock t.access hbefore
      (fun _ _ => .empty _) (.empty _) fun x hx => ⟨htyped x.2 (mem_of_mem_trace _ hx), hplain x hx⟩
  · intro hexpiry hok
    have hkept : RedisStore.OwnIds t.access (run RedisStore.step {} history) ∧
        RedisStore.InRange t.access (run RedisStore.step {} history) := by
      refine run_of_clocked RedisStore.step StoreCall.now StoreCall.now
        (fun now r => RedisStore.OwnIds now r ∧ RedisStore.InRange now r)
        (fun _ _ _ hle h => ⟨h.1.later hle, h.2.later hle⟩)
        (fun _ _ h hc => ⟨h.1.step, h.2.step hc⟩) history hclock t.access hbefore ?_ ?_
        fun x hx => hexpiry x.2 (mem_of_mem_trace _ hx)
      · exact fun _ _ => ⟨nofun, nofun⟩
      · exact ⟨nofun, nofun⟩
    exact RedisStore.bulkLogout_redis_iff hkept.1 hkept.2 hnow haction
      (RedisStore.reported_of_posted hok haction)

end

def twoLogins : List StoreCall :=
  [shortSession, ⟨0, .upsertSession "k" shortRealm ⟨"alice", .usernamePassword⟩ "cookie"⟩]

def logoutAll : GetSessionRequest := ⟨[⟨"alice", .usernamePassword⟩], some .logoutAllSessions⟩

def namedSession : SessionData := shortRow.toData

theorem typed_twoLogins : ∀ c ∈ twoLogins, c.Typed := by
  intro c hc
  simp only [twoLogins, List.mem_cons, List.not_mem_nil, or_false] at hc
  rcases hc with rfl | rfl
  · exact typed_shortSession
  · refine ⟨by decide, fun _ _ _ _ hop => ?_⟩
    obtain ⟨_, rfl, _, _⟩ := StoreOp.upsertSession.inj hop
    decide

theorem expiryFits_twoLogins : ∀ c ∈ twoLogins, c.ExpiryFits := by
  intro c hc
  simp only [twoLogins, List.mem_cons, List.not_mem_nil, or_false] at hc
  rcases hc with rfl | rfl
  all_goals
    intro id realm client value hop
    obtain ⟨_, rfl, _, _⟩ := StoreOp.upsertSession.inj hop
    decide

theorem plain_twoLogins : ∀ x ∈ trace (SqlBackend.mysql.step Transparent.caseless) .empty twoLogins,
    SqlBackend.mysql.Plain Transparent.caseless x.1 x.2 := by
  intro x hx
  simp only [twoLogins, trace, List.mem_cons, List.not_mem_nil, or_false] at hx
  rcases hx with rfl | rfl
  · exact .of_upsertSession rfl (by decide)
  · exact .of_upsertSession rfl (by decide)

def bothLoggedIn : Sessions := run (SqlBackend.mysql.step Transparent.caseless) .empty twoLogins

def secondRow (name : String) : SessionRow :=
  newSession 0 "k" shortRealm ⟨name, .usernamePassword⟩ "cookie"

def firstUsed (now : Int) (name : String) : Sessions :=
  ⟨[SessionStore.touch now shortRow, secondRow name],
    show ["s", "k"].Nodup by decide⟩

theorem bothLoggedIn_rows : bothLoggedIn.rows = [shortRow, secondRow "alice"] := by
  decide

theorem postSession_firstUsed (name : String) (rows : List SessionRow) {b : SqlBackend}
    {s after : Sessions} {t : PostTimes}
    (hfound : (b.apply Transparent.caseless s ⟨t.access, .getSession "s"⟩).state.rows =
      (firstUsed t.access name).rows)
    (hanswer : (b.apply Transparent.caseless s ⟨t.access, .getSession "s"⟩).result =
      .ok (.session (some namedSession)))
    (hbind : b.unbindable
      (StoreOp.texts (.getSessionsForClients "r" [⟨"alice", .usernamePassword⟩])) = false)
    (hlist : b.rowsForClients Transparent.caseless (firstUsed t.access name).rows "r" t.listing
      [⟨"alice", .usernamePassword⟩] = some rows)
    (hafter : (b.apply Transparent.caseless (firstUsed t.access name) ⟨t.deletion, .deleteSessions
      (sessionsToLogout "s" (rows.map SessionRow.toData) .logoutAllSessions)⟩).state.rows =
        after.rows)
    (hdone : (b.apply Transparent.caseless (firstUsed t.access name) ⟨t.deletion, .deleteSessions
      (sessionsToLogout "s" (rows.map SessionRow.toData) .logoutAllSessions)⟩).result =
        .ok .done) :
    postSession (b.apply Transparent.caseless) s t "s" logoutAll =
      .ok after { status := 200, body := .session (some namedSession) } :=
  postSession_of_calls rfl (apply_eq_ok hfound hanswer) (apply_getSessionsForClients hbind hlist)
    (apply_eq_ok hafter hdone)

theorem plain_named : SqlBackend.mysql.Plain Transparent.caseless bothLoggedIn
    ⟨1, .getSession "s"⟩ := by
  refine .of_getSession rfl ?_
  have hrows : ∀ r ∈ [shortRow, secondRow "alice"],
      SqlBackend.mysql.same Transparent.caseless r.sessionId "s" = true → r.sessionId = "s" := by
    decide
  rw [← bothLoggedIn_rows] at hrows
  exact hrows

theorem bulk_logout_exact_twoLogins :
    BulkLogout (SqlBackend.mysql.reported Transparent.caseless)
      (fun sid => sid ∈ bothLoggedIn.keys) bothLoggedIn
      (SqlBackend.mysql.step Transparent.caseless bothLoggedIn ⟨1, .getSession "s"⟩)
      (postSession (SqlBackend.mysql.apply Transparent.caseless) bothLoggedIn
        ⟨1, 1, 1, by decide⟩ "s" logoutAll).state
      ⟨1, 1, 1, by decide⟩ "s" namedSession [⟨"alice", .usernamePassword⟩] .logoutAllSessions ∧
    BulkLogout RedisStore.reported (fun _ => True) (run RedisStore.step {} twoLogins)
      (RedisStore.step (run RedisStore.step {} twoLogins) ⟨1, .getSession "s"⟩)
      (postSession RedisStore.apply (run RedisStore.step {} twoLogins)
        ⟨1, 1, 1, by decide⟩ "s" logoutAll).state
      ⟨1, 1, 1, by decide⟩ "s" namedSession [⟨"alice", .usernamePassword⟩] .logoutAllSessions := by
  have h := bulk_logout_exact_iff Transparent.caseless twoLogins (by decide) typed_twoLogins
    ⟨1, 1, 1, by decide⟩ (by decide) (by decide) "s" logoutAll .logoutAllSessions rfl namedSession
  have hposted : postSession (SqlBackend.mysql.apply Transparent.caseless) bothLoggedIn
      ⟨1, 1, 1, by decide⟩ "s" logoutAll =
        .ok .empty { status := 200, body := .session (some namedSession) } := by
    have hrows : bothLoggedIn = ⟨[shortRow, secondRow "alice"], show ["s", "k"].Nodup by decide⟩ :=
      Table.ext_rows bothLoggedIn_rows
    rw [hrows]
    refine postSession_firstUsed "alice" (firstUsed 1 "alice").rows (by decide)
      (by decide) (by decide) ?_ (by decide) (by decide)
    rw [SqlBackend.rowsForClients_cons]
    decide
  refine ⟨(h.1 .mysql plain_twoLogins plain_named (congrArg Outcome.result hposted)).mpr ⟨?_, ?_⟩,
    (h.2 expiryFits_twoLogins (by rfl)).mpr ?_⟩
  · intro row hrow _ _
    have hrows : ∀ row ∈ bothLoggedIn.rows,
        ¬ (min row.staleAt (row.createdAt + row.maxAgeSeconds) = 1 ∧ (1 : Int) = 1) := by
      decide
    exact hrows row hrow
  · intro row hrow _ _ _
    have hrows : ∀ row ∈ bothLoggedIn.rows, row.realmId = "r" ∧ row.username = "alice" ∧
        row.authScheme = AuthScheme.usernamePassword.json := by decide
    obtain ⟨hrealm, hname, hscheme⟩ := hrows row hrow
    exact ⟨hrealm, _, List.mem_singleton_self _, hname, hscheme⟩
  · intro sid d hsid hd
    have hget := Keyspace.get_later (show (0 : Int) ≤ 1 by decide)
      (RedisStore.reported_eq_some_iff.mp hd).1
    rcases RedisStore.get_storeSession hget with ⟨rfl, rfl⟩ | ⟨_, hget⟩
    · constructor
      · exact fun _ => ⟨rfl, _, List.mem_singleton_self _, rfl, rfl⟩
      · exact fun _ => ⟨_, List.mem_singleton_self _, by decide⟩
    · rcases RedisStore.get_storeSession hget with ⟨rfl, _⟩ | ⟨_, hget⟩
      · exact absurd rfl hsid
      · cases hget

def oneUsed : Sessions :=
  run (SqlBackend.sqlite.step Transparent.caseless) .empty (twoLogins ++ [⟨4, .getSession "s"⟩])

/-- The table of MySQL after a login of another user, whose name differs in case alone. -/
def otherUser : Sessions :=
  run (SqlBackend.mysql.step Transparent.caseless) .empty
    [shortSession, ⟨0, .upsertSession "k" shortRealm ⟨"Alice", .usernamePassword⟩ "cookie"⟩]

def bothUsed : RedisState :=
  run RedisStore.step {} (twoLogins ++ [⟨4, .getSession "s"⟩, ⟨4, .getSession "k"⟩])

/-- Forced logouts that go wrong: on SQLite one misses the session whose idle deadline falls in that
second, on MySQL one ends a session of another user, and on Redis one misses the sessions of a
client who has been using them for longer than the set of its ids was kept. -/
theorem bulk_logout_misses_session :
    (SqlBackend.sqlite.reported Transparent.caseless oneUsed 5 "s" = some namedSession ∧
      ¬ BulkLogout (SqlBackend.sqlite.reported Transparent.caseless)
        (fun sid => sid ∈ oneUsed.keys) oneUsed
        (SqlBackend.sqlite.step Transparent.caseless oneUsed ⟨5, .getSession "s"⟩)
        (postSession (SqlBackend.sqlite.apply Transparent.caseless) oneUsed
          ⟨5, 5, 5, by decide⟩ "s" logoutAll).state
        ⟨5, 5, 5, by decide⟩ "s" namedSession [⟨"alice", .usernamePassword⟩]
        .logoutAllSessions) ∧
    (SqlBackend.mysql.reported Transparent.caseless otherUser 1 "s" = some namedSession ∧
      ¬ BulkLogout (SqlBackend.mysql.reported Transparent.caseless)
        (fun sid => sid ∈ otherUser.keys) otherUser
        (SqlBackend.mysql.step Transparent.caseless otherUser ⟨1, .getSession "s"⟩)
        (postSession (SqlBackend.mysql.apply Transparent.caseless) otherUser
          ⟨1, 1, 1, by decide⟩ "s" logoutAll).state
        ⟨1, 1, 1, by decide⟩ "s" namedSession [⟨"alice", .usernamePassword⟩]
        .logoutAllSessions) ∧
    (RedisStore.reported bothUsed 6 "s" = some namedSession ∧
      ¬ BulkLogout RedisStore.reported (fun _ => True) bothUsed
        (RedisStore.step bothUsed ⟨6, .getSession "s"⟩)
        (postSession RedisStore.apply bothUsed ⟨6, 6, 6, by decide⟩ "s" logoutAll).state
        ⟨6, 6, 6, by decide⟩ "s" namedSession [⟨"alice", .usernamePassword⟩]
        .logoutAllSessions) := by
  have hused : oneUsed = firstUsed 4 "alice" := Table.ext_rows (by decide)
  have hother : otherUser = ⟨[shortRow, secondRow "Alice"], show ["s", "k"].Nodup by decide⟩ :=
    Table.ext_rows (by decide)
  have hcov : Covers namedSession.realmId [⟨"alice", .usernamePassword⟩]
      (secondRow "alice").toData := ⟨rfl, _, List.mem_singleton_self _, rfl, rfl⟩
  rw [hused, hother]
  refine ⟨⟨by decide, fun h => ?_⟩, ⟨by decide, fun h => ?_⟩,
    by decide, fun h => ?_⟩
  · have hposted : postSession (SqlBackend.sqlite.apply Transparent.caseless) (firstUsed 4 "alice")
        ⟨5, 5, 5, by decide⟩ "s" logoutAll =
          .ok ⟨[secondRow "alice"], show ["k"].Nodup by decide⟩
            { status := 200, body := .session (some namedSession) } := by
      refine postSession_firstUsed "alice" [SessionStore.touch 5 shortRow] (by decide)
        (by decide) (by decide) ?_ (by decide) (by decide)
      rw [SqlBackend.rowsForClients_cons]
      decide
    have hgone := h.complete "k" (secondRow "alice").toData (by decide) (by decide)
      (by decide) hcov 5 (Int.le_refl 5)
    rw [hposted] at hgone
    revert hgone
    decide
  · have hposted : postSession (SqlBackend.mysql.apply Transparent.caseless)
        ⟨[shortRow, secondRow "Alice"], show ["s", "k"].Nodup by decide⟩
        ⟨1, 1, 1, by decide⟩ "s" logoutAll =
          .ok .empty { status := 200, body := .session (some namedSession) } := by
      refine postSession_firstUsed "Alice" (firstUsed 1 "Alice").rows (by decide)
        (by decide) (by decide) ?_ (by decide) (by decide)
      rw [SqlBackend.rowsForClients_cons]
      decide
    have hkept := h.exact "k" (secondRow "Alice").toData (by decide) (by decide)
      (by decide) (by simp [Covers, secondRow, newSession, SessionRow.toData]) 1
      (Int.le_refl 1)
    rw [hposted] at hkept
    revert hkept
    decide
  · have hgone := h.complete "k" (secondRow "alice").toData trivial (by decide) (by decide)
      hcov 6 (Int.le_refl 6)
    revert hgone
    decide

end AuthVerifier
