import AuthVerifier.Server

/-!
Isolation of sessions from each other. No handler of the `/sessions` scope asks who is calling, so
a request stays within the caller's authority exactly when what it names does: the theorem below
spells out, operation by operation, the sessions a request reaches.
-/

set_option autoImplicit false

namespace AuthVerifier
open Effects Relational Transition

def Body.sessionTexts : Body → List String
  | .session (some data) => [data.sessionId, data.cookieString]
  | .sessionIds ids => ids
  | _ => []

def HiddenFrom (r : SessionRow) (answer : Answer) : Prop :=
  ∀ response, answer = .ok response →
    r.sessionId ∉ response.body.sessionTexts ∧ r.cookieString ∉ response.body.sessionTexts

section
variable (A : SessionRow → Prop)

/-- A session that is not allowed is stored after the operation if and only if it was before, as
it was, and the answer does not show it. -/
def Confined (before after : Sessions) (answer : Answer) : Prop :=
  (∀ r, ¬ A r → (r ∈ after ↔ r ∈ before)) ∧ ∀ r ∈ before, ¬ A r → HiddenFrom r answer

def Apart (r shown : SessionRow) : Prop :=
  r.sessionId ≠ shown.cookieString ∧ r.cookieString ≠ shown.sessionId ∧
    r.cookieString ≠ shown.cookieString

/-- The session of the id is allowed, and showing it shows no other session that is not. -/
def MayRead (now : Int) (s : Sessions) (id : String) : Prop :=
  ∀ target ∈ s, target.sessionId = id → A target ∧
    (SessionStore.expired now target = false → ∀ r ∈ s, ¬ A r → Apart r target)

def Reaches (now : Int) (s : Sessions) : SessionsRequest → Prop
  | .upsertSession body => body.sessionId ∈ s.keys ∨
      A (newSession now body.sessionId body.realm body.authenticatedClient body.sessionValue)
  | .getSessionById id => MayRead A now s id
  | .getSession id body => MayRead A now s id ∧
      ∀ target ∈ s, target.sessionId = id → SessionStore.expired now target = false →
        body.sessionsAction.isSome → ∀ r ∈ s, r.sessionId ≠ id →
        SessionStore.matchesClient target.realmId body.authenticatedClients now r → A r
  | .getSessionsForClients realmId clients =>
      ∀ shown ∈ s, SessionStore.matchesClient realmId clients now shown →
        A shown ∧ ∀ r ∈ s, ¬ A r → r.cookieString ≠ shown.sessionId
  | .deleteSessions ids => ∀ r ∈ s, r.sessionId ∈ ids → A r
  | .deleteExpiredSessions => True
  | .deleteSessionsForRealm realmId => ∀ r ∈ s, r.realmId = realmId → A r

end

section
variable {A : SessionRow → Prop} {now : Int} {s : Sessions}

theorem hiddenFrom_of_texts {r : SessionRow} {response : HttpResponse}
    (h : response.body.sessionTexts = []) : HiddenFrom r (.ok response) := by
  intro response' he
  cases he
  simp [h]

theorem hiddenFrom_error {r : SessionRow} {e : AuthError} : HiddenFrom r (.error e) := by
  intro response he
  cases he

theorem confined_deleteWhere {p : SessionRow → Bool} {answer : Answer}
    (ha : ∀ r, HiddenFrom r answer) :
    Confined A s (s.deleteWhere p) answer ↔ ∀ r ∈ s, p r = true → A r := by
  constructor
  · intro h r hr hp
    by_contra hn
    have hkept := (Table.mem_deleteWhere.mp ((h.1 r hn).mpr hr)).2
    rw [hp] at hkept
    cases hkept
  · intro h
    refine ⟨fun r hn => ?_, fun r _ _ => ha r⟩
    rw [Table.mem_deleteWhere]
    constructor
    · intro hr
      exact hr.1
    · intro hr
      refine ⟨hr, ?_⟩
      cases hp : p r with
      | false => rfl
      | true => exact absurd (h r hr hp) hn

theorem confined_upsertSession (body : UpsertSessionRequest) :
    Confined A s (Endpoints.upsertSession now s body).state
      (Endpoints.upsertSession now s body).result ↔ Reaches A now s (.upsertSession body) := by
  unfold Endpoints.upsertSession Reaches
  cases hs : SessionStore.upsertSession s now body.sessionId body.realm body.authenticatedClient
      body.sessionValue with
  | error e =>
    have hk : body.sessionId ∈ s.keys := by
      by_contra hk
      simp [SessionStore.upsertSession, hk] at hs
    simp only [hk, true_or, iff_true]
    exact ⟨fun r _ => Iff.rfl, fun r _ _ => hiddenFrom_error⟩
  | ok s' =>
    obtain ⟨hk, hmem⟩ := SessionStore.upsertSession_ok hs
    simp only [hk, false_or]
    constructor
    · intro h
      by_contra hn
      have hold := (h.1 _ hn).mp ((hmem _).mpr (.inr rfl))
      exact hk (Table.key_mem_keys hold)
    · intro hA
      refine ⟨fun r hn => ?_, fun r _ _ => hiddenFrom_of_texts rfl⟩
      refine (hmem r).trans ⟨fun hr => ?_, .inl⟩
      rcases hr with hr | hr
      · exact hr
      · rw [hr] at hn
        exact absurd hA hn

theorem hiddenFrom_session {r target : SessionRow} (hr : r ∈ s) (ht : target ∈ s) (hne : r ≠ target)
    {status : Nat} :
    HiddenFrom r (.ok { status := status, body := .session (some target.toData) }) ↔
      Apart r target := by
  have hid : r.sessionId ≠ target.sessionId := fun he => hne (Table.eq_of_key hr ht he)
  constructor
  · intro h
    have hh := h _ rfl
    simp only [Body.sessionTexts, SessionRow.toData, List.mem_cons, List.not_mem_nil, or_false,
      not_or] at hh
    exact ⟨hh.1.2, hh.2.1, hh.2.2⟩
  · intro h response he
    cases he
    simp only [Body.sessionTexts, SessionRow.toData, List.mem_cons, List.not_mem_nil, or_false,
      not_or]
    exact ⟨⟨hid, h.1⟩, h.2.1, h.2.2⟩

theorem not_hiddenFrom_self {target : SessionRow} {status : Nat} :
    ¬ HiddenFrom target (.ok { status := status, body := .session (some target.toData) }) := by
  intro h
  have hh := (h _ rfl).1
  simp [Body.sessionTexts, SessionRow.toData] at hh

theorem mem_touched_of_ne {id : String} {r : SessionRow} (hne : r.sessionId ≠ id) :
    r ∈ s.updateWhere (fun x => x.sessionId == id) (SessionStore.touch now) (fun _ => rfl) ↔
      r ∈ s := by
  refine (@Table.mem_updateWhere _ _ _ s _ (SessionStore.touch now) (fun _ => rfl) r).trans ?_
  constructor
  · intro h
    obtain ⟨old, hold, he⟩ := h
    split at he
    · rename_i hid
      have hr : old.sessionId = r.sessionId := by
        rw [← he]
        rfl
      rw [← hr] at hne
      exact absurd (by simpa using hid) hne
    · exact he ▸ hold
  · intro hr
    exact ⟨r, hr, by simp [hne]⟩

theorem same_of_mem_touched {target r : SessionRow} (ht : target ∈ s)
    (hr : r ∈ s.updateWhere (fun x => x.sessionId == target.sessionId) (SessionStore.touch now)
      (fun _ => rfl)) (hid : r.sessionId = target.sessionId) :
    SessionStore.SameSession target r := by
  obtain ⟨old, hold, he⟩ :=
    (@Table.mem_updateWhere _ _ _ s _ (SessionStore.touch now) (fun _ => rfl) r).mp hr
  split at he
  · rename_i heq
    have h : old = target := Table.eq_of_key hold ht (by simpa using heq)
    rw [← he, h]
    exact SessionStore.sameSession_touch now target
  · rename_i hne
    rw [he] at hne
    exact absurd (by simpa using hid) hne

/-- An operation that shows a stored session, changes at most its idle deadline and deletes the
rows under `p` among the others. -/
theorem confined_read (hA : ∀ r r', SessionStore.SameSession r r' → (A r ↔ A r'))
    {after : Sessions} {target : SessionRow} (ht : target ∈ s) {p : SessionRow → Prop}
    (hother : ∀ r, r.sessionId ≠ target.sessionId → (r ∈ after ↔ r ∈ s ∧ ¬ p r))
    (hself : ∀ r ∈ after, r.sessionId = target.sessionId → SessionStore.SameSession target r)
    {status : Nat} :
    Confined A s after (.ok { status := status, body := .session (some target.toData) }) ↔
      (A target ∧ ∀ r ∈ s, ¬ A r → Apart r target) ∧
        ∀ r ∈ s, r.sessionId ≠ target.sessionId → p r → A r := by
  constructor
  · intro h
    have hAt : A target := by
      by_contra hn
      exact not_hiddenFrom_self (h.2 target ht hn)
    refine ⟨⟨hAt, fun r hr hn => ?_⟩, fun r hr hne hp => ?_⟩
    · have hne : r ≠ target := fun he => hn (he ▸ hAt)
      exact (hiddenFrom_session hr ht hne).mp (h.2 r hr hn)
    · by_contra hn
      exact ((hother r hne).mp ((h.1 r hn).mpr hr)).2 hp
  · intro h
    obtain ⟨⟨hAt, hapart⟩, hdel⟩ := h
    refine ⟨fun r hn => ?_, fun r hr hn => ?_⟩
    · by_cases hid : r.sessionId = target.sessionId
      · constructor
        · intro hr
          exact absurd ((hA _ _ (hself r hr hid)).mp hAt) hn
        · intro hr
          exact absurd (Table.eq_of_key hr ht hid ▸ hAt) hn
      · rw [hother r hid]
        exact ⟨fun hr => hr.1, fun hr => ⟨hr, fun hp => hn (hdel r hr hid hp)⟩⟩
    · have hne : r ≠ target := fun he => hn (he ▸ hAt)
      exact (hiddenFrom_session hr ht hne).mpr (hapart r hr hn)

theorem mayRead_of_unused {id : String} (h : id ∉ s.keys) : MayRead A now s id := by
  intro target ht hid
  exact absurd (hid ▸ Table.key_mem_keys ht) h

theorem mayRead_of_mem {target : SessionRow} (ht : target ∈ s) :
    MayRead A now s target.sessionId ↔ A target ∧
      (SessionStore.expired now target = false → ∀ r ∈ s, ¬ A r → Apart r target) := by
  constructor
  · intro h
    exact h target ht rfl
  · intro h target' ht' hid
    rw [Table.eq_of_key ht' ht hid]
    exact h

theorem mayRead_of_expired {target : SessionRow} (ht : target ∈ s)
    (he : SessionStore.expired now target = true) {answer : Answer}
    (ha : ∀ r, HiddenFrom r answer) :
    Confined A s (s.deleteWhere (fun x => x.sessionId == target.sessionId)) answer ↔
      MayRead A now s target.sessionId := by
  rw [confined_deleteWhere ha, mayRead_of_mem ht]
  constructor
  · intro h
    refine ⟨h target ht (by simp), fun hlive => ?_⟩
    rw [he] at hlive
    cases hlive
  · intro h r hr hid
    rw [Table.eq_of_key hr ht (by simpa using hid)]
    exact h.1

theorem confined_getSessionById (hA : ∀ r r', SessionStore.SameSession r r' → (A r ↔ A r'))
    (id : String) :
    Confined A s (Endpoints.getSessionById now s id).state
      (Endpoints.getSessionById now s id).result ↔ MayRead A now s id := by
  simp only [Endpoints.getSessionById, SessionStore.getSession, Outcome.ok]
  cases hf : s.find? id with
  | none =>
    have hk := Table.find?_eq_none_iff.mp hf
    refine iff_of_true ⟨fun _ _ => Iff.rfl, fun r _ _ => hiddenFrom_of_texts rfl⟩
      (mayRead_of_unused hk)
  | some target =>
    obtain ⟨ht, rfl⟩ := Table.find?_eq_some_iff.mp hf
    dsimp only
    split
    · rename_i he
      exact mayRead_of_expired ht he (fun r => hiddenFrom_of_texts rfl)
    · rename_i hlive
      rw [mayRead_of_mem ht, confined_read hA ht (p := fun _ => False)
        (fun r hne => by rw [mem_touched_of_ne hne]; simp)
        (fun r hr hid => same_of_mem_touched ht hr hid)]
      simp only [hlive, forall_const, false_implies, implies_true, and_true]

theorem mem_listed {realmId : String} {clients : List AuthenticatedClientScheme} {r : SessionRow}
    (hr : r ∈ s) :
    r.sessionId ∈ (SessionStore.getSessionsForClients s now realmId clients).map
        SessionData.sessionId ↔ SessionStore.matchesClient realmId clients now r = true := by
  simp only [SessionStore.getSessionsForClients, List.map_map, List.mem_map, List.mem_filter]
  constructor
  · intro h
    obtain ⟨q, ⟨hq, hm⟩, hid⟩ := h
    have he : q = r := Table.eq_of_key hq hr hid
    exact he ▸ hm
  · intro hm
    exact ⟨r, ⟨hr, hm⟩, rfl⟩

theorem mem_sessionsToLogout {id realmId : String} {clients : List AuthenticatedClientScheme}
    {action : SessionsAction} {r : SessionRow} (hr : r ∈ s) (hne : r.sessionId ≠ id) :
    r.sessionId ∈ Endpoints.sessionsToLogout now s id realmId clients action ↔
      SessionStore.matchesClient realmId clients now r = true := by
  cases action with
  | logoutOtherSessions => simp [Endpoints.sessionsToLogout, List.mem_filter, mem_listed hr, hne]
  | logoutAllSessions => simp [Endpoints.sessionsToLogout, mem_listed hr, hne]

theorem confined_getSession (hA : ∀ r r', SessionStore.SameSession r r' → (A r ↔ A r'))
    (id : String) (body : GetSessionRequest) :
    Confined A s (Endpoints.getSession now s id body).state
      (Endpoints.getSession now s id body).result ↔ Reaches A now s (.getSession id body) := by
  simp only [Endpoints.getSession, SessionStore.getSession, Reaches]
  cases hf : s.find? id with
  | none =>
    have hk := Table.find?_eq_none_iff.mp hf
    refine iff_of_true ⟨fun _ _ => Iff.rfl, fun r _ _ => hiddenFrom_error⟩
      ⟨mayRead_of_unused hk, ?_⟩
    intro target ht hid
    exact absurd (hid ▸ Table.key_mem_keys ht) hk
  | some target =>
    obtain ⟨ht, rfl⟩ := Table.find?_eq_some_iff.mp hf
    dsimp only
    by_cases he : SessionStore.expired now target = true
    · simp only [he, if_true]
      rw [Outcome.error_state, Outcome.error_result,
        mayRead_of_expired ht he (fun r => hiddenFrom_error)]
      refine ⟨fun h => ⟨h, ?_⟩, fun h => h.1⟩
      intro target' ht' hid hlive
      rw [Table.eq_of_key ht' ht hid, he] at hlive
      cases hlive
    · have hlive : SessionStore.expired now target = false := by simpa using he
      have honly : ∀ Q : SessionRow → Prop,
          (∀ t ∈ s, t.sessionId = target.sessionId → SessionStore.expired now t = false → Q t) ↔
            Q target := by
        intro Q
        refine ⟨fun h => h target ht rfl hlive, fun h t htm hid _ => ?_⟩
        rw [Table.eq_of_key htm ht hid]
        exact h
      rw [mayRead_of_mem ht, honly]
      simp only [hlive, Bool.false_eq_true, if_false, forall_const]
      cases haction : body.sessionsAction with
      | none =>
        simp only [Outcome.ok]
        rw [confined_read hA ht (p := fun _ => False)
          (fun r hne => by rw [mem_touched_of_ne hne]; simp)
          (fun r hr hid => same_of_mem_touched ht hr hid)]
        simp
      | some action =>
        simp only [Outcome.ok]
        rw [confined_read hA ht
          (p := fun r => SessionStore.matchesClient target.realmId body.authenticatedClients now r
            = true)]
        · simp
        · intro r hne
          rw [SessionStore.deleteSessions, Table.mem_deleteWhere, mem_touched_of_ne hne]
          refine and_congr_right fun hr => ?_
          simp only [List.contains_eq_mem, decide_eq_false_iff_not]
          exact not_congr (mem_sessionsToLogout ((mem_touched_of_ne hne).mpr hr) hne)
        · intro r hr hid
          exact same_of_mem_touched ht (Table.mem_deleteWhere.mp hr).1 hid

theorem confined_getSessionsForClients (realmId : String)
    (clients : List AuthenticatedClientScheme) :
    Confined A s (Endpoints.getSessionsForClients now s realmId clients).state
      (Endpoints.getSessionsForClients now s realmId clients).result ↔
      Reaches A now s (.getSessionsForClients realmId clients) := by
  simp only [Endpoints.getSessionsForClients, Outcome.ok_state, Outcome.ok_result, Reaches]
  constructor
  · intro h shown hs hm
    have hid := (mem_listed hs).mpr hm
    refine ⟨?_, fun r hr hn he => ?_⟩
    · by_contra hn
      exact (h.2 shown hs hn _ rfl).1 hid
    · have hc := (h.2 r hr hn _ rfl).2
      rw [he] at hc
      exact hc hid
  · intro h
    refine ⟨fun _ _ => Iff.rfl, fun r hr hn response he => ?_⟩
    cases he
    refine ⟨fun hid => hn (h r hr ((mem_listed hr).mp hid)).1, fun hcookie => ?_⟩
    simp only [Body.sessionTexts, SessionStore.getSessionsForClients, List.map_map, List.mem_map,
      List.mem_filter] at hcookie
    obtain ⟨shown, ⟨hs, hm⟩, heq⟩ := hcookie
    exact (h shown hs hm).2 r hr hn heq.symm

theorem confined_iff_reaches (hA : ∀ r r', SessionStore.SameSession r r' → (A r ↔ A r'))
    {req : SessionsRequest} (hreq : req ≠ .deleteExpiredSessions) :
    Confined A s (handleSessions now s req).state (handleSessions now s req).result ↔
      Reaches A now s req := by
  cases req with
  | upsertSession body => exact confined_upsertSession body
  | getSessionById id => exact confined_getSessionById hA id
  | getSession id body => exact confined_getSession hA id body
  | getSessionsForClients realmId clients => exact confined_getSessionsForClients realmId clients
  | deleteSessions ids =>
    refine (confined_deleteWhere (fun r => hiddenFrom_of_texts rfl)).trans ?_
    simp [Reaches]
  | deleteExpiredSessions => exact absurd rfl hreq
  | deleteSessionsForRealm realmId =>
    refine (confined_deleteWhere (fun r => hiddenFrom_of_texts rfl)).trans ?_
    simp [Reaches]

theorem confined_congr {s' after : Sessions} {answer : Answer}
    (h : ∀ r, ¬ A r → (r ∈ s' ↔ r ∈ s)) :
    Confined A s' after answer ↔ Confined A s after answer := by
  unfold Confined
  refine and_congr ?_ ?_
  · exact forall_congr' fun r => forall_congr' fun hn => iff_congr Iff.rfl (h r hn)
  · constructor
    · intro hh r hr hn
      exact hh r ((h r hn).mpr hr) hn
    · intro hh r hr hn
      exact hh r ((h r hn).mp hr) hn

end

section
variable (X : Externals) (params : ServerParams)

/-- The caller's own session, or one of a realm that the caller's administrator record
administers. -/
def Allowed (s : ServerState) (value : String) (claims : ClientClaims) (r : SessionRow) : Prop :=
  r.sessionId = sessionIdFromCookieValue X value ∨
    ∃ admin, adminAuth X s.db claims = .ok admin ∧ admin.canAdministerRealm r.realmId = true

/-- The request passes the middlewares of the scope with these claims. -/
def PassesScope (s : ServerState) (c : Call) (value : String) (claims : ClientClaims)
    (req : SessionsRequest) : Prop :=
  ∃ query realm, c.request = .sessions query (some value) req ∧
    extractRealm s.db query = .ok realm ∧
    (cookieAuth X s.sessions c.moment (some value)).result = .ok claims

/-- What an authenticated caller does to the store, and is told of it, stays within what it is
allowed. The sweep of expired sessions is nobody's operation in particular. -/
def Isolated (s : ServerState) (c : Call) : Prop :=
  ∀ value claims req, PassesScope X s c value claims req → req ≠ .deleteExpiredSessions →
    Confined (Allowed X s value claims) s.sessions (handle X params s c).1.sessions
      (handle X params s c).2

def WithinAuthority (s : ServerState) (c : Call) : Prop :=
  ∀ value claims req, PassesScope X s c value claims req → req ≠ .deleteExpiredSessions →
    Reaches (Allowed X s value claims) c.moment.now
      (cookieAuth X s.sessions c.moment (some value)).state req

end

section
variable {X : Externals} {params : ServerParams}

theorem mem_cookieAuth_of_ne {sessions : Sessions} {m : Moment} {value : String} {r : SessionRow}
    (hne : r.sessionId ≠ sessionIdFromCookieValue X value) :
    r ∈ (cookieAuth X sessions m (some value)).state ↔ r ∈ sessions := by
  rw [cookieAuth_state]
  simp only [SessionStore.getSession]
  split
  · rfl
  · split
    · rw [Table.mem_deleteWhere]
      simp [hne]
    · exact mem_touched_of_ne hne

theorem handle_sessions {s : ServerState} {c : Call} {value : String} {claims : ClientClaims}
    {req : SessionsRequest} (h : PassesScope X s c value claims req) :
    let out := handleSessions c.moment.now (cookieAuth X s.sessions c.moment (some value)).state req
    (handle X params s c).1.sessions = out.state ∧ (handle X params s c).2 = out.result := by
  obtain ⟨query, realm, hreq, hrealm, hclaims⟩ := h
  simp only [handle, hreq, hrealm, withRealm, withSession, hclaims, handleSessionsCall, and_self]

theorem isolated_iff (s : ServerState) (c : Call) :
    Isolated X params s c ↔ WithinAuthority X s c := by
  unfold Isolated WithinAuthority
  refine forall_congr' fun value => forall_congr' fun claims => forall_congr' fun req =>
    forall_congr' fun hp => forall_congr' fun hreq => ?_
  have hA : ∀ r r', SessionStore.SameSession r r' →
      (Allowed X s value claims r ↔ Allowed X s value claims r') := by
    intro r r' hs
    unfold SessionStore.SameSession at hs
    rw [hs]
    rfl
  obtain ⟨hstate, hanswer⟩ := @handle_sessions X params s c value claims req hp
  rw [hstate, hanswer, ← confined_iff_reaches hA hreq]
  refine (confined_congr fun r hn => ?_).symm
  exact mem_cookieAuth_of_ne (fun he => hn (.inl he))

/-- Along a run, every request of the `/sessions` scope leaves the sessions of others alone and
hidden exactly when every such request reaches only what its caller is allowed. -/
theorem session_isolation_iff (start : ServerState) (calls : List Call) :
    (∀ x ∈ trace (step X params) start calls, Isolated X params x.1 x.2) ↔
      ∀ x ∈ trace (step X params) start calls, WithinAuthority X x.1 x.2 :=
  trace_forall_iff (step X params) isolated_iff calls

end

/-- Root creates a realm and an ordinary user `alice` in it, who logs in. -/
def aliceRun : List Call :=
  [Transparent.rootLogin,
   ⟨Transparent.moment 1001, .admin "" (some Transparent.rootCookie) (.createRealm
      { id := "r", authParams := { usernamePasswordParams := some ⟨true⟩ },
        sessionMaxAgeSeconds := 3600, sessionMaxStaleAgeSeconds := 3600 })⟩,
   ⟨Transparent.moment 1002, .admin "" (some Transparent.rootCookie) (.createUserpass "r"
      { realm := "r", username := "alice", passwordInput := some (.plaintext "pw"),
        changePassword := false })⟩,
   ⟨Transparent.moment 1003, .login "realm=r" (some "Basic YWxpY2U6cHc=") {}⟩]

def aliceClaims : ClientClaims := issuedClaims 1003 "alice" .usernamePassword "r" [] [] 3600

def aliceReads : Call :=
  ⟨Transparent.moment 1004, .sessions "" (some "alice.r.up.1003.4603.n")
    (.getSessionById (Transparent.externals.sha256Hex Transparent.rootCookie))⟩

def rootSession : SessionRow :=
  { sessionId := Transparent.externals.sha256Hex Transparent.rootCookie, realmId := "_"
    username := "admin", authScheme := "\"up\""
    cookieString := Transparent.cookieToString Transparent.rootCookie 3600 true
    staleAt := 4600, maxStaleAgeSeconds := 3600, maxAgeSeconds := 3600, createdAt := 1000 }

theorem aliceRun_facts :
    let s := run (step Transparent.externals Transparent.params) Transparent.start aliceRun
    (cookieAuth Transparent.externals s.sessions (Transparent.moment 1004)
        (some "alice.r.up.1003.4603.n")).result = .ok aliceClaims ∧
      adminAuth Transparent.externals s.db aliceClaims =
        .error (.session "No admin found for the given auth scheme and value") ∧
      rootSession ∈ s.sessions ∧
      (handle Transparent.externals Transparent.params s aliceReads).2 =
        .ok { status := 200, body := .session (some rootSession.toData) } := by
  decide

theorem getSessionById_discloses_foreign_cookie :
    ¬ Isolated Transparent.externals Transparent.params
      (run (step Transparent.externals Transparent.params) Transparent.start aliceRun)
      aliceReads := by
  intro h
  obtain ⟨hcookie, hadmin, hmem, hanswer⟩ := aliceRun_facts
  have hconfined := h _ aliceClaims _ ⟨"", none, rfl, rfl, hcookie⟩ (by simp)
  have hforeign : ¬ Allowed Transparent.externals
      (run (step Transparent.externals Transparent.params) Transparent.start aliceRun)
      "alice.r.up.1003.4603.n" aliceClaims rootSession := by
    intro ha
    rcases ha with ha | ⟨admin, ha, _⟩
    · revert ha
      decide
    · rw [hadmin] at ha
      cases ha
  have hhidden := (hconfined.2 rootSession hmem hforeign _ hanswer).2
  simp [Body.sessionTexts, SessionRow.toData] at hhidden

end AuthVerifier
