import AuthVerifier.Lib.Outcome
import AuthVerifier.Lib.Run
import AuthVerifier.ClientListing

/-!
The SQL session stores as one state machine. `session/impls/sqlite.rs`, `postgres.rs` and `mysql.rs`
issue the same statements. They differ in how the database compares texts, in what it does with a
sum out of range, in the column types of the `session` table and in the texts of their drivers.
-/

set_option autoImplicit false

namespace AuthVerifier
open Bounded Effects Relational Transition

/-- The calls of the `SessionStore` trait. -/
inductive StoreOp where
  | upsertSession (sessionId : String) (realm : Realm) (client : AuthenticatedClientScheme)
      (value : String)
  | getSession (sessionId : String)
  | getSessionsForClients (realmId : String) (clients : List AuthenticatedClientScheme)
  | deleteSessions (sessionIds : List String)
  | deleteExpiredSessions
  | deleteSessionsForRealm (realmId : String)
  deriving DecidableEq

structure StoreCall where
  now : Int
  op : StoreOp
  deriving DecidableEq

inductive StoreAnswer where
  | done
  | session (data : Option SessionData)
  | sessions (data : List SessionData)
  deriving DecidableEq

namespace StoreOp

/-- The texts that the statement of a call is bound to; without clients there is no statement. -/
def texts : StoreOp → List String
  | .upsertSession id realm client value =>
    [id, realm.id, client.username, client.authScheme.json, value]
  | .getSession id => [id]
  | .getSessionsForClients _ [] => []
  | .getSessionsForClients realmId clients =>
    realmId :: clients.flatMap fun c => [c.username, c.authScheme.json]
  | .deleteSessions ids => ids
  | .deleteExpiredSessions => []
  | .deleteSessionsForRealm realmId => [realmId]

def doing : StoreOp → String
  | .upsertSession .. => "insert session"
  | .getSession _ => "fetch session"
  | .getSessionsForClients .. => "fetch sessions"
  | .deleteSessions _ => "delete sessions"
  | .deleteExpiredSessions => "delete expired sessions"
  | .deleteSessionsForRealm _ => "delete sessions for realm"

def error (op : StoreOp) (text : String) : AuthError :=
  .generic ("Failed to " ++ op.doing ++ ": error returned from database: " ++ text)

end StoreOp

namespace SqlBackend

/-- The columns that cannot hold their value: `mysql.rs` declares lengths, the others `TEXT`. -/
def overlong : SqlBackend → SessionRow → Option String
  | .sqlite, _ => none
  | .postgres, _ => none
  | .mysql, r =>
    if r.sessionId.length > 36 then some "session_id"
    else if r.realmId.length > 255 then some "realm_id"
    else if r.username.length > 255 then some "username"
    else if r.authScheme.length > 50 then some "auth_scheme"
    else if r.cookieString.utf8ByteSize > 65535 then some "cookie_string"
    else none

def unbindable : SqlBackend → List String → Bool
  | .postgres, texts => texts.any fun t => t.toList.contains '\x00'
  | .sqlite, _ => false
  | .mysql, _ => false

def overlongText (column : String) : String :=
  s!"1406 (22001): Data too long for column '{column}' at row 1"

def duplicateText : SqlBackend → String → String
  | .sqlite, _ => "(code: 1555) UNIQUE constraint failed: session.session_id"
  | .postgres, _ => "duplicate key value violates unique constraint \"session_pkey\""
  | .mysql, id => s!"1062 (23000): Duplicate entry '{id}' for key 'session.PRIMARY'"

def unbindableText : String := "invalid byte sequence for encoding \"UTF8\": 0x00"

def overflowText : SqlBackend → String
  | .mysql => "1690 (22003): BIGINT value is out of range"
  | _ => "bigint out of range"

section
variable {W : Type} [DecidableEq W] (collation : String → W) (b : SqlBackend)

def same (x y : String) : Bool := (b.engine collation).sameText x y

theorem unused_of_not_any {s : Sessions} {id : String}
    (h : ¬ (s.rows.any fun r => b.same collation r.sessionId id) = true) : id ∉ s.keys := by
  intro hid
  obtain ⟨r, hr, rfl⟩ := Table.mem_keys.mp hid
  refine h (List.any_eq_true.mpr ⟨r, hr, ?_⟩)
  cases b <;> simp [same, engine]

/-- A plain `INSERT`, whatever the doc of the trait says: an id already in use is an error. -/
def upsertSession (s : Sessions) (now : Int) (sessionId : String) (realm : Realm)
    (client : AuthenticatedClientScheme) (value : String) : Except AuthError Sessions :=
  let op := StoreOp.upsertSession sessionId realm client value
  match b.overlong (newSession now sessionId realm client value) with
  | some column => .error (op.error (overlongText column))
  | none =>
    if h : (s.rows.any fun r => b.same collation r.sessionId sessionId) = true then
      .error (op.error (b.duplicateText sessionId))
    else .ok (s.insert (newSession now sessionId realm client value)
      (b.unused_of_not_any collation h))

def getSession (s : Sessions) (now : Int) (sessionId : String) : Sessions × Option SessionData :=
  match s.rows.find? fun r => b.same collation r.sessionId sessionId with
  | none => (s, none)
  | some r =>
    if SessionStore.expired now r then
      (s.deleteWhere fun x => b.same collation x.sessionId sessionId, none)
    else
      (s.updateWhere (fun x => b.same collation x.sessionId sessionId)
        (fun x => { x with staleAt := (SessionStore.touch now r).staleAt }) (fun _ => rfl),
        some { r.toData with sessionId := sessionId })

/-- `stale_at <= ? OR (created_at + max_age_seconds) <= ?`, nothing if the sum has no value. -/
def past (now : Int) (r : SessionRow) : Option Bool :=
  if r.staleAt ≤ now then some true
  else ((b.engine collation).sum r.createdAt r.maxAgeSeconds).map fun deadline =>
    decide (deadline ≤ now)

def deleteExpiredSessions (s : Sessions) (now : Int) : Option Sessions :=
  if s.rows.all fun r => (b.past collation now r).isSome then
    some (s.deleteWhere fun r => (b.past collation now r).getD false)
  else none

def apply (s : Sessions) (c : StoreCall) : Outcome Sessions AuthError StoreAnswer :=
  if b.unbindable c.op.texts then .error s (c.op.error unbindableText)
  else
    match c.op with
    | .upsertSession id realm client value =>
      match b.upsertSession collation s c.now id realm client value with
      | .error e => .error s e
      | .ok s' => .ok s' .done
    | .getSession id =>
      .ok (b.getSession collation s c.now id).1 (.session (b.getSession collation s c.now id).2)
    | .getSessionsForClients realmId clients =>
      match b.rowsForClients collation s.rows realmId c.now clients with
      | none => .error s (c.op.error b.overflowText)
      | some rows => .ok s (.sessions (rows.map SessionRow.toData))
    | .deleteSessions ids =>
      .ok (s.deleteWhere fun r => ids.any fun id => b.same collation r.sessionId id) .done
    | .deleteExpiredSessions =>
      match b.deleteExpiredSessions collation s c.now with
      | none => .error s (c.op.error b.overflowText)
      | some s' => .ok s' .done
    | .deleteSessionsForRealm realmId =>
      .ok (s.deleteWhere fun r => b.same collation r.realmId realmId) .done

def step (s : Sessions) (c : StoreCall) : Sessions := (b.apply collation s c).state

def reported (s : Sessions) (now : Int) (id : String) : Option SessionData :=
  match (b.apply collation s ⟨now, .getSession id⟩).result with
  | .ok (.session data) => data
  | _ => none

def Apart (s : Sessions) (id : String) : Prop :=
  ∀ r ∈ s, b.same collation r.sessionId id = true → r.sessionId = id

def Unused (s : Sessions) (id : String) : Prop :=
  ∀ r ∈ s, b.same collation r.sessionId id = false

def KeysApart (s : Sessions) : Prop := ∀ r ∈ s, b.Apart collation s r.sessionId

/-- The store takes the call as it is meant: the database can bind its texts, it tells the keys in
them from other stored ones, and the deadlines of a session that is created are in range. -/
structure Plain (s : Sessions) (c : StoreCall) : Prop where
  bindable : b.unbindable c.op.texts = false
  get : ∀ id, c.op = .getSession id → b.Apart collation s id
  delete : ∀ ids, c.op = .deleteSessions ids → ∀ id ∈ ids, b.Apart collation s id
  deleteRealm : ∀ realmId, c.op = .deleteSessionsForRealm realmId →
    ∀ r ∈ s, b.same collation r.realmId realmId = true → r.realmId = realmId
  fits : ∀ id realm client value, c.op = .upsertSession id realm client value →
    IsI64 (c.now + realm.sessionMaxStaleAgeSeconds) ∧ IsI64 (c.now + realm.sessionMaxAgeSeconds)

end

section
variable {W : Type} [DecidableEq W] {collation : String → W} {b : SqlBackend} {s s' : Sessions}
  {c : StoreCall} {now : Int} {id value : String} {realm : Realm}
  {client : AuthenticatedClientScheme}

@[simp] theorem same_self (x : String) : b.same collation x x = true := by
  cases b <;> simp [same, engine]

theorem eq_of_same {x y : String} (hb : b ≠ .mysql) (h : b.same collation x y = true) : x = y := by
  cases b with
  | sqlite => simpa [same, engine] using h
  | postgres => simpa [same, engine] using h
  | mysql => exact absurd rfl hb

theorem Apart.same_eq (h : b.Apart collation s id) {r : SessionRow} (hr : r ∈ s) :
    b.same collation r.sessionId id = (r.sessionId == id) := by
  rw [Bool.eq_iff_iff, beq_iff_eq]
  constructor
  · exact h r hr
  · rintro rfl
    exact same_self _

theorem deleteWhere_congr {p q : SessionRow → Bool} (h : ∀ r ∈ s, p r = q r) :
    s.deleteWhere p = s.deleteWhere q := by
  apply Table.ext_rows
  exact List.filter_congr fun r hr => by rw [h r hr]

theorem updateWhere_congr {p q : SessionRow → Bool} {f g : SessionRow → SessionRow}
    {hf : ∀ x, (f x).sessionId = x.sessionId} {hg : ∀ x, (g x).sessionId = x.sessionId}
    (h : ∀ r ∈ s, (if p r then f r else r) = if q r then g r else r) :
    s.updateWhere p f hf = s.updateWhere q g hg := by
  apply Table.ext_rows
  exact List.map_congr_left h

theorem getSession_of_apart (h : b.Apart collation s id) :
    b.getSession collation s now id = SessionStore.getSession s now id := by
  have hfind : (s.rows.find? fun r => b.same collation r.sessionId id) = s.find? id := by
    unfold Table.find?
    exact find?_congr fun r hr => h.same_eq hr
  unfold getSession SessionStore.getSession
  rw [hfind]
  cases hf : s.find? id with
  | none => rfl
  | some r =>
    obtain ⟨hr, rfl⟩ := Table.find?_eq_some_iff.mp hf
    simp only
    split
    · rw [deleteWhere_congr fun x hx => h.same_eq hx]
    · refine congrArg (fun t => (t, some r.toData)) (updateWhere_congr fun x hx => ?_)
      rw [h.same_eq hx]
      by_cases hid : x.sessionId = r.sessionId
      · rw [Table.eq_of_key hx hr hid]
        rfl
      · simp [hid]

theorem KeysApart.apart (h : b.KeysApart collation s) (hid : id ∈ s.keys) :
    b.Apart collation s id := by
  obtain ⟨r, hr, rfl⟩ := Table.mem_keys.mp hid
  exact h r hr

theorem upsertSession_ok
    (h : b.upsertSession collation s now id realm client value = .ok s') :
    b.Unused collation s id ∧ id ∉ s.keys ∧
      ∀ r, r ∈ s' ↔ r ∈ s ∨ r = newSession now id realm client value := by
  unfold upsertSession at h
  dsimp only at h
  split at h
  · cases h
  · split at h
    · cases h
    · rename_i hany
      cases h
      refine ⟨fun r hr => ?_, b.unused_of_not_any collation hany, fun _ => Table.mem_insert⟩
      by_contra hsame
      exact hany (List.any_eq_true.mpr ⟨r, hr, by simpa using hsame⟩)

theorem unbindable_head {x : String} {texts : List String}
    (h : b.unbindable (x :: texts) = false) : b.unbindable [x] = false := by
  cases b with
  | sqlite => rfl
  | mysql => rfl
  | postgres =>
    simp only [unbindable, List.any_cons, List.any_nil, Bool.or_false,
      Bool.or_eq_false_iff] at h ⊢
    exact h.1

theorem upsertSession_ok_iff :
    (b.apply collation s ⟨now, .upsertSession id realm client value⟩).result = .ok .done ↔
      b.unbindable (StoreOp.texts (.upsertSession id realm client value)) = false ∧
        b.overlong (newSession now id realm client value) = none ∧
          b.Unused collation s id := by
  have hany : (s.rows.any fun r => b.same collation r.sessionId id) = false ↔
      b.Unused collation s id := by
    rw [List.any_eq_false]
    simp only [Bool.not_eq_true]
    exact Iff.rfl
  rw [← hany]
  unfold apply upsertSession
  cases b.unbindable (StoreOp.texts (.upsertSession id realm client value)) with
  | true => simp
  | false =>
    cases hcolumn : b.overlong (newSession now id realm client value) with
    | some column => simp [hcolumn]
    | none =>
      cases hused : s.rows.any fun r => b.same collation r.sessionId id with
      | true => simp [-List.any_eq_true, hcolumn, hused]
      | false => simp [-List.any_eq_false, hcolumn, hused]

theorem step_upsertSession :
    ((b.apply collation s ⟨now, .upsertSession id realm client value⟩).result = .ok .done ∧
      b.upsertSession collation s now id realm client value =
        .ok (b.step collation s ⟨now, .upsertSession id realm client value⟩)) ∨
    ((b.apply collation s ⟨now, .upsertSession id realm client value⟩).result ≠ .ok .done ∧
      b.step collation s ⟨now, .upsertSession id realm client value⟩ = s) := by
  unfold step apply
  split
  · exact .inr ⟨by simp, rfl⟩
  · dsimp only
    cases b.upsertSession collation s now id realm client value with
    | error e => exact .inr ⟨by simp, rfl⟩
    | ok s' => exact .inl ⟨rfl, rfl⟩

theorem apply_getSession (h : b.Plain collation s ⟨now, .getSession id⟩) :
    b.apply collation s ⟨now, .getSession id⟩ =
      .ok (SessionStore.getSession s now id).1
        (.session (SessionStore.getSession s now id).2) := by
  have hbind := h.bindable
  simp only [apply, hbind, Bool.false_eq_true, if_false, getSession_of_apart (h.get id rfl)]

theorem step_getSession (h : b.Plain collation s ⟨now, .getSession id⟩) :
    b.step collation s ⟨now, .getSession id⟩ = (SessionStore.getSession s now id).1 := by
  rw [step, apply_getSession h, Outcome.ok_state]

theorem reported_of_plain (h : b.Plain collation s ⟨now, .getSession id⟩) :
    b.reported collation s now id = (SessionStore.getSession s now id).2 := by
  rw [reported, apply_getSession h]
  rfl

@[simp] theorem step_getSessionsForClients (realmId : String)
    (clients : List AuthenticatedClientScheme) :
    b.step collation s ⟨now, .getSessionsForClients realmId clients⟩ = s := by
  unfold step apply
  split
  · rfl
  · dsimp only
    split
    · rfl
    · rfl

theorem apply_deleteSessions {ids : List String}
    (h : b.Plain collation s ⟨now, .deleteSessions ids⟩) :
    b.apply collation s ⟨now, .deleteSessions ids⟩ =
      .ok (SessionStore.deleteSessions s ids) .done := by
  have hbind := h.bindable
  simp only [apply, hbind, Bool.false_eq_true, if_false]
  refine congrArg (fun t => Outcome.ok t StoreAnswer.done) (deleteWhere_congr fun r hr => ?_)
  rw [Bool.eq_iff_iff, List.any_eq_true, List.contains_iff_mem]
  constructor
  · rintro ⟨id, hid, hsame⟩
    rw [h.delete ids rfl id hid r hr hsame]
    exact hid
  · exact fun hid => ⟨_, hid, same_self _⟩

theorem step_deleteSessions {ids : List String}
    (h : b.Plain collation s ⟨now, .deleteSessions ids⟩) :
    b.step collation s ⟨now, .deleteSessions ids⟩ = SessionStore.deleteSessions s ids := by
  rw [step, apply_deleteSessions h, Outcome.ok_state]

theorem Plain.of_deleteSessions {ids : List String} (hbind : b.unbindable ids = false)
    (h : ∀ id ∈ ids, b.Apart collation s id) : b.Plain collation s ⟨now, .deleteSessions ids⟩ := by
  refine ⟨hbind, fun _ hop => ?_, fun ids' hop => ?_, fun _ hop => ?_, fun _ _ _ _ hop => ?_⟩
  · cases hop
  · rw [← StoreOp.deleteSessions.inj hop]
    exact h
  · cases hop
  · cases hop

theorem step_deleteSessionsForRealm {realmId : String}
    (h : b.Plain collation s ⟨now, .deleteSessionsForRealm realmId⟩) :
    b.step collation s ⟨now, .deleteSessionsForRealm realmId⟩ =
      SessionStore.deleteSessionsForRealm s realmId := by
  have hbind := h.bindable
  simp only [step, apply, hbind, Bool.false_eq_true, if_false, Outcome.ok_state]
  refine deleteWhere_congr fun r hr => ?_
  rw [Bool.eq_iff_iff, beq_iff_eq]
  constructor
  · exact h.deleteRealm realmId rfl r hr
  · rintro rfl
    exact same_self _

theorem past_of_fits {r : SessionRow} (h : IsI64 (r.createdAt + r.maxAgeSeconds)) :
    b.past collation now r =
      some (decide (r.staleAt ≤ now) || decide (r.createdAt + r.maxAgeSeconds ≤ now)) := by
  have hsum : (b.engine collation).sum r.createdAt r.maxAgeSeconds =
      some (r.createdAt + r.maxAgeSeconds) := by
    cases b with
    | sqlite => rfl
    | postgres => exact Range.add_of_fits (fits_iff.mpr h)
    | mysql => exact Range.add_of_fits (fits_iff.mpr h)
  unfold past
  split
  · rename_i hstale
    simp [hstale]
  · rename_i hstale
    simp [hsum, hstale]

theorem step_deleteExpiredSessions (h : ∀ r ∈ s, IsI64 (r.createdAt + r.maxAgeSeconds)) :
    b.step collation s ⟨now, .deleteExpiredSessions⟩ =
      SessionStore.deleteExpiredSessions s now := by
  have hbind : b.unbindable (StoreOp.texts .deleteExpiredSessions) = false := by cases b <;> rfl
  have hall : (s.rows.all fun r => (b.past collation now r).isSome) = true := by
    rw [List.all_eq_true]
    intro r hr
    rw [past_of_fits (h r hr)]
    rfl
  simp only [step, apply, hbind, Bool.false_eq_true, if_false, deleteExpiredSessions, hall, if_true,
    Outcome.ok_state]
  refine deleteWhere_congr fun r hr => ?_
  rw [past_of_fits (h r hr)]
  rfl

theorem Plain.of_getSession (hbind : b.unbindable [id] = false) (h : b.Apart collation s id) :
    b.Plain collation s ⟨now, .getSession id⟩ := by
  refine ⟨hbind, fun id' hop => ?_, fun _ hop => ?_, fun _ hop => ?_, fun _ _ _ _ hop => ?_⟩
  · rw [← StoreOp.getSession.inj hop]
    exact h
  · cases hop
  · cases hop
  · cases hop

theorem Plain.of_upsertSession
    (hbind : b.unbindable (StoreOp.texts (.upsertSession id realm client value)) = false)
    (h : IsI64 (now + realm.sessionMaxStaleAgeSeconds) ∧
      IsI64 (now + realm.sessionMaxAgeSeconds)) :
    b.Plain collation s ⟨now, .upsertSession id realm client value⟩ := by
  refine ⟨hbind, fun _ hop => ?_, fun _ hop => ?_, fun _ hop => ?_, fun _ _ _ _ hop => ?_⟩
  · cases hop
  · cases hop
  · cases hop
  · obtain ⟨_, rfl, _, _⟩ := StoreOp.upsertSession.inj hop
    exact h

theorem mem_step {r' : SessionRow} (h : r' ∈ b.step collation s c) :
    (∃ r ∈ s, SessionStore.SameSession r r') ∨
      ∃ id realm client value, c.op = .upsertSession id realm client value ∧
        (b.apply collation s c).result = .ok .done ∧
        r' = newSession c.now id realm client value := by
  obtain ⟨now, op⟩ := c
  cases op with
  | upsertSession id realm client value =>
    rcases @step_upsertSession _ _ collation b s now id value realm client with
      ⟨hok, hu⟩ | ⟨_, hs⟩
    · rcases ((upsertSession_ok hu).2.2 r').mp h with hr | rfl
      · exact .inl ⟨r', hr, .refl r'⟩
      · exact .inr ⟨id, realm, client, value, rfl, hok, rfl⟩
    · rw [hs] at h
      exact .inl ⟨r', h, .refl r'⟩
  | getSession id =>
    left
    unfold step apply at h
    split at h
    · exact ⟨r', h, .refl r'⟩
    · simp only [Outcome.ok_state, getSession] at h
      split at h
      · exact ⟨r', h, .refl r'⟩
      · split at h
        · exact ⟨r', (Table.mem_deleteWhere.mp h).1, .refl r'⟩
        · dsimp only at h
          obtain ⟨r, hr, he⟩ := Table.mem_updateWhere.mp h
          refine ⟨r, hr, ?_⟩
          split at he
          · rw [← he]
            rfl
          · rw [← he]
            exact .refl r
  | getSessionsForClients realmId clients =>
    rw [step_getSessionsForClients] at h
    exact .inl ⟨r', h, .refl r'⟩
  | deleteSessions ids =>
    left
    unfold step apply at h
    split at h
    · exact ⟨r', h, .refl r'⟩
    · exact ⟨r', (Table.mem_deleteWhere.mp h).1, .refl r'⟩
  | deleteExpiredSessions =>
    left
    unfold step apply at h
    split at h
    · exact ⟨r', h, .refl r'⟩
    · dsimp only at h
      split at h
      · exact ⟨r', h, .refl r'⟩
      · rename_i hs
        unfold deleteExpiredSessions at hs
        split at hs
        · cases hs
          exact ⟨r', (Table.mem_deleteWhere.mp h).1, .refl r'⟩
        · cases hs
  | deleteSessionsForRealm realmId =>
    left
    unfold step apply at h
    split at h
    · exact ⟨r', h, .refl r'⟩
    · exact ⟨r', (Table.mem_deleteWhere.mp h).1, .refl r'⟩

theorem Apart.of_ids (h : b.Apart collation s id)
    (hs : ∀ r' ∈ s', ∃ r ∈ s, r.sessionId = r'.sessionId) : b.Apart collation s' id := by
  intro r' hr' hsame
  obtain ⟨r, hr, hid⟩ := hs r' hr'
  rw [← hid] at hsame ⊢
  exact h r hr hsame

theorem same_comm (x y : String) : b.same collation x y = b.same collation y x := by
  rw [Bool.eq_iff_iff]
  cases b with
  | sqlite => simpa [same, engine] using eq_comm
  | postgres => simpa [same, engine] using eq_comm
  | mysql => simpa [same, engine] using eq_comm

theorem KeysApart.step (h : b.KeysApart collation s) : b.KeysApart collation (b.step collation s c) := by
  -- A row from before has its id in the old table, where it is told from the others.
  have hold {r' : SessionRow} (hr' : ∃ r ∈ s, SessionStore.SameSession r r') :
      b.Apart collation s r'.sessionId := by
    obtain ⟨r, hr, hsame⟩ := hr'
    rw [hsame]
    exact h r hr
  intro r' hr' x hx hsame
  rcases mem_step hr' with hr | ⟨id, realm, client, value, hop, hok, rfl⟩
  · rcases mem_step hx with ⟨y, hy, hxy⟩ | ⟨id, realm, client, value, hop, hok, rfl⟩
    · have hid : x.sessionId = y.sessionId := by rw [hxy]
      rw [hid] at hsame ⊢
      exact hold hr y hy hsame
    · obtain ⟨y, hy, hr'y⟩ := hr
      have hid : r'.sessionId = y.sessionId := by rw [hr'y]
      obtain ⟨now, op⟩ := c
      cases hop
      rcases @step_upsertSession _ _ collation b s now id value realm client with
        ⟨_, hu⟩ | ⟨hfail, _⟩
      · have hne := (upsertSession_ok hu).1 y hy
        rw [same_comm, hid] at hsame
        exact absurd (hsame.symm.trans hne) (by simp)
      · exact absurd hok hfail
  · obtain ⟨now, op⟩ := c
    cases hop
    rcases @step_upsertSession _ _ collation b s now id value realm client with
      ⟨_, hu⟩ | ⟨hfail, _⟩
    · obtain ⟨hne, _, hmem⟩ := upsertSession_ok hu
      rcases (hmem x).mp hx with hx | rfl
      · exact absurd (hsame.symm.trans (hne x hx)) (by simp)
      · rfl
    · exact absurd hok hfail

theorem apart_sqlite : SqlBackend.sqlite.Apart collation s id :=
  fun _ _ => eq_of_same (by decide)

theorem apply_sqlite_getSession : SqlBackend.sqlite.apply collation s ⟨now, .getSession id⟩ =
    .ok (SessionStore.getSession s now id).1 (.session (SessionStore.getSession s now id).2) :=
  apply_getSession (.of_getSession rfl apart_sqlite)

theorem apply_sqlite_getSessionsForClients (realmId : String)
    (clients : List AuthenticatedClientScheme) :
    SqlBackend.sqlite.apply collation s ⟨now, .getSessionsForClients realmId clients⟩ =
      .ok s (.sessions (SessionStore.getSessionsForClients s now realmId clients)) := by
  have hrows : SqlBackend.sqlite.rowsForClients collation s.rows realmId now clients =
      some (s.rows.filter (SessionStore.matchesClient realmId clients now)) := by
    cases clients with
    | nil => simp [rowsForClients, SessionStore.matchesClient]
    | cons client clients => exact sqlite_rows
  simp only [apply, unbindable, Bool.false_eq_true, if_false, hrows,
    SessionStore.getSessionsForClients]

theorem apply_sqlite_deleteSessions (ids : List String) :
    SqlBackend.sqlite.apply collation s ⟨now, .deleteSessions ids⟩ =
      .ok (SessionStore.deleteSessions s ids) .done :=
  apply_deleteSessions (.of_deleteSessions rfl fun _ _ => apart_sqlite)

theorem upsertSession_sqlite (s : Sessions) (now : Int) (id : String) (realm : Realm)
    (client : AuthenticatedClientScheme) (value : String) :
    SqlBackend.sqlite.upsertSession collation s now id realm client value =
      SessionStore.upsertSession s now id realm client value := by
  simp only [upsertSession, overlong, SessionStore.upsertSession]
  by_cases hid : id ∈ s.keys
  · have hany : (s.rows.any fun r => SqlBackend.sqlite.same collation r.sessionId id) = true := by
      obtain ⟨r, hr, rfl⟩ := Table.mem_keys.mp hid
      exact List.any_eq_true.mpr ⟨r, hr, same_self _⟩
    rw [dif_pos hany, dif_pos hid]
    rfl
  · have hany : ¬ (s.rows.any fun r => SqlBackend.sqlite.same collation r.sessionId id) = true := by
      rw [List.any_eq_true]
      rintro ⟨r, hr, hsame⟩
      exact hid (apart_sqlite r hr hsame ▸ Table.key_mem_keys hr)
    rw [dif_neg hany, dif_neg hid]

end

end SqlBackend
end AuthVerifier
