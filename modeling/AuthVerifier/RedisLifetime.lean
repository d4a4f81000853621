import AuthVerifier.RedisSessions
import AuthVerifier.SessionLifetime

/-!
The Redis store beside a SQL store that is sent the same calls. A SQL row carries an idle deadline
and an absolute one and is accepted up to and including the earlier of the two; a Redis key carries
that earlier deadline alone and is gone when it comes. The stores agree on every access that does
not fall on exactly that second.
-/

set_option autoImplicit false

namespace AuthVerifier
open Bounded Effects Expiring Relational Transition

def SessionRow.deadline (r : SessionRow) : Int := min r.staleAt (r.createdAt + r.maxAgeSeconds)

/-- The ages are positive, and Redis can keep the absolute deadline in milliseconds. -/
structure SessionRow.InRange (r : SessionRow) : Prop where
  idle : 0 < r.maxStaleAgeSeconds ∧ IsI64 r.maxStaleAgeSeconds
  age : 0 < r.maxAgeSeconds
  absolute : IsI64 ((r.createdAt + r.maxAgeSeconds) * 1000)

theorem SessionRow.InRange.fits {r : SessionRow} (h : r.InRange) :
    IsI64 (r.createdAt + r.maxAgeSeconds) := by
  have habs := h.absolute
  unfold IsI64 at *
  omega

/-- The key Redis holds for a session that a SQL store holds as a row. -/
def SessionRow.stored (r : SessionRow) : Entry SessionData Int :=
  ⟨RedisStore.sessionKey r.sessionId, r.toData, some r.deadline⟩

def SessionRow.beforeDeadline (now : Int) (r : SessionRow) : Bool := decide (now < r.deadline)

theorem SessionRow.filter_stored (now : Int) (r : SessionRow) :
    (some r.stored).filter (Entry.live now) =
      ((some r).filter (SessionRow.beforeDeadline now)).map SessionRow.stored := by
  by_cases h : now < r.deadline
  · simp [Option.filter, Entry.live, SessionRow.stored, SessionRow.beforeDeadline, h]
  · simp [Option.filter, Entry.live, SessionRow.stored, SessionRow.beforeDeadline, h]

theorem SessionRow.InRange.refreshedTtl {now : Int} {r : SessionRow} (h : r.InRange) (hnow : 0 ≤ now)
    (hle : now ≤ r.createdAt + r.maxAgeSeconds) :
    RedisStore.refreshedTtl r.toData now =
      min r.maxStaleAgeSeconds (r.createdAt + r.maxAgeSeconds - now) := by
  have hfits := h.fits
  have hrest : IsI64 (r.createdAt + r.maxAgeSeconds - now) := by
    unfold IsI64 at *
    omega
  simp only [RedisStore.refreshedTtl, RedisStore.absoluteExpiry, SessionRow.toData, i64_eq hfits,
    i64_eq hrest]

theorem SessionRow.InRange.accessible {now : Int} {r : SessionRow} (h : r.InRange) (hnow : 0 ≤ now)
    (hlt : now < r.createdAt + r.maxAgeSeconds) : RedisStore.Accessible r.toData now := by
  have hidle := h.idle.1
  have habs : RedisStore.absoluteExpiry r.toData = r.createdAt + r.maxAgeSeconds := i64_eq h.fits
  refine ⟨by omega, ?_, ?_⟩
  · rw [h.refreshedTtl hnow (by omega)]
    omega
  · have hrange := h.absolute
    rw [h.refreshedTtl hnow (by omega)]
    unfold RedisStore.expiryAccepted IsI64 at *
    omega

theorem SessionRow.InRange.stored_touch {now : Int} {r : SessionRow} (h : r.InRange) (hnow : 0 ≤ now)
    (hle : now ≤ r.createdAt + r.maxAgeSeconds) :
    (SessionStore.touch now r).stored =
      ⟨RedisStore.sessionKey r.sessionId, r.toData,
        some (now + RedisStore.refreshedTtl r.toData now)⟩ := by
  have hdeadline : (SessionStore.touch now r).deadline =
      now + RedisStore.refreshedTtl r.toData now := by
    have habs : (SessionStore.touch now r).createdAt + (SessionStore.touch now r).maxAgeSeconds =
        r.createdAt + r.maxAgeSeconds := rfl
    rw [SessionRow.deadline, SessionStore.touch_staleAt hnow h.idle.2 h.fits hle, habs,
      h.refreshedTtl hnow hle]
    omega
  rw [SessionRow.stored, hdeadline]
  rfl

theorem stored_newSession {now : Int} {id value : String} {realm : Realm}
    {client : AuthenticatedClientScheme} (hstale : 0 < realm.sessionMaxStaleAgeSeconds)
    (hage : 0 < realm.sessionMaxAgeSeconds) (h : IsI64 (now + realm.sessionMaxStaleAgeSeconds)) :
    (newSession now id realm client value).stored =
      ⟨RedisStore.sessionKey id, (newSession now id realm client value).toData,
        some (now + RedisStore.storedTtl realm)⟩ := by
  have habs : (newSession now id realm client value).createdAt +
      (newSession now id realm client value).maxAgeSeconds = now + realm.sessionMaxAgeSeconds := rfl
  have hdeadline : (newSession now id realm client value).deadline =
      now + RedisStore.storedTtl realm := by
    rw [SessionRow.deadline, SessionStore.newSession_staleAt h, habs, RedisStore.storedTtl]
    omega
  rw [SessionRow.stored, hdeadline]
  rfl

def SameSessions (now : Int) (s : Sessions) (r : RedisState) : Prop :=
  ∀ id, r.sessions.entry now (RedisStore.sessionKey id) =
    ((s.find? id).filter (SessionRow.beforeDeadline now)).map SessionRow.stored

namespace SameSessions
variable {now : Int} {s : Sessions} {r : RedisState}

theorem later {later : Int} (h : SameSessions now s r) (hle : now ≤ later) :
    SameSessions later s r := by
  intro id
  rw [Keyspace.entry_later hle, h id]
  cases s.find? id with
  | none => rfl
  | some row =>
    simp only [Option.filter, SessionRow.beforeDeadline]
    by_cases hnow : now < row.deadline
    · simp only [hnow, decide_true, if_true, Option.map_some, Entry.live, SessionRow.stored]
      by_cases hlater : later < row.deadline
      · simp [hlater, SessionRow.stored]
      · simp [hlater]
    · have hlater : ¬ later < row.deadline := by omega
      simp [hnow, hlater]

theorem entry_of_row (h : SameSessions now s r) {row : SessionRow} (hrow : row ∈ s)
    (hlt : now < row.deadline) :
    r.sessions.entry now (RedisStore.sessionKey row.sessionId) = some row.stored := by
  rw [h, Table.find?_eq_some_iff.mpr ⟨hrow, rfl⟩]
  simp [Option.filter, SessionRow.beforeDeadline, hlt]

theorem entry_of_past (h : SameSessions now s r) {row : SessionRow} (hrow : row ∈ s)
    (hle : row.deadline ≤ now) :
    r.sessions.entry now (RedisStore.sessionKey row.sessionId) = none := by
  have hlt : ¬ now < row.deadline := by omega
  rw [h, Table.find?_eq_some_iff.mpr ⟨hrow, rfl⟩]
  simp [Option.filter, SessionRow.beforeDeadline, hlt]

theorem entry_of_absent (h : SameSessions now s r) {id : String} (hid : id ∉ s.keys) :
    r.sessions.entry now (RedisStore.sessionKey id) = none := by
  rw [h, Table.find?_eq_none_iff.mpr hid]
  rfl

theorem row_of_entry (h : SameSessions now s r) {id : String} {e : Entry SessionData Int}
    (he : r.sessions.entry now (RedisStore.sessionKey id) = some e) :
    ∃ row ∈ s, row.sessionId = id ∧ now < row.deadline ∧ e = row.stored := by
  rw [h] at he
  obtain ⟨row, hrow, rfl⟩ := Option.map_eq_some_iff.mp he
  obtain ⟨hf, hlt⟩ := Option.filter_eq_some_iff.mp hrow
  obtain ⟨hmem, hid⟩ := Table.find?_eq_some_iff.mp hf
  exact ⟨row, hmem, hid, of_decide_eq_true hlt, rfl⟩

theorem withinAge (h : SameSessions now s r) (hrange : ∀ row ∈ s, row.InRange) :
    RedisStore.WithinAge r now := by
  intro id e he
  obtain ⟨row, hrow, _, hlt, rfl⟩ := h.row_of_entry he
  have hle : row.deadline ≤ row.createdAt + row.maxAgeSeconds := min_le_right _ _
  simp only [SessionRow.stored, RedisStore.absoluteExpiry, SessionRow.toData,
    i64_eq (hrange row hrow).fits]
  omega

theorem of_change {id : String} {s' : Sessions} {r' : RedisState} (h : SameSessions now s r)
    (hs : ∀ row, row.sessionId ≠ id → (row ∈ s' ↔ row ∈ s))
    (hr : ∀ key, key ≠ RedisStore.sessionKey id →
      r'.sessions.entry now key = r.sessions.entry now key)
    (hid : r'.sessions.entry now (RedisStore.sessionKey id) =
      ((s'.find? id).filter (SessionRow.beforeDeadline now)).map SessionRow.stored) :
    SameSessions now s' r' := by
  intro id'
  by_cases he : id' = id
  · rw [he]
    exact hid
  · have hfind : s'.find? id' = s.find? id' :=
      Table.find?_congr (fun row hrow => hs row (hrow ▸ he))
    rw [hr _ (fun hkey => he (RedisStore.sessionKey_injective hkey)), hfind]
    exact h id'

theorem delete {r' : RedisState} (h : SameSessions now s r) (p : SessionRow → Bool)
    (hgone : ∀ row ∈ s, p row = true →
      r'.sessions.entry now (RedisStore.sessionKey row.sessionId) = none)
    (hkept : ∀ id, (∀ row ∈ s, row.sessionId = id → p row = false) →
      r'.sessions.entry now (RedisStore.sessionKey id) =
        r.sessions.entry now (RedisStore.sessionKey id)) :
    SameSessions now (s.deleteWhere p) r' := by
  intro id
  rw [Table.find?_deleteWhere]
  cases hf : s.find? id with
  | none =>
    have hid := Table.find?_eq_none_iff.mp hf
    rw [hkept id (fun row hrow he => absurd (he ▸ Table.key_mem_keys hrow) hid),
      h.entry_of_absent hid]
    rfl
  | some row =>
    obtain ⟨hrow, rfl⟩ := Table.find?_eq_some_iff.mp hf
    cases hp : p row with
    | true =>
      rw [hgone row hrow hp]
      simp [Option.filter, hp]
    | false =>
      have honly (row' : SessionRow) (hrow' : row' ∈ s) (he : row'.sessionId = row.sessionId) :
          p row' = false := by
        rw [Table.eq_of_key hrow' hrow he]
        exact hp
      have hstay : (some row).filter (fun x => !p x) = some row := by simp [Option.filter, hp]
      rw [hkept row.sessionId honly, h, hf, hstay]

theorem upsert {id value : String} {realm : Realm} {client : AuthenticatedClientScheme}
    {s' : Sessions} (h : SameSessions now s r) (hstale : 0 < realm.sessionMaxStaleAgeSeconds)
    (hage : 0 < realm.sessionMaxAgeSeconds) (hfits : IsI64 (now + realm.sessionMaxStaleAgeSeconds))
    (hmem : ∀ row, row ∈ s' ↔ row ∈ s ∨ row = newSession now id realm client value) :
    SameSessions now s' (RedisStore.storeSession r now id realm client value) := by
  have hself : s'.find? id = some (newSession now id realm client value) :=
    Table.find?_eq_some_iff.mpr ⟨(hmem _).mpr (.inr rfl), rfl⟩
  refine h.of_change (fun row hne => ?_) (fun key hkey => Keyspace.entry_set_ne hkey) ?_
  · rw [hmem]
    constructor
    · rintro (hrow | rfl)
      · exact hrow
      · exact absurd rfl hne
    · exact .inl
  · rw [hself, ← SessionRow.filter_stored, stored_newSession hstale hage hfits]
    exact Keyspace.entry_set_self

theorem get_of_live {row : SessionRow} (h : SameSessions now s r) (hnow : 0 ≤ now) (hrow : row ∈ s)
    (hrange : row.InRange) (hlt : now < row.deadline) :
    RedisStore.reported r now row.sessionId =
        (SessionStore.getSession s now row.sessionId).2 ∧
      SameSessions now (SessionStore.getSession s now row.sessionId).1
        (RedisStore.step r ⟨now, .getSession row.sessionId⟩) := by
  have hlt' := hlt
  simp only [SessionRow.deadline] at hlt'
  have hlive : SessionStore.expired now row = false :=
    (SessionStore.expired_eq_false_iff hrange.fits).mpr ⟨by omega, by omega⟩
  have hself : (SessionStore.getSession s now row.sessionId).1.find? row.sessionId =
      some (SessionStore.touch now row) :=
    Table.find?_eq_some_iff.mpr ⟨(SessionStore.mem_getSession_of_live hrow hlive).mpr (.inr rfl), rfl⟩
  have hreported : RedisStore.reported r now row.sessionId = some row.toData :=
    RedisStore.reported_eq_some_iff.mpr
      ⟨Keyspace.get_of_entry (h.entry_of_row hrow hlt), hrange.accessible hnow (by omega)⟩
  constructor
  · rw [hreported, SessionStore.getSession_of_live hrow hlive]
  · rw [RedisStore.step_of_reported hreported]
    refine h.of_change (fun _ hne => SessionStore.mem_getSession_of_ne hne)
      (fun key hkey => Keyspace.entry_set_ne hkey) ?_
    rw [hself, ← SessionRow.filter_stored, hrange.stored_touch hnow (by omega)]
    exact Keyspace.entry_set_self

theorem get_of_past {row : SessionRow} (h : SameSessions now s r) (hrow : row ∈ s)
    (hrange : row.InRange) (hlt : row.deadline < now) :
    RedisStore.reported r now row.sessionId =
        (SessionStore.getSession s now row.sessionId).2 ∧
      SameSessions now (SessionStore.getSession s now row.sessionId).1
        (RedisStore.step r ⟨now, .getSession row.sessionId⟩) := by
  have hgone := h.entry_of_past hrow (Int.le_of_lt hlt)
  have hexpired : SessionStore.expired now row = true := by
    simp only [SessionRow.deadline] at hlt
    by_contra hlive
    have hle := (SessionStore.expired_eq_false_iff hrange.fits).mp (by simpa using hlive)
    omega
  rw [RedisStore.reported_of_absent hgone, RedisStore.step_getSession,
    RedisStore.getSession_of_absent hgone, SessionStore.getSession_of_expired hrow hexpired]
  refine ⟨rfl, h.delete (fun row' => row'.sessionId == row.sessionId) ?_ (fun _ _ => rfl)⟩
  intro row' _ he
  rw [beq_iff_eq.mp he]
  exact hgone

/-- An access that does not fall on the deadline of its row is answered alike, and leaves the two
stores with the same sessions. -/
theorem get {id : String} (h : SameSessions now s r) (hnow : 0 ≤ now)
    (hrange : ∀ row ∈ s, row.InRange)
    (hoff : ∀ row ∈ s, row.sessionId = id → now ≠ row.deadline) :
    RedisStore.reported r now id = (SessionStore.getSession s now id).2 ∧
      SameSessions now (SessionStore.getSession s now id).1
        (RedisStore.step r ⟨now, .getSession id⟩) := by
  by_cases hk : id ∈ s.keys
  · obtain ⟨row, hrow, rfl⟩ := Table.mem_keys.mp hk
    have hne := hoff row hrow rfl
    by_cases hlt : now < row.deadline
    · exact h.get_of_live hnow hrow (hrange row hrow) hlt
    · exact h.get_of_past hrow (hrange row hrow) (by omega)
  · have hgone := h.entry_of_absent hk
    rw [RedisStore.reported_of_absent hgone, RedisStore.step_getSession,
      RedisStore.getSession_of_absent hgone, SessionStore.getSession_of_absent hk]
    exact ⟨rfl, h⟩

theorem deleteSessions (h : SameSessions now s r) (ids : List String) :
    SameSessions now (SessionStore.deleteSessions s ids) (RedisStore.deleteSessions r now ids) := by
  refine h.delete (fun row => ids.contains row.sessionId) ?_ ?_
  · intro row _ hp
    rw [RedisStore.entry_deleteSessions, if_pos (by simpa using hp)]
  · intro id hp
    rw [RedisStore.entry_deleteSessions]
    split
    · rename_i hid
      have habsent : id ∉ s.keys := by
        intro hk
        obtain ⟨row, hrow, rfl⟩ := Table.mem_keys.mp hk
        simpa [hid] using hp row hrow rfl
      rw [h.entry_of_absent habsent]
    · rfl

theorem deleteExpiredSessions (h : SameSessions now s r) :
    SameSessions now (SessionStore.deleteExpiredSessions s now) r := by
  refine h.delete (fun row => row.staleAt ≤ now || row.createdAt + row.maxAgeSeconds ≤ now) ?_
    (fun _ _ => rfl)
  intro row hrow hp
  apply h.entry_of_past hrow
  simp only [Bool.or_eq_true, decide_eq_true_eq] at hp
  simp only [SessionRow.deadline]
  omega

theorem deleteSessionsForRealm (h : SameSessions now s r) (realmId : String) :
    SameSessions now (SessionStore.deleteSessionsForRealm s realmId)
      (RedisStore.deleteSessionsForRealm r now realmId) := by
  refine h.delete (fun row => row.realmId == realmId) ?_ ?_
  · intro row hrow hp
    rw [RedisStore.entry_deleteSessionsForRealm, h, Table.find?_eq_some_iff.mpr ⟨hrow, rfl⟩]
    have hrealm : row.stored.value.realmId = realmId := beq_iff_eq.mp hp
    by_cases hlt : now < row.deadline
    · simp [Option.filter, SessionRow.beforeDeadline, hlt, hrealm]
    · simp [Option.filter, SessionRow.beforeDeadline, hlt]
  · intro id hp
    rw [RedisStore.entry_deleteSessionsForRealm]
    cases he : r.sessions.entry now (RedisStore.sessionKey id) with
    | none => rfl
    | some e =>
      obtain ⟨row, hrow, hid, _, rfl⟩ := h.row_of_entry he
      have hrealm : row.stored.value.realmId ≠ realmId := by
        simpa [SessionRow.stored, SessionRow.toData] using hp row hrow hid
      simp [Option.filter, hrealm]

theorem getSessionsForClients (h : SameSessions now s r) (hrange : ∀ row ∈ s, row.InRange)
    (realmId : String) (clients : List AuthenticatedClientScheme) :
    SameSessions now s (RedisStore.getSessionsForClients r now realmId clients).1 := by
  unfold SameSessions RedisStore.getSessionsForClients
  rw [RedisStore.sessions_listClients (h.withinAge hrange)]
  exact h

end SameSessions

section
variable {W : Type} [DecidableEq W] (collation : String → W)

def stepBoth (b : SqlBackend) (p : Sessions × RedisState) (c : StoreCall) :
    Sessions × RedisState :=
  (b.step collation p.1 c, RedisStore.step p.2 c)

def SameReport (b : SqlBackend) (p : Sessions × RedisState) (c : StoreCall) : Prop :=
  ∀ id, c.op = .getSession id →
    RedisStore.reported p.2 c.now id = b.reported collation p.1 c.now id

end

/-- If the call is an access, it does not come in the second in which the first deadline of its
session falls. -/
def OffDeadline (p : Sessions × RedisState) (c : StoreCall) : Prop :=
  ∀ id, c.op = .getSession id → ∀ row ∈ p.1, row.sessionId = id →
    c.now ≠ min row.staleAt (row.createdAt + row.maxAgeSeconds)

/-- A session that is created has positive ages, the columns can hold it, and Redis can keep its
absolute deadline. -/
structure StoreCall.Admissible (b : SqlBackend) (c : StoreCall) : Prop where
  typed : c.Typed
  ages : ∀ id realm client value, c.op = .upsertSession id realm client value →
    0 < realm.sessionMaxStaleAgeSeconds ∧ 0 < realm.sessionMaxAgeSeconds
  columns : ∀ id realm client value, c.op = .upsertSession id realm client value →
    b.overlong (newSession c.now id realm client value) = none
  expiry : c.ExpiryFits

/-- The SQL store takes the call as it is meant, and tells the id of a session that is created from
those it has. -/
structure PlainBoth {W : Type} [DecidableEq W] (collation : String → W) (b : SqlBackend)
    (p : Sessions × RedisState) (c : StoreCall) : Prop where
  plain : b.Plain collation p.1 c
  upsert : ∀ id realm client value, c.op = .upsertSession id realm client value →
    b.Apart collation p.1 id

def StoreOp.upserted : StoreOp → Option String
  | .upsertSession id _ _ _ => some id
  | _ => none

def upsertedIds (calls : List StoreCall) : List String := calls.filterMap (fun c => c.op.upserted)

/-- What links the two stores before the calls that are still to come. -/
structure Coupled {W : Type} [DecidableEq W] (collation : String → W) (b : SqlBackend)
    (p : Sessions × RedisState) (calls : List StoreCall) : Prop where
  same : ∀ c ∈ calls, SameSessions c.now p.1 p.2
  range : ∀ row ∈ p.1, row.InRange
  fresh : ∀ id ∈ upsertedIds calls, id ∉ p.1.keys
  nodup : (upsertedIds calls).Nodup
  clock : Clocked StoreCall.now StoreCall.now calls
  admissible : ∀ c ∈ calls, c.Admissible b
  plain : ∀ x ∈ trace (stepBoth collation b) p calls, PlainBoth collation b x.1 x.2

section
variable {W : Type} [DecidableEq W] {collation : String → W} {b : SqlBackend}
  {p : Sessions × RedisState} {c : StoreCall} {calls : List StoreCall}

theorem Coupled.plain_head (h : Coupled collation b p (c :: calls)) : PlainBoth collation b p c :=
  h.plain (p, c) List.mem_cons_self

theorem sameReport_iff (h : Coupled collation b p (c :: calls)) :
    SameReport collation b p c ↔ OffDeadline p c := by
  have hsame := h.same c List.mem_cons_self
  have hplain := h.plain_head.plain
  have hnow := (h.admissible c List.mem_cons_self).typed.clock.1
  obtain ⟨now, op⟩ := c
  apply forall₂_congr
  rintro id rfl
  rw [SqlBackend.reported_of_plain hplain]
  constructor
  · rintro hreport row hrow rfl heq
    simp only at heq
    have hlive : SessionStore.expired now row = false :=
      (SessionStore.expired_eq_false_iff (h.range row hrow).fits).mpr ⟨by omega, by omega⟩
    rw [SessionStore.getSession_of_live hrow hlive,
      RedisStore.reported_of_absent (hsame.entry_of_past hrow (Int.le_of_eq heq.symm))] at hreport
    cases hreport
  · intro hoff
    exact (hsame.get hnow h.range hoff).1

theorem Coupled.upsert {now : Int} {id value : String} {realm : Realm}
    {client : AuthenticatedClientScheme}
    (h : Coupled collation b p (⟨now, .upsertSession id realm client value⟩ :: calls)) :
    b.upsertSession collation p.1 now id realm client value = .ok
        (b.step collation p.1 ⟨now, .upsertSession id realm client value⟩) ∧
      RedisStore.step p.2 ⟨now, .upsertSession id realm client value⟩ =
        RedisStore.storeSession p.2 now id realm client value := by
  obtain ⟨⟨⟨hclock, _⟩, _⟩, hages, hcolumns, hexpiry⟩ := h.admissible _ List.mem_cons_self
  obtain ⟨hstale, hage⟩ := hages id realm client value rfl
  have hexpiry := hexpiry id realm client value rfl
  have hbind := h.plain_head.plain.bindable
  have hunused : ¬ (p.1.rows.any fun row => b.same collation row.sessionId id) = true := by
    intro hany
    obtain ⟨row, hrow, hsame⟩ := List.any_eq_true.mp hany
    have hid := h.plain_head.upsert id realm client value rfl row hrow hsame
    exact h.fresh id (by simp [upsertedIds, StoreOp.upserted]) (hid ▸ Table.key_mem_keys hrow)
  constructor
  · simp only [SqlBackend.step, SqlBackend.apply, hbind, Bool.false_eq_true, if_false,
      SqlBackend.upsertSession, hcolumns id realm client value rfl, dif_neg hunused,
      Outcome.ok_state]
  · have haccepted : RedisStore.expiryAccepted now (RedisStore.storedTtl realm) := by
      simp only at hclock hexpiry
      unfold RedisStore.expiryAccepted RedisStore.storedTtl IsI64 at *
      omega
    rw [RedisStore.step_upsertSession, if_pos haccepted]

theorem SameSessions.step (h : Coupled collation b p (c :: calls)) (hoff : OffDeadline p c) :
    SameSessions c.now (stepBoth collation b p c).1 (stepBoth collation b p c).2 := by
  have hsame := h.same c List.mem_cons_self
  have hadm := h.admissible c List.mem_cons_self
  have hplain := h.plain_head.plain
  obtain ⟨now, op⟩ := c
  simp only [stepBoth]
  cases op with
  | upsertSession id realm client value =>
    obtain ⟨hstale, hage⟩ := hadm.ages id realm client value rfl
    obtain ⟨hsql, hredis⟩ := h.upsert
    rw [hredis]
    exact hsame.upsert hstale hage (hplain.fits id realm client value rfl).1
      (SqlBackend.upsertSession_ok hsql).2.2
  | getSession id =>
    rw [SqlBackend.step_getSession hplain]
    exact (hsame.get hadm.typed.clock.1 h.range (hoff id rfl)).2
  | getSessionsForClients realmId clients =>
    rw [SqlBackend.step_getSessionsForClients]
    exact hsame.getSessionsForClients h.range realmId clients
  | deleteSessions ids =>
    rw [SqlBackend.step_deleteSessions hplain]
    exact hsame.deleteSessions ids
  | deleteExpiredSessions =>
    rw [SqlBackend.step_deleteExpiredSessions fun row hrow => (h.range row hrow).fits]
    exact hsame.deleteExpiredSessions
  | deleteSessionsForRealm realmId =>
    rw [SqlBackend.step_deleteSessionsForRealm hplain]
    exact hsame.deleteSessionsForRealm realmId

theorem Coupled.step (h : Coupled collation b p (c :: calls)) (hoff : OffDeadline p c) :
    Coupled collation b (stepBoth collation b p c) calls where
  same := fun c' hc' => (SameSessions.step h hoff).later ((List.pairwise_cons.mp h.clock).1 c' hc')
  range := by
    intro row hrow
    rcases SqlBackend.mem_step hrow with
      ⟨row', hrow', hsame⟩ | ⟨id, realm, client, value, hop, _, rfl⟩
    · obtain ⟨hidle, hage, habs⟩ := h.range row' hrow'
      rw [hsame]
      exact ⟨hidle, hage, habs⟩
    · have hadm := h.admissible c List.mem_cons_self
      obtain ⟨hstale, hage⟩ := hadm.ages id realm client value hop
      exact ⟨⟨hstale, (hadm.typed.ages id realm client value hop).1⟩, hage,
        hadm.expiry id realm client value hop⟩
  fresh := by
    intro id hid hk
    obtain ⟨row, hrow, rfl⟩ := Table.mem_keys.mp hk
    rcases SqlBackend.mem_step hrow with
      ⟨row', hrow', hsame⟩ | ⟨id, realm, client, value, hop, _, rfl⟩
    · have hkey : row'.sessionId = row.sessionId := by rw [hsame]
      refine h.fresh row.sessionId ?_ (hkey ▸ Table.key_mem_keys hrow')
      obtain ⟨c', hc', he⟩ := List.mem_filterMap.mp hid
      exact List.mem_filterMap.mpr ⟨c', List.mem_cons_of_mem c hc', he⟩
    · have hnodup := h.nodup
      have hup : c.op.upserted = some id := by rw [hop]; rfl
      simp only [upsertedIds, List.filterMap_cons, hup, List.nodup_cons] at hnodup
      exact hnodup.1 hid
  nodup := by
    refine List.Sublist.nodup ?_ h.nodup
    exact (List.sublist_cons_self c calls).filterMap _
  clock := (List.pairwise_cons.mp h.clock).2
  admissible := fun c' hc' => h.admissible c' (List.mem_cons_of_mem c hc')
  plain := fun x hx => h.plain x (List.mem_cons_of_mem _ hx)

/-- Over every run of the two stores with fresh ids, each call of which the SQL store takes as it is
meant, all accesses are answered alike exactly when none comes in the second in which the first
deadline of its session falls. -/
theorem redis_reports_as_sql_iff (collation : String → W) (b : SqlBackend) (calls : List StoreCall)
    (hclock : Clocked StoreCall.now StoreCall.now calls) (hfresh : (upsertedIds calls).Nodup)
    (hadm : ∀ c ∈ calls, c.Admissible b)
    (hplain : ∀ x ∈ trace (stepBoth collation b) (.empty, {}) calls,
      PlainBoth collation b x.1 x.2) :
    (∀ x ∈ trace (stepBoth collation b) (.empty, {}) calls, SameReport collation b x.1 x.2) ↔
      ∀ x ∈ trace (stepBoth collation b) (.empty, {}) calls, OffDeadline x.1 x.2 := by
  refine trace_forall_iff_of_invariant (stepBoth collation b) (Coupled collation b)
    (fun _ _ _ => sameReport_iff) (fun _ _ _ h hoff => h.step hoff) calls ?_
  constructor
  · exact fun _ _ _ => rfl
  · intro row hrow
    exact absurd hrow Table.mem_empty
  · intro id _ hk
    obtain ⟨row, hrow, _⟩ := Table.mem_keys.mp hk
    exact absurd hrow Table.mem_empty
  · exact hfresh
  · exact hclock
  · exact hadm
  · exact hplain

end

theorem admissible_shortSession : shortSession.Admissible .mysql := by
  refine ⟨typed_shortSession, fun _ _ _ _ hop => ?_, fun _ _ _ _ hop => ?_, fun _ _ _ _ hop => ?_⟩
  all_goals
    obtain ⟨rfl, rfl, rfl, rfl⟩ := StoreOp.upsertSession.inj hop
    decide

theorem admissible_getSession {b : SqlBackend} {now : Int} {id : String} (h : 0 ≤ now ∧ IsI64 now) :
    StoreCall.Admissible b ⟨now, .getSession id⟩ := by
  refine ⟨typed_getSession h, fun _ _ _ _ hop => ?_, fun _ _ _ _ hop => ?_, fun _ _ _ _ hop => ?_⟩
  all_goals cases hop

def shortCalls (now : Int) : List StoreCall := [shortSession, ⟨now, .getSession "s"⟩]

theorem admissible_shortCalls {now : Int} (h : 0 ≤ now ∧ IsI64 now) :
    ∀ c ∈ shortCalls now, c.Admissible .mysql := by
  intro c hc
  simp only [shortCalls, List.mem_cons, List.not_mem_nil, or_false] at hc
  rcases hc with rfl | rfl
  · exact admissible_shortSession
  · exact admissible_getSession h

theorem plainBoth_shortCalls (now : Int) :
    ∀ x ∈ trace (stepBoth Transparent.caseless .mysql) (.empty, {}) (shortCalls now),
      PlainBoth Transparent.caseless .mysql x.1 x.2 := by
  intro x hx
  simp only [shortCalls, trace, List.mem_cons, List.not_mem_nil, or_false] at hx
  have hrows : ∀ r ∈ (stepBoth Transparent.caseless .mysql (.empty, {}) shortSession).1.rows,
      r.sessionId = "s" := by decide
  rcases hx with rfl | rfl
  · exact ⟨.of_upsertSession rfl (by decide), fun _ _ _ _ _ r hr _ => absurd hr Table.mem_empty⟩
  · refine ⟨.of_getSession rfl fun r hr _ => hrows r hr, fun _ _ _ _ hop => ?_⟩
    cases hop

theorem redis_reports_as_sql_before_deadline :
    Clocked StoreCall.now StoreCall.now (shortCalls 4) ∧ (upsertedIds (shortCalls 4)).Nodup ∧
    ∀ x ∈ trace (stepBoth Transparent.caseless .mysql) (.empty, {}) (shortCalls 4),
      SameReport Transparent.caseless .mysql x.1 x.2 := by
  refine ⟨by decide, by decide, (redis_reports_as_sql_iff Transparent.caseless .mysql _ (by decide)
    (by decide) (admissible_shortCalls (by decide)) (plainBoth_shortCalls 4)).mpr ?_⟩
  intro x hx
  simp only [shortCalls, trace, List.mem_cons, List.not_mem_nil, or_false] at hx
  rcases hx with rfl | rfl
  · simp [OffDeadline, shortSession]
  · rintro id _ row hrow _
    have hrows : ∀ row ∈ (stepBoth Transparent.caseless .mysql (.empty, {}) shortSession).1.rows,
        4 ≠ min row.staleAt (row.createdAt + row.maxAgeSeconds) := by decide
    exact hrows row hrow

/-- At the second of its idle deadline a session is reported by MySQL and gone from Redis. -/
theorem redis_forgets_session_at_deadline :
    Clocked StoreCall.now StoreCall.now (shortCalls 5) ∧ (upsertedIds (shortCalls 5)).Nodup ∧
    (∀ c ∈ shortCalls 5, c.Admissible .mysql) ∧
    (∀ x ∈ trace (stepBoth Transparent.caseless .mysql) (.empty, {}) (shortCalls 5),
      PlainBoth Transparent.caseless .mysql x.1 x.2) ∧
    ¬ ∀ x ∈ trace (stepBoth Transparent.caseless .mysql) (.empty, {}) (shortCalls 5),
      SameReport Transparent.caseless .mysql x.1 x.2 := by
  refine ⟨by decide, by decide, admissible_shortCalls (by decide), plainBoth_shortCalls 5,
    fun h => ?_⟩
  have hget := h (stepBoth Transparent.caseless .mysql (.empty, {}) shortSession,
    ⟨5, .getSession "s"⟩) (by simp [trace, shortCalls]) "s" rfl
  have hsql : SqlBackend.mysql.reported Transparent.caseless
      (SqlBackend.mysql.step Transparent.caseless .empty shortSession) 5 "s" ≠ none := by
    decide
  have hredis : RedisStore.reported (RedisStore.step {} shortSession) 5 "s" = none := by
    decide
  exact hsql (hget.symm.trans hredis)

end AuthVerifier
