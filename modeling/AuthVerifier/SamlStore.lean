import AuthVerifier.Lib.Keyspace
import AuthVerifier.Lib.Text
import AuthVerifier.SqlSessions
import Mathlib.Algebra.Order.Floor.Ring
import Mathlib.Data.List.DropRight

/-!
Storage for SP-initiated SAML logins, following `saml/request_store.rs` and its four
implementations. A call of the `SamlRequestStore` trait is a sequence of readings of the clock, in
whole seconds, and of statements; a statement of the store is one step. Time itself is not whole
seconds: Redis counts its deadlines from the instant of the command.
-/

set_option autoImplicit false

namespace AuthVerifier
open Effects Expiring Relational

structure PendingSamlRequest where
  requestId : String
  realmId : String
  returnUrl : String
  createdAt : Int
  expiresAt : Int
  deriving DecidableEq

/-- The statements of one implementation. A time `τ` is when the server runs the statement, an
`Int` what the caller read from its clock. -/
structure SamlRequestStore (σ τ : Type) where
  insertPending : σ → τ → (ttl : Int) → PendingSamlRequest → Except AuthError σ
  takePending : σ → τ → (now : Int) → (requestId realmId : String) → σ × Option PendingSamlRequest
  /-- What the caller still checks of a request it has taken. -/
  stillValid : (now : Int) → PendingSamlRequest → Bool
  insertSeen : σ → τ → (ttl : Int) → (realmId assertionId : String) → (expiresAt : Int) → σ × Bool
  purgePending : σ → (now : Int) → σ
  purgeSeen : σ → (now : Int) → σ

def ensureUnexpired (now expiresAt : Int) (what : String) : Except AuthError Int :=
  let remaining := expiresAt - now
  if remaining ≤ 0 then .error (.generic s!"refusing to store an already-expired {what}")
  else .ok remaining

theorem ensureUnexpired_of_lt {now expiresAt : Int} {what : String} (h : now < expiresAt) :
    ensureUnexpired now expiresAt what = .ok (expiresAt - now) := by
  simp only [ensureUnexpired]
  rw [if_neg (by omega)]

theorem ensureUnexpired_of_le {now expiresAt : Int} {what : String} (h : expiresAt ≤ now) :
    ensureUnexpired now expiresAt what =
      .error (.generic s!"refusing to store an already-expired {what}") := by
  simp only [ensureUnexpired]
  rw [if_pos (by omega)]

/-- The `assertion_id` column of SQLite and PostgreSQL, and `assertion_id_sha256` of MySQL. -/
inductive AssertionColumn where
  | text (assertionId : String)
  | sha256 (digest : List UInt8)
  deriving DecidableEq

structure SeenAssertion where
  realmId : String
  assertion : AssertionColumn
  expiresAt : Int
  deriving DecidableEq

namespace SqlBackend

/-- What a text is compared by. The `utf8mb4_bin` collation of MySQL pads with spaces, so those at
the end do not count. -/
def text (b : SqlBackend) (s : String) : String :=
  match b with
  | .mysql => String.ofList (s.toList.rdropWhile (fun c => c == ' '))
  | _ => s

/-- What a text column of 255 characters keeps under `INSERT IGNORE`. -/
def stored (b : SqlBackend) (s : String) : String :=
  match b with
  | .mysql => String.ofList (s.toList.take 255)
  | _ => s

theorem text_eq {b : SqlBackend} (hb : b ≠ .mysql) (s : String) : b.text s = s := by
  cases b with
  | sqlite => rfl
  | postgres => rfl
  | mysql => exact absurd rfl hb

end SqlBackend

/-- `saml_pending_request` and `saml_seen_assertion`. -/
structure SqlSamlState (b : SqlBackend) where
  pending : Table PendingSamlRequest String (fun r => b.text r.requestId) := .empty
  seen : Table SeenAssertion (String × AssertionColumn) (fun e => (b.text e.realmId, e.assertion)) :=
    .empty

namespace SqlSaml
variable (b : SqlBackend) (sha256 : String → List UInt8)

def storeError (text : String) : AuthError :=
  .generic s!"Failed to store SAML pending request: error returned from database: {text}"

def duplicateText : SqlBackend → String → String
  | .sqlite, _ => "(code: 1555) UNIQUE constraint failed: saml_pending_request.request_id"
  | .postgres, _ => "duplicate key value violates unique constraint \"saml_pending_request_pkey\""
  | .mysql, id => s!"1062 (23000): Duplicate entry '{id}' for key 'saml_pending_request.PRIMARY'"

/-- The columns that cannot hold their value: `mysql.rs` declares lengths, the others `TEXT`. -/
def overlong : SqlBackend → PendingSamlRequest → Option String
  | .mysql, r =>
    if r.requestId.length > 255 then some "request_id"
    else if r.realmId.length > 255 then some "realm_id"
    else if r.returnUrl.utf8ByteSize > 65535 then some "return_url"
    else none
  | _, _ => none

def insertPending (s : SqlSamlState b) (r : PendingSamlRequest) :
    Except AuthError (SqlSamlState b) :=
  match overlong b r with
  | some column => .error (storeError (SqlBackend.overlongText column))
  | none =>
    if h : b.text r.requestId ∈ s.pending.keys then
      .error (storeError (duplicateText b r.requestId))
    else .ok { s with pending := s.pending.insert r h }

/-- `WHERE request_id = ? AND realm_id = ? AND expires_at > ?`. -/
def selects (now : Int) (requestId realmId : String) (r : PendingSamlRequest) : Bool :=
  b.text r.requestId == b.text requestId && b.text r.realmId == b.text realmId && r.expiresAt > now

/-- `DELETE ... RETURNING`; on MySQL `SELECT ... FOR UPDATE`, then `DELETE` by the request id, in
one transaction. -/
def takePending (s : SqlSamlState b) (now : Int) (requestId realmId : String) :
    SqlSamlState b × Option PendingSamlRequest :=
  match s.pending.rows.find? (selects b now requestId realmId) with
  | none => (s, none)
  | some r =>
    let gone : PendingSamlRequest → Bool := match b with
      | .mysql => fun r => b.text r.requestId == b.text requestId
      | _ => selects b now requestId realmId
    ({ s with pending := s.pending.deleteWhere gone }, some r)

def assertionColumn (assertionId : String) : AssertionColumn :=
  match b with
  | .mysql => .sha256 (sha256 assertionId)
  | _ => .text assertionId

def seenRow (realmId assertionId : String) (expiresAt : Int) : SeenAssertion :=
  { realmId := b.stored realmId, assertion := assertionColumn b sha256 assertionId,
    expiresAt := expiresAt }

/-- `INSERT OR IGNORE`, `ON CONFLICT DO NOTHING`, `INSERT IGNORE`: whether a row was affected. -/
def insertSeen (s : SqlSamlState b) (realmId assertionId : String) (expiresAt : Int) :
    SqlSamlState b × Bool :=
  let row := seenRow b sha256 realmId assertionId expiresAt
  if h : (b.text row.realmId, row.assertion) ∈ s.seen.keys then (s, false)
  else ({ s with seen := s.seen.insert row h }, true)

def purgePending (s : SqlSamlState b) (now : Int) : SqlSamlState b :=
  { s with pending := s.pending.deleteWhere (fun r => r.expiresAt ≤ now) }

def purgeSeen (s : SqlSamlState b) (now : Int) : SqlSamlState b :=
  { s with seen := s.seen.deleteWhere (fun e => e.expiresAt ≤ now) }

section
variable {b : SqlBackend} {s : SqlSamlState b} {now : Int} {requestId realmId : String}
  {q : PendingSamlRequest}

theorem selects_iff : selects b now requestId realmId q = true ↔
    b.text q.requestId = b.text requestId ∧ b.text q.realmId = b.text realmId ∧
      now < q.expiresAt := by
  simp [selects, and_assoc]

theorem mem_insertPending {r : PendingSamlRequest} {s' : SqlSamlState b}
    (h : insertPending b s r = .ok s') :
    s'.seen = s.seen ∧ b.text r.requestId ∉ s.pending.keys ∧
      (q ∈ s'.pending ↔ q ∈ s.pending ∨ q = r) := by
  unfold insertPending at h
  split at h
  · cases h
  · split at h
    · cases h
    · rename_i hk
      cases h
      exact ⟨rfl, hk, Table.mem_insert (h := hk)⟩

theorem takePending_eq_some_iff :
    (takePending b s now requestId realmId).2 = some q ↔
      q ∈ s.pending ∧ selects b now requestId realmId q = true := by
  have hresult : (takePending b s now requestId realmId).2 =
      s.pending.rows.find? (selects b now requestId realmId) := by
    unfold takePending
    cases s.pending.rows.find? (selects b now requestId realmId) with
    | none => rfl
    | some r => rfl
  rw [hresult]
  constructor
  · intro h
    exact ⟨List.mem_of_find?_eq_some h, List.find?_some h⟩
  · rintro ⟨hq, hsel⟩
    cases hf : s.pending.rows.find? (selects b now requestId realmId) with
    | none => exact absurd hsel (List.find?_eq_none.mp hf q hq)
    | some r =>
      have hr := selects_iff.mp (List.find?_some hf)
      have hid := hr.1.trans (selects_iff.mp hsel).1.symm
      rw [Table.eq_of_key (List.mem_of_find?_eq_some hf) hq hid]

theorem mem_takePending :
    q ∈ (takePending b s now requestId realmId).1.pending ↔
      q ∈ s.pending ∧ selects b now requestId realmId q = false := by
  unfold takePending
  cases hf : s.pending.rows.find? (selects b now requestId realmId) with
  | none =>
    have hnone := List.find?_eq_none.mp hf
    exact ⟨fun hq => ⟨hq, Bool.not_eq_true _ ▸ hnone q hq⟩, And.left⟩
  | some r =>
    have hr := List.find?_some hf
    have hmem : r ∈ s.pending := List.mem_of_find?_eq_some hf
    cases b with
    | sqlite => exact Table.mem_deleteWhere
    | postgres => exact Table.mem_deleteWhere
    | mysql =>
      refine Table.mem_deleteWhere.trans (and_congr_right fun hq => ?_)
      rw [beq_eq_false_iff_ne, ← Bool.not_eq_true, not_iff_not]
      constructor
      · intro hid
        rw [Table.eq_of_key hq hmem (hid.trans (selects_iff.mp hr).1.symm)]
        exact hr
      · exact fun hsel => (selects_iff.mp hsel).1

def seenKey (b : SqlBackend) (sha256 : String → List UInt8) (realmId assertionId : String) :
    String × AssertionColumn :=
  (b.text (b.stored realmId), assertionColumn b sha256 assertionId)

section
variable {sha256 : String → List UInt8} {assertionId : String} {expiresAt : Int}

theorem insertSeen_of_mem (h : seenKey b sha256 realmId assertionId ∈ s.seen.keys) :
    insertSeen b sha256 s realmId assertionId expiresAt = (s, false) := dif_pos h

theorem insertSeen_of_not_mem (h : seenKey b sha256 realmId assertionId ∉ s.seen.keys) :
    insertSeen b sha256 s realmId assertionId expiresAt =
      ({ s with seen := s.seen.insert (seenRow b sha256 realmId assertionId expiresAt) h }, true) :=
  dif_neg h

theorem mem_insertSeen (h : seenKey b sha256 realmId assertionId ∉ s.seen.keys) (e : SeenAssertion) :
    e ∈ (insertSeen b sha256 s realmId assertionId expiresAt).1.seen ↔
      e ∈ s.seen ∨ e = seenRow b sha256 realmId assertionId expiresAt := by
  have hrow : (b.text (seenRow b sha256 realmId assertionId expiresAt).realmId,
      (seenRow b sha256 realmId assertionId expiresAt).assertion) ∉ s.seen.keys := h
  rw [insertSeen_of_not_mem h]
  exact Table.mem_insert (h := hrow)

theorem insertSeen_pending :
    (insertSeen b sha256 s realmId assertionId expiresAt).1.pending = s.pending := by
  by_cases h : seenKey b sha256 realmId assertionId ∈ s.seen.keys
  · rw [insertSeen_of_mem h]
  · rw [insertSeen_of_not_mem h]

end

theorem takePending_seen : (takePending b s now requestId realmId).1.seen = s.seen := by
  unfold takePending
  cases s.pending.rows.find? (selects b now requestId realmId) with
  | none => rfl
  | some r => rfl

end
end SqlSaml

def sqlSamlRequestStore (τ : Type) (b : SqlBackend) (sha256 : String → List UInt8) :
    SamlRequestStore (SqlSamlState b) τ where
  insertPending s _ _ r := SqlSaml.insertPending b s r
  takePending s _ now requestId realmId := SqlSaml.takePending b s now requestId realmId
  stillValid _ _ := true
  insertSeen s _ _ realmId assertionId expiresAt :=
    SqlSaml.insertSeen b sha256 s realmId assertionId expiresAt
  purgePending := SqlSaml.purgePending b
  purgeSeen := SqlSaml.purgeSeen b

structure RedisSamlState (τ : Type) where
  pending : Keyspace PendingSamlRequest τ := .empty
  seen : Keyspace Unit τ := .empty

namespace RedisSaml

def pendingKey (realmId requestId : String) : String :=
  "saml:pending:" ++ realmId ++ ":" ++ requestId

/-- The length prefix keeps `a:b` with `c` and `a` with `b:c` apart. -/
def seenKey (realmId assertionId : String) : String :=
  "saml:seen:" ++ toString realmId.utf8ByteSize ++ ":" ++ realmId ++ ":" ++ assertionId

theorem pendingKey_inj {realmId requestId realmId' requestId' : String}
    (h : pendingKey realmId requestId = pendingKey realmId' requestId') (hr : ':' ∉ realmId.toList)
    (hr' : ':' ∉ realmId'.toList) : realmId = realmId' ∧ requestId = requestId' := by
  have hlist := congrArg String.toList h
  simp only [pendingKey, String.append_assoc, String.toList_append,
    List.append_cancel_left_eq] at hlist
  obtain ⟨hrealm, hrequest⟩ := Text.sep_append_inj hr hr' hlist
  exact ⟨String.toList_inj.mp hrealm, String.toList_inj.mp hrequest⟩

theorem seenKey_inj {realmId assertionId realmId' assertionId' : String}
    (h : seenKey realmId assertionId = seenKey realmId' assertionId') :
    realmId = realmId' ∧ assertionId = assertionId' := by
  have hlist := congrArg String.toList h
  simp only [seenKey, String.append_assoc, String.toList_append,
    List.append_cancel_left_eq] at hlist
  obtain ⟨hsize, hrest⟩ := Text.sep_append_inj (Text.colon_not_mem_digits _)
    (Text.colon_not_mem_digits _) hlist
  have hlen := Text.toString_nat_inj (String.toList_inj.mp hsize)
  obtain ⟨hrealm, hassertion⟩ := Text.append_size_inj hlen hrest
  refine ⟨hrealm, String.toList_inj.mp ?_⟩
  simpa using hassertion

theorem seenKey_ne {realmId assertionId realmId' assertionId' : String}
    (h : ¬ (realmId' = realmId ∧ assertionId' = assertionId)) :
    seenKey realmId assertionId ≠ seenKey realmId' assertionId' := by
  intro hkey
  obtain ⟨hrealm, hassertion⟩ := seenKey_inj hkey
  exact h ⟨hrealm.symm, hassertion.symm⟩

end RedisSaml

theorem lt_deadline {τ : Type} [Ring τ] [LinearOrder τ] [IsStrictOrderedRing τ] [FloorRing τ]
    {now t : τ} {expiresAt : Int} (h : ⌊t⌋ < expiresAt) :
    t < now + ((expiresAt - ⌊now⌋ : Int) : τ) := by
  have hlt : t < (expiresAt : τ) := Int.floor_lt.mp h
  have hle : ((⌊now⌋ : Int) : τ) ≤ now := Int.floor_le now
  push_cast
  calc t < (expiresAt : τ) := hlt
    _ = ((⌊now⌋ : Int) : τ) + ((expiresAt : τ) - ((⌊now⌋ : Int) : τ)) := by abel
    _ ≤ now + ((expiresAt : τ) - ((⌊now⌋ : Int) : τ)) := by gcongr

def redisSamlRequestStore (τ : Type) [Ring τ] [LinearOrder τ] :
    SamlRequestStore (RedisSamlState τ) τ where
  insertPending s instant ttl r :=
    .ok { s with
      pending := s.pending.set (RedisSaml.pendingKey r.realmId r.requestId) r (some (instant + ttl)) }
  takePending s instant _ requestId realmId :=
    let taken := s.pending.getDel instant (RedisSaml.pendingKey realmId requestId)
    ({ s with pending := taken.1 }, taken.2)
  stillValid now r := r.expiresAt > now
  insertSeen s instant ttl realmId assertionId _ :=
    let set := s.seen.setNx instant (RedisSaml.seenKey realmId assertionId) () (instant + ttl)
    ({ s with seen := set.1 }, set.2)
  purgePending s _ := s
  purgeSeen s _ := s

inductive SamlOp where
  | storePendingRequest (request : PendingSamlRequest)
  | takePendingRequest (requestId realmId : String)
  | recordAssertionId (realmId assertionId : String) (expiresAt : Int)
  | deleteExpired
  deriving DecidableEq

structure SamlCall (τ : Type) where
  now : τ
  op : SamlOp
  deriving DecidableEq

inductive SamlAnswer where
  | done
  | taken (request : Option PendingSamlRequest)
  | recorded (new : Bool)
  deriving DecidableEq

namespace SamlRequestStore
variable {σ τ : Type} [Ring τ] [LinearOrder τ] [FloorRing τ] (S : SamlRequestStore σ τ)

def apply (s : σ) (c : SamlCall τ) : Outcome σ AuthError SamlAnswer :=
  match c.op with
  | .storePendingRequest request =>
    match ensureUnexpired ⌊c.now⌋ request.expiresAt "SAML pending request" with
    | .error e => .error s e
    | .ok ttl => match S.insertPending s c.now ttl request with
      | .error e => .error s e
      | .ok s => .ok s .done
  | .takePendingRequest requestId realmId =>
    let taken := S.takePending s c.now ⌊c.now⌋ requestId realmId
    .ok taken.1 (.taken (taken.2.filter (S.stillValid ⌊c.now⌋)))
  | .recordAssertionId realmId assertionId expiresAt =>
    match ensureUnexpired ⌊c.now⌋ expiresAt "SAML assertion id" with
    | .error e => .error s e
    | .ok ttl =>
      let inserted := S.insertSeen s c.now ttl realmId assertionId expiresAt
      .ok inserted.1 (.recorded inserted.2)
  | .deleteExpired => .ok (S.purgeSeen (S.purgePending s ⌊c.now⌋) ⌊c.now⌋) .done

def step (s : σ) (c : SamlCall τ) : σ := (S.apply s c).state

end SamlRequestStore
end AuthVerifier
