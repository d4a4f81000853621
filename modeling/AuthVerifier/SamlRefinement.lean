import AuthVerifier.Lib.Run
import AuthVerifier.SamlStore

/-!
The Redis store against the SQL stores that compare texts exactly, run on the same calls. A pending
request is one row there and one key here, and a deadline of Redis is never before the expiry that
it was computed from. The two part where one key of Redis stands for several requests, and where an
assertion id is recorded again after its entry has expired.
-/

set_option autoImplicit false

namespace AuthVerifier
open Effects Expiring Relational Transition

section
variable {τ : Type} [Ring τ] [LinearOrder τ] [FloorRing τ]

namespace SamlCall

def stored (c : SamlCall τ) : Option PendingSamlRequest :=
  match c.op with
  | .storePendingRequest r => if ⌊c.now⌋ < r.expiresAt then some r else none
  | _ => none

/-- The realm and the request id by which a call addresses a pending request. -/
def address (c : SamlCall τ) : Option (String × String) :=
  match c.op with
  | .takePendingRequest requestId realmId => some (realmId, requestId)
  | _ => c.stored.map fun r => (r.realmId, r.requestId)

def retention (realmId assertionId : String) (c : SamlCall τ) : Option Int :=
  match c.op with
  | .recordAssertionId realm assertion expiresAt =>
    if realm = realmId ∧ assertion = assertionId ∧ ⌊c.now⌋ < expiresAt then some expiresAt else none
  | _ => none

end SamlCall

def Unambiguous (pre : List (SamlCall τ)) (realmId requestId : String) : Prop :=
  ∀ c ∈ pre, ∀ a, c.address = some a →
    RedisSaml.pendingKey a.1 a.2 = RedisSaml.pendingKey realmId requestId → a = (realmId, requestId)

def retained (pre : List (SamlCall τ)) (realmId assertionId : String) : Option Int :=
  pre.findSome? (SamlCall.retention realmId assertionId)

def Comparable (pre : List (SamlCall τ)) (c : SamlCall τ) : Prop :=
  match c.op with
  | .takePendingRequest requestId realmId => Unambiguous pre realmId requestId
  | .recordAssertionId realmId assertionId expiresAt =>
    ∀ first, retained pre realmId assertionId = some first →
      ⌊c.now⌋ < first ∨ expiresAt ≤ ⌊c.now⌋
  | _ => True

def SamlRequestStore.answer {σ : Type} (S : SamlRequestStore σ τ) (init : σ)
    (pre : List (SamlCall τ)) (c : SamlCall τ) : Except AuthError SamlAnswer :=
  (S.apply (run S.step init pre) c).result

section
variable {b : SqlBackend} {pre : List (SamlCall τ)} {c : SamlCall τ}

theorem stored_eq_some {q : PendingSamlRequest} (h : c.stored = some q) :
    c.op = .storePendingRequest q ∧ ⌊c.now⌋ < q.expiresAt := by
  unfold SamlCall.stored at h
  split at h
  · rename_i r hop
    split at h
    · cases h
      exact ⟨hop, by assumption⟩
    · cases h
  · cases h

theorem address_of_stored {q : PendingSamlRequest} (h : c.stored = some q) :
    c.address = some (q.realmId, q.requestId) := by
  have hop := (stored_eq_some h).1
  simp only [SamlCall.address, hop, h, Option.map_some]

theorem Unambiguous.mono {realmId requestId : String}
    (h : Unambiguous (pre ++ [c]) realmId requestId) : Unambiguous pre realmId requestId :=
  fun x hx => h x (List.mem_append_left _ hx)

theorem Unambiguous.last {realmId requestId : String} {a : String × String}
    (h : Unambiguous (pre ++ [c]) realmId requestId) (ha : c.address = some a) :
    a = (realmId, requestId) ∨
      RedisSaml.pendingKey realmId requestId ≠ RedisSaml.pendingKey a.1 a.2 := by
  by_cases hk : RedisSaml.pendingKey a.1 a.2 = RedisSaml.pendingKey realmId requestId
  · exact .inl (h c (by simp) a ha hk)
  · exact .inr (Ne.symm hk)

theorem retained_append (realmId assertionId : String) :
    retained (pre ++ [c]) realmId assertionId =
      (retained pre realmId assertionId).or (c.retention realmId assertionId) := by
  simp [retained, List.findSome?_append]

/-- The pending requests of the two stores after the same calls. -/
structure PendingAgree (pre : List (SamlCall τ))
    (rows : Table PendingSamlRequest String (fun r => b.text r.requestId))
    (keys : Keyspace PendingSamlRequest τ) : Prop where
  stored : ∀ q ∈ rows, ∃ c ∈ pre, c.stored = some q
  /-- Until it expires, a request that is addressed unambiguously is in both or in none. -/
  same : ∀ t realmId requestId q, (∀ c ∈ pre, c.now ≤ t) → ⌊t⌋ < q.expiresAt →
    Unambiguous pre realmId requestId →
    ((q ∈ rows ∧ q.realmId = realmId ∧ q.requestId = requestId) ↔
      keys.get t (RedisSaml.pendingKey realmId requestId) = some q)

structure SeenAgree (pre : List (SamlCall τ))
    (rows : Table SeenAssertion (String × AssertionColumn)
      (fun e => (b.text e.realmId, e.assertion))) (keys : Keyspace Unit τ) : Prop where
  fresh : ∀ realmId assertionId, retained pre realmId assertionId = none →
    (∀ e ∈ rows, ¬ (e.realmId = realmId ∧ e.assertion = .text assertionId)) ∧
      keys.find? (RedisSaml.seenKey realmId assertionId) = none
  /-- Until it expires, the first entry of an assertion id is in both. -/
  held : ∀ t realmId assertionId first, retained pre realmId assertionId = some first →
    (∀ c ∈ pre, c.now ≤ t) → ⌊t⌋ < first →
    (∃ e ∈ rows, e.realmId = realmId ∧ e.assertion = .text assertionId ∧ e.expiresAt = first) ∧
      ∃ e, keys.entry t (RedisSaml.seenKey realmId assertionId) = some e

section Pending
variable {rows rows' : Table PendingSamlRequest String (fun r => b.text r.requestId)}
  {keys : Keyspace PendingSamlRequest τ}

theorem PendingAgree.kept [IsStrictOrderedRing τ] (h : PendingAgree pre rows keys)
    (hsub : ∀ q ∈ rows', q ∈ rows)
    (hkeep : ∀ q ∈ rows, ⌊c.now⌋ < q.expiresAt → q ∈ rows') :
    PendingAgree (pre ++ [c]) rows' keys := by
  constructor
  · intro q hq
    obtain ⟨x, hx, hs⟩ := h.stored q (hsub q hq)
    exact ⟨x, List.mem_append_left _ hx, hs⟩
  · intro t realmId requestId q hlater hlt hun
    rw [← h.same t realmId requestId q (fun x hx => hlater x (List.mem_append_left _ hx)) hlt hun.mono]
    have hnow : ⌊c.now⌋ ≤ ⌊t⌋ := Int.floor_le_floor (hlater c (by simp))
    exact and_congr_left fun _ => ⟨hsub q, fun hq => hkeep q hq (by omega)⟩

theorem PendingAgree.store [IsStrictOrderedRing τ] (h : PendingAgree pre rows keys)
    {new : PendingSamlRequest} (hstored : c.stored = some new)
    (hfresh : ∀ x ∈ pre, ∀ q, x.stored = some q → q.requestId ≠ new.requestId)
    (hrows : ∀ q, q ∈ rows' ↔ q ∈ rows ∨ q = new) :
    PendingAgree (pre ++ [c]) rows' (keys.set (RedisSaml.pendingKey new.realmId new.requestId) new
      (some (c.now + ((new.expiresAt - ⌊c.now⌋ : Int) : τ)))) := by
  constructor
  · intro q hq
    rcases (hrows q).mp hq with hq | rfl
    · obtain ⟨x, hx, hs⟩ := h.stored q hq
      exact ⟨x, List.mem_append_left _ hx, hs⟩
    · exact ⟨c, by simp, hstored⟩
  · intro t realmId requestId q hlater hlt hun
    have hbefore := h.same t realmId requestId q
      (fun x hx => hlater x (List.mem_append_left _ hx)) hlt hun.mono
    rcases hun.last (address_of_stored hstored) with ha | hk
    · obtain ⟨rfl, rfl⟩ := Prod.mk.inj ha
      have hnone : ¬ (q ∈ rows ∧ q.realmId = new.realmId ∧ q.requestId = new.requestId) := by
        rintro ⟨hq, _, hid⟩
        obtain ⟨x, hx, hs⟩ := h.stored q hq
        exact hfresh x hx q hs hid
      rw [Keyspace.get, Keyspace.entry_set_self]
      constructor
      · rintro ⟨hq, hid⟩
        rcases (hrows q).mp hq with hq | rfl
        · exact absurd ⟨hq, hid⟩ hnone
        · simp only [Option.filter, Entry.live, lt_deadline hlt, decide_true, if_true,
            Option.map_some]
      · intro hget
        obtain ⟨e, he, rfl⟩ := Option.map_eq_some_iff.mp hget
        obtain ⟨he, _⟩ := Option.filter_eq_some_iff.mp he
        cases he
        exact ⟨(hrows new).mpr (.inr rfl), rfl, rfl⟩
    · rw [Keyspace.get, Keyspace.entry_set_ne hk, ← Keyspace.get, ← hbefore]
      refine and_congr_left fun hid => ?_
      rw [hrows]
      refine or_iff_left ?_
      rintro rfl
      exact hk (by rw [hid.1, hid.2])

theorem PendingAgree.take [IsStrictOrderedRing τ] (h : PendingAgree pre rows keys)
    {requestId₀ realmId₀ : String} (hop : c.op = .takePendingRequest requestId₀ realmId₀)
    (hrows : ∀ q, q ∈ rows' ↔ q ∈ rows ∧
      ¬ (q.requestId = requestId₀ ∧ q.realmId = realmId₀ ∧ ⌊c.now⌋ < q.expiresAt)) :
    PendingAgree (pre ++ [c]) rows' (keys.del (RedisSaml.pendingKey realmId₀ requestId₀)) := by
  have haddress : c.address = some (realmId₀, requestId₀) := by simp only [SamlCall.address, hop]
  constructor
  · intro q hq
    obtain ⟨x, hx, hs⟩ := h.stored q ((hrows q).mp hq).1
    exact ⟨x, List.mem_append_left _ hx, hs⟩
  · intro t realmId requestId q hlater hlt hun
    have hnow : ⌊c.now⌋ ≤ ⌊t⌋ := Int.floor_le_floor (hlater c (by simp))
    have hbefore := h.same t realmId requestId q
      (fun x hx => hlater x (List.mem_append_left _ hx)) hlt hun.mono
    rcases hun.last haddress with ha | hk
    · obtain ⟨rfl, rfl⟩ := Prod.mk.inj ha
      rw [Keyspace.get, Keyspace.entry_del_self]
      constructor
      · rintro ⟨hq, hrealm, hid⟩
        exact absurd ⟨hid, hrealm, by omega⟩ ((hrows q).mp hq).2
      · intro hget
        cases hget
    · rw [Keyspace.get, Keyspace.entry_del_ne hk, ← Keyspace.get, ← hbefore]
      refine and_congr_left fun hid => ?_
      rw [hrows]
      refine and_iff_left ?_
      rintro ⟨hid', hrealm', _⟩
      exact hk (by rw [← hid.1, ← hid.2, hid', hrealm'])

end Pending

section Seen
variable {rows rows' : Table SeenAssertion (String × AssertionColumn)
    (fun e => (b.text e.realmId, e.assertion))} {keys : Keyspace Unit τ}

theorem SeenAgree.kept [IsStrictOrderedRing τ] (h : SeenAgree pre rows keys)
    (hret : ∀ realmId assertionId, c.retention realmId assertionId = none)
    (hsub : ∀ e ∈ rows', e ∈ rows)
    (hkeep : ∀ e ∈ rows, ⌊c.now⌋ < e.expiresAt → e ∈ rows') :
    SeenAgree (pre ++ [c]) rows' keys := by
  have hsame (realmId assertionId : String) :
      retained (pre ++ [c]) realmId assertionId = retained pre realmId assertionId := by
    rw [retained_append, hret, Option.or_none]
  constructor
  · intro realmId assertionId hnone
    rw [hsame] at hnone
    obtain ⟨hno, habsent⟩ := h.fresh realmId assertionId hnone
    exact ⟨fun e he => hno e (hsub e he), habsent⟩
  · intro t realmId assertionId first hsome hlater hlt
    rw [hsame] at hsome
    have hnow : ⌊c.now⌋ ≤ ⌊t⌋ := Int.floor_le_floor (hlater c (by simp))
    obtain ⟨⟨e, he, hkey₁, hkey₂, hexp⟩, hentry⟩ := h.held t realmId assertionId first hsome
      (fun x hx => hlater x (List.mem_append_left _ hx)) hlt
    exact ⟨⟨e, hkeep e he (by omega), hkey₁, hkey₂, hexp⟩, hentry⟩

theorem SeenAgree.record [IsStrictOrderedRing τ] (h : SeenAgree pre rows keys)
    (hclock : ∀ x ∈ pre, x.now ≤ c.now) {realmId₀ assertionId₀ : String} {expiresAt : Int}
    (hop : c.op = .recordAssertionId realmId₀ assertionId₀ expiresAt)
    (hlive : ⌊c.now⌋ < expiresAt)
    (hseen : (∃ e ∈ rows, e.realmId = realmId₀ ∧ e.assertion = .text assertionId₀) → rows' = rows)
    (hnew : (∀ e ∈ rows, ¬ (e.realmId = realmId₀ ∧ e.assertion = .text assertionId₀)) →
      ∀ e, e ∈ rows' ↔ e ∈ rows ∨ e = ⟨realmId₀, .text assertionId₀, expiresAt⟩) :
    SeenAgree (pre ++ [c]) rows' (keys.setNx c.now (RedisSaml.seenKey realmId₀ assertionId₀) ()
      (c.now + ((expiresAt - ⌊c.now⌋ : Int) : τ))).1 := by
  have hrows (e : SeenAssertion) :
      (e ∈ rows → e ∈ rows') ∧
        (e ∈ rows' → e ∈ rows ∨ e = ⟨realmId₀, .text assertionId₀, expiresAt⟩) := by
    by_cases hex : ∃ e ∈ rows, e.realmId = realmId₀ ∧ e.assertion = .text assertionId₀
    · rw [hseen hex]
      exact ⟨id, .inl⟩
    · have hmem := hnew (fun e he hk => hex ⟨e, he, hk⟩) e
      exact ⟨fun he => hmem.mpr (.inl he), hmem.mp⟩
  have hret (realmId assertionId : String) : c.retention realmId assertionId =
      if realmId₀ = realmId ∧ assertionId₀ = assertionId then some expiresAt else none := by
    simp [SamlCall.retention, hop, hlive]
  constructor
  · intro realmId assertionId hnone
    rw [retained_append, hret, Option.or_eq_none_iff] at hnone
    obtain ⟨hnone, hne⟩ := hnone
    have hother : ¬ (realmId₀ = realmId ∧ assertionId₀ = assertionId) := by
      intro hsame
      rw [if_pos hsame] at hne
      cases hne
    obtain ⟨hno, habsent⟩ := h.fresh realmId assertionId hnone
    constructor
    · intro e he hkey
      rcases (hrows e).2 he with he | rfl
      · exact hno e he hkey
      · exact hother ⟨hkey.1, by simpa using hkey.2⟩
    · rw [Keyspace.find?_setNx_ne (RedisSaml.seenKey_ne hother), habsent]
  · intro t realmId assertionId first hsome hlater hlt
    rw [retained_append, hret] at hsome
    have hbefore : ∀ x ∈ pre, x.now ≤ t := fun x hx => hlater x (List.mem_append_left _ hx)
    have hnow : ⌊c.now⌋ ≤ ⌊t⌋ := Int.floor_le_floor (hlater c (by simp))
    cases hret₀ : retained pre realmId assertionId with
    | some first₀ =>
      rw [hret₀, Option.some_or, Option.some_inj] at hsome
      subst hsome
      obtain ⟨⟨e, he, hkey⟩, entry, hentry⟩ := h.held t realmId assertionId first₀ hret₀ hbefore hlt
      refine ⟨⟨e, (hrows e).1 he, hkey⟩, entry, ?_⟩
      by_cases hsame : realmId₀ = realmId ∧ assertionId₀ = assertionId
      · obtain ⟨rfl, rfl⟩ := hsame
        obtain ⟨_, entry', hentry'⟩ := h.held c.now realmId₀ assertionId₀ first₀ hret₀ hclock
          (by omega)
        rw [Keyspace.setNx_of_entry hentry']
        exact hentry
      · rw [Keyspace.entry, Keyspace.find?_setNx_ne (RedisSaml.seenKey_ne hsame), ← Keyspace.entry]
        exact hentry
    | none =>
      rw [hret₀, Option.none_or] at hsome
      have hsame : realmId₀ = realmId ∧ assertionId₀ = assertionId := by
        by_contra hne
        rw [if_neg hne] at hsome
        cases hsome
      obtain ⟨rfl, rfl⟩ := hsame
      rw [if_pos ⟨rfl, rfl⟩, Option.some_inj] at hsome
      subst hsome
      obtain ⟨hno, habsent⟩ := h.fresh realmId₀ assertionId₀ hret₀
      refine ⟨⟨_, (hnew hno _).mpr (.inr rfl), rfl, rfl, rfl⟩, ?_⟩
      rw [Keyspace.setNx_of_absent (Keyspace.entry_of_absent habsent), Keyspace.entry_set_self]
      exact ⟨_, by
        simp only [Option.filter, Entry.live, lt_deadline hlt, decide_true, if_true]; rfl⟩

end Seen

section Calls
variable {s : SqlSamlState b} {r : RedisSamlState τ} {sha256 : String → List UInt8}

theorem insertPending_ok (hb : b ≠ .mysql) {new : PendingSamlRequest}
    (hfresh : ∀ q ∈ s.pending, q.requestId ≠ new.requestId) :
    ∃ s', SqlSaml.insertPending b s new = .ok s' := by
  have hlong : SqlSaml.overlong b new = none := by
    cases b with
    | sqlite => rfl
    | postgres => rfl
    | mysql => exact absurd rfl hb
  have hkey : b.text new.requestId ∉ s.pending.keys := by
    intro hk
    obtain ⟨q, hq, hid⟩ := Table.mem_keys.mp hk
    rw [SqlBackend.text_eq hb, SqlBackend.text_eq hb] at hid
    exact hfresh q hq hid
  simp [SqlSaml.insertPending, hlong, hkey]

theorem mem_takePending_exact (hb : b ≠ .mysql) {now : Int} {requestId realmId : String}
    (q : PendingSamlRequest) :
    q ∈ (SqlSaml.takePending b s now requestId realmId).1.pending ↔ q ∈ s.pending ∧
      ¬ (q.requestId = requestId ∧ q.realmId = realmId ∧ now < q.expiresAt) := by
  rw [SqlSaml.mem_takePending, ← Bool.not_eq_true, SqlSaml.selects_iff]
  simp only [SqlBackend.text_eq hb]

theorem seenKey_exact (hb : b ≠ .mysql) (realmId assertionId : String) :
    SqlSaml.seenKey b sha256 realmId assertionId = (realmId, .text assertionId) := by
  cases b with
  | sqlite => rfl
  | postgres => rfl
  | mysql => exact absurd rfl hb

theorem seenRow_exact (hb : b ≠ .mysql) (realmId assertionId : String) (expiresAt : Int) :
    SqlSaml.seenRow b sha256 realmId assertionId expiresAt =
      ⟨realmId, .text assertionId, expiresAt⟩ := by
  cases b with
  | sqlite => rfl
  | postgres => rfl
  | mysql => exact absurd rfl hb

theorem seenKey_mem_iff (hb : b ≠ .mysql) {realmId assertionId : String} :
    SqlSaml.seenKey b sha256 realmId assertionId ∈ s.seen.keys ↔
      ∃ e ∈ s.seen, e.realmId = realmId ∧ e.assertion = .text assertionId := by
  rw [seenKey_exact hb, Table.mem_keys]
  simp only [SqlBackend.text_eq hb, Prod.mk.injEq]

theorem agree_step [IsStrictOrderedRing τ] (hb : b ≠ .mysql)
    (hpending : PendingAgree pre s.pending r.pending) (hseen : SeenAgree pre s.seen r.seen)
    (hclock : ∀ x ∈ pre, x.now ≤ c.now)
    (hids : ∀ x ∈ pre, ∀ q q', x.stored = some q → c.stored = some q' →
      q.requestId ≠ q'.requestId) :
    PendingAgree (pre ++ [c]) ((sqlSamlRequestStore τ b sha256).step s c).pending
      ((redisSamlRequestStore τ).step r c).pending ∧
    SeenAgree (pre ++ [c]) ((sqlSamlRequestStore τ b sha256).step s c).seen
      ((redisSamlRequestStore τ).step r c).seen := by
  have hidle : PendingAgree (pre ++ [c]) s.pending r.pending :=
    hpending.kept (fun _ hq => hq) (fun _ hq _ => hq)
  cases hop : c.op with
  | storePendingRequest new =>
    have hret : ∀ realmId assertionId, c.retention realmId assertionId = none := by
      simp [SamlCall.retention, hop]
    have hseen' : SeenAgree (pre ++ [c]) s.seen r.seen :=
      hseen.kept hret (fun _ he => he) (fun _ he _ => he)
    by_cases hlive : ⌊c.now⌋ < new.expiresAt
    · have hstored : c.stored = some new := by simp [SamlCall.stored, hop, hlive]
      have hfresh : ∀ x ∈ pre, ∀ q, x.stored = some q → q.requestId ≠ new.requestId :=
        fun x hx q hq => hids x hx q new hq hstored
      obtain ⟨s', hs'⟩ := @insertPending_ok b s hb new (fun q hq => by
        obtain ⟨x, hx, hxq⟩ := hpending.stored q hq
        exact hfresh x hx q hxq)
      have hrows (q : PendingSamlRequest) := @SqlSaml.mem_insertPending b s q new s' hs'
      simp only [SamlRequestStore.step, SamlRequestStore.apply, hop, ensureUnexpired_of_lt hlive,
        sqlSamlRequestStore, redisSamlRequestStore, hs', Outcome.ok_state]
      rw [(hrows new).1]
      exact ⟨hpending.store hstored hfresh (fun q => (hrows q).2.2), hseen'⟩
    · simp only [SamlRequestStore.step, SamlRequestStore.apply, hop,
        ensureUnexpired_of_le (not_lt.mp hlive), Outcome.error_state]
      exact ⟨hidle, hseen'⟩
  | takePendingRequest requestId realmId =>
    simp only [SamlRequestStore.step, SamlRequestStore.apply, hop, sqlSamlRequestStore,
      redisSamlRequestStore, Outcome.ok_state, Keyspace.getDel, SqlSaml.takePending_seen]
    exact ⟨hpending.take hop (mem_takePending_exact hb), hseen.kept (by simp [SamlCall.retention, hop])
      (fun _ he => he) (fun _ he _ => he)⟩
  | recordAssertionId realmId assertionId expiresAt =>
    by_cases hlive : ⌊c.now⌋ < expiresAt
    · simp only [SamlRequestStore.step, SamlRequestStore.apply, hop, ensureUnexpired_of_lt hlive,
        sqlSamlRequestStore, redisSamlRequestStore, Outcome.ok_state, SqlSaml.insertSeen_pending]
      refine ⟨hidle, hseen.record hclock hop hlive ?_ ?_⟩
      · intro hex
        rw [SqlSaml.insertSeen_of_mem ((seenKey_mem_iff hb).mpr hex)]
      · intro hno
        have hkey : SqlSaml.seenKey b sha256 realmId assertionId ∉ s.seen.keys := by
          intro hk
          obtain ⟨e, he, hkey⟩ := (seenKey_mem_iff hb).mp hk
          exact hno e he hkey
        intro e
        rw [SqlSaml.mem_insertSeen hkey, seenRow_exact hb]
    · simp only [SamlRequestStore.step, SamlRequestStore.apply, hop,
        ensureUnexpired_of_le (not_lt.mp hlive), Outcome.error_state]
      exact ⟨hidle, hseen.kept (by simp [SamlCall.retention, hop, hlive]) (fun _ he => he)
        (fun _ he _ => he)⟩
  | deleteExpired =>
    simp only [SamlRequestStore.step, SamlRequestStore.apply, hop, sqlSamlRequestStore,
      redisSamlRequestStore, Outcome.ok_state, SqlSaml.purgePending, SqlSaml.purgeSeen]
    refine ⟨hpending.kept (fun q hq => (Table.mem_deleteWhere.mp hq).1) ?_,
      hseen.kept (by simp [SamlCall.retention, hop])
        (fun e he => (Table.mem_deleteWhere.mp he).1) ?_⟩
    · exact fun q hq hlive => Table.mem_deleteWhere.mpr ⟨hq, by simpa using hlive⟩
    · exact fun e he hlive => Table.mem_deleteWhere.mpr ⟨he, by simpa using hlive⟩

theorem agree_answer [IsStrictOrderedRing τ] (hb : b ≠ .mysql)
    (hpending : PendingAgree pre s.pending r.pending) (hseen : SeenAgree pre s.seen r.seen)
    (hclock : ∀ x ∈ pre, x.now ≤ c.now)
    (hids : ∀ x ∈ pre, ∀ q q', x.stored = some q → c.stored = some q' →
      q.requestId ≠ q'.requestId) (hcomp : Comparable pre c) :
    ((redisSamlRequestStore τ).apply r c).result =
      ((sqlSamlRequestStore τ b sha256).apply s c).result := by
  cases hop : c.op with
  | storePendingRequest new =>
    by_cases hlive : ⌊c.now⌋ < new.expiresAt
    · have hstored : c.stored = some new := by simp [SamlCall.stored, hop, hlive]
      obtain ⟨s', hs'⟩ := @insertPending_ok b s hb new (fun q hq => by
        obtain ⟨x, hx, hxq⟩ := hpending.stored q hq
        exact hids x hx q new hxq hstored)
      simp only [SamlRequestStore.apply, hop, ensureUnexpired_of_lt hlive, sqlSamlRequestStore,
        redisSamlRequestStore, hs', Outcome.ok_result]
    · simp only [SamlRequestStore.apply, hop, ensureUnexpired_of_le (not_lt.mp hlive),
        Outcome.error_result]
  | takePendingRequest requestId realmId =>
    simp only [Comparable, hop] at hcomp
    simp only [SamlRequestStore.apply, hop, sqlSamlRequestStore, redisSamlRequestStore,
      Outcome.ok_result, Keyspace.getDel, Except.ok.injEq, SamlAnswer.taken.injEq]
    ext q
    simp only [Option.filter_eq_some_iff, and_true,
      SqlSaml.takePending_eq_some_iff, SqlSaml.selects_iff, SqlBackend.text_eq hb,
      decide_eq_true_eq, gt_iff_lt]
    constructor
    · rintro ⟨hget, hlive⟩
      obtain ⟨hq, hrealm, hid⟩ := (hpending.same c.now realmId requestId q hclock hlive hcomp).mpr hget
      exact ⟨hq, hid, hrealm, hlive⟩
    · rintro ⟨hq, hid, hrealm, hlive⟩
      exact ⟨(hpending.same c.now realmId requestId q hclock hlive hcomp).mp ⟨hq, hrealm, hid⟩, hlive⟩
  | recordAssertionId realmId assertionId expiresAt =>
    by_cases hlive : ⌊c.now⌋ < expiresAt
    · simp only [SamlRequestStore.apply, hop, ensureUnexpired_of_lt hlive, sqlSamlRequestStore,
        redisSamlRequestStore, Outcome.ok_result, Except.ok.injEq, SamlAnswer.recorded.injEq]
      cases hret : retained pre realmId assertionId with
      | none =>
        obtain ⟨hno, habsent⟩ := hseen.fresh realmId assertionId hret
        have hkey : SqlSaml.seenKey b sha256 realmId assertionId ∉ s.seen.keys := by
          intro hk
          obtain ⟨e, he, hkey⟩ := (seenKey_mem_iff hb).mp hk
          exact hno e he hkey
        rw [Keyspace.setNx_of_absent (Keyspace.entry_of_absent habsent),
          SqlSaml.insertSeen_of_not_mem hkey]
      | some first =>
        simp only [Comparable, hop] at hcomp
        have hfirst : ⌊c.now⌋ < first := (hcomp first hret).resolve_right (by omega)
        obtain ⟨⟨e, he, hrealm, hassertion, _⟩, entry, hentry⟩ :=
          hseen.held c.now realmId assertionId first hret hclock hfirst
        rw [Keyspace.setNx_of_entry hentry,
          SqlSaml.insertSeen_of_mem ((seenKey_mem_iff hb).mpr ⟨e, he, hrealm, hassertion⟩)]
    · simp only [SamlRequestStore.apply, hop, ensureUnexpired_of_le (not_lt.mp hlive),
        Outcome.error_result]
  | deleteExpired => simp only [SamlRequestStore.apply, hop, Outcome.ok_result]

theorem mem_step_pending {q : PendingSamlRequest}
    (h : q ∈ ((sqlSamlRequestStore τ b sha256).step s c).pending) :
    q ∈ s.pending ∨ c.stored = some q := by
  cases hop : c.op with
  | storePendingRequest new =>
    by_cases hlive : ⌊c.now⌋ < new.expiresAt
    · simp only [SamlRequestStore.step, SamlRequestStore.apply, hop, ensureUnexpired_of_lt hlive,
        sqlSamlRequestStore] at h
      cases hins : SqlSaml.insertPending b s new with
      | error e =>
        rw [hins] at h
        exact .inl h
      | ok s' =>
        rw [hins] at h
        rcases (SqlSaml.mem_insertPending hins).2.2.mp h with hq | rfl
        · exact .inl hq
        · exact .inr (by simp [SamlCall.stored, hop, hlive])
    · simp only [SamlRequestStore.step, SamlRequestStore.apply, hop,
        ensureUnexpired_of_le (not_lt.mp hlive), Outcome.error_state] at h
      exact .inl h
  | takePendingRequest requestId realmId =>
    simp only [SamlRequestStore.step, SamlRequestStore.apply, hop, sqlSamlRequestStore,
      Outcome.ok_state] at h
    exact .inl (SqlSaml.mem_takePending.mp h).1
  | recordAssertionId realmId assertionId expiresAt =>
    by_cases hlive : ⌊c.now⌋ < expiresAt
    · simp only [SamlRequestStore.step, SamlRequestStore.apply, hop, ensureUnexpired_of_lt hlive,
        sqlSamlRequestStore, Outcome.ok_state, SqlSaml.insertSeen_pending] at h
      exact .inl h
    · simp only [SamlRequestStore.step, SamlRequestStore.apply, hop,
        ensureUnexpired_of_le (not_lt.mp hlive), Outcome.error_state] at h
      exact .inl h
  | deleteExpired =>
    simp only [SamlRequestStore.step, SamlRequestStore.apply, hop, sqlSamlRequestStore,
      Outcome.ok_state, SqlSaml.purgePending, SqlSaml.purgeSeen] at h
    exact .inl (Table.mem_deleteWhere.mp h).1

end Calls

section Runs
variable [IsStrictOrderedRing τ] {sha256 : String → List UInt8}

theorem run_agree (hb : b ≠ .mysql) (calls : List (SamlCall τ))
    (hclock : calls.Pairwise (fun c c' => c.now ≤ c'.now))
    (hids : calls.Pairwise (fun c c' => ∀ q q', c.stored = some q → c'.stored = some q' →
      q.requestId ≠ q'.requestId)) :
    PendingAgree calls (run (sqlSamlRequestStore τ b sha256).step {} calls).pending
      (run (redisSamlRequestStore τ).step {} calls).pending ∧
    SeenAgree calls (run (sqlSamlRequestStore τ b sha256).step {} calls).seen
      (run (redisSamlRequestStore τ).step {} calls).seen := by
  induction calls using List.reverseRecOn with
  | nil =>
    refine ⟨⟨?_, ?_⟩, ⟨?_, ?_⟩⟩
    · intro q hq
      exact absurd hq Table.mem_empty
    · intro t realmId requestId q _ _ _
      exact ⟨fun hq => absurd hq.1 Table.mem_empty, fun hget => nomatch hget⟩
    · exact fun _ _ _ => ⟨fun e he => absurd he Table.mem_empty, rfl⟩
    · intro t realmId assertionId first hsome
      cases hsome
  | append_singleton pre c ih =>
    rw [List.pairwise_append] at hclock hids
    obtain ⟨hpending, hseen⟩ := ih hclock.1 hids.1
    rw [run_append, run_append]
    exact agree_step hb hpending hseen (fun x hx => hclock.2.2 x hx c (by simp))
      (fun x hx => hids.2.2 x hx c (by simp))

omit [IsStrictOrderedRing τ] in
theorem absent_run {s : SqlSamlState b} {requestId : String} (calls : List (SamlCall τ))
    (h : ∀ q ∈ s.pending, q.requestId ≠ requestId)
    (hcalls : ∀ c ∈ calls, ∀ q, c.stored = some q → q.requestId ≠ requestId) :
    ∀ q ∈ (run (sqlSamlRequestStore τ b sha256).step s calls).pending, q.requestId ≠ requestId := by
  induction calls generalizing s with
  | nil => exact h
  | cons c calls ih =>
    refine ih ?_ (fun x hx => hcalls x (List.mem_cons_of_mem c hx))
    intro q hq
    rcases mem_step_pending hq with hq | hstored
    · exact h q hq
    · exact hcalls c List.mem_cons_self q hstored

omit [IsStrictOrderedRing τ] in
theorem taken_exact (hb : b ≠ .mysql) {s : SqlSamlState b} {q : PendingSamlRequest}
    (h : ((sqlSamlRequestStore τ b sha256).apply s c).result = .ok (.taken (some q))) :
    c.op = .takePendingRequest q.requestId q.realmId ∧ q ∈ s.pending ∧
      ∀ q' ∈ ((sqlSamlRequestStore τ b sha256).step s c).pending, q'.requestId ≠ q.requestId := by
  cases hop : c.op with
  | takePendingRequest requestId realmId =>
    simp only [SamlRequestStore.apply, hop, sqlSamlRequestStore, Outcome.ok_result,
      Except.ok.injEq, SamlAnswer.taken.injEq, Option.filter_eq_some_iff, and_true,
      SqlSaml.takePending_eq_some_iff, SqlSaml.selects_iff, SqlBackend.text_eq hb] at h
    obtain ⟨hq, rfl, rfl, hlive⟩ := h
    refine ⟨rfl, hq, ?_⟩
    intro q' hq' hid
    simp only [SamlRequestStore.step, SamlRequestStore.apply, hop, sqlSamlRequestStore,
      Outcome.ok_state, mem_takePending_exact hb] at hq'
    have hsame : q' = q := Table.eq_of_key hq'.1 hq (by rw [hid])
    exact hq'.2 ⟨hid, by rw [hsame], by rw [hsame]; exact hlive⟩
  | storePendingRequest new =>
    simp only [SamlRequestStore.apply, hop] at h
    split at h
    · cases h
    · split at h
      · cases h
      · cases h
  | recordAssertionId realmId assertionId expiresAt =>
    simp only [SamlRequestStore.apply, hop] at h
    split at h
    · cases h
    · cases h
  | deleteExpired =>
    simp only [SamlRequestStore.apply, hop] at h
    cases h

/-- Along every sequence of calls over a clock that does not run backwards, in which no request id is
stored twice, the Redis store answers a call as the SQL store does: a take if no other realm and
request id share its key, a recorded assertion id if the first entry of the id has not expired. A
take hands out a request stored under exactly its realm and id, and none a second time. -/
theorem redis_refines_sql (hb : b ≠ .mysql) (sha256 : String → List UInt8)
    (calls : List (SamlCall τ)) (hclock : calls.Pairwise (fun c c' => c.now ≤ c'.now))
    (hids : calls.Pairwise (fun c c' => ∀ q q', c.stored = some q → c'.stored = some q' →
      q.requestId ≠ q'.requestId))
    (pre post : List (SamlCall τ)) (c : SamlCall τ) (hcalls : calls = pre ++ c :: post)
    (hcomp : Comparable pre c) :
    (redisSamlRequestStore τ).answer {} pre c = (sqlSamlRequestStore τ b sha256).answer {} pre c ∧
    ∀ q, (redisSamlRequestStore τ).answer {} pre c = .ok (.taken (some q)) →
      c.op = .takePendingRequest q.requestId q.realmId ∧ (∃ x ∈ pre, x.stored = some q) ∧
      ∀ pre' c' post' q', pre = pre' ++ c' :: post' → Comparable pre' c' →
        (redisSamlRequestStore τ).answer {} pre' c' = .ok (.taken (some q')) →
        q'.requestId ≠ q.requestId := by
  -- At every position of the run the two stores agree, so one answer stands for the other.
  have hagree (pre' post' : List (SamlCall τ)) (c' : SamlCall τ) (h : calls = pre' ++ c' :: post')
      (hcomp' : Comparable pre' c') : (redisSamlRequestStore τ).answer {} pre' c' =
        (sqlSamlRequestStore τ b sha256).answer {} pre' c' := by
    rw [h, List.pairwise_append] at hclock hids
    obtain ⟨hpending, hseen⟩ := @run_agree _ _ _ _ _ _ sha256 hb pre' hclock.1 hids.1
    exact agree_answer hb hpending hseen (fun x hx => hclock.2.2 x hx c' (by simp))
      (fun x hx => hids.2.2 x hx c' (by simp)) hcomp'
  refine ⟨hagree pre post c hcalls hcomp, ?_⟩
  intro q htaken
  rw [hagree pre post c hcalls hcomp] at htaken
  obtain ⟨hop, hq, _⟩ := taken_exact hb htaken
  have hids' := hids
  have hclock' := hclock
  rw [hcalls, List.pairwise_append] at hids' hclock'
  obtain ⟨hpending, _⟩ := @run_agree _ _ _ _ _ _ sha256 hb pre hclock'.1 hids'.1
  refine ⟨hop, hpending.stored q hq, ?_⟩
  intro pre' c' post' q' hpre hcomp' htaken' hid
  rw [hagree pre' (post' ++ c :: post) c' (by simp [hcalls, hpre]) hcomp'] at htaken'
  obtain ⟨_, hq', hgone⟩ := taken_exact hb htaken'
  have hids₁ := hids'.1
  rw [hpre, List.pairwise_append] at hids₁
  have hclock₁ := hclock'.1
  rw [hpre, List.pairwise_append] at hclock₁
  -- The request was stored before it was first taken, so nothing stores its id again.
  obtain ⟨hpending', _⟩ := @run_agree _ _ _ _ _ _ sha256 hb pre' hclock₁.1 hids₁.1
  obtain ⟨x, hx, hstored⟩ := hpending'.stored q' hq'
  have hnone := @absent_run _ _ _ _ b sha256 _ q'.requestId post' hgone (fun y hy q'' hy' heq =>
    hids₁.2.2 x hx y (List.mem_cons_of_mem c' hy) q' q'' hstored hy' heq.symm)
  rw [hpre, run_append] at hq
  exact hnone q hq hid.symm

end Runs
end
end

/-- A request that the realm `acme` stores at 0. -/
def pendingLogin : SamlCall Int :=
  ⟨0, .storePendingRequest ⟨"_1", "acme", "https://app.example.com/", 0, 600⟩⟩

theorem redis_refines_sql_pendingLogin :
    (redisSamlRequestStore Int).answer {} [pendingLogin] ⟨10, .takePendingRequest "_1" "acme"⟩ =
      .ok (.taken (some ⟨"_1", "acme", "https://app.example.com/", 0, 600⟩)) ∧
    (redisSamlRequestStore Int).answer {} [pendingLogin] ⟨10, .takePendingRequest "_1" "acme"⟩ =
      (sqlSamlRequestStore Int .sqlite (fun _ => [])).answer {} [pendingLogin]
        ⟨10, .takePendingRequest "_1" "acme"⟩ := by
  refine ⟨by decide, (redis_refines_sql (by decide) (fun _ => [])
    [pendingLogin, ⟨10, .takePendingRequest "_1" "acme"⟩] (by decide) ?_ _ [] _ rfl ?_).1⟩
  · simp [pendingLogin, SamlCall.stored]
  · intro c hc a ha _
    rw [List.mem_singleton.mp hc] at ha
    simpa [pendingLogin, SamlCall.address, SamlCall.stored] using ha.symm

/-- The key of the request `c` of the realm `a:b` is that of the request `b:c` of the realm `a`; and an
entry of the replay cache that has expired and is not purged still counts for the SQL store. -/
theorem redis_differs_from_sql :
    (redisSamlRequestStore Int).answer {} [⟨0, .storePendingRequest ⟨"c", "a:b", "u", 0, 600⟩⟩]
        ⟨10, .takePendingRequest "b:c" "a"⟩ = .ok (.taken (some ⟨"c", "a:b", "u", 0, 600⟩)) ∧
    (sqlSamlRequestStore Int .sqlite (fun _ => [])).answer {}
        [⟨0, .storePendingRequest ⟨"c", "a:b", "u", 0, 600⟩⟩]
        ⟨10, .takePendingRequest "b:c" "a"⟩ = .ok (.taken none) ∧
    (redisSamlRequestStore Int).answer {} [⟨0, .recordAssertionId "acme" "_a" 10⟩]
        ⟨20, .recordAssertionId "acme" "_a" 30⟩ = .ok (.recorded true) ∧
    (sqlSamlRequestStore Int .sqlite (fun _ => [])).answer {}
        [⟨0, .recordAssertionId "acme" "_a" 10⟩]
        ⟨20, .recordAssertionId "acme" "_a" 30⟩ = .ok (.recorded false) := by
  refine ⟨?_, ?_, ?_, ?_⟩ <;> decide

end AuthVerifier
