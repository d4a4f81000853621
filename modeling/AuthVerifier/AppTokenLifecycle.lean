import AuthVerifier.AppTokens
import Mathlib.Data.Int.Order.Basic

/-!
The life of an app token over every run of logins and self-service requests. A token is a lease that
each renewal starts anew; a lease of zero is for good. What the table says about a token is what its
history says: when it was issued, when it was last renewed, and that it has not been revoked.
-/

set_option autoImplicit false

namespace AuthVerifier
open Effects Relational Transition

namespace AppTokenEndpoints
open AppTokenDb

def Accepted (s : AppTokens) (now : Int) (tokenHash : List UInt8) : Prop :=
  ∃ token, lookupAppToken s now tokenHash = some token

theorem lookupAppToken_eq_some_iff {s : AppTokens} {now : Int} {tokenHash : List UInt8}
    {token : AppToken} :
    lookupAppToken s now tokenHash = some token ↔
      token ∈ s ∧ token.tokenHash = tokenHash ∧ (token.expiry = 0 ∨ now < token.expiry) := by
  simp only [lookupAppToken, Option.filter_eq_some_iff, Table.find?_eq_some_iff, current,
    Bool.or_eq_true, beq_iff_eq, decide_eq_true_eq, and_assoc, gt_iff_lt]

theorem accepted_iff {s : AppTokens} {now : Int} {token : AppToken} (h : token ∈ s) :
    Accepted s now token.tokenHash ↔ token.expiry = 0 ∨ now < token.expiry := by
  constructor
  · rintro ⟨found, hfound⟩
    obtain ⟨hmem, hkey, hcur⟩ := lookupAppToken_eq_some_iff.mp hfound
    rwa [Table.eq_of_key hmem h hkey] at hcur
  · exact fun hcur => ⟨token, lookupAppToken_eq_some_iff.mpr ⟨h, rfl, hcur⟩⟩

section
variable (digest : String → List UInt8)

def Issues (x : AppTokens × TokenCall) (token : AppToken) : Prop :=
  ∃ raw entity policies lease renewable,
    x.2.request = .issue raw entity policies lease renewable ∧ digest raw ∉ x.1.keys ∧
      token = newToken digest x.2.times.store raw entity policies lease renewable

def renews (tokenHash : List UInt8) (x : AppTokens × TokenCall) : Bool :=
  match x.2.request with
  | .renewSelf (some raw) =>
    digest raw == tokenHash && (lookupAppToken x.1 x.2.times.lookup tokenHash).isSome &&
      x.1.rows.any (extensible x.2.times.store tokenHash)
  | _ => false

def revokes (tokenHash : List UInt8) (x : AppTokens × TokenCall) : Bool :=
  match x.2.request with
  | .revokeSelf (some raw) =>
    digest raw == tokenHash && (lookupAppToken x.1 x.2.times.lookup tokenHash).isSome
  | _ => false

def carried (x : AppTokens × TokenCall) (token : AppToken) : AppToken :=
  if renews digest token.tokenHash x then extend x.2.times.store token else token

theorem renewAppToken_fst (s : AppTokens) (now : Int) (tokenHash : List UInt8) :
    (renewAppToken s now tokenHash).1 =
      s.updateWhere (extensible now tokenHash) (extend now) (fun _ => rfl) := by
  unfold renewAppToken
  dsimp only
  split
  · split
    · rfl
    · rfl
  · rfl

theorem renewSelf_state (s : AppTokens) (t : TokenTimes) (raw : String) (claims : AppTokenClaims) :
    (renewSelf s t raw claims).state =
      s.updateWhere (extensible t.store claims.tokenHash) (extend t.store) (fun _ => rfl) := by
  rw [← renewAppToken_fst]
  unfold renewSelf
  rcases renewAppToken s t.store claims.tokenHash with ⟨s', _ | _⟩
  · rfl
  · dsimp only
    split
    · rfl
    · rfl

theorem lookupSelf_state (s : AppTokens) (t : TokenTimes) (raw : String)
    (claims : AppTokenClaims) : (lookupSelf s t raw claims).state = s := by
  unfold lookupSelf
  split
  · rfl
  · rfl

variable {digest} {s : AppTokens} {t : TokenTimes}

theorem appTokenExtract_of_missing {header : Option String}
    {handler : String → AppTokenClaims → Outcome AppTokens TokenFailure TokenAnswer}
    (h : ∀ raw, header = some raw → lookupAppToken s t.lookup (digest raw) = none) :
    (appTokenExtract digest s t header handler).state = s := by
  cases header with
  | none => rfl
  | some raw =>
    simp only [appTokenExtract, h raw rfl]
    rfl

theorem appTokenExtract_of_found {raw : String} {token : AppToken}
    (handler : String → AppTokenClaims → Outcome AppTokens TokenFailure TokenAnswer)
    (h : lookupAppToken s t.lookup (digest raw) = some token) :
    appTokenExtract digest s t (some raw) handler = handler raw (.fromDb t.claims token) := by
  simp only [appTokenExtract, h]

theorem any_extensible {now : Int} {token : AppToken} (h : token ∈ s) :
    s.rows.any (extensible now token.tokenHash) = extensible now token.tokenHash token := by
  cases he : extensible now token.tokenHash token with
  | true => exact List.any_eq_true.mpr ⟨token, h, he⟩
  | false =>
    rw [List.any_eq_false]
    intro other hother hext
    have hkey : other.tokenHash = token.tokenHash := by
      simp only [extensible, Bool.and_eq_true, beq_iff_eq] at hext
      exact hext.1.1.1
    rw [Table.eq_of_key hother h hkey, he] at hext
    cases hext

theorem mem_issue_iff {raw entity : String} {policies : List String} {lease : Int}
    {renewable : Bool} {token : AppToken} :
    token ∈ step digest s ⟨t, .issue raw entity policies lease renewable⟩ ↔
      token ∈ s ∨ Issues digest (s, ⟨t, .issue raw entity policies lease renewable⟩) token := by
  by_cases hk : (newToken digest t.store raw entity policies lease renewable).tokenHash ∈ s.keys
  · have hstep : step digest s ⟨t, .issue raw entity policies lease renewable⟩ = s := by
      simp only [step, handle, issueAppToken, AppTokenDb.issueAppToken, dif_pos hk]
      rfl
    rw [hstep]
    constructor
    · exact .inl
    · rintro (h | ⟨_, _, _, _, _, hreq, hnew, _⟩)
      · exact h
      · cases hreq
        exact absurd hk hnew
  · have hstep : step digest s ⟨t, .issue raw entity policies lease renewable⟩ =
        s.insert (newToken digest t.store raw entity policies lease renewable) hk := by
      simp only [step, handle, issueAppToken, AppTokenDb.issueAppToken, dif_neg hk]
      rfl
    rw [hstep, Table.mem_insert]
    apply or_congr_right
    constructor
    · rintro rfl
      exact ⟨raw, entity, policies, lease, renewable, rfl, hk, rfl⟩
    · rintro ⟨_, _, _, _, _, hreq, _, rfl⟩
      cases hreq
      rfl

theorem step_lookupSelf (header : Option String) : step digest s ⟨t, .lookupSelf header⟩ = s := by
  unfold step handle appTokenExtract
  dsimp only
  split
  · rfl
  · split
    · rfl
    · exact lookupSelf_state s t _ _

theorem mem_renewSelf_iff {header : Option String} {token : AppToken} :
    token ∈ step digest s ⟨t, .renewSelf header⟩ ↔
      ∃ old ∈ s, token = carried digest (s, ⟨t, .renewSelf header⟩) old := by
  cases header with
  | none => simp [step, handle, appTokenExtract, carried, renews]
  | some raw =>
    cases hl : lookupAppToken s t.lookup (digest raw) with
    | none =>
      have hstep : step digest s ⟨t, .renewSelf (some raw)⟩ = s :=
        appTokenExtract_of_missing (by simpa using hl)
      have hold (old : AppToken) : carried digest (s, ⟨t, .renewSelf (some raw)⟩) old = old := by
        have hno : renews digest old.tokenHash (s, ⟨t, .renewSelf (some raw)⟩) = false := by
          by_cases hraw : digest raw = old.tokenHash
          · simp [renews, ← hraw, hl]
          · simp [renews, hraw]
        simp [carried, hno]
      simp [hstep, hold]
    | some found =>
      have hhash := (lookupAppToken_eq_some_iff.mp hl).2.1
      have hstep : step digest s ⟨t, .renewSelf (some raw)⟩ =
          s.updateWhere (extensible t.store (digest raw)) (extend t.store) (fun _ => rfl) := by
        have hhandle : handle digest s ⟨t, .renewSelf (some raw)⟩ =
            renewSelf s t raw (.fromDb t.claims found) := appTokenExtract_of_found _ hl
        rw [step, hhandle, renewSelf_state]
        simp only [AppTokenClaims.fromDb, hhash]
      have hcarried (old : AppToken) (h : old ∈ s) :
          (if extensible t.store (digest raw) old then extend t.store old else old) =
            carried digest (s, ⟨t, .renewSelf (some raw)⟩) old := by
        by_cases hraw : digest raw = old.tokenHash
        · simp [carried, renews, ← hraw, hl, hraw ▸ any_extensible h]
        · have hext : extensible t.store (digest raw) old = false := by
            simp [extensible, Ne.symm hraw]
          simp [carried, renews, hraw, hext]
      rw [hstep]
      refine (@Table.mem_updateWhere _ _ _ s (extensible t.store (digest raw)) (extend t.store)
        (fun _ => rfl) token).trans ?_
      constructor
      · rintro ⟨old, h, he⟩
        exact ⟨old, h, he ▸ hcarried old h⟩
      · rintro ⟨old, h, he⟩
        exact ⟨old, h, (hcarried old h).trans he.symm⟩

theorem mem_revokeSelf_iff {header : Option String} {token : AppToken} :
    token ∈ step digest s ⟨t, .revokeSelf header⟩ ↔
      token ∈ s ∧ revokes digest token.tokenHash (s, ⟨t, .revokeSelf header⟩) = false := by
  cases header with
  | none => simp [step, handle, appTokenExtract, revokes]
  | some raw =>
    cases hl : lookupAppToken s t.lookup (digest raw) with
    | none =>
      have hstep : step digest s ⟨t, .revokeSelf (some raw)⟩ = s :=
        appTokenExtract_of_missing (by simpa using hl)
      have hno : revokes digest token.tokenHash (s, ⟨t, .revokeSelf (some raw)⟩) = false := by
        by_cases hraw : digest raw = token.tokenHash
        · simp [revokes, ← hraw, hl]
        · simp [revokes, hraw]
      simp [hstep, hno]
    | some found =>
      have hhash := (lookupAppToken_eq_some_iff.mp hl).2.1
      have hstep : step digest s ⟨t, .revokeSelf (some raw)⟩ =
          s.deleteWhere (fun token => token.tokenHash == digest raw) := by
        have hhandle : handle digest s ⟨t, .revokeSelf (some raw)⟩ =
            revokeSelf s (.fromDb t.claims found) :=
          appTokenExtract_of_found (fun _ => revokeSelf s) hl
        rw [step, hhandle]
        simp only [revokeSelf, AppTokenClaims.fromDb, hhash]
        rfl
      rw [hstep, Table.mem_deleteWhere]
      apply and_congr_right
      intro _
      by_cases hraw : digest raw = token.tokenHash
      · simp [revokes, ← hraw, hl]
      · simp [revokes, hraw, Ne.symm hraw]

theorem mem_step_iff {c : TokenCall} {token : AppToken} :
    token ∈ step digest s c ↔
      (∃ old ∈ s, revokes digest old.tokenHash (s, c) = false ∧
        token = carried digest (s, c) old) ∨ Issues digest (s, c) token := by
  obtain ⟨t, request⟩ := c
  cases request with
  | issue raw entity policies lease renewable =>
    rw [mem_issue_iff]
    simp [revokes, carried, renews]
  | lookupSelf header =>
    rw [step_lookupSelf]
    simp [revokes, carried, renews, Issues]
  | renewSelf header =>
    rw [mem_renewSelf_iff]
    simp [revokes, Issues]
  | revokeSelf header =>
    rw [mem_revokeSelf_iff]
    simp [carried, renews, Issues]

variable (digest)

/-- The token was issued in the run, and `later` is the part of the run after that, in which it has
not been revoked. -/
def IssuedAt (tr : List (AppTokens × TokenCall)) (token : AppToken)
    (later : List (AppTokens × TokenCall)) : Prop :=
  (∃ pre x, tr = pre ++ x :: later ∧ Issues digest x token) ∧
    ∀ x ∈ later, revokes digest token.tokenHash x = false

def leaseStart (token : AppToken) (later : List (AppTokens × TokenCall)) : Int :=
  later.foldl (fun start x => if renews digest token.tokenHash x then x.2.times.store else start)
    token.createdAt

/-- The expiry a token has by its history: it is for good, or ends a lease after the last start. -/
def expiryBy (token : AppToken) (later : List (AppTokens × TokenCall)) : Int :=
  if token.expiry = 0 then 0 else leaseStart digest token later + token.leaseDurationSecs

def told (token : AppToken) (later : List (AppTokens × TokenCall)) : AppToken :=
  { token with expiry := expiryBy digest token later }

variable {digest}

theorem told_nil {x : AppTokens × TokenCall} {token : AppToken} (h : Issues digest x token) :
    told digest token [] = token := by
  obtain ⟨raw, entity, policies, lease, renewable, _, _, rfl⟩ := h
  by_cases hl : lease > 0
  · simp only [told, expiryBy, leaseStart, List.foldl_nil, newToken, if_pos hl]
    split
    · rename_i hzero
      simp [hzero]
    · rfl
  · simp [told, expiryBy, newToken, hl]

theorem told_append {x : AppTokens × TokenCall} {token : AppToken}
    {later : List (AppTokens × TokenCall)} (h : told digest token later ∈ x.1) :
    told digest token (later ++ [x]) = carried digest x (told digest token later) := by
  have hhash : (told digest token later).tokenHash = token.tokenHash := rfl
  unfold carried
  rw [hhash]
  cases hr : renews digest token.tokenHash x with
  | false => simp [told, expiryBy, leaseStart, hr]
  | true =>
    have hpos : (told digest token later).expiry > 0 := by
      unfold renews at hr
      split at hr
      · simp only [Bool.and_eq_true] at hr
        have hext := hr.2
        rw [← hhash, any_extensible h] at hext
        simp only [extensible, Bool.and_eq_true, decide_eq_true_eq] at hext
        exact hext.1.2
      · cases hr
    have hne : token.expiry ≠ 0 := by
      intro hzero
      simp [told, expiryBy, hzero] at hpos
    simp [told, expiryBy, leaseStart, hr, hne, extend]

/-- The table holds the tokens of the history, and only those. -/
structure Chronicle (digest : String → List UInt8) (tr : List (AppTokens × TokenCall))
    (s : AppTokens) : Prop where
  sound : ∀ row ∈ s, ∃ token later, IssuedAt digest tr token later ∧ row = told digest token later
  complete : ∀ token later, IssuedAt digest tr token later → told digest token later ∈ s

theorem Chronicle.step {tr : List (AppTokens × TokenCall)} (h : Chronicle digest tr s)
    (c : TokenCall) : Chronicle digest (tr ++ [(s, c)]) (step digest s c) := by
  constructor
  · intro row hrow
    rcases mem_step_iff.mp hrow with ⟨old, hold, hrev, rfl⟩ | hissue
    · obtain ⟨token, later, ⟨⟨pre, x, htr, hx⟩, hkeep⟩, rfl⟩ := h.sound old hold
      refine ⟨token, later ++ [(s, c)], ⟨⟨pre, x, by simp [htr], hx⟩, ?_⟩, ?_⟩
      · intro y hy
        rcases List.mem_append.mp hy with hy | hy
        · exact hkeep y hy
        · rw [List.mem_singleton.mp hy]
          exact hrev
      · exact (told_append (x := (s, c)) hold).symm
    · exact ⟨row, [], ⟨⟨tr, (s, c), rfl, hissue⟩, by simp⟩, (told_nil hissue).symm⟩
  · rintro token later ⟨⟨pre, x, htr, hx⟩, hkeep⟩
    rw [mem_step_iff]
    rcases List.eq_nil_or_concat' later with rfl | ⟨before, y, rfl⟩
    · obtain ⟨rfl, he⟩ := List.append_inj' htr rfl
      cases he
      rw [told_nil hx]
      exact .inr hx
    · have hsplit : tr ++ [(s, c)] = (pre ++ x :: before) ++ [y] := by simp [htr]
      obtain ⟨rfl, he⟩ := List.append_inj' hsplit rfl
      cases he
      have hold := h.complete token before ⟨⟨pre, x, rfl, hx⟩,
        fun z hz => hkeep z (List.mem_append_left _ hz)⟩
      refine .inl ⟨told digest token before, hold, hkeep (s, c) (by simp), ?_⟩
      exact told_append (x := (s, c)) hold

theorem run_chronicle (calls : List TokenCall) :
    Chronicle digest (trace (step digest) .empty calls) (run (step digest) .empty calls) := by
  refine run_invariant (step digest) (Chronicle digest) (fun _ _ _ => True) ?_
    (fun _ _ c h _ => h.step c) calls (fun _ _ _ _ => trivial)
  constructor
  · intro row hrow
    exact absurd hrow Table.mem_empty
  · rintro token later ⟨⟨pre, x, htr, _⟩, _⟩
    simp at htr

def TokenCall.Admitted (c : TokenCall) : Prop :=
  ∀ raw entity policies lease renewable,
    c.request = .issue raw entity policies lease renewable → 0 ≤ lease

def LeaseBounded (now : Int) (s : AppTokens) : Prop :=
  ∀ token ∈ s, 0 ≤ token.leaseDurationSecs ∧
    (token.expiry ≠ 0 → token.expiry ≤ now + token.leaseDurationSecs)

theorem LeaseBounded.later {now now' : Int} (h : LeaseBounded now s) (hle : now ≤ now') :
    LeaseBounded now' s := by
  intro token htoken
  obtain ⟨hlease, hbound⟩ := h token htoken
  exact ⟨hlease, fun hne => by have := hbound hne; omega⟩

theorem LeaseBounded.step {c : TokenCall} (h : LeaseBounded c.times.lookup s)
    (hadm : TokenCall.Admitted c) : LeaseBounded c.times.answer (step digest s c) := by
  obtain ⟨h₁, h₂, h₃, h₄⟩ := c.times.ordered
  have hnow := h.later (show c.times.lookup ≤ c.times.answer by omega)
  intro token htoken
  rcases mem_step_iff.mp htoken with ⟨old, hold, _, rfl⟩ | ⟨_, _, _, lease, _, hreq, _, rfl⟩
  · obtain ⟨hlease, hbound⟩ := hnow old hold
    unfold carried
    split
    · refine ⟨hlease, fun _ => ?_⟩
      simp only [extend]
      omega
    · exact ⟨hlease, hbound⟩
  · refine ⟨hadm _ _ _ _ _ hreq, fun hne => ?_⟩
    by_cases hl : lease > 0
    · simp only [newToken, if_pos hl]
      omega
    · simp [newToken, hl] at hne

theorem ttl_in_lease {now : Int} {token : AppToken} (h : LeaseBounded now s) (htoken : token ∈ s) :
    0 ≤ token.ttl now ∧ token.ttl now ≤ token.leaseDurationSecs := by
  obtain ⟨hlease, hbound⟩ := h token htoken
  unfold AppToken.ttl
  split
  · omega
  · rename_i hne
    have := hbound hne
    omega

/-- A renewal, whatever it answers: the named token has at least the life it had, keeps whether it
expires at all, and comes back from neither expiry nor revocation; no other token changes. -/
def RenewalHarmless (digest : String → List UInt8) (s : AppTokens) (c : TokenCall) : Prop :=
  ∀ raw, c.request = .renewSelf (some raw) →
    (∀ token ∈ s, token.tokenHash = digest raw → ∃ token' ∈ step digest s c,
      token' = { token with expiry := token'.expiry } ∧ token.expiry ≤ token'.expiry ∧
        (token'.expiry = 0 ↔ token.expiry = 0)) ∧
    (¬ Accepted s c.times.store (digest raw) →
      ∀ token, token ∈ step digest s c ↔ token ∈ s) ∧
    ∀ token, token.tokenHash ≠ digest raw → (token ∈ step digest s c ↔ token ∈ s)

theorem renewalHarmless {c : TokenCall} (h : LeaseBounded c.times.lookup s) :
    RenewalHarmless digest s c := by
  obtain ⟨t, request⟩ := c
  rintro raw hreq
  cases hreq
  obtain ⟨h₁, h₂, _, _⟩ := t.ordered
  have hext {token : AppToken} (htoken : token ∈ s)
      (hr : renews digest token.tokenHash (s, ⟨t, .renewSelf (some raw)⟩) = true) :
      digest raw = token.tokenHash ∧ 0 < token.expiry ∧ t.store < token.expiry := by
    simp only [renews, any_extensible htoken, extensible, Bool.and_eq_true, beq_iff_eq,
      decide_eq_true_eq] at hr
    exact ⟨hr.1.1, hr.2.1.2, hr.2.2⟩
  have hsame (hno : ∀ token ∈ s,
      renews digest token.tokenHash (s, ⟨t, .renewSelf (some raw)⟩) = false) (token : AppToken) :
      token ∈ step digest s ⟨t, .renewSelf (some raw)⟩ ↔ token ∈ s := by
    rw [mem_renewSelf_iff]
    constructor
    · rintro ⟨old, hold, rfl⟩
      simpa [carried, hno old hold] using hold
    · exact fun htoken => ⟨token, htoken, by simp [carried, hno token htoken]⟩
  refine ⟨?_, ?_, ?_⟩
  · intro token htoken _
    refine ⟨carried digest (s, ⟨t, .renewSelf (some raw)⟩) token,
      mem_renewSelf_iff.mpr ⟨token, htoken, rfl⟩, ?_⟩
    unfold carried
    split
    · rename_i hr
      obtain ⟨_, hpos, _⟩ := hext htoken hr
      have hbound := (h token htoken).2 (by omega)
      simp only [extend]
      simp only at hbound
      refine ⟨trivial, by omega, by omega⟩
    · exact ⟨rfl, Int.le_refl _, Iff.rfl⟩
  · intro hacc
    apply hsame
    intro token htoken
    rw [← Bool.not_eq_true]
    intro hr
    obtain ⟨hraw, _, hlive⟩ := hext htoken hr
    exact hacc (hraw ▸ (accepted_iff htoken).mpr (.inr hlive))
  · intro token hne
    rw [mem_renewSelf_iff]
    constructor
    · rintro ⟨old, hold, rfl⟩
      unfold carried at hne ⊢
      split
      · rename_i hr
        rw [if_pos hr] at hne
        exact absurd (hext hold hr).1.symm hne
      · exact hold
    · intro htoken
      refine ⟨token, htoken, ?_⟩
      unfold carried
      split
      · rename_i hr
        exact absurd (hext htoken hr).1.symm hne
      · rfl

/-- The times left that a request works out, in the claims and in the answer, are within the lease
of the token they are about. -/
def TtlInLease (digest : String → List UInt8) (s : AppTokens) (c : TokenCall) : Prop :=
  (∀ tokenHash token, lookupAppToken s c.times.lookup tokenHash = some token →
    0 ≤ (AppTokenClaims.fromDb c.times.claims token).ttl ∧
      (AppTokenClaims.fromDb c.times.claims token).ttl ≤ token.leaseDurationSecs) ∧
  (∀ data, (handle digest s c).result = .ok (.lookedUp data) →
    ∃ token ∈ s, token.tokenHash = digest data.id ∧
      0 ≤ data.ttl ∧ data.ttl ≤ token.leaseDurationSecs) ∧
  ∀ auth, (handle digest s c).result = .ok (.renewed auth) →
    ∃ token ∈ step digest s c, token.tokenHash = digest auth.clientToken ∧
      0 ≤ auth.leaseDuration ∧ auth.leaseDuration ≤ token.leaseDurationSecs

theorem appTokenExtract_ok {header : Option String} {answer : TokenAnswer}
    {handler : String → AppTokenClaims → Outcome AppTokens TokenFailure TokenAnswer}
    (h : (appTokenExtract digest s t header handler).result = .ok answer) :
    ∃ raw token, header = some raw ∧ lookupAppToken s t.lookup (digest raw) = some token ∧
      (handler raw (.fromDb t.claims token)).result = .ok answer := by
  cases header with
  | none => cases h
  | some raw =>
    cases hl : lookupAppToken s t.lookup (digest raw) with
    | none =>
      simp only [appTokenExtract, hl] at h
      cases h
    | some token =>
      rw [appTokenExtract_of_found handler hl] at h
      exact ⟨raw, token, rfl, hl, h⟩

theorem lookedUp_in_lease {c : TokenCall} {data : AppTokenData} (h : LeaseBounded c.times.lookup s)
    (hdata : (handle digest s c).result = .ok (.lookedUp data)) :
    ∃ token ∈ s, token.tokenHash = digest data.id ∧
      0 ≤ data.ttl ∧ data.ttl ≤ token.leaseDurationSecs := by
  obtain ⟨t, request⟩ := c
  obtain ⟨h₁, h₂, h₃, h₄⟩ := t.ordered
  cases request with
  | issue raw entity policies lease renewable =>
    simp only [handle, issueAppToken] at hdata
    split at hdata
    · cases hdata
    · cases hdata
  | lookupSelf header =>
    obtain ⟨raw, found, _, hl, hdata⟩ := appTokenExtract_ok hdata
    have hhash := (lookupAppToken_eq_some_iff.mp hl).2.1
    simp only [lookupSelf, AppTokenClaims.fromDb, hhash] at hdata
    split at hdata
    · cases hdata
    · rename_i token hre
      cases hdata
      obtain ⟨hmem, hkey, _⟩ := lookupAppToken_eq_some_iff.mp hre
      exact ⟨token, hmem, hkey, ttl_in_lease (h.later (by dsimp only; omega)) hmem⟩
  | renewSelf header =>
    obtain ⟨raw, found, _, _, hdata⟩ := appTokenExtract_ok hdata
    simp only [renewSelf] at hdata
    split at hdata
    · cases hdata
    · split at hdata
      · cases hdata
      · cases hdata
  | revokeSelf header =>
    obtain ⟨raw, found, _, _, hdata⟩ := appTokenExtract_ok hdata
    cases hdata

theorem step_renewSelf {raw : String} {found : AppToken}
    (hl : lookupAppToken s t.lookup (digest raw) = some found) :
    step digest s ⟨t, .renewSelf (some raw)⟩ = (renewAppToken s t.store (digest raw)).1 := by
  have hhash := (lookupAppToken_eq_some_iff.mp hl).2.1
  have hhandle : handle digest s ⟨t, .renewSelf (some raw)⟩ =
      renewSelf s t raw (.fromDb t.claims found) := appTokenExtract_of_found _ hl
  rw [step, hhandle, renewSelf_state, renewAppToken_fst]
  simp only [AppTokenClaims.fromDb, hhash]

theorem renewed_in_lease {c : TokenCall} {auth : RenewedAuth}
    (hafter : LeaseBounded c.times.answer (step digest s c))
    (hauth : (handle digest s c).result = .ok (.renewed auth)) :
    ∃ token ∈ step digest s c, token.tokenHash = digest auth.clientToken ∧
      0 ≤ auth.leaseDuration ∧ auth.leaseDuration ≤ token.leaseDurationSecs := by
  obtain ⟨t, request⟩ := c
  cases request with
  | issue raw entity policies lease renewable =>
    simp only [handle, issueAppToken] at hauth
    split at hauth
    · cases hauth
    · cases hauth
  | lookupSelf header =>
    obtain ⟨raw, found, _, _, hauth⟩ := appTokenExtract_ok hauth
    simp only [lookupSelf] at hauth
    split at hauth
    · cases hauth
    · cases hauth
  | renewSelf header =>
    obtain ⟨raw, found, rfl, hl, hauth⟩ := appTokenExtract_ok hauth
    have hhash := (lookupAppToken_eq_some_iff.mp hl).2.1
    have hstep := step_renewSelf hl
    simp only [renewSelf, AppTokenClaims.fromDb, hhash] at hauth
    split at hauth
    · cases hauth
    · rename_i s' hrenew
      split at hauth
      · cases hauth
      · rename_i token hre
        cases hauth
        obtain ⟨hmem, hkey, _⟩ := lookupAppToken_eq_some_iff.mp hre
        rw [hrenew] at hstep
        rw [hstep] at hafter ⊢
        exact ⟨token, hmem, hkey, ttl_in_lease hafter hmem⟩
  | revokeSelf header =>
    obtain ⟨raw, found, _, _, hauth⟩ := appTokenExtract_ok hauth
    cases hauth

theorem ttlInLease {c : TokenCall} (h : LeaseBounded c.times.lookup s)
    (hadm : TokenCall.Admitted c) : TtlInLease digest s c := by
  refine ⟨?_, ?_, ?_⟩
  · intro tokenHash token hl
    obtain ⟨h₁, _, _, _⟩ := c.times.ordered
    exact ttl_in_lease (h.later h₁) (lookupAppToken_eq_some_iff.mp hl).1
  · exact fun data hdata => lookedUp_in_lease h hdata
  · exact fun auth hauth => renewed_in_lease (h.step hadm) hauth

/-- Over every run of logins and self-service requests: a token is accepted exactly when it was
issued, has not been revoked, and its expiry is zero or ahead, where the expiry of a token that is
not for good lies one lease after its issue or its last renewal; renewals are harmless, and every
time left that is reported is within the lease. -/
theorem app_token_lifecycle (digest : String → List UInt8) (calls : List TokenCall)
    (hclock : Clocked (fun c => c.times.lookup) (fun c => c.times.answer) calls)
    (hadm : ∀ c ∈ calls, TokenCall.Admitted c) :
    (∀ now tokenHash, Accepted (run (step digest) .empty calls) now tokenHash ↔
      ∃ token later, IssuedAt digest (trace (step digest) .empty calls) token later ∧
        token.tokenHash = tokenHash ∧
        (expiryBy digest token later = 0 ∨ now < expiryBy digest token later)) ∧
    ∀ x ∈ trace (step digest) .empty calls,
      RenewalHarmless digest x.1 x.2 ∧ TtlInLease digest x.1 x.2 := by
  constructor
  · have h : Chronicle digest (trace (step digest) .empty calls) (run (step digest) .empty calls) :=
      run_chronicle calls
    intro now tokenHash
    constructor
    · rintro ⟨row, hrow⟩
      obtain ⟨hmem, hkey, hcur⟩ := lookupAppToken_eq_some_iff.mp hrow
      obtain ⟨token, later, hissued, rfl⟩ := h.sound row hmem
      exact ⟨token, later, hissued, hkey, hcur⟩
    · rintro ⟨token, later, hissued, hkey, hcur⟩
      exact ⟨told digest token later, lookupAppToken_eq_some_iff.mpr
        ⟨h.complete token later hissued, hkey, hcur⟩⟩
  · refine trace_forall_of_clocked (step digest) (fun c => c.times.lookup)
      (fun c => c.times.answer) LeaseBounded (C := fun _ c => TokenCall.Admitted c)
      (P := fun s c => RenewalHarmless digest s c ∧ TtlInLease digest s c)
      (fun _ _ _ hle h => h.later hle)
      (fun _ _ h hadm => ⟨renewalHarmless h, ttlInLease h hadm⟩)
      (fun _ _ h hadm => h.step hadm) ?_ calls hclock
      (fun x hx => hadm x.2 (mem_of_mem_trace _ hx))
    intro now token htoken
    exact absurd htoken Table.mem_empty

end

def tokenCall (now : Int) (request : TokenRequest) : TokenCall :=
  ⟨⟨now, now, now, now, now, by omega⟩, request⟩

def renewedOnce : List TokenCall :=
  [tokenCall 1 (.issue "hvs.a" "ci" ["read"] 10 true), tokenCall 7 (.renewSelf (some "hvs.a"))]

def charCodes (token : String) : List UInt8 := token.toList.map (fun c => c.toNat.toUInt8)

theorem app_token_lifecycle_renewedOnce :
    Clocked (fun c : TokenCall => c.times.lookup) (fun c => c.times.answer) renewedOnce ∧
    (∀ c ∈ renewedOnce, TokenCall.Admitted c) ∧
    Accepted (run (step charCodes) .empty renewedOnce) 16 (charCodes "hvs.a") ∧
    ∃ token later, IssuedAt charCodes (trace (step charCodes) .empty renewedOnce) token later ∧
      token.tokenHash = charCodes "hvs.a" ∧
      (expiryBy charCodes token later = 0 ∨ 16 < expiryBy charCodes token later) := by
  have hadm : ∀ c ∈ renewedOnce, TokenCall.Admitted c := by
    intro c hc raw entity policies lease renewable hreq
    simp only [renewedOnce, List.mem_cons, List.not_mem_nil, or_false] at hc
    rcases hc with rfl | rfl
    · cases hreq
      decide
    · cases hreq
  have hacc : Accepted (run (step charCodes) .empty renewedOnce) 16 (charCodes "hvs.a") :=
    ⟨⟨charCodes "hvs.a", "ci", ["read"], 17, true, 10, 1⟩, by decide⟩
  exact ⟨by decide, hadm, hacc,
    ((app_token_lifecycle charCodes renewedOnce (by decide) hadm).1 16 (charCodes "hvs.a")).mp hacc⟩

end AppTokenEndpoints
end AuthVerifier
