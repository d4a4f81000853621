import AuthVerifier.AcknowledgedWrites
import AuthVerifier.Jwks
import AuthVerifier.Lib.Checked
import AuthVerifier.SessionStore
import AuthVerifier.TotpAgreement

/-!
The integers of a realm in the arithmetic of the server. The handlers that store a realm look at
none of them; a login, an access to a session, a certificate, a key refresh and a check of a
one-time code add them to readings of the clock or divide by them, in fixed-width types. Every
computation is spelled out here with its range: no result stands for an overflow of an `i64`, a
panic of `chrono` or a division by zero.
-/

set_option autoImplicit false

namespace AuthVerifier
open Bounded Effects Relational

def centuryStart : Int := 1767225600

def centuryEnd : Int := 4922899200

def NextCentury (now : Int) : Prop := centuryStart ≤ now ∧ now ≤ centuryEnd

instance (now : Int) : Decidable (NextCentury now) := inferInstanceAs (Decidable (_ ∧ _))

/-- `exp` of the token of `issue_token`. -/
def tokenExp (now : Int) (realm : Realm) : Option Int := int64.add now realm.sessionMaxAgeSeconds

/-- The first idle deadline, in `upsert_session`. -/
def firstStaleAt (now : Int) (realm : Realm) : Option Int :=
  int64.add now realm.sessionMaxStaleAgeSeconds

/-- `exp` of a certificate, in `certify`. -/
def certificateExp (now : Int) (realm : Realm) : Option Int :=
  int64.add now realm.certificateMaxAgeSeconds

/-- The next idle deadline, in `get_session`; there is none for a session that is over. The absolute
deadline is not looked at once the idle one has passed. -/
def nextStaleAt (now : Int) (r : SessionRow) : Option (Option Int) :=
  if now > r.staleAt then some none
  else do
    let absoluteExpiry ← int64.add r.createdAt r.maxAgeSeconds
    if now > absoluteExpiry then return none
    let untilExpiry ← int64.sub absoluteExpiry now
    let staleAt ← int64.add now (min r.maxStaleAgeSeconds untilExpiry)
    return some staleAt

/-- The range of `TimeDelta::seconds`. -/
def chronoSeconds : Range := ⟨-9223372036854775, 9223372036854775⟩

/-- The range of `DateTime<Utc>`, in nanoseconds: the years -262143 to 262142. -/
def chronoInstants : Range := ⟨-8334601228800000000000, 8210266876799999999999⟩

/-- The comparison of `is_refresh_allowed`, once there is a last update. -/
def refreshDue (last nanos : Int) (interval : Option Int) : Option Bool := do
  let seconds ← chronoSeconds.fit? (interval.getD smallestRefreshInterval)
  (chronoInstants.add last (seconds * 1000000000)).map fun next => decide (next < nanos)

/-- The times whose codes `TOTP::check` compares with: it divides by the step, goes back by the skew
and multiplies again. -/
def stepTimes (params : TotpParams) (now : Nat) : Option (List Nat) :=
  if params.step = 0 then none
  else if now / params.step < params.skew then none
  else (List.range (2 * params.skew + 1)).mapM fun i =>
    let time := (now / params.step - params.skew + i) * params.step
    if time < 18446744073709551616 then some time else none

def AgedBy (realm : Realm) (r : SessionRow) : Prop :=
  r.maxAgeSeconds = realm.sessionMaxAgeSeconds ∧
    r.maxStaleAgeSeconds = realm.sessionMaxStaleAgeSeconds

/-- All computations from the realm have a result, at every reading of the next century. -/
structure StaysDefined (realm : Realm) : Prop where
  login : ∀ now, NextCentury now →
    (tokenExp now realm).isSome ∧ (firstStaleAt now realm).isSome
  access : ∀ now r, NextCentury now → NextCentury r.createdAt → AgedBy realm r →
    (nextStaleAt now r).isSome
  certify : ∀ now, NextCentury now → (certificateExp now realm).isSome
  refresh : ∀ jwt, realm.authParams.jwtParams = some jwt → ∀ last nanos,
    NextCentury (last / 1000000000) →
      (refreshDue last nanos jwt.smallestRefreshIntervalSeconds).isSome
  totp : ∀ settings, realmTotpParams realm = .ok settings → ∀ now : Nat, NextCentury now →
    (stepTimes (settings.getD {}) now).isSome

/-- The integers of the realm are of the types that a request is read into. -/
structure Typed (realm : Realm) : Prop where
  maxAge : int64.Fits realm.sessionMaxAgeSeconds
  staleAge : int64.Fits realm.sessionMaxStaleAgeSeconds
  certificateAge : int64.Fits realm.certificateMaxAgeSeconds

structure Moderate (realm : Realm) : Prop where
  maxAge : realm.sessionMaxAgeSeconds ≤ int64.hi - centuryEnd
  staleAge : realm.sessionMaxStaleAgeSeconds ≤ int64.hi - centuryEnd
  certificateAge : realm.certificateMaxAgeSeconds ≤ int64.hi - centuryEnd
  interval : ∀ jwt, realm.authParams.jwtParams = some jwt →
    ∀ seconds, jwt.smallestRefreshIntervalSeconds = some seconds →
      -8334601228800 - centuryStart ≤ seconds ∧ seconds ≤ 8210266876799 - centuryEnd
  step : ∀ settings, realmTotpParams realm = .ok (some settings) →
    1 ≤ settings.step ∧ settings.step ≤ centuryStart

theorem centuryEnd_mem : NextCentury centuryEnd := by decide

theorem forall_add_isSome_iff {seconds : Int} (h : int64.Fits seconds) :
    (∀ now, NextCentury now → (int64.add now seconds).isSome) ↔ seconds ≤ int64.hi - centuryEnd := by
  have hwindow := Range.forall_fits_add_iff (R := int64) (d := seconds) (a := centuryStart)
    (b := centuryEnd) (by decide)
  simp only [NextCentury, Range.add_isSome, and_imp]
  rw [hwindow]
  refine and_iff_right ?_
  have hlow : int64.lo ≤ seconds := h.1
  simp only [centuryStart] at *
  omega

theorem nextStaleAt_isSome {now : Int} {r : SessionRow} (hnow : NextCentury now)
    (hstale : int64.Fits r.maxStaleAgeSeconds) (hmax : int64.Fits (r.createdAt + r.maxAgeSeconds)) :
    (nextStaleAt now r).isSome := by
  unfold nextStaleAt
  split
  · rfl
  · rw [Range.add_of_fits hmax]
    simp only [Option.bind_eq_bind, Option.bind_some]
    split
    · rfl
    · rename_i hlive
      have hleft : int64.Fits (r.createdAt + r.maxAgeSeconds - now) := by
        simp only [Range.Fits, int64, NextCentury, centuryStart, centuryEnd] at *
        omega
      rw [Range.sub_of_fits hleft]
      have hnext : int64.Fits
          (now + min r.maxStaleAgeSeconds (r.createdAt + r.maxAgeSeconds - now)) := by
        simp only [Range.Fits, int64, NextCentury, centuryStart, centuryEnd] at *
        omega
      simp only [Option.bind_some, Range.add_of_fits hnext]
      rfl

theorem refreshDue_isSome_iff {last nanos : Int} {interval : Option Int} :
    (refreshDue last nanos interval).isSome ↔
      chronoSeconds.Fits (interval.getD smallestRefreshInterval) ∧
        chronoInstants.Fits (last + interval.getD smallestRefreshInterval * 1000000000) := by
  unfold refreshDue
  cases hs : chronoSeconds.fit? (interval.getD smallestRefreshInterval) with
  | none =>
    have hno : ¬ chronoSeconds.Fits (interval.getD smallestRefreshInterval) := by
      rw [← Range.fit?_isSome, hs]
      decide
    simp [hno]
  | some seconds =>
    obtain ⟨hfits, rfl⟩ := Range.fit?_eq_some.mp hs
    simp [hfits]

theorem forall_refreshDue_iff {interval : Option Int} :
    (∀ last nanos, NextCentury (last / 1000000000) → (refreshDue last nanos interval).isSome) ↔
      -8334601228800 - centuryStart ≤ interval.getD smallestRefreshInterval ∧
        interval.getD smallestRefreshInterval ≤ 8210266876799 - centuryEnd := by
  simp only [refreshDue_isSome_iff]
  generalize interval.getD smallestRefreshInterval = seconds
  simp only [Range.Fits, chronoSeconds, chronoInstants, NextCentury, centuryStart, centuryEnd]
  constructor
  · intro h
    have hfirst := h (1767225600 * 1000000000) 0 (by decide)
    have hlast := h (4922899200 * 1000000000 + 999999999) 0 (by decide)
    omega
  · intro h last nanos hlast
    omega

theorem mapM_some_of_forall {α β : Type} {f : α → Option β} {l : List α}
    (h : ∀ x ∈ l, (f x).isSome) : (l.mapM f).isSome := by
  induction l with
  | nil => rfl
  | cons x l ih =>
    obtain ⟨y, hy⟩ := Option.isSome_iff_exists.mp (h x List.mem_cons_self)
    obtain ⟨ys, hys⟩ := Option.isSome_iff_exists.mp
      (ih fun z hz => h z (List.mem_cons_of_mem x hz))
    simp [List.mapM_cons, hy, hys]

theorem stepTimes_isSome_iff {params : TotpParams} (hskew : params.skew = 1) {now : Nat}
    (hnow : NextCentury now) :
    (stepTimes params now).isSome ↔ 1 ≤ params.step ∧ params.step ≤ now := by
  unfold stepTimes
  rw [hskew]
  constructor
  · intro h
    split at h
    · cases h
    · rename_i hstep
      split at h
      · cases h
      · rename_i hearly
        have hpos : 0 < params.step := Nat.pos_of_ne_zero hstep
        exact ⟨hpos, (Nat.le_div_iff_mul_le hpos).mp (Nat.le_of_not_lt hearly) |>.trans' (by omega)⟩
  · rintro ⟨hpos, hle⟩
    have hquot : 1 ≤ now / params.step := (Nat.le_div_iff_mul_le hpos).mpr (by omega)
    rw [if_neg (by omega), if_neg (by omega)]
    refine mapM_some_of_forall fun i hi => ?_
    have hi' : i < 3 := List.mem_range.mp hi
    have htime : (now / params.step - 1 + i) * params.step ≤ now + params.step := by
      calc (now / params.step - 1 + i) * params.step
          ≤ (now / params.step + 1) * params.step := Nat.mul_le_mul_right _ (by omega)
        _ = now / params.step * params.step + params.step := by rw [Nat.add_mul, Nat.one_mul]
        _ ≤ now + params.step := Nat.add_le_add_right (Nat.div_mul_le_self _ _) _
    have hbound : (now / params.step - 1 + i) * params.step < 18446744073709551616 := by
      have hlate : now ≤ 4922899200 := by
        have := hnow.2
        simp only [centuryEnd] at this
        omega
      omega
    simp [hbound]

theorem realmParamsToTotpParams_skew {p : TotpRealmParams} {params : TotpParams}
    (h : realmParamsToTotpParams p = .ok params) : params.skew = 1 := by
  dsimp only [realmParamsToTotpParams] at h
  split at h
  · cases h
    rfl
  · split at h
    · cases h
      rfl
    · split at h
      · cases h
        rfl
      · cases h

theorem skew_of_realmTotpParams {realm : Realm} {params : TotpParams}
    (h : realmTotpParams realm = .ok (some params)) : params.skew = 1 := by
  unfold realmTotpParams at h
  split at h
  · cases h
  · split at h
    · rename_i hparams
      cases h
      exact realmParamsToTotpParams_skew hparams
    · cases h

theorem nextStaleAt_eq {now : Int} {r : SessionRow} {next : Option Int}
    (h : nextStaleAt now r = some next) :
    next = if SessionStore.expired now r then none
      else some (SessionStore.touch now r).staleAt := by
  unfold nextStaleAt at h
  split at h
  · rename_i hstale
    cases h
    rw [if_pos]
    simp [SessionStore.expired, hstale]
  · rename_i hidle
    obtain ⟨absolute, habsolute, h⟩ := Option.bind_eq_some_iff.mp h
    obtain ⟨hfits, rfl⟩ := Range.add_eq_some.mp habsolute
    have hfits := fits_iff.mp hfits
    split at h
    · rename_i hover
      cases h
      rw [if_pos]
      simp [SessionStore.expired, i64_eq hfits, hover]
    · rename_i hlive
      obtain ⟨left, hleft, h⟩ := Option.bind_eq_some_iff.mp h
      obtain ⟨hleftFits, rfl⟩ := Range.fit?_eq_some.mp hleft
      obtain ⟨staleAt, hstale, h⟩ := Option.bind_eq_some_iff.mp h
      obtain ⟨hstaleFits, rfl⟩ := Range.add_eq_some.mp hstale
      cases h
      have hexpired : SessionStore.expired now r = false :=
        (SessionStore.expired_eq_false_iff hfits).mpr ⟨by omega, by omega⟩
      rw [hexpired]
      simp [SessionStore.touch, i64_eq hfits, i64_eq (fits_iff.mp hleftFits),
        i64_eq (fits_iff.mp hstaleFits)]

theorem newSession_firstStaleAt {now staleAt : Int} {realm : Realm} {id value : String}
    {client : AuthenticatedClientScheme} (h : firstStaleAt now realm = some staleAt) :
    AgedBy realm (newSession now id realm client value) ∧
      (newSession now id realm client value).staleAt = staleAt := by
  obtain ⟨hfits, hsum⟩ := Range.add_eq_some.mp h
  exact ⟨⟨rfl, rfl⟩, (SessionStore.newSession_staleAt (fits_iff.mp hfits)).trans hsum⟩

theorem issuedClaims_exp {now exp : Int} {realm : Realm} {subject : String} {scheme : AuthScheme}
    {roles : List String} {extra : ExtraClaims} (h : tokenExp now realm = some exp) :
    (issuedClaims now subject scheme realm.id roles extra
      realm.sessionMaxAgeSeconds).registered.exp = some exp :=
  congrArg some (Range.add_eq_some.mp h).2

theorem isRefreshAllowed_eq {r : RealmJwks} {last nanos : Int} {due : Bool}
    (hlast : r.lastUpdate = some last)
    (h : refreshDue last nanos r.smallestRefreshInterval = some due) :
    r.isRefreshAllowed nanos = due := by
  unfold refreshDue at h
  obtain ⟨seconds, hseconds, h⟩ := Option.bind_eq_some_iff.mp h
  obtain ⟨-, rfl⟩ := Range.fit?_eq_some.mp hseconds
  obtain ⟨next, hnext, rfl⟩ := Option.map_eq_some_iff.mp h
  obtain ⟨-, rfl⟩ := Range.add_eq_some.mp hnext
  simp only [RealmJwks.isRefreshAllowed, hlast]

section
variable {realm : Realm}

theorem StaysDefined.moderate (ht : Typed realm) (h : StaysDefined realm) : Moderate realm where
  maxAge := (forall_add_isSome_iff ht.maxAge).mp fun now hnow => (h.login now hnow).1
  staleAge := (forall_add_isSome_iff ht.staleAge).mp fun now hnow => (h.login now hnow).2
  certificateAge := (forall_add_isSome_iff ht.certificateAge).mp h.certify
  interval := by
    intro jwt hjwt seconds hseconds
    have hrange := forall_refreshDue_iff.mp (h.refresh jwt hjwt)
    rwa [hseconds] at hrange
  step := by
    intro settings hsettings
    have htimes := h.totp _ hsettings 1767225600 (by decide)
    have hskew := skew_of_realmTotpParams hsettings
    obtain ⟨hpos, hle⟩ := (stepTimes_isSome_iff hskew (by decide)).mp htimes
    have hbound : settings.step ≤ 1767225600 := hle
    refine ⟨hpos, ?_⟩
    simp only [centuryStart]
    omega

theorem Moderate.staysDefined (ht : Typed realm) (h : Moderate realm) : StaysDefined realm where
  login := fun now hnow => ⟨(forall_add_isSome_iff ht.maxAge).mpr h.maxAge now hnow,
    (forall_add_isSome_iff ht.staleAge).mpr h.staleAge now hnow⟩
  access := by
    rintro now r hnow hcreated ⟨hage, hstale⟩
    have hmax := (forall_add_isSome_iff ht.maxAge).mpr h.maxAge r.createdAt hcreated
    rw [← hage, Range.add_isSome] at hmax
    exact nextStaleAt_isSome hnow (hstale ▸ ht.staleAge) hmax
  certify := (forall_add_isSome_iff ht.certificateAge).mpr h.certificateAge
  refresh := by
    intro jwt hjwt
    refine forall_refreshDue_iff.mpr ?_
    cases hinterval : jwt.smallestRefreshIntervalSeconds with
    | none => decide
    | some seconds => exact h.interval jwt hjwt seconds hinterval
  totp := by
    intro settings hsettings now hnow
    cases settings with
    | none =>
      have hlate : 1767225600 ≤ (now : Int) := hnow.1
      have hstep : 30 ≤ now := by omega
      exact (stepTimes_isSome_iff rfl hnow).mpr ⟨by decide, hstep⟩
    | some params =>
      obtain ⟨hpos, hle⟩ := h.step params hsettings
      refine (stepTimes_isSome_iff (skew_of_realmTotpParams hsettings) hnow).mpr ⟨hpos, ?_⟩
      have hlate := hnow.1
      have hbound : params.step ≤ now := by omega
      exact hbound

end

structure SameIntegers (submitted stored : Realm) : Prop where
  maxAge : stored.sessionMaxAgeSeconds = submitted.sessionMaxAgeSeconds
  staleAge : stored.sessionMaxStaleAgeSeconds = submitted.sessionMaxStaleAgeSeconds
  certificateAge : stored.certificateMaxAgeSeconds = submitted.certificateMaxAgeSeconds
  jwtParams : stored.authParams.jwtParams = submitted.authParams.jwtParams
  totpParams : stored.authParams.totpParams = submitted.authParams.totpParams

theorem SameIntegers.staysDefined_iff {submitted stored : Realm}
    (h : SameIntegers submitted stored) (ht : Typed submitted) :
    StaysDefined stored ↔ Moderate submitted := by
  have hstored : Typed stored :=
    ⟨h.maxAge ▸ ht.maxAge, h.staleAge ▸ ht.staleAge, h.certificateAge ▸ ht.certificateAge⟩
  have hsame : Moderate stored ↔ Moderate submitted := by
    have hsettings := realmTotpParams_eq_of h.totpParams
    constructor
    · rintro ⟨hmax, hstale, hcertificate, hinterval, hstep⟩
      exact ⟨h.maxAge ▸ hmax, h.staleAge ▸ hstale, h.certificateAge ▸ hcertificate,
        h.jwtParams ▸ hinterval, hsettings ▸ hstep⟩
    · rintro ⟨hmax, hstale, hcertificate, hinterval, hstep⟩
      exact ⟨h.maxAge ▸ hmax, h.staleAge ▸ hstale, h.certificateAge ▸ hcertificate,
        h.jwtParams ▸ hinterval, hsettings ▸ hstep⟩
  exact ⟨fun hdefined => hsame.mp (hdefined.moderate hstored),
    fun hmoderate => (hsame.mpr hmoderate).staysDefined hstored⟩

section
variable {X : Externals} {params : ServerParams} {requester : Admin} {db : Database}
variable {response : HttpResponse}

theorem checkSamlParams_sameIntegers {body realm : Realm}
    (h : Endpoints.checkSamlParams X params body = .ok realm) : SameIntegers body realm := by
  unfold Endpoints.checkSamlParams at h
  cases hs : body.authParams.samlParams with
  | none =>
    simp only [hs] at h
    cases h
    exact ⟨rfl, rfl, rfl, rfl, rfl⟩
  | some saml =>
    simp only [hs] at h
    split at h
    · cases h
    · split at h
      · cases h
      · split at h
        · cases h
        · cases h
          exact ⟨rfl, rfl, rfl, rfl, rfl⟩

theorem createRealm_stored {body : Realm}
    (h : (Endpoints.createRealm X params requester body db).result = .ok response) :
    ∃ stored, (Endpoints.createRealm X params requester body db).state.getRealm body.id =
      some stored ∧ SameIntegers body stored := by
  unfold Endpoints.createRealm at h ⊢
  cases hsuper : requester.isSuperAdmin with
  | false =>
    rw [hsuper, if_pos rfl] at h
    cases h
  | true =>
    simp only [hsuper, Bool.true_eq_false, if_false] at h ⊢
    cases hcheck : Endpoints.checkSamlParams X params body with
    | error e =>
      simp only [hcheck] at h
      cases h
    | ok realm =>
      simp only [hcheck] at h ⊢
      cases hdb : db.createRealm realm with
      | error e =>
        simp only [hdb] at h
        cases h
      | ok db' =>
        obtain ⟨-, hrows, -⟩ := Database.createRealm_ok hdb
        exact ⟨realm, Table.find?_eq_some_iff.mpr ⟨(hrows realm).mpr (.inr rfl),
          checkSamlParams_id hcheck⟩, checkSamlParams_sameIntegers hcheck⟩

theorem updateRealm_stored {realmId : String} {body stored : Realm}
    (h : (Endpoints.updateRealm X params requester realmId body db).result = .ok response)
    (hstored : (Endpoints.updateRealm X params requester realmId body db).state.getRealm realmId =
      some stored) : SameIntegers body stored := by
  obtain ⟨-, realm, hcheck, hstate⟩ := updateRealm_ok h
  rw [hstate] at hstored
  obtain ⟨hmem, hid⟩ := Table.find?_eq_some_iff.mp hstored
  have hsame := checkSamlParams_sameIntegers hcheck
  have hrealm := checkSamlParams_id hcheck
  simp only [Database.updateRealm, Table.mem_updateWhere_key] at hmem
  rcases hmem with ⟨-, hne⟩ | ⟨old, -, -, rfl⟩
  · exact absurd hid (by rwa [hrealm] at hne)
  · exact ⟨hsame.maxAge, hsame.staleAge, hsame.certificateAge, hsame.jwtParams, hsame.totpParams⟩

end

/-- The computations from an accepted realm stay defined for as long as it is stored exactly when
what was submitted is moderate. Neither handler asks for that. -/
theorem accepted_realm_staysDefined_iff (X : Externals) (params : ServerParams)
    (requester : Admin) (db : Database) (body : Realm) (ht : Typed body) :
    (∀ response, (Endpoints.createRealm X params requester body db).result = .ok response →
      ∃ stored, (Endpoints.createRealm X params requester body db).state.getRealm body.id =
        some stored ∧ (StaysDefined stored ↔ Moderate body)) ∧
    ∀ realmId response,
      (Endpoints.updateRealm X params requester realmId body db).result = .ok response →
      ∀ stored, (Endpoints.updateRealm X params requester realmId body db).state.getRealm realmId =
        some stored → (StaysDefined stored ↔ Moderate body) := by
  constructor
  · intro response h
    obtain ⟨stored, hstored, hsame⟩ := createRealm_stored h
    exact ⟨stored, hstored, hsame.staysDefined_iff ht⟩
  · intro realmId response h stored hstored
    exact (updateRealm_stored h hstored).staysDefined_iff ht

/-- A day and a half of session, an hour of idleness and a code every minute. -/
def measuredRealm : Realm :=
  { id := "acme", authParams := { totpParams := some ⟨"SHA256", 60⟩ },
    sessionMaxAgeSeconds := 129600, sessionMaxStaleAgeSeconds := 3600 }

theorem accepted_realm_staysDefined_iff_measuredRealm :
    ∃ stored, (Endpoints.createRealm Transparent.externals Transparent.params
        Database.adminRealmAdmin measuredRealm (Database.fresh "hash")).state.getRealm "acme" =
      some stored ∧ (StaysDefined stored ↔ Moderate measuredRealm) := by
  refine (accepted_realm_staysDefined_iff Transparent.externals Transparent.params
    Database.adminRealmAdmin (Database.fresh "hash") measuredRealm ⟨by decide, by decide,
      by decide⟩).1 { status := 201, body := .realm measuredRealm } ?_
  decide

/-- A realm with the largest session age, and one whose codes change every zero seconds: both are
stored, the first fails every login and the second every check of a code. -/
theorem create_realm_accepts_overflowing_ages :
    let create (body : Realm) := Endpoints.createRealm Transparent.externals Transparent.params
      Database.adminRealmAdmin body (Database.fresh "hash")
    let endless : Realm := { measuredRealm with sessionMaxAgeSeconds := 9223372036854775807 }
    let stepless : Realm := { measuredRealm with authParams := { totpParams := some ⟨"SHA1", 0⟩ } }
    ((create endless).state.getRealm "acme" = some endless ∧ ¬ StaysDefined endless) ∧
      (create stepless).state.getRealm "acme" = some stepless ∧ ¬ StaysDefined stepless := by
  intro create endless stepless
  refine ⟨⟨by decide, fun h => ?_⟩, by decide, fun h => ?_⟩
  · exact absurd (h.login centuryStart (by decide)).1 (by decide)
  · exact absurd (h.totp (some { step := 0 }) (by decide) 1767225600 (by decide))
      (by decide)

end AuthVerifier
