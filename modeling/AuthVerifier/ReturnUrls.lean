import AuthVerifier.SamlMetadata
import AuthVerifier.SamlSingleUse

/-!
Where a SAML login sends the browser back to. A `return_to` is checked when the login starts and
stored as it is written out; the default of the realm is checked when the realm is stored, and then
used as it was submitted. The two checks differ in what they say of user names and passwords.
-/

set_option autoImplicit false

namespace AuthVerifier
open Concurrent Relational Transition

structure ReadsUrls (E : SamlCrates) : Prop where
  /-- A URL that is written out is read back. -/
  reparse : ∀ s url, E.parseUrl s = .ok url → E.parseUrl url.text = .ok url
  /-- An https URL has a host, and only a bracketed one contains colons. -/
  httpsOrigin : ∀ s url, E.parseUrl s = .ok url → url.scheme = "https" →
    ∃ host port, url.origin = .tuple "https" host port ∧
      (':' ∈ host.toList → host.toList.getLast? = some ']')

namespace Origin

theorem same_self {scheme host : String} {port : Nat} :
    (tuple scheme host port).same (tuple scheme host port) = true := by
  simp [same]

theorem getLast_append_number (cs : List Char) (p : Nat) :
    (cs ++ ':' :: (toString p).toList).getLast? ≠ some ']' := by
  rw [Nat.toString_eq_repr, Nat.toList_repr]
  have hne : Nat.toDigits 10 p ≠ [] := Nat.toDigits_ne_nil
  obtain ⟨digits, c, hdigits⟩ := (List.eq_nil_or_concat _).resolve_left hne
  intro h
  have hsplit : cs ++ ':' :: Nat.toDigits 10 p = (cs ++ ':' :: digits) ++ [c] := by simp [hdigits]
  rw [hsplit, List.getLast?_concat, Option.some_inj] at h
  have hmem : ']' ∈ Nat.toDigits 10 p := by simp [hdigits, h]
  have hdigit := Nat.isDigit_of_mem_toDigits (by decide) (by decide) hmem
  revert hdigit
  decide

theorem asciiSerialization_inj {host host' : String} {port port' : Nat}
    (hhost : ':' ∈ host.toList → host.toList.getLast? = some ']')
    (hhost' : ':' ∈ host'.toList → host'.toList.getLast? = some ']')
    (h : (tuple "https" host port).asciiSerialization =
      (tuple "https" host' port').asciiSerialization) : host = host' ∧ port = port' := by
  have hdefault : defaultPort "https" = some 443 := by decide
  -- a port after a host leaves a colon in what cannot be a host of its own
  have hno {a b : String} {p : Nat} (ha : ':' ∈ a.toList → a.toList.getLast? = some ']') :
      a.toList ≠ b.toList ++ ':' :: (toString p).toList := by
    intro he
    have hlast := ha (by simp [he])
    rw [he] at hlast
    exact getLast_append_number _ _ hlast
  simp only [asciiSerialization, hdefault, Option.some.injEq] at h
  split at h
  · rename_i hport
    split at h
    · rename_i hport'
      have htext := congrArg String.toList h
      simp only [String.toList_append, List.append_cancel_left_eq] at htext
      exact ⟨String.toList_inj.mp htext, hport.symm.trans hport'⟩
    · have htext := congrArg String.toList h
      simp only [String.toList_append, List.append_assoc, List.append_cancel_left_eq] at htext
      exact absurd htext (hno hhost)
  · split at h
    · have htext := congrArg String.toList h
      simp only [String.toList_append, List.append_assoc, List.append_cancel_left_eq] at htext
      exact absurd htext.symm (hno hhost')
    · have htext := congrArg String.toList h
      simp only [String.toList_append, List.append_assoc, List.append_cancel_left_eq] at htext
      obtain ⟨hsame, hp⟩ := Text.append_sep_inj (Text.colon_not_mem_digits port)
        (Text.colon_not_mem_digits port') htext
      exact ⟨String.toList_inj.mp hsame, Text.toString_nat_inj (String.toList_inj.mp hp)⟩

end Origin

namespace Saml
variable {E : SamlCrates} {params : SamlParams}

def SafeReturnUrl (E : SamlCrates) (params : SamlParams) (text : String) : Prop :=
  ∃ url, E.parseUrl text = .ok url ∧ url.scheme = "https" ∧ url.username = "" ∧ url.password = none ∧
    ∃ allowed ∈ params.allowedReturnOrigins, ∃ a, E.parseUrl allowed = .ok a ∧
      a.origin.same url.origin = true

def PlainDefault (E : SamlCrates) (params : SamlParams) : Prop :=
  ∀ url, E.parseUrl params.defaultReturnUrl = .ok url → url.username = "" ∧ url.password = none

theorem resolveReturnUrl_some_iff {raw text : String} :
    resolveReturnUrl E params (some raw) = .ok text ↔
      SafeReturnUrl E params raw ∧ ∃ url, E.parseUrl raw = .ok url ∧ text = url.text := by
  simp only [resolveReturnUrl, SafeReturnUrl]
  cases hurl : E.parseUrl raw with
  | error e => simp
  | ok url =>
    dsimp only
    split
    · rename_i hsafe
      obtain ⟨hscheme, huser, hpassword, hany⟩ := hsafe
      constructor
      · intro h
        cases h
        obtain ⟨allowed, hmem, hsame⟩ := List.any_eq_true.mp hany
        refine ⟨⟨url, rfl, hscheme, huser, hpassword, allowed, hmem, ?_⟩, url, rfl, rfl⟩
        cases hparse : E.parseUrl allowed with
        | error e =>
          rw [hparse] at hsame
          cases hsame
        | ok origin =>
          rw [hparse] at hsame
          exact ⟨origin, rfl, hsame⟩
      · rintro ⟨-, url', hurl', rfl⟩
        cases hurl'
        rfl
    · rename_i hunsafe
      refine iff_of_false (by simp) ?_
      rintro ⟨⟨url', hurl', hscheme, huser, hpassword, allowed, hmem, origin, hparse, hsame⟩, -⟩
      cases hurl'
      refine hunsafe ⟨hscheme, huser, hpassword, List.any_eq_true.mpr ⟨allowed, hmem, ?_⟩⟩
      rw [hparse]
      exact hsame

theorem resolved_safe (hE : ReadsUrls E) {raw text : String}
    (h : resolveReturnUrl E params (some raw) = .ok text) : SafeReturnUrl E params text := by
  obtain ⟨⟨url, hurl, hsafe⟩, url', hurl', rfl⟩ := resolveReturnUrl_some_iff.mp h
  cases hurl.symm.trans hurl'
  exact ⟨url, hE.reparse _ _ hurl, hsafe⟩

theorem allowedOrigins_ok {origins texts : List String} (h : allowedOrigins E origins = .ok texts)
    {text : String} (ht : text ∈ texts) :
    ∃ origin ∈ origins, ∃ a, E.parseUrl origin = .ok a ∧ a.scheme = "https" ∧
      a.origin.asciiSerialization = text := by
  induction origins generalizing texts with
  | nil =>
    cases h
    cases ht
  | cons origin rest ih =>
    rw [allowedOrigins] at h
    split at h
    · cases h
    · rename_i a ha
      split at h
      · cases h
      · rename_i hshape
        split at h
        · cases h
        · rename_i allowed hrest
          cases h
          rcases List.mem_cons.mp ht with rfl | ht
          · refine ⟨origin, List.mem_cons_self, a, ha, ?_, rfl⟩
            by_contra hscheme
            exact hshape (.inl hscheme)
          · obtain ⟨other, hother, rest⟩ := ih hrest ht
            exact ⟨other, List.mem_cons_of_mem _ hother, rest⟩

theorem validateReturnUrls_ok (hE : ReadsUrls E) (h : validateReturnUrls E params = .ok ()) :
    ∃ url, E.parseUrl params.defaultReturnUrl = .ok url ∧ url.scheme = "https" ∧
      ∃ allowed ∈ params.allowedReturnOrigins, ∃ a, E.parseUrl allowed = .ok a ∧
        a.origin.same url.origin = true := by
  unfold validateReturnUrls at h
  split at h
  · cases h
  · rename_i texts hallowed
    split at h
    · cases h
    · rename_i url hurl
      split at h
      · cases h
      · rename_i hscheme
        have hscheme := not_not.mp hscheme
        split at h
        · cases h
        · rename_i hlisted
          obtain ⟨allowed, hmem, a, ha, hhttps, htext⟩ := allowedOrigins_ok hallowed (not_not.mp hlisted)
          refine ⟨url, hurl, hscheme, allowed, hmem, a, ha, ?_⟩
          obtain ⟨host, port, horigin, hhost⟩ := hE.httpsOrigin _ _ hurl hscheme
          obtain ⟨host', port', horigin', hhost'⟩ := hE.httpsOrigin _ _ ha hhttps
          rw [horigin, horigin'] at htext
          obtain ⟨rfl, rfl⟩ := Origin.asciiSerialization_inj hhost' hhost htext
          rw [horigin, horigin']
          exact Origin.same_self

theorem validateReturnUrls_of_accepted {nanos : Int} {submitted : SamlParams} {realmId : String}
    (h : validateSamlParams E nanos submitted realmId = .ok params) :
    validateReturnUrls E params = .ok () := by
  unfold validateSamlParams at h
  split at h
  · cases h
  · split at h
    · cases h
    · unfold checkParams at h
      split at h
      · cases h
      · split at h
        · cases h
        · split at h
          · cases h
          · rename_i hurls
            cases h
            exact hurls

theorem safe_default_iff (hE : ReadsUrls E) (h : validateReturnUrls E params = .ok ()) :
    SafeReturnUrl E params params.defaultReturnUrl ↔ PlainDefault E params := by
  obtain ⟨url, hurl, hscheme, hallowed⟩ := validateReturnUrls_ok hE h
  constructor
  · rintro ⟨url', hurl', -, huser, hpassword, -⟩ other hother
    cases hurl'.symm.trans hother
    exact ⟨huser, hpassword⟩
  · intro hplain
    obtain ⟨huser, hpassword⟩ := hplain url hurl
    exact ⟨url, hurl, hscheme, huser, hpassword, hallowed⟩

end Saml

namespace Sso

/-- The URLs a call works with are right for the realm of their login. -/
structure Phase.Carries {τ : Type} (R : (realmId url : String) → Prop) (phase : Phase τ) : Prop where
  loggingIn : ∀ requestId realmId url, phase.loggingIn = some (requestId, realmId, url) →
    R realmId url
  carried : ∀ q, phase.carried = some q → R q.realmId q.returnUrl

def Event.Carries (R : (realmId url : String) → Prop) : Event → Prop
  | .begun _ realmId url => R realmId url
  | .issued _ request _ _ redirect => R request.realmId redirect

section
variable {τ : Type} [Ring τ] [LinearOrder τ] {k : SamlBackend} {sha256 : String → List UInt8}

/-- All URLs of the state are right for the realm of their login. -/
structure Carries (R : (realmId url : String) → Prop) (A : RequestShelf (k.store τ sha256))
    (w : World (k.State τ) τ) : Prop where
  valid : A.valid w.store
  held : ∀ q, A.holds w.store q → R q.realmId q.returnUrl
  calls : ∀ c ∈ w.calls, c.phase.Carries R
  log : ∀ e ∈ w.log, e.Carries R

variable {R : (realmId url : String) → Prop} {A : RequestShelf (k.store τ sha256)}
variable {w : World (k.State τ) τ}

omit [Ring τ] [LinearOrder τ] in
theorem Phase.Carries.of_none {phase : Phase τ} (hlogin : phase.loggingIn = none)
    (hpost : phase.carried = none) : phase.Carries R where
  loggingIn := fun _ _ _ h => by rw [hlogin] at h; cases h
  carried := fun _ h => by rw [hpost] at h; cases h

omit [Ring τ] [LinearOrder τ] in
theorem Phase.Carries.of_login {phase : Phase τ} {requestId realmId url : String}
    (hlogin : phase.loggingIn = some (requestId, realmId, url)) (hpost : phase.carried = none)
    (h : R realmId url) : phase.Carries R where
  loggingIn := fun _ _ _ he => by rw [hlogin] at he; cases he; exact h
  carried := fun _ he => by rw [hpost] at he; cases he

omit [Ring τ] [LinearOrder τ] in
theorem Phase.Carries.of_post {phase : Phase τ} {q : PendingSamlRequest}
    (hlogin : phase.loggingIn = none) (hpost : phase.carried = some q)
    (h : R q.realmId q.returnUrl) : phase.Carries R where
  loggingIn := fun _ _ _ he => by rw [hlogin] at he; cases he
  carried := fun _ he => by rw [hpost] at he; cases he; exact h

namespace Carries

theorem withStore (h : Carries R A w) {s : k.State τ} (hvalid : A.valid s)
    (hheld : ∀ q, A.holds s q → A.holds w.store q ∨ R q.realmId q.returnUrl) :
    Carries R A { w with store := s } where
  valid := hvalid
  held := fun q hq => (hheld q hq).elim (h.held q) id
  calls := h.calls
  log := h.log

theorem fail (h : Carries R A w) {pid : Nat} {e : AuthError} : Carries R A (fail w pid e) where
  valid := h.valid
  held := h.held
  calls := fun c hc => h.calls c (Jobs.mem_finish.mp hc).1
  log := h.log

theorem goOn (h : Carries R A w) {pid : Nat} {phase : Phase τ} (hphase : phase.Carries R) :
    Carries R A (goOn w pid phase) where
  valid := h.valid
  held := h.held
  calls := by
    intro c hc
    rcases Jobs.mem_setPhase.mp hc with ⟨hold, -⟩ | ⟨rfl, -⟩
    · exact h.calls c hold
    · exact hphase
  log := h.log

end Carries
end

section
variable {τ : Type} [Ring τ] [LinearOrder τ] [FloorRing τ] {k : SamlBackend}
  {sha256 : String → List UInt8} {A : RequestShelf (k.store τ sha256)} {w : World (k.State τ) τ}
  {X : Externals} {params : ServerParams} {P : SamlParts τ} {db : Database}
  {R : (realmId url : String) → Prop}

namespace Carries

theorem advanceAcs (h : Carries R A w) {pid : Nat} {m : Moment} {post : Post} {phase : AcsPhase τ}
    (hphase : (Phase.acs post phase).Carries R) :
    Carries R A (advanceAcs X params P k sha256 w pid m post phase) := by
  cases phase with
  | reading => exact h.goOn (.of_none rfl rfl)
  | taking now =>
    refine (h.withStore (A.valid_take h.valid) fun q hq => .inl (A.holds_take hq)).goOn ⟨?_, ?_⟩
    · rintro _ _ _ he
      cases he
    · intro q hq
      exact h.held q (A.holds_of_taken h.valid hq)
  | taken now request =>
    cases request with
    | none => exact h.fail
    | some pending =>
      have hurl := hphase.carried pending rfl
      simp only [Sso.advanceAcs, startValidation]
      split
      · split
        · exact h.fail
        · exact h.goOn (.of_post rfl rfl hurl)
      · exact h.fail
  | validating pending checked v phase =>
    have hurl := hphase.carried pending rfl
    obtain ⟨hvalid, hheld⟩ :=
      @shelf_validation τ _ _ _ k sha256 A P w.store w.clock v phase
    have hstored := h.withStore (hvalid h.valid) fun q hq => .inl ((hheld q).mp hq)
    simp only [Sso.advanceAcs, advanceValidation]
    split
    · exact hstored.goOn (.of_post rfl rfl hurl)
    · exact hstored.fail
    · split
      · exact hstored.fail
      · exact hstored.goOn (.of_post rfl rfl hurl)
  | issuing pending checked identity =>
    have hurl := hphase.carried pending rfl
    simp only [Sso.advanceAcs, issue]
    split
    · exact ⟨h.valid, h.held, fun c hc => h.calls c (Jobs.mem_finish.mp hc).1, h.log⟩
    · refine ⟨h.valid, h.held, fun c hc => h.calls c (Jobs.mem_finish.mp hc).1, ?_⟩
      exact List.forall_mem_cons.mpr ⟨hurl, h.log⟩

theorem advance (h : Carries R A w) {pid : Nat} {m : Moment} {phase : Phase τ}
    (hphase : phase.Carries R) : Carries R A (advance X params P k sha256 w pid m phase) := by
  cases phase with
  | starting samlParams realmId returnUrl requestId =>
    exact h.goOn (.of_login rfl rfl (hphase.loggingIn _ _ _ rfl))
  | composed samlParams request =>
    simp only [Sso.advance]
    split
    · exact h.fail
    · exact h.goOn (.of_login rfl rfl (hphase.loggingIn _ _ _ rfl))
  | storing samlParams request ttl =>
    have hurl := hphase.loggingIn _ _ _ rfl
    simp only [Sso.advance, storeRequest]
    split
    · exact h.fail
    · rename_i s hinsert
      have hstored : Carries R A { w with store := s } :=
        h.withStore (A.valid_insert hinsert h.valid) fun q hq =>
          (A.holds_insert hinsert hq).imp id fun he => by
            rw [he]
            exact hurl
      split
      · exact hstored.fail
      · exact ⟨hstored.valid, hstored.held, fun c hc => h.calls c (Jobs.mem_finish.mp hc).1, h.log⟩
  | acs post phase => exact h.advanceAcs hphase
  | purging phase =>
    cases phase with
    | begin => exact h.goOn (.of_none rfl rfl)
    | pendingRequests now =>
      exact (h.withStore (A.valid_purgePending h.valid)
        fun _ hq => .inl (A.holds_purgePending hq)).goOn (.of_none rfl rfl)
    | seenAssertions now =>
      have hvalid : A.valid ((k.store τ sha256).purgeSeen w.store now) := A.valid_purgeSeen h.valid
      have hstored := h.withStore hvalid fun _ hq => .inl (A.holds_purgeSeen hq)
      exact ⟨hstored.valid, hstored.held, fun c hc => h.calls c (Jobs.mem_finish.mp hc).1, h.log⟩

theorem step (h : Carries R A w) (hresolved : ∀ realmId realm samlParams returnTo url,
      samlRealm db realmId = .ok (realm, samlParams) →
        P.resolveReturnUrl samlParams returnTo = .ok url → R realm.id url) (input : Input τ) :
    Carries R A (step X params P db k sha256 w input) := by
  have hstart {phase : Phase τ} (pid : Nat) (hphase : phase.Carries R) :
      ∀ c ∈ w.calls.start pid phase, c.phase.Carries R := by
    intro c hc
    rcases Jobs.mem_start hc with hold | rfl
    · exact h.calls c hold
    · exact hphase
  cases input with
  | tick now => exact ⟨h.valid, h.held, h.calls, h.log⟩
  | login pid realmId returnTo requestId =>
    simp only [Sso.step]
    split
    · exact h
    · unfold samlLogin
      split
      · exact h.fail
      · rename_i realm samlParams hrealm
        split
        · exact h.fail
        · rename_i url hurl
          have hright := hresolved _ _ _ _ _ hrealm hurl
          exact ⟨h.valid, h.held, hstart pid (.of_login rfl rfl hright),
            List.forall_mem_cons.mpr ⟨hright, h.log⟩⟩
  | acs pid cookie realmId form =>
    simp only [Sso.step]
    split
    · exact h
    · unfold samlAcs
      split
      · exact h.fail
      · split
        · exact h.fail
        · exact ⟨h.valid, h.held, hstart pid (.of_none rfl rfl), h.log⟩
  | deleteExpired pid => exact ⟨h.valid, h.held, hstart pid (.of_none rfl rfl), h.log⟩
  | advance pid m =>
    simp only [Sso.step]
    split
    · exact h
    · rename_i call hfind
      exact h.advance (h.calls call (Table.find?_eq_some_iff.mp hfind).1)

end Carries

omit [Ring τ] [LinearOrder τ] [FloorRing τ] in
theorem samlRealm_iff {realmId : String} {realm : Realm} {samlParams : SamlParams} :
    samlRealm db realmId = .ok (realm, samlParams) ↔
      realm ∈ db.realm ∧ realm.id = realmId ∧ realm.authParams.samlParams = some samlParams := by
  unfold samlRealm
  cases hget : db.getRealm realmId with
  | none =>
    refine iff_of_false (by simp) ?_
    rintro ⟨hmem, hid, -⟩
    rw [Database.getRealm, Table.find?_eq_some_iff.mpr ⟨hmem, hid⟩] at hget
    cases hget
  | some found =>
    obtain ⟨hmem, hid⟩ := Table.find?_eq_some_iff.mp hget
    have hfound (other : Realm) : other ∈ db.realm ∧ other.id = realmId ↔ found = other := by
      constructor
      · rintro ⟨hother, hkey⟩
        exact Table.eq_of_key hmem hother (hid.trans hkey.symm)
      · rintro rfl
        exact ⟨hmem, hid⟩
    rw [← and_assoc, hfound]
    cases hsaml : found.authParams.samlParams with
    | none =>
      simp only [hsaml]
      refine iff_of_false (by simp) ?_
      rintro ⟨rfl, hp⟩
      rw [hsaml] at hp
      cases hp
    | some params =>
      simp only [hsaml, Except.ok.injEq, Prod.mk.injEq]
      refine and_congr_right fun he => ?_
      rw [← he, hsaml, Option.some_inj]

end

def SafeFor (E : SamlCrates) (db : Database) (realmId url : String) : Prop :=
  ∃ realm ∈ db.realm, realm.id = realmId ∧
    ∃ params, realm.authParams.samlParams = some params ∧ Saml.SafeReturnUrl E params url

/-- The return URLs of a state: of the logins that have begun, in the store, and where the page after
a sign-in sends the browser. -/
structure ReturnUrlsSafe {τ : Type} [Ring τ] [LinearOrder τ] {k : SamlBackend}
    (sha256 : String → List UInt8) (E : SamlCrates) (db : Database) (w : World (k.State τ) τ) :
    Prop where
  begun : ∀ requestId realmId url, .begun requestId realmId url ∈ w.log → SafeFor E db realmId url
  stored : ∀ q, (k.shelf sha256).holds w.store q → SafeFor E db q.realmId q.returnUrl
  redirected : ∀ post request checked created redirect,
    .issued post request checked created redirect ∈ w.log → SafeFor E db request.realmId redirect

def refusingParts (τ : Type) : SamlParts τ where
  samael _ _ _ _ := .error "no response"
  mapIdentity _ _ := .error (.saml "no identity")
  resolveReturnUrl _ _ := .error (.badRequest "no return URL")
  signedAuthnRequestUrl _ _ := .error (.unexpected "no signing key")

def withReturnUrls {τ : Type} (E : SamlCrates) (P : SamlParts τ) : SamlParts τ :=
  { P with resolveReturnUrl := Saml.resolveReturnUrl E }

section
variable {τ : Type} [Ring τ] [LinearOrder τ] [FloorRing τ]

theorem begun_default {E : SamlCrates} {P : SamlParts τ} {db : Database} {realm : Realm}
    {samlParams : SamlParams} (hrealm : realm ∈ db.realm)
    (hparams : realm.authParams.samlParams = some samlParams) (X : Externals) (params : ServerParams)
    (clock : τ) :
    .begun "_1" realm.id samlParams.defaultReturnUrl ∈
      (step X params (withReturnUrls E P) db .redis (fun _ => [])
        { clock := clock, store := SamlBackend.redis.empty τ } (.login 1 realm.id none "_1")).log := by
  have hlookup : samlRealm db realm.id = .ok (realm, samlParams) :=
    samlRealm_iff.mpr ⟨hrealm, rfl, hparams⟩
  simp only [step, samlLogin, hlookup]
  exact List.mem_cons_self

/-- In every run over realms with accepted settings all return URLs are safe exactly when no default
has a user name or a password; and a `return_to` is let through exactly when it is safe. -/
theorem saml_return_urls_safe_iff (E : SamlCrates) (hE : ReadsUrls E) (db : Database)
    (haccepted : ∀ realm ∈ db.realm, ∀ params, realm.authParams.samlParams = some params →
      ∃ nanos submitted, Saml.validateSamlParams E nanos submitted realm.id = .ok params) :
    ((∀ k sha256 X params (P : SamlParts τ) clock inputs,
        ReturnUrlsSafe sha256 E db
          (run (step X params (withReturnUrls E P) db k sha256)
            { clock := clock, store := k.empty τ } inputs)) ↔
      ∀ realm ∈ db.realm, ∀ params, realm.authParams.samlParams = some params →
        Saml.PlainDefault E params) ∧
    ∀ realm ∈ db.realm, ∀ params, realm.authParams.samlParams = some params → ∀ raw,
      (∃ text, Saml.resolveReturnUrl E params (some raw) = .ok text) ↔
        Saml.SafeReturnUrl E params raw := by
  refine ⟨⟨fun hsafe realm hrealm params hparams => ?_, fun hplain => ?_⟩, ?_⟩
  · obtain ⟨nanos, submitted, hvalid⟩ := haccepted realm hrealm params hparams
    have hbegun := begun_default (E := E) (P := refusingParts τ) hrealm hparams
      Transparent.externals Transparent.params 0
    obtain ⟨other, hother, hid, params', hparams', hurl⟩ :=
      (hsafe .redis (fun _ => []) Transparent.externals Transparent.params (refusingParts τ) 0
        [.login 1 realm.id none "_1"]).begun _ _ _ hbegun
    obtain rfl := Table.eq_of_key hrealm hother hid.symm
    cases hparams.symm.trans hparams'
    exact (Saml.safe_default_iff hE (Saml.validateReturnUrls_of_accepted hvalid)).mp hurl
  · intro k sha256 X params P clock inputs
    have hresolved : ∀ realmId realm samlParams returnTo url,
        samlRealm db realmId = .ok (realm, samlParams) →
          (withReturnUrls E P).resolveReturnUrl samlParams returnTo = .ok url →
            SafeFor E db realm.id url := by
      intro realmId realm samlParams returnTo url hrealm hurl
      obtain ⟨hmem, -, hparams⟩ := samlRealm_iff.mp hrealm
      refine ⟨realm, hmem, rfl, samlParams, hparams, ?_⟩
      cases returnTo with
      | some raw => exact Saml.resolved_safe hE hurl
      | none =>
        cases hurl
        obtain ⟨nanos, submitted, hvalid⟩ := haccepted realm hmem samlParams hparams
        exact (Saml.safe_default_iff hE (Saml.validateReturnUrls_of_accepted hvalid)).mpr
          (hplain realm hmem samlParams hparams)
    have hstart : Carries (SafeFor E db) (k.shelf sha256)
        { clock := clock, store := k.empty τ : World (k.State τ) τ } :=
      { valid := (custody_empty clock).valid
        held := fun q hq => absurd ((custody_empty clock).held q hq).2 (List.not_mem_nil)
        calls := by simp
        log := by simp }
    have hrun := run_keeps (step X params (withReturnUrls E P) db k sha256)
      (Carries (SafeFor E db) (k.shelf sha256)) hstart
      (fun _ input h => h.step hresolved input) inputs
    exact ⟨fun _ _ _ he => hrun.log _ he, hrun.held, fun _ _ _ _ _ he => hrun.log _ he⟩
  · intro realm _ params _ raw
    constructor
    · rintro ⟨text, htext⟩
      exact (Saml.resolveReturnUrl_some_iff.mp htext).1
    · intro hsafe
      have hparsed := hsafe
      obtain ⟨url, hurl, -⟩ := hparsed
      exact ⟨url.text, Saml.resolveReturnUrl_some_iff.mpr ⟨hsafe, url, hurl, rfl⟩⟩

end
end Sso

namespace Transparent

theorem not_mem_of_isHostChar {cs : List Char} (h : cs.all isHostChar = true) {c : Char}
    (hc : isHostChar c = false) : c ∉ cs := by
  intro hmem
  rw [List.all_eq_true.mp h c hmem] at hc
  cases hc

structure UrlParts (user host path : List Char) : Prop where
  userChars : user.all isHostChar = true
  hostChars : host.all isHostChar = true
  nonempty : host ≠ []
  pathChars : path.all isPathChar = true
  rooted : path = [] ∨ ∃ rest, path = '/' :: rest

theorem parseHttpsUrl_ok {s : String} {url : Url} (h : parseHttpsUrl s = .ok url) :
    ∃ user host path, UrlParts user host path ∧ url = httpsUrl user host path := by
  unfold parseHttpsUrl at h
  split at h
  · dsimp only at h
    split at h
    · rename_i hparts
      obtain ⟨huser, hhost, hne, hpath⟩ := hparts
      cases h
      refine ⟨_, _, _, ⟨huser, hhost, hne, hpath, ?_⟩, rfl⟩
      cases hrest : (s.toList.drop 8).dropWhile (fun c => c != '/') with
      | nil => exact .inl rfl
      | cons c rest =>
        have hhead := List.head?_dropWhile_not (fun c => c != '/') (s.toList.drop 8)
        rw [hrest] at hhead
        have hc : c = '/' := by simpa using hhead
        exact .inr ⟨rest, by rw [hc]⟩
    · cases h
  · cases h

theorem parseHttpsUrl_text {user host path : List Char} (h : UrlParts user host path) :
    parseHttpsUrl (httpsUrl user host path).text = .ok (httpsUrl user host path) := by
  have hat : '@' ∉ host := not_mem_of_isHostChar h.hostChars (by decide)
  have hatUser : '@' ∉ user := not_mem_of_isHostChar h.userChars (by decide)
  obtain ⟨rest, hrest⟩ : ∃ rest, (if path.isEmpty then ['/'] else path) = '/' :: rest := by
    rcases h.rooted with rfl | ⟨rest, rfl⟩
    · exact ⟨[], rfl⟩
    · exact ⟨rest, rfl⟩
  have hrestPath : ('/' :: rest).all isPathChar = true := by
    rw [← hrest]
    split
    · decide
    · exact h.pathChars
  obtain ⟨authority, hauthority⟩ :
      ∃ authority, (if user.isEmpty then [] else user ++ ['@']) ++ host = authority := ⟨_, rfl⟩
  have hplain : ∀ c ∈ authority, (c != '/') = true := by
    intro c hc
    have hhost := not_mem_of_isHostChar h.hostChars (c := '/') (by decide)
    have huser := not_mem_of_isHostChar h.userChars (c := '/') (by decide)
    rw [bne_iff_ne]
    rintro rfl
    rw [← hauthority] at hc
    rcases List.mem_append.mp hc with hc | hc
    · split at hc
      · cases hc
      · simp [huser] at hc
    · exact hhost hc
  have hsplit : (Text.splitOnce '@' authority).getD ([], authority) = (user, host) := by
    rw [← hauthority]
    split
    · rename_i hempty
      rw [List.nil_append, Text.splitOnce_eq_none_iff.mpr hat, List.isEmpty_iff.mp hempty]
      rfl
    · rw [List.append_assoc, List.singleton_append, Text.splitOnce_append host hatUser]
      rfl
  have htext : (httpsUrl user host path).text.toList = "https://".toList ++ (authority ++ '/' :: rest) := by
    unfold httpsUrl
    rw [hrest]
    generalize "https://".toList = scheme
    rw [← hauthority, String.toList_ofList]
    simp only [List.append_assoc]
  have hsame : httpsUrl user host ('/' :: rest) = httpsUrl user host path := by
    unfold httpsUrl
    rw [hrest, List.isEmpty_cons, if_neg Bool.false_ne_true]
  have hlength : "https://".toList.length = 8 := by decide
  unfold parseHttpsUrl
  rw [htext]
  generalize "https://".toList = scheme at hlength ⊢
  rw [if_pos (List.isPrefixOf_iff_prefix.mpr (List.prefix_append _ _)), List.drop_left' hlength]
  dsimp only
  rw [List.takeWhile_append_of_pos hplain, List.dropWhile_append_of_pos hplain]
  simp only [List.takeWhile_cons, List.dropWhile_cons, bne_self_eq_false, Bool.false_eq_true, if_false,
    List.append_nil, hsplit]
  rw [if_pos ⟨h.userChars, h.hostChars, h.nonempty, hrestPath⟩, hsame]

theorem readsUrls : ReadsUrls idpCrates where
  reparse := by
    intro s url h
    obtain ⟨user, host, path, hparts, rfl⟩ := parseHttpsUrl_ok h
    exact parseHttpsUrl_text hparts
  httpsOrigin := by
    intro s url h _
    obtain ⟨user, host, path, hparts, rfl⟩ := parseHttpsUrl_ok h
    refine ⟨String.ofList host, 443, rfl, fun hcolon => ?_⟩
    rw [String.toList_ofList] at hcolon
    exact absurd hcolon (not_mem_of_isHostChar hparts.hostChars (by decide))

def ssoRealm (params : SamlParams) : Realm :=
  { id := "acme", authParams := { samlParams := some params }, sessionMaxAgeSeconds := 3600,
    sessionMaxStaleAgeSeconds := 600 }

def ssoDatabase (params : SamlParams) : Database :=
  { Database.empty with
    realm := ⟨[ssoRealm params], by simp⟩
    userpassRealm := by simp [Database.empty]
    membershipRealm := by simp [Database.empty] }

theorem saml_return_urls_safe_iff_acceptedParams :
    (∃ text, Saml.resolveReturnUrl idpCrates acceptedParams (some "https://app.example/x") =
        .ok text) ↔ Saml.SafeReturnUrl idpCrates acceptedParams "https://app.example/x" := by
  have hmem : ssoRealm acceptedParams ∈ (ssoDatabase acceptedParams).realm := List.mem_singleton_self _
  refine (Sso.saml_return_urls_safe_iff (τ := Int) idpCrates readsUrls (ssoDatabase acceptedParams)
    ?_).2 _ hmem acceptedParams rfl _
  intro realm hrealm params hparams
  obtain rfl := List.mem_singleton.mp hrealm
  cases hparams
  exact ⟨0, submittedParams, validate_submittedParams⟩

/-- A default with a user name is accepted, and a login without `return_to` begins with it. -/
theorem default_return_url_with_user :
    let withUser (params : SamlParams) : SamlParams :=
      { params with defaultReturnUrl := "https://evil@app.example/start" }
    Saml.validateSamlParams idpCrates 0 (withUser submittedParams) "acme" =
        .ok (withUser acceptedParams) ∧
      Saml.resolveReturnUrl idpCrates (withUser acceptedParams) none =
        .ok "https://evil@app.example/start" ∧
      ¬ Saml.SafeReturnUrl idpCrates (withUser acceptedParams) "https://evil@app.example/start" := by
  refine ⟨by decide, rfl, ?_⟩
  rintro ⟨url, hurl, -, huser, -⟩
  have hparsed : parseHttpsUrl "https://evil@app.example/start" =
      .ok (httpsUrl "evil".toList "app.example".toList "/start".toList) := by decide
  cases hparsed.symm.trans hurl
  revert huser
  decide

end Transparent
end AuthVerifier
