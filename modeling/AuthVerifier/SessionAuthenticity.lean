import AuthVerifier.Server
import AuthVerifier.Transparent

/-!
Whether a stored session tells the truth. Three writers fill the store: the login, the assertion
consumer and `POST /sessions`. The first two write what they verified; the third writes its body,
so the sessions are authentic as long as every body it stores repeats an issued session.
-/

set_option autoImplicit false

namespace AuthVerifier
open Transition

section
variable (X : Externals) (params : ServerParams)

def SameIdentity (r : SessionRow) (claims : ClientClaims) : Prop :=
  claims.registered.sub = some r.username ∧ claims.privateClaims.realmId = some r.realmId ∧
    claims.privateClaims.authScheme.map AuthScheme.json = some r.authScheme

/-- The identity authenticated in its realm at some step of the history. -/
def Authenticated (tr : List (ServerState × Call)) (realmId username authScheme : String) : Prop :=
  ∃ x ∈ tr, ∃ token realm client, Issues X params x.1 x.2.moment token realm client x.2.request ∧
    realm.id = realmId ∧ client.username = username ∧ client.authScheme.json = authScheme

/-- The row names an identity that authenticated, its cookie holds a token signed for that same
identity, and its id is the digest of the token. -/
def Authentic (tr : List (ServerState × Call)) (r : SessionRow) : Prop :=
  Authenticated X params tr r.realmId r.username r.authScheme ∧
  ∃ token, X.cookieFromStr r.cookieString = .ok token ∧
    r.sessionId = sessionIdFromCookieValue X token ∧
    (∃ nonce claims, X.signSession nonce claims = .ok token ∧ SameIdentity r claims) ∧
    ∀ claims, X.verifySession token = .ok claims → SameIdentity r claims

/-- `POST /sessions` is refused, or its body repeats the session of an earlier login or assertion:
the realm and the client of that step, and the token it signed with the id of that token. -/
def RepeatsIssued (tr : List (ServerState × Call)) (s : ServerState) (c : Call) : Prop :=
  ∀ query cookie body, c.request = .sessions query cookie (.upsertSession body) →
    Stores X s c.moment query cookie body →
    ∃ x ∈ tr, ∃ token realm,
      Issues X params x.1 x.2.moment token realm body.authenticatedClient x.2.request ∧
      body.realm.id = realm.id ∧ X.cookieFromStr body.sessionValue = .ok token ∧
      body.sessionId = sessionIdFromCookieValue X token

end

section
variable {X : Externals} {params : ServerParams} {tr : List (ServerState × Call)}

theorem authentic_of_issues (htoken : TokensAuthentic X) {x : ServerState × Call} (hx : x ∈ tr)
    {token : String} {realm : Realm} {client : AuthenticatedClientScheme}
    (hsig : Issues X params x.1 x.2.moment token realm client x.2.request) {r : SessionRow}
    (hparse : X.cookieFromStr r.cookieString = .ok token)
    (hid : r.sessionId = sessionIdFromCookieValue X token) (hrealm : r.realmId = realm.id)
    (huser : r.username = client.username) (hscheme : r.authScheme = client.authScheme.json) :
    Authentic X params tr r := by
  obtain ⟨claims, hsign, hsub, hs, hr⟩ := hsig.signed
  have hsame : SameIdentity r claims := by
    refine ⟨?_, ?_, ?_⟩
    · rw [hsub, huser]
    · rw [hr, hrealm]
    · rw [hs, hscheme]
      rfl
  refine ⟨⟨x, hx, token, realm, client, hsig, hrealm.symm, huser.symm, hscheme.symm⟩, token, hparse,
    hid, ⟨_, claims, hsign, hsame⟩, ?_⟩
  intro claims' hverify
  obtain ⟨hsub', hs', hr'⟩ := htoken.identity hsign hverify
  unfold SameIdentity
  rw [hsub', hs', hr']
  exact hsame

theorem Authentic.same {r r' : SessionRow} (h : Authentic X params tr r)
    (hs : SessionStore.SameSession r r') : Authentic X params tr r' := by
  unfold SessionStore.SameSession at hs
  rw [hs]
  exact h

theorem Authentic.extend {r : SessionRow} (h : Authentic X params tr r) (x : ServerState × Call) :
    Authentic X params (tr ++ [x]) r := by
  obtain ⟨⟨y, hy, hrest⟩, htoken⟩ := h
  exact ⟨⟨y, List.mem_append_left _ hy, hrest⟩, htoken⟩

theorem step_authentic (htoken : TokensAuthentic X) (hcookie : CookiesRoundTrip X)
    {s : ServerState} {c : Call} (h : ∀ r ∈ s.sessions, Authentic X params tr r)
    (hc : RepeatsIssued X params tr s c) :
    ∀ r ∈ (step X params s c).sessions, Authentic X params (tr ++ [(s, c)]) r := by
  intro r hr
  rcases mem_step_sessions hr with ⟨old, hold, hsame⟩ | ⟨token, realm, client, hsig, rfl⟩ |
    ⟨query, cookie, body, hreq, hstores, rfl⟩
  · exact ((h old hold).same hsame).extend (s, c)
  · obtain ⟨_, hsign, _⟩ := hsig.signed
    exact authentic_of_issues htoken (x := (s, c)) (by simp) hsig
      (hcookie.parse realm.sessionMaxAgeSeconds params.tlsConfigured hsign) rfl rfl rfl rfl
  · obtain ⟨x, hx, token, realm, hsig, hrealm, hparse, hid⟩ :=
      hc query cookie body hreq hstores
    exact authentic_of_issues htoken (List.mem_append_left _ hx) hsig hparse hid hrealm rfl rfl

/-- From an empty store, and with every accepted `POST /sessions` repeating an issued session, all
sessions are authentic in every state, and so is every identity that `get_session` reports. -/
theorem sessions_authentic (htoken : TokensAuthentic X) (hcookie : CookiesRoundTrip X)
    (start : ServerState) (hstart : start.sessions = Relational.Table.empty) (calls : List Call)
    (hc : Along (step X params) start (RepeatsIssued X params) calls) :
    let tr := trace (step X params) start calls
    let s := run (step X params) start calls
    (∀ r ∈ s.sessions, Authentic X params tr r) ∧
      ∀ now id data, (SessionStore.getSession s.sessions now id).2 = some data →
        Authenticated X params tr data.realmId data.username data.authScheme := by
  have hall := run_invariant (step X params)
    (fun tr s => ∀ r ∈ s.sessions, Authentic X params tr r) (RepeatsIssued X params)
    (by
      intro r hr
      rw [hstart] at hr
      exact absurd hr Relational.Table.mem_empty)
    (fun tr s c h hcond => step_authentic htoken hcookie h hcond) calls hc
  refine ⟨hall, ?_⟩
  intro now id data hget
  obtain ⟨r, hr, _, _, rfl⟩ := SessionStore.getSession_some hget
  exact (hall r hr).1

end

def secondCookie : String := "admin._.up.1001.4601.n"

/-- The session of a second login of root, as `POST /sessions` takes it. -/
def secondSession : UpsertSessionRequest :=
  { sessionId := Transparent.externals.sha256Hex secondCookie
    realm := Database.adminRealmRecord
    authenticatedClient := { username := "admin", authScheme := .usernamePassword }
    sessionValue := Transparent.cookieToString secondCookie 3600 true }

def secondLogin : Call :=
  ⟨Transparent.moment 1001, .login "realm=_" (some "Basic YWRtaW46Y2hhbmdlX21l") {}⟩

/-- Root logs in twice, deletes the second session and puts it back. -/
def putBack : List Call :=
  [Transparent.rootLogin, secondLogin,
   ⟨Transparent.moment 1002,
    .sessions "" (some Transparent.rootCookie) (.deleteSessions [secondSession.sessionId])⟩,
   ⟨Transparent.moment 1003,
    .sessions "" (some Transparent.rootCookie) (.upsertSession secondSession)⟩]

theorem issues_secondLogin :
    Issues Transparent.externals Transparent.params
      (step Transparent.externals Transparent.params Transparent.start Transparent.rootLogin)
      secondLogin.moment secondCookie Database.adminRealmRecord
      ⟨"admin", .usernamePassword⟩ secondLogin.request :=
  .login "realm=_" (some "Basic YWRtaW46Y2hhbmdlX21l") {} [] [] (by decide)
    (by decide) (by decide) (by decide)

theorem putBack_repeatsIssued :
    Along (step Transparent.externals Transparent.params) Transparent.start
      (RepeatsIssued Transparent.externals Transparent.params) putBack := by
  intro pre c post he query cookie body hreq _
  rcases pre with _ | ⟨c₁, _ | ⟨c₂, _ | ⟨c₃, _ | ⟨c₄, pre⟩⟩⟩⟩
  · cases he
    cases hreq
  · cases he
    cases hreq
  · cases he
    cases hreq
  · cases he
    cases hreq
    exact ⟨_, List.mem_cons_of_mem _ List.mem_cons_self, secondCookie, Database.adminRealmRecord,
      issues_secondLogin, rfl, by decide, rfl⟩
  · simp [putBack] at he

theorem sessions_authentic_putBack :
    Authenticated Transparent.externals Transparent.params
      (trace (step Transparent.externals Transparent.params) Transparent.start putBack)
      "_" "admin" "\"up\"" := by
  have h := @sessions_authentic Transparent.externals Transparent.params
    Transparent.tokensAuthentic Transparent.cookiesRoundTrip Transparent.start rfl putBack
    putBack_repeatsIssued
  have hget : (SessionStore.getSession (run (step Transparent.externals Transparent.params)
      Transparent.start putBack).sessions 1004 secondSession.sessionId).2 = some
        { sessionId := secondSession.sessionId
          realmId := "_", username := "admin", authScheme := "\"up\""
          cookieString := Transparent.cookieToString secondCookie 3600 true
          maxStaleAgeSeconds := 3600, maxAgeSeconds := 3600, createdAt := 1003 } := by
    decide
  exact h.2 1004 _ _ hget

def inventedSession : UpsertSessionRequest :=
  { sessionId := "s"
    realm := { id := "r", authParams := {}, sessionMaxAgeSeconds := 3600,
               sessionMaxStaleAgeSeconds := 3600 }
    authenticatedClient := { username := "victim", authScheme := .usernamePassword }
    sessionValue := Transparent.cookieToString Transparent.rootCookie 3600 true }

theorem upsert_stores_invented_identity :
    let calls : List Call := [Transparent.rootLogin, ⟨Transparent.moment 1001,
      .sessions "" (some Transparent.rootCookie) (.upsertSession inventedSession)⟩]
    let step := step Transparent.externals Transparent.params
    ¬ ∀ r ∈ (run step Transparent.start calls).sessions,
      Authentic Transparent.externals Transparent.params
        (trace step Transparent.start calls) r := by
  intro calls step h
  let row := newSession 1001 "s" inventedSession.realm inventedSession.authenticatedClient
    inventedSession.sessionValue
  obtain ⟨hmem, htoken, hclaims⟩ : row ∈ (run step Transparent.start calls).sessions ∧
      Transparent.externals.cookieFromStr row.cookieString = .ok Transparent.rootCookie ∧
      Transparent.externals.verifySession Transparent.rootCookie =
        .ok (issuedClaims 1000 "admin" .usernamePassword "_" [] [] 3600) := by
    decide
  obtain ⟨_, token, hparse, _, _, hverify⟩ := h row hmem
  rw [htoken] at hparse
  cases hparse
  -- the cookie still belongs to the administrator, whatever the row says
  have hsub := (hverify _ hclaims).1
  revert hsub
  decide

end AuthVerifier
