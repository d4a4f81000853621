import AuthVerifier.AdminUi
import AuthVerifier.Server
import AuthVerifier.SignInHeader

/-!
Signing in and out of the administration page, following `AuthContext.tsx`: a browser with any
number of tabs, its cookie, and the server behind them. A request is handled when it is sent; what
a tab does with the answers to its sign-in and to its first check comes later.
-/

set_option autoImplicit false

namespace AuthVerifier
open Effects Relational

namespace AdminUi

/-- `AuthState`, the instant its timer is set to in milliseconds, the answer to the check on mount
while that is on its way, and the answers that `login` has had to its first request. -/
structure Page where
  isAuthenticated : Bool
  username : Option String
  sessionId : Option String
  exp : Option Int
  timer : Option Int
  checking : Option (Option Answer)
  signingIn : List (String × Option String)

namespace Page

def mounted : Page :=
  { isAuthenticated := false, username := none, sessionId := none, exp := none, timer := none,
    checking := none, signingIn := [] }

def initialState (p : Page) : Page :=
  { p with isAuthenticated := false, username := none, sessionId := none, exp := none }

def maxTimeoutMs : Int := 0x7fffffff

/-- A claim that is missing gives no number to compare or to wait for: the timer fires at once. -/
def scheduleExpiry (p : Page) (clock : Int) (exp : Option Int) : Page :=
  match exp with
  | none => { p with timer := some clock }
  | some exp =>
    let msUntilExpiry := exp * 1000 - clock
    if msUntilExpiry ≤ 0 then { p with timer := none }.initialState
    else { p with timer := some (clock + min msUntilExpiry maxTimeoutMs) }

def authenticated (p : Page) (clock : Int) (username sessionId : Option String)
    (exp : Option Int) : Page :=
  { p with isAuthenticated := true, username := username, sessionId := sessionId,
           exp := exp }.scheduleExpiry clock exp

end Page

/-- The body of an answer with `res.ok`. -/
def okBody : Answer → Option Body
  | .ok response =>
    if 200 ≤ response.status ∧ response.status < 300 then some response.body else none
  | .error _ => none

namespace Page

/-- `checkSession`, once its `fetch` is settled; it is nothing where that throws. -/
def checkSession (p : Page) (clock : Int) (res : Option Answer) : Page :=
  match res.bind okBody with
  | some (.claims claims) =>
    p.authenticated clock claims.registered.sub none claims.registered.exp
  | _ => p.initialState

/-- `login` after the answer to its first request. -/
def loginAnswered (p : Page) (username : String) (res : Option Answer) : Page :=
  match res.bind okBody with
  | some (.authentication sessionId .authenticated) =>
    { p with signingIn := p.signingIn ++ [(username, sessionId)] }
  | _ => p

def loginConfirmed (p : Page) (clock : Int) (username : String) (sessionId : Option String)
    (res : Option Answer) : Page :=
  match res with
  | none => p
  | some answer => match okBody answer with
    | none => p.authenticated clock (some username) sessionId (some (clock / 1000 + 3600))
    | some (.claims claims) =>
      p.authenticated clock claims.registered.sub sessionId claims.registered.exp
    | some _ => p

end Page

inductive Delivery where
  | answered
  | answerLost
  | requestLost
  deriving DecidableEq

structure World where
  server : ServerState
  cookie : Option String
  tabs : Nat → Page

inductive Event where
  | load (tab : Nat) (m : Moment) (d : Delivery)
  | checked (tab : Nat) (clock : Int)
  | login (tab : Nat) (m : Moment) (username password : String) (totpCode : Option String)
      (d : Delivery)
  | confirmed (tab : Nat) (clock : Int) (m : Moment) (n : Nat) (d : Delivery)
  | logout (tab : Nat) (m : Moment) (d : Delivery)
  | timer (tab : Nat) (clock : Int)
  -- any other request of the browser, a sign-in through SAML among them
  | request (call : AuthVerifier.Call) (d : Delivery)
  | elsewhere (call : AuthVerifier.Call)
  | dropCookie

/-- The text of the `Authorization` header. -/
def authorizationHeader (username password : String) : Option String :=
  (btoa (username.toList ++ ':' :: password.toList)).map
    fun encoded => String.ofList ("Basic ".toList ++ encoded)

def World.setTab (w : World) (tab : Nat) (p : Page) : World :=
  { w with tabs := Function.update w.tabs tab p }

section
variable (X : Externals) (params : ServerParams)

def keepCookie (cookie : Option String) : Answer → Option String
  | .ok response => match response.setCookie with
    | none => cookie
    | some text => match X.cookieFromStr text with
      | .ok value => some value
      | .error _ => cookie
  | .error _ => cookie

/-- `fetch` with the credentials included; there is no answer where it throws. -/
def World.fetch (w : World) (d : Delivery) (call : AuthVerifier.Call) : World × Option Answer :=
  match d with
  | .requestLost => (w, none)
  | .answerLost => ({ w with server := (handle X params w.server call).1 }, none)
  | .answered =>
    let out := handle X params w.server call
    ({ w with server := out.1, cookie := keepCookie X w.cookie out.2 }, some out.2)

def World.whoami (w : World) (m : Moment) (d : Delivery) : World × Option Answer :=
  w.fetch X params d ⟨m, .whoami "realm=_" w.cookie⟩

/-- The first request of `login`; `btoa` throws before it is sent. -/
def World.loginRequest (w : World) (m : Moment) (username password : String)
    (totpCode : Option String) (d : Delivery) : World × Option Answer :=
  match authorizationHeader username password with
  | none => (w, none)
  | some header =>
    w.fetch X params d ⟨m, .login "realm=_" (some header) { totpCode := totpCode }⟩

/-- The request of `logout`, which is left out without a session id, or with an empty one. -/
def World.logoutRequest (w : World) (sessionId : Option String) (m : Moment) (d : Delivery) :
    World :=
  match sessionId with
  | none => w
  | some id =>
    if id = "" then w
    else (w.fetch X params d ⟨m, .sessions "" w.cookie (.deleteSessions [id])⟩).1

def World.step (w : World) : Event → World
  | .load tab m d =>
    let out := w.whoami X params m d
    out.1.setTab tab { Page.mounted with checking := some out.2 }
  | .checked tab clock => match (w.tabs tab).checking with
    | none => w
    | some res => w.setTab tab ({ w.tabs tab with checking := none }.checkSession clock res)
  | .login tab m username password totpCode d =>
    let out := w.loginRequest X params m username password totpCode d
    out.1.setTab tab ((w.tabs tab).loginAnswered username out.2)
  | .confirmed tab clock m n d => match (w.tabs tab).signingIn[n]? with
    | none => w
    | some (username, sessionId) =>
      let out := w.whoami X params m d
      out.1.setTab tab ({ w.tabs tab with
        signingIn := (w.tabs tab).signingIn.eraseIdx n }.loginConfirmed clock username sessionId
          out.2)
  | .logout tab m d =>
    (w.logoutRequest X params (w.tabs tab).sessionId m d).setTab tab
      { w.tabs tab with timer := none }.initialState
  | .timer tab clock => match (w.tabs tab).timer with
    | none => w
    | some t =>
      if t ≤ clock then w.setTab tab { w.tabs tab with timer := none }.initialState else w
  | .request call d => (w.fetch X params d call).1
  | .elsewhere call => { w with server := (handle X params w.server call).1 }
  | .dropCookie => { w with cookie := none }

end

def World.opened (server : ServerState) (cookie : Option String) : World :=
  { server := server, cookie := cookie, tabs := fun _ => .mounted }

namespace Page
variable {p : Page} {clock : Int} {id : String}

def Knows (p : Page) (id : String) : Prop :=
  p.sessionId = some id ∨ ∃ username, (username, some id) ∈ p.signingIn

theorem not_knows_mounted (checking : Option (Option Answer)) :
    ¬ { mounted with checking := checking }.Knows id := by
  simp [Knows, mounted]

theorem Knows.of_initialState (h : p.initialState.Knows id) : p.Knows id := by
  rcases h with h | h
  · cases h
  · exact .inr h

theorem Knows.of_scheduleExpiry {exp : Option Int} (h : (p.scheduleExpiry clock exp).Knows id) :
    p.Knows id := by
  unfold scheduleExpiry at h
  split at h
  · exact h
  · dsimp only at h
    split at h
    · exact h.of_initialState
    · exact h

theorem Knows.of_authenticated {username sessionId : Option String} {exp : Option Int}
    (h : (p.authenticated clock username sessionId exp).Knows id) :
    sessionId = some id ∨ ∃ username, (username, some id) ∈ p.signingIn :=
  h.of_scheduleExpiry

theorem Knows.of_checkSession {res : Option Answer} (h : (p.checkSession clock res).Knows id) :
    p.Knows id := by
  unfold checkSession at h
  split at h
  · rcases h.of_authenticated with h | h
    · cases h
    · exact .inr h
  · exact h.of_initialState

theorem Knows.of_loginAnswered {username : String} {res : Option Answer}
    (h : (p.loginAnswered username res).Knows id) :
    p.Knows id ∨ res.bind okBody = some (.authentication (some id) .authenticated) := by
  unfold loginAnswered at h
  split at h
  · rename_i sessionId hres
    rcases h with h | ⟨name, hmem⟩
    · exact .inl (.inl h)
    · rcases List.mem_append.mp hmem with hmem | hmem
      · exact .inl (.inr ⟨name, hmem⟩)
      · obtain ⟨-, rfl⟩ := Prod.mk.inj (List.mem_singleton.mp hmem)
        exact .inr hres
  · exact .inl h

theorem Knows.of_loginConfirmed {username : String} {sessionId : Option String}
    {res : Option Answer} (h : (p.loginConfirmed clock username sessionId res).Knows id) :
    p.Knows id ∨ sessionId = some id := by
  have hauthenticated : ∀ {name : Option String} {exp : Option Int},
      (p.authenticated clock name sessionId exp).Knows id → p.Knows id ∨ sessionId = some id :=
    fun h => h.of_authenticated.symm.imp_left .inr
  unfold loginConfirmed at h
  split at h
  · exact .inl h
  · split at h
    · exact hauthenticated h
    · exact hauthenticated h
    · exact .inl h

theorem Knows.of_confirmed {username : String} {sessionId : Option String} {n : Nat}
    {res : Option Answer} (hn : p.signingIn[n]? = some (username, sessionId))
    (h : ({ p with signingIn := p.signingIn.eraseIdx n }.loginConfirmed clock username sessionId
      res).Knows id) : p.Knows id := by
  rcases h.of_loginConfirmed with (h | ⟨name, hmem⟩) | rfl
  · exact .inl h
  · exact .inr ⟨name, List.mem_of_mem_eraseIdx hmem⟩
  · exact .inr ⟨username, List.mem_of_getElem? hn⟩

end Page

def Event.loads (tab : Nat) : Event → Prop
  | .load tab' _ _ => tab' = tab
  | _ => False

section
variable (X : Externals) (params : ServerParams)

/-- The event is a sign-in of the tab, and its answer brings the session id. -/
def LogsIn (w : World) (tab : Nat) (id : String) (e : Event) : Prop :=
  ∃ m username password totpCode header,
    e = .login tab m username password totpCode .answered ∧
    authorizationHeader username password = some header ∧
    okBody (handle X params w.server
      ⟨m, .login "realm=_" (some header) { totpCode := totpCode }⟩).2 =
        some (.authentication (some id) .authenticated)

/-- Since it was last mounted the tab has signed in and has been given the id. -/
def SignedInHere (start : World) (tab : Nat) (id : String) (es : List Event) : Prop :=
  ∃ pre e post, es = pre ++ e :: post ∧
    LogsIn X params (Transition.run (World.step X params) start pre) tab id e ∧
    ∀ e' ∈ post, ¬ e'.loads tab

end

section
variable {X : Externals} {params : ServerParams} {w : World} {tab : Nat} {id : String}

@[simp] theorem tabs_fetch (d : Delivery) (call : AuthVerifier.Call) :
    (w.fetch X params d call).1.tabs = w.tabs := by
  cases d <;> rfl

@[simp] theorem tabs_whoami (m : Moment) (d : Delivery) :
    (w.whoami X params m d).1.tabs = w.tabs := tabs_fetch _ _

@[simp] theorem tabs_logoutRequest (sessionId : Option String) (m : Moment) (d : Delivery) :
    (w.logoutRequest X params sessionId m d).tabs = w.tabs := by
  unfold World.logoutRequest
  split
  · rfl
  · split
    · rfl
    · exact tabs_fetch _ _

@[simp] theorem tabs_loginRequest (m : Moment) (username password : String)
    (totpCode : Option String) (d : Delivery) :
    (w.loginRequest X params m username password totpCode d).1.tabs = w.tabs := by
  unfold World.loginRequest
  split
  · rfl
  · exact tabs_fetch _ _

theorem setTab_self (p : Page) : (w.setTab tab p).tabs tab = p := Function.update_self _ _ _

theorem setTab_of_ne {tab' : Nat} (p : Page) (h : tab ≠ tab') :
    (w.setTab tab' p).tabs tab = w.tabs tab := Function.update_of_ne h _ _

theorem logsIn_of_loginRequest {m : Moment} {username password : String}
    {totpCode : Option String} {d : Delivery}
    (h : (w.loginRequest X params m username password totpCode d).2.bind okBody =
      some (.authentication (some id) .authenticated)) :
    LogsIn X params w tab id (.login tab m username password totpCode d) := by
  unfold World.loginRequest at h
  split at h
  · cases h
  · rename_i header hheader
    cases d with
    | answered => exact ⟨m, username, password, totpCode, header, rfl, hheader, h⟩
    | answerLost => cases h
    | requestLost => cases h

theorem knows_step (e : Event) (h : ((w.step X params e).tabs tab).Knows id) :
    ((w.tabs tab).Knows id ∧ ¬ e.loads tab) ∨ LogsIn X params w tab id e := by
  cases e with
  | load tab' m d =>
    simp only [World.step] at h
    by_cases htab : tab = tab'
    · rw [htab, setTab_self] at h
      exact absurd h (Page.not_knows_mounted _)
    · rw [setTab_of_ne _ htab, tabs_whoami] at h
      exact .inl ⟨h, Ne.symm htab⟩
  | checked tab' clock =>
    refine .inl ⟨?_, not_false⟩
    simp only [World.step] at h
    split at h
    · exact h
    · by_cases htab : tab = tab'
      · rw [← htab, setTab_self] at h
        exact h.of_checkSession
      · rwa [setTab_of_ne _ htab] at h
  | login tab' m username password totpCode d =>
    simp only [World.step] at h
    by_cases htab : tab = tab'
    · rw [← htab, setTab_self] at h
      rcases h.of_loginAnswered with h | h
      · exact .inl ⟨h, not_false⟩
      · exact .inr (htab ▸ logsIn_of_loginRequest h)
    · rw [setTab_of_ne _ htab, tabs_loginRequest] at h
      exact .inl ⟨h, not_false⟩
  | confirmed tab' clock m n d =>
    refine .inl ⟨?_, not_false⟩
    simp only [World.step] at h
    split at h
    · exact h
    · rename_i username sessionId hn
      by_cases htab : tab = tab'
      · rw [← htab, setTab_self] at h
        exact h.of_confirmed (htab ▸ hn)
      · rwa [setTab_of_ne _ htab, tabs_whoami] at h
  | logout tab' m d =>
    refine .inl ⟨?_, not_false⟩
    simp only [World.step] at h
    by_cases htab : tab = tab'
    · rw [← htab, setTab_self] at h
      exact h.of_initialState
    · rwa [setTab_of_ne _ htab, tabs_logoutRequest] at h
  | timer tab' clock =>
    refine .inl ⟨?_, not_false⟩
    simp only [World.step] at h
    split at h
    · exact h
    · split at h
      · by_cases htab : tab = tab'
        · rw [← htab, setTab_self] at h
          exact h.of_initialState
        · rwa [setTab_of_ne _ htab] at h
      · exact h
  | request call d =>
    simp only [World.step, tabs_fetch] at h
    exact .inl ⟨h, not_false⟩
  | elsewhere call => exact .inl ⟨h, not_false⟩
  | dropCookie => exact .inl ⟨h, not_false⟩

theorem signedInHere_of_knows (server : ServerState) (cookie : Option String) (es : List Event)
    (h : ((Transition.run (World.step X params) (.opened server cookie) es).tabs tab).Knows id) :
    SignedInHere X params (.opened server cookie) tab id es := by
  induction es using List.reverseRecOn with
  | nil => exact absurd h (Page.not_knows_mounted none)
  | append_singleton es e ih =>
    rw [Transition.run_append] at h
    rcases knows_step e h with ⟨hbefore, hloads⟩ | hlogs
    · obtain ⟨pre, e', post, hes, hlogs, hpost⟩ := ih hbefore
      refine ⟨pre, e', post ++ [e], by rw [hes, List.append_assoc, List.cons_append], hlogs, ?_⟩
      intro x hx
      rcases List.mem_append.mp hx with hx | hx
      · exact hpost x hx
      · rwa [List.mem_singleton.mp hx]
    · exact ⟨es, e, [], rfl, hlogs, by simp⟩

theorem mem_keys_deleteSessions {sessions : Sessions} {ids : List String} {k : String} :
    k ∈ (SessionStore.deleteSessions sessions ids).keys ↔ k ∈ sessions.keys ∧ k ∉ ids := by
  simp only [SessionStore.deleteSessions, Table.mem_keys, Table.mem_deleteWhere,
    List.contains_eq_mem, decide_eq_false_iff_not]
  constructor
  · rintro ⟨r, ⟨hr, hids⟩, rfl⟩
    exact ⟨⟨r, hr, rfl⟩, hids⟩
  · rintro ⟨⟨r, hr, rfl⟩, hids⟩
    exact ⟨r, ⟨hr, hids⟩, rfl⟩

theorem keys_handle_deleteSessions {s : ServerState} {m : Moment} {cookie : Option String}
    {claims : ClientClaims} {ids : List String} {k : String}
    (hopen : (cookieAuth X s.sessions m cookie).result = .ok claims) :
    k ∈ (handle X params s ⟨m, .sessions "" cookie (.deleteSessions ids)⟩).1.sessions.keys ↔
      k ∈ s.sessions.keys ∧ k ∉ ids := by
  have hrealm : extractRealm s.db "" = .ok none := rfl
  simp only [handle, hrealm, withRealm, withSession, hopen, handleSessionsCall, handleSessions]
  exact mem_keys_deleteSessions.trans (by rw [cookieAuth_keys hopen])

theorem server_fetch (d : Delivery) (call : AuthVerifier.Call) :
    (w.fetch X params d call).1.server =
      if d = .requestLost then w.server else (handle X params w.server call).1 := by
  cases d <;> rfl

theorem keys_logout {m : Moment} {claims : ClientClaims} {d : Delivery} {k : String}
    (hopen : (cookieAuth X w.server.sessions m w.cookie).result = .ok claims) :
    k ∈ (w.step X params (.logout tab m d)).server.sessions.keys ↔
      k ∈ w.server.sessions.keys ∧
        ¬ (d ≠ .requestLost ∧ k ≠ "" ∧ (w.tabs tab).sessionId = some k) := by
  simp only [World.step, World.setTab]
  unfold World.logoutRequest
  split
  · rename_i hnone
    simp [hnone]
  · rename_i id hsome
    rw [hsome, Option.some_inj]
    split
    · rename_i hempty
      have hkey : ¬ (d ≠ .requestLost ∧ k ≠ "" ∧ id = k) := fun h => h.2.1 (h.2.2 ▸ hempty)
      simp only [hkey, not_false_eq_true, and_true]
    · rename_i hempty
      rw [server_fetch]
      split
      · rename_i hlost
        simp [hlost]
      · rename_i hsent
        rw [keys_handle_deleteSessions hopen, List.mem_singleton]
        refine and_congr_right fun _ => not_congr ⟨?_, fun h => h.2.2.symm⟩
        rintro rfl
        exact ⟨hsent, hempty, rfl⟩

/-- Signing out closes the session of the browser's cookie exactly if the request gets through and
the tab has the id of that session, and a tab has only the ids that its own sign-ins have brought
since it was last mounted. -/
theorem logout_closes_iff (server : ServerState) (cookie : Option String) (es : List Event)
    (tab : Nat) (m : Moment) (d : Delivery) {v : String} {claims : ClientClaims}
    (hcookie : (Transition.run (World.step X params) (.opened server cookie) es).cookie = some v)
    (hopen : (cookieAuth X
      (Transition.run (World.step X params) (.opened server cookie) es).server.sessions m
        (some v)).result = .ok claims) :
    let w := Transition.run (World.step X params) (.opened server cookie) es
    let id := sessionIdFromCookieValue X v
    (id ∉ (w.step X params (.logout tab m d)).server.sessions.keys ↔
      d ≠ .requestLost ∧ id ≠ "" ∧ (w.tabs tab).sessionId = some id) ∧
    ((w.tabs tab).sessionId = some id →
      SignedInHere X params (.opened server cookie) tab id es) := by
  intro w id
  have hkey : id ∈ w.server.sessions.keys := by
    obtain ⟨value, token, r, hr, hvalue, hid, -⟩ := cookieAuth_ok hopen
    cases hvalue
    exact Table.mem_keys.mpr ⟨r, hr, hid⟩
  constructor
  · rw [keys_logout (hcookie ▸ hopen)]
    simp only [hkey, true_and, not_not]
  · exact fun h => signedInHere_of_knows server cookie es (.inl h)

end

section Transparent
open AuthVerifier.Transparent

def signIn : List Event :=
  [.login 0 (moment 1000) "admin" "change_me" none .answered,
    .confirmed 0 1000500 (moment 1001) 0 .answered]

def reload : List Event := [.load 0 (moment 1010) .answered, .checked 0 1010500]

def rootClaims : ClientClaims := issuedClaims 1000 "admin" .usernamePassword "_" [] [] 3600

/-- The tab that has signed in signs out; after a reload it only seems to. -/
theorem logout_closes_iff_reload :
    sessionIdFromCookieValue externals rootCookie ∉
      (World.step externals params
        (Transition.run (World.step externals params) (.opened start none) signIn)
        (.logout 0 (moment 1020) .answered)).server.sessions.keys ∧
    ¬ sessionIdFromCookieValue externals rootCookie ∉
      (World.step externals params
        (Transition.run (World.step externals params) (.opened start none) (signIn ++ reload))
        (.logout 0 (moment 1020) .answered)).server.sessions.keys := by
  have hsigned :
      (Transition.run (World.step externals params) (.opened start none) signIn).cookie =
        some rootCookie ∧
      (cookieAuth externals (Transition.run (World.step externals params) (.opened start none)
        signIn).server.sessions (moment 1020) (some rootCookie)).result = .ok rootClaims ∧
      ((Transition.run (World.step externals params) (.opened start none) signIn).tabs 0).sessionId =
        some (sessionIdFromCookieValue externals rootCookie) := by decide
  have hreloaded :
      (Transition.run (World.step externals params) (.opened start none)
        (signIn ++ reload)).cookie = some rootCookie ∧
      (cookieAuth externals (Transition.run (World.step externals params) (.opened start none)
        (signIn ++ reload)).server.sessions (moment 1020) (some rootCookie)).result =
          .ok rootClaims ∧
      ((Transition.run (World.step externals params) (.opened start none)
        (signIn ++ reload)).tabs 0).sessionId = none := by decide
  have hclosed := (logout_closes_iff start none signIn 0 (moment 1020) .answered hsigned.1
    hsigned.2.1).1
  have hkept := (logout_closes_iff start none (signIn ++ reload) 0 (moment 1020) .answered
    hreloaded.1 hreloaded.2.1).1
  constructor
  · exact hclosed.mpr ⟨by decide, by decide, hsigned.2.2⟩
  · intro hgone
    cases hreloaded.2.2.symm.trans (hkept.mp hgone).2.2

end Transparent

end AdminUi
end AuthVerifier
