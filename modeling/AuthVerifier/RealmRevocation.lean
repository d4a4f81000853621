import AuthVerifier.AdminIdentity
import AuthVerifier.SessionIsolation

/-!
Sessions of a deleted realm. Deleting a realm takes its row, its credentials and its memberships and
leaves the session store alone, and the cookie middleware never asks for the realm of a session: a
session that is live at the deletion goes on authenticating, and does so in a new realm of the same
id. Nothing authenticates afterwards where every session of the realm had expired by then, since an
expired session is never revived.
-/

set_option autoImplicit false

namespace AuthVerifier
open Effects Relational Transition

def Call.now (c : Call) : Int := c.moment.now

def Request.cookie : Request → Option String
  | .whoami _ cookie | .certify cookie _ | .admin _ cookie _ | .sessions _ cookie _ => cookie
  | .login .. | .samlAcs .. | .collector => none

section
variable (X : Externals) (params : ServerParams)

/-- The session stays in the store through the calls, under its id. -/
inductive Stays : ServerState → List Call → SessionRow → SessionRow → Prop where
  | here (s : ServerState) (r : SessionRow) (hr : r ∈ s.sessions) : Stays s [] r r
  | later (s : ServerState) (c : Call) (cs : List Call) (r r₁ r' : SessionRow)
      (hr : r ∈ s.sessions) (hr₁ : r₁ ∈ (step X params s c).sessions)
      (hid : r₁.sessionId = r.sessionId) (h : Stays (step X params s c) cs r₁ r') :
      Stays s (c :: cs) r r'

def Authenticates (s : ServerState) (c : Call) (r : SessionRow) : Prop :=
  r ∈ s.sessions ∧ ∃ value claims, c.request.cookie = some value ∧
    r.sessionId = sessionIdFromCookieValue X value ∧
    (cookieAuth X s.sessions c.moment (some value)).result = .ok claims

def DeletesRealm (s : ServerState) (c : Call) (realmId : String) : Prop :=
  ∃ query cookie, c.request = .admin query cookie (.deleteRealm realmId) ∧
    (handle X params s c).2 = .ok { status := 204 }

/-- Deletion revokes: after a deletion in the run, no session that the realm had then authenticates
any later request of the run, whatever happens in between. -/
def DeletionRevokes (s : ServerState) (calls : List Call) : Prop :=
  ∀ pre del mid c post realmId, calls = pre ++ del :: (mid ++ c :: post) →
    DeletesRealm X params (run (step X params) s pre) del realmId →
    ∀ r ∈ (run (step X params) s pre).sessions, r.realmId = realmId →
      ∀ r', Stays X params (run (step X params) s pre) (del :: mid) r r' →
        ¬ Authenticates X (run (step X params) s (pre ++ del :: mid)) c r'

def DeletesUnused (s : ServerState) (c : Call) : Prop :=
  ∀ realmId, DeletesRealm X params s c realmId →
    ∀ r ∈ s.sessions, r.realmId = realmId → SessionStore.expired c.now r = true

end

namespace SessionStore

/-- What an operation at that time may make of a row it keeps: an expired one is left alone. -/
def Follows (now : Int) (r r' : SessionRow) : Prop :=
  SameSession r r' ∧ (expired now r = true → r' = r)

theorem Follows.refl (now : Int) (r : SessionRow) : Follows now r r := ⟨rfl, fun _ => rfl⟩

theorem Follows.trans {now : Int} {r r₁ r₂ : SessionRow} (h₁ : Follows now r r₁)
    (h₂ : Follows now r₁ r₂) : Follows now r r₂ := by
  refine ⟨h₁.1.trans h₂.1, fun h => ?_⟩
  have he := h₁.2 h
  subst he
  exact h₂.2 h

/-- Of the rows after an operation, those that were there before follow what they were. -/
def FollowedBy (now : Int) (s s' : Sessions) : Prop :=
  ∀ r ∈ s, ∀ r' ∈ s', r'.sessionId = r.sessionId → Follows now r r'

section
variable {now : Int} {s s' s'' : Sessions}

theorem followedBy_of_kept_or_new (h : ∀ r ∈ s', r ∈ s ∨ r.sessionId ∉ s.keys) :
    FollowedBy now s s' := by
  intro r hr r' hr' hid
  rcases h r' hr' with hold | hnew
  · rw [Table.eq_of_key hold hr hid]
    exact .refl now r
  · exact absurd (Table.key_mem_keys hr) (hid ▸ hnew)

theorem followedBy_of_subset (h : ∀ r ∈ s', r ∈ s) : FollowedBy now s s' :=
  followedBy_of_kept_or_new fun r hr => .inl (h r hr)

theorem FollowedBy.trans (h₁ : FollowedBy now s s') (hkeys : s'.keys = s.keys)
    (h₂ : FollowedBy now s' s'') : FollowedBy now s s'' := by
  intro r hr r'' hr'' hid
  have hk : r.sessionId ∈ s'.keys := hkeys ▸ Table.key_mem_keys hr
  obtain ⟨r₁, hr₁, hid₁⟩ := Table.mem_keys.mp hk
  exact (h₁ r hr r₁ hr₁ hid₁).trans (h₂ r₁ hr₁ r'' hr'' (hid.trans hid₁.symm))

theorem followedBy_getSession (id : String) : FollowedBy now s (getSession s now id).1 := by
  intro r hr r' hr' hid
  by_cases he : r'.sessionId = id
  · subst he
    obtain ⟨live, hlive, hsame, hnot, rfl⟩ := mem_getSession_self hr'
    have hrow : live = r := Table.eq_of_key hlive hr (hsame.trans hid)
    subst hrow
    refine ⟨sameSession_touch now live, fun hexp => ?_⟩
    rw [hnot] at hexp
    cases hexp
  · have hmem := (mem_getSession_of_ne he).mp hr'
    rw [Table.eq_of_key hmem hr hid]
    exact .refl now r

theorem followedBy_upsertSession {id value : String} {realm : Realm}
    {client : AuthenticatedClientScheme} (h : upsertSession s now id realm client value = .ok s') :
    FollowedBy now s s' := by
  obtain ⟨hunused, hmem⟩ := upsertSession_ok h
  refine followedBy_of_kept_or_new fun r hr => ?_
  rcases (hmem r).mp hr with hold | rfl
  · exact .inl hold
  · exact .inr hunused

end

theorem expired_later {now t : Int} {r : SessionRow} (ht : now ≤ t) (h : expired now r = true) :
    expired t r = true := by
  simp only [expired, Bool.or_eq_true, decide_eq_true_eq] at h ⊢
  omega

end SessionStore

section
open SessionStore
variable {X : Externals} {params : ServerParams} {s : ServerState} {m : Moment}

theorem followedBy_cookieAuth (sessions : Sessions) (cookie : Option String) :
    FollowedBy m.now sessions (cookieAuth X sessions m cookie).state := by
  rw [cookieAuth_state]
  cases cookie with
  | none => exact followedBy_of_subset (fun _ h => h)
  | some value => exact followedBy_getSession _

theorem followedBy_handleSessions (now : Int) (sessions : Sessions) (req : SessionsRequest) :
    FollowedBy now sessions (handleSessions now sessions req).state := by
  cases req with
  | upsertSession body =>
    simp only [handleSessions, Endpoints.upsertSession]
    split
    · exact followedBy_of_subset (fun _ h => h)
    · rename_i sessions' hs
      exact followedBy_upsertSession hs
  | getSessionById id => exact followedBy_getSession id
  | getSession id body =>
    intro r hr r' hr' hid
    refine followedBy_getSession id r hr r' ?_ hid
    simp only [handleSessions, Endpoints.getSession] at hr'
    split at hr'
    · rename_i hg
      rw [hg]
      exact hr'
    · rename_i hg
      rw [hg]
      split at hr'
      · exact hr'
      · exact (Table.mem_deleteWhere.mp hr').1
  | getSessionsForClients realm clients => exact followedBy_of_subset (fun _ h => h)
  | deleteSessions ids => exact followedBy_of_subset (fun _ h => (Table.mem_deleteWhere.mp h).1)
  | deleteExpiredSessions =>
    exact followedBy_of_subset (fun _ h => (Table.mem_deleteWhere.mp h).1)
  | deleteSessionsForRealm realm =>
    exact followedBy_of_subset (fun _ h => (Table.mem_deleteWhere.mp h).1)

theorem followedBy_withSession {cookie : Option String}
    {next : ServerState → ClientClaims → ServerState × Answer}
    (h : ∀ s claims, FollowedBy m.now s.sessions (next s claims).1.sessions) :
    FollowedBy m.now s.sessions (withSession X s m cookie next).1.sessions := by
  simp only [withSession]
  split
  · exact followedBy_cookieAuth s.sessions cookie
  · rename_i claims hc
    exact (followedBy_cookieAuth s.sessions cookie).trans (cookieAuth_keys hc)
      (h { s with sessions := (cookieAuth X s.sessions m cookie).state } claims)

theorem step_followedBy (X : Externals) (params : ServerParams) (s : ServerState) (c : Call) :
    FollowedBy c.now s.sessions (step X params s c).sessions := by
  have hsame : FollowedBy c.now s.sessions s.sessions := followedBy_of_subset (fun _ h => h)
  obtain ⟨m, request⟩ := c
  cases request with
  | login query authorization body =>
    simp only [step, handle, handleLogin]
    split
    · exact hsame
    · rename_i realm client hp
      refine followedBy_of_kept_or_new fun r hr => ?_
      rcases mem_login hr with hold | ⟨_, _, _, _, _, -, -, -, -, hunused, rfl⟩
      · exact .inl hold
      · exact .inr hunused
  | samlAcs realmId post =>
    simp only [step, handle, handleSamlAcs]
    split
    · exact hsame
    · refine followedBy_of_kept_or_new fun r hr => ?_
      rcases mem_samlAcs hr with hold | ⟨_, _, _, -, -, hunused, rfl⟩
      · exact .inl hold
      · exact .inr hunused
  | whoami query cookie =>
    simp only [step, handle]
    rcases withRealm_cases with he | he
    · rw [he]
      exact hsame
    · rw [he]
      exact followedBy_withSession fun _ _ => followedBy_of_subset fun _ h => h
  | certify cookie body =>
    simp only [step, handle]
    exact followedBy_withSession fun _ _ => followedBy_of_subset fun _ h => h
  | admin query cookie req =>
    simp only [step, handle]
    rcases withRealm_cases with he | he
    · rw [he]
      exact hsame
    · rw [he]
      refine followedBy_withSession fun s claims => ?_
      simp only [handleAdminCall]
      split <;> exact followedBy_of_subset fun _ h => h
  | sessions query cookie req =>
    simp only [step, handle]
    rcases withRealm_cases with he | he
    · rw [he]
      exact hsame
    · rw [he]
      exact followedBy_withSession fun s _ => followedBy_handleSessions m.now s.sessions req
  | collector => exact followedBy_of_subset fun _ h => (Table.mem_deleteWhere.mp h).1

theorem Stays.expired {r r' : SessionRow} {calls : List Call} {t : Int}
    (h : Stays X params s calls r r') (hexp : expired t r = true)
    (hlater : ∀ c ∈ calls, t ≤ c.now) : r' = r := by
  induction h with
  | here => rfl
  | later s c cs r r₁ r' hr hr₁ hid _ ih =>
    have hnow := expired_later (hlater c List.mem_cons_self) hexp
    have hsame : r₁ = r := (step_followedBy X params s c r hr r₁ hr₁ hid).2 hnow
    subst hsame
    exact ih hexp (fun c' hc' => hlater c' (List.mem_cons_of_mem c hc'))

theorem Authenticates.live {c : Call} {r : SessionRow} (h : Authenticates X s c r) :
    SessionStore.expired c.now r = false := by
  obtain ⟨hr, value, claims, -, hid, hauth⟩ := h
  obtain ⟨value', _, row, hrow, hvalue, hrowid, hlive, -, -⟩ := cookieAuth_ok hauth
  cases hvalue
  rw [← Table.eq_of_key hrow hr (hrowid.trans hid.symm)]
  exact hlive

/-- In every run in which the clock does not go back and realms are deleted only when all their
sessions have expired, deletion revokes: it does so at every deletion of the run, for every later
request, also after the realm has been created again. -/
theorem realm_deletion_revokes (X : Externals) (params : ServerParams) (s : ServerState)
    (calls : List Call) (hclock : Clocked Call.now Call.now calls)
    (hunused : ∀ x ∈ trace (step X params) s calls, DeletesUnused X params x.1 x.2) :
    DeletionRevokes X params s calls := by
  intro pre del mid c post realmId hcalls hdel r hr hrealm r' hstays hauth
  have hmem : (run (step X params) s pre, del) ∈ trace (step X params) s calls :=
    mem_trace_of_split _ pre (mid ++ c :: post) hcalls
  have hexp : expired del.now r = true := hunused _ hmem realmId hdel r hr hrealm
  have hafter : ∀ c' ∈ mid ++ c :: post, del.now ≤ c'.now := by
    rw [hcalls] at hclock
    have hsuffix := (List.pairwise_append.mp hclock).2.1
    exact (List.pairwise_cons.mp hsuffix).1
  have hsame : r' = r := by
    refine hstays.expired hexp fun c' hc' => ?_
    rcases List.mem_cons.mp hc' with rfl | hc'
    · exact Int.le_refl _
    · exact hafter c' (List.mem_append_left _ hc')
  have hlive := hauth.live
  rw [hsame, expired_later (hafter c (by simp)) hexp] at hlive
  cases hlive

/-- What the deletion leaves behind: every session but the one it was asked with is stored as it
was, whichever realm it is of. -/
theorem mem_sessions_of_deletesRealm {c : Call} {realmId value : String} {r : SessionRow}
    (h : DeletesRealm X params s c realmId) (hcookie : c.request.cookie = some value)
    (hr : r ∈ s.sessions) (hother : r.sessionId ≠ sessionIdFromCookieValue X value) :
    r ∈ (step X params s c).sessions := by
  obtain ⟨query, cookie, hreq, -⟩ := h
  obtain ⟨m, request⟩ := c
  dsimp only at hreq
  subst hreq
  have hvalue : cookie = some value := hcookie
  subst hvalue
  have hkept : r ∈ (cookieAuth X s.sessions m (some value)).state := by
    rw [cookieAuth_state]
    exact (mem_getSession_of_ne hother).mpr hr
  simp only [step, handle]
  rcases withRealm_cases with he | he
  · rw [he]
    exact hr
  · rw [he]
    simp only [withSession]
    split
    · exact hkept
    · simp only [handleAdminCall]
      split <;> exact hkept

end

namespace Transparent

def aliceCookie : String := "alice.r.up.1003.4603.n"

/-- The realm of `aliceRun`, created once more. -/
def recreateRealm : AdminRequest :=
  .createRealm { id := "r", authParams := { usernamePasswordParams := some ⟨true⟩ },
                 sessionMaxAgeSeconds := 3600, sessionMaxStaleAgeSeconds := 3600 }

def deleteCall : Call := asRoot 1004 (.deleteRealm "r")
def recreateCall : Call := asRoot 1005 recreateRealm

def askWho : Call := ⟨moment 1006, .whoami "realm=r" (some aliceCookie)⟩

/-- The server once `alice` has logged in. -/
def aliceServer : ServerState := run (step externals params) start aliceRun

/-- Root deletes the realm of `alice` and creates it anew, then `alice` asks who she is. -/
def deletedRealmRun : List Call :=
  aliceRun ++ deleteCall :: ([recreateCall] ++ askWho :: [])

def aliceSession : SessionRow :=
  { sessionId := externals.sha256Hex aliceCookie, realmId := "r", username := "alice"
    authScheme := "\"up\"", cookieString := Transparent.cookieToString aliceCookie 3600 true
    staleAt := 4603, maxStaleAgeSeconds := 3600, maxAgeSeconds := 3600, createdAt := 1003 }

theorem deletedRealmRun_facts :
    (handle externals params aliceServer deleteCall).2 = .ok { status := 204 } ∧
    aliceSession ∈ aliceServer.sessions ∧
    aliceSession ∈ (step externals params aliceServer deleteCall).sessions ∧
    aliceSession ∈ (step externals params (step externals params aliceServer deleteCall)
      recreateCall).sessions ∧
    (cookieAuth externals (step externals params (step externals params aliceServer deleteCall)
      recreateCall).sessions (moment 1006) (some aliceCookie)).result = .ok aliceClaims := by
  decide

/-- Her session, of the realm that was deleted, authenticates her in the realm that replaced it. -/
theorem recreated_realm_accepts_old_session :
    ¬ DeletionRevokes externals params start deletedRealmRun := by
  intro h
  have hfacts := deletedRealmRun_facts
  unfold aliceServer at hfacts
  obtain ⟨hanswer, hrow, hafter, hagain, hcookie⟩ := hfacts
  have hdelete : DeletesRealm externals params (run (step externals params) start aliceRun)
      deleteCall "r" := ⟨"", some rootCookie, rfl, hanswer⟩
  have hstays : Stays externals params (run (step externals params) start aliceRun)
      (deleteCall :: [recreateCall]) aliceSession aliceSession :=
    .later _ _ _ _ _ _ hrow hafter rfl
      (.later _ _ _ _ _ _ hafter hagain rfl (.here _ _ hagain))
  have hpair : ∀ s i j, run (step externals params) s [i, j] =
      step externals params (step externals params s i) j := fun _ _ _ => rfl
  have hauth : Authenticates externals
      (run (step externals params) start (aliceRun ++ deleteCall :: [recreateCall]))
      askWho aliceSession := by
    rw [run_append, hpair]
    exact ⟨hagain, aliceCookie, aliceClaims, rfl, rfl, hcookie⟩
  exact h aliceRun deleteCall [recreateCall] askWho [] "r" rfl hdelete aliceSession hrow rfl
    aliceSession hstays hauth

def rootCookieLater : String := "admin._.up.5000.8600.n"

/-- Root comes back when the session of `alice` has expired, and only then deletes the realm. -/
def expiredRealmRun : List Call :=
  aliceRun ++
  [⟨moment 5000, .login "realm=_" (some "Basic YWRtaW46Y2hhbmdlX21l") {}⟩,
   ⟨moment 5001, .admin "" (some rootCookieLater) (.deleteRealm "r")⟩,
   ⟨moment 5002, .admin "" (some rootCookieLater) recreateRealm⟩,
   ⟨moment 5003, .whoami "realm=r" (some aliceCookie)⟩]

set_option maxRecDepth 2000 in
/-- The session of `alice` is still stored when the realm goes, and authenticates nothing. -/
theorem realm_deletion_revokes_expired :
    DeletionRevokes externals params start expiredRealmRun ∧
      aliceSession ∈ (run (step externals params) start (expiredRealmRun.take 5)).sessions ∧
      (handle externals params (run (step externals params) start (expiredRealmRun.take 5))
        ⟨moment 5001, .admin "" (some rootCookieLater) (.deleteRealm "r")⟩).2 =
          .ok { status := 204 } := by
  have hlater : aliceSession ∈
      (run (step externals params) start (expiredRealmRun.take 5)).sessions ∧
      (handle externals params (run (step externals params) start (expiredRealmRun.take 5))
        ⟨moment 5001, .admin "" (some rootCookieLater) (.deleteRealm "r")⟩).2 =
          .ok { status := 204 } := by
    decide
  refine ⟨realm_deletion_revokes externals params start expiredRealmRun (by decide) ?_, hlater⟩
  rintro x hx realmId ⟨query, cookie, hreq, -⟩ r hr hrealm
  simp only [expiredRealmRun, aliceRun, rootLogin, recreateRealm, List.cons_append, List.nil_append,
    trace, List.mem_cons, List.not_mem_nil, or_false] at hx
  rcases hx with rfl | rfl | rfl | rfl | rfl | rfl | rfl | rfl
  case inr.inr.inr.inr.inr.inl =>
    injection hreq with _ _ hreq
    injection hreq with hreq
    subst hreq
    revert r
    decide
  all_goals simp at hreq

end Transparent
end AuthVerifier
