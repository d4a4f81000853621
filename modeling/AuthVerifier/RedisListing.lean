import AuthVerifier.Lib.Text
import AuthVerifier.RedisSessions

/-!
What a listing on Redis returns. The sets of session ids that serve it are keyed by one text made of
realm, user name and scheme, and an id stays in a set for as long as the set does. A listing reads
the sets of its clients one after the other and drops from them the ids that lead nowhere; the
result is the same as if it dropped nothing.
-/

set_option autoImplicit false

namespace AuthVerifier
open Effects Expiring Transition

namespace RedisStore

/-- The session that an id in a set leads to, unless it is gone or past its absolute age. -/
def listed (r : RedisState) (now : Int) (sessionId : String) : Option SessionData :=
  (r.sessions.get now (sessionKey sessionId)).filter (fun data => decide (now ≤ absoluteExpiry data))

/-- The two states give the same sessions under the same ids, and their sets lead to the same. -/
def SameListing (now : Int) (r r' : RedisState) : Prop :=
  listed r' now = listed r now ∧
    ∀ index, (r'.userSessions.smembers now index).filterMap (listed r now) =
      (r.userSessions.smembers now index).filterMap (listed r now)

section
variable {r r' r'' : RedisState} {now : Int} {index id : String}

theorem SameListing.refl (r : RedisState) : SameListing now r r := ⟨rfl, fun _ => rfl⟩

theorem SameListing.trans (h : SameListing now r r') (h' : SameListing now r' r'') :
    SameListing now r r'' := by
  refine ⟨h'.1.trans h.1, fun index => ?_⟩
  rw [← h.2 index, ← h.1, h'.2 index]

theorem filterMap_srem (hid : listed r now id = none) (k : String) :
    ((r.userSessions.srem now index id).smembers now k).filterMap (listed r now) =
      (r.userSessions.smembers now k).filterMap (listed r now) := by
  rw [Keyspace.smembers_srem]
  split
  · rename_i hk
    subst hk
    rw [List.filterMap_filter]
    congr 1
    funext x
    by_cases hx : x = id
    · simp [hx, hid]
    · simp [hx]
  · rfl

theorem listMember_spec (r : RedisState) (now : Int) (index id : String) :
    (listMember r now index id).2 = listed r now id ∧
      SameListing now r (listMember r now index id).1 := by
  unfold listMember
  cases hg : r.sessions.get now (sessionKey id) with
  | none =>
    have hid : listed r now id = none := by simp [listed, hg]
    exact ⟨hid.symm, rfl, filterMap_srem hid⟩
  | some data =>
    by_cases hpast : now > absoluteExpiry data
    · have hid : listed r now id = none := by
        simp only [listed, hg, Option.filter]
        rw [if_neg]
        simpa using hpast
      simp only [if_pos hpast]
      refine ⟨hid.symm, ?_, filterMap_srem hid⟩
      funext x
      by_cases hx : x = id
      · subst hx
        rw [hid]
        simp [listed, Keyspace.get]
      · have hkey : sessionKey x ≠ sessionKey id := fun h => hx (sessionKey_injective h)
        simp only [listed, Keyspace.get, Keyspace.entry_del_ne hkey]
    · simp only [if_neg hpast]
      refine ⟨?_, .refl r⟩
      simp only [listed, hg, Option.filter]
      rw [if_pos]
      simpa using hpast

theorem listMembers_spec (r : RedisState) (now : Int) (index : String) (ids : List String) :
    (listMembers now index r ids).2 = ids.filterMap (listed r now) ∧
      SameListing now r (listMembers now index r ids).1 := by
  induction ids generalizing r with
  | nil => exact ⟨rfl, .refl r⟩
  | cons id ids ih =>
    obtain ⟨hfirst, hsame⟩ := listMember_spec r now index id
    obtain ⟨hrest, hsame'⟩ := ih (listMember r now index id).1
    refine ⟨?_, hsame.trans hsame'⟩
    simp only [listMembers]
    rw [hfirst, hrest, hsame.1, List.filterMap_cons]
    cases listed r now id with
    | none => rfl
    | some data => rfl

theorem getSessionsForClients_eq (realmId : String) (clients : List AuthenticatedClientScheme) :
    (getSessionsForClients r now realmId clients).2 =
      clients.flatMap (fun client =>
        (r.userSessions.smembers now (clientIndex realmId client)).filterMap (listed r now)) := by
  unfold getSessionsForClients
  induction clients generalizing r with
  | nil => rfl
  | cons client clients ih =>
    obtain ⟨hfirst, hsame⟩ := listMembers_spec r now (clientIndex realmId client)
      (r.userSessions.smembers now (clientIndex realmId client))
    simp only [listClients, List.flatMap_cons]
    rw [hfirst, ih, hsame.1]
    congr 2
    funext client
    exact hsame.2 _

end

theorem sep_notMem_json (scheme : AuthScheme) : ':' ∉ scheme.json.toList := by
  cases scheme with
  | usernamePassword => decide
  | jwt => decide
  | fido2 => decide
  | digitalCredentials => decide
  | clientCertificate => decide
  | saml => decide

theorem userSessionsKey_inj {realmId username username' authScheme authScheme' : String}
    (hs : ':' ∉ authScheme.toList) (hs' : ':' ∉ authScheme'.toList)
    (h : userSessionsKey realmId username authScheme =
      userSessionsKey realmId username' authScheme') :
    username = username' ∧ authScheme = authScheme' := by
  unfold userSessionsKey at h
  simp only [String.append_assoc] at h
  rw [String.append_right_inj, String.append_right_inj, String.append_right_inj] at h
  have hcs := congrArg String.toList h
  rw [String.toList_append, String.toList_append, String.toList_append, String.toList_append] at hcs
  have hparts := Text.append_sep_inj hs hs' hcs
  exact ⟨String.toList_inj.mp hparts.1, String.toList_inj.mp hparts.2⟩

theorem clientIndex_injective {realmId : String} {client client' : AuthenticatedClientScheme}
    (h : clientIndex realmId client = clientIndex realmId client') : client = client' := by
  obtain ⟨username, scheme⟩ := client
  obtain ⟨username', scheme'⟩ := client'
  obtain ⟨hname, hjson⟩ := userSessionsKey_inj (sep_notMem_json _) (sep_notMem_json _) h
  simp only at hname hjson
  rw [hname, AuthScheme.json_injective hjson]

def Shrinks (now : Int) (r r' : RedisState) : Prop :=
  (∀ id data, r'.sessions.get now (sessionKey id) = some data →
    r.sessions.get now (sessionKey id) = some data) ∧
  ∀ index, (r'.userSessions.smembers now index).Sublist (r.userSessions.smembers now index)

namespace Shrinks
variable {now : Int} {r r' r'' : RedisState}

theorem refl (r : RedisState) : Shrinks now r r := ⟨fun _ _ h => h, fun _ => .refl _⟩

theorem trans (h : Shrinks now r r') (h' : Shrinks now r' r'') : Shrinks now r r'' :=
  ⟨fun id data hd => h.1 id data (h'.1 id data hd), fun index => (h'.2 index).trans (h.2 index)⟩

theorem foldl {f : RedisState → String → RedisState} (hf : ∀ r key, Shrinks now r (f r key))
    (keys : List String) (r : RedisState) : Shrinks now r (keys.foldl f r) := by
  induction keys generalizing r with
  | nil => exact refl r
  | cons key keys ih => exact (hf r key).trans (ih _)

theorem del_srem (r : RedisState) (key index id : String) :
    Shrinks now r
      { sessions := r.sessions.del key, userSessions := r.userSessions.srem now index id } :=
  ⟨fun _ _ h => Keyspace.get_of_get_del h, fun _ => Keyspace.sublist_smembers_srem⟩

theorem srem (r : RedisState) (index id : String) :
    Shrinks now r { r with userSessions := r.userSessions.srem now index id } :=
  ⟨fun _ _ h => h, fun _ => Keyspace.sublist_smembers_srem⟩

theorem getSession (r : RedisState) (id : String) :
    Shrinks now r (RedisStore.getSession r now id).state := by
  unfold RedisStore.getSession
  split
  · exact refl r
  · split
    · exact del_srem r _ _ _
    · split
      · exact del_srem r _ _ _
      · split
        · exact ⟨fun _ _ h => Keyspace.get_of_get_expire h, fun _ => .refl _⟩
        · exact refl r

theorem listMember (r : RedisState) (index id : String) :
    Shrinks now r (RedisStore.listMember r now index id).1 := by
  unfold RedisStore.listMember
  split
  · split
    · exact del_srem r _ _ _
    · exact refl r
  · exact srem r _ _

theorem listMembers (index : String) (ids : List String) (r : RedisState) :
    Shrinks now r (RedisStore.listMembers now index r ids).1 := by
  induction ids generalizing r with
  | nil => exact refl r
  | cons id ids ih => exact (listMember r index id).trans (ih _)

theorem listClients (realmId : String) (clients : List AuthenticatedClientScheme) (r : RedisState) :
    Shrinks now r (RedisStore.listClients now realmId r clients).1 := by
  induction clients generalizing r with
  | nil => exact refl r
  | cons client clients ih => exact (listMembers _ _ r).trans (ih _)

theorem deleteSession (r : RedisState) (id : String) :
    Shrinks now r (RedisStore.deleteSession now r id) := by
  unfold RedisStore.deleteSession
  split
  · exact del_srem r _ _ _
  · exact ⟨fun _ _ h => Keyspace.get_of_get_del h, fun _ => .refl _⟩

theorem deleteKeyOfRealm (realmId : String) (r : RedisState) (key : String) :
    Shrinks now r (RedisStore.deleteKeyOfRealm now realmId r key) := by
  unfold RedisStore.deleteKeyOfRealm
  split
  · split
    · exact del_srem r _ _ _
    · exact refl r
  · exact refl r

end Shrinks

theorem step_shrinks (r : RedisState) (c : StoreCall) :
    Shrinks c.now r (step r c) ∨
      ∃ id realm client value, c.op = .upsertSession id realm client value ∧
        step r c = storeSession r c.now id realm client value := by
  obtain ⟨now, op⟩ := c
  cases op with
  | upsertSession id realm client value =>
    rw [step_upsertSession]
    split
    · exact .inr ⟨id, realm, client, value, rfl, rfl⟩
    · exact .inl (.refl r)
  | getSession id =>
    rw [step_getSession]
    exact .inl (.getSession r id)
  | getSessionsForClients realmId clients => exact .inl (.listClients realmId clients r)
  | deleteSessions ids => exact .inl (.foldl (fun r id => .deleteSession r id) ids r)
  | deleteExpiredSessions => exact .inl (.refl r)
  | deleteSessionsForRealm realmId => exact .inl (.foldl (.deleteKeyOfRealm realmId) _ r)

section Upsert
variable {now : Int} {r : RedisState} {id value : String} {realm : Realm}
  {client : AuthenticatedClientScheme}

theorem get_storeSession {id' : String} {data : SessionData}
    (h : (storeSession r now id realm client value).sessions.get now (sessionKey id') =
      some data) :
    (id' = id ∧ data = (newSession now id realm client value).toData) ∨
      (id' ≠ id ∧ r.sessions.get now (sessionKey id') = some data) := by
  by_cases hid : id' = id
  · subst hid
    obtain ⟨e, he, rfl⟩ := Option.map_eq_some_iff.mp h
    simp only [storeSession, Keyspace.entry_set_self, Option.filter_eq_some_iff,
      Option.some_inj] at he
    rw [← he.1]
    exact .inl ⟨rfl, rfl⟩
  · have hkey : sessionKey id' ≠ sessionKey id := fun he => hid (sessionKey_injective he)
    simp only [storeSession, Keyspace.get, Keyspace.entry_set_ne hkey] at h
    exact .inr ⟨hid, h⟩

theorem smembers_storeSession (index : String) :
    (storeSession r now id realm client value).userSessions.smembers now index =
      if index = clientIndex realm.id client then
        if id ∈ r.userSessions.smembers now index then r.userSessions.smembers now index
        else r.userSessions.smembers now index ++ [id]
      else r.userSessions.smembers now index := by
  have hlt : now < now + storedTtl realm := by
    unfold storedTtl
    omega
  simp only [storeSession]
  rw [Keyspace.smembers_expire hlt, Keyspace.smembers_sadd]
  split
  · rename_i hk
    rw [hk]
  · rfl

end Upsert

def OwnIds (now : Int) (r : RedisState) : Prop :=
  ∀ id data, r.sessions.get now (sessionKey id) = some data →
    data.sessionId = id ∧ ∃ scheme : AuthScheme, data.authScheme = scheme.json

section
variable {now now' : Int} {r : RedisState}

theorem OwnIds.later (h : OwnIds now r) (hle : now ≤ now') : OwnIds now' r :=
  fun id data hd => h id data (Keyspace.get_later hle hd)

theorem OwnIds.step {c : StoreCall} (h : OwnIds c.now r) : OwnIds c.now (step r c) := by
  rcases step_shrinks r c with hs | ⟨id, realm, client, value, _, hs⟩
  · exact fun id data hd => h id data (hs.1 id data hd)
  · intro id' data hd
    rw [hs] at hd
    rcases get_storeSession hd with ⟨rfl, rfl⟩ | ⟨_, hold⟩
    · exact ⟨rfl, client.authScheme, rfl⟩
    · exact h id' data hold

/-- An id in a set leads to a session of that set, and is in it once. -/
structure IndexSound (now : Int) (r : RedisState) : Prop where
  own : OwnIds now r
  indexed : ∀ index id data, id ∈ r.userSessions.smembers now index →
    r.sessions.get now (sessionKey id) = some data → indexOf data = index
  nodup : ∀ index, (r.userSessions.smembers now index).Nodup

theorem IndexSound.later (h : IndexSound now r) (hle : now ≤ now') : IndexSound now' r where
  own := h.own.later hle
  indexed := by
    intro index id data hid hd
    rcases Keyspace.smembers_later r.userSessions index hle with hm | hm
    · exact h.indexed index id data (hm ▸ hid) (Keyspace.get_later hle hd)
    · simp [hm] at hid
  nodup := by
    intro index
    rcases Keyspace.smembers_later r.userSessions index hle with hm | hm
    · rw [hm]
      exact h.nodup index
    · simp [hm]

def OneClient (r : RedisState) (c : StoreCall) : Prop :=
  ∀ id realm client value, c.op = .upsertSession id realm client value →
    ∀ index, id ∈ r.userSessions.smembers c.now index → index = clientIndex realm.id client

theorem IndexSound.step {c : StoreCall} (h : IndexSound c.now r) (hone : OneClient r c) :
    IndexSound c.now (step r c) := by
  refine ⟨h.own.step, ?_, ?_⟩
  · intro index id data hid hd
    rcases step_shrinks r c with hs | ⟨new, realm, client, value, hop, hs⟩
    · exact h.indexed index id data ((hs.2 index).subset hid) (hs.1 id data hd)
    · have hone := hone new realm client value hop
      have hmem := hid
      rw [hs, smembers_storeSession] at hmem
      rw [hs] at hd
      rcases get_storeSession hd with ⟨rfl, rfl⟩ | ⟨hne, hold⟩
      · -- The new session: the sets that hold its id are that of its client.
        split at hmem
        · rename_i hk
          exact hk.symm
        · exact (hone index hmem).symm
      · -- Another session: its id was in the set before.
        refine h.indexed index id data ?_ hold
        split at hmem
        · split at hmem
          · exact hmem
          · rcases List.mem_append.mp hmem with hm | hm
            · exact hm
            · exact absurd (List.mem_singleton.mp hm) hne
        · exact hmem
  · intro index
    rcases step_shrinks r c with hs | ⟨new, realm, client, value, _, hs⟩
    · exact (hs.2 index).nodup (h.nodup index)
    · have hnodup : (r.userSessions.smembers c.now index).Nodup := h.nodup index
      rw [hs, smembers_storeSession]
      split
      · split
        · exact hnodup
        · rename_i hm
          rw [List.nodup_append]
          refine ⟨hnodup, List.nodup_singleton _, ?_⟩
          intro a ha b hb hab
          rw [hab, List.mem_singleton.mp hb] at ha
          exact hm ha
      · exact hnodup

/-- No session of another realm has the set of a client that is asked for. -/
def Unambiguous (r : RedisState) (c : StoreCall) : Prop :=
  ∀ realmId clients, c.op = .getSessionsForClients realmId clients →
    ∀ client ∈ clients, ∀ id data, r.sessions.get c.now (sessionKey id) = some data →
      data.realmId ≠ realmId → indexOf data ≠ clientIndex realmId client

def Distinct (c : StoreCall) : Prop :=
  ∀ realmId clients, c.op = .getSessionsForClients realmId clients → clients.Nodup

/-- What a listing returns is of its realm and of its clients, and nothing is returned twice. -/
def SoundListing (r : RedisState) (c : StoreCall) : Prop :=
  ∀ realmId clients found, c.op = .getSessionsForClients realmId clients →
    (apply r c).result = .ok (.sessions found) →
    (∀ data ∈ found, data.realmId = realmId ∧
      ∃ client ∈ clients, data.username = client.username ∧
        data.authScheme = client.authScheme.json) ∧
    (found.map SessionData.sessionId).Nodup

theorem map_sessionId_listed (h : OwnIds now r) (ids : List String) :
    ((ids.filterMap (listed r now)).map SessionData.sessionId).Sublist ids := by
  induction ids with
  | nil => exact .slnil
  | cons id ids ih =>
    cases hl : listed r now id with
    | none =>
      rw [List.filterMap_cons_none hl]
      exact ih.cons id
    | some data =>
      have hid := (h id data (Option.filter_eq_some_iff.mp hl).1).1
      rw [List.filterMap_cons_some hl, List.map_cons, hid]
      exact ih.cons_cons id

theorem mem_filterMap_listed (h : IndexSound now r) {index : String} {data : SessionData}
    (hd : data ∈ (r.userSessions.smembers now index).filterMap (listed r now)) :
    r.sessions.get now (sessionKey data.sessionId) = some data ∧ indexOf data = index := by
  obtain ⟨id, hid, hl⟩ := List.mem_filterMap.mp hd
  have hget := (Option.filter_eq_some_iff.mp hl).1
  rw [(h.own id data hget).1]
  exact ⟨hget, h.indexed index id data hid hget⟩

theorem IndexSound.soundListing {c : StoreCall} (h : IndexSound c.now r) (hun : Unambiguous r c)
    (hdistinct : Distinct c) : SoundListing r c := by
  intro realmId clients found hop hfound
  have hrealms := hun realmId clients hop
  have hnodup := hdistinct realmId clients hop
  obtain ⟨now, op⟩ := c
  cases hop
  cases hfound
  rw [getSessionsForClients_eq]
  constructor
  · intro data hd
    obtain ⟨client, hc, hd⟩ := List.mem_flatMap.mp hd
    obtain ⟨hget, hindex⟩ := mem_filterMap_listed h hd
    have hrealm : data.realmId = realmId := by
      by_contra hne
      exact hrealms client hc data.sessionId data hget hne hindex
    obtain ⟨scheme, hscheme⟩ := (h.own data.sessionId data hget).2
    unfold indexOf at hindex
    rw [hrealm] at hindex
    have hjson : ':' ∉ data.authScheme.toList := hscheme ▸ sep_notMem_json scheme
    obtain ⟨hname, hauth⟩ := userSessionsKey_inj hjson (sep_notMem_json _) hindex
    exact ⟨hrealm, client, hc, hname, hauth⟩
  · rw [List.map_flatMap, List.nodup_flatMap]
    constructor
    · intro client _
      exact (map_sessionId_listed h.own _).nodup (h.nodup _)
    · refine hnodup.imp ?_
      intro client client' hne
      refine List.disjoint_left.mpr ?_
      intro id hid hid'
      obtain ⟨data, hd, rfl⟩ := List.mem_map.mp hid
      obtain ⟨data', hd', he⟩ := List.mem_map.mp hid'
      obtain ⟨hget, hindex⟩ := mem_filterMap_listed h hd
      obtain ⟨hget', hindex'⟩ := mem_filterMap_listed h hd'
      rw [he, hget] at hget'
      cases hget'
      exact hne (clientIndex_injective (hindex.symm.trans hindex'))

end

/-- In every run in which no id moves from one client to another, every listing that asks for
distinct clients, with no session of another realm under the key of one of them, is sound. -/
theorem listing_sound (calls : List StoreCall)
    (hclock : Clocked StoreCall.now StoreCall.now calls)
    (hcond : ∀ x ∈ trace step {} calls, OneClient x.1 x.2 ∧ Unambiguous x.1 x.2 ∧ Distinct x.2) :
    ∀ x ∈ trace step {} calls, SoundListing x.1 x.2 := by
  refine trace_forall_of_clocked step StoreCall.now StoreCall.now IndexSound
    (fun _ _ _ hle h => h.later hle)
    (fun r c h (hc : OneClient r c ∧ Unambiguous r c ∧ Distinct c) =>
      h.soundListing hc.2.1 hc.2.2)
    (fun _ _ h hc => h.step hc.1) ?_ calls hclock hcond
  intro now
  constructor
  · intro id data hd
    cases hd
  · intro index id data hid
    cases hid
  · intro index
    exact List.nodup_nil

/-- A login to the realm with the given id, whose sessions live ten seconds. -/
def login (now : Int) (id realmId username : String) : StoreCall :=
  ⟨now, .upsertSession id
    { id := realmId, authParams := {}, sessionMaxAgeSeconds := 10, sessionMaxStaleAgeSeconds := 10,
      certificateMaxAgeSeconds := 60 }
    ⟨username, .usernamePassword⟩ "cookie"⟩

def listing (now : Int) (realmId : String) (usernames : List String) : StoreCall :=
  ⟨now, .getSessionsForClients realmId
    (usernames.map fun username => ⟨username, .usernamePassword⟩)⟩

theorem listing_sound_after_login :
    Clocked StoreCall.now StoreCall.now [login 0 "s" "r" "alice", listing 1 "r" ["alice"]] ∧
    ∀ x ∈ trace step {} [login 0 "s" "r" "alice", listing 1 "r" ["alice"]],
      SoundListing x.1 x.2 := by
  refine ⟨by decide, listing_sound _ (by decide) ?_⟩
  intro x hx
  simp only [trace, List.mem_cons, List.not_mem_nil, or_false] at hx
  rcases hx with rfl | rfl
  · refine ⟨?_, by simp [Unambiguous, login], by simp [Distinct, login]⟩
    intro id realm client value _ index hid
    cases hid
  · refine ⟨by simp [OneClient, listing], ?_, ?_⟩
    · intro realmId clients hop client _ id data hget hne
      cases hop
      have hget : (storeSession {} 0 "s" _ _ "cookie").sessions.get 0 (sessionKey id) =
          some data := Keyspace.get_later (by decide) hget
      rcases get_storeSession hget with ⟨_, rfl⟩ | ⟨_, hold⟩
      · exact absurd rfl hne
      · cases hold
    · intro realmId clients hop
      cases hop
      decide

/-- Three listings that are not sound: a client asked for twice has its session returned twice; the
session of one realm is returned for another whose key reads the same; and a session that was
overwritten for another user is still returned for the first one. -/
theorem unsound_listings :
    ¬ SoundListing (run step {} [login 0 "s" "r" "alice"]) (listing 1 "r" ["alice", "alice"]) ∧
    ¬ SoundListing (run step {} [login 0 "s" "a:b" "c"]) (listing 1 "a" ["b:c"]) ∧
    ¬ SoundListing (run step {} [login 0 "s" "r" "alice", login 1 "s" "r" "bob"])
      (listing 2 "r" ["alice"]) := by
  refine ⟨fun h => ?_, fun h => ?_, fun h => ?_⟩
  · have hnodup := (h "r" _ _ rfl rfl).2
    revert hnodup
    decide
  · have hrealm := (h "a" _ _ rfl rfl).1
    revert hrealm
    decide
  · have hclient := (h "r" _ _ rfl rfl).1
    revert hclient
    decide

end RedisStore
end AuthVerifier
