import AuthVerifier.SqlSessions

/-!
How long a session lives in the SQL stores. The table keeps one idle deadline that accesses push on;
the documentation speaks of two clocks, one from the creation and one from the last access. Over
every history of calls the two come to the same, as long as no deadline overflows and MySQL is not
asked for an id that it takes for another. Listings and the collector, which compare the same
deadlines the other way round, are off by the boundary second.
-/

set_option autoImplicit false

namespace AuthVerifier
open Bounded Relational Transition

def StoreOp.lifecycle : StoreOp → Bool
  | .upsertSession .. => true
  | .getSession _ => true
  | .deleteSessions _ => true
  | .deleteSessionsForRealm _ => true
  | .getSessionsForClients .. => false
  | .deleteExpiredSessions => false

/-- The clock reads no second before 1970, and the ages of a realm are of their Rust type. -/
structure StoreCall.Typed (c : StoreCall) : Prop where
  clock : 0 ≤ c.now ∧ IsI64 c.now
  ages : ∀ id realm client value, c.op = .upsertSession id realm client value →
    IsI64 realm.sessionMaxStaleAgeSeconds ∧ IsI64 realm.sessionMaxAgeSeconds

/-- Redis can keep the absolute deadline of a session that is created, in milliseconds. -/
def StoreCall.ExpiryFits (c : StoreCall) : Prop :=
  ∀ id realm client value, c.op = .upsertSession id realm client value →
    IsI64 ((c.now + realm.sessionMaxAgeSeconds) * 1000)

section
variable {W : Type} [DecidableEq W] (collation : String → W)

def Creates (b : SqlBackend) (id : String) (x : Sessions × StoreCall) : Prop :=
  ∃ realm client value, x.2.op = .upsertSession id realm client value ∧
    (b.apply collation x.1 x.2).result = .ok .done

/-- The call deletes the session of the id and realm, whether it is there or not. -/
def Deletes (id realmId : String) (c : StoreCall) : Prop :=
  (∃ ids, c.op = .deleteSessions ids ∧ id ∈ ids) ∨ c.op = .deleteSessionsForRealm realmId

def accesses (b : SqlBackend) (id : String) (x : Sessions × StoreCall) : Bool :=
  x.2.op == .getSession id && (b.reported collation x.1 x.2.now id).isSome

def lastAccess (b : SqlBackend) (id : String) (created : Int)
    (later : List (Sessions × StoreCall)) : Int :=
  later.foldl (fun a x => if accesses collation b id x then x.2.now else a) created

/-- The history creates the session at this time and neither deletes nor replaces it later. -/
def CreatedAt (b : SqlBackend) (tr : List (Sessions × StoreCall)) (id : String) (created : Int)
    (realm : Realm) (client : AuthenticatedClientScheme) (value : String)
    (later : List (Sessions × StoreCall)) : Prop :=
  ∃ pre s, tr = pre ++ (s, ⟨created, .upsertSession id realm client value⟩) :: later ∧
    (b.apply collation s ⟨created, .upsertSession id realm client value⟩).result = .ok .done ∧
    ∀ x ∈ later, ¬ Creates collation b id x ∧ ¬ Deletes id realm.id x.2

end

section
variable {W : Type} [DecidableEq W] {collation : String → W} {b : SqlBackend} {tr : List (Sessions × StoreCall)} {s : Sessions} {c : StoreCall}
  {id value : String} {created : Int} {realm : Realm} {client : AuthenticatedClientScheme}
  {later : List (Sessions × StoreCall)}

theorem lastAccess_append {x : Sessions × StoreCall} :
    lastAccess collation b id created (later ++ [x]) =
      if accesses collation b id x then x.2.now else lastAccess collation b id created later := by
  simp [lastAccess, List.foldl_append]

theorem createdAt_new
    (h : (b.apply collation s ⟨created, .upsertSession id realm client value⟩).result =
      .ok .done) :
    CreatedAt collation b (tr ++ [(s, ⟨created, .upsertSession id realm client value⟩)]) id created
      realm client value [] :=
  ⟨tr, s, rfl, h, by simp⟩

theorem CreatedAt.append (h : CreatedAt collation b tr id created realm client value later)
    {x : Sessions × StoreCall} (hc : ¬ Creates collation b id x) (hd : ¬ Deletes id realm.id x.2) :
    CreatedAt collation b (tr ++ [x]) id created realm client value (later ++ [x]) := by
  obtain ⟨pre, s, rfl, hok, hl⟩ := h
  refine ⟨pre, s, by simp, hok, ?_⟩
  intro y hy
  rcases List.mem_append.mp hy with hy | hy
  · exact hl y hy
  · rw [List.mem_singleton] at hy
    subst hy
    exact ⟨hc, hd⟩

theorem createdAt_append {x : Sessions × StoreCall}
    (h : CreatedAt collation b (tr ++ [x]) id created realm client value later) :
    (later = [] ∧ x.2 = ⟨created, .upsertSession id realm client value⟩ ∧
      (b.apply collation x.1 x.2).result = .ok .done) ∨
    ∃ before, later = before ++ [x] ∧
      CreatedAt collation b tr id created realm client value before ∧
      ¬ Creates collation b id x ∧ ¬ Deletes id realm.id x.2 := by
  obtain ⟨pre, s, he, hok, hl⟩ := h
  rcases List.eq_nil_or_concat later with rfl | ⟨before, y, rfl⟩
  · have hx := (List.append_inj' he rfl).2
    cases hx
    exact .inl ⟨rfl, rfl, hok⟩
  · rw [List.concat_eq_append, ← List.cons_append, ← List.append_assoc] at he
    obtain ⟨htr, hx⟩ := List.append_inj' he rfl
    cases hx
    rw [List.concat_eq_append] at hl ⊢
    have hlast := hl x (by simp)
    refine .inr ⟨before, rfl, ⟨pre, s, htr, hok, ?_⟩, hlast⟩
    intro y hy
    exact hl y (List.mem_append_left _ hy)

end

/-- The row tells the session's story: it carries the data of the creation, and its idle deadline
is the one of the last access as far as the absolute age allows. -/
structure Tells (r : SessionRow) (id : String) (created : Int) (realm : Realm)
    (client : AuthenticatedClientScheme) (value : String) (access : Int) : Prop where
  same : SessionStore.SameSession (newSession created id realm client value) r
  fits : IsI64 (created + realm.sessionMaxAgeSeconds)
  idle : IsI64 realm.sessionMaxStaleAgeSeconds
  deadline : min r.staleAt (created + realm.sessionMaxAgeSeconds) =
    min (access + realm.sessionMaxStaleAgeSeconds) (created + realm.sessionMaxAgeSeconds)

/-- The two clocks of the documentation, at the instant `t`. -/
def WithinAges (realm : Realm) (created access t : Int) : Prop :=
  t ≤ created + realm.sessionMaxAgeSeconds ∧ t ≤ access + realm.sessionMaxStaleAgeSeconds

section
variable {W : Type} [DecidableEq W] (collation : String → W)

/-- What the table and the history know of each other: every row is a created session, and every
created session is a row or past its ages for good. -/
structure Chronicled (b : SqlBackend) (tr : List (Sessions × StoreCall)) (s : Sessions) :
    Prop where
  told : ∀ r ∈ s, ∃ created realm client value later,
    CreatedAt collation b tr r.sessionId created realm client value later ∧
      Tells r r.sessionId created realm client value
        (lastAccess collation b r.sessionId created later)
  kept : ∀ id created realm client value later,
    CreatedAt collation b tr id created realm client value later →
      (∃ r ∈ s, Tells r id created realm client value (lastAccess collation b id created later)) ∨
      (id ∉ s.keys ∧ ∀ t, (∀ x ∈ tr, x.2.now ≤ t) →
        ¬ WithinAges realm created (lastAccess collation b id created later) t)

end

section
variable {r : SessionRow} {id value : String} {created access t : Int} {realm : Realm}
  {client : AuthenticatedClientScheme}

theorem Tells.sessionId (h : Tells r id created realm client value access) : r.sessionId = id := by
  rw [h.same]
  rfl

theorem Tells.realmId (h : Tells r id created realm client value access) : r.realmId = realm.id := by
  rw [h.same]
  rfl

theorem Tells.absolute (h : Tells r id created realm client value access) :
    r.createdAt + r.maxAgeSeconds = created + realm.sessionMaxAgeSeconds := by
  rw [h.same]
  rfl

theorem Tells.new (hidle : IsI64 realm.sessionMaxStaleAgeSeconds)
    (hfits : IsI64 (created + realm.sessionMaxStaleAgeSeconds) ∧
      IsI64 (created + realm.sessionMaxAgeSeconds)) :
    Tells (newSession created id realm client value) id created realm client value created :=
  ⟨rfl, hfits.2, hidle, by rw [SessionStore.newSession_staleAt hfits.1]⟩

theorem Tells.expired_iff (h : Tells r id created realm client value access) :
    SessionStore.expired t r = false ↔ WithinAges realm created access t := by
  have hfits : IsI64 (r.createdAt + r.maxAgeSeconds) := h.absolute ▸ h.fits
  have hmin := h.deadline
  rw [SessionStore.expired_eq_false_iff hfits, h.absolute, WithinAges]
  omega

theorem Tells.touch (h : Tells r id created realm client value access) (ht : 0 ≤ t)
    (hlive : SessionStore.expired t r = false) :
    Tells (SessionStore.touch t r) id created realm client value t := by
  have hfits : IsI64 (r.createdAt + r.maxAgeSeconds) := h.absolute ▸ h.fits
  have hstale : r.maxStaleAgeSeconds = realm.sessionMaxStaleAgeSeconds := by
    rw [h.same]
    rfl
  have hlast := ((SessionStore.expired_eq_false_iff hfits).mp hlive).2
  refine ⟨h.same.trans (SessionStore.sameSession_touch t r), h.fits, h.idle, ?_⟩
  rw [SessionStore.touch_staleAt ht (hstale ▸ h.idle) hfits hlast, hstale, h.absolute]
  omega

theorem Tells.toData (h : Tells r id created realm client value access) :
    r.toData = (newSession created id realm client value).toData := by
  rw [h.same]
  rfl

end

section
variable {W : Type} [DecidableEq W] {collation : String → W} {b : SqlBackend}
  {tr : List (Sessions × StoreCall)} {s : Sessions} {r : SessionRow} {id value : String}
  {created t : Int} {realm : Realm} {client : AuthenticatedClientScheme}

/-- What a step may do to a row it keeps: nothing, or an access. -/
structure Carries (collation : String → W) (b : SqlBackend) (x : Sessions × StoreCall)
    (r r' : SessionRow) : Prop where
  uncreated : ¬ Creates collation b r.sessionId x
  undeleted : ¬ Deletes r.sessionId r.realmId x.2
  carried : accesses collation b r.sessionId x = false ∧ r' = r ∨
    accesses collation b r.sessionId x = true ∧ SessionStore.expired x.2.now r = false ∧
      r' = SessionStore.touch x.2.now r

theorem Carries.sessionId {x : Sessions × StoreCall} {r' : SessionRow}
    (h : Carries collation b x r r') : r'.sessionId = r.sessionId := by
  rcases h.carried with ⟨_, rfl⟩ | ⟨_, _, rfl⟩
  · rfl
  · rfl

theorem Carries.tells {x : Sessions × StoreCall} {r' : SessionRow}
    {later : List (Sessions × StoreCall)} (hc : Carries collation b x r r') (hnow : 0 ≤ x.2.now)
    (h : Tells r r.sessionId created realm client value
      (lastAccess collation b r.sessionId created later)) :
    Tells r' r.sessionId created realm client value
      (lastAccess collation b r.sessionId created (later ++ [x])) := by
  rw [lastAccess_append]
  rcases hc.carried with ⟨ha, rfl⟩ | ⟨ha, hlive, rfl⟩
  · simpa [ha] using h
  · simpa [ha] using h.touch hnow hlive

/-- A step whose rows are those it creates and those it carries over, and which drops only rows
that are deleted or past their ages, keeps the chronicle. -/
theorem Chronicled.append {x : Sessions × StoreCall} {s' : Sessions}
    (h : Chronicled collation b tr s) (htyped : x.2.Typed) (hplain : b.Plain collation x.1 x.2)
    (hnew : ∀ r' ∈ s', (∃ realm client value,
        x.2.op = .upsertSession r'.sessionId realm client value ∧
        (b.apply collation x.1 x.2).result = .ok .done ∧
        r' = newSession x.2.now r'.sessionId realm client value) ∨
      ∃ r ∈ s, Carries collation b x r r')
    (hcreated : ∀ id realm client value, x.2.op = .upsertSession id realm client value →
      (b.apply collation x.1 x.2).result = .ok .done →
      newSession x.2.now id realm client value ∈ s')
    (hold : ∀ r ∈ s, ¬ Creates collation b r.sessionId x →
      ¬ Deletes r.sessionId r.realmId x.2 →
      (∃ r' ∈ s', Carries collation b x r r') ∨
      (SessionStore.expired x.2.now r = true ∧ accesses collation b r.sessionId x = false ∧
        r.sessionId ∉ s'.keys))
    (hfound : ∀ id, accesses collation b id x = true → id ∈ s.keys) :
    Chronicled collation b (tr ++ [x]) s' := by
  have htells {id value : String} {realm : Realm} {client : AuthenticatedClientScheme}
      (hop : x.2.op = .upsertSession id realm client value) :
      Tells (newSession x.2.now id realm client value) id x.2.now realm client value x.2.now :=
    Tells.new (htyped.ages id realm client value hop).1 (hplain.fits id realm client value hop)
  constructor
  · intro r' hr'
    rcases hnew r' hr' with ⟨realm, client, value, hop, hok, he⟩ | ⟨r, hr, hc⟩
    · have hx : x = (x.1, ⟨x.2.now, .upsertSession r'.sessionId realm client value⟩) := by
        rw [← hop]
      rw [hx] at hok ⊢
      refine ⟨x.2.now, realm, client, value, [], createdAt_new hok, ?_⟩
      have hrow := htells hop
      rw [← he] at hrow
      exact hrow
    · obtain ⟨created, realm, client, value, later, hat, htells⟩ := h.told r hr
      rw [hc.sessionId]
      exact ⟨created, realm, client, value, later ++ [x],
        hat.append hc.uncreated (htells.realmId ▸ hc.undeleted), hc.tells htyped.clock.1 htells⟩
  · intro id created realm client value later hat
    rcases createdAt_append hat with ⟨rfl, hx, hok⟩ | ⟨before, rfl, hat', hc, hd⟩
    · have hnow : x.2.now = created := by rw [hx]
      have hop : x.2.op = .upsertSession id realm client value := by rw [hx]
      subst hnow
      exact .inl ⟨_, hcreated id realm client value hop hok, htells hop⟩
    · rcases h.kept id created realm client value before hat' with ⟨r, hr, htells⟩ | ⟨hk, hgone⟩
      · have hid := htells.sessionId
        subst hid
        rcases hold r hr hc (htells.realmId.symm ▸ hd) with ⟨r', hr', hcarry⟩ | ⟨hexp, hacc, hgone⟩
        · exact .inl ⟨r', hr', hcarry.tells htyped.clock.1 htells⟩
        · refine .inr ⟨hgone, fun t ht hw => ?_⟩
          rw [lastAccess_append, hacc] at hw
          have hnow : x.2.now ≤ t := ht x (by simp)
          have hlive : SessionStore.expired x.2.now r = false := by
            rw [htells.expired_iff]
            simp only [WithinAges, Bool.false_eq_true, if_false] at hw ⊢
            omega
          rw [hexp] at hlive
          cases hlive
      · have hacc : accesses collation b id x = false := by
          cases ha : accesses collation b id x with
          | false => rfl
          | true => exact absurd (hfound id ha) hk
        refine .inr ⟨?_, fun t ht => ?_⟩
        · intro hmem
          obtain ⟨r', hr', rfl⟩ := Table.mem_keys.mp hmem
          rcases hnew r' hr' with ⟨realm', client', value', hop, hok, _⟩ | ⟨r, hr, hcarry⟩
          · exact hc ⟨realm', client', value', hop, hok⟩
          · rw [hcarry.sessionId] at hk
            exact hk (Table.key_mem_keys hr)
        · rw [lastAccess_append, hacc]
          exact hgone t (fun y hy => ht y (List.mem_append_left _ hy))

theorem accesses_eq_true {x : Sessions × StoreCall} (h : accesses collation b id x = true) :
    x.2.op = .getSession id ∧ (b.reported collation x.1 x.2.now id).isSome = true := by
  simpa [accesses] using h

theorem accesses_eq_false {x : Sessions × StoreCall} (h : x.2.op ≠ .getSession id) :
    accesses collation b id x = false := by
  cases ha : accesses collation b id x with
  | false => rfl
  | true => exact absurd (accesses_eq_true ha).1 h

theorem upsert_chronicled {now : Int} {id value : String} {realm : Realm}
    {client : AuthenticatedClientScheme} (h : Chronicled collation b tr s)
    (htyped : StoreCall.Typed ⟨now, .upsertSession id realm client value⟩)
    (hplain : b.Plain collation s ⟨now, .upsertSession id realm client value⟩) :
    Chronicled collation b (tr ++ [(s, ⟨now, .upsertSession id realm client value⟩)])
      (b.step collation s ⟨now, .upsertSession id realm client value⟩) := by
  have hno (id' : String) : accesses collation b id'
      (s, ⟨now, .upsertSession id realm client value⟩) = false := accesses_eq_false (by simp)
  have hidle {r : SessionRow} (hc : ¬ Creates collation b r.sessionId
      (s, ⟨now, .upsertSession id realm client value⟩)) :
      Carries collation b (s, ⟨now, .upsertSession id realm client value⟩) r r :=
    ⟨hc, by simp [Deletes], .inl ⟨hno _, rfl⟩⟩
  rcases @SqlBackend.step_upsertSession _ _ collation b s now id value realm client with
    ⟨hok, hu⟩ | ⟨hfail, hs⟩
  · obtain ⟨_, hk, hmem⟩ := SqlBackend.upsertSession_ok hu
    refine h.append htyped hplain ?_ ?_
      (fun r hr hc _ => .inl ⟨r, (hmem r).mpr (.inl hr), hidle hc⟩)
      (fun id' ha => absurd ha (by simp [hno]))
    · intro r' hr'
      rcases (hmem r').mp hr' with hr | rfl
      · refine .inr ⟨r', hr, hidle ?_⟩
        rintro ⟨realm', client', value', hop, _⟩
        cases hop
        exact hk (Table.key_mem_keys hr)
      · exact .inl ⟨realm, client, value, rfl, hok, rfl⟩
    · rintro id' realm' client' value' hop _
      cases hop
      exact (hmem _).mpr (.inr rfl)
  · rw [hs]
    refine h.append htyped hplain (fun r hr => .inr ⟨r, hr, hidle ?_⟩)
      (fun id' realm' client' value' _ hok => absurd hok hfail)
      (fun r hr hc _ => .inl ⟨r, hr, hidle hc⟩) (fun id' ha => absurd ha (by simp [hno]))
    rintro ⟨realm', client', value', _, hok⟩
    exact hfail hok

theorem get_chronicled {now : Int} {id : String} (h : Chronicled collation b tr s)
    (htyped : StoreCall.Typed ⟨now, .getSession id⟩)
    (hplain : b.Plain collation s ⟨now, .getSession id⟩) :
    Chronicled collation b (tr ++ [(s, ⟨now, .getSession id⟩)])
      (b.step collation s ⟨now, .getSession id⟩) := by
  have hreport := SqlBackend.reported_of_plain hplain
  have hother {r : SessionRow} (hne : r.sessionId ≠ id) :
      Carries collation b (s, ⟨now, .getSession id⟩) r r := by
    refine ⟨by simp [Creates], by simp [Deletes], .inl ⟨accesses_eq_false ?_, rfl⟩⟩
    simpa using hne.symm
  have hfound (id' : String) (ha : accesses collation b id' (s, ⟨now, .getSession id⟩) = true) :
      id' ∈ s.keys := by
    obtain ⟨hop, hsome⟩ := accesses_eq_true ha
    cases hop
    obtain ⟨d, hd⟩ := Option.isSome_iff_exists.mp hsome
    obtain ⟨r, hr, rfl, _⟩ := SessionStore.getSession_some (hreport.symm.trans hd)
    exact Table.key_mem_keys hr
  rw [SqlBackend.step_getSession hplain]
  refine h.append htyped hplain ?_ (by simp) ?_ hfound
  · intro r' hr'
    right
    by_cases hne : r'.sessionId = id
    · subst hne
      obtain ⟨r, hr, hid, hlive, rfl⟩ := SessionStore.mem_getSession_self hr'
      have hget : (SessionStore.getSession s now (SessionStore.touch now r).sessionId).2 =
          some r.toData := congrArg Prod.snd (SessionStore.getSession_of_live hr hlive)
      refine ⟨r, hr, by simp [Creates], by simp [Deletes], .inr ⟨?_, hlive, rfl⟩⟩
      rw [hid]
      simp [accesses, hreport, hget]
    · exact ⟨r', (SessionStore.mem_getSession_of_ne hne).mp hr', hother hne⟩
  · intro r hr _ _
    by_cases hne : r.sessionId = id
    · subst hne
      cases he : SessionStore.expired now r with
      | true =>
        refine .inr ⟨rfl, ?_, ?_⟩
        · simp [accesses, hreport, SessionStore.getSession_of_expired hr he]
        · rw [SessionStore.getSession_of_expired hr he, Table.mem_keys_deleteKey]
          simp
      | false =>
        refine .inl ⟨SessionStore.touch now r,
          (SessionStore.mem_getSession_of_live hr he).mpr (.inr rfl), ?_⟩
        refine ⟨by simp [Creates], by simp [Deletes], .inr ⟨?_, he, rfl⟩⟩
        simp [accesses, hreport, SessionStore.getSession_of_live hr he]
    · exact .inl ⟨r, (SessionStore.mem_getSession_of_ne hne).mpr hr, hother hne⟩

theorem delete_chronicled {now : Int} {op : StoreOp} {p : SessionRow → Bool}
    (h : Chronicled collation b tr s) (htyped : StoreCall.Typed ⟨now, op⟩)
    (hplain : b.Plain collation s ⟨now, op⟩)
    (hop : b.step collation s ⟨now, op⟩ = s.deleteWhere p)
    (hp : ∀ r, p r = true ↔ Deletes r.sessionId r.realmId ⟨now, op⟩)
    (hn : ∀ id realm client value, op ≠ .upsertSession id realm client value)
    (hg : ∀ id, op ≠ .getSession id) :
    Chronicled collation b (tr ++ [(s, ⟨now, op⟩)]) (b.step collation s ⟨now, op⟩) := by
  have hno (id : String) : ¬ Creates collation b id (s, ⟨now, op⟩) := by
    rintro ⟨realm, client, value, he, _⟩
    exact hn id realm client value he
  have hacc (id : String) : accesses collation b id (s, ⟨now, op⟩) = false :=
    accesses_eq_false (hg id)
  rw [hop]
  refine h.append htyped hplain ?_
    (fun id realm client value he => absurd he (hn id realm client value)) ?_
    (fun id ha => absurd ha (by simp [hacc]))
  · intro r' hr'
    obtain ⟨hr, hkeep⟩ := Table.mem_deleteWhere.mp hr'
    have hd : ¬ Deletes r'.sessionId r'.realmId ⟨now, op⟩ := by
      rw [← hp, hkeep]
      exact Bool.false_ne_true
    exact .inr ⟨r', hr, hno _, hd, .inl ⟨hacc _, rfl⟩⟩
  · intro r hr hc hd
    have hkeep : p r = false := by
      rw [← Bool.not_eq_true, hp]
      exact hd
    exact .inl ⟨r, Table.mem_deleteWhere.mpr ⟨hr, hkeep⟩, hc, hd, .inl ⟨hacc _, rfl⟩⟩

theorem step_chronicled {c : StoreCall} (h : Chronicled collation b tr s)
    (hop : c.op.lifecycle = true) (htyped : c.Typed) (hplain : b.Plain collation s c) :
    Chronicled collation b (tr ++ [(s, c)]) (b.step collation s c) := by
  obtain ⟨now, op⟩ := c
  cases op with
  | upsertSession id realm client value => exact upsert_chronicled h htyped hplain
  | getSession id => exact get_chronicled h htyped hplain
  | getSessionsForClients realmId clients => cases hop
  | deleteSessions ids =>
    refine delete_chronicled h htyped hplain (SqlBackend.step_deleteSessions hplain) (fun r => ?_)
      (by simp) (by simp)
    simp [Deletes]
  | deleteExpiredSessions => cases hop
  | deleteSessionsForRealm realmId =>
    refine delete_chronicled h htyped hplain (SqlBackend.step_deleteSessionsForRealm hplain)
      (fun r => ?_) (by simp) (by simp)
    simp only [beq_iff_eq, Deletes, reduceCtorEq, false_and, exists_false, false_or,
      StoreOp.deleteSessionsForRealm.injEq]
    exact eq_comm

/-- The calls of a lifetime, each of which the store takes as it is meant. -/
structure PlainRun (collation : String → W) (b : SqlBackend) (calls : List StoreCall) : Prop where
  lifecycle : ∀ c ∈ calls, c.op.lifecycle = true
  typed : ∀ c ∈ calls, c.Typed
  plain : ∀ x ∈ trace (b.step collation) .empty calls, b.Plain collation x.1 x.2

theorem run_chronicled {calls : List StoreCall} (h : PlainRun collation b calls) :
    Chronicled collation b (trace (b.step collation) .empty calls)
      (run (b.step collation) .empty calls) := by
  refine run_invariant (b.step collation) (Chronicled collation b)
    (fun _ s c => c.op.lifecycle = true ∧ c.Typed ∧ b.Plain collation s c) ?_
    (fun _ _ _ h hc => step_chronicled h hc.1 hc.2.1 hc.2.2) calls ?_
  · constructor
    · intro r hr
      exact absurd hr Table.mem_empty
    · rintro id created realm client value later ⟨pre, s, he, _⟩
      simp at he
  · intro pre c post he
    have hc : c ∈ calls := by simp [he]
    refine ⟨h.lifecycle c hc, h.typed c hc, ?_⟩
    exact h.plain (run (b.step collation) .empty pre, c)
      ((mem_trace_iff _).mpr ⟨pre, post, he, rfl⟩)

/-- The two-clock rule of the documentation, over every history of calls that the store takes as
they are meant: an access at `t` reports a session exactly when it was created, neither deleted nor
replaced since, and both ages still allow it. An access never moves the idle deadline past the
absolute one and leaves every other session alone. -/
theorem session_lifetime (collation : String → W) (b : SqlBackend) (calls : List StoreCall)
    (t : Int) (id : String) (hcalls : PlainRun collation b (calls ++ [⟨t, .getSession id⟩]))
    (hclock : ∀ c ∈ calls, c.now ≤ t) :
    (∀ d, b.reported collation (run (b.step collation) .empty calls) t id = some d ↔
      ∃ created realm client value later,
        CreatedAt collation b (trace (b.step collation) .empty calls) id created realm client value
          later ∧
        t ≤ created + realm.sessionMaxAgeSeconds ∧
        t ≤ lastAccess collation b id created later + realm.sessionMaxStaleAgeSeconds ∧
        d = (newSession created id realm client value).toData) ∧
    (∀ r ∈ b.step collation (run (b.step collation) .empty calls) ⟨t, .getSession id⟩,
      r.sessionId = id → r.staleAt ≤ r.createdAt + r.maxAgeSeconds) ∧
    ∀ r, r.sessionId ≠ id →
      (r ∈ b.step collation (run (b.step collation) .empty calls) ⟨t, .getSession id⟩ ↔
        r ∈ run (b.step collation) .empty calls) := by
  have hbefore : PlainRun collation b calls := by
    refine ⟨fun c hc => hcalls.lifecycle c (List.mem_append_left _ hc),
      fun c hc => hcalls.typed c (List.mem_append_left _ hc), fun x hx => hcalls.plain x ?_⟩
    rw [trace_append]
    exact List.mem_append_left _ hx
  have hplain : b.Plain collation (run (b.step collation) .empty calls) ⟨t, .getSession id⟩ :=
    hcalls.plain (run (b.step collation) .empty calls, ⟨t, .getSession id⟩)
      ((mem_trace_iff _).mpr ⟨calls, [], rfl, rfl⟩)
  have ht : 0 ≤ t := (hcalls.typed ⟨t, .getSession id⟩ (by simp)).clock.1
  have h := run_chronicled hbefore
  rw [SqlBackend.step_getSession hplain]
  refine ⟨?_, ?_, fun r hne => SessionStore.mem_getSession_of_ne hne⟩
  · intro d
    rw [SqlBackend.reported_of_plain hplain]
    constructor
    · intro hd
      obtain ⟨r, hr, rfl, hlive, rfl⟩ := SessionStore.getSession_some hd
      obtain ⟨created, realm, client, value, later, hat, htells⟩ := h.told r hr
      obtain ⟨hage, hidle⟩ := htells.expired_iff.mp hlive
      exact ⟨created, realm, client, value, later, hat, hage, hidle, htells.toData⟩
    · rintro ⟨created, realm, client, value, later, hat, hage, hidle, rfl⟩
      rcases h.kept id created realm client value later hat with ⟨r, hr, htells⟩ | ⟨_, hgone⟩
      · have hlive := htells.expired_iff.mpr ⟨hage, hidle⟩
        rw [← htells.sessionId, SessionStore.getSession_of_live hr hlive, htells.sessionId,
          htells.toData]
      · have htr : ∀ x ∈ trace (b.step collation) .empty calls, x.2.now ≤ t :=
          fun x hx => hclock x.2 (mem_of_mem_trace (b.step collation) hx)
        exact absurd ⟨hage, hidle⟩ (hgone t htr)
  · rintro r' hr' rfl
    obtain ⟨r, hr, _, hlive, he⟩ := SessionStore.mem_getSession_self hr'
    obtain ⟨created, realm, client, value, later, _, htells⟩ := h.told r hr
    have htouch := htells.touch ht hlive
    have hmin := htouch.deadline
    have hstale := htells.expired_iff.mp hlive
    rw [he, htouch.absolute]
    have hfits : IsI64 (r.createdAt + r.maxAgeSeconds) := htells.absolute ▸ htells.fits
    have hidle : r.maxStaleAgeSeconds = realm.sessionMaxStaleAgeSeconds := by
      rw [htells.same]
      rfl
    rw [SessionStore.touch_staleAt ht (hidle ▸ htells.idle) hfits (htells.absolute ▸ hstale.1),
      htells.absolute]
    omega

end

def shortRealm : Realm :=
  { id := "r", authParams := {}, sessionMaxAgeSeconds := 10, sessionMaxStaleAgeSeconds := 5,
    certificateMaxAgeSeconds := 60 }

def shortSession : StoreCall :=
  ⟨0, .upsertSession "s" shortRealm ⟨"alice", .usernamePassword⟩ "cookie"⟩

/-- A realm as its administrator may save it, whose sessions are to live for ever. -/
def farRealm : Realm :=
  { id := "r", authParams := {}, sessionMaxAgeSeconds := 9223372036854775807,
    sessionMaxStaleAgeSeconds := 5, certificateMaxAgeSeconds := 60 }

def farSession : StoreCall :=
  ⟨1, .upsertSession "s" farRealm ⟨"alice", .usernamePassword⟩ "cookie"⟩

theorem typed_getSession {now : Int} {id : String} (h : 0 ≤ now ∧ IsI64 now) :
    StoreCall.Typed ⟨now, .getSession id⟩ := by
  refine ⟨h, fun _ _ _ _ hop => ?_⟩
  cases hop

theorem typed_shortSession : shortSession.Typed := by
  refine ⟨by decide, fun _ _ _ _ hop => ?_⟩
  obtain ⟨_, rfl, _, _⟩ := StoreOp.upsertSession.inj hop
  decide

theorem plainRun_shortSession : PlainRun Transparent.caseless .mysql
    ([shortSession, ⟨4, .getSession "s"⟩] ++ [⟨9, .getSession "s"⟩]) := by
  refine ⟨by decide, ?_, ?_⟩
  · intro c hc
    simp only [List.cons_append, List.nil_append, List.mem_cons, List.not_mem_nil, or_false] at hc
    rcases hc with rfl | rfl | rfl
    · exact typed_shortSession
    · exact typed_getSession (by decide)
    · exact typed_getSession (by decide)
  · intro x hx
    simp only [List.cons_append, List.nil_append, trace, List.mem_cons, List.not_mem_nil,
      or_false] at hx
    have hrows : ∀ y ∈ trace (SqlBackend.mysql.step Transparent.caseless) .empty
        [shortSession, ⟨4, .getSession "s"⟩, ⟨9, .getSession "s"⟩],
        ∀ r ∈ y.1.rows, r.sessionId = "s" := by decide
    rcases hx with rfl | rfl | rfl
    · exact .of_upsertSession rfl (by decide)
    · exact .of_getSession rfl fun r hr _ => hrows _ (.tail _ (.head _)) r hr
    · exact .of_getSession rfl fun r hr _ => hrows _ (.tail _ (.tail _ (.head _))) r hr

theorem session_lifetime_accessed :
    PlainRun Transparent.caseless .mysql
      ([shortSession, ⟨4, .getSession "s"⟩] ++ [⟨9, .getSession "s"⟩]) ∧
    (∀ c ∈ [shortSession, ⟨4, .getSession "s"⟩], c.now ≤ 9) ∧
    ∃ created realm client value later,
      CreatedAt Transparent.caseless .mysql (trace (SqlBackend.mysql.step Transparent.caseless)
        .empty [shortSession, ⟨4, .getSession "s"⟩]) "s" created realm client value later ∧
      9 ≤ created + realm.sessionMaxAgeSeconds ∧
      9 ≤ lastAccess Transparent.caseless .mysql "s" created later +
        realm.sessionMaxStaleAgeSeconds ∧
      (newSession 0 "s" shortRealm ⟨"alice", .usernamePassword⟩ "cookie").toData =
        (newSession created "s" realm client value).toData := by
  refine ⟨plainRun_shortSession, by decide, ?_⟩
  apply ((session_lifetime Transparent.caseless .mysql [shortSession, ⟨4, .getSession "s"⟩] 9 "s"
    plainRun_shortSession (by decide)).1 _).mp
  decide

/-- A session that is to live for ever is lost in the second of its creation, since its absolute
deadline overflows; and MySQL reports a session under an id that none was created for. -/
theorem session_lost_to_overflow :
    (CreatedAt Transparent.caseless .sqlite
        (trace (SqlBackend.sqlite.step Transparent.caseless) .empty [farSession]) "s" 1 farRealm
        ⟨"alice", .usernamePassword⟩ "cookie" [] ∧
      WithinAges farRealm 1 (lastAccess Transparent.caseless .sqlite "s" 1 []) 1 ∧
      SqlBackend.sqlite.reported Transparent.caseless
        (run (SqlBackend.sqlite.step Transparent.caseless) .empty [farSession]) 1 "s" = none) ∧
    (SqlBackend.mysql.reported Transparent.caseless
        (run (SqlBackend.mysql.step Transparent.caseless) .empty [shortSession]) 1 "S" ≠ none ∧
      ∀ created realm client value later, ¬ CreatedAt Transparent.caseless .mysql
        (trace (SqlBackend.mysql.step Transparent.caseless) .empty [shortSession]) "S" created realm
        client value later) := by
  refine ⟨⟨⟨[], .empty, rfl, by decide, by simp⟩, ?_, by decide⟩,
    by decide, ?_⟩
  · constructor
    · decide
    · decide
  · rintro created realm client value later ⟨pre, s, he, _⟩
    have hmem : (s, (⟨created, .upsertSession "S" realm client value⟩ : StoreCall)) ∈
        trace (SqlBackend.mysql.step Transparent.caseless) .empty [shortSession] := by simp [he]
    simp [trace, shortSession] at hmem

section
variable {W : Type} [DecidableEq W] (collation : String → W) (b : SqlBackend) (s : Sessions) (t : Int)
  (r : SessionRow)

def AcceptedByGet : Prop := b.reported collation s t r.sessionId = some r.toData

def ReturnedByListing (clients : List AuthenticatedClientScheme) : Prop :=
  ∃ found, (b.apply collation s ⟨t, .getSessionsForClients r.realmId clients⟩).result =
    .ok (.sessions found) ∧ r.toData ∈ found

def KeptByCollector : Prop := r ∈ b.step collation s ⟨t, .deleteExpiredSessions⟩

/-- The absolute deadline of the row is looked at and does not fit a `BIGINT`. SQLite has no such
bound. -/
def SqlBackend.Fails : Prop :=
  b ≠ .sqlite ∧ t < r.staleAt ∧ ¬ IsI64 (r.createdAt + r.maxAgeSeconds)

/-- What the three tests need so as to agree on a row: it is not looked at in the second of its first
deadline; one whose absolute deadline overflows is past its idle deadline; and no statement fails,
unless it is the collector's while the row lives. -/
structure OneLiveness : Prop where
  boundary : IsI64 (r.createdAt + r.maxAgeSeconds) →
    t ≠ min r.staleAt (r.createdAt + r.maxAgeSeconds)
  overflow : ¬ IsI64 (r.createdAt + r.maxAgeSeconds) → r.staleAt ≤ t
  collector : (∃ x ∈ s, b.Fails t x) →
    IsI64 (r.createdAt + r.maxAgeSeconds) ∧ t < min r.staleAt (r.createdAt + r.maxAgeSeconds)
  listing : t < min r.staleAt (r.createdAt + r.maxAgeSeconds) →
    ∀ x ∈ s, b.same collation x.realmId r.realmId = true → ¬ b.Fails t x

/-- The row is as a server wrote it, and the texts of its session can be bound. -/
structure SessionRow.Typed (clients : List AuthenticatedClientScheme) : Prop where
  clock : 0 ≤ t ∧ IsI64 t
  created : 0 ≤ r.createdAt ∧ IsI64 r.createdAt
  age : IsI64 r.maxAgeSeconds
  bindable : b.unbindable (StoreOp.texts (.getSession r.sessionId)) = false
  listable : b.unbindable (StoreOp.texts (.getSessionsForClients r.realmId clients)) = false

end

section
variable {W : Type} [DecidableEq W] {collation : String → W} {b : SqlBackend} {s : Sessions} {t : Int}
  {r : SessionRow} {clients : List AuthenticatedClientScheme}

theorem acceptedByGet_iff (hkeys : b.KeysApart collation s) (hr : r ∈ s)
    (htyped : r.Typed b t clients) :
    AcceptedByGet collation b s t r ↔
      IsI64 (r.createdAt + r.maxAgeSeconds) ∧ t ≤ r.staleAt ∧
        t ≤ r.createdAt + r.maxAgeSeconds := by
  unfold AcceptedByGet
  rw [SqlBackend.reported_of_plain (.of_getSession htyped.bindable (hkeys r hr))]
  cases he : SessionStore.expired t r with
  | true =>
    rw [SessionStore.getSession_of_expired hr he]
    simp only [reduceCtorEq, false_iff]
    rintro ⟨hfits, hlive⟩
    rw [(SessionStore.expired_eq_false_iff hfits).mpr hlive] at he
    cases he
  | false =>
    rw [SessionStore.getSession_of_live hr he]
    simp only [true_iff]
    by_cases hfits : IsI64 (r.createdAt + r.maxAgeSeconds)
    · exact ⟨hfits, (SessionStore.expired_eq_false_iff hfits).mp he⟩
    · rw [SessionStore.expired_of_overflow htyped.clock.1 htyped.created htyped.age hfits] at he
      cases he

theorem toData_injective {r r' : SessionRow} (hr : r ∈ s) (hr' : r' ∈ s)
    (h : r'.toData = r.toData) : r' = r := by
  apply Table.eq_of_key hr' hr
  exact congrArg SessionData.sessionId h

theorem sum_isSome_iff {x : SessionRow} (hx : t < x.staleAt) :
    ((b.engine collation).sum x.createdAt x.maxAgeSeconds).isSome = true ↔ ¬ b.Fails t x := by
  unfold SqlBackend.Fails
  cases b with
  | sqlite => simp [SqlBackend.engine]
  | postgres => simp [SqlBackend.engine, fits_iff, hx]
  | mysql => simp [SqlBackend.engine, fits_iff, hx]

theorem sum_eq_some {x : SessionRow} {d : Int}
    (h : (b.engine collation).sum x.createdAt x.maxAgeSeconds = some d) :
    d = x.createdAt + x.maxAgeSeconds := by
  cases b with
  | sqlite => exact (Option.some_inj.mp h).symm
  | postgres => exact (Range.add_eq_some.mp h).2.symm
  | mysql => exact (Range.add_eq_some.mp h).2.symm

theorem truth_isSome_iff {x : SessionRow} {realmId : String} {first : AuthenticatedClientScheme}
    {rest : List AuthenticatedClientScheme} :
    (SqlText.truth (b.engine collation) x.column
        (clientCondition realmId t first rest)).isSome = true ↔
      (b.same collation x.realmId realmId = true → ¬ b.Fails t x) := by
  rw [SqlBackend.truth_clientCondition]
  by_cases hlive : (b.engine collation).sameText x.realmId realmId = true ∧ t < x.staleAt
  · rw [if_pos hlive, Option.isSome_map, sum_isSome_iff hlive.2]
    exact ⟨fun h _ => h, fun h => h hlive.1⟩
  · rw [if_neg hlive]
    simp only [Option.isSome_some, true_iff]
    exact fun hsame hfails => hlive ⟨hsame, hfails.2.1⟩

theorem returnedByListing_iff (hr : r ∈ s) (htyped : r.Typed b t clients)
    {client : AuthenticatedClientScheme} (hc : client ∈ clients)
    (hname : r.username = client.username) (hscheme : r.authScheme = client.authScheme.json) :
    ReturnedByListing collation b s t r clients ↔
      (∀ x ∈ s, b.same collation x.realmId r.realmId = true → ¬ b.Fails t x) ∧
        t < r.staleAt ∧ t < r.createdAt + r.maxAgeSeconds := by
  obtain ⟨first, rest, rfl⟩ := List.exists_cons_of_ne_nil (List.ne_nil_of_mem hc)
  have hany : (first :: rest).any (SqlBackend.matchesUnder (b.engine collation) r) = true := by
    refine List.any_eq_true.mpr ⟨client, hc, ?_⟩
    rw [SqlBackend.matchesUnder, hname, hscheme, Bool.and_eq_true]
    exact ⟨SqlBackend.same_self _, SqlBackend.same_self _⟩
  have hself : (b.engine collation).sameText r.realmId r.realmId = true := SqlBackend.same_self _
  have hlisted : ReturnedByListing collation b s t r (first :: rest) ↔
      ∃ rows, SqlText.filterRows (b.engine collation) SessionRow.column
        (clientCondition r.realmId t first rest) s.rows = some rows ∧ r ∈ rows := by
    have hbind := htyped.listable
    unfold ReturnedByListing SqlBackend.apply
    simp only [hbind, Bool.false_eq_true, if_false, SqlBackend.rowsForClients_cons]
    cases hrows : SqlText.filterRows (b.engine collation) SessionRow.column
        (clientCondition r.realmId t first rest) s.rows with
    | none => simp
    | some rows =>
      simp only [Effects.Outcome.ok_result, Except.ok.injEq, StoreAnswer.sessions.injEq,
        exists_eq_left', Option.some_inj]
      constructor
      · intro hmem
        obtain ⟨r', hr', he⟩ := List.mem_map.mp hmem
        have hin : r' ∈ s := ((SqlText.mem_filterRows_iff (r := r')).mp ⟨rows, hrows, hr'⟩).2.1
        rwa [toData_injective hr hin he] at hr'
      · exact List.mem_map_of_mem
  rw [hlisted, SqlText.mem_filterRows_iff]
  simp only [truth_isSome_iff]
  constructor
  · rintro ⟨hsome, _, htrue⟩
    rw [SqlBackend.truth_clientCondition] at htrue
    split at htrue
    · rename_i hlive
      obtain ⟨d, hd, hmet⟩ := Option.map_eq_some_iff.mp htrue
      rw [sum_eq_some hd, Bool.and_eq_true, decide_eq_true_eq] at hmet
      exact ⟨hsome, hlive.2, hmet.1⟩
    · cases htrue
  · rintro ⟨hsome, hstale, habs⟩
    have hsum : ((b.engine collation).sum r.createdAt r.maxAgeSeconds).isSome = true :=
      (sum_isSome_iff hstale).mpr (hsome r hr hself)
    obtain ⟨d, hd⟩ := Option.isSome_iff_exists.mp hsum
    refine ⟨hsome, hr, ?_⟩
    rw [SqlBackend.truth_clientCondition, if_pos ⟨hself, hstale⟩, hd, sum_eq_some hd]
    simp [hany, habs]

theorem past_isSome_iff {x : SessionRow} :
    (b.past collation t x).isSome = true ↔ ¬ b.Fails t x := by
  unfold SqlBackend.past
  split
  · rename_i hstale
    simp only [Option.isSome_some, true_iff]
    intro hfails
    have := hfails.2.1
    omega
  · rename_i hstale
    have hlt : t < x.staleAt := by omega
    rw [Option.isSome_map, sum_isSome_iff hlt]

theorem past_eq_false_iff {x : SessionRow} (h : ¬ b.Fails t x) :
    (b.past collation t x).getD false = false ↔
      t < x.staleAt ∧ t < x.createdAt + x.maxAgeSeconds := by
  unfold SqlBackend.past
  split
  · rename_i hstale
    simp only [Option.getD_some, Bool.true_eq_false, false_iff]
    omega
  · rename_i hstale
    have hlt : t < x.staleAt := by omega
    have hsome : ((b.engine collation).sum x.createdAt x.maxAgeSeconds).isSome = true :=
      (sum_isSome_iff hlt).mpr h
    obtain ⟨d, hd⟩ := Option.isSome_iff_exists.mp hsome
    have hsum := sum_eq_some hd
    rw [hd, Option.map_some, Option.getD_some, decide_eq_false_iff_not]
    omega

theorem keptByCollector_iff (hr : r ∈ s) :
    KeptByCollector collation b s t r ↔
      (∃ x ∈ s, b.Fails t x) ∨ t < r.staleAt ∧ t < r.createdAt + r.maxAgeSeconds := by
  have hbind : b.unbindable (StoreOp.texts .deleteExpiredSessions) = false := by cases b <;> rfl
  have hall : (s.rows.all fun x => (b.past collation t x).isSome) = true ↔
      ¬ ∃ x ∈ s, b.Fails t x := by
    rw [List.all_eq_true]
    simp only [past_isSome_iff, not_exists, not_and]
    exact Iff.rfl
  simp only [KeptByCollector, SqlBackend.step, SqlBackend.apply, hbind, Bool.false_eq_true, if_false,
    SqlBackend.deleteExpiredSessions]
  by_cases hfail : ∃ x ∈ s, b.Fails t x
  · rw [if_neg (fun h => hall.mp h hfail)]
    exact iff_of_true hr (.inl hfail)
  · have hown : ¬ b.Fails t r := fun h => hfail ⟨r, hr, h⟩
    rw [if_pos (hall.mpr hfail)]
    simp only [Effects.Outcome.ok_state, Table.mem_deleteWhere, hr, true_and,
      past_eq_false_iff hown, hfail, false_or]

/-- The three tests of a session agree exactly under these conditions, the first of which fails of
every session in its time: there an access still finds it, while listings leave it out and the
collector deletes it. -/
theorem liveness_agrees_iff (hkeys : b.KeysApart collation s) (hr : r ∈ s)
    (htyped : r.Typed b t clients) (client : AuthenticatedClientScheme) (hc : client ∈ clients)
    (hname : r.username = client.username) (hscheme : r.authScheme = client.authScheme.json) :
    ((AcceptedByGet collation b s t r ↔ ReturnedByListing collation b s t r clients) ∧
      (AcceptedByGet collation b s t r ↔ KeptByCollector collation b s t r)) ↔
      OneLiveness collation b s t r := by
  rw [acceptedByGet_iff hkeys hr htyped, returnedByListing_iff hr htyped hc hname hscheme,
    keptByCollector_iff hr]
  -- A deadline out of range lies past every second of the clock.
  have hpast (hover : ¬ IsI64 (r.createdAt + r.maxAgeSeconds)) :
      t < r.createdAt + r.maxAgeSeconds := by
    obtain ⟨⟨_, ht⟩, ⟨hpos, _⟩, hage, _, _⟩ := htyped
    unfold IsI64 at *
    omega
  constructor
  · rintro ⟨hlist, hkept⟩
    have hover (hover : ¬ IsI64 (r.createdAt + r.maxAgeSeconds)) : r.staleAt ≤ t := by
      by_contra hstale
      exact hover (hkept.mpr (.inr ⟨by omega, hpast hover⟩)).1
    refine ⟨fun hfits heq => ?_, hover, fun hfail => ?_, fun hlt => ?_⟩
    · have hlisted := (hlist.mp ⟨hfits, by omega, by omega⟩).2
      omega
    · have haccepted := hkept.mpr (.inl hfail)
      have hlisted := (hlist.mp haccepted).2
      exact ⟨haccepted.1, by omega⟩
    · have hfits : IsI64 (r.createdAt + r.maxAgeSeconds) := by
        by_contra h
        have := hover h
        omega
      exact (hlist.mp ⟨hfits, by omega, by omega⟩).1
  · rintro ⟨hboundary, hover, hcollector, hlisting⟩
    have hfits (hstale : t < r.staleAt) : IsI64 (r.createdAt + r.maxAgeSeconds) := by
      by_contra h
      have := hover h
      omega
    constructor
    · constructor
      · rintro ⟨hfits, hidle, habs⟩
        have hne := hboundary hfits
        exact ⟨hlisting (by omega), by omega, by omega⟩
      · rintro ⟨_, hidle, habs⟩
        exact ⟨hfits hidle, by omega, by omega⟩
    · constructor
      · rintro ⟨hfits, hidle, habs⟩
        have hne := hboundary hfits
        exact .inr ⟨by omega, by omega⟩
      · rintro (hfail | ⟨hidle, habs⟩)
        · obtain ⟨hfits, hlt⟩ := hcollector hfail
          exact ⟨hfits, by omega, by omega⟩
        · exact ⟨hfits hidle, by omega, by omega⟩

end

def shortRow : SessionRow := newSession 0 "s" shortRealm ⟨"alice", .usernamePassword⟩ "cookie"

def shortTable : Sessions := ⟨[shortRow], by decide⟩

theorem mem_shortTable {x : SessionRow} : x ∈ shortTable ↔ x = shortRow := by
  simp [shortTable, Table.mem_def]

theorem keysApart_shortTable {W : Type} [DecidableEq W] {collation : String → W} {b : SqlBackend} :
    b.KeysApart collation shortTable := by
  intro x hx y hy _
  rw [mem_shortTable.mp hx, mem_shortTable.mp hy]

theorem typed_shortRow {t : Int} (h : 0 ≤ t ∧ IsI64 t) :
    shortRow.Typed .postgres t [⟨"alice", .usernamePassword⟩] :=
  ⟨h, by decide, by decide, by decide, by decide⟩

theorem liveness_agrees_shortSession :
    SqlBackend.postgres.KeysApart Transparent.caseless shortTable ∧ shortRow ∈ shortTable ∧
      shortRow.Typed .postgres 4 [⟨"alice", .usernamePassword⟩] ∧
      (AcceptedByGet Transparent.caseless .postgres shortTable 4 shortRow ↔
        KeptByCollector Transparent.caseless .postgres shortTable 4 shortRow) := by
  refine ⟨keysApart_shortTable, mem_shortTable.mpr rfl, typed_shortRow (by decide),
    ((liveness_agrees_iff keysApart_shortTable (mem_shortTable.mpr rfl)
      (typed_shortRow (by decide)) ⟨"alice", .usernamePassword⟩ (List.mem_singleton_self _) rfl
        rfl).mpr ?_).2⟩
  have hfits : ∀ x ∈ shortTable, ¬ SqlBackend.postgres.Fails 4 x := by
    rintro x hx ⟨_, _, hover⟩
    rw [mem_shortTable.mp hx] at hover
    exact hover (by decide)
  refine ⟨fun _ => by decide, fun hover => absurd (by decide) hover, ?_, fun _ x hx _ => hfits x hx⟩
  rintro ⟨x, hx, hfails⟩
  exact absurd hfails (hfits x hx)

/-- At the second of the idle deadline the session is accepted, yet the collector deletes it and a
listing leaves it out. -/
theorem collector_deletes_accepted_session :
    shortRow ∈ shortTable ∧
    AcceptedByGet Transparent.caseless .postgres shortTable 5 shortRow ∧
    ¬ ReturnedByListing Transparent.caseless .postgres shortTable 5 shortRow
      [⟨"alice", .usernamePassword⟩] ∧
    ¬ KeptByCollector Transparent.caseless .postgres shortTable 5 shortRow := by
  have hr : shortRow ∈ shortTable := mem_shortTable.mpr rfl
  have htyped : shortRow.Typed .postgres 5 [⟨"alice", .usernamePassword⟩] :=
    typed_shortRow (by decide)
  refine ⟨hr, (acceptedByGet_iff keysApart_shortTable hr htyped).mpr (by decide), fun h => ?_,
    fun h => ?_⟩
  · have hstale := ((returnedByListing_iff hr htyped (List.mem_singleton_self _) rfl rfl).mp h).2.1
    revert hstale
    decide
  · rcases (keptByCollector_iff hr).mp h with ⟨x, hx, _, _, hover⟩ | ⟨hstale, _⟩
    · rw [mem_shortTable.mp hx] at hover
      exact hover (by decide)
    · revert hstale
      decide

end AuthVerifier
