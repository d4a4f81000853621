import AuthVerifier.Jwks
import AuthVerifier.Lib.Run
import AuthVerifier.Transparent

/-!
What a lookup makes of the refresh it triggers. The answer is taken from the copy of the entry read
before the fetch, and the fetched sets replace the cached ones as a whole: a key that the refresh
brings is not seen by the lookup that asked for it, and the set of a URI that cannot be reached is
lost. Both promises hold exactly where there is nothing to see and nothing to lose.
-/

set_option autoImplicit false

namespace AuthVerifier.JwksManager
open Relational Transition

/-- A call of `find_jwk`, with what it meets outside. -/
structure Lookup where
  moment : Moment
  realmId : String
  kid : String

/-- The lookup misses the kid in the entry of its realm and is allowed to refresh it. -/
structure Refreshes (cache : JwksCache) (l : Lookup) (entry : RealmJwks) : Prop where
  cached : cache.find? l.realmId = some entry
  missing : entry.findJwk l.kid = none
  allowed : entry.isRefreshAllowed l.moment.nanos = true

/-- The URI is one of the realm's, and its endpoint answers with the set. -/
def Delivers (m : Moment) (entry : RealmJwks) (uri : String) (set : JwkSet) : Prop :=
  uri ∈ entry.uris ∧ m.fetchJwks uri = some set

def FreshKey (m : Moment) (entry : RealmJwks) (kid : String) (jwk : Jwk) : Prop :=
  ∃ uri set, Delivers m entry uri set ∧ jwk ∈ set ∧ jwk.keyId = some kid

/-- What `find_jwk` is to answer: the cached key; after a refresh a key of the fetched sets, and
nothing only if they have none; nothing where no refresh is allowed. -/
def SeesOwnRefresh (cache : JwksCache) (l : Lookup) : Prop :=
  ∀ entry, cache.find? l.realmId = some entry →
    match entry.findJwk l.kid with
    | some jwk => (findJwk cache l.moment l.realmId l.kid).2 = .ok (some jwk)
    | none =>
      if entry.isRefreshAllowed l.moment.nanos then
        (∃ jwk, FreshKey l.moment entry l.kid jwk ∧
          (findJwk cache l.moment l.realmId l.kid).2 = .ok (some jwk)) ∨
        (¬ ∃ jwk, FreshKey l.moment entry l.kid jwk) ∧
          (findJwk cache l.moment l.realmId l.kid).2 = .ok none
      else (findJwk cache l.moment l.realmId l.kid).2 = .ok none

/-- A refresh keeps the set of each URI that it cannot fetch and replaces the others. -/
def RetainsFailed (cache : JwksCache) (l : Lookup) : Prop :=
  ∀ entry, Refreshes cache l entry →
    ∃ entry', (findJwk cache l.moment l.realmId l.kid).1.find? l.realmId = some entry' ∧
      ∀ uri set, (uri, set) ∈ entry'.jwks ↔
        Delivers l.moment entry uri set ∨
          (uri, set) ∈ entry.jwks ∧ ¬ ∃ fresh, Delivers l.moment entry uri fresh

def AllCachedDeliver (cache : JwksCache) (l : Lookup) : Prop :=
  ∀ entry, Refreshes cache l entry →
    ∀ uri set, (uri, set) ∈ entry.jwks → ∃ fresh, Delivers l.moment entry uri fresh

def refreshed (m : Moment) (entry : RealmJwks) : RealmJwks :=
  { entry with lastUpdate := some m.nanos, jwks := fetchAll m entry.uris }

def lookup (cache : JwksCache) (l : Lookup) : JwksCache :=
  (findJwk cache l.moment l.realmId l.kid).1

section
variable {cache : JwksCache} {l : Lookup} {entry : RealmJwks}

theorem findJwk_of_refreshes (h : Refreshes cache l entry) :
    findJwk cache l.moment l.realmId l.kid =
      (setJwks cache l.moment l.realmId (fetchAll l.moment entry.uris), .ok none) := by
  simp only [findJwk, h.cached, h.missing, h.allowed, if_true]

theorem findJwk_of_cached {jwk : Jwk} (hcached : cache.find? l.realmId = some entry)
    (hfind : entry.findJwk l.kid = some jwk) :
    findJwk cache l.moment l.realmId l.kid = (cache, .ok (some jwk)) := by
  simp only [findJwk, hcached, hfind]

theorem findJwk_of_throttled (hcached : cache.find? l.realmId = some entry)
    (hfind : entry.findJwk l.kid = none)
    (hnot : entry.isRefreshAllowed l.moment.nanos = false) :
    findJwk cache l.moment l.realmId l.kid = (cache, .ok none) := by
  simp only [findJwk, hcached, hfind, hnot, Bool.false_eq_true, if_false]

theorem find?_of_refreshes (h : Refreshes cache l entry) :
    (lookup cache l).find? l.realmId = some (refreshed l.moment entry) := by
  rw [lookup, findJwk_of_refreshes h]
  exact @Table.find?_updateWhere_key _ _ _ _ cache l.realmId entry
    (fun r => { r with lastUpdate := some l.moment.nanos,
                       jwks := fetchAll l.moment entry.uris }) (fun _ => rfl) h.cached

theorem lookup_of_not_refreshes (h : ∀ entry, ¬ Refreshes cache l entry) :
    lookup cache l = cache := by
  unfold lookup
  cases hcached : cache.find? l.realmId with
  | none => simp only [findJwk, hcached]
  | some entry =>
    cases hfind : entry.findJwk l.kid with
    | some jwk => rw [findJwk_of_cached hcached hfind]
    | none =>
      cases hallowed : entry.isRefreshAllowed l.moment.nanos with
      | false => rw [findJwk_of_throttled hcached hfind hallowed]
      | true => exact absurd ⟨hcached, hfind, hallowed⟩ (h entry)

theorem lookup_other {realmId : String} (hne : realmId ≠ l.realmId) :
    (lookup cache l).find? realmId = cache.find? realmId := by
  by_cases h : ∃ entry, Refreshes cache l entry
  · obtain ⟨entry, h⟩ := h
    rw [lookup, findJwk_of_refreshes h, setJwks]
    refine Table.find?_congr fun x hx => ?_
    simp only [Table.mem_updateWhere_key]
    constructor
    · rintro (⟨hmem, -⟩ | ⟨old, -, hid, rfl⟩)
      · exact hmem
      · exact absurd (hx.symm.trans hid) hne
    · exact fun hmem => .inl ⟨hmem, fun hid => hne (hx.symm.trans hid)⟩
  · rw [lookup_of_not_refreshes (fun entry he => h ⟨entry, he⟩)]

theorem not_seesOwnRefresh (hr : Refreshes cache l entry)
    (hfresh : ∃ jwk, FreshKey l.moment entry l.kid jwk) : ¬ SeesOwnRefresh cache l := by
  intro h
  have hsees := h entry hr.cached
  simp only [hr.missing, hr.allowed, if_true, findJwk_of_refreshes hr] at hsees
  rcases hsees with ⟨jwk, -, hanswer⟩ | ⟨hnone, -⟩
  · cases hanswer
  · exact hnone hfresh

/-- A lookup sees its own refresh exactly when it makes none, or the refresh brings no key of that
kid. -/
theorem find_jwk_sees_refresh_iff (cache : JwksCache) (l : Lookup) :
    SeesOwnRefresh cache l ↔
      ∀ entry, Refreshes cache l entry → ¬ ∃ jwk, FreshKey l.moment entry l.kid jwk := by
  constructor
  · intro h entry hr hfresh
    exact not_seesOwnRefresh hr hfresh h
  · intro h entry hcached
    cases hfind : entry.findJwk l.kid with
    | some jwk => simp only [findJwk_of_cached hcached hfind]
    | none =>
      cases hallowed : entry.isRefreshAllowed l.moment.nanos with
      | false =>
        simp only [Bool.false_eq_true, if_false]
        rw [findJwk_of_throttled hcached hfind hallowed]
      | true =>
        simp only [if_true]
        have hr : Refreshes cache l entry := ⟨hcached, hfind, hallowed⟩
        refine .inr ⟨h entry hr, ?_⟩
        rw [findJwk_of_refreshes hr]

theorem next_lookup_finds (h : Refreshes cache l entry) {jwk : Jwk}
    (hfresh : FreshKey l.moment entry l.kid jwk) (later : Moment) :
    ∃ found, (findJwk (lookup cache l) later l.realmId l.kid).2 = .ok (some found) ∧
      FreshKey l.moment entry l.kid found := by
  have hentry := find?_of_refreshes h
  obtain ⟨uri, set, hdelivers, hmem, hkid⟩ := hfresh
  have hset : (uri, set) ∈ fetchAll l.moment entry.uris := mem_fetchAll.mpr hdelivers
  cases hfind : (refreshed l.moment entry).findJwk l.kid with
  | none =>
    have hnone := List.findSome?_eq_none_iff.mp hfind (uri, set) hset
    have hno := List.find?_eq_none.mp hnone jwk hmem
    simp [hkid] at hno
  | some found =>
    refine ⟨found, ?_, ?_⟩
    · simp only [findJwk, hentry, hfind]
    · obtain ⟨⟨uri', set'⟩, hmem', hfound⟩ := List.exists_of_findSome?_eq_some hfind
      refine ⟨uri', set', mem_fetchAll.mp hmem', List.mem_of_find?_eq_some hfound, ?_⟩
      simpa using List.find?_some hfound

theorem retainsFailed_iff (cache : JwksCache) (l : Lookup) :
    RetainsFailed cache l ↔ AllCachedDeliver cache l := by
  constructor
  · intro h entry hr uri set hmem
    obtain ⟨entry', hentry', hsets⟩ := h entry hr
    by_contra hfails
    -- the set is to stay, yet only delivered sets are there
    have hkept : (uri, set) ∈ entry'.jwks := (hsets uri set).mpr (.inr ⟨hmem, hfails⟩)
    have hafter := (find?_of_refreshes hr).symm.trans hentry'
    rw [← Option.some.inj hafter] at hkept
    exact hfails ⟨set, mem_fetchAll.mp hkept⟩
  · intro h entry hr
    refine ⟨_, find?_of_refreshes hr, fun uri set => ?_⟩
    rw [refreshed, mem_fetchAll]
    constructor
    · exact fun hdelivers => .inl hdelivers
    · rintro (hdelivers | ⟨hmem, hfails⟩)
      · exact hdelivers
      · exact absurd (h entry hr uri set hmem) hfails

/-- Over any sequence of lookups from any cache: every refresh keeps the sets it cannot fetch
exactly when every refresh fetches all URIs that have a set. -/
theorem jwks_retention_iff (cache : JwksCache) (lookups : List Lookup) :
    (∀ x ∈ trace lookup cache lookups, RetainsFailed x.1 x.2) ↔
      ∀ x ∈ trace lookup cache lookups, AllCachedDeliver x.1 x.2 :=
  trace_forall_iff lookup retainsFailed_iff lookups

def KnownKey (realmId uri kid : String) (cache : JwksCache) : Prop :=
  ∃ entry set, cache.find? realmId = some entry ∧ (uri, set) ∈ entry.jwks ∧
    (set.findKid kid).isSome

theorem knownKey_run {realmId uri kid : String} {lookups : List Lookup}
    (hknown : KnownKey realmId uri kid cache)
    (hdeliver : ∀ x ∈ trace lookup cache lookups, AllCachedDeliver x.1 x.2)
    (hpublished : ∀ l ∈ lookups, ∀ set, l.moment.fetchJwks uri = some set →
      (set.findKid kid).isSome) :
    KnownKey realmId uri kid (run lookup cache lookups) := by
  refine run_keeps_of lookup (KnownKey realmId uri kid)
    (C := fun cache l => AllCachedDeliver cache l ∧
      ∀ set, l.moment.fetchJwks uri = some set → (set.findKid kid).isSome)
    hknown ?_ lookups
    (fun x hx => ⟨hdeliver x hx, hpublished x.2 (mem_of_mem_trace lookup hx)⟩)
  rintro cache l ⟨entry, set, hentry, hmem, hkid⟩ ⟨hdeliver, hpublished⟩
  by_cases hid : realmId = l.realmId
  · by_cases h : ∃ entry, Refreshes cache l entry
    · obtain ⟨entry', hr⟩ := h
      have hsame : entry' = entry :=
        Option.some.inj (hr.cached.symm.trans (hid ▸ hentry))
      subst hsame
      obtain ⟨fresh, hdelivers⟩ := hdeliver entry' hr uri set hmem
      refine ⟨_, fresh, hid ▸ find?_of_refreshes hr, mem_fetchAll.mpr hdelivers, ?_⟩
      exact hpublished fresh hdelivers.2
    · rw [lookup_of_not_refreshes (fun entry he => h ⟨entry, he⟩)]
      exact ⟨entry, set, hentry, hmem, hkid⟩
  · exact ⟨entry, set, (lookup_other hid).trans hentry, hmem, hkid⟩

end

def rotatedEntry : RealmJwks :=
  { realmId := "r", uris := ["https://idp/jwks"]
    jwks := [("https://idp/jwks", [⟨some "k1", "m1"⟩])]
    lastUpdate := some 0, smallestRefreshInterval := none }

def rotatedCache : JwksCache := Table.empty.insert rotatedEntry (by simp [Table.keys, Table.empty])

def rotatedMoment : Moment :=
  { Transparent.moment 1000 with
    fetchJwks := fun _ => some [⟨some "k1", "m1"⟩, ⟨some "k2", "m2"⟩] }

theorem rotatedCache_find : rotatedCache.find? "r" = some rotatedEntry := by decide

/-- The first lookup of the new key fetches it and answers that there is none. -/
theorem rotated_key_missed : ¬ SeesOwnRefresh rotatedCache ⟨rotatedMoment, "r", "k2"⟩ := by
  refine not_seesOwnRefresh ⟨rotatedCache_find, by decide, by decide⟩ ⟨⟨some "k2", "m2"⟩, ?_⟩
  exact ⟨"https://idp/jwks", _, ⟨by decide, rfl⟩, by decide, rfl⟩

/-- During an outage one lookup of an unknown kid drops the key that was known. -/
theorem outage_drops_known_key :
    ¬ (∀ x ∈ trace lookup rotatedCache [⟨Transparent.moment 1000, "r", "unknown"⟩],
      RetainsFailed x.1 x.2) := by
  intro h
  have hretains := h (rotatedCache, ⟨Transparent.moment 1000, "r", "unknown"⟩) (by simp [trace])
  have hr : Refreshes rotatedCache ⟨Transparent.moment 1000, "r", "unknown"⟩ rotatedEntry :=
    ⟨rotatedCache_find, by decide, by decide⟩
  obtain ⟨_, _, hfetch⟩ := (retainsFailed_iff _ _).mp hretains rotatedEntry hr
    "https://idp/jwks" [⟨some "k1", "m1"⟩] (by decide)
  cases hfetch

end AuthVerifier.JwksManager
