import AuthVerifier.Lib.Table
import AuthVerifier.Lib.Text
import AuthVerifier.Tokens
import Mathlib.Data.List.Induction

/-!
Bearer tokens of a realm's identity providers, following `middleware/jwt`. The cache of a realm
pools the key sets of all its providers; a `HashMap` of key sets is the list of its entries in
iteration order.
-/

set_option autoImplicit false

namespace AuthVerifier
open Relational

def smallestRefreshInterval : Int := 60

structure RealmJwks where
  realmId : String
  uris : List String
  jwks : List (String × JwkSet)
  lastUpdate : Option Int
  smallestRefreshInterval : Option Int
  deriving DecidableEq

abbrev JwksCache := Table RealmJwks String RealmJwks.realmId

def JwkSet.findKid (set : JwkSet) (kid : String) : Option Jwk :=
  set.find? (fun jwk => jwk.keyId == some kid)

def RealmJwks.findJwk (r : RealmJwks) (kid : String) : Option Jwk :=
  r.jwks.findSome? (fun entry => entry.2.findKid kid)

def RealmJwks.isRefreshAllowed (r : RealmJwks) (nanos : Int) : Bool :=
  match r.lastUpdate with
  | none => true
  | some last =>
    last + (r.smallestRefreshInterval.getD AuthVerifier.smallestRefreshInterval) * 1000000000 < nanos

def collectEntries (entries : List (String × JwkSet)) : List (String × JwkSet) :=
  entries.foldl (fun acc e => acc.filter (fun x => x.1 != e.1) ++ [e]) []

theorem collectEntries_concat (entries : List (String × JwkSet)) (e : String × JwkSet) :
    collectEntries (entries ++ [e]) =
      (collectEntries entries).filter (fun x => x.1 != e.1) ++ [e] := by
  simp [collectEntries]

theorem mem_collectEntries {entries : List (String × JwkSet)}
    (h : ∀ e ∈ entries, ∀ e' ∈ entries, e.1 = e'.1 → e = e') {x : String × JwkSet} :
    x ∈ collectEntries entries ↔ x ∈ entries := by
  induction entries using List.reverseRecOn with
  | nil => rfl
  | append_singleton entries e ih =>
    have hx := ih (fun a ha b hb => h a (List.mem_append_left _ ha) b (List.mem_append_left _ hb))
    rw [collectEntries_concat, List.mem_append, List.mem_append, List.mem_filter, hx,
      List.mem_singleton, bne_iff_ne]
    constructor
    · rintro (⟨hmem, -⟩ | rfl)
      · exact .inl hmem
      · exact .inr rfl
    · rintro (hmem | rfl)
      · by_cases hkey : x.1 = e.1
        · exact .inr (h x (List.mem_append_left _ hmem) e (by simp) hkey)
        · exact .inl ⟨hmem, hkey⟩
      · exact .inr rfl

namespace JwksManager

def fetchAll (m : Moment) (uris : List String) : List (String × JwkSet) :=
  m.jwksOrder.order (collectEntries
    (uris.filterMap (fun uri => (m.fetchJwks uri).map (fun set => (uri, set)))))

theorem mem_fetchAll {m : Moment} {uris : List String} {uri : String} {set : JwkSet} :
    (uri, set) ∈ fetchAll m uris ↔ uri ∈ uris ∧ m.fetchJwks uri = some set := by
  have hentry : ∀ x : String × JwkSet,
      x ∈ uris.filterMap (fun uri => (m.fetchJwks uri).map (fun set => (uri, set))) ↔
        x.1 ∈ uris ∧ m.fetchJwks x.1 = some x.2 := by
    rintro ⟨uri, set⟩
    simp only [List.mem_filterMap, Option.map_eq_some_iff, Prod.mk.injEq]
    constructor
    · rintro ⟨_, huri, _, hset, rfl, rfl⟩
      exact ⟨huri, hset⟩
    · rintro ⟨huri, hset⟩
      exact ⟨uri, huri, set, hset, rfl, rfl⟩
  unfold fetchAll
  rw [(m.jwksOrder.perm _).mem_iff, mem_collectEntries, hentry]
  intro e he e' he' hkey
  have hset := ((hentry e).mp he).2
  rw [hkey, ((hentry e').mp he').2] at hset
  exact Prod.ext hkey (Option.some.inj hset).symm

def hasRealm (cache : JwksCache) (realmId : String) : Bool := realmId ∈ cache.keys

def upsertRealm (cache : JwksCache) (m : Moment) (realmId : String) (uris : List String)
    (interval : Option Int) : JwksCache :=
  let entry : RealmJwks := ⟨realmId, uris, fetchAll m uris, some m.nanos, interval⟩
  if h : realmId ∈ cache.keys then
    cache.updateWhere (fun r => r.realmId == realmId) (fun r => { entry with realmId := r.realmId })
      (fun _ => rfl)
  else cache.insert entry h

def setJwks (cache : JwksCache) (m : Moment) (realmId : String) (jwks : List (String × JwkSet)) :
    JwksCache :=
  cache.updateWhere (fun r => r.realmId == realmId)
    (fun r => { r with lastUpdate := some m.nanos, jwks := jwks }) (fun _ => rfl)

/-- A missing key triggers a refresh, but the answer is looked up in the sets read before it. -/
def findJwk (cache : JwksCache) (m : Moment) (realmId kid : String) :
    JwksCache × Except AuthError (Option Jwk) :=
  match cache.find? realmId with
  | none => (cache, .error (.jwks s!"Realm `{realmId}` not found"))
  | some realm => match realm.findJwk kid with
    | some jwk => (cache, .ok (some jwk))
    | none =>
      if realm.isRefreshAllowed m.nanos then
        (setJwks cache m realmId (fetchAll m realm.uris), .ok (realm.findJwk kid))
      else (cache, .ok none)

end JwksManager

section
variable (X : Externals)

/-- The checks made on a provider's token: only `sub` is required to be present. -/
def idpValidation (idp : IdpParams) : Validation :=
  { requiredSpecClaims := [.sub], iss := some [idp.jwtIssuerUri],
    aud := idp.jwtAudience.map (fun a => [a]) }

def decodeBearerHeader (cache : JwksCache) (m : Moment) (realmId : String) (idp : IdpParams)
    (token : String) : JwksCache × Except AuthError ClientClaims :=
  match X.decodeHeaderKid token with
  | .error e => (cache, .error (.jwt s!"Failed to decode token header: {e}"))
  | .ok none => (cache, .error (.jwt "No 'kid' claim present in token"))
  | .ok (some kid) => match JwksManager.findJwk cache m realmId kid with
    | (cache, .error e) => (cache, .error e)
    | (cache, .ok none) => (cache, .error (.jwt
        s!"Realm: {realmId}: specified kid `{kid}` not found in JWKS set"))
    | (cache, .ok (some jwk)) => match X.verifyWithJwk jwk token with
      | .error e => (cache, .error (.jwt e))
      | .ok claims => match (idpValidation idp).check m.now claims.registered with
        | .error e => (cache, .error (.jwt s!"Cannot validate token: {e}"))
        | .ok () => (cache, .ok claims)

/-- The loop over the providers; each one meets the cache the previous one left. -/
def tryProviders (m : Moment) (realmId token : String) :
    JwksCache → List IdpParams → JwksCache × Except AuthError ClientClaims
  | cache, [] =>
    (cache, .error (.jwt "All JWT configurations failed to validate the token"))
  | cache, idp :: rest => match decodeBearerHeader X cache m realmId idp token with
    | (cache, .ok claims) => (cache, .ok claims)
    | (cache, .error _) => tryProviders m realmId token cache rest

def bearerToken (header : String) : Except AuthError String :=
  match Text.splitOnce ' ' header.toList with
  | some (scheme, token) =>
    if scheme = "Bearer".toList then
      if token.isEmpty then .error (.jwt "token is empty") else .ok (String.ofList token)
    else .error (.jwt "Bad authorization header content (expected 'Bearer <token>')")
  | none => .error (.jwt "Bad authorization header content (expected 'Bearer <token>')")

def tryClientClaimsFromToken (cache : JwksCache) (m : Moment) (realmId : String)
    (params : JwtParams) (header : String) : JwksCache × Except AuthError ClientClaims :=
  match bearerToken header with
  | .error e => (cache, .error e)
  | .ok token => tryProviders X m realmId token cache params.idpParams

def ensureRealmJwksIsManaged (cache : JwksCache) (m : Moment) (realmId : String)
    (params : JwtParams) : JwksCache :=
  if JwksManager.hasRealm cache realmId then cache
  else JwksManager.upsertRealm cache m realmId (params.idpParams.map IdpParams.jwksUri)
    params.smallestRefreshIntervalSeconds

def handleJwt (cache : JwksCache) (m : Moment) (realmId : String) (params : JwtParams)
    (header : String) : JwksCache × Except AuthError AuthenticatedClientScheme :=
  match tryClientClaimsFromToken X cache m realmId params header with
  | (cache, .error e) => (cache, .error e)
  | (cache, .ok claims) => match claims.registered.sub with
    | none => (cache, .error (.jwt "No subject in JWT"))
    | some sub => (cache, .ok { username := sub, authScheme := .jwt })

end

end AuthVerifier
