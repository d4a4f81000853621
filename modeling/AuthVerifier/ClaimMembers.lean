import AuthVerifier.ClaimPolicy

/-!
The JSON objects of session tokens and certificates, following the `serde` attributes of
`client_claims.rs` and `certificate_claims.rs`: absent claims are left out, and each flattened part
emits its members after those of the parts before it. On the way back every part takes the members it
knows and the map of extra claims collects the rest. The order of the extra claims is that of their
list here, which stands for any order of the map.
-/

set_option autoImplicit false

namespace AuthVerifier

/-- A JSON value as far as the typed claims tell values apart. -/
inductive Json where
  | null
  | string (s : String)
  | strings (l : List String)
  | integer (n : Int)
  | other (text : JsonText)
  deriving DecidableEq

/-- `serde_json` between values and their texts: a value that is read and written again keeps its
text. -/
structure JsonTexts where
  read : JsonText → Json
  write : Json → JsonText
  roundTrips : ∀ text, write (read text) = text

abbrev Members := List (String × Json)

def names (ms : Members) : List String := ms.map Prod.fst

/-- `skip_serializing_if = "Option::is_none"`. -/
def optional {α : Type} (name : String) (value : Option α) (f : α → Json) : Members :=
  (value.map fun v => (name, f v)).toList

def AuthScheme.code : AuthScheme → String
  | .usernamePassword => "up"
  | .jwt => "jwt"
  | .fido2 => "f2"
  | .digitalCredentials => "dc"
  | .clientCertificate => "cc"
  | .saml => "sa"

def RegisteredClaims.members (c : RegisteredClaims) : Members :=
  optional "iss" c.iss .string ++ optional "sub" c.sub .string ++ optional "aud" c.aud .strings
    ++ optional "exp" c.exp .integer ++ optional "nbf" c.nbf .integer
    ++ optional "iat" c.iat .integer ++ optional "jti" c.jti .string

def AuthorizationClaims.members (c : AuthorizationClaims) : Members :=
  optional "roles" c.roles .strings

def AuthPrivateClaims.members (c : AuthPrivateClaims) : Members :=
  optional "as_as" c.authScheme (fun s => .string s.code) ++ optional "as_rid" c.realmId .string

def extraMembers (J : JsonTexts) (extra : ExtraClaims) : Members :=
  extra.map fun e => (e.1, J.read e.2)

def ClientClaims.typedMembers (c : ClientClaims) : Members :=
  c.registered.members ++ c.authorization.members ++ c.privateClaims.members

def ClientClaims.members (J : JsonTexts) (c : ClientClaims) : Members :=
  c.typedMembers ++ extraMembers J c.extra

def CertificateClaims.typedMembers (c : CertificateClaims) : Members :=
  [("realm_id", .string c.realmId)] ++ optional "sub" c.sub .string
    ++ [("auth_scheme", .string c.authScheme.code), ("verification_key", .string c.verificationKey),
      ("iat", .integer c.iat), ("exp", .integer c.exp)]

def CertificateClaims.members (J : JsonTexts) (c : CertificateClaims) : Members :=
  c.typedMembers ++ extraMembers J c.extra

inductive ClaimsError where
  | duplicateField (name : String)
  | invalidType (name : String)
  deriving DecidableEq

def asString : Json → Option String
  | .string s => some s
  | _ => none

def asStrings : Json → Option (List String)
  | .strings l => some l
  | _ => none

def asInteger : Json → Option Int
  | .integer n => some n
  | _ => none

def asScheme (v : Json) : Option AuthScheme :=
  (asString v).bind fun s =>
    [AuthScheme.usernamePassword, .jwt, .fido2, .digitalCredentials, .clientCertificate, .saml].find?
      (fun scheme => scheme.code == s)

/-- `deserialize_aud`: one audience may come as a plain string. -/
def asAudience : Json → Option (List String)
  | .string s => some [s]
  | .strings l => some l
  | _ => none

def field {α : Type} (decode : Json → Option α) (ms : Members) (name : String) :
    Except ClaimsError (Option α) :=
  match ms.filter (fun m => m.1 == name) with
  | [] => .ok none
  | [(_, .null)] => .ok none
  | [(_, v)] => match decode v with
    | some a => .ok (some a)
    | none => .error (.invalidType name)
  | _ :: _ :: _ => .error (.duplicateField name)

def collect (J : JsonTexts) : Members → ExtraClaims
  | [] => []
  | m :: ms => if m.1 ∈ names ms then collect J ms else (m.1, J.write m.2) :: collect J ms

def ClientClaims.deserialize (J : JsonTexts) (ms : Members) : Except ClaimsError ClientClaims := do
  let iss ← field asString ms "iss"
  let sub ← field asString ms "sub"
  let aud ← field asAudience ms "aud"
  let exp ← field asInteger ms "exp"
  let nbf ← field asInteger ms "nbf"
  let iat ← field asInteger ms "iat"
  let jti ← field asString ms "jti"
  let roles ← field asStrings ms "roles"
  let authScheme ← field asScheme ms "as_as"
  let realmId ← field asString ms "as_rid"
  return {
    registered :=
      { iss := iss, sub := sub, aud := aud, exp := exp, nbf := nbf, iat := iat, jti := jti }
    authorization := { roles := roles }
    privateClaims := { authScheme := authScheme, realmId := realmId }
    extra := collect J (ms.filter (fun m => !clientClaimNames.contains m.1)) }

/-- The map of extra claims has each name once and none of a typed claim. -/
structure Checked (extra : ExtraClaims) : Prop where
  nodup : (extra.map Prod.fst).Nodup
  disjoint : ∀ name ∈ extra.map Prod.fst, name ∉ reservedClaimNames

@[simp] theorem names_append (ms ms' : Members) : names (ms ++ ms') = names ms ++ names ms' :=
  List.map_append

@[simp] theorem names_extraMembers (J : JsonTexts) (extra : ExtraClaims) :
    names (extraMembers J extra) = extra.map Prod.fst := by
  simp [names, extraMembers]

theorem names_optional {α : Type} (name : String) (value : Option α) (f : α → Json) :
    (names (optional name value f)).Sublist [name] := by
  cases value with
  | none => simp [names, optional]
  | some v => simp [names, optional]

theorem ClientClaims.names_typedMembers (c : ClientClaims) :
    (names c.typedMembers).Sublist clientClaimNames := by
  simp only [typedMembers, RegisteredClaims.members, AuthorizationClaims.members,
    AuthPrivateClaims.members, names_append]
  have hregistered :=
    ((((((names_optional "iss" c.registered.iss .string).append
      (names_optional "sub" c.registered.sub .string)).append
      (names_optional "aud" c.registered.aud .strings)).append
      (names_optional "exp" c.registered.exp .integer)).append
      (names_optional "nbf" c.registered.nbf .integer)).append
      (names_optional "iat" c.registered.iat .integer)).append
      (names_optional "jti" c.registered.jti .string)
  have hprivate := (names_optional "as_as" c.privateClaims.authScheme (fun s => .string s.code)).append
    (names_optional "as_rid" c.privateClaims.realmId .string)
  exact (hregistered.append (names_optional "roles" c.authorization.roles .strings)).append hprivate

theorem CertificateClaims.names_typedMembers (c : CertificateClaims) :
    (names c.typedMembers).Sublist certificateClaimNames := by
  simp only [typedMembers, names_append]
  exact ((List.Sublist.refl ["realm_id"]).append (names_optional "sub" c.sub .string)).append
    (List.Sublist.refl ["auth_scheme", "verification_key", "iat", "exp"])

/-- The names are those of two samples with every claim present. -/
example :
    clientClaimNames = names (ClientClaims.typedMembers
      { registered := { iss := some "", sub := some "", aud := some [], exp := some 0, nbf := some 0,
                        iat := some 0, jti := some "" }
        authorization := { roles := some [] }
        privateClaims := { authScheme := some .usernamePassword, realmId := some "" } }) ∧
    certificateClaimNames = names (CertificateClaims.typedMembers
      { realmId := "", sub := some "", authScheme := .usernamePassword, verificationKey := "",
        iat := 0, exp := 0, extra := [] }) := by
  decide

theorem nodup_append_extra {typed : Members} {extra : ExtraClaims} (J : JsonTexts)
    {known : List String} (hknown : known.Nodup) (hreserved : ∀ name ∈ known, name ∈ reservedClaimNames)
    (htyped : (names typed).Sublist known) (h : Checked extra) :
    (names (typed ++ extraMembers J extra)).Nodup := by
  rw [names_append, names_extraMembers, List.nodup_append]
  refine ⟨htyped.nodup hknown, h.nodup, ?_⟩
  rintro name hname _ hextra rfl
  exact h.disjoint name hextra (hreserved name (htyped.subset hname))

theorem ClientClaims.members_nodup (J : JsonTexts) {c : ClientClaims} (h : Checked c.extra) :
    (names (c.members J)).Nodup :=
  nodup_append_extra J (by decide) (fun _ hn => List.mem_append_left _ hn) c.names_typedMembers h

theorem CertificateClaims.members_nodup (J : JsonTexts) {c : CertificateClaims}
    (h : Checked c.extra) : (names (c.members J)).Nodup :=
  nodup_append_extra J (by decide) (fun _ hn => List.mem_append_right _ hn) c.names_typedMembers h

theorem filter_optional {α : Type} (name n : String) (value : Option α) (f : α → Json) :
    (optional n value f).filter (fun m => m.1 == name) =
      if n = name then optional n value f else [] := by
  cases value with
  | none => simp [optional]
  | some v =>
    by_cases hn : n = name
    · simp [optional, hn]
    · simp [optional, hn]

theorem typedMembers_filter (c : ClientClaims) (name : String) :
    c.typedMembers.filter (fun m => m.1 == name) =
      (if "iss" = name then optional "iss" c.registered.iss .string else []) ++
      (if "sub" = name then optional "sub" c.registered.sub .string else []) ++
      (if "aud" = name then optional "aud" c.registered.aud .strings else []) ++
      (if "exp" = name then optional "exp" c.registered.exp .integer else []) ++
      (if "nbf" = name then optional "nbf" c.registered.nbf .integer else []) ++
      (if "iat" = name then optional "iat" c.registered.iat .integer else []) ++
      (if "jti" = name then optional "jti" c.registered.jti .string else []) ++
      (if "roles" = name then optional "roles" c.authorization.roles .strings else []) ++
      (if "as_as" = name then
        optional "as_as" c.privateClaims.authScheme (fun s => .string s.code) else []) ++
      (if "as_rid" = name then optional "as_rid" c.privateClaims.realmId .string else []) := by
  simp only [ClientClaims.typedMembers, RegisteredClaims.members, AuthorizationClaims.members,
    AuthPrivateClaims.members, List.filter_append, filter_optional, List.append_assoc]

theorem field_eq {α : Type} {decode : Json → Option α} {f : α → Json} {ms : Members} {name : String}
    {value : Option α} (hf : ms.filter (fun m => m.1 == name) = optional name value f)
    (hdecode : ∀ a, decode (f a) = some a) (hnull : ∀ a, f a ≠ .null) :
    field decode ms name = .ok value := by
  unfold field
  rw [hf]
  cases value with
  | none => rfl
  | some a =>
    have ha := hdecode a
    cases hv : f a with
    | null => exact absurd hv (hnull a)
    | _ =>
      rw [hv] at ha
      simp [optional, hv, ha]

theorem asScheme_code (scheme : AuthScheme) : asScheme (.string scheme.code) = some scheme := by
  cases scheme <;> decide

theorem collect_extraMembers (J : JsonTexts) {extra : ExtraClaims}
    (h : (extra.map Prod.fst).Nodup) : collect J (extraMembers J extra) = extra := by
  induction extra with
  | nil => rfl
  | cons e extra ih =>
    rw [List.map_cons, List.nodup_cons] at h
    have hnew : e.1 ∉ names (extraMembers J extra) := by
      rw [names_extraMembers]
      exact h.1
    have hrest : collect J (extraMembers J extra) = extra := ih h.2
    simp only [extraMembers, List.map_cons, collect] at hnew hrest ⊢
    rw [if_neg hnew, hrest, J.roundTrips]

section
variable {c : ClientClaims} (J : JsonTexts) (h : Checked c.extra)
include h

theorem filter_members {name : String} (hname : name ∈ clientClaimNames) :
    (c.members J).filter (fun m => m.1 == name) =
      c.typedMembers.filter (fun m => m.1 == name) := by
  have hextra : (extraMembers J c.extra).filter (fun m => m.1 == name) = [] := by
    rw [List.filter_eq_nil_iff]
    intro m hm he
    have hmem : m.1 ∈ names (extraMembers J c.extra) := List.mem_map_of_mem hm
    rw [names_extraMembers] at hmem
    have hn : m.1 = name := by simpa using he
    exact h.disjoint m.1 hmem (hn ▸ List.mem_append_left _ hname)
  rw [ClientClaims.members, List.filter_append, hextra, List.append_nil]

theorem filter_not_typed :
    (c.members J).filter (fun m => !clientClaimNames.contains m.1) = extraMembers J c.extra := by
  have htyped : c.typedMembers.filter (fun m => !clientClaimNames.contains m.1) = [] := by
    rw [List.filter_eq_nil_iff]
    intro m hm
    have hmem : m.1 ∈ names c.typedMembers := List.mem_map_of_mem hm
    simpa using c.names_typedMembers.subset hmem
  have hextra : (extraMembers J c.extra).filter (fun m => !clientClaimNames.contains m.1) =
      extraMembers J c.extra := by
    rw [List.filter_eq_self]
    intro m hm
    have hmem : m.1 ∈ names (extraMembers J c.extra) := List.mem_map_of_mem hm
    rw [names_extraMembers] at hmem
    have hn : m.1 ∉ clientClaimNames :=
      fun hn => h.disjoint m.1 hmem (List.mem_append_left _ hn)
    simpa using hn
  rw [ClientClaims.members, List.filter_append, htyped, hextra, List.nil_append]

theorem field_members {α : Type} {decode : Json → Option α} {f : α → Json} {name : String}
    {value : Option α} (hf : c.typedMembers.filter (fun m => m.1 == name) = optional name value f)
    (hname : name ∈ clientClaimNames) (hdecode : ∀ a, decode (f a) = some a)
    (hnull : ∀ a, f a ≠ .null) : field decode (c.members J) name = .ok value :=
  field_eq ((filter_members J h hname).trans hf) hdecode hnull

theorem ClientClaims.deserialize_members : ClientClaims.deserialize J (c.members J) = .ok c := by
  have hiss : field asString (c.members J) "iss" = .ok c.registered.iss :=
    field_members J h (f := .string)
      (by simp [typedMembers_filter]) (by decide) (fun _ => rfl) (fun _ => nofun)
  have hsub : field asString (c.members J) "sub" = .ok c.registered.sub :=
    field_members J h (f := .string)
      (by simp [typedMembers_filter]) (by decide) (fun _ => rfl) (fun _ => nofun)
  have haud : field asAudience (c.members J) "aud" = .ok c.registered.aud :=
    field_members J h (f := .strings)
      (by simp [typedMembers_filter]) (by decide) (fun _ => rfl) (fun _ => nofun)
  have hexp : field asInteger (c.members J) "exp" = .ok c.registered.exp :=
    field_members J h (f := .integer)
      (by simp [typedMembers_filter]) (by decide) (fun _ => rfl) (fun _ => nofun)
  have hnbf : field asInteger (c.members J) "nbf" = .ok c.registered.nbf :=
    field_members J h (f := .integer)
      (by simp [typedMembers_filter]) (by decide) (fun _ => rfl) (fun _ => nofun)
  have hiat : field asInteger (c.members J) "iat" = .ok c.registered.iat :=
    field_members J h (f := .integer)
      (by simp [typedMembers_filter]) (by decide) (fun _ => rfl) (fun _ => nofun)
  have hjti : field asString (c.members J) "jti" = .ok c.registered.jti :=
    field_members J h (f := .string)
      (by simp [typedMembers_filter]) (by decide) (fun _ => rfl) (fun _ => nofun)
  have hroles : field asStrings (c.members J) "roles" = .ok c.authorization.roles :=
    field_members J h (f := .strings)
      (by simp [typedMembers_filter]) (by decide) (fun _ => rfl) (fun _ => nofun)
  have hscheme : field asScheme (c.members J) "as_as" = .ok c.privateClaims.authScheme :=
    field_members J h (f := fun s => .string s.code)
      (by simp [typedMembers_filter]) (by decide) asScheme_code (fun _ => nofun)
  have hrealm : field asString (c.members J) "as_rid" = .ok c.privateClaims.realmId :=
    field_members J h (f := .string)
      (by simp [typedMembers_filter]) (by decide) (fun _ => rfl) (fun _ => nofun)
  simp only [deserialize, hiss, hsub, haud, hexp, hnbf, hiat, hjti, hroles, hscheme, hrealm,
    filter_not_typed J h, collect_extraMembers J h.nodup]
  rfl

end

end AuthVerifier
