import AuthVerifier.CredentialFrame
import AuthVerifier.Server
import AuthVerifier.Lib.Phc

/-!
Stored password hashes: which strings are accepted for one, what a login attempt against them costs,
and whether any password can pass. A caller may submit a hash that was computed elsewhere.
-/

set_option autoImplicit false

namespace AuthVerifier
open Effects Relational Transition

namespace Argon2

def presetCosts : Phc.Costs
  | .m => 65536
  | .t => 3
  | .p => 4

section
variable (limits : Phc.Limits)

def argon2Params (h : Phc.Record) : Option Argon2Params :=
  (Phc.costs limits h).map fun costs => ⟨costs .m, costs .t, costs .p⟩

structure Describes (h : Phc.Record) (parsed : PasswordHash) : Prop where
  algorithm : parsed.algorithm = String.ofList h.ident
  version : parsed.version = h.version
  params : parsed.params.toOption = argon2Params limits h
  salt : parsed.salt = h.salt.map String.ofList
  hash : parsed.hash = h.output.map String.ofList

/-- There is a hash to compare with, and a salt that Argon2 takes to compute another one. -/
structure Comparable (h : Phc.Record) : Prop where
  salt : ∃ salt, h.salt = some salt ∧ Phc.isBytes 8 48 salt = true
  output : ∃ output, h.output = some output

structure Crates (X : Externals) : Prop where
  parse : ∀ s h, Phc.parse s.toList = some h →
    ∃ parsed, X.parsePhc s = .ok parsed ∧ Describes limits h parsed
  refuse : ∀ s, Phc.parse s.toList = none → ∃ e, X.parsePhc s = .error e
  /-- A hash is written with the parameters it is computed with. -/
  hash : ∀ salt password s, X.argon2Hash salt password = .ok s → ∃ salt output,
    s.toList = Phc.render "argon2id".toList "v=19".toList "m=65536,t=3,p=4".toList salt output ∧
      Phc.isSalt salt = true ∧ Phc.isBytes 8 48 salt = true ∧ Phc.isOutput output = true
  verify : ∀ h parsed password, Describes limits h parsed →
    X.argon2Verify parsed password = true → Comparable h
  /-- The server's own parameters can be set. -/
  preset : (∀ k, limits.value k (presetCosts k) = true) ∧ limits.whole presetCosts = true

/-- The cost that the string stands for: the last one it gives, or the default. -/
def StandsFor (h : Phc.Record) (k : Phc.Cost) (n : Nat) : Prop :=
  (Phc.given k h.params).elim (n = Phc.defaults k) fun value => Phc.readDecimal value = some n

/-- Argon2id in the server's version at the server's costs, and no unknown parameter. -/
structure Preset (h : Phc.Record) : Prop where
  ident : h.ident = "argon2id".toList
  version : h.version = some 19
  m : StandsFor h .m 65536
  t : StandsFor h .t 3
  p : StandsFor h .p 4
  known : ∀ param ∈ h.params, Phc.isParam limits param = true

def Specified (s : String) : Prop :=
  ∃ h, Phc.parse s.toList = some h ∧ Preset limits h ∧ h.salt ≠ none ∧ h.output ≠ none

def Usable (s : String) : Prop := ∃ h, Phc.parse s.toList = some h ∧ Comparable h

def Complete (s : String) : Prop :=
  ∀ h, Phc.parse s.toList = some h → Preset limits h → Comparable h

end

section
variable (X : Externals)

def Accepted (s : String) : Prop := validateArgon2PhcString X s = .ok ()

def verifyCosts (stored : String) : Option Argon2Params :=
  match X.parsePhc stored with
  | .ok parsed => parsed.params.toOption
  | .error _ => none

end

section
variable {limits : Phc.Limits} {X : Externals}

theorem argon2Params_eq_iff (hX : Crates limits X) {h : Phc.Record} :
    argon2Params limits h = some serverArgon2Params ↔ StandsFor h .m 65536 ∧ StandsFor h .t 3 ∧
      StandsFor h .p 4 ∧ ∀ param ∈ h.params, Phc.isParam limits param = true := by
  rw [argon2Params, Option.map_eq_some_iff]
  constructor
  · rintro ⟨costs, hcosts, hpreset⟩
    obtain ⟨-, hknown, hgives⟩ := Phc.costs_eq_some_iff.mp hcosts
    have hm : costs .m = 65536 := congrArg Argon2Params.mCost hpreset
    have ht : costs .t = 3 := congrArg Argon2Params.tCost hpreset
    have hp : costs .p = 4 := congrArg Argon2Params.pCost hpreset
    have hstands (k : Phc.Cost) : StandsFor h k (costs k) := hgives k
    exact ⟨hm ▸ hstands .m, ht ▸ hstands .t, hp ▸ hstands .p, hknown⟩
  · rintro ⟨hm, ht, hp, hknown⟩
    refine ⟨presetCosts, Phc.costs_eq_some_iff.mpr ⟨hX.preset.2, hknown, ?_⟩, rfl⟩
    intro k
    cases k with
    | m => exact hm
    | t => exact ht
    | p => exact hp

theorem validateArgon2PhcString_ok_iff {s : String} : validateArgon2PhcString X s = .ok () ↔
    ∃ parsed, X.parsePhc s = .ok parsed ∧ parsed.algorithm = "argon2id" ∧
      parsed.version = some 19 ∧ parsed.params = .ok serverArgon2Params := by
  unfold validateArgon2PhcString
  cases X.parsePhc s with
  | error e => simp
  | ok parsed =>
    simp only [Except.ok.injEq, exists_eq_left']
    by_cases halgorithm : parsed.algorithm = "argon2id"
    · by_cases hversion : parsed.version = some 19
      · cases hparams : parsed.params with
        | error e => simp [halgorithm, hversion]
        | ok params => by_cases hsame : params = serverArgon2Params <;> simp [halgorithm, hversion, hsame]
      · simp [halgorithm, hversion]
    · simp [halgorithm]

theorem accepted_iff (hX : Crates limits X) {s : String} :
    Accepted X s ↔ ∃ h, Phc.parse s.toList = some h ∧ Preset limits h := by
  rw [Accepted, validateArgon2PhcString_ok_iff]
  cases hparse : Phc.parse s.toList with
  | none =>
    obtain ⟨e, he⟩ := hX.refuse s hparse
    simp [he]
  | some h =>
    obtain ⟨parsed, hparsed, hdescribes⟩ := hX.parse s h hparse
    have hident : parsed.algorithm = "argon2id" ↔ h.ident = "argon2id".toList := by
      rw [hdescribes.algorithm, ← String.toList_inj, String.toList_ofList]
    have hparams : parsed.params = .ok serverArgon2Params ↔
        argon2Params limits h = some serverArgon2Params := by
      rw [← hdescribes.params]
      cases parsed.params <;> simp [Except.toOption]
    simp only [hparsed, Except.ok.injEq, Option.some.injEq, exists_eq_left', hident,
      hdescribes.version, hparams, argon2Params_eq_iff hX]
    constructor
    · rintro ⟨hident, hversion, hm, ht, hp, hknown⟩
      exact ⟨hident, hversion, hm, ht, hp, hknown⟩
    · intro hpreset
      exact ⟨hpreset.ident, hpreset.version, hpreset.m, hpreset.t, hpreset.p, hpreset.known⟩

theorem verifyCosts_of_accepted (hX : Crates limits X) {s : String} (h : Accepted X s) :
    verifyCosts X s = some serverArgon2Params := by
  obtain ⟨record, hparse, hpreset⟩ := (accepted_iff hX).mp h
  obtain ⟨parsed, hparsed, hdescribes⟩ := hX.parse s record hparse
  rw [verifyCosts, hparsed]
  exact hdescribes.params.trans
    ((argon2Params_eq_iff hX).mpr ⟨hpreset.m, hpreset.t, hpreset.p, hpreset.known⟩)

theorem not_verified_of_not_usable (hX : Crates limits X) {s : String} (h : ¬ Usable s)
    (password : String) : verifyPasswordArgon2 X s password ≠ .ok () := by
  unfold verifyPasswordArgon2
  cases hparse : Phc.parse s.toList with
  | none =>
    obtain ⟨e, he⟩ := hX.refuse s hparse
    simp [he]
  | some record =>
    obtain ⟨parsed, hparsed, hdescribes⟩ := hX.parse s record hparse
    rw [hparsed]
    dsimp only
    split
    · rename_i hverify
      exact absurd ⟨record, hparse, hX.verify record parsed password hdescribes hverify⟩ h
    · simp

def presetParams : List (List Char × List Char) :=
  [("m".toList, "65536".toList), ("t".toList, "3".toList), ("p".toList, "4".toList)]

theorem parse_hash {salt output : List Char} (hsalt : Phc.isSalt salt = true)
    (houtput : Phc.isOutput output = true) :
    Phc.parse (Phc.render "argon2id".toList "v=19".toList "m=65536,t=3,p=4".toList salt output) =
      some ⟨"argon2id".toList, some 19, presetParams, some salt, some output⟩ := by
  have hversion : Phc.readDecimal ("v=19".toList.drop 2) = some 19 := by decide
  have hparams : Phc.readParams "m=65536,t=3,p=4".toList = some presetParams := by decide
  refine Phc.parse_render (by decide) (fun fields => ?_) (fun fields => ?_) (by decide) hsalt houtput
  · rw [Phc.readVersion, if_pos (by decide), hversion, Option.map_some]
  · rw [Phc.readParameters, if_pos (by decide), hparams, Option.map_some]

theorem hashed_complete (hX : Crates limits X) {salt password s : String}
    (h : hashPasswordWithArgon2 X salt password = .ok s) : Accepted X s ∧ Usable s := by
  unfold hashPasswordWithArgon2 at h
  split at h
  · rename_i phc hhash
    cases h
    obtain ⟨saltText, output, htext, hsalt, hbytes, houtput⟩ := hX.hash salt password s hhash
    have hparse := parse_hash hsalt houtput
    rw [← htext] at hparse
    have hvalue := hX.preset.1
    have hknown : ∀ param ∈ presetParams, Phc.isParam limits param = true := by
      simp only [presetParams, List.forall_mem_cons, List.not_mem_nil, false_implies, implies_true,
        and_true]
      exact ⟨hvalue .m, hvalue .t, hvalue .p⟩
    have hm : Phc.readDecimal "65536".toList = some 65536 := by decide
    have ht : Phc.readDecimal "3".toList = some 3 := by decide
    have hp : Phc.readDecimal "4".toList = some 4 := by decide
    have hpreset : Preset limits
        ⟨"argon2id".toList, some 19, presetParams, some saltText, some output⟩ :=
      ⟨rfl, rfl, hm, ht, hp, hknown⟩
    exact ⟨(accepted_iff hX).mpr ⟨_, hparse, hpreset⟩, _, hparse, ⟨saltText, rfl, hbytes⟩,
      ⟨output, rfl⟩⟩
  · cases h

theorem accepted_specified_iff (hX : Crates limits X) (s : String) :
    ((Accepted X s ↔ Specified limits s) ∧ (Accepted X s → Usable s)) ↔ Complete limits s := by
  rw [accepted_iff hX]
  constructor
  · rintro ⟨-, husable⟩ h hparse hpreset
    obtain ⟨h', hparse', hcomparable⟩ := husable ⟨h, hparse, hpreset⟩
    rw [hparse] at hparse'
    cases hparse'
    exact hcomparable
  · intro hcomplete
    refine ⟨⟨?_, ?_⟩, ?_⟩
    · rintro ⟨h, hparse, hpreset⟩
      obtain ⟨⟨salt, hsalt, -⟩, output, houtput⟩ := hcomplete h hparse hpreset
      exact ⟨h, hparse, hpreset, by simp [hsalt], by simp [houtput]⟩
    · rintro ⟨h, hparse, hpreset, -, -⟩
      exact ⟨h, hparse, hpreset⟩
    · rintro ⟨h, hparse, hpreset⟩
      exact ⟨h, hparse, hcomplete h hparse hpreset⟩

end
end Argon2

open Argon2

def AdminRequest.passwordInput : AdminRequest → Option PasswordInput
  | .createUserpass _ body | .updateUserpass _ _ body => body.passwordInput
  | _ => none

/-- Every row had its hash before the request, or has the one that the request brings. -/
def KeepsHashes (X : Externals) (salt : String) (db : Database) (req : AdminRequest)
    (db' : Database) : Prop :=
  ∀ row ∈ db'.userpass, (∃ old ∈ db.userpass, old.password = row.password) ∨
    Endpoints.createdHash X salt req.passwordInput = .ok row.password

section
variable {X : Externals} {salt : String} {db db' : Database} {req : AdminRequest}

theorem KeepsHashes.of_subset (h : ∀ row ∈ db'.userpass, row ∈ db.userpass) :
    KeepsHashes X salt db req db' :=
  fun row hrow => .inl ⟨row, h row hrow, rfl⟩

theorem KeepsHashes.of_setUserpass {realm user : String} {f : UserPassRow → UserPassRow}
    {hf : ∀ r, (f r).key = r.key}
    (h : ∀ r, (f r).password = r.password ∨
      Endpoints.createdHash X salt req.passwordInput = .ok (f r).password) :
    KeepsHashes X salt db req (db.setUserpass realm user f hf) := by
  intro row hrow
  simp only [Database.setUserpass, Table.mem_updateWhere] at hrow
  obtain ⟨old, hold, rfl⟩ := hrow
  split
  · exact (h old).imp (fun hsame => ⟨old, hold, hsame.symm⟩) id
  · exact .inl ⟨old, hold, rfl⟩

theorem updateUserpass_hashes (requester : Admin) (realm user : String) (body : UserPass)
    (db : Database) :
    KeepsHashes X salt db (.updateUserpass realm user body)
      (Endpoints.updateUserpass X salt requester realm user body db).state := by
  have hsame : KeepsHashes X salt db (.updateUserpass realm user body) db :=
    .of_subset fun _ h => h
  unfold Endpoints.updateUserpass
  split
  · exact hsame
  · cases checkExtraClaims X body.extraClaims with
    | error e => exact hsame
    | ok _ =>
      dsimp only
      split
      · split
        · exact hsame
        · exact .of_setUserpass fun _ => .inl rfl
      · rename_i plaintext hinput
        split
        · exact hsame
        · rename_i hash hhash
          refine .of_setUserpass fun _ => .inr ?_
          simp [AdminRequest.passwordInput, hinput, Endpoints.createdHash, hhash]
      · rename_i hashed hinput
        split
        · exact hsame
        · rename_i hvalid
          refine .of_setUserpass fun _ => .inr ?_
          simp [AdminRequest.passwordInput, hinput, Endpoints.createdHash, hvalid]

theorem handleAdmin_hashes (params : ServerParams) (m : Moment) (requester : Admin) (db : Database)
    (req : AdminRequest) :
    KeepsHashes X m.salt db req (handleAdmin X params m requester db req).state := by
  have hsame {req : AdminRequest} {db' : Database} (h : db'.userpass = db.userpass) :
      KeepsHashes X m.salt db req db' :=
    .of_subset fun row hrow => h ▸ hrow
  have hwrites : Writes X params m requester db req (handleAdmin X params m requester db req).state :=
    handleAdmin_writes m requester db req
  generalize hstate : (handleAdmin X params m requester db req).state = db' at hwrites ⊢
  cases hwrites with
  | nothing => exact hsame rfl
  | createAdmin body => exact hsame (createAdmin_userpass _ _)
  | updateAdmin id body => exact hsame (updateAdmin_userpass _ _)
  | deleteAdmin id => exact hsame rfl
  | deleteAdminCascade id u => exact .of_subset fun row hrow => (Table.mem_deleteWhere.mp hrow).1
  | addAdminToRealm id realm => exact hsame (updateAdmin_userpass _ _)
  | removeAdminFromRealm id realm => exact hsame (updateAdmin_userpass _ _)
  | createRealm body realm _ _ _ hd => exact hsame (Database.createRealm_ok hd).2.2.1
  | updateRealm id body => exact hsame rfl
  | deleteRealm id => exact .of_subset fun row hrow => (Table.mem_deleteWhere.mp hrow).1
  | createUserpass realm hash body db₁ _ hp hd =>
    intro row hrow
    rw [autoLink_userpass] at hrow
    rcases ((Database.createUserpass_ok hd).2.1 row).mp hrow with hold | rfl
    · exact .inl ⟨row, hold, rfl⟩
    · exact .inr hp
  | updateUserpass realm user hash body =>
    rw [← hstate]
    exact updateUserpass_hashes requester realm user body db
  | updateUserpassMetadata realm user body => exact .of_setUserpass fun _ => .inl rfl
  | deleteUserpass realm user =>
    refine .of_subset fun row hrow => ?_
    rw [autoUnlink_userpass] at hrow
    exact (Table.mem_deleteWhere.mp hrow).1
  | totpVerify realm body _ _ _ hd => exact hsame (enableTotp_userpass hd)
  | totpDisable realm user => exact hsame rfl

def Submits (c : Call) (hash : String) : Prop :=
  ∃ query cookie req, c.request = .admin query cookie req ∧
    req.passwordInput = some (.hashed hash)

/-- What holds of every hash that the server computes, and of every accepted one that a run is
given, holds of every hash that the run stores. -/
theorem run_hashes {P : String → Prop} {initial : String} {calls : List Call}
    (hinitial : P initial)
    (hcomputed : ∀ salt password hash, hashPasswordWithArgon2 X salt password = .ok hash → P hash)
    (hsubmitted : ∀ call ∈ calls, ∀ hash, Submits call hash → Accepted X hash → P hash)
    (params : ServerParams) :
    ∀ row ∈ (run (step X params) (.initial initial) calls).db.userpass, P row.password := by
  refine run_keeps_of (step X params) (fun s => ∀ row ∈ s.db.userpass, P row.password)
    (C := fun _ call => ∀ hash, Submits call hash → Accepted X hash → P hash) ?_ ?_ calls
    fun x hx => hsubmitted x.2 (mem_of_mem_trace _ hx)
  · intro row hrow
    obtain rfl : row = ⟨adminRealm, Database.appRealmAdminUsername, initial, true, [], none⟩ :=
      List.mem_singleton.mp hrow
    exact hinitial
  · intro s call hold hcall row hrow
    rcases step_handleAdmin X params s call with hdb | ⟨query, cookie, req, requester, hreq, hdb⟩
    · exact hold row (hdb ▸ hrow)
    · rw [hdb] at hrow
      rcases handleAdmin_hashes params call.moment requester s.db req row hrow with
        ⟨old, hmem, hsame⟩ | hcreated
      · exact hsame ▸ hold old hmem
      · generalize row.password = hash at hcreated ⊢
        unfold Endpoints.createdHash at hcreated
        split at hcreated
        · split at hcreated
          · rename_i hhash
            cases hcreated
            exact hcomputed _ _ _ hhash
          · cases hcreated
        · rename_i hinput
          split at hcreated
          · rename_i haccepted
            cases hcreated
            exact hcall _ ⟨query, cookie, req, hreq, hinput⟩ haccepted
          · cases hcreated
        · cases hcreated

/-- A submitted hash is accepted for what it should be, and can then be compared with, if and only
if a string of the preset comes with a hash and a salt that is long enough. The costs of a login are
the preset in any case. -/
theorem stored_hashes_usable_iff (limits : Phc.Limits) (X : Externals) (params : ServerParams)
    (hX : Crates limits X) :
    (∀ hash, ((Accepted X hash ↔ Specified limits hash) ∧ (Accepted X hash → Usable hash)) ↔
      Complete limits hash) ∧
    (∀ hash, Accepted X hash → verifyCosts X hash = some serverArgon2Params) ∧
    (∀ hash, ¬ Usable hash → ∀ password, verifyPasswordArgon2 X hash password ≠ .ok ()) ∧
    ∀ salt password initial, hashPasswordWithArgon2 X salt password = .ok initial →
      Accepted X initial ∧ Usable initial ∧ ∀ calls,
        let db := (run (step X params) (.initial initial) calls).db
        (∀ row ∈ db.userpass, verifyCosts X row.password = some serverArgon2Params) ∧
        ((∀ call ∈ calls, ∀ hash, Submits call hash → Complete limits hash) →
          ∀ row ∈ db.userpass, Usable row.password) := by
  refine ⟨accepted_specified_iff hX, fun hash => verifyCosts_of_accepted hX,
    fun hash => not_verified_of_not_usable hX, ?_⟩
  intro salt password initial hinitial
  obtain ⟨haccepted, husable⟩ := hashed_complete hX hinitial
  refine ⟨haccepted, husable, fun calls => ⟨?_, fun hcalls => ?_⟩⟩
  · exact run_hashes (verifyCosts_of_accepted hX haccepted)
      (fun _ _ _ hhash => verifyCosts_of_accepted hX (hashed_complete hX hhash).1)
      (fun _ _ _ _ => verifyCosts_of_accepted hX) params
  · exact run_hashes husable (fun _ _ _ hhash => (hashed_complete hX hhash).2)
      (fun call hcall hash hsubmits =>
        ((accepted_specified_iff hX hash).mpr (hcalls call hcall hash hsubmits)).2) params

end
namespace Transparent

def argon2Output (password : String) : List Char :=
  let bytes := password.toList.map fun c : Char => UInt8.ofNat c.toNat
  (Base64.encode ((bytes ++ List.replicate 32 0).take 32)).filter (· != '=')

def argon2Limits : Phc.Limits where
  value
    | .m, n => decide (8 ≤ n)
    | .t, n => decide (1 ≤ n)
    | .p, n => decide (1 ≤ n ∧ n < 2 ^ 24)
  whole costs := decide (8 * costs .p ≤ costs .m)

example : (Phc.parse "$argon2id$v=19$m=1024,m=65536,p=4".toList).bind (argon2Params argon2Limits) =
    some serverArgon2Params := by
  decide

def passwordHash (h : Phc.Record) : PasswordHash :=
  { algorithm := String.ofList h.ident, version := h.version,
    params := match argon2Params argon2Limits h with
      | some params => .ok params
      | none => .error "invalid parameter",
    salt := h.salt.map String.ofList, hash := h.output.map String.ofList }

def parsePhc (s : String) : Except String PasswordHash :=
  match Phc.parse s.toList with
  | some h => .ok (passwordHash h)
  | none => .error "password hash string invalid"

def argon2Hash (salt password : String) : Except String String :=
  if Phc.isSalt salt.toList ∧ Phc.isBytes 8 48 salt.toList ∧
      Phc.isOutput (argon2Output password) then
    .ok (String.ofList (Phc.render "argon2id".toList "v=19".toList "m=65536,t=3,p=4".toList
      salt.toList (argon2Output password)))
  else .error "salt invalid"

def argon2Verify (parsed : PasswordHash) (password : String) : Bool :=
  parsed.salt.any (fun salt => Phc.isBytes 8 48 salt.toList) &&
    parsed.hash == some (String.ofList (argon2Output password))

def argon2Externals : Externals :=
  { externals with parsePhc := parsePhc, argon2Hash := argon2Hash, argon2Verify := argon2Verify }

theorem describes_passwordHash (h : Phc.Record) : Describes argon2Limits h (passwordHash h) where
  algorithm := rfl
  version := rfl
  params := by cases hparams : argon2Params argon2Limits h <;> simp [passwordHash, hparams, Except.toOption]
  salt := rfl
  hash := rfl

theorem argon2Crates : Argon2.Crates argon2Limits argon2Externals where
  parse s h hparse := by
    have hparsed : parsePhc s = .ok (passwordHash h) := by rw [parsePhc, hparse]
    exact ⟨passwordHash h, hparsed, describes_passwordHash h⟩
  refuse s hparse := by
    have hrefused : parsePhc s = .error "password hash string invalid" := by rw [parsePhc, hparse]
    exact ⟨_, hrefused⟩
  hash salt password s h := by
    have hhash : argon2Hash salt password = .ok s := h
    unfold argon2Hash at hhash
    split at hhash
    · rename_i hvalid
      rw [← Except.ok.inj hhash]
      exact ⟨salt.toList, argon2Output password, String.toList_ofList, hvalid⟩
    · cases hhash
  verify h parsed password hdescribes hverify := by
    obtain ⟨hsalt, houtput⟩ := Bool.and_eq_true_iff.mp hverify
    rw [hdescribes.salt] at hsalt
    rw [hdescribes.hash, beq_iff_eq] at houtput
    obtain ⟨_, hmap, hbytes⟩ := (Option.any_eq_true _ _).mp hsalt
    obtain ⟨salt, hsome, rfl⟩ := Option.map_eq_some_iff.mp hmap
    obtain ⟨output, hstored, -⟩ := Option.map_eq_some_iff.mp houtput
    rw [String.toList_ofList] at hbytes
    exact ⟨⟨salt, hsome, hbytes⟩, output, hstored⟩
  preset := ⟨fun k => by cases k <;> decide, by decide⟩

/-- The first login, and a credential with a hash that was computed elsewhere. -/
def imports (hash : String) : List Call :=
  [rootLogin,
   ⟨moment 1001, .admin "" (some rootCookie) (.createUserpass adminRealm
      { realm := adminRealm, username := "alice", passwordInput := some (.hashed hash),
        changePassword := false })⟩]

def initialPhc : String :=
  "$argon2id$v=19$m=65536,t=3,p=4$c29tZXNhbHQ$Y2hhbmdlX21lAAAAAAAAAAAAAAAAAAAAAAAAAAAAAAA"

def alicePhc : String :=
  "$argon2id$v=19$m=65536,t=3,p=4$c29tZXNhbHQ$Y29ycmVjdCBob3JzZQAAAAAAAAAAAAAAAAAAAAAAAAA"

def barePhc : String := "$argon2id$v=19$m=65536,t=3,p=4"

theorem phc_facts :
    hashPasswordWithArgon2 argon2Externals "c29tZXNhbHQ" "change_me" = .ok initialPhc ∧
    (Phc.parse alicePhc.toList).any
      (fun h => h.salt.any (Phc.isBytes 8 48) && h.output.isSome) = true ∧
    Phc.parse barePhc.toList = some ⟨"argon2id".toList, some 19, presetParams, none, none⟩ ∧
    validateArgon2PhcString argon2Externals barePhc = .ok () ∧
    ∀ hash ∈ [alicePhc, barePhc],
      (run (step argon2Externals params) (.initial initialPhc) (imports hash)).db.userpass.rows.map
        UserPassRow.password = [initialPhc, hash] := by
  decide

theorem complete_alicePhc : Complete argon2Limits alicePhc := by
  intro h hparse _
  have hfields := phc_facts.2.1
  rw [hparse, Option.any_some, Bool.and_eq_true] at hfields
  exact ⟨(Option.any_eq_true _ _).mp hfields.1, Option.isSome_iff_exists.mp hfields.2⟩

/-- A hash with all of its fields is stored, and can be compared with. -/
theorem stored_hashes_usable_iff_alice :
    let db := (run (step argon2Externals params) (.initial initialPhc) (imports alicePhc)).db
    db.userpass.rows.map UserPassRow.password = [initialPhc, alicePhc] ∧
      ∀ row ∈ db.userpass, Usable row.password ∧
        verifyCosts argon2Externals row.password = some serverArgon2Params := by
  obtain ⟨hinitial, -, -, -, hruns⟩ := phc_facts
  obtain ⟨-, -, -, hstart⟩ := stored_hashes_usable_iff argon2Limits argon2Externals params
    argon2Crates
  obtain ⟨-, -, hrun⟩ := hstart _ _ _ hinitial
  obtain ⟨hcosts, husable⟩ := hrun (imports alicePhc)
  refine ⟨hruns _ List.mem_cons_self, fun row hrow => ⟨husable ?_ row hrow, hcosts row hrow⟩⟩
  intro call hcall hash hsubmits
  obtain ⟨query, cookie, req, hreq, hinput⟩ := hsubmits
  rcases List.mem_pair.mp hcall with rfl | rfl
  · cases hreq
  · cases hreq
    cases hinput
    exact complete_alicePhc

/-- The parameters alone are accepted, and stored for a credential that no password passes. -/
theorem unusable_hash_accepted :
    Accepted argon2Externals barePhc ∧ ¬ Specified argon2Limits barePhc ∧
      (∀ password, verifyPasswordArgon2 argon2Externals barePhc password ≠ .ok ()) ∧
      ∃ row ∈ (run (step argon2Externals params) (.initial initialPhc) (imports barePhc)).db.userpass,
        row.password = barePhc ∧ ¬ Usable row.password := by
  obtain ⟨-, -, hparse, haccepted, hruns⟩ := phc_facts
  have hunusable : ¬ Usable barePhc := by
    rintro ⟨h, hread, -, output, houtput⟩
    rw [hparse] at hread
    cases hread
    cases houtput
  refine ⟨haccepted, ?_, not_verified_of_not_usable argon2Crates hunusable, ?_⟩
  · rintro ⟨h, hread, -, hsalt, -⟩
    rw [hparse] at hread
    cases hread
    exact hsalt rfl
  · have hstored : barePhc ∈ [initialPhc, barePhc] := List.mem_cons_of_mem _ List.mem_cons_self
    rw [← hruns barePhc (List.mem_cons_of_mem _ List.mem_cons_self)] at hstored
    obtain ⟨row, hrow, hpassword⟩ := List.mem_map.mp hstored
    exact ⟨row, hrow, hpassword, hpassword ▸ hunusable⟩

end Transparent
end AuthVerifier
