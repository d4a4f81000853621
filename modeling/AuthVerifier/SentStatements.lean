import AuthVerifier.SqlAgreement

/-!
The statements that a request sends to a bytewise engine, known before it is run: which of them, and
the rows that each of them meets, follow from the request and from the rows it begins with.
-/

set_option autoImplicit false

namespace AuthVerifier
open Effects Relational Schedule Prog

namespace Rows
variable (s : Rows)

/-- A new credential in a stored realm. -/
def enters (u : UserPass) : Bool :=
  !(s.userpass.any fun r => r.realm == u.realm && r.username == u.username) &&
    s.realm.any fun r => r.id == u.realm

def appoints (a : Admin) : Bool := !(s.admin.any fun r => r.id == a.id)

/-- A new membership of a stored admin in a stored realm. -/
def joins (adminId realmId : String) : Bool :=
  !(s.adminRealms.any fun r => r.adminId == adminId && r.realmId == realmId) &&
    ((s.admin.any fun r => r.id == adminId) && s.realm.any fun r => r.id == realmId)

/-- The rows as the statement leaves them where keys are compared bytewise. -/
def after (q : Query) : Rows := (Dialect.sqlite.exec q s).1

end Rows

theorem insertRow_ok {takes taken referenced : Bool} {s inserted : Rows} :
    (Query.insertRow takes taken referenced s inserted).2 = .ok () ↔
      takes = true ∧ taken = false ∧ referenced = true := by
  cases takes <;> cases taken <;> cases referenced <;> simp [Query.insertRow]

theorem enters_iff {s : Rows} {u : UserPass} :
    (Dialect.sqlite.exec (.insertUserpass u) s).2 = .ok () ↔ s.enters u = true := by
  have htakes : Dialect.sqlite.takes (.insertUserpass u) = true := rfl
  simp only [Dialect.exec, Query.exec, htakes, insertRow_ok, Queries.isEntry_columns, same_one,
    true_and, Rows.enters, Bool.and_eq_true, Bool.not_eq_true']

theorem appoints_iff {s : Rows} {a : Admin} :
    (Dialect.sqlite.exec (.insertAdmin a) s).2 = .ok () ↔ s.appoints a = true := by
  have htakes : Dialect.sqlite.takes (.insertAdmin a) = true := rfl
  simp only [Dialect.exec, Query.exec, htakes, insertRow_ok, same_one, true_and, and_true,
    Rows.appoints, Bool.not_eq_true']

theorem joins_iff {s : Rows} {adminId realmId : String} :
    (Dialect.sqlite.exec (.insertMembership adminId realmId) s).2 = .ok () ↔
      s.joins adminId realmId = true := by
  have htakes : Dialect.sqlite.takes (.insertMembership adminId realmId) = true := rfl
  simp only [Dialect.exec, Query.exec, htakes, insertRow_ok, same_one, same_two, true_and,
    Rows.joins, Bool.and_eq_true, Bool.not_eq_true']

/-- Statements in the order they are sent, each with the rows it meets. -/
abbrev Sent := List (Query × Rows)

namespace Sent
variable (requester : Admin) (s : Rows)

def listing : Sent :=
  (.selectAdmins, s) :: s.admin.map fun row => (.selectMemberships row.id, s)

def deciding (realmId : String) : Sent :=
  if requester.realms.contains realmId || !requester.isSuperAdmin then [] else listing s

/-- Up to the first realm that is refused. -/
def decidingEach : List String → Sent
  | [] => []
  | r :: rs => deciding requester s r ++ if s.manages requester r then decidingEach rs else []

def decidingAll (realms : List String) : Sent :=
  if realms.isEmpty then [] else decidingEach requester s realms

def reading (adminId : String) : Sent :=
  (.selectAdmin adminId, s) ::
    if (s.findAdmin adminId).isSome then [(.selectMemberships adminId, s)] else []

/-- Up to the first membership that is repeated, or in a realm that is not stored. -/
def joining (adminId : String) : List String → Rows → Sent
  | [], _ => []
  | r :: rs, s => (.insertMembership adminId r, s) ::
    if s.joins adminId r then joining adminId rs (s.after (.insertMembership adminId r)) else []

def storing (a : Admin) : Sent :=
  [(.updateAdmin a, s), (.deleteMemberships a.id, s.after (.updateAdmin a))] ++
    joining a.id a.realms ((s.after (.updateAdmin a)).after (.deleteMemberships a.id))

/-- What follows where the requester may manage the realm. -/
def managing (realmId : String) (next : Sent) : Sent :=
  deciding requester s realmId ++ if s.manages requester realmId then next else []

def owning (realms : List String) (next : Sent) : Sent :=
  decidingAll requester s realms ++ if s.managesAll requester realms then next else []

def finding (adminId : String) (next : Admin → Sent) : Sent :=
  reading s adminId ++ match s.findAdmin adminId with
    | none => []
    | some admin => next admin

/-- A credential of the admin realm is linked to the record of its name, or unlinked from it. -/
def relinking (realmId username : String) (relinked : Admin → Option Admin) : Sent :=
  if realmId = adminRealm then finding s username fun admin =>
    match relinked admin with
    | none => []
    | some admin => storing s admin
  else []

section
variable {requester s}

@[simp] theorem visits_listAdmins :
    Queries.listAdmins.visits Dialect.sqlite.exec s = listing s := by
  have hrow : ∀ row : AdminRow, ((call (Query.selectMemberships row.id)).bind fun realms =>
      done (Statements.adminOf row realms) : QueryProg Admin).visits Dialect.sqlite.exec s =
      [(.selectMemberships row.id, s)] := fun _ => rfl
  simp only [Queries.listAdmins, visits_bind, visits_call, run_call, Queries.on_selectAdmins]
  rw [visits_forEach Dialect.sqlite.exec (fun _ => by simp [Queries.on_selectMemberships]) hrow,
    listing, List.map_eq_flatMap]
  rfl

@[simp] theorem visits_canManageRealm (realmId : String) :
    (Queries.canManageRealm requester realmId).visits Dialect.sqlite.exec s =
      deciding requester s realmId := by
  unfold Queries.canManageRealm deciding
  cases hmember : requester.realms.contains realmId with
  | true => simp
  | false => cases hsuper : requester.isSuperAdmin <;> simp

@[simp] theorem visits_canManageAll (rs : List String) :
    (Queries.canManageAll requester rs).visits Dialect.sqlite.exec s =
      decidingEach requester s rs := by
  induction rs with
  | nil => rfl
  | cons r rs ih =>
    simp only [Queries.canManageAll, decidingEach, visits_bind, visits_canManageRealm,
      Queries.on_canManageRealm]
    cases s.manages requester r with
    | false => rfl
    | true => rw [if_pos rfl, if_pos rfl, ih]

@[simp] theorem visits_canManageAdminRealms (rs : List String) :
    (Queries.canManageAdminRealms requester rs).visits Dialect.sqlite.exec s =
      decidingAll requester s rs := by
  unfold Queries.canManageAdminRealms decidingAll
  split
  · rfl
  · exact visits_canManageAll rs

@[simp] theorem visits_getAdmin (id : String) :
    (Queries.getAdmin id).visits Dialect.sqlite.exec s = reading s id := by
  simp only [Queries.getAdmin, reading, Rows.findAdmin, visits_bind, visits_call, run_call,
    Queries.on_selectAdmin, Option.isSome_map]
  cases s.admin.find? fun r => r.id == id with
  | none => rfl
  | some row => simp

@[simp] theorem visits_insertMemberships (adminId : String) (rs : List String) :
    (Queries.insertMemberships adminId rs).visits Dialect.sqlite.exec s = joining adminId rs s := by
  induction rs generalizing s with
  | nil => rfl
  | cons r rs ih =>
    have hjoins := @joins_iff s adminId r
    simp only [Queries.insertMemberships, joining, visits_bind, visits_call, run_call]
    cases hexec : (Dialect.sqlite.exec (.insertMembership adminId r) s).2 with
    | error e =>
      rw [if_neg fun h => by cases hexec.symm.trans (hjoins.mpr h)]
      rfl
    | ok _ =>
      rw [if_pos (hjoins.mp hexec)]
      exact congrArg _ ih

@[simp] theorem visits_updateAdmin (a : Admin) :
    (Queries.updateAdmin a).visits Dialect.sqlite.exec s = storing s a := by
  simp only [Queries.updateAdmin, visits_bind, visits_call, run_call, visits_insertMemberships]
  rfl

@[simp] theorem visits_storeAdmin (a : Admin) :
    (QueryHandlers.storeAdmin a).visits Dialect.sqlite.exec s = storing s a := by
  simp only [QueryHandlers.storeAdmin, visits_bind, visits_updateAdmin, visits_done,
    List.append_nil]

theorem visits_managing {realmId : String} {refusal : AuthError}
    {next : QueryProg QueryHandlers.Response} {sent : Sent}
    (h : next.visits Dialect.sqlite.exec s = sent) :
    (QueryHandlers.managing requester realmId refusal next).visits Dialect.sqlite.exec s =
      managing requester s realmId sent := by
  simp only [QueryHandlers.managing, managing, visits_bind, visits_canManageRealm,
    Queries.on_canManageRealm]
  cases s.manages requester realmId with
  | false => rfl
  | true => rw [if_pos rfl, ← h]

theorem visits_owning {α : Type} {realms : List String} {next : Bool → QueryProg α} {sent : Sent}
    {refused : α} (hno : next false = done refused)
    (hyes : (next true).visits Dialect.sqlite.exec s = sent) :
    ((Queries.canManageAdminRealms requester realms).bind next).visits Dialect.sqlite.exec s =
      owning requester s realms sent := by
  simp only [owning, visits_bind, visits_canManageAdminRealms, Queries.on_canManageAdminRealms]
  cases s.managesAll requester realms with
  | false => rw [hno]; rfl
  | true => rw [if_pos rfl, ← hyes]

theorem visits_finding {α : Type} {id : String} {next : Option Admin → QueryProg α}
    {sent : Admin → Sent} {missing : α} (hnone : next none = done missing)
    (hsome : ∀ admin, (next (some admin)).visits Dialect.sqlite.exec s = sent admin) :
    ((Queries.getAdmin id).bind next).visits Dialect.sqlite.exec s = finding s id sent := by
  simp only [finding, visits_bind, visits_getAdmin, Queries.on_getAdmin]
  cases s.findAdmin id with
  | none => rw [hnone]; rfl
  | some admin => rw [hsome]

@[simp] theorem visits_relink (realmId username : String) (relinked : Admin → Option Admin) :
    (QueryHandlers.relink realmId username relinked).visits Dialect.sqlite.exec s =
      relinking s realmId username relinked := by
  unfold QueryHandlers.relink relinking
  split
  · refine visits_finding rfl fun admin => ?_
    dsimp only
    cases relinked admin with
    | none => rfl
    | some admin => exact visits_updateAdmin admin
  · rfl

end

section
variable (X : Externals) (params : ServerParams) (requester : Admin) (s : Rows)

def creatingUserpass (salt realm : String) (body : UserPass) : Sent :=
  managing requester s realm (match checkExtraClaims X body.extraClaims,
      Endpoints.createdHash X salt body.passwordInput with
    | .ok (), .ok hash =>
      let entry := { body with realm := realm, passwordHash := hash, passwordInput := none }
      (.insertUserpass entry, s) ::
        if s.enters entry then relinking (s.after (.insertUserpass entry)) realm body.username
          fun admin => if admin.userpass = some body.username then none
            else some { admin with userpass := some body.username }
        else []
    | _, _ => [])

/-- Whether a request without a password changes the claims of the stored credential. -/
def changesClaims (realm username : String) (requested : ExtraClaims) : Bool :=
  match (s.findEntry realm username).bind UserPassRow.extraClaims with
  | none => true
  | some stored => !stored.isPerm requested

def updatingUserpass (salt realm username : String) (body : UserPass) : Sent :=
  let entry := { body with realm := realm, username := username, passwordInput := none }
  managing requester s realm (match checkExtraClaims X body.extraClaims with
    | .error _ => []
    | .ok () => match body.passwordInput with
      | none =>
        let updated : Query :=
          .updateUserpassMetadata realm username body.changePassword body.roles
        match body.extraClaims with
        | none => [(updated, s)]
        | some requested => (.selectUserpass realm username, s) ::
          if changesClaims s realm username requested then [] else [(updated, s)]
      | some (.plaintext plaintext) => match hashPasswordWithArgon2 X salt plaintext with
        | .error _ => []
        | .ok hash => [(.updateUserpass { entry with passwordHash := hash }, s)]
      | some (.hashed hashed) => match validateArgon2PhcString X hashed with
        | .error _ => []
        | .ok () => [(.updateUserpass { entry with passwordHash := hashed }, s)])

def verifyingTotp (now : Int) (realm : String) (body : TotpVerifyRequest) : Sent :=
  managing requester s realm ((.selectRealm realm, s) ::
    match Statements.totpAccepts X now realm body (s.findRealm realm),
        Totps.fromSecret X body.secret (some realm) body.username none with
      | .ok (), .ok totps =>
        [(.enableTotp body.username body.secret (totps.getOtpauthUrl X), s)]
      | _, _ => [])

def deletingAdmin (adminId : String) : Sent :=
  reading s adminId ++ match s.findAdmin adminId with
    | none => if requester.isSuperAdmin then [(.deleteAdmin adminId, s)] else []
    | some target => owning requester s target.realms ((.deleteAdmin adminId, s) ::
        match target.userpass with
        | none => []
        | some username => [(.deleteUserpassByUsername username, s.after (.deleteAdmin adminId))])

def administering (c : AdminCall) : Sent :=
  match c.request with
  | .createAdmin body => owning c.requester s body.realms ((.insertAdmin body, s) ::
      if s.appoints body then joining body.id body.realms (s.after (.insertAdmin body)) else [])
  | .getAdmin id => finding s id fun target => decidingAll c.requester s target.realms
  | .updateAdmin id body => finding s id fun target => owning c.requester s target.realms
      (owning c.requester s body.realms (storing s { body with id := id }))
  | .deleteAdmin id => deletingAdmin c.requester s id
  | .listAdmins => if c.requester.isSuperAdmin then listing s else []
  | .addAdminToRealm id realm => managing c.requester s realm (finding s id fun admin =>
      let added := if admin.realms.contains realm then []
        else storing s { admin with realms := admin.realms ++ [realm] }
      if admin.realms.isEmpty then added else owning c.requester s admin.realms added)
  | .removeAdminFromRealm id realm => managing c.requester s realm (finding s id fun admin =>
      let kept := admin.realms.filter fun r => r != realm
      owning c.requester s admin.realms (if kept.length < admin.realms.length then
        storing s { admin with realms := kept } else []))
  | .createRealm body => if c.requester.isSuperAdmin then
      match Endpoints.checkSamlParams X params body with
      | .error _ => []
      | .ok realm => [(.insertRealm realm, s)]
    else []
  | .getRealm realm =>
    if c.requester.canAdministerRealm realm then [(.selectRealm realm, s)] else []
  | .updateRealm realm body => managing c.requester s realm
      (match Endpoints.checkSamlParams X params { body with id := realm } with
      | .error _ => []
      | .ok updated => [(.updateRealm updated, s)])
  | .deleteRealm realm =>
    if c.requester.canAdministerRealm realm then [(.deleteRealm realm, s)] else []
  | .listRealms => [(.selectRealms, s)]
  | .createUserpass realm body => creatingUserpass X c.requester s c.moment.salt realm body
  | .getUserpass realm username =>
    managing c.requester s realm [(.selectUserpass realm username, s)]
  | .updateUserpass realm username body =>
    updatingUserpass X c.requester s c.moment.salt realm username body
  | .deleteUserpass realm username => managing c.requester s realm
      ((.deleteUserpass realm username, s) ::
        relinking (s.after (.deleteUserpass realm username)) realm username fun admin =>
          if admin.userpass = some username then some { admin with userpass := none } else none)
  | .listUserpassByRealm realm => managing c.requester s realm [(.selectUserpassByRealm realm, s)]
  | .listAllUserpass =>
    if c.requester.isSuperAdmin then listing s ++ [(.selectAllUserpass, s)] else []
  | .totpGenerate realm _ => managing c.requester s realm [(.selectRealm realm, s)]
  | .totpVerify realm body => verifyingTotp X c.requester s c.moment.now realm body
  | .totpDisable realm username => managing c.requester s realm [(.disableTotp username, s)]

def loggingIn (query : String) (authorization : Option String) : Sent :=
  match realmParameter query with
  | none => []
  | some id => (.selectRealm id, s) ::
    match s.findRealm id, extractBasicAuthCredentials X authorization with
    | some realm, some (username, _) => match realm.authParams.usernamePasswordParams with
      | none => []
      | some _ => [(.selectPassword realm.id username, s)]
    | _, _ => []

/-- Whether the second factor of the administrator is switched on. -/
def asksToken (username : String) : Bool :=
  ((s.admin.find? (AdminRow.totpTarget username)).bind AdminRow.totpEnabled).getD false

def ofRequest : KeyedRequest → Sent
  | .administer c => administering X params s c
  | .passwordLogin query authorization => loggingIn X s query authorization
  | .secondFactor username => (.selectTotpEnabled username, s) ::
      if asksToken s username then [(.selectTotpSecret username, s)] else []
  | .grantedClaims realm username => [(.selectUserpass realm username, s)]
  | .findAdmins username => (.selectAdminIdsByUserpass username, s) ::
      ((s.admin.filter fun r => r.userpass == some username).map AdminRow.id).flatMap (reading s)
  | .realmRecord realm => [(.selectRealm realm, s)]

end

section
variable {X : Externals} {params : ServerParams} {requester : Admin} {s : Rows}

theorem visits_createAdmin (body : Admin) :
    (QueryHandlers.createAdmin requester body).visits Dialect.sqlite.exec s =
      owning requester s body.realms ((.insertAdmin body, s) ::
        if s.appoints body then joining body.id body.realms (s.after (.insertAdmin body))
        else []) := by
  refine visits_owning rfl ?_
  have happoints := @appoints_iff s body
  simp only [Queries.createAdmin, visits_bind, visits_call, visits_done, run_call, List.append_nil]
  cases hexec : (Dialect.sqlite.exec (.insertAdmin body) s).2 with
  | error e =>
    rw [if_neg fun h => by cases hexec.symm.trans (happoints.mpr h)]
    cases e <;> rfl
  | ok _ =>
    rw [if_pos (happoints.mp hexec)]
    exact congrArg _ (visits_insertMemberships body.id body.realms)

theorem visits_readAdmin (id : String) :
    (QueryHandlers.getAdmin requester id).visits Dialect.sqlite.exec s =
      finding s id fun target => decidingAll requester s target.realms := by
  refine visits_finding rfl fun target => ?_
  simp only [visits_bind, visits_canManageAdminRealms, Queries.on_canManageAdminRealms]
  cases s.managesAll requester target.realms <;> simp

theorem visits_changeAdmin (id : String) (body : Admin) :
    (QueryHandlers.updateAdmin requester id body).visits Dialect.sqlite.exec s =
      finding s id fun target => owning requester s target.realms
        (owning requester s body.realms (storing s { body with id := id })) :=
  visits_finding rfl fun _ => visits_owning rfl (visits_owning rfl (visits_storeAdmin _))

theorem visits_deleteAdmin (id : String) :
    (QueryHandlers.deleteAdmin requester id).visits Dialect.sqlite.exec s =
      deletingAdmin requester s id := by
  simp only [QueryHandlers.deleteAdmin, deletingAdmin, visits_bind, visits_getAdmin,
    Queries.on_getAdmin]
  cases s.findAdmin id with
  | none => cases hsuper : requester.isSuperAdmin <;> rfl
  | some target =>
    refine congrArg _ (visits_owning rfl ?_)
    cases target.userpass <;> rfl

theorem visits_addAdminToRealm (id realm : String) :
    (QueryHandlers.addAdminToRealm requester id realm).visits Dialect.sqlite.exec s =
      managing requester s realm (finding s id fun admin =>
        let added := if admin.realms.contains realm then []
          else storing s { admin with realms := admin.realms ++ [realm] }
        if admin.realms.isEmpty then added else owning requester s admin.realms added) := by
  refine visits_managing (visits_finding rfl fun admin => ?_)
  dsimp only
  cases hempty : admin.realms.isEmpty with
  | true =>
    simp only [if_true, visits_bind, visits_done, run_done, List.nil_append]
    cases admin.realms.contains realm <;> simp
  | false =>
    refine visits_owning rfl ?_
    cases admin.realms.contains realm <;> simp

theorem visits_removeAdminFromRealm (id realm : String) :
    (QueryHandlers.removeAdminFromRealm requester id realm).visits Dialect.sqlite.exec s =
      managing requester s realm (finding s id fun admin =>
        let kept := admin.realms.filter fun r => r != realm
        owning requester s admin.realms (if kept.length < admin.realms.length then
          storing s { admin with realms := kept } else [])) := by
  refine visits_managing (visits_finding rfl fun admin => visits_owning rfl ?_)
  dsimp only
  split
  · exact visits_storeAdmin _
  · rfl

theorem visits_createRealm (body : Realm) :
    (QueryHandlers.createRealm X params requester body).visits Dialect.sqlite.exec s =
      if requester.isSuperAdmin then match Endpoints.checkSamlParams X params body with
        | .error _ => []
        | .ok realm => [(.insertRealm realm, s)]
      else [] := by
  unfold QueryHandlers.createRealm
  cases requester.isSuperAdmin with
  | false => rfl
  | true => cases Endpoints.checkSamlParams X params body <;> rfl

theorem visits_updateRealm (realm : String) (body : Realm) :
    (QueryHandlers.updateRealm X params requester realm body).visits Dialect.sqlite.exec s =
      managing requester s realm
        (match Endpoints.checkSamlParams X params { body with id := realm } with
        | .error _ => []
        | .ok updated => [(.updateRealm updated, s)]) := by
  refine visits_managing ?_
  cases Endpoints.checkSamlParams X params { body with id := realm } <;> rfl

theorem visits_getRealm (realm : String) :
    (QueryHandlers.getRealm requester realm).visits Dialect.sqlite.exec s =
      if requester.canAdministerRealm realm then [(.selectRealm realm, s)] else [] := by
  unfold QueryHandlers.getRealm
  cases requester.canAdministerRealm realm with
  | false => rfl
  | true =>
    simp only [Bool.true_eq_false, if_false, if_true, visits_bind, Queries.on_getRealm]
    cases s.findRealm realm <;> rfl

theorem visits_deleteRealm (realm : String) :
    (QueryHandlers.deleteRealm requester realm).visits Dialect.sqlite.exec s =
      if requester.canAdministerRealm realm then [(.deleteRealm realm, s)] else [] := by
  unfold QueryHandlers.deleteRealm
  cases requester.canAdministerRealm realm <;> rfl

theorem visits_createUserpass (salt realm : String) (body : UserPass) :
    (QueryHandlers.createUserpass X salt requester realm body).visits Dialect.sqlite.exec s =
      creatingUserpass X requester s salt realm body := by
  refine visits_managing ?_
  cases checkExtraClaims X body.extraClaims with
  | error e => rfl
  | ok _ =>
    dsimp only
    cases Endpoints.createdHash X salt body.passwordInput with
    | error e => rfl
    | ok hash =>
      dsimp only
      generalize hentry : ({ body with
        realm := realm, passwordHash := hash, passwordInput := none } : UserPass) = entry
      have henters := @enters_iff s entry
      simp only [Queries.createUserpass, visits_bind, visits_call, visits_done, run_bind, run_call,
        run_done, List.append_nil]
      cases hexec : (Dialect.sqlite.exec (.insertUserpass entry) s).2 with
      | error e =>
        rw [if_neg fun h => by cases hexec.symm.trans (henters.mpr h)]
        cases e <;> rfl
      | ok _ =>
        rw [if_pos (henters.mp hexec), ← hentry]
        refine congrArg _ ?_
        simp only [Queries.fromInsert, QueryHandlers.autoLink, visits_bind, visits_relink,
          visits_done, List.append_nil]
        rfl

theorem visits_getUserpass (realm username : String) :
    (QueryHandlers.getUserpass requester realm username).visits Dialect.sqlite.exec s =
      managing requester s realm [(.selectUserpass realm username, s)] := by
  refine visits_managing ?_
  simp only [visits_bind, Queries.on_getUserpass]
  cases (s.findEntry realm username).map fun r => r.toUserPass "" <;> rfl

theorem visits_extraClaimsChanged (realm username : String) (requested : ExtraClaims) :
    (QueryHandlers.extraClaimsChanged realm username (some requested)).visits
        Dialect.sqlite.exec s = [(.selectUserpass realm username, s)] ∧
      (QueryHandlers.extraClaimsChanged realm username (some requested)).run
        Dialect.sqlite.exec s = (s, changesClaims s realm username requested) := by
  simp only [QueryHandlers.extraClaimsChanged, changesClaims, visits_bind, run_bind,
    Queries.on_getUserpass]
  cases s.findEntry realm username with
  | none => exact ⟨rfl, rfl⟩
  | some entry =>
    simp only [Option.map_some, Option.bind_some, UserPassRow.toUserPass]
    cases entry.extraClaims <;> exact ⟨rfl, rfl⟩

theorem visits_updateUserpass (salt realm username : String) (body : UserPass) :
    (QueryHandlers.updateUserpass X salt requester realm username body).visits
      Dialect.sqlite.exec s = updatingUserpass X requester s salt realm username body := by
  refine visits_managing ?_
  cases checkExtraClaims X body.extraClaims with
  | error e => rfl
  | ok _ =>
    dsimp only
    cases body.passwordInput with
    | none =>
      cases hclaims : body.extraClaims with
      | none => rfl
      | some requested =>
        obtain ⟨hvisits, hrun⟩ := @visits_extraClaimsChanged s realm username requested
        dsimp only
        rw [visits_bind, hvisits, hrun]
        cases changesClaims s realm username requested <;> rfl
    | some input => cases input with
      | plaintext plaintext =>
        dsimp only
        cases hashPasswordWithArgon2 X salt plaintext <;> rfl
      | hashed hashed =>
        dsimp only
        cases validateArgon2PhcString X hashed <;> rfl

theorem visits_deleteUserpass (realm username : String) :
    (QueryHandlers.deleteUserpass requester realm username).visits Dialect.sqlite.exec s =
      managing requester s realm ((.deleteUserpass realm username, s) ::
        relinking (s.after (.deleteUserpass realm username)) realm username fun admin =>
          if admin.userpass = some username then some { admin with userpass := none }
          else none) := by
  refine visits_managing ?_
  simp only [Queries.deleteUserpass, QueryHandlers.autoUnlink, visits_bind, visits_call, run_call,
    visits_relink, visits_done, List.append_nil]
  rfl

theorem visits_totpGenerate (drawn : List UInt8) (realm : String) (body : TotpGenerateRequest) :
    (QueryHandlers.totpGenerate X drawn requester realm body).visits Dialect.sqlite.exec s =
      managing requester s realm [(.selectRealm realm, s)] := by
  refine visits_managing ?_
  simp only [visits_bind, Queries.on_getRealm]
  cases s.findRealm realm with
  | none => rfl
  | some record =>
    dsimp only
    cases realmTotpParams record with
    | error e => rfl
    | ok totpParams =>
      dsimp only
      cases createTotpSecret X drawn (body.issuer.getD realm) body.username totpParams <;> rfl

theorem visits_totpVerify (now : Int) (realm : String) (body : TotpVerifyRequest) :
    (QueryHandlers.totpVerify X now requester realm body).visits Dialect.sqlite.exec s =
      verifyingTotp X requester s now realm body := by
  refine visits_managing ?_
  simp only [visits_bind, Queries.on_getRealm]
  cases Statements.totpAccepts X now realm body (s.findRealm realm) with
  | error e => rfl
  | ok _ =>
    simp only [QueryHandlers.enableTotp]
    cases Totps.fromSecret X body.secret (some realm) body.username none <;> rfl

theorem visits_administer (c : AdminCall) :
    (c.queries X params).visits Dialect.sqlite.exec s = administering X params s c := by
  obtain ⟨m, requester, request⟩ := c
  cases request with
  | createAdmin body => exact visits_createAdmin body
  | getAdmin id => exact visits_readAdmin id
  | updateAdmin id body => exact visits_changeAdmin id body
  | deleteAdmin id => exact visits_deleteAdmin id
  | listAdmins =>
    simp only [AdminCall.queries, administering, QueryHandlers.listAdmins]
    cases requester.isSuperAdmin with
    | false => rfl
    | true => simp
  | addAdminToRealm id realm => exact visits_addAdminToRealm id realm
  | removeAdminFromRealm id realm => exact visits_removeAdminFromRealm id realm
  | createRealm body => exact visits_createRealm body
  | getRealm realm => exact visits_getRealm realm
  | updateRealm realm body => exact visits_updateRealm realm body
  | deleteRealm realm => exact visits_deleteRealm realm
  | listRealms => rfl
  | createUserpass realm body => exact visits_createUserpass m.salt realm body
  | getUserpass realm username => exact visits_getUserpass realm username
  | updateUserpass realm username body => exact visits_updateUserpass m.salt realm username body
  | deleteUserpass realm username => exact visits_deleteUserpass realm username
  | listUserpassByRealm realm => exact visits_managing rfl
  | listAllUserpass =>
    simp only [AdminCall.queries, administering, QueryHandlers.listAllUserpass]
    cases requester.isSuperAdmin with
    | false => rfl
    | true => simp [Queries.listAllUserpass, Queries.on_listAdmins]
  | totpGenerate realm body => exact visits_totpGenerate m.totpSecret realm body
  | totpVerify realm body => exact visits_totpVerify m.now realm body
  | totpDisable realm username => exact visits_managing rfl

theorem visits_validateUserpass (realm username password : String) :
    (QueryHandlers.validateUserpass X realm username password).visits Dialect.sqlite.exec s =
      [(.selectPassword realm username, s)] := by
  simp only [QueryHandlers.validateUserpass, visits_bind, visits_call, run_call]
  cases (Dialect.sqlite.exec (.selectPassword realm username) s).2 with
  | none => rfl
  | some row =>
    dsimp only
    cases verifyPasswordArgon2 X row.1 password <;> rfl

theorem visits_passwordLogin (query : String) (authorization : Option String) :
    (QueryHandlers.passwordLogin X query authorization).visits Dialect.sqlite.exec s =
      loggingIn X s query authorization := by
  simp only [QueryHandlers.passwordLogin, QueryHandlers.extractRealm, loggingIn]
  cases realmParameter query with
  | none =>
    simp only [visits_bind, visits_done, run_done, List.nil_append]
    unfold QueryHandlers.usernamePasswordAuth
    cases extractBasicAuthCredentials X authorization <;> rfl
  | some id =>
    simp only [visits_bind, run_bind, Queries.on_getRealm]
    cases s.findRealm id with
    | none => rfl
    | some realm =>
      simp only [run_done, visits_done, List.append_nil]
      unfold QueryHandlers.usernamePasswordAuth
      cases extractBasicAuthCredentials X authorization with
      | none => rfl
      | some credentials =>
        dsimp only
        cases realm.authParams.usernamePasswordParams with
        | none => rfl
        | some params =>
          rw [visits_bind, visits_validateUserpass]
          cases ((QueryHandlers.validateUserpass X realm.id credentials.1 credentials.2).run
              Dialect.sqlite.exec s).2 with
          | error e => rfl
          | ok changePassword =>
            cases changePassword with
            | false => rfl
            | true =>
              dsimp only
              split <;> rfl

theorem visits_secondFactor (username : String) :
    (QueryHandlers.secondFactor username).visits Dialect.sqlite.exec s =
      (.selectTotpEnabled username, s) ::
        if asksToken s username then [(.selectTotpSecret username, s)] else [] := by
  have hflag : Dialect.sqlite.exec (.selectTotpEnabled username) s = (s,
      (s.admin.find? (AdminRow.totpTarget username)).map AdminRow.totpEnabled) := by
    rw [← Queries.totpTarget_eq]
    rfl
  have hasks : ((s.admin.find? (AdminRow.totpTarget username)).map
      AdminRow.totpEnabled).join.getD false = asksToken s username := by
    unfold asksToken
    cases s.admin.find? (AdminRow.totpTarget username) <;> rfl
  simp only [QueryHandlers.secondFactor, visits_bind, visits_call, run_call, hflag, hasks]
  cases asksToken s username <;> rfl

theorem visits_findAdmins (username : String) :
    (Queries.findAdminsByUserpass username).visits Dialect.sqlite.exec s =
      (.selectAdminIdsByUserpass username, s) ::
        ((s.admin.filter fun r => r.userpass == some username).map AdminRow.id).flatMap
          (reading s) := by
  have hname : (fun r : AdminRow =>
      r.userpass.any fun name => Dialect.sqlite.same [username] [name]) =
      fun r => r.userpass == some username := by
    funext r
    simp only [same_one]
    cases r.userpass <;> simp
  have hids : Dialect.sqlite.exec (.selectAdminIdsByUserpass username) s =
      (s, (s.admin.filter fun r => r.userpass == some username).map AdminRow.id) := by
    simp only [Dialect.exec, Query.exec, hname]
  simp only [Queries.findAdminsByUserpass, visits_bind, visits_call, run_call, visits_done, hids,
    List.append_nil]
  rw [visits_forEach Dialect.sqlite.exec (fun id => by rw [Queries.on_getAdmin]) visits_getAdmin]
  rfl

end

/-- The statements that a request sends are known from the request and the rows. -/
theorem visits_queries (X : Externals) (params : ServerParams) (r : KeyedRequest) (s : Rows) :
    (r.queries X params).visits Dialect.sqlite.exec s = ofRequest X params s r := by
  cases r with
  | administer c => exact visits_administer c
  | passwordLogin query authorization => exact visits_passwordLogin query authorization
  | secondFactor username => exact visits_secondFactor username
  | grantedClaims realm username =>
    simp only [KeyedRequest.queries, QueryHandlers.grantedClaims, visits_bind,
      Queries.on_getUserpass]
    cases (s.findEntry realm username).map fun r => r.toUserPass "" <;> rfl
  | findAdmins username => exact visits_findAdmins username
  | realmRecord realm => rfl

end Sent
end AuthVerifier
