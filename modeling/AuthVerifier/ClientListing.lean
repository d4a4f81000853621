import AuthVerifier.Lib.SqlText
import AuthVerifier.SessionStore

/-!
The statement of `get_sessions_for_clients`. It is put together from the list of clients, with a
placeholder for each of their values: `session/impls/postgres.rs` numbers the placeholders, `sqlite.rs`
and `mysql.rs` leave that to their order. The values are bound in a loop of its own.
-/

set_option autoImplicit false

namespace AuthVerifier
open Bounded SqlText

def SessionRow.column (r : SessionRow) (name : List Char) : Option Value :=
  if name = "session_id".toList then some (.text r.sessionId)
  else if name = "realm_id".toList then some (.text r.realmId)
  else if name = "username".toList then some (.text r.username)
  else if name = "auth_scheme".toList then some (.text r.authScheme)
  else if name = "cookie_string".toList then some (.text r.cookieString)
  else if name = "stale_at".toList then some (.int r.staleAt)
  else if name = "max_stale_age_seconds".toList then some (.int r.maxStaleAgeSeconds)
  else if name = "max_age_seconds".toList then some (.int r.maxAgeSeconds)
  else if name = "created_at".toList then some (.int r.createdAt)
  else none

namespace SqlBackend

def userCondition : SqlBackend → (i : Nat) → String
  | .postgres, i =>
    let base := 4 + i * 2
    s!"(username = ${base} AND auth_scheme = ${base + 1})"
  | .sqlite, _ => "(username = ? AND auth_scheme = ?)"
  | .mysql, _ => "(username = ? AND auth_scheme = ?)"

def userConditions (b : SqlBackend) (clients : List AuthenticatedClientScheme) : String :=
  " OR ".intercalate ((List.range clients.length).map b.userCondition)

def selectText : String :=
  "\n            SELECT session_id, realm_id, username, auth_scheme, cookie_string, "
    ++ "max_stale_age_seconds, max_age_seconds, created_at\n            FROM session\n            "

def whereText : SqlBackend → String
  | .postgres =>
    "WHERE realm_id = $1 AND stale_at > $2 AND (created_at + max_age_seconds) > $3\n            AND "
  | .sqlite => "WHERE realm_id = ? AND stale_at > ? AND (created_at + max_age_seconds) > ? AND "
  | .mysql =>
    "WHERE realm_id = ? AND stale_at > ? AND (created_at + max_age_seconds) > ?\n            AND "

def queryStr (b : SqlBackend) (clients : List AuthenticatedClientScheme) : String :=
  selectText ++ b.whereText ++ "(" ++ b.userConditions clients ++ ")\n            "

def boundValues (realmId : String) (now : Int) (clients : List AuthenticatedClientScheme) :
    List Value :=
  let authSchemeStrs := clients.map fun u => u.authScheme.json
  [.text realmId, .int now, .int now] ++ clients.zipIdx.flatMap fun user =>
    [.text user.1.username, .text (authSchemeStrs.getD user.2 "")]

def boundCondition (b : SqlBackend) (realmId : String) (now : Int)
    (clients : List AuthenticatedClientScheme) : Option (Expr Value) := do
  let tokens ← lex (b.queryStr clients).toList
  let statement ← select tokens
  statement.condition.bind (boundValues realmId now clients)

/-- Texts are compared bytewise, on MySQL by the collation of the server: the columns of `session`
name none. A `BIGINT` out of range is an error; SQLite goes over to a real number, which compares
with `now` like the sum does. -/
def engine {W : Type} [DecidableEq W] (collation : String → W) : SqlBackend → Engine
  | .sqlite => ⟨fun a b => a == b, fun a b => some (a + b)⟩
  | .postgres => ⟨fun a b => a == b, int64.add⟩
  | .mysql => ⟨fun a b => decide (collation a = collation b), int64.add⟩

/-- The rows that `get_sessions_for_clients` makes its sessions of; nothing if the statement
fails. -/
def rowsForClients {W : Type} [DecidableEq W] (collation : String → W) (b : SqlBackend)
    (rows : List SessionRow) (realmId : String) (now : Int)
    (clients : List AuthenticatedClientScheme) : Option (List SessionRow) :=
  if clients.isEmpty then some []
  else (b.boundCondition realmId now clients).bind fun condition =>
    filterRows (b.engine collation) SessionRow.column condition rows

end SqlBackend

def sameClient (client : AuthenticatedClientScheme) : Expr Value :=
  .binary .and (.binary .eq (.column "username".toList) (.param (.text client.username)))
    (.binary .eq (.column "auth_scheme".toList) (.param (.text client.authScheme.json)))

def liveInRealm (realmId : String) (now : Int) : Expr Value :=
  .binary .and
    (.binary .and (.binary .eq (.column "realm_id".toList) (.param (.text realmId)))
      (.binary .gt (.column "stale_at".toList) (.param (.int now))))
    (.binary .gt
      (.binary .add (.column "created_at".toList) (.column "max_age_seconds".toList))
      (.param (.int now)))

def clientCondition (realmId : String) (now : Int) (client : AuthenticatedClientScheme)
    (clients : List AuthenticatedClientScheme) : Expr Value :=
  .binary .and (liveInRealm realmId now)
    ((clients.map sameClient).foldl (.binary .or) (sameClient client))

namespace SqlBackend

/-- The tokens of the condition for one client, with its two placeholders. -/
def conditionTokens (p q : Token) : List Token :=
  [.symbol '(', .word "username".toList, .symbol '=', p, .word "AND".toList,
    .word "auth_scheme".toList, .symbol '=', q, .symbol ')']

def placeholders : SqlBackend → (i : Nat) → Token × Token
  | .postgres, i => (.parameter (4 + i * 2), .parameter (4 + i * 2 + 1))
  | .sqlite, _ => (.placeholder, .placeholder)
  | .mysql, _ => (.placeholder, .placeholder)

def userTokens (b : SqlBackend) (i : Nat) : List Token :=
  conditionTokens (b.placeholders i).1 (b.placeholders i).2

theorem lexRun_userCondition (b : SqlBackend) (i : Nat) :
    lexRun .nothing (b.userCondition i).toList = some (b.userTokens i, .nothing) := by
  have hplain : lexRun .nothing "(username = ? AND auth_scheme = ?)".toList =
      some (conditionTokens .placeholder .placeholder, .nothing) := by decide
  cases b with
  | sqlite => exact hplain
  | mysql => exact hplain
  | postgres =>
    have hformat : userCondition .postgres i = "(username = $" ++ toString (4 + i * 2) ++
        " AND auth_scheme = $" ++ toString (4 + i * 2 + 1) ++ ")" := rfl
    have hsecond : lexRun .nothing (" AND auth_scheme = $".toList ++
        ((toString (4 + i * 2 + 1)).toList ++ ")".toList)) =
          some ([.word "AND".toList, .word "auth_scheme".toList, .symbol '='] ++
            .parameter (4 + i * 2 + 1) :: [.symbol ')'], .nothing) :=
      lexRun_number _ (by decide) ⟨')', [], rfl, by decide, by decide⟩ (by decide)
    have hfirst := @lexRun_number "(username = $".toList _
      [.symbol '(', .word "username".toList, .symbol '='] _ _ (4 + i * 2) (by decide)
      ⟨' ', _, rfl, by decide, by decide⟩ hsecond
    rw [hformat]
    simp only [String.toList_append, List.append_assoc]
    exact hfirst

/-- The tokens of the conditions, with `OR` between them. -/
def disjunctionTokens (b : SqlBackend) (n : Nat) : List Token :=
  b.userTokens 0 ++
    (List.range' 1 n).flatMap fun j => .word "OR".toList :: b.userTokens j

theorem lexRun_rest (b : SqlBackend) (n i : Nat) {text : List Char} {tokens : List Token}
    (h : lexRun .nothing text = some (tokens, .nothing)) :
    lexRun .nothing (text ++ ((List.range' i n).flatMap
        fun j => " OR ".toList ++ (b.userCondition j).toList)) =
      some (tokens ++ (List.range' i n).flatMap
        (fun j => .word "OR".toList :: b.userTokens j), .nothing) := by
  have hor : lexRun .nothing " OR ".toList = some ([.word "OR".toList], .nothing) := by
    decide
  induction n generalizing i text tokens with
  | zero => simpa using h
  | succ n ih =>
    have hnext := lexRun_append h (lexRun_append hor (b.lexRun_userCondition i))
    have hrest := ih (i + 1) hnext
    simp only [List.range'_succ, List.flatMap_cons, List.append_assoc, List.cons_append,
      List.nil_append] at hrest ⊢
    exact hrest

theorem userConditions_eq (b : SqlBackend) (client : AuthenticatedClientScheme)
    (clients : List AuthenticatedClientScheme) :
    (b.userConditions (client :: clients)).toList = (b.userCondition 0).toList ++
      (List.range' 1 clients.length).flatMap
        fun j => " OR ".toList ++ (b.userCondition j).toList := by
  have hjoin (first : String) (js : List Nat) :
      (" OR ".intercalate (first :: js.map b.userCondition)).toList =
        first.toList ++ js.flatMap fun j => " OR ".toList ++ (b.userCondition j).toList := by
    induction js generalizing first with
    | nil => simp
    | cons j js ih =>
      rw [List.map_cons, String.intercalate_cons_cons, String.toList_append, String.toList_append,
        ih, List.flatMap_cons]
      simp only [List.append_assoc]
  rw [userConditions, List.length_cons, List.range_eq_range', List.range'_succ, List.map_cons]
  exact hjoin _ _

theorem lexRun_userConditions (b : SqlBackend) (client : AuthenticatedClientScheme)
    (clients : List AuthenticatedClientScheme) :
    lexRun .nothing (b.userConditions (client :: clients)).toList =
      some (b.disjunctionTokens clients.length, .nothing) := by
  rw [b.userConditions_eq]
  exact b.lexRun_rest clients.length 1 (b.lexRun_userCondition 0)

/-- How many `?` stand in front of the condition for a client. -/
def placeholdersBefore : SqlBackend → (i : Nat) → Nat
  | .postgres, _ => 0
  | .sqlite, i => 3 + i * 2
  | .mysql, i => 3 + i * 2

def numberedCondition (p q : Nat) : Expr Nat :=
  .binary .and (.binary .eq (.column "username".toList) (.param p))
    (.binary .eq (.column "auth_scheme".toList) (.param q))

def numberedClient (i : Nat) : Expr Nat := numberedCondition (4 + i * 2) (4 + i * 2 + 1)

theorem reads_parameters (p q k : Nat) :
    Reads (conditionTokens (.parameter p) (.parameter q)) k (numberedCondition p q) k := by
  rintro ⟨operators, operands, complete, placeholders⟩ hcomplete hk
  cases hcomplete
  cases hk
  rfl

theorem reads_placeholders (k : Nat) : Reads (conditionTokens .placeholder .placeholder) k
    (numberedCondition (k + 1) (k + 1 + 1)) (k + 1 + 1) := by
  rintro ⟨operators, operands, complete, placeholders⟩ hcomplete hk
  cases hcomplete
  cases hk
  rfl

theorem reads_userTokens (b : SqlBackend) (i : Nat) : Reads (b.userTokens i)
    (b.placeholdersBefore i) (numberedClient i) (b.placeholdersBefore (i + 1)) := by
  have hfirst : 3 + i * 2 + 1 = 4 + i * 2 := by omega
  have hnext : 3 + (i + 1) * 2 = 4 + i * 2 + 1 := by omega
  have hplain : Reads (conditionTokens .placeholder .placeholder) (3 + i * 2) (numberedClient i)
      (3 + (i + 1) * 2) := by
    rw [numberedClient, hnext, ← hfirst]
    exact reads_placeholders (3 + i * 2)
  cases b with
  | postgres => exact reads_parameters _ _ 0
  | sqlite => exact hplain
  | mysql => exact hplain

def numberedLive : Expr Nat :=
  .binary .and
    (.binary .and (.binary .eq (.column "realm_id".toList) (.param 1))
      (.binary .gt (.column "stale_at".toList) (.param 2)))
    (.binary .gt
      (.binary .add (.column "created_at".toList) (.column "max_age_seconds".toList)) (.param 3))

def numberedStatement (n : Nat) : Expr Nat :=
  .binary .and numberedLive
    (((List.range' 1 n).map numberedClient).foldl (.binary .or) (numberedClient 0))

def selectTokens : List Token :=
  [.word "SELECT".toList, .word "session_id".toList, .symbol ',', .word "realm_id".toList,
    .symbol ',', .word "username".toList, .symbol ',', .word "auth_scheme".toList, .symbol ',',
    .word "cookie_string".toList, .symbol ',', .word "max_stale_age_seconds".toList, .symbol ',',
    .word "max_age_seconds".toList, .symbol ',', .word "created_at".toList, .word "FROM".toList,
    .word "session".toList, .word "WHERE".toList]

/-- The tokens in front of the clients, with the placeholders of the three values. -/
def liveTokens (p q r : Token) : List Token :=
  [.word "realm_id".toList, .symbol '=', p, .word "AND".toList, .word "stale_at".toList, .symbol '>',
    q, .word "AND".toList, .symbol '(', .word "created_at".toList, .symbol '+',
    .word "max_age_seconds".toList, .symbol ')', .symbol '>', r, .word "AND".toList]

def whereTokens : SqlBackend → List Token
  | .postgres => liveTokens (.parameter 1) (.parameter 2) (.parameter 3)
  | .sqlite => liveTokens .placeholder .placeholder .placeholder
  | .mysql => liveTokens .placeholder .placeholder .placeholder

theorem lexRun_selectText :
    lexRun .nothing selectText.toList = some (selectTokens.dropLast, .nothing) := by
  have hchars : selectText.toList = _ :=
    String.toList_append.trans (congrArg₂ _ String.toList_ofList String.toList_ofList)
  rw [hchars]
  decide +kernel

theorem lexRun_whereText (b : SqlBackend) : lexRun .nothing b.whereText.toList =
    some (.word "WHERE".toList :: b.whereTokens, .nothing) := by
  cases b with
  | sqlite =>
    have hchars : sqlite.whereText.toList = _ := String.toList_ofList
    rw [hchars]
    decide
  | postgres =>
    have hchars : postgres.whereText.toList = _ := String.toList_ofList
    rw [hchars]
    decide
  | mysql =>
    have hchars : mysql.whereText.toList = _ := String.toList_ofList
    rw [hchars]
    decide

def atClients (b : SqlBackend) : Reader :=
  { operators := [some .and], operands := [numberedLive], placeholders := b.placeholdersBefore 0 }

theorem run_whereTokens (b : SqlBackend) : Reader.run {} b.whereTokens = some b.atClients := by
  cases b <;> decide

theorem select_selectTokens (tokens : List Token) : ∃ columns table, select (selectTokens ++ tokens) =
    (Reader.run {} tokens).bind fun r => r.result.map fun condition => ⟨columns, table, condition⟩ :=
  ⟨_, _, rfl⟩

theorem lex_queryStr (b : SqlBackend) (client : AuthenticatedClientScheme)
    (clients : List AuthenticatedClientScheme) :
    lex (b.queryStr (client :: clients)).toList = some (selectTokens ++ (b.whereTokens ++
      .symbol '(' :: (b.disjunctionTokens clients.length ++ [.symbol ')']))) := by
  have hend : lexRun .nothing ")\n            ".toList = some ([.symbol ')'], .nothing) := by
    decide
  have hopen : lexRun .nothing "(".toList = some ([.symbol '('], .nothing) := by decide
  have hclients := lexRun_append hopen
    (lexRun_append (b.lexRun_userConditions client clients) hend)
  have hrun := lexRun_append lexRun_selectText (lexRun_append b.lexRun_whereText hclients)
  refine lex_of_lexRun ?_
  simp only [queryStr, String.toList_append, List.append_assoc] at hrun ⊢
  exact hrun

theorem select_queryStr (b : SqlBackend) (client : AuthenticatedClientScheme)
    (clients : List AuthenticatedClientScheme) :
    ∃ columns table, (lex (b.queryStr (client :: clients)).toList).bind select =
      some ⟨columns, table, numberedStatement clients.length⟩ := by
  obtain ⟨columns, table, hselect⟩ := select_selectTokens (b.whereTokens ++
    .symbol '(' :: (b.disjunctionTokens clients.length ++ [.symbol ')']))
  have hclients := reads_disjunction b.reads_userTokens clients.length b.atClients rfl rfl
  rw [← List.append_assoc] at hclients
  refine ⟨columns, table, ?_⟩
  rw [lex_queryStr, Option.bind_some, hselect, run_append, run_whereTokens, Option.bind_some]
  exact congrArg (fun r => Option.bind r _) hclients

theorem boundValues_eq (realmId : String) (now : Int) (clients : List AuthenticatedClientScheme) :
    boundValues realmId now clients = [.text realmId, .int now, .int now] ++
      clients.flatMap fun u => [.text u.username, .text u.authScheme.json] := by
  have hpairs : (clients.zipIdx.flatMap fun user => [Value.text user.1.username,
      .text ((clients.map fun u => u.authScheme.json).getD user.2 "")]) =
      clients.zipIdx.flatMap fun user => [.text user.1.username, .text user.1.authScheme.json] := by
    refine List.flatMap_congr fun user huser => ?_
    have hget := List.mk_mem_zipIdx_iff_getElem?.mp huser
    rw [List.getD_eq_getElem?_getD, List.getElem?_map, hget]
    rfl
  have hfst : (clients.zipIdx.flatMap fun user =>
      [Value.text user.1.username, .text user.1.authScheme.json]) =
      (clients.zipIdx.map Prod.fst).flatMap
        fun u => [.text u.username, .text u.authScheme.json] := by
    rw [List.flatMap_map]
  rw [boundValues, hpairs, hfst, List.zipIdx_map_fst]

theorem getElem?_pairs {clients : List AuthenticatedClientScheme} {i : Nat}
    {client : AuthenticatedClientScheme} (h : clients[i]? = some client) :
    (clients.flatMap fun u => [Value.text u.username, .text u.authScheme.json])[i * 2]? =
        some (.text client.username) ∧
      (clients.flatMap fun u => [Value.text u.username, .text u.authScheme.json])[i * 2 + 1]? =
        some (.text client.authScheme.json) := by
  induction clients generalizing i with
  | nil => cases h
  | cons u clients ih =>
    cases i with
    | zero =>
      cases h
      exact ⟨rfl, rfl⟩
    | succ i =>
      have hnext : (i + 1) * 2 = i * 2 + 1 + 1 := by omega
      rw [List.flatMap_cons, hnext]
      exact ih h

theorem bind_numberedClient {realmId : String} {now : Int}
    {clients : List AuthenticatedClientScheme} {i : Nat} {client : AuthenticatedClientScheme}
    (h : clients[i]? = some client) :
    (numberedClient i).bind (boundValues realmId now clients) = some (sameClient client) := by
  obtain ⟨husername, hscheme⟩ := getElem?_pairs h
  have hfirst : 4 + i * 2 = i * 2 + 1 + 1 + 1 + 1 := by omega
  rw [boundValues_eq, numberedClient, hfirst]
  simp only [numberedCondition, Expr.bind, List.cons_append, List.nil_append,
    List.getElem?_cons_succ, husername, hscheme, Option.map_some]
  rfl

theorem boundCondition_eq (b : SqlBackend) (realmId : String) (now : Int)
    (client : AuthenticatedClientScheme) (clients : List AuthenticatedClientScheme) :
    b.boundCondition realmId now (client :: clients) =
      some (clientCondition realmId now client clients) := by
  obtain ⟨columns, table, hstatement⟩ := b.select_queryStr client clients
  obtain ⟨tokens, hlex, hselect⟩ := Option.bind_eq_some_iff.mp hstatement
  have hlive : numberedLive.bind (boundValues realmId now (client :: clients)) =
      some (liveInRealm realmId now) := rfl
  have hfirst : (numberedClient 0).bind (boundValues realmId now (client :: clients)) =
      some (sameClient client) := bind_numberedClient rfl
  have hrest : ((List.range' 1 clients.length).map numberedClient).map
      (Expr.bind (boundValues realmId now (client :: clients))) =
        (clients.map sameClient).map some := by
    rw [List.map_map, List.map_map]
    refine List.ext_getElem (by simp) fun i hi hi' => ?_
    rw [List.length_map] at hi'
    have hget : (client :: clients)[1 + i]? = some clients[i] := by
      rw [Nat.add_comm, List.getElem?_cons_succ, List.getElem?_eq_getElem hi']
    simpa using bind_numberedClient hget
  have hdisjunction := bind_disjunction hfirst hrest
  rw [boundCondition, hlex]
  simp only [Option.bind_eq_bind, Option.bind_some, hselect, numberedStatement, Expr.bind, hlive,
    hdisjunction]
  rfl

def matchesUnder (E : Engine) (r : SessionRow) (client : AuthenticatedClientScheme) : Bool :=
  E.sameText r.username client.username && E.sameText r.authScheme client.authScheme.json

theorem truth_sameClient (E : Engine) (r : SessionRow) (client : AuthenticatedClientScheme) :
    truth E r.column (sameClient client) = some (matchesUnder E r client) := by
  have husername : truth E r.column (.binary .eq (.column "username".toList)
      (.param (.text client.username))) = some (E.sameText r.username client.username) := rfl
  have hscheme : truth E r.column (.binary .eq (.column "auth_scheme".toList)
      (.param (.text client.authScheme.json))) =
        some (E.sameText r.authScheme client.authScheme.json) := rfl
  rw [sameClient, truth, husername, hscheme, matchesUnder]
  cases E.sameText r.username client.username <;> rfl

theorem truth_clientCondition (E : Engine) (r : SessionRow) (realmId : String) (now : Int)
    (client : AuthenticatedClientScheme) (clients : List AuthenticatedClientScheme) :
    truth E r.column (clientCondition realmId now client clients) =
      if E.sameText r.realmId realmId = true ∧ now < r.staleAt then
        (E.sum r.createdAt r.maxAgeSeconds).map fun deadline =>
          decide (now < deadline) && (client :: clients).any (matchesUnder E r)
      else some false := by
  have hrealm : truth E r.column (.binary .eq (.column "realm_id".toList) (.param (.text realmId))) =
      some (E.sameText r.realmId realmId) := rfl
  have hstale : truth E r.column (.binary .gt (.column "stale_at".toList) (.param (.int now))) =
      some (decide (now < r.staleAt)) := rfl
  have hsum : value E r.column (.binary .add (.column "created_at".toList)
      (.column "max_age_seconds".toList)) = (E.sum r.createdAt r.maxAgeSeconds).map .int := rfl
  have hclients := truth_disjunction clients (truth_sameClient E r client) (truth_sameClient E r)
  rw [← List.any_cons] at hclients
  rw [clientCondition, liveInRealm, truth, truth, truth, hrealm, hstale, truth, hsum, value, hclients]
  cases E.sameText r.realmId realmId with
  | false => rfl
  | true =>
    by_cases hlive : now < r.staleAt
    · cases E.sum r.createdAt r.maxAgeSeconds with
      | none => simp [hlive]
      | some deadline => by_cases hnow : now < deadline <;> simp [hlive, hnow]
    · simp [hlive]

variable {W : Type} [DecidableEq W] {collation : String → W} {rows : List SessionRow}
  {realmId : String} {now : Int} {client : AuthenticatedClientScheme}
  {clients : List AuthenticatedClientScheme}

theorem rowsForClients_cons (b : SqlBackend) :
    b.rowsForClients collation rows realmId now (client :: clients) =
      filterRows (b.engine collation) SessionRow.column
        (clientCondition realmId now client clients) rows := by
  rw [rowsForClients, if_neg (by simp), boundCondition_eq, Option.bind_some]

end SqlBackend

/-- The statement of every backend compares each client with its own username and scheme, and it
selects the live rows of the realm whose username and scheme are those of a client. -/
structure ListsClients {W : Type} [DecidableEq W] (collation : String → W) (rows : List SessionRow)
    (realmId : String) (now : Int) (client : AuthenticatedClientScheme)
    (clients : List AuthenticatedClientScheme) : Prop where
  aligned : ∀ b : SqlBackend, b.boundCondition realmId now (client :: clients) =
    some (clientCondition realmId now client clients)
  selects : SqlBackend.postgres.rowsForClients collation rows realmId now (client :: clients) =
    some (rows.filter (SessionStore.matchesClient realmId (client :: clients) now))
  agree : ∀ b : SqlBackend, b.rowsForClients collation rows realmId now (client :: clients) =
    SqlBackend.postgres.rowsForClients collation rows realmId now (client :: clients)

/-- For the rows that the collation of MySQL takes for rows of the realm, up to their idle deadline:
the absolute deadline is a `BIGINT`, and if that is not past either, the realm is this one and any
username and scheme that the collation takes for those of a client are those of a client. -/
def CollationSeparates {W : Type} (collation : String → W) (rows : List SessionRow)
    (realmId : String) (now : Int) (clients : List AuthenticatedClientScheme) : Prop :=
  ∀ r ∈ rows, collation r.realmId = collation realmId → now < r.staleAt →
    int64.Fits (r.createdAt + r.maxAgeSeconds) ∧ (now < r.createdAt + r.maxAgeSeconds →
      (∃ c ∈ clients, collation r.username = collation c.username ∧
        collation r.authScheme = collation c.authScheme.json) →
      r.realmId = realmId ∧ ∃ c ∈ clients, r.username = c.username ∧ r.authScheme = c.authScheme.json)

section
variable {W : Type} [DecidableEq W] {collation : String → W} {rows : List SessionRow}
  {realmId : String} {now : Int} {client : AuthenticatedClientScheme}
  {clients : List AuthenticatedClientScheme} {r : SessionRow}

theorem matchesClient_iff : SessionStore.matchesClient realmId clients now r = true ↔
    r.realmId = realmId ∧ now < r.staleAt ∧ now < r.createdAt + r.maxAgeSeconds ∧
      ∃ c ∈ clients, r.username = c.username ∧ r.authScheme = c.authScheme.json := by
  simp [SessionStore.matchesClient, and_assoc]

/-- Where the sum has a value, the condition says what it says of exact texts and integers, if the
comparison of texts does. -/
theorem truth_eq_matchesClient {E : Engine} {sum : Int} (hsum : E.sum r.createdAt r.maxAgeSeconds =
      some sum) (hsame : (E.sameText r.realmId realmId = true ∧ now < r.staleAt ∧ now < sum ∧
        ∃ c ∈ client :: clients, SqlBackend.matchesUnder E r c = true) ↔
      SessionStore.matchesClient realmId (client :: clients) now r = true) :
    truth E r.column (clientCondition realmId now client clients) =
      some (SessionStore.matchesClient realmId (client :: clients) now r) := by
  rw [SqlBackend.truth_clientCondition, hsum, Option.map_some]
  split
  · rename_i hlive
    congr 1
    rw [Bool.eq_iff_iff, ← hsame, Bool.and_eq_true, decide_eq_true_eq, List.any_eq_true]
    simp [hlive]
  · rename_i hlive
    congr 1
    rw [Bool.eq_iff_iff, ← hsame]
    simp only [Bool.false_eq_true, false_iff]
    exact fun h => hlive ⟨h.1, h.2.1⟩

theorem truth_eq_false {E : Engine} (h : ¬ (E.sameText r.realmId realmId = true ∧ now < r.staleAt)) :
    truth E r.column (clientCondition realmId now client clients) = some false := by
  rw [SqlBackend.truth_clientCondition, if_neg h]

theorem matchesUnder_bytewise {sum : Int → Int → Option Int} {c : AuthenticatedClientScheme} :
    SqlBackend.matchesUnder ⟨fun a b => a == b, sum⟩ r c = true ↔
      r.username = c.username ∧ r.authScheme = c.authScheme.json := by
  simp [SqlBackend.matchesUnder]

theorem sqlite_rows : SqlBackend.sqlite.rowsForClients collation rows realmId now (client :: clients) =
    some (rows.filter (SessionStore.matchesClient realmId (client :: clients) now)) := by
  rw [SqlBackend.rowsForClients_cons]
  refine filterRows_eq_filter fun r _ => truth_eq_matchesClient rfl ?_
  rw [matchesClient_iff]
  simp only [SqlBackend.engine, matchesUnder_bytewise, beq_iff_eq]

theorem postgres_rows (h : ∀ r ∈ rows, r.realmId = realmId → now < r.staleAt →
      int64.Fits (r.createdAt + r.maxAgeSeconds)) :
    SqlBackend.postgres.rowsForClients collation rows realmId now (client :: clients) =
      some (rows.filter (SessionStore.matchesClient realmId (client :: clients) now)) := by
  rw [SqlBackend.rowsForClients_cons]
  refine filterRows_eq_filter fun r hr => ?_
  by_cases hlive : r.realmId = realmId ∧ now < r.staleAt
  · refine truth_eq_matchesClient (Range.add_of_fits (h r hr hlive.1 hlive.2)) ?_
    rw [matchesClient_iff]
    simp only [SqlBackend.engine, matchesUnder_bytewise, beq_iff_eq]
  · have hfalse : SessionStore.matchesClient realmId (client :: clients) now r = false := by
      rw [Bool.eq_false_iff, ne_eq, matchesClient_iff]
      exact fun hmatch => hlive ⟨hmatch.1, hmatch.2.1⟩
    rw [hfalse]
    exact truth_eq_false (by simpa [SqlBackend.engine] using hlive)

theorem mysql_rows (h : CollationSeparates collation rows realmId now (client :: clients)) :
    SqlBackend.mysql.rowsForClients collation rows realmId now (client :: clients) =
      some (rows.filter (SessionStore.matchesClient realmId (client :: clients) now)) := by
  rw [SqlBackend.rowsForClients_cons]
  refine filterRows_eq_filter fun r hr => ?_
  by_cases hlive : collation r.realmId = collation realmId ∧ now < r.staleAt
  · obtain ⟨hfits, hexact⟩ := h r hr hlive.1 hlive.2
    refine truth_eq_matchesClient (Range.add_of_fits hfits) ?_
    rw [matchesClient_iff]
    simp only [SqlBackend.engine, SqlBackend.matchesUnder, Bool.and_eq_true, decide_eq_true_eq]
    constructor
    · rintro ⟨-, hstale, hnow, hclient⟩
      obtain ⟨hrealm, hsame⟩ := hexact hnow hclient
      exact ⟨hrealm, hstale, hnow, hsame⟩
    · rintro ⟨hrealm, hstale, hnow, c, hc, husername, hscheme⟩
      exact ⟨congrArg collation hrealm, hstale, hnow, c, hc, congrArg collation husername,
        congrArg collation hscheme⟩
  · have hfalse : SessionStore.matchesClient realmId (client :: clients) now r = false := by
      rw [Bool.eq_false_iff, ne_eq, matchesClient_iff]
      exact fun hmatch => hlive ⟨congrArg collation hmatch.1, hmatch.2.1⟩
    rw [hfalse]
    exact truth_eq_false (by simpa [SqlBackend.engine] using hlive)

theorem separates_of_mysql_rows
    (h : SqlBackend.mysql.rowsForClients collation rows realmId now (client :: clients) =
      some (rows.filter (SessionStore.matchesClient realmId (client :: clients) now))) :
    CollationSeparates collation rows realmId now (client :: clients) := by
  rw [SqlBackend.rowsForClients_cons] at h
  intro r hr hrealm hstale
  have hsome : ∀ r ∈ rows, (truth (SqlBackend.mysql.engine collation) r.column
      (clientCondition realmId now client clients)).isSome := by
    intro x hx
    rw [Option.isSome_iff_ne_none]
    intro hnone
    rw [filterRows_eq_none hx hnone] at h
    cases h
  let met (x : SessionRow) : Bool := (truth (SqlBackend.mysql.engine collation) x.column
    (clientCondition realmId now client clients)).getD false
  have hmet : ∀ x ∈ rows, truth (SqlBackend.mysql.engine collation) x.column
      (clientCondition realmId now client clients) = some (met x) := by
    intro x hx
    obtain ⟨v, hv⟩ := Option.isSome_iff_exists.mp (hsome x hx)
    simp only [met, hv, Option.getD_some]
  rw [filterRows_eq_filter hmet, Option.some_inj] at h
  have hr' := hmet r hr
  have hlive : (SqlBackend.mysql.engine collation).sameText r.realmId realmId = true ∧
      now < r.staleAt := ⟨decide_eq_true hrealm, hstale⟩
  rw [SqlBackend.truth_clientCondition, if_pos hlive, Option.map_eq_some_iff] at hr'
  obtain ⟨sum, hsum, hsame⟩ := hr'
  obtain ⟨hfits, rfl⟩ := Range.add_eq_some.mp hsum
  refine ⟨hfits, fun hnow ⟨c, hc, husername, hscheme⟩ => ?_⟩
  have hclient : (client :: clients).any
      (SqlBackend.matchesUnder (SqlBackend.mysql.engine collation) r) = true := by
    refine List.any_eq_true.mpr ⟨c, hc, ?_⟩
    simp [SqlBackend.matchesUnder, SqlBackend.engine, husername, hscheme]
  have hselected : r ∈ rows.filter met := by
    refine List.mem_filter.mpr ⟨hr, ?_⟩
    rw [← hsame, hclient]
    simpa using hnow
  rw [h, List.mem_filter, matchesClient_iff] at hselected
  exact ⟨hselected.2.1, hselected.2.2.2.2⟩

/-- The listing is exact and the same on every backend exactly if the collation of MySQL keeps the
rows in question apart and their absolute deadlines are in range. -/
theorem lists_clients_iff (collation : String → W) (rows : List SessionRow) (realmId : String)
    (now : Int) (client : AuthenticatedClientScheme) (clients : List AuthenticatedClientScheme) :
    ListsClients collation rows realmId now client clients ↔
      CollationSeparates collation rows realmId now (client :: clients) := by
  constructor
  · intro h
    refine separates_of_mysql_rows ?_
    rw [h.agree, h.selects]
  · intro h
    have hfits : ∀ r ∈ rows, r.realmId = realmId → now < r.staleAt →
        int64.Fits (r.createdAt + r.maxAgeSeconds) :=
      fun r hr hrealm hstale => (h r hr (congrArg collation hrealm) hstale).1
    have hpostgres : SqlBackend.postgres.rowsForClients collation rows realmId now
        (client :: clients) = _ := postgres_rows hfits
    refine ⟨fun b => b.boundCondition_eq realmId now client clients, hpostgres, fun b => ?_⟩
    rw [hpostgres]
    cases b with
    | sqlite => exact sqlite_rows
    | postgres => exact hpostgres
    | mysql => exact mysql_rows h

end

namespace Transparent

def aliceRow : SessionRow :=
  { sessionId := "s1", realmId := "acme", username := "Alice"
    authScheme := AuthScheme.usernamePassword.json, cookieString := "_ea_=a.b.c", staleAt := 200
    maxStaleAgeSeconds := 100, maxAgeSeconds := 1000, createdAt := 100 }

def caseless (s : String) : List Char := s.toList.map Char.toLower

/-- A listing for `alice` has the session of another user in it on MySQL, whose default collation
ignores case. -/
theorem mysql_lists_another_user :
    SqlBackend.postgres.rowsForClients caseless [aliceRow] "acme" 150
        [⟨"alice", .usernamePassword⟩] = some [] ∧
      SqlBackend.mysql.rowsForClients caseless [aliceRow] "acme" 150
        [⟨"alice", .usernamePassword⟩] = some [aliceRow] ∧
      ¬ ListsClients caseless [aliceRow] "acme" 150
        ⟨"alice", .usernamePassword⟩ [] := by
  have hpostgres : SqlBackend.postgres.rowsForClients caseless [aliceRow] "acme" 150
      [⟨"alice", .usernamePassword⟩] = some [] := by
    rw [SqlBackend.rowsForClients_cons]
    decide
  have hmysql : SqlBackend.mysql.rowsForClients caseless [aliceRow] "acme" 150
      [⟨"alice", .usernamePassword⟩] = some [aliceRow] := by
    rw [SqlBackend.rowsForClients_cons]
    decide
  refine ⟨hpostgres, hmysql, fun h => ?_⟩
  have hagree := h.agree .mysql
  rw [hpostgres, hmysql] at hagree
  cases hagree

end Transparent
end AuthVerifier
