import AuthVerifier.Lib.Checked
import AuthVerifier.Lib.Jobs
import AuthVerifier.Lib.Run
import AuthVerifier.Models
import AuthVerifier.SqlSessions

/-!
AppRole roles and their secret-IDs, following `endpoints/approle.rs` and the three SQL backends, as
calls that run side by side. A call advances one statement or one reading of the clock at a time.
The consumption of a secret-ID is a transaction of several statements: on SQLite it opens with
`BEGIN IMMEDIATE` and is the only writer until it ends; on PostgreSQL and MySQL its
`SELECT ... FOR UPDATE` locks the row it finds. A statement that would have to wait for a lock does
nothing and can be tried again.
-/

set_option autoImplicit false

namespace AuthVerifier
open Bounded Concurrent Relational

structure AppRole where
  name : String
  roleId : String
  secretIdTtlSecs : Int
  tokenTtlSecs : Int
  bindSecretId : Bool
  tokenPolicies : List String
  deriving DecidableEq

structure AppSecretId where
  accessor : String
  secretIdHash : List UInt8
  roleName : String
  /-- Zero stands for no expiry. -/
  expiry : Int
  /-- `-1` stands for unlimited. -/
  numUsesRemaining : Int
  deriving DecidableEq

structure AppRoleRoleRequest where
  secretIdTtl : Int
  tokenTtl : Int
  tokenPolicies : List String
  bindSecretId : Bool
  deriving DecidableEq

structure AppRoleSecretIdRequest where
  ttl : Int
  numUses : Int
  deriving DecidableEq

namespace AppRoles

/-- The row that a consuming transaction has found, and what it was looking for. -/
structure Lock where
  roleName : String
  secretIdHash : List UInt8
  now : Int
  accessor : String
  deriving DecidableEq

inductive Phase where
  -- `approle_login`: the role is known, then `consume_secret_id` statement by statement
  | resolved (role : AppRole) (secretIdHash : List UInt8)
  | timed (roleName : String) (secretIdHash : List UInt8) (now : Int)
  | begun (roleName : String) (secretIdHash : List UInt8) (now : Int)
  | selected (lock : Lock) (numUses : Int)
  | written (lock : Lock)
  -- `approle_generate_secret_id`: the role is known, then the record is complete
  | generating (role : AppRole) (payload : AppRoleSecretIdRequest) (accessor : String)
      (secretIdHash : List UInt8)
  | storing (secret : AppSecretId)
  -- `approle_create_role`: the role id is known
  | upserting (role : AppRole)
  deriving DecidableEq

abbrev Call := Job Phase

inductive Event where
  | created (secret : AppSecretId)
  /-- A login got its secret-ID accepted: the role it is for, the time it worked with and the time
  at which the transaction was committed. -/
  | consumed (pid : Nat) (roleName accessor : String) (now clock : Int)
  | destroyed (roleName accessor : String)
  | roleDeleted (name : String)
  deriving DecidableEq

inductive Answer where
  | token (pid : Nat) (roleName : String)
  | secretId (pid : Nat) (accessor : String)
  | noContent (pid : Nat)
  | failed (pid : Nat) (error : AuthError)
  deriving DecidableEq

structure World where
  clock : Int
  roles : Table AppRole String AppRole.name := .empty
  secrets : Table AppSecretId String AppSecretId.accessor := .empty
  calls : Jobs Phase := .empty
  /-- The newest event first. -/
  log : List Event := []
  answers : List Answer := []

def Phase.inTx : Phase → Bool
  | .begun .. => true
  | .selected .. => true
  | .written _ => true
  | _ => false

def Phase.lock : Phase → Option Lock
  | .selected lock _ => some lock
  | .written lock => some lock
  | _ => none

/-- Whether a statement outside of these transactions has to wait: on SQLite for any of them, on the
others for one that holds a row it touches. -/
def World.waits (w : World) (touches : Lock → Bool) : SqlBackend → Bool
  | .sqlite => w.calls.rows.any (fun c => c.phase.inTx)
  | _ => w.calls.rows.any (fun c => c.phase.lock.any touches)

def World.setPhase (w : World) (pid : Nat) (phase : Phase) : World :=
  { w with calls := w.calls.setPhase pid phase }

def World.finish (w : World) (pid : Nat) (answer : Answer) : World :=
  { w with calls := w.calls.finish pid, answers := answer :: w.answers }

def World.start (w : World) (pid : Nat) (phase : Phase) : World :=
  { w with calls := w.calls.start pid phase }

def invalid : AuthError := .forbidden "invalid role_id or secret_id"

section
variable (b : SqlBackend) (digest : String → List UInt8) (w : World)

def login (pid : Nat) (roleId : String) (secretId : Option String) : World :=
  match w.roles.rows.find? (fun role => role.roleId == roleId) with
  | none => { w with answers := .failed pid invalid :: w.answers }
  | some role =>
    if role.bindSecretId then
      if secretId.getD "" = "" then
        { w with
          answers := .failed pid
            (.badRequest "secret_id is required when bind_secret_id is true") :: w.answers }
      else w.start pid (.resolved role (digest (secretId.getD "")))
    else { w with answers := .token pid role.name :: w.answers }

/-- `WHERE role_name = ? AND secret_id_hash = ? AND (expiry = 0 OR expiry > ?)`. -/
def consumable (roleName : String) (secretIdHash : List UInt8) (now : Int) (secret : AppSecretId) :
    Bool :=
  secret.roleName == roleName && secret.secretIdHash == secretIdHash &&
    (secret.expiry == 0 || secret.expiry > now)

/-- `BEGIN`, and `BEGIN IMMEDIATE` on SQLite. -/
def begin (pid : Nat) (roleName : String) (secretIdHash : List UInt8) (now : Int) : World :=
  if w.waits (fun _ => false) b then w
  else w.setPhase pid (.begun roleName secretIdHash now)

/-- `SELECT`, with `FOR UPDATE` where there is one. -/
def select (pid : Nat) (roleName : String) (secretIdHash : List UInt8) (now : Int) : World :=
  if b ≠ .sqlite ∧ w.waits
      (fun l => l.roleName == roleName && l.secretIdHash == secretIdHash) b = true then w
  else match w.secrets.rows.find? (consumable roleName secretIdHash now) with
    | none => w.finish pid (.failed pid invalid)
    | some secret =>
      w.setPhase pid (.selected ⟨roleName, secretIdHash, now, secret.accessor⟩
        secret.numUsesRemaining)

def spend (accessor : String) (numUses : Int) : World :=
  if numUses = 1 then
    { w with secrets := w.secrets.deleteWhere (fun secret => secret.accessor == accessor) }
  else if numUses > 1 then
    { w with
      secrets := w.secrets.updateWhere (fun secret => secret.accessor == accessor)
        (fun secret => { secret with numUsesRemaining := secret.numUsesRemaining - 1 })
        (fun _ => rfl) }
  else w

/-- `DELETE` or `UPDATE`. SQLite looks at the number of rows it affected and rolls back if there was
none; the other backends do not look. -/
def write (pid : Nat) (lock : Lock) (numUses : Int) : World :=
  if b = .sqlite ∧ numUses ≥ 1 ∧ lock.accessor ∉ w.secrets.keys then
    w.finish pid (.failed pid invalid)
  else (spend w lock.accessor numUses).setPhase pid (.written lock)

/-- `COMMIT`; the login goes on to issue a token. -/
def commit (pid : Nat) (lock : Lock) : World :=
  { w.finish pid (.token pid lock.roleName) with
    log := .consumed pid lock.roleName lock.accessor lock.now w.clock :: w.log }

def notFound (name : String) : AuthError := .badRequest s!"role '{name}' not found"

def generate (pid : Nat) (name : String) (payload : AppRoleSecretIdRequest)
    (accessor secretId : String) : World :=
  match w.roles.find? name with
  | none => { w with answers := .failed pid (notFound name) :: w.answers }
  | some role => w.start pid (.generating role payload accessor (digest secretId))

def newSecretId (role : AppRole) (payload : AppRoleSecretIdRequest) (accessor : String)
    (secretIdHash : List UInt8) (now : Int) : AppSecretId :=
  let ttlSecs := if payload.ttl > 0 then payload.ttl else role.secretIdTtlSecs
  { accessor := accessor, secretIdHash := secretIdHash, roleName := role.name,
    expiry := if ttlSecs > 0 then i64 (now + ttlSecs) else 0,
    numUsesRemaining := if payload.numUses > 0 then payload.numUses else -1 }

def createSecretId (pid : Nat) (secret : AppSecretId) : World :=
  if w.waits (fun l => l.accessor == secret.accessor) b then w
  else if h : secret.accessor ∈ w.secrets.keys then
    w.finish pid (.failed pid (.db (.sql .primaryKey)))
  else if secret.roleName ∉ w.roles.keys then
    w.finish pid (.failed pid (.db (.sql .foreignKey)))
  else
    { w.finish pid (.secretId pid secret.accessor) with
      secrets := w.secrets.insert secret h, log := .created secret :: w.log }

def createRole (pid : Nat) (name : String) (payload : AppRoleRoleRequest) (freshId : String) :
    World :=
  if payload.secretIdTtl < 0 ∨ payload.tokenTtl < 0 then
    { w with
      answers := .failed pid
        (.badRequest "secret_id_ttl and token_ttl must be >= 0 (0 = non-expiring)") :: w.answers }
  else
    let roleId := match w.roles.find? name with
      | some role => role.roleId
      | none => freshId
    w.start pid (.upserting
      { name := name, roleId := roleId, secretIdTtlSecs := payload.secretIdTtl,
        tokenTtlSecs := payload.tokenTtl, bindSecretId := payload.bindSecretId,
        tokenPolicies := payload.tokenPolicies })

/-- `INSERT ... ON CONFLICT(name) DO UPDATE`. A `role_id` that another role has, which a fresh UUID is
not, violates the unique column. -/
def createApprole (pid : Nat) (role : AppRole) : World :=
  if w.waits (fun _ => false) b then w
  else if w.roles.rows.any (fun r => r.roleId == role.roleId && r.name != role.name) then
    w.finish pid (.failed pid (.db (.sql .primaryKey)))
  else if h : role.name ∈ w.roles.keys then
    { w.finish pid (.noContent pid) with
      roles := w.roles.updateWhere (fun r => r.name == role.name)
        (fun r => { role with name := r.name }) (fun _ => rfl) }
  else { w.finish pid (.noContent pid) with roles := w.roles.insert role h }

def destroySecretId (roleName accessor : String) : World :=
  if w.waits (fun l => l.accessor == accessor && l.roleName == roleName) b then w
  else
    { w with
      secrets := w.secrets.deleteWhere (fun s => s.accessor == accessor && s.roleName == roleName)
      log := .destroyed roleName accessor :: w.log }

/-- `DELETE FROM approle_roles`, which cascades to the secret-IDs of the role. -/
def deleteApprole (name : String) : World :=
  if w.waits (fun l => l.roleName == name) b then w
  else
    { w with
      roles := w.roles.deleteWhere (fun role => role.name == name)
      secrets := w.secrets.deleteWhere (fun s => s.roleName == name)
      log := .roleDeleted name :: w.log }

def advance (call : Call) : World :=
  match call.phase with
  | .resolved role secretIdHash => w.setPhase call.pid (.timed role.name secretIdHash w.clock)
  | .timed roleName secretIdHash now => begin b w call.pid roleName secretIdHash now
  | .begun roleName secretIdHash now => select b w call.pid roleName secretIdHash now
  | .selected lock numUses => write b w call.pid lock numUses
  | .written lock => commit w call.pid lock
  | .generating role payload accessor secretIdHash =>
    w.setPhase call.pid (.storing (newSecretId role payload accessor secretIdHash w.clock))
  | .storing secret => createSecretId b w call.pid secret
  | .upserting role => createApprole b w call.pid role

inductive Input where
  | tick (seconds : Nat)
  | login (pid : Nat) (roleId : String) (secretId : Option String)
  | generate (pid : Nat) (name : String) (payload : AppRoleSecretIdRequest)
      (accessor secretId : String)
  | createRole (pid : Nat) (name : String) (payload : AppRoleRoleRequest) (freshId : String)
  | destroy (roleName accessor : String)
  | deleteRole (name : String)
  | advance (pid : Nat)
  deriving DecidableEq

def step : Input → World
  | .tick seconds => { w with clock := w.clock + seconds }
  | .login pid roleId secretId => login digest w pid roleId secretId
  | .generate pid name payload accessor secretId =>
    generate digest w pid name payload accessor secretId
  | .createRole pid name payload freshId => createRole w pid name payload freshId
  | .destroy roleName accessor => destroySecretId b w roleName accessor
  | .deleteRole name => deleteApprole b w name
  | .advance pid => match w.calls.find? pid with
    | none => w
    | some call => advance b w call

end
end AppRoles
end AuthVerifier
