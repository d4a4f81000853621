import AuthVerifier.Externals

/-! Argon2id hashing, validation and verification, following `database/passwords.rs`. -/

set_option autoImplicit false

namespace AuthVerifier
variable (X : Externals)

def serverArgon2Params : Argon2Params := ⟨65536, 3, 4⟩

/-- Errors are the messages of `AuthError::Unexpected`. -/
def hashPasswordWithArgon2 (salt password : String) : Except String String :=
  match X.argon2Hash salt password with
  | .ok phc => .ok phc
  | .error e => .error s!"Failed to hash password with Argon2: {e}"

def validateArgon2PhcString (hash : String) : Except AuthError Unit :=
  match X.parsePhc hash with
  | .error e => .error (.badRequest s!"not a valid Argon2 PHC string: {e}")
  | .ok parsed =>
    if parsed.algorithm ≠ "argon2id" then
      .error (.badRequest
        s!"unsupported password hash algorithm '{parsed.algorithm}': only argon2id is accepted")
    else if parsed.version ≠ some 19 then
      let shown := match parsed.version with
        | none => "none"
        | some v => toString v
      .error (.badRequest s!"unsupported Argon2 version {shown}: only version 19 is accepted")
    else match parsed.params with
    | .error e => .error (.badRequest s!"unreadable Argon2 parameters: {e}")
    | .ok params =>
      if params ≠ serverArgon2Params then
        .error (.badRequest ("Argon2 parameters must match this server's own preset "
          ++ s!"(m=65536, t=3, p=4); got m={params.mCost}, t={params.tCost}, p={params.pCost}"))
      else .ok ()

def verifyPasswordArgon2 (stored password : String) : Except AuthError Unit :=
  match X.parsePhc stored with
  | .error e => .error (.unexpected s!"Invalid stored password hash: {e}")
  | .ok parsed =>
    if X.argon2Verify parsed password then .ok () else .error (.session "invalid credentials")

end AuthVerifier
