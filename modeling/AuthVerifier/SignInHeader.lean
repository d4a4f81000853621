import AuthVerifier.BasicCredentials

/-!
What the administration page sends as Basic credentials, following `login` of `AuthContext.tsx`,
against what the server reads. The page encodes with `btoa`, which knows Latin-1 only; the client
library encodes UTF-8.
-/

set_option autoImplicit false

namespace AuthVerifier
open ByteSlice

/-- `btoa`; there is nothing where it throws. -/
def btoa (cs : List Char) : Option (List Char) :=
  if cs.all (fun c => c.toNat < 256) then some (Base64.encode (cs.map fun c => c.toNat.toUInt8))
  else none

/-- The `Authorization` header of the page. -/
def signInHeader (username password : String) : Option (List UInt8) :=
  (btoa (username.toList ++ ':' :: password.toList)).map fun encoded =>
    ("Basic ".toList ++ encoded).map fun c => c.toNat.toUInt8

/-- The header of the client library, `build_client` of `auth_client.rs`. -/
def clientHeader (username password : String) : List UInt8 :=
  ("Basic ".toList ++ Base64.encode (utf8 (username.toList ++ ':' :: password.toList))).map
    fun c => c.toNat.toUInt8

theorem utf8_ascii {cs : List Char} (h : ∀ c ∈ cs, c.toNat < 128) :
    utf8 cs = cs.map fun c => c.toNat.toUInt8 := by
  induction cs with
  | nil => rfl
  | cons c cs ih =>
    have hrest := ih fun d hd => h d (List.mem_cons_of_mem c hd)
    have hcons : utf8 (c :: cs) = String.utf8EncodeChar c ++ utf8 cs := rfl
    rw [hcons, utf8EncodeChar_ascii (h c List.mem_cons_self), hrest]
    rfl

theorem length_le_utf8 (cs : List Char) : cs.length ≤ (utf8 cs).length ∧
    (cs.length = (utf8 cs).length → ∀ c ∈ cs, c.toNat < 128) := by
  induction cs with
  | nil => simp
  | cons c cs ih =>
    have hcons : (utf8 (c :: cs)).length = c.utf8Size + (utf8 cs).length := by
      simp [utf8]
    have hpos := c.utf8Size_pos
    rw [hcons, List.length_cons]
    refine ⟨by omega, fun hlength => ?_⟩
    have hone : c.utf8Size = 1 := by omega
    have hrest := ih.2 (by omega)
    rw [List.forall_mem_cons]
    exact ⟨Nat.lt_succ_of_le (UInt32.le_iff_toNat_le.mp (Char.utf8Size_eq_one_iff.mp hone)), hrest⟩

theorem latin1_eq_utf8_iff (cs : List Char) :
    (cs.map fun c => c.toNat.toUInt8) = utf8 cs ↔ ∀ c ∈ cs, c.toNat < 128 := by
  constructor
  · intro h
    have hlength := congrArg List.length h
    rw [List.length_map] at hlength
    exact (length_le_utf8 cs).2 hlength
  · exact fun h => (utf8_ascii h).symm

def headerOf (bytes : List UInt8) : List UInt8 :=
  ("Basic ".toList ++ Base64.encode bytes).map fun c => c.toNat.toUInt8

theorem toStr_headerOf (bytes : List UInt8) :
    toStr (headerOf bytes) = some ("Basic ".toList ++ Base64.encode bytes) := by
  have hname : ("Basic ".toList.all fun c =>
      isVisibleAscii c.toNat.toUInt8 && charOfByte c.toNat.toUInt8 == c) = true := by decide
  have hall : ∀ c ∈ "Basic ".toList ++ Base64.encode bytes,
      isVisibleAscii c.toNat.toUInt8 = true ∧ charOfByte c.toNat.toUInt8 = c := by
    intro c hc
    rcases List.mem_append.mp hc with hc | hc
    · simpa using List.all_eq_true.mp hname c hc
    · exact (of_isCode (Base64.isCode_of_mem_encode hc)).2
  refine toStr_eq_some_iff.mpr ⟨fun b hb => ?_, (map_charOfByte fun c hc => (hall c hc).2).symm⟩
  obtain ⟨c, hc, rfl⟩ := List.mem_map.mp hb
  exact (hall c hc).1

theorem trim_encode (bytes : List UInt8) : Text.trim (Base64.encode bytes) = Base64.encode bytes := by
  have htrim := @Text.trim_append [] (Base64.encode bytes) [] (by simp)
    (fun c hc => (of_isCode (Base64.isCode_of_mem_encode hc)).1) (by simp)
  simpa using htrim

section
variable {decode : List Char → Option (List UInt8)}

theorem extract_headerOf (hdecode : StandardBase64 decode) (bytes : List UInt8)
    (username password : String) :
    extractBasicAuthCredentialsChecked decode (some (headerOf bytes)) =
        .ok (some (username, password)) ↔
      bytes = credentialBytes username password ∧ username ≠ "" ∧ ':' ∉ username.toList := by
  have hscheme : "basic ".toList.isPrefixOf
      (("Basic ".toList ++ Base64.encode bytes).map Char.toLower) = true := by
    rw [List.map_append, List.isPrefixOf_iff_prefix]
    exact List.prefix_append _ _
  have hdrop : ("Basic ".toList ++ Base64.encode bytes).drop 6 = Base64.encode bytes := rfl
  have hinj : Base64.encode bytes = Base64.encode (credentialBytes username password) ↔
      bytes = credentialBytes username password := by
    constructor
    · intro h
      have hboth := congrArg Base64.decode h
      rwa [Base64.decode_encode, Base64.decode_encode, Option.some_inj] at hboth
    · rintro rfl
      rfl
  rw [extractBasicAuthCredentialsChecked_eq, Except.ok.injEq, Option.bind_some, toStr_headerOf,
    Option.bind_some, hscheme, hdrop]
  simp only [Bool.not_true, Bool.false_eq_true, if_false]
  rw [readCredentials_eq_some_iff hdecode, trim_encode, hinj]

/-- The server reads what the page was given exactly if it is ASCII, and what the client library
was given in any case; there has to be a user name, and no colon in it. -/
theorem sign_in_read_iff (hdecode : StandardBase64 decode) (username password : String) :
    ((∃ header, signInHeader username password = some header ∧
        extractBasicAuthCredentialsChecked decode (some header) = .ok (some (username, password))) ↔
      username ≠ "" ∧ ':' ∉ username.toList ∧
        ∀ c ∈ username.toList ++ password.toList, c.toNat < 128) ∧
    (extractBasicAuthCredentialsChecked decode (some (clientHeader username password)) =
        .ok (some (username, password)) ↔
      username ≠ "" ∧ ':' ∉ username.toList) := by
  have hascii : (∀ c ∈ username.toList ++ ':' :: password.toList, c.toNat < 128) ↔
      ∀ c ∈ username.toList ++ password.toList, c.toNat < 128 := by
    simp only [List.forall_mem_append, List.forall_mem_cons]
    have hcolon : ':'.toNat < 128 := by decide
    tauto
  constructor
  · rw [← hascii]
    constructor
    · rintro ⟨header, hheader, hread⟩
      obtain ⟨encoded, hencoded, rfl⟩ := Option.map_eq_some_iff.mp hheader
      unfold btoa at hencoded
      split at hencoded
      · cases hencoded
        obtain ⟨hbytes, hne, hcolon⟩ := (extract_headerOf hdecode _ username password).mp hread
        exact ⟨hne, hcolon, (latin1_eq_utf8_iff _).mp hbytes⟩
      · cases hencoded
    · rintro ⟨hne, hcolon, hchars⟩
      have hlatin : (username.toList ++ ':' :: password.toList).all (fun c => c.toNat < 256) =
          true := by
        rw [List.all_eq_true]
        intro c hc
        have hlt := hchars c hc
        simp only [decide_eq_true_eq]
        omega
      refine ⟨_, congrArg (Option.map _) (if_pos hlatin), ?_⟩
      exact (extract_headerOf hdecode _ username password).mpr
        ⟨(latin1_eq_utf8_iff _).mpr hchars, hne, hcolon⟩
  · have hbytes : utf8 (username.toList ++ ':' :: password.toList) =
        credentialBytes username password := rfl
    exact (extract_headerOf hdecode _ username password).trans (and_iff_right hbytes)

end

/-- A password with an umlaut does not get in from the page. -/
theorem sign_in_read_umlaut :
    ¬ ∃ header, signInHeader "alice" "p\u00e4ss" = some header ∧
      extractBasicAuthCredentialsChecked Base64.decode (some header) =
        .ok (some ("alice", "p\u00e4ss")) := by
  intro h
  have hascii := ((sign_in_read_iff standardBase64_decode "alice" "p\u00e4ss").1.mp h).2.2
  exact absurd (hascii '\u00e4' (by decide)) (by decide)

end AuthVerifier
