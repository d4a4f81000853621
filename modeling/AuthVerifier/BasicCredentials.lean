import AuthVerifier.Middleware
import AuthVerifier.Lib.Base64
import AuthVerifier.Lib.ByteSlice

/-!
The reader of Basic credentials on the bytes of a header, with the slices it takes at positions of
bytes, following `extract_basic_auth_credentials`. The middleware uses it without them.
-/

set_option autoImplicit false

namespace AuthVerifier
open ByteSlice

def isVisibleAscii (b : UInt8) : Bool := (32 ≤ b && b < 127) || b == 9

def charOfByte (b : UInt8) : Char := Char.ofNat b.toNat

def toStr (value : List UInt8) : Option (List Char) :=
  if value.all isVisibleAscii then some (value.map charOfByte) else none

/-- `decode` is that of the standard engine. -/
def extractBasicAuthCredentialsChecked (decode : List Char → Option (List UInt8))
    (header : Option (List UInt8)) : Except Panic (Option (String × String)) :=
  match header.bind toStr with
  | none => .ok none
  | some auth =>
    if !"basic ".toList.isPrefixOf (auth.map Char.toLower) then .ok none
    else do
      let encoded ← sliceFrom 6 auth
      match (decode (Text.trim encoded)).bind fromUtf8 with
      | none => .ok none
      | some credentials => match find ':' credentials with
        | none => .ok none
        | some colonPos => do
          let username ← sliceTo colonPos credentials
          let password ← sliceFrom (colonPos + 1) credentials
          if username.isEmpty then .ok none
          else .ok (some (String.ofList username, String.ofList password))

/-- What is relied on of the `base64` crate: only canonical padded texts decode. -/
structure StandardBase64 (decode : List Char → Option (List UInt8)) : Prop where
  exact : ∀ text bytes, decode text = some bytes ↔ text = Base64.encode bytes

def isBlank (c : Char) : Bool := c == ' ' || c == '\t'

/-- The bytes of a user name and a password with a colon between them. -/
def credentialBytes (username password : String) : List UInt8 :=
  utf8 (username.toList ++ ':' :: password.toList)

/-- Visible ASCII: `basic` in any case, a space, and between blanks the base64 text of credentials
whose user name is not empty and has no colon. -/
structure CarriesBasic (value : List UInt8) (username password : String) : Prop where
  visible : ∀ b ∈ value, isVisibleAscii b = true
  nonempty : username ≠ ""
  colonFree : ':' ∉ username.toList
  text : ∃ scheme before after, value.map charOfByte = scheme ++ ' ' :: (before ++
      (Base64.encode (credentialBytes username password) ++ after)) ∧
    scheme.map Char.toLower = "basic".toList ∧ (∀ c ∈ before, isBlank c = true) ∧
    ∀ c ∈ after, isBlank c = true

def basicHeader (username password : String) : List UInt8 :=
  ("Basic ".toList ++ Base64.encode (credentialBytes username password)).map
    fun c => c.toNat.toUInt8

theorem visible_cases : ∀ b : UInt8, isVisibleAscii b = true →
    (charOfByte b).utf8Size = 1 ∧ (Text.isWhiteSpace (charOfByte b) = isBlank (charOfByte b)) := by
  have hall : ∀ n : Fin 256, isVisibleAscii (UInt8.ofNat n) = true →
      (charOfByte (UInt8.ofNat n)).utf8Size = 1 ∧
        (Text.isWhiteSpace (charOfByte (UInt8.ofNat n)) = isBlank (charOfByte (UInt8.ofNat n))) := by
    decide +kernel
  intro b hb
  have h := hall ⟨b.toNat, b.toNat_lt⟩
  rw [UInt8.ofNat_toNat] at h
  exact h hb

theorem toStr_eq_some_iff {value : List UInt8} {auth : List Char} :
    toStr value = some auth ↔ (∀ b ∈ value, isVisibleAscii b = true) ∧ auth = value.map charOfByte := by
  unfold toStr
  split
  · rename_i h
    rw [Option.some_inj, eq_comm, ← List.all_eq_true]
    exact ⟨fun he => ⟨h, he⟩, And.right⟩
  · rename_i h
    refine iff_of_false (by simp) fun hv => h (List.all_eq_true.mpr hv.1)

theorem of_toStr {value : List UInt8} {auth : List Char} (h : toStr value = some auth) :
    ∀ c ∈ auth, c.utf8Size = 1 ∧ Text.isWhiteSpace c = isBlank c := by
  obtain ⟨hvisible, rfl⟩ := toStr_eq_some_iff.mp h
  intro c hc
  obtain ⟨b, hb, rfl⟩ := List.mem_map.mp hc
  exact visible_cases b (hvisible b hb)

theorem byteLength_ascii {cs : List Char} (h : ∀ c ∈ cs, c.utf8Size = 1) :
    byteLength cs = cs.length := by
  induction cs with
  | nil => rfl
  | cons c cs ih =>
    rw [byteLength_cons, h c List.mem_cons_self, ih fun d hd => h d (List.mem_cons_of_mem c hd),
      List.length_cons, Nat.add_comm]

theorem of_isCode {c : Char} (h : Base64.isCode c = true) : Text.isWhiteSpace c = false ∧
    isVisibleAscii c.toNat.toUInt8 = true ∧ charOfByte c.toNat.toUInt8 = c := by
  have hall : (('=' :: Base64.alphabet).all fun c => !Text.isWhiteSpace c &&
      (isVisibleAscii c.toNat.toUInt8 && charOfByte c.toNat.toUInt8 == c)) = true := by
    decide +kernel
  simpa using List.all_eq_true.mp hall c (Base64.mem_of_isCode h)

theorem eq_space_of_toLower {c : Char} (h : c.toLower = ' ') : c = ' ' := by
  have hall : ∀ n : Fin 128, (Char.ofNat n).toLower = ' ' → Char.ofNat n = ' ' := by decide
  by_cases hc : c.toNat < 128
  · have hascii := hall ⟨c.toNat, hc⟩
    rw [Char.ofNat_toNat] at hascii
    exact hascii h
  · unfold Char.toLower at h
    split at h
    · rename_i hupper
      have hle : c.toNat ≤ 90 := UInt32.le_iff_toNat_le.mp hupper.2
      omega
    · exact h

theorem basicPrefix_iff {auth : List Char} :
    "basic ".toList.isPrefixOf (auth.map Char.toLower) = true ↔
      ∃ scheme, auth = scheme ++ ' ' :: auth.drop 6 ∧ scheme.map Char.toLower = "basic".toList := by
  have hname : "basic ".toList = "basic".toList ++ [' '] := by decide
  rw [List.isPrefixOf_iff_prefix, hname]
  constructor
  · rintro ⟨rest, hrest⟩
    obtain ⟨first, after, rfl, hfirst, -⟩ := List.map_eq_append_iff.mp hrest.symm
    obtain ⟨scheme, space, rfl, hscheme, hspace⟩ := List.map_eq_append_iff.mp hfirst
    obtain ⟨c, rfl, hc⟩ := List.map_eq_singleton_iff.mp hspace
    have hlength : scheme.length = 5 := by
      rw [← List.length_map Char.toLower, hscheme]
      rfl
    refine ⟨scheme, ?_, hscheme⟩
    rw [List.drop_left' (by simp [hlength]), eq_space_of_toLower hc, List.append_assoc]
    rfl
  · rintro ⟨scheme, hauth, hscheme⟩
    rw [hauth, List.map_append, hscheme, List.map_cons, show Char.toLower ' ' = ' ' by decide]
    exact ⟨(auth.drop 6).map Char.toLower, by simp⟩

/-- What is read of a text after `basic `. -/
def readCredentials (decode : List Char → Option (List UInt8)) (encoded : List Char) :
    Option (String × String) :=
  ((decode (Text.trim encoded)).bind fromUtf8).bind fun credentials =>
    (Text.splitOnce ':' credentials).bind fun (username, password) =>
      if username.isEmpty then none else some (String.ofList username, String.ofList password)

section
variable {decode : List Char → Option (List UInt8)} {header : Option (List UInt8)}

theorem extractBasicAuthCredentialsChecked_eq :
    extractBasicAuthCredentialsChecked decode header =
      .ok ((header.bind toStr).bind fun auth =>
        if !"basic ".toList.isPrefixOf (auth.map Char.toLower) then none
        else readCredentials decode (auth.drop 6)) := by
  unfold extractBasicAuthCredentialsChecked readCredentials
  cases hauth : header.bind toStr with
  | none => rfl
  | some auth =>
    obtain ⟨value, -, hvalue⟩ := Option.bind_eq_some_iff.mp hauth
    dsimp only [Option.bind_some]
    split
    · rfl
    · rename_i hprefix
      have hslice : sliceFrom 6 auth = .ok (auth.drop 6) := by
        have hlength : 6 ≤ auth.length := by
          simp only [Bool.not_eq_true', Bool.not_eq_false, List.isPrefixOf_iff_prefix] at hprefix
          simpa using hprefix.length_le
        have hbytes : byteLength (auth.take 6) = 6 := by
          rw [byteLength_ascii fun c hc => (of_toStr hvalue c (List.mem_of_mem_take hc)).1,
            List.length_take, Nat.min_eq_left hlength]
        have hcut := sliceFrom_append (auth.take 6) (auth.drop 6)
        rwa [hbytes, List.take_append_drop] at hcut
      rw [hslice]
      dsimp only [bind, Except.bind]
      cases (decode (Text.trim (auth.drop 6))).bind fromUtf8 with
      | none => rfl
      | some credentials =>
        dsimp only [Option.bind]
        cases hfind : find ':' credentials with
        | none =>
          rw [Text.splitOnce_eq_none_iff.mpr (find_eq_none_iff.mp hfind)]
        | some colonPos =>
          obtain ⟨username, password, rfl, hcolon, rfl⟩ := find_eq_some_iff.mp hfind
          have hafter : sliceFrom (byteLength username + 1) (username ++ ':' :: password) =
              .ok password := by
            have hcut := sliceFrom_append (username ++ [':']) password
            rw [byteLength_append, List.append_assoc] at hcut
            exact hcut
          dsimp only
          rw [Text.splitOnce_append password hcolon, sliceTo_append, hafter]
          dsimp only
          split <;> rfl

theorem readCredentials_eq_some_iff (hdecode : StandardBase64 decode) {encoded : List Char}
    {username password : String} :
    readCredentials decode encoded = some (username, password) ↔
      Text.trim encoded = Base64.encode (credentialBytes username password) ∧ username ≠ "" ∧
        ':' ∉ username.toList := by
  unfold readCredentials
  constructor
  · intro h
    obtain ⟨credentials, hcredentials, hread⟩ := Option.bind_eq_some_iff.mp h
    obtain ⟨⟨name, secret⟩, hsplit, hpair⟩ := Option.bind_eq_some_iff.mp hread
    obtain ⟨rfl, hcolon⟩ := Text.splitOnce_eq_some_iff.mp hsplit
    obtain ⟨bytes, hbytes, hutf8⟩ := Option.bind_eq_some_iff.mp hcredentials
    rw [hdecode.exact, fromUtf8_eq_some_iff.mp hutf8] at hbytes
    dsimp only at hpair
    split at hpair
    · cases hpair
    · rename_i hne
      cases hpair
      rw [credentialBytes, String.toList_ofList, String.toList_ofList]
      refine ⟨hbytes, fun hempty => hne ?_, hcolon⟩
      have htext := congrArg String.toList hempty
      rw [String.toList_ofList] at htext
      rw [htext]
      rfl
  · rintro ⟨htrim, hne, hcolon⟩
    have hname : username.toList.isEmpty = false := by
      cases htext : username.toList with
      | nil => exact absurd (String.toList_eq_nil_iff.mp htext) hne
      | cons => rfl
    rw [(hdecode.exact _ _).mpr htrim, Option.bind_some, credentialBytes,
      fromUtf8_eq_some_iff.mpr rfl, Option.bind_some, Text.splitOnce_append _ hcolon, Option.bind_some]
    simp [hname]

theorem carriesBasic_iff (hdecode : StandardBase64 decode) {value : List UInt8} {auth : List Char}
    (hauth : toStr value = some auth) {username password : String} :
    CarriesBasic value username password ↔ "basic ".toList.isPrefixOf (auth.map Char.toLower) = true ∧
      readCredentials decode (auth.drop 6) = some (username, password) := by
  obtain ⟨hvisible, hvalue⟩ := toStr_eq_some_iff.mp hauth
  have hwhite := fun c hc => (of_toStr hauth c hc).2
  rw [readCredentials_eq_some_iff hdecode, basicPrefix_iff]
  constructor
  · rintro ⟨-, hne, hcolon, scheme, before, after, htext, hscheme, hbefore, hafter⟩
    rw [← hvalue] at htext
    have hlength : scheme.length = 5 := by
      rw [← List.length_map Char.toLower, hscheme]
      rfl
    have hrest : auth.drop 6 =
        before ++ (Base64.encode (credentialBytes username password) ++ after) := by
      rw [htext, List.append_cons, List.drop_left' (by simp [hlength])]
    refine ⟨⟨scheme, by rw [hrest, ← htext], hscheme⟩, ?_, hne, hcolon⟩
    rw [hrest]
    refine Text.trim_append (fun c hc => ?_)
      (fun c hc => (of_isCode (Base64.isCode_of_mem_encode hc)).1) (fun c hc => ?_)
    · rw [hwhite c (by rw [htext]; simp [hc])]
      exact hbefore c hc
    · rw [hwhite c (by rw [htext]; simp [hc])]
      exact hafter c hc
  · rintro ⟨⟨scheme, htext, hscheme⟩, htrim, hne, hcolon⟩
    obtain ⟨before, after, hrest, hbefore, hafter⟩ := Text.trim_parts (auth.drop 6)
    rw [htrim] at hrest
    rw [hrest] at htext
    refine ⟨hvisible, hne, hcolon, scheme, before, after, by rw [← hvalue]; exact htext, hscheme,
      fun c hc => ?_, fun c hc => ?_⟩
    · rw [← hwhite c (by rw [htext]; simp [hc])]
      exact hbefore c hc
    · rw [← hwhite c (by rw [htext]; simp [hc])]
      exact hafter c hc

end

theorem map_charOfByte {cs : List Char} (h : ∀ c ∈ cs, charOfByte c.toNat.toUInt8 = c) :
    (cs.map fun c => c.toNat.toUInt8).map charOfByte = cs := by
  rw [List.map_map]
  exact (List.map_congr_left h).trans (List.map_id cs)

def isVisibleChar (c : Char) : Bool := (32 ≤ c.toNat && c.toNat < 127) || c == '\t'

theorem utf8EncodeChar_ascii {c : Char} (h : c.toNat < 128) :
    String.utf8EncodeChar c = [UInt8.ofNat c.toNat] :=
  if_pos (by change c.toNat ≤ 127; omega)

theorem not_visible_utf8EncodeChar {c : Char} (h : 128 ≤ c.toNat) :
    (String.utf8EncodeChar c).all isVisibleAscii = false := by
  have hbyte (n : Nat) (hn : 128 ≤ n) (hn' : n < 256) : isVisibleAscii (UInt8.ofNat n) = false := by
    have hall : ∀ n : Fin 256, 128 ≤ n.val → isVisibleAscii (UInt8.ofNat n) = false := by
      decide +kernel
    exact hall ⟨n, hn'⟩ hn
  have h₁ : ¬ c.val.toNat ≤ 0x7f := by
    change ¬ c.toNat ≤ 127
    omega
  simp only [String.utf8EncodeChar]
  rw [if_neg h₁]
  split
  · rw [List.all_cons, hbyte _ (by omega) (by omega), Bool.false_and]
  · split
    · rw [List.all_cons, hbyte _ (by omega) (by omega), Bool.false_and]
    · rw [List.all_cons, hbyte _ (by omega) (by omega), Bool.false_and]

theorem visible_utf8EncodeChar (c : Char) :
    (String.utf8EncodeChar c).all isVisibleAscii = isVisibleChar c ∧
      (isVisibleChar c = true → (String.utf8EncodeChar c).map charOfByte = [c]) := by
  have hall : ∀ n : Fin 128,
      isVisibleAscii (UInt8.ofNat n) = isVisibleChar (Char.ofNat n) ∧
        charOfByte (UInt8.ofNat n) = Char.ofNat n := by decide
  by_cases hc : c.toNat < 128
  · obtain ⟨hvisible, hchar⟩ := hall ⟨c.toNat, hc⟩
    rw [Char.ofNat_toNat] at hvisible hchar
    rw [utf8EncodeChar_ascii hc]
    exact ⟨by simp [hvisible], fun _ => by simp [hchar]⟩
  · have hno : isVisibleChar c = false := by
      have htab : c ≠ '\t' := by
        rintro rfl
        exact hc (by decide)
      simp only [isVisibleChar, Bool.or_eq_false_iff, beq_eq_false_iff_ne, Bool.and_eq_false_iff,
        decide_eq_false_iff_not]
      exact ⟨.inr (by omega), htab⟩
    exact ⟨by rw [not_visible_utf8EncodeChar (by omega), hno], fun h => by rw [hno] at h; cases h⟩

theorem toStr_utf8 (h : String) : toStr (utf8 h.toList) = (headerText (some h)).map String.toList := by
  have hvisible : (utf8 h.toList).all isVisibleAscii = h.toList.all isVisibleChar := by
    rw [utf8, List.all_flatMap]
    exact congrArg h.toList.all (funext fun c => (visible_utf8EncodeChar c).1)
  have htext (cs : List Char) (hcs : ∀ c ∈ cs, isVisibleChar c = true) :
      (utf8 cs).map charOfByte = cs := by
    induction cs with
    | nil => rfl
    | cons c cs ih =>
      rw [utf8, List.flatMap_cons, List.map_append,
        (visible_utf8EncodeChar c).2 (hcs c List.mem_cons_self), ← utf8,
        ih fun d hd => hcs d (List.mem_cons_of_mem c hd), List.singleton_append]
  have hheader : headerText (some h) = if h.toList.all isVisibleChar then some h else none := rfl
  rw [toStr, hvisible, hheader]
  split
  · rename_i hall
    rw [htext _ (List.all_eq_true.mp hall), Option.map_some]
  · rfl

theorem extractBasicAuthCredentialsChecked_utf8 {X : Externals}
    {decode : List Char → Option (List UInt8)} (hX : ∀ text, X.base64Utf8 text =
      ((decode text.toList).bind fromUtf8).map String.ofList) (header : Option String) :
    extractBasicAuthCredentialsChecked decode (header.map fun h => utf8 h.toList) =
      .ok (extractBasicAuthCredentials X header) := by
  rw [extractBasicAuthCredentialsChecked_eq, Except.ok.injEq]
  cases header with
  | none => rfl
  | some h =>
    rw [Option.map_some, Option.bind_some, toStr_utf8, extractBasicAuthCredentials]
    cases headerText (some h) with
    | none => rfl
    | some auth =>
      dsimp only [Option.map_some, Option.bind_some]
      split
      · rfl
      · rw [hX, String.toList_ofList, readCredentials]
        cases (decode (Text.trim (auth.toList.drop 6))).bind fromUtf8 with
        | none => rfl
        | some credentials =>
          dsimp only [Option.map_some, Option.bind_some]
          rw [String.toList_ofList]
          cases Text.splitOnce ':' credentials <;> rfl

theorem carriesBasic_basicHeader {username password : String} (hne : username ≠ "")
    (hcolon : ':' ∉ username.toList) :
    CarriesBasic (basicHeader username password) username password := by
  have hname : ("Basic ".toList.all fun c =>
      isVisibleAscii c.toNat.toUInt8 && charOfByte c.toNat.toUInt8 == c) = true := by decide
  have hall : ∀ c ∈ "Basic ".toList ++ Base64.encode (credentialBytes username password),
      isVisibleAscii c.toNat.toUInt8 = true ∧ charOfByte c.toNat.toUInt8 = c := by
    intro c hc
    rcases List.mem_append.mp hc with hc | hc
    · simpa using List.all_eq_true.mp hname c hc
    · exact (of_isCode (Base64.isCode_of_mem_encode hc)).2
  refine ⟨?_, hne, hcolon, "Basic".toList, [], [], ?_, by decide, by simp, by simp⟩
  · intro b hb
    obtain ⟨c, hc, rfl⟩ := List.mem_map.mp hb
    exact (hall c hc).1
  · have htext : (basicHeader username password).map charOfByte =
        "Basic ".toList ++ Base64.encode (credentialBytes username password) :=
      map_charOfByte fun c hc => (hall c hc).2
    exact htext.trans (by simp)

/-- Every header is read without a panic, and as the credentials it carries if it carries some; and
the header of a client is read back. -/
theorem basic_credentials_exact (decode : List Char → Option (List UInt8))
    (hdecode : StandardBase64 decode) :
    (∀ header, ∃ credentials, extractBasicAuthCredentialsChecked decode header = .ok credentials ∧
      ∀ username password, credentials = some (username, password) ↔
        ∃ value, header = some value ∧ CarriesBasic value username password) ∧
    ∀ username password, username ≠ "" → ':' ∉ username.toList →
      extractBasicAuthCredentialsChecked decode (some (basicHeader username password)) =
        .ok (some (username, password)) := by
  have hexact : ∀ header username password, extractBasicAuthCredentialsChecked decode header =
      .ok (some (username, password)) ↔
        ∃ value, header = some value ∧ CarriesBasic value username password := by
    intro header username password
    rw [extractBasicAuthCredentialsChecked_eq, Except.ok.injEq]
    cases header with
    | none => exact iff_of_false nofun fun ⟨_, hvalue, _⟩ => nomatch hvalue
    | some value =>
      have hone : (∃ value', some value = some value' ∧ CarriesBasic value' username password) ↔
          CarriesBasic value username password := by simp
      rw [hone, Option.bind_some]
      cases hauth : toStr value with
      | none =>
        refine iff_of_false nofun fun hcarries => ?_
        rw [toStr_eq_some_iff.mpr ⟨hcarries.visible, rfl⟩] at hauth
        cases hauth
      | some auth =>
        rw [carriesBasic_iff hdecode hauth, Option.bind_some]
        generalize "basic ".toList.isPrefixOf (auth.map Char.toLower) = basic
        cases basic <;> simp
  refine ⟨fun header => ?_, fun username password hne hcolon => ?_⟩
  · refine ⟨_, extractBasicAuthCredentialsChecked_eq, fun username password => ?_⟩
    rw [← hexact, extractBasicAuthCredentialsChecked_eq, Except.ok.injEq]
  · exact (hexact _ _ _).mpr ⟨_, rfl, carriesBasic_basicHeader hne hcolon⟩

theorem standardBase64_decode : StandardBase64 Base64.decode where
  exact := fun _ _ => Base64.decode_eq_some_iff

theorem basic_credentials_exact_alice :
    extractBasicAuthCredentialsChecked Base64.decode (some (basicHeader "alice" "p:\u00e4ss")) =
      .ok (some ("alice", "p:\u00e4ss")) :=
  (basic_credentials_exact Base64.decode standardBase64_decode).2 "alice" "p:\u00e4ss" (by decide)
    (by decide)

end AuthVerifier
