import AuthVerifier.Lib.Base64
import AuthVerifier.Lib.Text
import Mathlib.Algebra.Field.Rat

/-!
What browsers provide to scripts, as far as it is a function of text or bytes: white space, `atob`,
`TextDecoder`, `Number` and `Date.UTC`. Texts are lists of characters.
-/

set_option autoImplicit false

namespace Script

/-- What `\s` matches and `trim` removes. It has U+FEFF, and it does not have U+0085. -/
def isSpace (c : Char) : Bool :=
  let n := c.toNat
  (9 ≤ n && n ≤ 13) || n == 32 || n == 0xA0 || n == 0x1680 || (0x2000 ≤ n && n ≤ 0x200A) ||
    n == 0x2028 || n == 0x2029 || n == 0x202F || n == 0x205F || n == 0x3000 || n == 0xFEFF

def trim (cs : List Char) : List Char := ((cs.dropWhile isSpace).reverse.dropWhile isSpace).reverse

def removeSpaces (cs : List Char) : List Char := cs.filter fun c => !isSpace c

/-- `split(/\s+/)`, with or without white space in front that has been seen already. -/
def splitFrom (afterSpace : Bool) : List Char → List (List Char)
  | [] => [[]]
  | c :: cs =>
    if isSpace c then
      if afterSpace then splitFrom true cs else [] :: splitFrom true cs
    else match splitFrom false cs with
      | [] => [[c]]
      | field :: fields => (c :: field) :: fields

def splitSpaces (cs : List Char) : List (List Char) := splitFrom false cs

def oneByte (a b : Char) : Option (List UInt8) :=
  match Base64.value? a, Base64.value? b with
  | some x, some y => some [Base64.byte₁ x y]
  | _, _ => none

def twoBytes (a b c : Char) : Option (List UInt8) :=
  match Base64.value? a, Base64.value? b, Base64.value? c with
  | some x, some y, some z => some [Base64.byte₁ x y, Base64.byte₂ y z]
  | _, _, _ => none

def threeBytes (a b c d : Char) : Option (List UInt8) :=
  match Base64.value? a, Base64.value? b, Base64.value? c, Base64.value? d with
  | some x, some y, some z, some w => some [Base64.byte₁ x y, Base64.byte₂ y z, Base64.byte₃ z w]
  | _, _, _, _ => none

/-- Groups of four digits. The last group may be short, with or without the padding. -/
def groups : List Char → Option (List UInt8)
  | [] => some []
  | [_] => none
  | [a, b] => oneByte a b
  | [a, b, c] => twoBytes a b c
  | a :: b :: c :: d :: rest =>
    if d = '=' ∧ rest = [] then if c = '=' then oneByte a b else twoBytes a b c
    else match threeBytes a b c d, groups rest with
      | some bytes, some more => some (bytes ++ more)
      | _, _ => none

def isAsciiSpace (c : Char) : Bool := ['\t', '\n', '\x0c', '\r', ' '].contains c

/-- The bytes of the text, or none where a `DOMException` is thrown. -/
def atob (cs : List Char) : Option (List UInt8) := groups (cs.filter fun c => !isAsciiSpace c)

/-- How many bytes are missing, the bits so far, and the bounds of the next byte. -/
structure Utf8State where
  needed : Nat := 0
  code : Nat := 0
  lower : Nat := 0x80
  upper : Nat := 0xBF

def utf8Start (b : Nat) : List Char × Utf8State :=
  if b < 0x80 then ([Char.ofNat b], {})
  else if 0xC2 ≤ b ∧ b ≤ 0xDF then ([], { needed := 1, code := b % 0x20 })
  else if 0xE0 ≤ b ∧ b ≤ 0xEF then
    ([], { needed := 2, code := b % 0x10, lower := if b = 0xE0 then 0xA0 else 0x80,
           upper := if b = 0xED then 0x9F else 0xBF })
  else if 0xF0 ≤ b ∧ b ≤ 0xF4 then
    ([], { needed := 3, code := b % 8, lower := if b = 0xF0 then 0x90 else 0x80,
           upper := if b = 0xF4 then 0x8F else 0xBF })
  else (['\uFFFD'], {})

/-- A byte out of bounds ends the character before it and begins the next. -/
def utf8Step (s : Utf8State) (b : Nat) : List Char × Utf8State :=
  if s.needed = 0 then utf8Start b
  else if b < s.lower ∨ s.upper < b then
    let next := utf8Start b
    ('\uFFFD' :: next.1, next.2)
  else
    let code := s.code * 0x40 + b % 0x40
    if s.needed = 1 then ([Char.ofNat code], {})
    else ([], { needed := s.needed - 1, code := code })

def utf8Run (s : Utf8State) : List UInt8 → List Char
  | [] => if s.needed = 0 then [] else ['\uFFFD']
  | b :: bytes =>
    let next := utf8Step s b.toNat
    next.1 ++ utf8Run next.2 bytes

/-- `new TextDecoder().decode`, without a byte order mark. -/
def decodeText (bytes : List UInt8) : List Char :=
  match utf8Run {} bytes with
  | [] => []
  | c :: cs => if c = '\uFEFF' then cs else c :: cs

def digitValue? (c : Char) : Option Nat :=
  if c.isDigit then some (c.toNat - 48)
  else if 'a' ≤ c ∧ c ≤ 'f' then some (c.toNat - 87)
  else if 'A' ≤ c ∧ c ≤ 'F' then some (c.toNat - 55)
  else none

def digits? (base : Nat) (cs : List Char) : Option Nat :=
  if cs.isEmpty then none
  else (cs.mapM fun c => (digitValue? c).filter (· < base)).map
    (List.foldl (fun n d => n * base + d) 0)

def signed (cs : List Char) : Int × List Char :=
  match cs with
  | '-' :: cs => (-1, cs)
  | '+' :: cs => (1, cs)
  | _ => (1, cs)

/-- The exponent after the first `e`, which is zero without one. -/
def exponent? (cs : List Char) : Option Int :=
  match cs.dropWhile fun c => c != 'e' && c != 'E' with
  | [] => some 0
  | _ :: cs => (digits? 10 (signed cs).2).map fun n => (signed cs).1 * (n : Int)

def unsigned? (cs : List Char) : Option ℚ :=
  let mantissa := cs.takeWhile fun c => c != 'e' && c != 'E'
  let (whole, fraction) := (Text.splitOnce '.' mantissa).getD (mantissa, [])
  match digits? 10 (whole ++ fraction), exponent? cs with
  | some n, some e => some (n * (10 : ℚ) ^ (e - fraction.length))
  | _, _ => none

/-- The finite number that `Number` reads, without the rounding of long ones. There is none for `NaN`
and for the infinities. -/
def number? (text : List Char) : Option ℚ :=
  match trim text with
  | [] => some 0
  | '0' :: 'x' :: cs | '0' :: 'X' :: cs => (digits? 16 cs).map fun n => (n : ℚ)
  | '0' :: 'o' :: cs | '0' :: 'O' :: cs => (digits? 8 cs).map fun n => (n : ℚ)
  | '0' :: 'b' :: cs | '0' :: 'B' :: cs => (digits? 2 cs).map fun n => (n : ℚ)
  | cs => (unsigned? (signed cs).2).map fun q => (signed cs).1 * q

def truncate (q : ℚ) : Int := q.num.tdiv q.den

def dayFromYear (year : Int) : Int :=
  365 * (year - 1970) + (year - 1969) / 4 - (year - 1901) / 100 + (year - 1601) / 400

def isLeapYear (year : Int) : Bool := year % 4 == 0 && (year % 100 != 0 || year % 400 == 0)

def daysBeforeMonth (leap : Bool) (month : Nat) : Int :=
  [0, 31, 59, 90, 120, 151, 181, 212, 243, 273, 304, 334].getD month 0 +
    if leap && 2 ≤ month then 1 else 0

/-- The months are numbered from zero, and any of the numbers may be out of its range. -/
def makeDay (year month day : Int) : Int :=
  let year := year + month / 12
  dayFromYear year + daysBeforeMonth (isLeapYear year) (month % 12).toNat + day - 1

def dateUtc (year month day hours minutes seconds : ℚ) : Option Int :=
  let year := truncate year
  let fullYear := if 0 ≤ year ∧ year ≤ 99 then 1900 + year else year
  let time := makeDay fullYear (truncate month) (truncate day) * 86400000 +
    truncate hours * 3600000 + truncate minutes * 60000 + truncate seconds * 1000
  if time.natAbs ≤ 8640000000000000 then some time else none

/-- The first second of 2024, and the last of February in a leap year. -/
example : dateUtc 2024 0 1 0 0 0 = some 1704067200000 ∧
    dateUtc 2024 2 0 0 0 0 = some 1709164800000 := by
  decide

theorem trim_parts (cs : List Char) : ∃ before after, cs = before ++ (trim cs ++ after) := by
  refine ⟨cs.takeWhile isSpace, ((cs.dropWhile isSpace).reverse.takeWhile isSpace).reverse, ?_⟩
  have hend := congrArg List.reverse
    (List.takeWhile_append_dropWhile (p := isSpace) (l := (cs.dropWhile isSpace).reverse))
  rw [List.reverse_append, List.reverse_reverse] at hend
  have hboth := List.takeWhile_append_dropWhile (p := isSpace) (l := cs)
  exact hboth.symm.trans (congrArg (cs.takeWhile isSpace ++ ·) hend.symm)

theorem removeSpaces_removeSpaces (cs : List Char) :
    removeSpaces (removeSpaces cs) = removeSpaces cs := by
  rw [removeSpaces, removeSpaces, List.filter_filter]
  simp only [Bool.and_self]

theorem size_trim_le (text : String) :
    (String.ofList (trim text.toList)).utf8ByteSize ≤ text.utf8ByteSize := by
  obtain ⟨before, after, hparts⟩ := trim_parts text.toList
  have htext : text =
      String.ofList before ++ (String.ofList (trim text.toList) ++ String.ofList after) :=
    String.toList_inj.mp (by simpa using hparts)
  have hsize := congrArg String.utf8ByteSize htext
  rw [String.utf8ByteSize_append, String.utf8ByteSize_append] at hsize
  omega

theorem size_ofList_le (cs : List Char) : (String.ofList cs).utf8ByteSize ≤ 4 * cs.length := by
  induction cs with
  | nil => exact Nat.le_refl _
  | cons c cs ih =>
    have hcons : String.ofList (c :: cs) = String.singleton c ++ String.ofList cs :=
      String.toList_inj.mp (by simp)
    have hc := c.utf8Size_le_four
    rw [hcons, String.utf8ByteSize_append, String.utf8ByteSize_singleton, List.length_cons]
    omega

theorem groups_of_decode {cs : List Char} {bytes : List UInt8} (h : Base64.decode cs = some bytes) :
    groups cs = some bytes := by
  fun_induction Base64.decode cs generalizing bytes with
  | case1 => exact h
  | case2 a b d rest x y hb ha hlast hy =>
    rw [groups, if_pos hlast, if_pos rfl, oneByte, ha, hb]
    exact h
  | case4 a b c d rest x y hb ha hlast hc z hz =>
    rw [groups, if_pos hlast, if_neg hc, twoBytes, ha, hb, hz]
    exact h
  | case7 a b c d rest x y hb ha hlast z w tail hrest hd hc ih =>
    rw [groups, if_neg hlast, threeBytes, ha, hb, hc, hd, ih hrest]
    exact h
  | case3 | case5 | case6 | case8 | case9 | case10 => cases h

theorem isCode_of_value? {c : Char} {n : Nat} (h : Base64.value? c = some n) :
    Base64.isCode c = true := by
  rw [Base64.isCode, h]
  rfl

theorem isCode_of_oneByte {a b : Char} {bytes : List UInt8} (h : oneByte a b = some bytes) :
    ∀ c ∈ [a, b], Base64.isCode c = true := by
  unfold oneByte at h
  split at h
  · rename_i x y ha hb
    simp [isCode_of_value? ha, isCode_of_value? hb]
  · cases h

theorem isCode_of_twoBytes {a b c : Char} {bytes : List UInt8} (h : twoBytes a b c = some bytes) :
    ∀ d ∈ [a, b, c], Base64.isCode d = true := by
  unfold twoBytes at h
  split at h
  · rename_i x y z ha hb hc
    simp [isCode_of_value? ha, isCode_of_value? hb, isCode_of_value? hc]
  · cases h

theorem isCode_of_threeBytes {a b c d : Char} {bytes : List UInt8}
    (h : threeBytes a b c d = some bytes) : ∀ e ∈ [a, b, c, d], Base64.isCode e = true := by
  unfold threeBytes at h
  split at h
  · rename_i x y z w ha hb hc hd
    simp [isCode_of_value? ha, isCode_of_value? hb, isCode_of_value? hc, isCode_of_value? hd]
  · cases h

theorem isCode_of_groups {cs : List Char} {bytes : List UInt8} (h : groups cs = some bytes) :
    ∀ c ∈ cs, Base64.isCode c = true := by
  have hpad : Base64.isCode '=' = true := by decide
  fun_induction groups cs generalizing bytes with
  | case1 => simp
  | case2 => cases h
  | case3 a b => exact isCode_of_oneByte h
  | case4 a b c => exact isCode_of_twoBytes h
  | case5 a b d rest hlast =>
    obtain ⟨rfl, rfl⟩ := hlast
    have hdigits := isCode_of_oneByte h
    simp_all
  | case6 a b c d rest hlast hc =>
    obtain ⟨rfl, rfl⟩ := hlast
    have hdigits := isCode_of_twoBytes h
    simp_all
  | case7 a b c d rest hlast bytes more hmore hbytes ih =>
    intro e he
    have hdigits := isCode_of_threeBytes hbytes
    rcases List.mem_append.mp (show e ∈ [a, b, c, d] ++ rest from he) with he | he
    · exact hdigits e he
    · exact ih hmore e he
  | case8 => cases h

theorem isSpace_of_isCode {c : Char} (h : Base64.isCode c = true) :
    isSpace c = false ∧ isAsciiSpace c = false ∧ Text.isWhiteSpace c = false := by
  have hall : ('=' :: Base64.alphabet).all (fun c =>
      !isSpace c && !isAsciiSpace c && !Text.isWhiteSpace c) = true := by decide +kernel
  simpa [and_assoc] using List.all_eq_true.mp hall c (Base64.mem_of_isCode h)
theorem filter_eq_filter_isCode {p : Char → Bool} {cs : List Char}
    (hcode : ∀ c, Base64.isCode c = true → p c = true)
    (hkept : ∀ c ∈ cs.filter p, Base64.isCode c = true) : cs.filter p = cs.filter Base64.isCode := by
  refine List.filter_congr fun c hc => Bool.eq_iff_iff.mpr ⟨fun h => ?_, hcode c⟩
  exact hkept c (List.mem_filter.mpr ⟨hc, h⟩)

theorem atob_removeSpaces_eq {cs : List Char} {der bytes : List UInt8}
    (hdecode : Base64.decode (cs.filter fun c => !Text.isWhiteSpace c) = some der)
    (hatob : atob (removeSpaces cs) = some bytes) : bytes = der := by
  have hstrict := groups_of_decode hdecode
  rw [atob, removeSpaces, List.filter_filter] at hatob
  have hcode : (cs.filter fun c => !Text.isWhiteSpace c) = cs.filter Base64.isCode :=
    filter_eq_filter_isCode (fun c hc => by simp [isSpace_of_isCode hc]) (isCode_of_groups hstrict)
  have hcode' : (cs.filter fun c => !isAsciiSpace c && !isSpace c) = cs.filter Base64.isCode :=
    filter_eq_filter_isCode (fun c hc => by simp [isSpace_of_isCode hc]) (isCode_of_groups hatob)
  rw [hcode'] at hatob
  rw [hcode, hatob] at hstrict
  exact Option.some.inj hstrict

theorem atob_encode (bytes : List UInt8) : atob (Base64.encode bytes) = some bytes := by
  have hplain : ((Base64.encode bytes).filter fun c => !isAsciiSpace c) = Base64.encode bytes :=
    List.filter_eq_self.mpr fun c hc => by
      simp [isSpace_of_isCode (Base64.isCode_of_mem_encode hc)]
  rw [atob, hplain, groups_of_decode (Base64.decode_encode bytes)]

theorem removeSpaces_encode (bytes : List UInt8) :
    removeSpaces (Base64.encode bytes) = Base64.encode bytes :=
  List.filter_eq_self.mpr fun c hc => by
    simp [isSpace_of_isCode (Base64.isCode_of_mem_encode hc)]

end Script
