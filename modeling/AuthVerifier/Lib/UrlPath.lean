import AuthVerifier.Lib.ByteSlice
import AuthVerifier.Lib.Text
import AuthVerifier.Lib.UrlHost
import Mathlib.Data.List.Infix

/-!
The path of a URL: how a value becomes a segment of it, what a URL parser makes of its segments,
and how a segment is read back.
-/

set_option autoImplicit false

namespace UrlPath
open ByteSlice UrlHost

/-- What `encodeURIComponent` leaves as it is. -/
def unescaped : List Char :=
  "ABCDEFGHIJKLMNOPQRSTUVWXYZabcdefghijklmnopqrstuvwxyz0123456789-_.!~*'()".toList

def hexDigit (n : Nat) : Char := Char.ofNat (if n < 10 then 0x30 + n else 0x37 + n)

def percentEncode (b : UInt8) : List Char :=
  ['%', hexDigit (b.toNat / 16), hexDigit (b.toNat % 16)]

def encodeURIComponent (cs : List Char) : List Char :=
  cs.flatMap fun c =>
    if unescaped.contains c then [c] else (String.utf8EncodeChar c).flatMap percentEncode

def component (value : String) : List Char := encodeURIComponent value.toList

def decode (segment : List Char) : Option (List Char) := fromUtf8 (percentDecode (utf8 segment))

def singleDots : List (List Char) := [".".toList, "%2e".toList, "%2E".toList]

def doubleDots : List (List Char) := singleDots.flatMap fun s => singleDots.map (s ++ ·)

inductive Dots where
  | single | double
  deriving DecidableEq

def dotsOf (segment : List Char) : Option Dots :=
  if doubleDots.contains segment then some .double
  else if singleDots.contains segment then some .single
  else none

/-- The segments that a URL parser keeps. A dot at the end leaves an empty segment. -/
def resolve {α : Type} (dots : α → Option Dots) (empty : α) (kept : List α) : List α → List α
  | [] => kept
  | segment :: rest =>
    let ending := if rest.isEmpty then [empty] else []
    match dots segment with
    | some .double => resolve dots empty (kept.dropLast ++ ending) rest
    | some .single => resolve dots empty (kept ++ ending) rest
    | none => resolve dots empty (kept ++ [segment]) rest

def isLeftOut (c : Char) : Bool := c == '\t' || c == '\n' || c == '\r'

/-- The segments of the path of a target, which starts with a slash, may have a query, and does not
end in a blank. -/
def segments (target : List Char) : List (List Char) :=
  let path := (target.filter (fun c => !isLeftOut c)).takeWhile (fun c => c != '?' && c != '#')
  (Text.splitAll '/' (path.map fun c => if c = '\\' then '/' else c)).tail

def received (target : List Char) : Option (List String) :=
  (resolve dotsOf [] [] (segments target)).mapM (fun segment => (decode segment).map String.ofList)

def render (path : List (List Char)) : List Char := path.flatMap ('/' :: ·)

theorem utf8_append (cs ds : List Char) : utf8 (cs ++ ds) = utf8 cs ++ utf8 ds := by
  simp [utf8]

theorem percentDecode_cons {b : UInt8} (h : b ≠ 0x25) (rest : List UInt8) :
    percentDecode (b :: rest) = b :: percentDecode rest := by
  match rest with
  | [] => rfl
  | [_] => rfl
  | hi :: lo :: rest => rw [percentDecode, if_neg h]

theorem utf8_percentEncode (b : UInt8) : ∃ hi lo : UInt8, utf8 (percentEncode b) = [0x25, hi, lo] ∧
    hexValue [Char.ofNat hi.toNat, Char.ofNat lo.toNat] = some b := by
  have hall : ∀ n : Fin 256,
      ∃ hi lo : UInt8, utf8 (percentEncode (UInt8.ofNat n)) = [0x25, hi, lo] ∧
        hexValue [Char.ofNat hi.toNat, Char.ofNat lo.toNat] = some (UInt8.ofNat n) := by
    intro n
    refine ⟨(hexDigit (n / 16)).toNat.toUInt8, (hexDigit (n % 16)).toNat.toUInt8, ?_⟩
    revert n
    decide +kernel
  have h := hall ⟨b.toNat, b.toNat_lt⟩
  rwa [UInt8.ofNat_toNat] at h

theorem percentDecode_percentEncode (bytes rest : List UInt8) :
    percentDecode (utf8 (bytes.flatMap percentEncode) ++ rest) =
      bytes ++ percentDecode rest := by
  induction bytes with
  | nil => rfl
  | cons b bytes ih =>
    obtain ⟨hi, lo, hutf8, hvalue⟩ := utf8_percentEncode b
    rw [List.flatMap_cons, utf8_append, hutf8]
    simp only [List.cons_append, List.nil_append]
    rw [percentDecode, if_pos rfl, hvalue]
    exact congrArg (b :: ·) ih

theorem utf8_of_unescaped {c : Char} (h : c ∈ unescaped) :
    utf8 [c] = [c.toNat.toUInt8] ∧ c.toNat.toUInt8 ≠ 0x25 := by
  have hall : (unescaped.all fun c =>
      utf8 [c] == [c.toNat.toUInt8] && c.toNat.toUInt8 != 0x25) = true := by
    have hchars : unescaped = _ := String.toList_ofList
    rw [hchars]
    decide
  simpa using List.all_eq_true.mp hall c h

theorem percentDecode_encodeURIComponent (cs : List Char) :
    percentDecode (utf8 (encodeURIComponent cs)) = utf8 cs := by
  induction cs with
  | nil => rfl
  | cons c cs ih =>
    have hsplit : utf8 (encodeURIComponent (c :: cs)) =
        utf8 (encodeURIComponent [c]) ++ utf8 (encodeURIComponent cs) := by
      simp [encodeURIComponent, utf8_append]
    have hcons : utf8 (c :: cs) = utf8 [c] ++ utf8 cs := utf8_append [c] cs
    rw [hsplit, hcons, ← ih]
    by_cases hc : c ∈ unescaped
    · obtain ⟨hutf8, hb⟩ := utf8_of_unescaped hc
      have hone : encodeURIComponent [c] = [c] := by simp [encodeURIComponent, hc]
      rw [hone, hutf8]
      exact percentDecode_cons hb _
    · have hone : encodeURIComponent [c] = (utf8 [c]).flatMap percentEncode := by
        simp [encodeURIComponent, hc, utf8]
      rw [hone]
      exact percentDecode_percentEncode _ _

theorem decode_encodeURIComponent (cs : List Char) : decode (encodeURIComponent cs) = some cs := by
  rw [decode, percentDecode_encodeURIComponent]
  exact fromUtf8_eq_some_iff.mpr rfl

def delimiters : List Char := ['/', '\\', '?', '#', '\t', '\n', '\r']

def Separate (segment : List Char) : Prop := ∀ c ∈ segment, c ∉ delimiters

theorem separate_encodeURIComponent (cs : List Char) : Separate (encodeURIComponent cs) := by
  have hplain : (unescaped.all fun c => !delimiters.contains c) = true := by
    have hchars : unescaped = _ := String.toList_ofList
    rw [hchars]
    decide
  have hdigit : ∀ n : Fin 16, hexDigit n ∉ delimiters := by decide
  intro c hc
  obtain ⟨d, _, hc⟩ := List.mem_flatMap.mp hc
  split at hc
  · rename_i hd
    rw [List.mem_singleton] at hc
    subst hc
    simpa using List.all_eq_true.mp hplain c (List.contains_iff_mem.mp hd)
  · obtain ⟨b, _, hc⟩ := List.mem_flatMap.mp hc
    have hb := b.toNat_lt
    simp only [percentEncode, List.mem_cons, List.not_mem_nil, or_false] at hc
    rcases hc with rfl | rfl | rfl
    · decide
    · exact hdigit ⟨b.toNat / 16, by omega⟩
    · exact hdigit ⟨b.toNat % 16, by omega⟩

theorem splitAll_render (path : List (List Char)) (h : ∀ s ∈ path, Separate s) (segment : List Char)
    (hsegment : Separate segment) :
    Text.splitAll '/' (segment ++ render path) = segment :: path := by
  induction path generalizing segment with
  | nil =>
    rw [render, List.flatMap_nil, List.append_nil]
    exact Text.splitAll_of_not_mem fun hc => hsegment '/' hc (by decide)
  | cons s path ih =>
    have hcons : render (s :: path) = '/' :: (s ++ render path) := by simp [render]
    rw [hcons, Text.splitAll_append _ fun hc => hsegment '/' hc (by decide),
      ih (fun t ht => h t (List.mem_cons_of_mem s ht)) s (h s List.mem_cons_self)]

theorem segments_render {path : List (List Char)} (h : ∀ s ∈ path, Separate s)
    {query : List Char} (hquery : query = [] ∨ ∃ q, query = '?' :: q) :
    segments (render path ++ query) = path := by
  have hchars : ∀ c ∈ render path, isLeftOut c = false ∧ (c != '?' && c != '#') = true ∧
      (if c = '\\' then '/' else c) = c := by
    intro c hc
    obtain ⟨s, hs, hc⟩ := List.mem_flatMap.mp hc
    rcases List.mem_cons.mp hc with rfl | hc
    · decide
    · have hne := h s hs c hc
      simp only [delimiters, List.mem_cons, List.not_mem_nil, or_false, not_or] at hne
      obtain ⟨_, hback, hq, hf, ht, hn, hr⟩ := hne
      simp [isLeftOut, hback, hq, hf, ht, hn, hr]
  have hfilter : (render path).filter (fun c => !isLeftOut c) = render path :=
    List.filter_eq_self.mpr fun c hc => by simp [(hchars c hc).1]
  have hend : (query.filter (fun c => !isLeftOut c)).takeWhile (fun c => c != '?' && c != '#') =
      [] := by
    rcases hquery with rfl | ⟨q, rfl⟩
    · rfl
    · rfl
  have hmap : (render path).map (fun c => if c = '\\' then '/' else c) = render path := by
    rw [List.map_congr_left fun c hc => (hchars c hc).2.2, List.map_id']
  have hsplit := splitAll_render path h [] (by simp [Separate])
  rw [List.nil_append] at hsplit
  rw [segments, List.filter_append, hfilter,
    List.takeWhile_append_of_pos fun c hc => (hchars c hc).2.1, hend, List.append_nil, hmap, hsplit,
    List.tail_cons]

section
variable {α β : Type} {dots : α → Option Dots} {empty : α}

theorem resolve_of_no_dots {kept path : List α} (h : ∀ s ∈ path, dots s = none) :
    resolve dots empty kept path = kept ++ path := by
  induction path generalizing kept with
  | nil => simp [resolve]
  | cons s path ih =>
    simp only [resolve, h s List.mem_cons_self]
    rw [ih fun t ht => h t (List.mem_cons_of_mem s ht), List.append_assoc]
    rfl

theorem of_mem_resolve {kept path : List α} {s : α} (hempty : dots empty = none)
    (hkept : ∀ t ∈ kept, dots t = none) (hs : s ∈ resolve dots empty kept path) :
    dots s = none := by
  induction path generalizing kept with
  | nil => exact hkept s hs
  | cons t path ih =>
    have hending : ∀ u ∈ (if path.isEmpty then [empty] else []), dots u = none := by
      intro u hu
      split at hu
      · rw [List.mem_singleton] at hu
        exact hu ▸ hempty
      · cases hu
    simp only [resolve] at hs
    cases ht : dots t with
    | none =>
      rw [ht] at hs
      refine ih (fun u hu => ?_) hs
      rcases List.mem_append.mp hu with hu | hu
      · exact hkept u hu
      · rw [List.mem_singleton] at hu
        exact hu ▸ ht
    | some d =>
      rw [ht] at hs
      cases d with
      | single =>
        exact ih (fun u hu => (List.mem_append.mp hu).elim (hkept u) (hending u)) hs
      | double =>
        exact ih (fun u hu => (List.mem_append.mp hu).elim
          (fun hu => hkept u (List.mem_of_mem_dropLast hu)) (hending u)) hs

theorem mem_of_mem_resolve {kept path : List α} {s : α} (hs : s ∈ resolve dots empty kept path) :
    s ∈ kept ∨ s ∈ path ∨ s = empty := by
  induction path generalizing kept with
  | nil => exact .inl hs
  | cons t path ih =>
    have hending : s ∈ (if path.isEmpty then [empty] else []) → s = empty := by
      intro hs
      split at hs
      · exact List.mem_singleton.mp hs
      · cases hs
    simp only [resolve] at hs
    split at hs
    all_goals
      rcases ih hs with h | h | h
      · rcases List.mem_append.mp h with h | h
        · first
            | exact .inl h
            | exact .inl (List.mem_of_mem_dropLast h)
        · first
            | exact .inr (.inr (hending h))
            | exact .inr (.inl (List.mem_singleton.mp h ▸ List.mem_cons_self))
      · exact .inr (.inl (List.mem_cons_of_mem t h))
      · exact .inr (.inr h)

theorem resolve_append_singleton (kept front : List α) (last : α) :
    ∃ init, resolve dots empty kept (front ++ [last]) =
      init ++ [if dots last = none then last else empty] := by
  induction front generalizing kept with
  | nil =>
    cases hlast : dots last with
    | none => exact ⟨kept, by simp [resolve, hlast]⟩
    | some d =>
      cases d with
      | single => exact ⟨kept, by simp [resolve, hlast]⟩
      | double => exact ⟨kept.dropLast, by simp [resolve, hlast]⟩
  | cons s front ih =>
    rw [List.cons_append]
    simp only [resolve]
    cases dots s with
    | none => exact ih _
    | some d =>
      cases d with
      | single => exact ih _
      | double => exact ih _

theorem resolve_map {dots' : β → Option Dots} {f : β → α} (empty' : β) (hempty : f empty' = empty)
    (kept : List β) {path : List β} (hdots : ∀ x ∈ path, dots (f x) = dots' x) :
    resolve dots empty (kept.map f) (path.map f) =
      (resolve dots' empty' kept path).map f := by
  induction path generalizing kept with
  | nil => rfl
  | cons x path ih =>
    have hrest := fun kept => ih kept fun y hy => hdots y (List.mem_cons_of_mem x hy)
    have hending : (if (path.map f).isEmpty then [empty] else []) =
        (if path.isEmpty then [empty'] else []).map f := by
      cases path with
      | nil => simp [hempty]
      | cons y path => simp
    simp only [List.map_cons, resolve, hdots x List.mem_cons_self, hending]
    cases dots' x with
    | none => simpa using hrest (kept ++ [x])
    | some d =>
      cases d with
      | single => simpa using hrest (kept ++ if path.isEmpty then [empty'] else [])
      | double =>
        simpa [List.map_dropLast] using
          hrest (kept.dropLast ++ if path.isEmpty then [empty'] else [])

end

def dotsOfValue (value : String) : Option Dots :=
  if value = ".." then some .double else if value = "." then some .single else none

theorem dotsOfValue_eq_none_iff {value : String} :
    dotsOfValue value = none ↔ value ≠ "." ∧ value ≠ ".." := by
  unfold dotsOfValue
  by_cases hdouble : value = ".."
  · simp [hdouble]
  · by_cases hsingle : value = "."
    · simp [hsingle]
    · simp [hdouble, hsingle]

theorem resolve_dot_second {first third last : String} (hfirst : dotsOfValue first = none)
    (hthird : dotsOfValue third = none) (hlast : dotsOfValue last = none) :
    resolve dotsOfValue "" [] [first, ".", third, last] = [first, third, last] ∧
      resolve dotsOfValue "" [] [first, "..", third, last] = [third, last] := by
  have hsingle : dotsOfValue "." = some .single := rfl
  have hdouble : dotsOfValue ".." = some .double := rfl
  simp [resolve, hfirst, hthird, hlast, hsingle, hdouble]

theorem dotsOf_component (value : String) : dotsOf (component value) = dotsOfValue value := by
  have hread := decode_encodeURIComponent value.toList
  rw [decode, fromUtf8_eq_some_iff] at hread
  have hdots : ((singleDots.all fun s => percentDecode (utf8 s) == utf8 ".".toList) &&
      doubleDots.all fun s => percentDecode (utf8 s) == utf8 "..".toList) = true := by
    decide
  obtain ⟨hsingle, hdouble⟩ := Bool.and_eq_true_iff.mp hdots
  have hinj : ∀ other : String, utf8 value.toList = utf8 other.toList → value = other := by
    intro other hother
    have hother := fromUtf8_eq_some_iff.mpr hother
    rw [fromUtf8_eq_some_iff.mpr rfl] at hother
    exact String.toList_inj.mp (Option.some.inj hother)
  by_cases hd : component value ∈ doubleDots
  · have hs := List.all_eq_true.mp hdouble _ hd
    rw [component, hread] at hs
    obtain rfl := hinj ".." (by simpa using hs)
    decide
  · by_cases hs : component value ∈ singleDots
    · have hs := List.all_eq_true.mp hsingle _ hs
      rw [component, hread] at hs
      obtain rfl := hinj "." (by simpa using hs)
      decide
    · have hdouble : value ≠ ".." := by
        rintro rfl
        exact hd (by decide)
      have hsingle : value ≠ "." := by
        rintro rfl
        exact hs (by decide)
      simp [dotsOf, dotsOfValue, hd, hs, hdouble, hsingle]

/-- How a value is written as a segment that is read as the value. -/
structure Writes (write : String → List Char) (value : String) : Prop where
  separate : Separate (write value)
  decode : UrlPath.decode (write value) = some value.toList
  dots : dotsOf (write value) = dotsOfValue value

theorem writes_component (value : String) : Writes component value :=
  ⟨separate_encodeURIComponent value.toList, decode_encodeURIComponent value.toList,
    dotsOf_component value⟩

section
variable {write : String → List Char} {values : List String} {query : List Char}

def target (write : String → List Char) (values : List String) (query : List Char) : List Char :=
  render (values.map write) ++ query

theorem target_nil (query : List Char) : target write [] query = query := rfl

theorem target_cons (value : String) (values : List String) (query : List Char) :
    target write (value :: values) query = '/' :: (write value ++ target write values query) := by
  simp [target, render]

theorem received_target (hwrites : ∀ value ∈ values, Writes write value) (hempty : write "" = [])
    (hquery : query = [] ∨ ∃ q, query = '?' :: q) :
    received (target write values query) = some (resolve dotsOfValue "" [] values) := by
  have hsegments : segments (target write values query) = values.map write := by
    refine segments_render ?_ hquery
    intro s hs
    obtain ⟨value, hv, rfl⟩ := List.mem_map.mp hs
    exact (hwrites value hv).separate
  have hresolve := @resolve_map _ _ dotsOf [] dotsOfValue write "" hempty [] values
    fun value hv => (hwrites value hv).dots
  rw [List.map_nil] at hresolve
  rw [received, hsegments, hresolve]
  have hkept : ∀ value ∈ resolve dotsOfValue "" [] values,
      (decode (write value)).map String.ofList = some value := by
    intro value hv
    rcases mem_of_mem_resolve hv with hv | hv | rfl
    · cases hv
    · rw [(hwrites value hv).decode]
      simp
    · rw [hempty]
      exact congrArg (Option.map String.ofList) (decode_encodeURIComponent [])
  generalize resolve dotsOfValue "" [] values = path at hkept
  induction path with
  | nil => rfl
  | cons value path ih =>
    have hrest := ih fun v hv => hkept v (List.mem_cons_of_mem value hv)
    have hvalue := hkept value List.mem_cons_self
    simp only [List.map_cons, List.mapM_cons, hvalue, hrest]
    rfl

end

def isPlain (value : String) : Bool :=
  value.toList.all fun c => !delimiters.contains c && c != '%' && ' ' < c

theorem toNat_of_mem_utf8EncodeChar {c : Char} {b : UInt8} (hb : b ∈ String.utf8EncodeChar c)
    (h : b.toNat < 128) : c.toNat = b.toNat := by
  have hmod : ∀ n : Nat, (UInt8.ofNat n).toNat = n % 256 := fun n => UInt8.toNat_ofNat'
  have hval : c.toNat = c.val.toNat := rfl
  unfold String.utf8EncodeChar at hb
  simp only at hb
  split at hb
  · rw [List.mem_singleton] at hb
    rw [hb, hmod]
    omega
  · exfalso
    split at hb
    · simp only [List.mem_cons, List.not_mem_nil, or_false] at hb
      rcases hb with rfl | rfl <;> rw [hmod] at h <;> omega
    · split at hb
      · simp only [List.mem_cons, List.not_mem_nil, or_false] at hb
        rcases hb with rfl | rfl | rfl <;> rw [hmod] at h <;> omega
      · simp only [List.mem_cons, List.not_mem_nil, or_false] at hb
        rcases hb with rfl | rfl | rfl | rfl <;> rw [hmod] at h <;> omega

theorem percentDecode_of_not_mem {bytes : List UInt8} (h : 0x25 ∉ bytes) :
    percentDecode bytes = bytes := by
  induction bytes with
  | nil => rfl
  | cons b bytes ih =>
    rw [percentDecode_cons (fun hb => h (hb ▸ List.mem_cons_self)),
      ih fun hb => h (List.mem_cons_of_mem b hb)]

theorem writes_of_isPlain {value : String} (h : isPlain value = true) :
    Writes String.toList value := by
  have hchars : ∀ c ∈ value.toList, c ∉ delimiters ∧ c ≠ '%' := by
    intro c hc
    have hplain := List.all_eq_true.mp h c hc
    simp only [Bool.and_eq_true, bne_iff_ne, ne_eq, Bool.not_eq_true', decide_eq_true_eq] at hplain
    exact ⟨by simpa using hplain.1.1, hplain.1.2⟩
  have hbyte : (0x25 : UInt8) ∉ utf8 value.toList := by
    intro hb
    obtain ⟨c, hc, hb⟩ := List.mem_flatMap.mp hb
    have hpercent := toNat_of_mem_utf8EncodeChar hb (by decide)
    exact (hchars c hc).2 (Char.toNat_inj.mp hpercent)
  refine ⟨fun c hc => (hchars c hc).1, ?_, ?_⟩
  · rw [decode, percentDecode_of_not_mem hbyte]
    exact fromUtf8_eq_some_iff.mpr rfl
  · -- the other spellings of a dot have a percent sign
    have hsingle : value.toList ∈ singleDots ↔ value = "." := by
      constructor
      · intro hs
        have hmem : ∀ s ∈ singleDots, s = ".".toList ∨ '%' ∈ s := by decide
        rcases hmem _ hs with hs | hs
        · exact String.toList_inj.mp hs
        · exact absurd rfl (hchars '%' hs).2
      · rintro rfl
        decide
    have hdouble : value.toList ∈ doubleDots ↔ value = ".." := by
      constructor
      · intro hs
        have hmem : ∀ s ∈ doubleDots, s = "..".toList ∨ '%' ∈ s := by decide
        rcases hmem _ hs with hs | hs
        · exact String.toList_inj.mp hs
        · exact absurd rfl (hchars '%' hs).2
      · rintro rfl
        decide
    simp only [dotsOf, dotsOfValue, List.contains_iff_mem, hsingle, hdouble]

end UrlPath
