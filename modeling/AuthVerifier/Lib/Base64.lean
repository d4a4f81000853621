import Mathlib.Data.List.Basic

/-!
Base64 with the standard alphabet and padding. Three bytes are four digits; a text decodes only if it
is what its bytes are encoded as, so bits under the padding have to be zero.
-/

set_option autoImplicit false

namespace Base64

def alphabet : List Char :=
  "ABCDEFGHIJKLMNOPQRSTUVWXYZabcdefghijklmnopqrstuvwxyz0123456789+/".toList

def digit (n : Nat) : Char := alphabet.getD n '='

def value? (c : Char) : Option Nat := alphabet.idxOf? c

def encode : List UInt8 → List Char
  | [] => []
  | [a] => [digit (a.toNat / 4), digit (a.toNat % 4 * 16), '=', '=']
  | [a, b] =>
    [digit (a.toNat / 4), digit (a.toNat % 4 * 16 + b.toNat / 16), digit (b.toNat % 16 * 4), '=']
  | a :: b :: c :: rest =>
    digit (a.toNat / 4) :: digit (a.toNat % 4 * 16 + b.toNat / 16) ::
      digit (b.toNat % 16 * 4 + c.toNat / 64) :: digit (c.toNat % 64) :: encode rest

/-- The bytes of one or two digits after the first, and the bits that are left. -/
def byte₁ (x y : Nat) : UInt8 := (x * 4 + y / 16).toUInt8

def byte₂ (y z : Nat) : UInt8 := (y % 16 * 16 + z / 4).toUInt8

def byte₃ (z w : Nat) : UInt8 := (z % 4 * 64 + w).toUInt8

def decode : List Char → Option (List UInt8)
  | [] => some []
  | a :: b :: c :: d :: rest =>
    match value? a, value? b with
    | some x, some y =>
      if d = '=' ∧ rest = [] then
        if c = '=' then if y % 16 = 0 then some [byte₁ x y] else none
        else match value? c with
          | some z => if z % 4 = 0 then some [byte₁ x y, byte₂ y z] else none
          | none => none
      else match value? c, value? d, decode rest with
        | some z, some w, some bytes => some (byte₁ x y :: byte₂ y z :: byte₃ z w :: bytes)
        | _, _, _ => none
    | _, _ => none
  | _ => none

theorem value?_digit {n : Nat} (h : n < 64) : value? (digit n) = some n := by
  have hchars : alphabet = _ := String.toList_ofList
  have hall : ∀ i : Fin 64, value? (digit i) = some i.val := by
    unfold value? digit
    rw [hchars]
    decide +kernel
  exact hall ⟨n, h⟩

theorem digit_ne_pad {n : Nat} (h : n < 64) : digit n ≠ '=' := by
  have hchars : alphabet = _ := String.toList_ofList
  have hall : ∀ i : Fin 64, digit i ≠ '=' := by
    unfold digit
    rw [hchars]
    decide
  exact hall ⟨n, h⟩

theorem of_value? {c : Char} {n : Nat} (h : value? c = some n) : n < 64 ∧ digit n = c := by
  have hlength : alphabet.length = 64 := by
    have hchars : alphabet = _ := String.toList_ofList
    rw [hchars]
    rfl
  obtain ⟨hlt, hget, -⟩ := List.idxOf?_eq_some_iff.mp h
  rw [hlength] at hlt
  refine ⟨hlt, ?_⟩
  rw [digit, List.getD_eq_getElem?_getD, List.getElem?_eq_getElem (hlength ▸ hlt), hget]
  rfl

section
variable {x y z w : Nat}

theorem toNat_byte₁ (hx : x < 64) (hy : y < 64) : (byte₁ x y).toNat = x * 4 + y / 16 := by
  rw [byte₁, Nat.toUInt8_eq, UInt8.toNat_ofNat_of_lt' (show x * 4 + y / 16 < 256 by omega)]

theorem toNat_byte₂ (hz : z < 64) : (byte₂ y z).toNat = y % 16 * 16 + z / 4 := by
  rw [byte₂, Nat.toUInt8_eq, UInt8.toNat_ofNat_of_lt' (show y % 16 * 16 + z / 4 < 256 by omega)]

theorem toNat_byte₃ (hw : w < 64) : (byte₃ z w).toNat = z % 4 * 64 + w := by
  rw [byte₃, Nat.toUInt8_eq, UInt8.toNat_ofNat_of_lt' (show z % 4 * 64 + w < 256 by omega)]

end

theorem eq_encode_of_decode {text : List Char} {bytes : List UInt8} (h : decode text = some bytes) :
    text = encode bytes := by
  fun_induction decode text generalizing bytes with
  | case1 =>
    cases h
    rfl
  | case2 a b d rest x y hb ha hlast hy =>
    -- one byte
    obtain ⟨rfl, rfl⟩ := hlast
    obtain ⟨hx, rfl⟩ := of_value? ha
    obtain ⟨hy', rfl⟩ := of_value? hb
    cases h
    have h₁ : (x * 4 + y / 16) / 4 = x := by omega
    have h₂ : (x * 4 + y / 16) % 4 * 16 = y := by omega
    rw [encode, toNat_byte₁ hx hy', h₁, h₂]
  | case4 a b c d rest x y hb ha hlast hc z hz hz₄ =>
    -- two bytes
    obtain ⟨rfl, rfl⟩ := hlast
    obtain ⟨hx, rfl⟩ := of_value? ha
    obtain ⟨hy, rfl⟩ := of_value? hb
    obtain ⟨hz', rfl⟩ := of_value? hz
    cases h
    have h₁ : (x * 4 + y / 16) / 4 = x := by omega
    have h₂ : (x * 4 + y / 16) % 4 * 16 + (y % 16 * 16 + z / 4) / 16 = y := by omega
    have h₃ : (y % 16 * 16 + z / 4) % 16 * 4 = z := by omega
    rw [encode, toNat_byte₁ hx hy, toNat_byte₂ hz', h₁, h₂, h₃]
  | case7 a b c d rest x y hb ha hlast z w tail hrest hd hc ih =>
    -- three bytes and the rest
    obtain ⟨hx, rfl⟩ := of_value? ha
    obtain ⟨hy, rfl⟩ := of_value? hb
    obtain ⟨hz, rfl⟩ := of_value? hc
    obtain ⟨hw, rfl⟩ := of_value? hd
    cases h
    have h₁ : (x * 4 + y / 16) / 4 = x := by omega
    have h₂ : (x * 4 + y / 16) % 4 * 16 + (y % 16 * 16 + z / 4) / 16 = y := by omega
    have h₃ : (y % 16 * 16 + z / 4) % 16 * 4 + (z % 4 * 64 + w) / 64 = z := by omega
    have h₄ : (z % 4 * 64 + w) % 64 = w := by omega
    rw [encode, toNat_byte₁ hx hy, toNat_byte₂ hz, toNat_byte₃ hw, h₁, h₂, h₃, h₄, ← ih hrest]
  | case3 | case5 | case6 | case8 | case9 | case10 => cases h

theorem decode_encode (bytes : List UInt8) : decode (encode bytes) = some bytes := by
  fun_induction encode bytes with
  | case1 => rfl
  | case2 a =>
    have ha := a.toNat_lt
    have hx : a.toNat / 4 < 64 := by omega
    have hy : a.toNat % 4 * 16 < 64 := by omega
    have hbyte : byte₁ (a.toNat / 4) (a.toNat % 4 * 16) = a := by
      rw [← UInt8.toNat_inj, toNat_byte₁ hx hy]
      omega
    rw [decode, value?_digit hx, value?_digit hy]
    simp [hbyte]
  | case3 a b =>
    have ha := a.toNat_lt
    have hb := b.toNat_lt
    have hx : a.toNat / 4 < 64 := by omega
    have hy : a.toNat % 4 * 16 + b.toNat / 16 < 64 := by omega
    have hz : b.toNat % 16 * 4 < 64 := by omega
    have h₁ : byte₁ (a.toNat / 4) (a.toNat % 4 * 16 + b.toNat / 16) = a := by
      rw [← UInt8.toNat_inj, toNat_byte₁ hx hy]
      omega
    have h₂ : byte₂ (a.toNat % 4 * 16 + b.toNat / 16) (b.toNat % 16 * 4) = b := by
      rw [← UInt8.toNat_inj, toNat_byte₂ hz]
      omega
    rw [decode, value?_digit hx, value?_digit hy]
    simp only [and_self, if_true, digit_ne_pad hz, if_false, value?_digit hz, h₁, h₂]
    exact if_pos (by omega)
  | case4 a b c rest ih =>
    have ha := a.toNat_lt
    have hb := b.toNat_lt
    have hc := c.toNat_lt
    have hx : a.toNat / 4 < 64 := by omega
    have hy : a.toNat % 4 * 16 + b.toNat / 16 < 64 := by omega
    have hz : b.toNat % 16 * 4 + c.toNat / 64 < 64 := by omega
    have hw : c.toNat % 64 < 64 := by omega
    have h₁ : byte₁ (a.toNat / 4) (a.toNat % 4 * 16 + b.toNat / 16) = a := by
      rw [← UInt8.toNat_inj, toNat_byte₁ hx hy]
      omega
    have h₂ : byte₂ (a.toNat % 4 * 16 + b.toNat / 16) (b.toNat % 16 * 4 + c.toNat / 64) = b := by
      rw [← UInt8.toNat_inj, toNat_byte₂ hz]
      omega
    have h₃ : byte₃ (b.toNat % 16 * 4 + c.toNat / 64) (c.toNat % 64) = c := by
      rw [← UInt8.toNat_inj, toNat_byte₃ hw]
      omega
    rw [decode, value?_digit hx, value?_digit hy]
    simp only [digit_ne_pad hw, false_and, if_false, value?_digit hz, value?_digit hw, ih, h₁, h₂, h₃]

theorem decode_eq_some_iff {text : List Char} {bytes : List UInt8} :
    decode text = some bytes ↔ text = encode bytes := by
  constructor
  · exact eq_encode_of_decode
  · rintro rfl
    exact decode_encode bytes

def isCode (c : Char) : Bool := (value? c).isSome || c == '='

theorem isCode_digit {n : Nat} (h : n < 64) : isCode (digit n) = true := by
  simp [isCode, value?_digit h]

theorem mem_of_isCode {c : Char} (h : isCode c = true) : c ∈ '=' :: alphabet := by
  rw [isCode, Bool.or_eq_true, beq_iff_eq] at h
  rcases h with h | rfl
  · obtain ⟨n, hn⟩ := Option.isSome_iff_exists.mp h
    obtain ⟨hlt, hget, -⟩ := List.idxOf?_eq_some_iff.mp hn
    exact List.mem_cons_of_mem _ (hget ▸ List.getElem_mem hlt)
  · exact List.mem_cons_self

theorem isCode_of_mem_encode {bytes : List UInt8} {c : Char} (h : c ∈ encode bytes) :
    isCode c = true := by
  have hpad : isCode '=' = true := by decide
  fun_induction encode bytes with
  | case1 => cases h
  | case2 a =>
    have ha := a.toNat_lt
    simp only [List.mem_cons, List.not_mem_nil, or_false] at h
    rcases h with rfl | rfl | rfl | rfl
    · exact isCode_digit (by omega)
    · exact isCode_digit (by omega)
    · exact hpad
    · exact hpad
  | case3 a b =>
    have ha := a.toNat_lt
    have hb := b.toNat_lt
    simp only [List.mem_cons, List.not_mem_nil, or_false] at h
    rcases h with rfl | rfl | rfl | rfl
    · exact isCode_digit (by omega)
    · exact isCode_digit (by omega)
    · exact isCode_digit (by omega)
    · exact hpad
  | case4 a b d rest ih =>
    have ha := a.toNat_lt
    have hb := b.toNat_lt
    simp only [List.mem_cons] at h
    rcases h with rfl | rfl | rfl | rfl | h
    · exact isCode_digit (by omega)
    · exact isCode_digit (by omega)
    · have hd := d.toNat_lt
      exact isCode_digit (by omega)
    · exact isCode_digit (by omega)
    · exact ih h

end Base64
