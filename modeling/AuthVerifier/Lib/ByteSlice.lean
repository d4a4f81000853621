import Mathlib.Data.List.Basic
import Mathlib.Algebra.GroupWithZero.Nat

/-!
Text and its UTF-8 bytes. Positions in a text count bytes, and a slice at a position that is not
between two characters does not exist: the program that asks for it panics.
-/

set_option autoImplicit false

namespace ByteSlice

inductive Panic where
  | outOfBounds
  | notBoundary
  deriving DecidableEq

def byteLength (cs : List Char) : Nat := (cs.map Char.utf8Size).sum

def sliceFrom : (n : Nat) → List Char → Except Panic (List Char)
  | 0, cs => .ok cs
  | _ + 1, [] => .error .outOfBounds
  | n + 1, c :: cs =>
    if c.utf8Size ≤ n + 1 then sliceFrom (n + 1 - c.utf8Size) cs else .error .notBoundary

def sliceTo : (n : Nat) → List Char → Except Panic (List Char)
  | 0, _ => .ok []
  | _ + 1, [] => .error .outOfBounds
  | n + 1, c :: cs =>
    if c.utf8Size ≤ n + 1 then (sliceTo (n + 1 - c.utf8Size) cs).map (c :: ·)
    else .error .notBoundary

def find (c : Char) : List Char → Option Nat
  | [] => none
  | d :: cs => if d = c then some 0 else (find c cs).map (d.utf8Size + ·)

def utf8 (cs : List Char) : List UInt8 := cs.flatMap String.utf8EncodeChar

def fromUtf8 (bytes : List UInt8) : Option (List Char) :=
  (String.fromUTF8? ⟨bytes.toArray⟩).map String.toList

@[simp] theorem byteLength_nil : byteLength [] = 0 := rfl

@[simp] theorem byteLength_cons (c : Char) (cs : List Char) :
    byteLength (c :: cs) = c.utf8Size + byteLength cs := rfl

theorem byteLength_append (cs ds : List Char) :
    byteLength (cs ++ ds) = byteLength cs + byteLength ds := by
  simp [byteLength]

theorem sliceFrom_append (cs ds : List Char) : sliceFrom (byteLength cs) (cs ++ ds) = .ok ds := by
  induction cs with
  | nil => rw [byteLength_nil, List.nil_append, sliceFrom]
  | cons c cs ih =>
    have hpos := c.utf8Size_pos
    obtain ⟨n, hn⟩ := Nat.exists_eq_succ_of_ne_zero (by simp; omega : byteLength (c :: cs) ≠ 0)
    rw [byteLength_cons] at hn
    rw [byteLength_cons, List.cons_append, hn, sliceFrom, if_pos (by omega)]
    have hleft : n + 1 - c.utf8Size = byteLength cs := by omega
    rw [hleft, ih]

theorem sliceTo_append (cs ds : List Char) : sliceTo (byteLength cs) (cs ++ ds) = .ok cs := by
  induction cs with
  | nil => rw [byteLength_nil, sliceTo]
  | cons c cs ih =>
    have hpos := c.utf8Size_pos
    obtain ⟨n, hn⟩ := Nat.exists_eq_succ_of_ne_zero (by simp; omega : byteLength (c :: cs) ≠ 0)
    rw [byteLength_cons] at hn
    rw [byteLength_cons, List.cons_append, hn, sliceTo, if_pos (by omega)]
    have hleft : n + 1 - c.utf8Size = byteLength cs := by omega
    rw [hleft, ih]
    rfl

theorem find_eq_none_iff {c : Char} {cs : List Char} : find c cs = none ↔ c ∉ cs := by
  induction cs with
  | nil => simp [find]
  | cons d cs ih =>
    rw [find]
    split
    · rename_i hd
      simp [hd]
    · rename_i hd
      simp [ih, Ne.symm hd]

theorem find_eq_some_iff {c : Char} {cs : List Char} {n : Nat} : find c cs = some n ↔
    ∃ before after, cs = before ++ c :: after ∧ c ∉ before ∧ n = byteLength before := by
  constructor
  · intro h
    induction cs generalizing n with
    | nil => cases h
    | cons d cs ih =>
      rw [find] at h
      split at h
      · rename_i hd
        cases h
        exact ⟨[], cs, by rw [hd]; rfl, List.not_mem_nil, rfl⟩
      · rename_i hd
        obtain ⟨m, hm, rfl⟩ := Option.map_eq_some_iff.mp h
        obtain ⟨before, after, rfl, hc, rfl⟩ := ih hm
        exact ⟨d :: before, after, rfl, by simp [hc, Ne.symm hd], rfl⟩
  · rintro ⟨before, after, rfl, hc, rfl⟩
    induction before with
    | nil => simp [find]
    | cons d before ih =>
      have hd : d ≠ c := fun he => hc (he ▸ List.mem_cons_self)
      rw [List.cons_append, find, if_neg hd, ih fun hm => hc (List.mem_cons_of_mem d hm)]
      rfl

theorem toByteArray_ofList (cs : List Char) :
    (String.ofList cs).toByteArray = ⟨(utf8 cs).toArray⟩ := by
  rw [String.toByteArray_ofList, ByteArray.ext_iff, List.utf8Encode, List.data_toByteArray]
  rfl

theorem fromUtf8_eq_some_iff {bytes : List UInt8} {cs : List Char} :
    fromUtf8 bytes = some cs ↔ bytes = utf8 cs := by
  have hbytes (s : String) : String.fromUTF8? ⟨bytes.toArray⟩ = some s ↔
      s.toByteArray = ⟨bytes.toArray⟩ := by
    unfold String.fromUTF8?
    split
    · rename_i hvalid
      rw [Option.some_inj, ← String.toByteArray_inj, String.fromUTF8, eq_comm]
    · rename_i hinvalid
      refine iff_of_false (by simp) fun h => hinvalid (h ▸ s.isValidUTF8)
  have hdata : (⟨(utf8 cs).toArray⟩ : ByteArray) = ⟨bytes.toArray⟩ ↔ bytes = utf8 cs := by
    rw [ByteArray.mk.injEq, eq_comm]
    exact ⟨fun h => congrArg Array.toList h, fun h => by rw [h]⟩
  rw [fromUtf8, Option.map_eq_some_iff]
  constructor
  · rintro ⟨s, hs, rfl⟩
    rw [hbytes, ← String.ofList_toList (s := s), toByteArray_ofList] at hs
    exact hdata.mp hs
  · intro h
    refine ⟨String.ofList cs, ?_, String.toList_ofList⟩
    rw [hbytes, toByteArray_ofList]
    exact hdata.mpr h

end ByteSlice
