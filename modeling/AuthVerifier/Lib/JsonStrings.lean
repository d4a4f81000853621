import Mathlib.Data.List.Basic
import Mathlib.Data.Nat.Digits.Defs

/-!
The JSON text of a list of strings, in the shortest form: no white space, and no escape where none
is needed. The reader takes that form and no other.
-/

set_option autoImplicit false

namespace JsonStrings

def shortEscapes : List (Char × Char) :=
  [('"', '"'), ('\\', '\\'), ('b', '\x08'), ('t', '\t'), ('n', '\n'), ('f', '\x0c'), ('r', '\r')]

def escape (c : Char) : List Char :=
  match shortEscapes.find? (fun e => e.2 == c) with
  | some e => ['\\', e.1]
  | none =>
    if c.toNat < 32 then
      ['\\', 'u', '0', '0', Nat.digitChar (c.toNat / 16), Nat.digitChar (c.toNat % 16)]
    else [c]

def writeString (cs : List Char) : List Char := '"' :: cs.flatMap escape ++ ['"']

def writeItems : List (List Char) → List Char
  | [] => []
  | [s] => writeString s
  | s :: t :: rest => writeString s ++ ',' :: writeItems (t :: rest)

def write (strings : List (List Char)) : List Char := '[' :: writeItems strings ++ [']']

/-- The value of two hexadecimal digits, where it is that of a control character. -/
def controlOf (hi lo : Char) : Option Char :=
  (List.range 32).findSome? fun n =>
    if hi = Nat.digitChar (n / 16) ∧ lo = Nat.digitChar (n % 16) then some (Char.ofNat n) else none

def readBody : List Char → Option (List Char × List Char)
  | [] => none
  | '"' :: rest => some ([], rest)
  | '\\' :: 'u' :: '0' :: '0' :: hi :: lo :: rest => do
    let c ← controlOf hi lo
    let (cs, rest) ← readBody rest
    return (c :: cs, rest)
  | '\\' :: e :: rest => do
    let c ← (shortEscapes.find? (fun x => x.1 == e)).map Prod.snd
    let (cs, rest) ← readBody rest
    return (c :: cs, rest)
  | c :: rest => do
    let (cs, rest) ← readBody rest
    return (c :: cs, rest)

def readString : List Char → Option (List Char × List Char)
  | '"' :: rest => readBody rest
  | _ => none

/-- The items up to the closing bracket, at most as many as there are characters. -/
def readItems : Nat → List Char → Option (List (List Char))
  | 0, _ => none
  | fuel + 1, cs => do
    let (s, rest) ← readString cs
    match rest with
    | [']'] => some [s]
    | ',' :: rest => (readItems fuel rest).map (s :: ·)
    | _ => none

def read : List Char → Option (List (List Char))
  | '[' :: [']'] => some []
  | '[' :: rest => readItems rest.length rest
  | _ => none

theorem controlOf_digits (n : Nat) (h : n < 32) :
    controlOf (Nat.digitChar (n / 16)) (Nat.digitChar (n % 16)) = some (Char.ofNat n) := by
  revert n
  decide

theorem readBody_short {e c : Char} (h : (e, c) ∈ shortEscapes) (rest : List Char) :
    readBody ('\\' :: e :: rest) =
      (readBody rest).map fun out => (c :: out.1, out.2) := by
  simp only [shortEscapes, List.mem_cons, List.not_mem_nil, or_false] at h
  rcases h with h | h | h | h | h | h | h
  all_goals
    obtain ⟨rfl, rfl⟩ := Prod.mk.inj h
    cases hrest : readBody rest <;> simp [readBody, shortEscapes, hrest]

theorem readBody_control {c : Char} (h : c.toNat < 32) (rest : List Char) :
    readBody ('\\' :: 'u' :: '0' :: '0' :: Nat.digitChar (c.toNat / 16) ::
        Nat.digitChar (c.toNat % 16) :: rest) =
      (readBody rest).map fun out => (c :: out.1, out.2) := by
  simp only [readBody, controlOf_digits c.toNat h, Char.ofNat_toNat]
  cases readBody rest <;> rfl

theorem readBody_plain {c : Char} (hquote : c ≠ '"') (hslash : c ≠ '\\') (rest : List Char) :
    readBody (c :: rest) = (readBody rest).map fun out => (c :: out.1, out.2) := by
  rw [readBody]
  · cases readBody rest <;> rfl
  · exact hquote
  · exact fun hi lo rest' h => absurd h hslash
  · exact fun e rest' h => absurd h hslash

theorem readBody_escape (c : Char) (rest : List Char) :
    readBody (escape c ++ rest) = (readBody rest).map fun out => (c :: out.1, out.2) := by
  unfold escape
  split
  · rename_i e he
    have hmem := List.mem_of_find?_eq_some he
    have hc : e.2 = c := by simpa using List.find?_some he
    exact readBody_short (hc ▸ hmem) rest
  · rename_i hnone
    split
    · rename_i hcontrol
      exact readBody_control hcontrol rest
    · have hother : ∀ e ∈ shortEscapes, e.2 ≠ c := by simpa using hnone
      exact readBody_plain (hother ('"', '"') (by decide)).symm
        (hother ('\\', '\\') (by decide)).symm rest

theorem readBody_flatMap_escape (cs rest : List Char) :
    readBody (cs.flatMap escape ++ '"' :: rest) = some (cs, rest) := by
  induction cs with
  | nil => rfl
  | cons c cs ih => rw [List.flatMap_cons, List.append_assoc, readBody_escape, ih, Option.map_some]

theorem readString_writeString (cs rest : List Char) :
    readString (writeString cs ++ rest) = some (cs, rest) := by
  rw [writeString, List.cons_append, List.cons_append, List.append_assoc, readString]
  exact readBody_flatMap_escape cs rest

theorem readItems_writeItems (fuel : Nat) (strings : List (List Char)) (hne : strings ≠ [])
    (h : (writeItems strings).length < fuel) :
    readItems fuel (writeItems strings ++ [']']) = some strings := by
  induction strings generalizing fuel with
  | nil => exact absurd rfl hne
  | cons s rest ih =>
    cases fuel with
    | zero => omega
    | succ fuel =>
      cases rest with
      | nil => simp [writeItems, readItems, readString_writeString]
      | cons t rest =>
        have hlength : (writeItems (t :: rest)).length < fuel := by
          simp only [writeItems, List.length_append, List.length_cons] at h
          omega
        rw [writeItems, List.append_assoc, readItems, readString_writeString]
        simp [ih fuel (by simp) hlength]

theorem read_write (strings : List (List Char)) : read (write strings) = some strings := by
  cases strings with
  | nil => rfl
  | cons s rest =>
    have hitems := readItems_writeItems (writeItems (s :: rest) ++ [']']).length (s :: rest)
      (by simp) (by simp)
    rw [write, List.cons_append, read]
    · exact hitems
    · intro h
      have hlength := congrArg List.length h
      cases rest <;> simp [writeItems, writeString] at hlength

end JsonStrings
