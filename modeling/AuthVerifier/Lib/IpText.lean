import Mathlib.Data.List.Basic

/-!
IP addresses and their plain text: four decimal numbers without leading zeros, or hexadecimal groups
with at most one `::` and possibly an embedded IPv4 address at the end, as a standard library reads
them. Whoever resolves an address may accept more spellings than these.
-/

set_option autoImplicit false

namespace Ip

structure V4 where
  a : UInt8
  b : UInt8
  c : UInt8
  d : UInt8
  deriving DecidableEq

abbrev V6 := { groups : List UInt16 // groups.length = 8 }

inductive Addr where
  | v4 (address : V4)
  | v6 (address : V6)
  deriving DecidableEq

def V6.of? (groups : List UInt16) : Option V6 :=
  if h : groups.length = 8 then some ⟨groups, h⟩ else none

namespace V4

def isLoopback (v : V4) : Bool := v.a == 127

def isPrivate (v : V4) : Bool :=
  v.a == 10 || (v.a == 172 && 16 ≤ v.b && v.b ≤ 31) || (v.a == 192 && v.b == 168)

def isLinkLocal (v : V4) : Bool := v.a == 169 && v.b == 254

def isUnspecified (v : V4) : Bool := v.a == 0 && v.b == 0 && v.c == 0 && v.d == 0

end V4

namespace V6

def isLoopback (v : V6) : Bool := v.val == [0, 0, 0, 0, 0, 0, 0, 1]

def isUnspecified (v : V6) : Bool := v.val == [0, 0, 0, 0, 0, 0, 0, 0]

def isUniqueLocal (v : V6) : Bool := v.val.headD 0 &&& 0xfe00 == 0xfc00

def isUnicastLinkLocal (v : V6) : Bool := v.val.headD 0 &&& 0xffc0 == 0xfe80

/-- The IPv4 address in `::ffff:0:0/96`. -/
def mapped? (v : V6) : Option V4 :=
  match v.val with
  | [0, 0, 0, 0, 0, 0xffff, g, h] =>
    some ⟨(g >>> 8).toUInt8, g.toUInt8, (h >>> 8).toUInt8, h.toUInt8⟩
  | _ => none

end V6

def digit? (radix : Nat) (c : Char) : Option Nat :=
  let value :=
    if '0' ≤ c ∧ c ≤ '9' then some (c.toNat - '0'.toNat)
    else if 'a' ≤ c ∧ c ≤ 'z' then some (c.toNat - 'a'.toNat + 10)
    else if 'A' ≤ c ∧ c ≤ 'Z' then some (c.toNat - 'A'.toNat + 10)
    else none
  value.filter (fun n => n < radix)

def isDigit (radix : Nat) (c : Char) : Bool := (digit? radix c).isSome

def number (radix : Nat) (digits : List Char) : Nat :=
  digits.foldl (fun n c => n * radix + (digit? radix c).getD 0) 0

/-- A number of at most `maxDigits` digits: the longest run of digits has to be one. -/
def readNumber (radix maxDigits : Nat) (allowZeroPrefix : Bool) (cs : List Char) :
    Option (Nat × List Char) :=
  let digits := cs.takeWhile (isDigit radix)
  if digits.length > maxDigits ∨ digits = [] then none
  else if allowZeroPrefix = false ∧ digits.head? = some '0' ∧ digits.length > 1 then none
  else some (number radix digits, cs.dropWhile (isDigit radix))

def readOctet (cs : List Char) : Option (UInt8 × List Char) :=
  match readNumber 10 3 false cs with
  | some (n, rest) => if n < 256 then some (n.toUInt8, rest) else none
  | none => none

def readGroup (cs : List Char) : Option (UInt16 × List Char) :=
  (readNumber 16 4 true cs).map fun (n, rest) => (n.toUInt16, rest)

def readChar (c : Char) : List Char → Option (List Char)
  | [] => none
  | d :: rest => if d = c then some rest else none

def readV4 (cs : List Char) : Option (V4 × List Char) := do
  let (a, cs) ← readOctet cs
  let (b, cs) ← readOctet (← readChar '.' cs)
  let (c, cs) ← readOctet (← readChar '.' cs)
  let (d, cs) ← readOctet (← readChar '.' cs)
  return (⟨a, b, c, d⟩, cs)

def readSeparator (first : Bool) (cs : List Char) : Option (List Char) :=
  if first then some cs else readChar ':' cs

/-- At most `left` groups, of which an IPv4 address takes two and is the last. -/
def readGroups : (left : Nat) → (first : Bool) → List Char → List UInt16 × Bool × List Char
  | 0, _, cs => ([], false, cs)
  | left + 1, first, cs =>
    match (if left = 0 then none else (readSeparator first cs).bind readV4) with
    | some (v, rest) =>
      ([v.a.toUInt16 <<< 8 ||| v.b.toUInt16, v.c.toUInt16 <<< 8 ||| v.d.toUInt16], true, rest)
    | none => match (readSeparator first cs).bind readGroup with
      | none => ([], false, cs)
      | some (g, rest) =>
        let (groups, v4, rest) := readGroups left false rest
        (g :: groups, v4, rest)

def readV6 (cs : List Char) : Option (V6 × List Char) :=
  let (head, v4, cs) := readGroups 8 true cs
  if head.length = 8 then (V6.of? head).map fun v => (v, cs)
  else if v4 then none
  else do
    let cs ← readChar ':' (← readChar ':' cs)
    let (tail, _, cs) := readGroups (8 - (head.length + 1)) true cs
    let v ← V6.of? (head ++ List.replicate (8 - head.length - tail.length) 0 ++ tail)
    return (v, cs)

def readAddr (cs : List Char) : Option (Addr × List Char) :=
  match readV4 cs with
  | some (v, rest) => some (.v4 v, rest)
  | none => (readV6 cs).map fun (v, rest) => (.v6 v, rest)

def parse? (cs : List Char) : Option Addr :=
  match readAddr cs with
  | some (address, []) => some address
  | _ => none

example : parse? "10.0.0.1".toList = some (.v4 ⟨10, 0, 0, 1⟩) := by decide

example : parse? "::ffff:127.0.0.1".toList =
    V6.of? [0, 0, 0, 0, 0, 0xffff, 0x7f00, 1] >>= fun v => some (.v6 v) := by decide

example : parse? "010.0.0.1".toList = none := by decide

def isAddrChar (c : Char) : Bool := isDigit 16 c || c == '.' || c == ':'

theorem isAddrChar_of_isDigit {radix : Nat} (hradix : radix ≤ 16) {c : Char}
    (h : isDigit radix c = true) : isAddrChar c = true := by
  have hdigit : isDigit 16 c = true := by
    simp only [isDigit, digit?, Option.isSome_iff_exists, Option.filter_eq_some_iff] at h ⊢
    obtain ⟨n, hn, hlt⟩ := h
    exact ⟨n, hn, by simp only [decide_eq_true_eq] at hlt ⊢; omega⟩
  simp [isAddrChar, hdigit]

/-- What is read of the first text is an address, or a part of one; the second is left. -/
def Reads (cs rest : List Char) : Prop := ∃ used, cs = used ++ rest ∧ ∀ c ∈ used, isAddrChar c = true

namespace Reads

theorem refl (cs : List Char) : Reads cs cs := ⟨[], rfl, by simp⟩

theorem trans {cs mid rest : List Char} (h : Reads cs mid) (h' : Reads mid rest) :
    Reads cs rest := by
  obtain ⟨used, rfl, hused⟩ := h
  obtain ⟨used', rfl, hused'⟩ := h'
  refine ⟨used ++ used', (List.append_assoc ..).symm, fun c hc => ?_⟩
  exact (List.mem_append.mp hc).elim (hused c) (hused' c)

end Reads

theorem reads_of_readNumber {radix maxDigits n : Nat} {allowZeroPrefix : Bool} {cs rest : List Char}
    (hradix : radix ≤ 16) (h : readNumber radix maxDigits allowZeroPrefix cs = some (n, rest)) :
    Reads cs rest := by
  simp only [readNumber] at h
  split at h
  · cases h
  · split at h
    · cases h
    · cases h
      refine ⟨cs.takeWhile (isDigit radix), List.takeWhile_append_dropWhile.symm, fun c hc => ?_⟩
      exact isAddrChar_of_isDigit hradix (List.all_eq_true.mp List.all_takeWhile c hc)

theorem reads_of_readOctet {n : UInt8} {cs rest : List Char} (h : readOctet cs = some (n, rest)) :
    Reads cs rest := by
  unfold readOctet at h
  split at h
  · rename_i hnumber
    split at h
    · cases h
      exact reads_of_readNumber (by decide) hnumber
    · cases h
  · cases h

theorem reads_of_readGroup {g : UInt16} {cs rest : List Char} (h : readGroup cs = some (g, rest)) :
    Reads cs rest := by
  obtain ⟨⟨n, rest'⟩, hnumber, heq⟩ := Option.map_eq_some_iff.mp h
  cases heq
  exact reads_of_readNumber (by decide) hnumber

theorem reads_of_readChar {c : Char} (hc : isAddrChar c = true) {cs rest : List Char}
    (h : readChar c cs = some rest) : Reads cs rest := by
  cases cs with
  | nil => cases h
  | cons d cs =>
    rw [readChar] at h
    split at h
    · rename_i hd
      cases h
      exact ⟨[d], rfl, by simp [hd, hc]⟩
    · cases h

theorem reads_of_readV4 {v : V4} {cs rest : List Char} (h : readV4 cs = some (v, rest)) :
    Reads cs rest := by
  have hdot : isAddrChar '.' = true := by decide
  simp only [readV4, bind, Option.bind_eq_some_iff, Prod.exists, pure, Option.some.injEq,
    Prod.mk.injEq] at h
  obtain ⟨a, ra, ha, da, hda, b, rb, hb, db, hdb, c, rc, hc, dc, hdc, d, rd, hd, -, rfl⟩ := h
  exact (((((((reads_of_readOctet ha).trans (reads_of_readChar hdot hda)).trans
    (reads_of_readOctet hb)).trans (reads_of_readChar hdot hdb)).trans
    (reads_of_readOctet hc)).trans (reads_of_readChar hdot hdc)).trans (reads_of_readOctet hd))

theorem reads_of_readSeparator {first : Bool} {cs rest : List Char}
    (h : readSeparator first cs = some rest) : Reads cs rest := by
  unfold readSeparator at h
  split at h
  · cases h
    exact Reads.refl _
  · exact reads_of_readChar (by decide) h

theorem reads_of_readGroups {left : Nat} {first : Bool} {cs : List Char} :
    Reads cs (readGroups left first cs).2.2 := by
  induction left generalizing first cs with
  | zero => exact Reads.refl _
  | succ left ih =>
    rw [readGroups]
    split
    · rename_i hv4
      split at hv4
      · cases hv4
      · obtain ⟨mid, hseparator, hread⟩ := Option.bind_eq_some_iff.mp hv4
        exact (reads_of_readSeparator hseparator).trans (reads_of_readV4 hread)
    · split
      · exact Reads.refl _
      · rename_i hgroup
        obtain ⟨mid, hseparator, hread⟩ := Option.bind_eq_some_iff.mp hgroup
        exact ((reads_of_readSeparator hseparator).trans (reads_of_readGroup hread)).trans ih

theorem reads_of_readV6 {v : V6} {cs rest : List Char} (h : readV6 cs = some (v, rest)) :
    Reads cs rest := by
  have hcolon : isAddrChar ':' = true := by decide
  have hhead : Reads cs (readGroups 8 true cs).2.2 := reads_of_readGroups
  simp only [readV6] at h
  split at h
  · obtain ⟨v', -, heq⟩ := Option.map_eq_some_iff.mp h
    cases heq
    exact hhead
  · split at h
    · cases h
    · simp only [bind, Option.bind_eq_some_iff, pure, Option.some.injEq, Prod.mk.injEq] at h
      obtain ⟨first, hfirst, second, hsecond, v', -, -, rfl⟩ := h
      exact ((hhead.trans (reads_of_readChar hcolon hfirst)).trans
        (reads_of_readChar hcolon hsecond)).trans reads_of_readGroups

theorem isAddrChar_of_parse? {cs : List Char} {a : Addr} (h : parse? cs = some a) :
    ∀ c ∈ cs, isAddrChar c = true := by
  have hreads : Reads cs [] := by
    unfold parse? at h
    split at h
    · rename_i haddr
      unfold readAddr at haddr
      split at haddr
      · rename_i hv4
        cases haddr
        exact reads_of_readV4 hv4
      · obtain ⟨⟨v, rest⟩, hv6, heq⟩ := Option.map_eq_some_iff.mp haddr
        cases heq
        exact reads_of_readV6 hv6
    · cases h
  obtain ⟨used, rfl, hused⟩ := hreads
  rwa [List.append_nil]

theorem ne_nil_of_parse? {cs : List Char} {a : Addr} (h : parse? cs = some a) : cs ≠ [] := by
  rintro rfl
  have hnil : parse? [] = none := by decide
  rw [hnil] at h
  cases h

end Ip
