import AuthVerifier.Lib.IpText
import AuthVerifier.Lib.Text
import Mathlib.Data.List.DropRight
import Mathlib.Algebra.GroupWithZero.Nat

/-!
The host of a URL with a special scheme, as the URL standard finds and reads it. The user information,
the port and what comes after the authority are skipped; a host in brackets is an IPv6 address, any
other one is percent-decoded and mapped to ASCII, and is an IPv4 address if it ends in a number.
-/

set_option autoImplicit false

namespace UrlHost

inductive Host where
  | domain (name : List Char)
  | address (address : Ip.Addr)
  deriving DecidableEq

def isC0OrSpace (c : Char) : Bool := c.toNat ≤ 0x20

def isTabOrNewline (c : Char) : Bool := c == '\t' || c == '\n' || c == '\r'

/-- Without what may stand at the end, and without tabs and newlines anywhere. -/
def trimmed (cs : List Char) : List Char :=
  (cs.rdropWhile isC0OrSpace).filter (fun c => !isTabOrNewline c)

def cleaned (cs : List Char) : List Char := trimmed (cs.dropWhile isC0OrSpace)

def specialSchemes : List (List Char) :=
  ["http".toList, "https".toList, "ws".toList, "wss".toList, "ftp".toList]

def afterScheme (cs : List Char) : Option (List Char) :=
  match Text.splitOnce ':' (cleaned cs) with
  | some (scheme, rest) => if scheme.map Char.toLower ∈ specialSchemes then some rest else none
  | none => none

def isSlash (c : Char) : Bool := c == '/' || c == '\\'

def endsAuthority (c : Char) : Bool := isSlash c || c == '?' || c == '#'

def authority (rest : List Char) : List Char :=
  (rest.dropWhile isSlash).takeWhile (fun c => !endsAuthority c)

def hostAndPort (authority : List Char) : List Char :=
  match Text.rsplitOnce '@' authority with
  | some (_, rest) => rest
  | none => authority

def splitHost : (inside : Bool) → List Char → List Char × List Char
  | _, [] => ([], [])
  | inside, c :: cs =>
    if c = ':' ∧ inside = false then ([], c :: cs)
    else
      let parts := splitHost (if c = '[' then true else if c = ']' then false else inside) cs
      (c :: parts.1, parts.2)

def isPort : List Char → Bool
  | [] => true
  | c :: digits => c == ':' && digits.all (Ip.isDigit 10) && decide (Ip.number 10 digits < 2 ^ 16)

def radixNumber (radix : Nat) (digits : List Char) : Option Nat :=
  if digits.all (Ip.isDigit radix) then some (Ip.number radix digits) else none

/-- Hexadecimal after `0x`, octal after another `0`; no digits after either of them is zero. -/
def ipv4Number : List Char → Option Nat
  | [] => none
  | '0' :: 'x' :: digits => radixNumber 16 digits
  | '0' :: 'X' :: digits => radixNumber 16 digits
  | '0' :: d :: digits => radixNumber 8 (d :: digits)
  | digits => radixNumber 10 digits

/-- The labels of a name, without the empty one after a point at the end. -/
def labels (domain : List Char) : List (List Char) :=
  let parts := Text.splitAll '.' domain
  if parts.getLast? = some [] ∧ 1 < parts.length then parts.dropLast else parts

def endsInNumber (domain : List Char) : Bool :=
  match (labels domain).getLast? with
  | some last => (!last.isEmpty && last.all (Ip.isDigit 10)) || (ipv4Number last).isSome
  | none => false

def v4OfNat (n : Nat) : Ip.V4 :=
  ⟨(n / 256 ^ 3).toUInt8, (n / 256 ^ 2).toUInt8, (n / 256).toUInt8, n.toUInt8⟩

def ipv4Address (domain : List Char) : Option Ip.V4 :=
  if 4 < (labels domain).length then none
  else match (labels domain).mapM ipv4Number with
    | none => none
    | some numbers =>
      let last := numbers.getLastD 0
      let first := numbers.dropLast
      if first.any (fun n => 255 < n) ∨ 256 ^ (5 - numbers.length) ≤ last then none
      else some (v4OfNat (last + (first.zipIdx.map fun (n, i) => n * 256 ^ (3 - i)).sum))

def octet (digits : List Char) : Option UInt8 :=
  if digits = [] ∨ digits.all (Ip.isDigit 10) = false ∨
      (digits.head? = some '0' ∧ 1 < digits.length) ∨ 255 < Ip.number 10 digits then none
  else some (Ip.number 10 digits).toUInt8

def embeddedV4 (cs : List Char) : Option (List UInt16) :=
  match (Text.splitAll '.' cs).mapM octet with
  | some [a, b, c, d] => some [a.toUInt16 <<< 8 ||| b.toUInt16, c.toUInt16 <<< 8 ||| d.toUInt16]
  | _ => none

def readPieces : (fuel : Nat) → (pieces : List UInt16) → (gap : Option Nat) → List Char →
    Option (List UInt16 × Option Nat)
  | _, pieces, gap, [] => some (pieces, gap)
  | 0, _, _, _ :: _ => none
  | fuel + 1, pieces, gap, c :: cs =>
    if pieces.length = 8 then none
    else if c = ':' then
      if gap.isSome then none else readPieces fuel (pieces ++ [0]) (some (pieces.length + 1)) cs
    else
      let digits := ((c :: cs).takeWhile (Ip.isDigit 16)).take 4
      let piece := (Ip.number 16 digits).toUInt16
      match (c :: cs).drop digits.length with
      | [] => some (pieces ++ [piece], gap)
      | d :: rest =>
        if d = '.' then
          if digits = [] ∨ 6 < pieces.length then none
          else (embeddedV4 (c :: cs)).map fun last => (pieces ++ last, gap)
        else if d = ':' ∧ rest ≠ [] then readPieces fuel (pieces ++ [piece]) gap rest
        else none

def fillGap : List UInt16 × Option Nat → List UInt16
  | (pieces, none) => pieces
  | (pieces, some gap) =>
    pieces.take gap ++ List.replicate (8 - pieces.length) 0 ++ pieces.drop gap

def ipv6Address (cs : List Char) : Option Ip.V6 :=
  let pieces := match cs with
    | ':' :: ':' :: rest => readPieces rest.length [0] (some 1) rest
    | ':' :: _ => none
    | _ => readPieces cs.length [] none cs
  pieces.bind fun pieces => Ip.V6.of? (fillGap pieces)

def hexValue (digits : List Char) : Option UInt8 :=
  if digits.all (Ip.isDigit 16) then some (Ip.number 16 digits).toUInt8 else none

def percentDecode : List UInt8 → List UInt8
  | b :: hi :: lo :: rest =>
    match (if b = 0x25 then hexValue [Char.ofNat hi.toNat, Char.ofNat lo.toNat] else none) with
    | some value => value :: percentDecode rest
    | none => b :: percentDecode (hi :: lo :: rest)
  | bytes => bytes

/-- `toAscii` decodes the bytes as UTF-8 and maps the name to ASCII, or refuses it. -/
def readHost (toAscii : List UInt8 → Option (List Char)) (text : List Char) : Option Host :=
  match text with
  | [] => none
  | c :: rest =>
    if c = '[' then
      if rest.getLast? = some ']' then
        (ipv6Address rest.dropLast).map fun v => .address (.v6 v)
      else none
    else match toAscii (percentDecode (text.flatMap String.utf8EncodeChar)) with
      | none => none
      | some name =>
        if name = [] then none
        else if endsInNumber name then (ipv4Address name).map fun v => .address (.v4 v)
        else some (.domain name)

def host (toAscii : List UInt8 → Option (List Char)) (cs : List Char) : Option Host :=
  match afterScheme cs with
  | none => none
  | some rest =>
    let parts := splitHost false (hostAndPort (authority rest))
    if isPort parts.2 then readHost toAscii parts.1 else none

theorem rdropWhile_append_cons {p : Char → Bool} {c : Char} (hc : p c = false) (xs ys : List Char) :
    (xs ++ c :: ys).rdropWhile p = xs ++ c :: ys.rdropWhile p := by
  have hstop : (c :: xs.reverse).dropWhile p = c :: xs.reverse :=
    List.dropWhile_cons_of_neg (by simp [hc])
  unfold List.rdropWhile
  rw [List.reverse_append, List.reverse_cons, List.append_assoc, List.singleton_append,
    List.dropWhile_append, hstop]
  split
  · rename_i hall
    simp [List.isEmpty_iff.mp hall]
  · simp

theorem trimmed_append_cons {c : Char} (hc : isC0OrSpace c = false) (xs ys : List Char) :
    trimmed (xs ++ c :: ys) = xs.filter (fun c => !isTabOrNewline c) ++ c :: trimmed ys := by
  have hkept : (!isTabOrNewline c) = true := by
    simp only [isC0OrSpace, isTabOrNewline, decide_eq_false_iff_not, Bool.not_eq_true',
      Bool.or_eq_false_iff, beq_eq_false_iff_ne] at hc ⊢
    refine ⟨⟨?_, ?_⟩, ?_⟩ <;> rintro rfl <;> exact hc (by decide)
  unfold trimmed
  rw [rdropWhile_append_cons hc, List.filter_append, List.filter_cons, if_pos hkept]

theorem trimmed_append {xs : List Char} (h : ∀ c ∈ xs, isC0OrSpace c = false) (ys : List Char) :
    trimmed (xs ++ ys) = xs ++ trimmed ys := by
  induction xs with
  | nil => rfl
  | cons c xs ih =>
    have hstep := trimmed_append_cons (h c List.mem_cons_self) [] (xs ++ ys)
    rw [List.cons_append, List.cons_append, ← ih fun d hd => h d (List.mem_cons_of_mem c hd)]
    exact hstep

theorem cleaned_append {xs : List Char} (hne : xs ≠ []) (h : ∀ c ∈ xs, isC0OrSpace c = false)
    (ys : List Char) : cleaned (xs ++ ys) = xs ++ trimmed ys := by
  have hstart : (xs ++ ys).dropWhile isC0OrSpace = xs ++ ys := by
    cases xs with
    | nil => exact absurd rfl hne
    | cons c cs =>
      rw [List.cons_append, List.dropWhile_cons_of_neg (by simp [h c List.mem_cons_self])]
  rw [cleaned, hstart, trimmed_append h]

theorem mem_of_mem_trimmed {cs : List Char} {c : Char} (h : c ∈ trimmed cs) : c ∈ cs :=
  (List.rdropWhile_prefix _ _).subset (List.mem_filter.mp h).1

theorem afterScheme_https {xs : List Char} (h : ∀ c ∈ xs, isC0OrSpace c = false) (ys : List Char) :
    afterScheme ("https://".toList ++ (xs ++ ys)) = some ('/' :: '/' :: (xs ++ trimmed ys)) := by
  have hvisible : ∀ c ∈ "https://".toList, isC0OrSpace c = false :=
    Text.forall_false_of_all (by decide)
  have hparts : "https://".toList ++ (xs ++ trimmed ys) =
      "https".toList ++ ':' :: '/' :: '/' :: (xs ++ trimmed ys) := by simp
  unfold afterScheme
  rw [cleaned_append (by decide) hvisible, trimmed_append h, hparts,
    Text.splitOnce_append _ (by decide)]
  exact if_pos (by decide)

theorem authority_slashes (cs : List Char) : authority ('/' :: '/' :: cs) = authority cs := rfl

theorem authority_append {xs : List Char} (hne : xs ≠ []) (h : ∀ c ∈ xs, endsAuthority c = false)
    (ys : List Char) : authority (xs ++ ys) = xs ++ ys.takeWhile (fun c => !endsAuthority c) := by
  have hstart : (xs ++ ys).dropWhile isSlash = xs ++ ys := by
    cases xs with
    | nil => exact absurd rfl hne
    | cons c cs =>
      have hc := h c List.mem_cons_self
      simp only [endsAuthority, Bool.or_eq_false_iff] at hc
      rw [List.cons_append, List.dropWhile_cons_of_neg (by simp [hc.1.1])]
  rw [authority, hstart, List.takeWhile_append_of_pos fun c hc => by simp [h c hc]]

theorem of_isAddrChar {c : Char} (h : Ip.isAddrChar c = true) :
    isC0OrSpace c = false ∧ endsAuthority c = false := by
  constructor
  · rw [isC0OrSpace, decide_eq_false_iff_not]
    intro hle
    have hsmall : ∀ d : Fin 33, Ip.isAddrChar (Char.ofNat d) = false := by decide
    have hc := hsmall ⟨c.toNat, by omega⟩
    rw [Char.ofNat_toNat] at hc
    rw [hc] at h
    cases h
  · by_contra hends
    simp only [Bool.not_eq_false, endsAuthority, isSlash, Bool.or_eq_true, beq_iff_eq] at hends
    rcases hends with ((rfl | rfl) | rfl) | rfl <;> revert h <;> decide

theorem splitHost_append (inside : Bool) (cs : List Char) :
    (splitHost inside cs).1 ++ (splitHost inside cs).2 = cs := by
  induction cs generalizing inside with
  | nil => rfl
  | cons c cs ih =>
    rw [splitHost]
    split
    · rfl
    · simp [ih]

theorem append_hostAndPort (cs : List Char) : ∃ userInfo, userInfo ++ hostAndPort cs = cs := by
  unfold hostAndPort
  split
  · rename_i userInfo rest h
    obtain ⟨rfl, -⟩ := Text.rsplitOnce_eq_some_iff.mp h
    exact ⟨userInfo ++ ['@'], by simp⟩
  · exact ⟨[], rfl⟩

theorem length_embeddedV4 {cs : List Char} {last : List UInt16} (h : embeddedV4 cs = some last) :
    last.length = 2 := by
  unfold embeddedV4 at h
  split at h
  · cases h
    rfl
  · cases h

theorem ipv6Address_eq_none {cs : List Char} (h : ':' ∉ cs) : ipv6Address cs = none := by
  have hfew {pieces : List UInt16} {gap : Option Nat}
      (hread : readPieces cs.length [] none cs = some (pieces, gap)) :
      pieces.length < 8 ∧ gap = none := by
    cases cs with
    | nil =>
      cases hread
      exact ⟨by decide, rfl⟩
    | cons c cs =>
      have hc : c ≠ ':' := fun he => h (he ▸ List.mem_cons_self)
      rw [List.length_cons, readPieces, if_neg (by decide), if_neg hc] at hread
      dsimp only at hread
      split at hread
      · cases hread
        exact ⟨by simp, rfl⟩
      · rename_i d rest hdrop
        have hd : d ≠ ':' := by
          rintro rfl
          exact h (List.mem_of_mem_drop (hdrop ▸ List.mem_cons_self))
        split at hread
        · split at hread
          · cases hread
          · obtain ⟨last, hlast, heq⟩ := Option.map_eq_some_iff.mp hread
            cases heq
            rw [List.nil_append, length_embeddedV4 hlast]
            exact ⟨by decide, rfl⟩
        · rw [if_neg (fun hcolon => hd hcolon.1)] at hread
          cases hread
  unfold ipv6Address
  split
  · exact absurd List.mem_cons_self h
  · exact absurd List.mem_cons_self h
  · cases hread : readPieces cs.length [] none cs with
    | none => rfl
    | some result =>
      obtain ⟨pieces, gap⟩ := result
      obtain ⟨hlength, rfl⟩ := hfew hread
      have hshort : pieces.length ≠ 8 := by omega
      simp [fillGap, Ip.V6.of?, hshort]

theorem bracketed_of_readHost {toAscii : List UInt8 → Option (List Char)} {text : List Char}
    {v : Ip.V6} (h : readHost toAscii text = some (.address (.v6 v))) :
    ∃ rest, text = '[' :: rest ∧ ':' ∈ rest := by
  cases text with
  | nil => cases h
  | cons c rest =>
    simp only [readHost] at h
    split at h
    · rename_i hc
      refine ⟨rest, by rw [hc], ?_⟩
      by_contra hcolon
      rw [ipv6Address_eq_none fun hmem => hcolon (List.dropLast_subset _ hmem)] at h
      simp at h
    · split at h
      · cases h
      · split at h
        · cases h
        · split at h
          · obtain ⟨v', -, heq⟩ := Option.map_eq_some_iff.mp h
            cases heq
          · cases h

theorem bracketed_of_host {toAscii : List UInt8 → Option (List Char)} {cs : List Char} {v : Ip.V6}
    (h : host toAscii cs = some (.address (.v6 v))) :
    ∃ rest before after, afterScheme cs = some rest ∧ authority rest = before ++ '[' :: after ∧
      ':' ∈ after := by
  unfold host at h
  split at h
  · cases h
  · rename_i rest hrest
    dsimp only at h
    split at h
    · obtain ⟨text, htext, hcolon⟩ := bracketed_of_readHost h
      obtain ⟨userInfo, huser⟩ := append_hostAndPort (authority rest)
      have hparts := splitHost_append false (hostAndPort (authority rest))
      rw [htext] at hparts
      refine ⟨rest, userInfo, text ++ (splitHost false (hostAndPort (authority rest))).2, hrest, ?_,
        List.mem_append_left _ hcolon⟩
      rw [← List.cons_append, hparts, huser]
    · cases h

end UrlHost
