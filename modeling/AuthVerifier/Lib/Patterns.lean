import Mathlib.Data.List.Infix

/-!
Text patterns of SQL engines: `GLOB`, which covers the whole text, and regular expressions, which are
looked for anywhere in it. Of the latter only what needs no grouping is here: sets of characters one
after the other, possibly repeated, and the anchors. Engines differ in which characters they take for
variants of another and in what `$` may stand in front of.
-/

set_option autoImplicit false

namespace Patterns

abbrev CharSet := List (Char × Char)

def CharSet.mem (s : CharSet) (c : Char) : Bool := s.any fun (lo, hi) => lo ≤ c && c ≤ hi

/-- What stands after an opening bracket; a hyphen in front of the closing one is itself. -/
def readSet : List Char → Option (CharSet × List Char)
  | [] => none
  | ']' :: rest => some ([], rest)
  | lo :: '-' :: hi :: rest =>
    if hi = ']' then some ([(lo, lo), ('-', '-')], rest)
    else (readSet rest).map fun (set, rest) => ((lo, hi) :: set, rest)
  | c :: rest => (readSet rest).map fun (set, rest) => ((c, c) :: set, rest)

inductive GlobToken where
  | star
  | any
  | set (set : CharSet)
  deriving DecidableEq

def readGlob : (fuel : Nat) → List Char → Option (List GlobToken)
  | _, [] => some []
  | 0, _ :: _ => none
  | fuel + 1, c :: rest =>
    if c = '*' then (readGlob fuel rest).map (.star :: ·)
    else if c = '?' then (readGlob fuel rest).map (.any :: ·)
    else if c = '[' then
      match readSet rest with
      | some (set, rest) => (readGlob fuel rest).map (.set set :: ·)
      | none => none
    else (readGlob fuel rest).map (.set [(c, c)] :: ·)

def matchGlob : List GlobToken → List Char → Bool
  | [], cs => cs.isEmpty
  | .star :: tokens, cs => cs.tails.any (matchGlob tokens)
  | .any :: tokens, _ :: cs => matchGlob tokens cs
  | .set set :: tokens, c :: cs => set.mem c && matchGlob tokens cs
  | .any :: _, [] | .set _ :: _, [] => false

def glob (pattern text : String) : Bool :=
  match readGlob pattern.length pattern.toList with
  | some tokens => matchGlob tokens text.toList
  | none => false

inductive RegexToken where
  | start
  | stop
  | one (set : CharSet)
  | plus (set : CharSet)
  deriving DecidableEq

def isOperator (c : Char) : Bool := c ∈ ['.', '*', '+', '?', '|', '(', ')', '{', '}', '\\']

def repeated (set : CharSet) : List Char → RegexToken × List Char
  | '+' :: rest => (.plus set, rest)
  | rest => (.one set, rest)

def readRegex : (fuel : Nat) → List Char → Option (List RegexToken)
  | _, [] => some []
  | 0, _ :: _ => none
  | fuel + 1, c :: rest =>
    if c = '^' then (readRegex fuel rest).map (.start :: ·)
    else if c = '$' then (readRegex fuel rest).map (.stop :: ·)
    else if isOperator c then none
    else
      match (if c = '[' then readSet rest else some ([(c, c)], rest)) with
      | some (set, rest) =>
        let (token, rest) := repeated set rest
        (readRegex fuel rest).map (token :: ·)
      | none => none

structure Flavour where
  /-- The characters that the engine takes the given one for. -/
  variants : Char → List Char
  /-- `$` matches in front of this text. -/
  endsLine : List Char → Bool

namespace Flavour

def mem (F : Flavour) (set : CharSet) (c : Char) : Bool := (F.variants c).any set.mem

def matchHere (F : Flavour) : List RegexToken → (atStart : Bool) → List Char → Bool
  | [], _, _ => true
  | .start :: tokens, atStart, cs => atStart && F.matchHere tokens atStart cs
  | .stop :: tokens, atStart, cs => F.endsLine cs && F.matchHere tokens atStart cs
  | .one set :: tokens, _, cs =>
    match cs with
    | [] => false
    | c :: cs => F.mem set c && F.matchHere tokens false cs
  | .plus set :: tokens, _, cs => (List.range cs.length).any fun n =>
    (cs.take (n + 1)).all (F.mem set) && F.matchHere tokens false (cs.drop (n + 1))

def search (F : Flavour) (tokens : List RegexToken) (cs : List Char) : Bool :=
  (List.range (cs.length + 1)).any fun n => F.matchHere tokens (n == 0) (cs.drop n)

def regex (F : Flavour) (pattern text : String) : Bool :=
  match readRegex pattern.length pattern.toList with
  | some tokens => F.search tokens text.toList
  | none => false

/-- POSIX: every character is only itself, and the end of the text is its only end. -/
def posix : Flavour where
  variants := fun c => [c]
  endsLine := List.isEmpty

def isLineTerminator (c : Char) : Bool :=
  (0x0a ≤ c.toNat && c.toNat ≤ 0x0d) || c.toNat == 0x85 || c.toNat == 0x2028 || c.toNat == 0x2029

/-- The letters of ASCII that differ from the character in case only. Outside of ASCII there are two
that have some: the long s and the Kelvin sign. -/
def asciiVariants (c : Char) : List Char :=
  if c.isAlpha then [c.toLower, c.toUpper]
  else if c.toNat = 0x17f then ['s', 'S']
  else if c.toNat = 0x212a then ['k', 'K']
  else []

/-- ICU, for sets within ASCII: `$` also matches in front of a line terminator at the end. -/
def icu (ignoreCase : Bool) : Flavour where
  variants := fun c => if ignoreCase then c :: asciiVariants c else [c]
  endsLine := fun
    | [] => true
    | [c] => isLineTerminator c
    | [c, d] => c == '\r' && d == '\n'
    | _ => false

end Flavour

theorem matchGlob_set_star {set : CharSet} {cs : List Char} :
    matchGlob [.set set, .star] cs = true ↔ ∃ c rest, cs = c :: rest ∧ set.mem c = true := by
  cases cs with
  | nil => simp [matchGlob]
  | cons c cs =>
    have hstar : matchGlob [.star] cs = true := by
      rw [matchGlob, List.any_eq_true]
      exact ⟨[], (List.mem_tails _ _).mpr List.nil_suffix, rfl⟩
    rw [matchGlob, hstar, Bool.and_true]
    simp

namespace Flavour
variable {F : Flavour} {set : CharSet} {cs : List Char}

theorem matchHere_plus_stop {atStart : Bool} :
    F.matchHere [.plus set, .stop] atStart cs = true ↔ ∃ word rest, cs = word ++ rest ∧ word ≠ [] ∧
      (∀ c ∈ word, F.mem set c = true) ∧ F.endsLine rest = true := by
  simp only [matchHere, List.any_eq_true, List.mem_range, Bool.and_eq_true, List.all_eq_true,
    Bool.and_true]
  constructor
  · rintro ⟨n, hn, hword, hrest⟩
    refine ⟨cs.take (n + 1), cs.drop (n + 1), (List.take_append_drop ..).symm, ?_, hword, hrest⟩
    intro hempty
    rcases List.take_eq_nil_iff.mp hempty with h | h
    · exact Nat.succ_ne_zero n h
    · rw [h] at hn
      exact Nat.not_lt_zero n hn
  · rintro ⟨word, rest, rfl, hne, hword, hrest⟩
    have hpos := List.length_pos_iff.mpr hne
    refine ⟨word.length - 1, by rw [List.length_append]; omega, ?_⟩
    rw [Nat.sub_add_cancel hpos, List.take_left, List.drop_left]
    exact ⟨hword, hrest⟩

theorem search_anchored :
    F.search [.start, .plus set, .stop] cs = true ↔ ∃ word rest, cs = word ++ rest ∧ word ≠ [] ∧
      (∀ c ∈ word, F.mem set c = true) ∧ F.endsLine rest = true := by
  rw [search, List.any_eq_true]
  constructor
  · rintro ⟨n, -, h⟩
    rw [matchHere, Bool.and_eq_true, beq_iff_eq] at h
    obtain ⟨rfl, h⟩ := h
    exact matchHere_plus_stop.mp h
  · intro h
    refine ⟨0, List.mem_range.mpr (Nat.succ_pos _), ?_⟩
    rw [matchHere, Bool.and_eq_true]
    exact ⟨rfl, matchHere_plus_stop.mpr h⟩

end Flavour
end Patterns
