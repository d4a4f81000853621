/-! Splitting and trimming of texts given as lists of characters. -/

set_option autoImplicit false

namespace Text

/-- The fields between separators; a text without separator is one field. -/
def splitAll (sep : Char) : List Char → List (List Char)
  | [] => [[]]
  | c :: cs =>
    if c = sep then [] :: splitAll sep cs
    else match splitAll sep cs with
      | [] => [[c]]
      | field :: fields => (c :: field) :: fields

def splitOnce (sep : Char) : List Char → Option (List Char × List Char)
  | [] => none
  | c :: cs =>
    if c = sep then some ([], cs)
    else (splitOnce sep cs).map fun parts => (c :: parts.1, parts.2)

def rsplitOnce (sep : Char) (cs : List Char) : Option (List Char × List Char) :=
  (splitOnce sep cs.reverse).map fun parts => (parts.2.reverse, parts.1.reverse)

/-- Takes a prefix off, as often as it is there; there are at most `fuel` of them. -/
def trimPrefixes (pattern : List Char) : (fuel : Nat) → List Char → List Char
  | 0, cs => cs
  | fuel + 1, cs =>
    if pattern.isPrefixOf cs then trimPrefixes pattern fuel (cs.drop pattern.length) else cs

/-- `trim_start_matches` of a pattern that is not empty. -/
def trimStartMatches (pattern cs : List Char) : List Char := trimPrefixes pattern cs.length cs

/-- At most `n` fields, the last of which is the rest with its separators. -/
def splitN (sep : Char) : Nat → List Char → List (List Char)
  | 0, _ => []
  | 1, cs => [cs]
  | n + 2, cs => match splitOnce sep cs with
    | none => [cs]
    | some (field, rest) => field :: splitN sep (n + 1) rest

def contains (cs pattern : List Char) : Bool :=
  pattern.isPrefixOf cs || match cs with
    | [] => false
    | _ :: rest => contains rest pattern

/-- The `White_Space` property of Unicode. -/
def isWhiteSpace (c : Char) : Bool :=
  let n := c.toNat
  (9 ≤ n && n ≤ 13) || n == 32 || n == 0x85 || n == 0xA0 || n == 0x1680 ||
    (0x2000 ≤ n && n ≤ 0x200A) || n == 0x2028 || n == 0x2029 || n == 0x202F || n == 0x205F ||
    n == 0x3000

def trimStart (cs : List Char) : List Char := cs.dropWhile isWhiteSpace

def trim (cs : List Char) : List Char := (trimStart (trimStart cs).reverse).reverse

def words (cs : List Char) : List (List Char) :=
  (cs.splitOnP isWhiteSpace).filter (fun word => !word.isEmpty)

def isBlank (s : String) : Bool := (trim s.toList).isEmpty

theorem splitOnce_append {sep : Char} {before : List Char} (after : List Char)
    (h : sep ∉ before) : splitOnce sep (before ++ sep :: after) = some (before, after) := by
  induction before with
  | nil => simp [splitOnce]
  | cons c before ih =>
    have hc : c ≠ sep := fun he => h (he ▸ List.mem_cons_self)
    rw [List.cons_append, splitOnce, if_neg hc, ih (fun hm => h (List.mem_cons_of_mem c hm))]
    rfl

theorem splitOnce_eq_some_iff {sep : Char} {cs before after : List Char} :
    splitOnce sep cs = some (before, after) ↔ cs = before ++ sep :: after ∧ sep ∉ before := by
  constructor
  · intro h
    induction cs generalizing before with
    | nil => cases h
    | cons c cs ih =>
      rw [splitOnce] at h
      split at h
      · rename_i hc
        cases h
        exact ⟨by rw [hc, List.nil_append], List.not_mem_nil⟩
      · rename_i hc
        obtain ⟨parts, hparts, heq⟩ := Option.map_eq_some_iff.mp h
        cases heq
        obtain ⟨rfl, hsep⟩ := ih hparts
        exact ⟨rfl, by simp [hsep, Ne.symm hc]⟩
  · rintro ⟨rfl, hsep⟩
    exact splitOnce_append after hsep

theorem append_sep_inj {sep : Char} {x x' y y' : List Char} (hy : sep ∉ y) (hy' : sep ∉ y')
    (h : x ++ sep :: y = x' ++ sep :: y') : x = x' ∧ y = y' := by
  rcases List.append_eq_append_iff.mp h with ⟨as, hx, ht⟩ | ⟨as, hx, ht⟩
  · cases as with
    | nil => simp_all
    | cons a as =>
      simp only [List.cons_append, List.cons.injEq] at ht
      exact absurd (ht.2 ▸ List.mem_append_right as List.mem_cons_self) hy
  · cases as with
    | nil => simp_all
    | cons a as =>
      simp only [List.cons_append, List.cons.injEq] at ht
      exact absurd (ht.2 ▸ List.mem_append_right as List.mem_cons_self) hy'

theorem sep_append_inj {sep : Char} {x x' y y' : List Char} (hx : sep ∉ x) (hx' : sep ∉ x')
    (h : x ++ sep :: y = x' ++ sep :: y') : x = x' ∧ y = y' := by
  rcases List.append_eq_append_iff.mp h with ⟨as, hx₁, ht⟩ | ⟨as, hx₁, ht⟩
  · cases as with
    | nil => simp_all
    | cons a as =>
      simp only [List.cons_append, List.cons.injEq] at ht
      rw [hx₁, ← ht.1] at hx'
      exact absurd (List.mem_append_right x List.mem_cons_self) hx'
  · cases as with
    | nil => simp_all
    | cons a as =>
      simp only [List.cons_append, List.cons.injEq] at ht
      rw [hx₁, ← ht.1] at hx
      exact absurd (List.mem_append_right x' List.mem_cons_self) hx

theorem splitOnce_eq_none_iff {sep : Char} {cs : List Char} :
    splitOnce sep cs = none ↔ sep ∉ cs := by
  induction cs with
  | nil => simp [splitOnce]
  | cons c cs ih =>
    rw [splitOnce]
    split
    · rename_i hc
      simp [hc]
    · rename_i hc
      simp [ih, Ne.symm hc]

theorem rsplitOnce_eq_none_iff {sep : Char} {cs : List Char} :
    rsplitOnce sep cs = none ↔ sep ∉ cs := by
  rw [rsplitOnce, Option.map_eq_none_iff, splitOnce_eq_none_iff, List.mem_reverse]

theorem rsplitOnce_eq_some_iff {sep : Char} {cs before after : List Char} :
    rsplitOnce sep cs = some (before, after) ↔ cs = before ++ sep :: after ∧ sep ∉ after := by
  rw [rsplitOnce, Option.map_eq_some_iff]
  constructor
  · rintro ⟨⟨x, y⟩, h, heq⟩
    cases heq
    obtain ⟨hcs, hsep⟩ := splitOnce_eq_some_iff.mp h
    refine ⟨?_, by simpa using hsep⟩
    simpa using congrArg List.reverse hcs
  · rintro ⟨rfl, hsep⟩
    refine ⟨(after.reverse, before.reverse), splitOnce_eq_some_iff.mpr ⟨by simp, ?_⟩, by simp⟩
    simpa using hsep

theorem trimPrefixes_spec {pattern : List Char} (hne : pattern ≠ []) (fuel : Nat) {cs : List Char}
    (hfuel : cs.length ≤ fuel) :
    (∃ n, cs = (List.replicate n pattern).flatten ++ trimPrefixes pattern fuel cs) ∧
      ¬ pattern <+: trimPrefixes pattern fuel cs := by
  induction fuel generalizing cs with
  | zero =>
    obtain rfl := List.length_eq_zero_iff.mp (Nat.le_zero.mp hfuel)
    exact ⟨⟨0, rfl⟩, fun h => hne (List.prefix_nil.mp h)⟩
  | succ fuel ih =>
    rw [trimPrefixes]
    by_cases hprefix : pattern.isPrefixOf cs = true
    · rw [if_pos hprefix]
      obtain ⟨rest, rfl⟩ := List.isPrefixOf_iff_prefix.mp hprefix
      have hpos := List.length_pos_iff.mpr hne
      rw [List.drop_left]
      rw [List.length_append] at hfuel
      have hrest : rest.length ≤ fuel := by omega
      obtain ⟨⟨n, hn⟩, hstop⟩ := ih hrest
      refine ⟨⟨n + 1, ?_⟩, hstop⟩
      rw [List.replicate_succ, List.flatten_cons, List.append_assoc, ← hn]
    · rw [if_neg hprefix]
      exact ⟨⟨0, rfl⟩, fun h => hprefix (List.isPrefixOf_iff_prefix.mpr h)⟩

theorem trimStartMatches_spec {pattern : List Char} (hne : pattern ≠ []) (cs : List Char) :
    (∃ n, cs = (List.replicate n pattern).flatten ++ trimStartMatches pattern cs) ∧
      ¬ pattern <+: trimStartMatches pattern cs :=
  trimPrefixes_spec hne cs.length (Nat.le_refl _)

theorem trimStartMatches_eq {pattern : List Char} (hne : pattern ≠ []) (n : Nat) {cs : List Char}
    (hstop : ¬ pattern <+: cs) :
    trimStartMatches pattern ((List.replicate n pattern).flatten ++ cs) = cs := by
  obtain ⟨⟨m, hm⟩, hstop'⟩ :=
    trimStartMatches_spec hne ((List.replicate n pattern).flatten ++ cs)
  generalize trimStartMatches pattern ((List.replicate n pattern).flatten ++ cs) = left at hm hstop'
  induction n generalizing m with
  | zero =>
    cases m with
    | zero => exact hm.symm
    | succ m =>
      rw [List.replicate_succ, List.flatten_cons, List.append_assoc] at hm
      exact absurd ⟨_, hm.symm⟩ hstop
  | succ n ih =>
    rw [List.replicate_succ, List.flatten_cons, List.append_assoc] at hm
    cases m with
    | zero => exact absurd ⟨_, hm⟩ hstop'
    | succ m =>
      rw [List.replicate_succ, List.flatten_cons, List.append_assoc] at hm
      exact ih m (List.append_cancel_left hm)

theorem splitAll_of_not_mem {sep : Char} {cs : List Char} (h : sep ∉ cs) : splitAll sep cs = [cs] := by
  induction cs with
  | nil => rfl
  | cons c cs ih =>
    have hc : c ≠ sep := fun he => h (he ▸ List.mem_cons_self)
    rw [splitAll, if_neg hc, ih fun hm => h (List.mem_cons_of_mem c hm)]

theorem splitAll_append {sep : Char} {field : List Char} (rest : List Char) (h : sep ∉ field) :
    splitAll sep (field ++ sep :: rest) = field :: splitAll sep rest := by
  induction field with
  | nil => simp [splitAll]
  | cons c field ih =>
    have hc : c ≠ sep := fun he => h (he ▸ List.mem_cons_self)
    rw [List.cons_append, splitAll, if_neg hc, ih fun hm => h (List.mem_cons_of_mem c hm)]

theorem headD_splitAll (sep : Char) (cs : List Char) :
    (splitAll sep cs).headD [] = cs.takeWhile (fun c => c != sep) := by
  induction cs with
  | nil => rfl
  | cons c cs ih =>
    rw [splitAll]
    split
    · rename_i hc
      simp [hc]
    · rename_i hc
      rw [List.takeWhile_cons_of_pos (by simp [hc]), ← ih]
      cases splitAll sep cs <;> rfl

theorem mem_of_append_sep {sep c : Char} {x y x' y' : List Char} (hc : c ≠ sep) (hy : sep ∉ y)
    (h : x ++ sep :: y = x' ++ c :: y') (hy' : sep ∈ y') : c ∈ x := by
  rcases List.append_eq_append_iff.mp h with ⟨as, hx, ht⟩ | ⟨as, hx, ht⟩
  · cases as with
    | nil => exact absurd (List.cons.inj ht).1.symm hc
    | cons a as =>
      rw [List.cons_append, List.cons.injEq] at ht
      exact absurd (ht.2 ▸ List.mem_append_right as (List.mem_cons_of_mem c hy')) hy
  · cases as with
    | nil => exact absurd (List.cons.inj ht).1 hc
    | cons a as =>
      rw [List.cons_append, List.cons.injEq] at ht
      rw [hx, ht.1]
      exact List.mem_append_right x' List.mem_cons_self

theorem trimStart_white {cs : List Char} (h : ∀ c ∈ cs, isWhiteSpace c = true) :
    trimStart cs = [] := by
  rw [trimStart, ← List.append_nil cs, List.dropWhile_append_of_pos h, List.dropWhile_nil]

theorem trimStart_append {before cs : List Char} (hbefore : ∀ c ∈ before, isWhiteSpace c = true)
    (hcs : ∀ c, cs.head? = some c → isWhiteSpace c = false) : trimStart (before ++ cs) = cs := by
  rw [trimStart, List.dropWhile_append_of_pos hbefore]
  cases cs with
  | nil => rfl
  | cons c cs => exact List.dropWhile_cons_of_neg (by simp [hcs c rfl])

theorem trim_append {before word after : List Char} (hbefore : ∀ c ∈ before, isWhiteSpace c = true)
    (hword : ∀ c ∈ word, isWhiteSpace c = false) (hafter : ∀ c ∈ after, isWhiteSpace c = true) :
    trim (before ++ (word ++ after)) = word := by
  have hreverse : ∀ c ∈ after.reverse, isWhiteSpace c = true :=
    fun c hc => hafter c (List.mem_reverse.mp hc)
  have hend : (trimStart (word ++ after).reverse).reverse = word := by
    rw [List.reverse_append, trimStart_append hreverse, List.reverse_reverse]
    intro c hc
    exact hword c (List.mem_reverse.mp (List.mem_of_head? hc))
  cases word with
  | nil =>
    have hall : ∀ c ∈ before ++ ([] ++ after), isWhiteSpace c = true := by
      intro c hc
      exact (List.mem_append.mp hc).elim (hbefore c) (hafter c)
    rw [trim, trimStart_white hall]
    rfl
  | cons c word =>
    rw [trim, trimStart_append hbefore, hend]
    intro d hd
    cases hd
    exact hword c List.mem_cons_self

theorem trim_parts (cs : List Char) : ∃ before after, cs = before ++ (trim cs ++ after) ∧
    (∀ c ∈ before, isWhiteSpace c = true) ∧ ∀ c ∈ after, isWhiteSpace c = true := by
  have hwhite (ds : List Char) : ∀ c ∈ ds.takeWhile isWhiteSpace, isWhiteSpace c = true :=
    fun c hc => List.all_eq_true.mp List.all_takeWhile c hc
  refine ⟨cs.takeWhile isWhiteSpace, ((trimStart cs).reverse.takeWhile isWhiteSpace).reverse, ?_,
    hwhite _, fun c hc => hwhite _ c (List.mem_reverse.mp hc)⟩
  have hend := congrArg List.reverse
    (List.takeWhile_append_dropWhile (p := isWhiteSpace) (l := (trimStart cs).reverse))
  rw [List.reverse_append, List.reverse_reverse] at hend
  have hboth := List.takeWhile_append_dropWhile (p := isWhiteSpace) (l := cs)
  exact hboth.symm.trans (congrArg (cs.takeWhile isWhiteSpace ++ ·) hend.symm)

theorem ofList_eq_nil_of_size {cs : List Char} (h : (String.ofList cs).utf8ByteSize = 0) :
    cs = [] := by
  have hempty := String.utf8ByteSize_eq_zero_iff.mp h
  simpa using congrArg String.toList hempty

theorem append_size_inj {s s' : String} {y y' : List Char}
    (hsize : s.utf8ByteSize = s'.utf8ByteSize) (h : s.toList ++ y = s'.toList ++ y') :
    s = s' ∧ y = y' := by
  rcases List.append_eq_append_iff.mp h with ⟨as, hs, ht⟩ | ⟨as, hs, ht⟩
  · have hs' : s' = s ++ String.ofList as := String.toList_inj.mp (by simp [hs])
    rw [hs', String.utf8ByteSize_append] at hsize
    obtain rfl := ofList_eq_nil_of_size (by omega : (String.ofList as).utf8ByteSize = 0)
    exact ⟨by simp [hs'], by simpa using ht⟩
  · have hs' : s = s' ++ String.ofList as := String.toList_inj.mp (by simp [hs])
    rw [hs', String.utf8ByteSize_append] at hsize
    obtain rfl := ofList_eq_nil_of_size (by omega : (String.ofList as).utf8ByteSize = 0)
    exact ⟨by simp [hs'], by simpa using ht.symm⟩

theorem colon_not_mem_digits (n : Nat) : ':' ∉ (toString n).toList := by
  intro hc
  rw [Nat.toString_eq_repr, Nat.toList_repr] at hc
  have hdigit := Nat.isDigit_of_mem_toDigits (by decide) (by decide) hc
  revert hdigit
  decide

theorem toString_nat_inj {n m : Nat} (h : toString n = toString m) : n = m := by
  have hdigits := congrArg String.toList h
  rw [Nat.toString_eq_repr, Nat.toString_eq_repr, Nat.toList_repr, Nat.toList_repr] at hdigits
  rw [← @Nat.ofDigitChars_ten_toDigits n, hdigits, Nat.ofDigitChars_ten_toDigits]

theorem forall_false_of_all {p : Char → Bool} {cs : List Char}
    (h : (cs.all fun c => !p c) = true) : ∀ c ∈ cs, p c = false := by
  intro c hc
  simpa using List.all_eq_true.mp h c hc

end Text
