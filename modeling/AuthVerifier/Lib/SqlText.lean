import Mathlib.Data.Option.Basic

/-!
`SELECT` statements as text: how they are split into tokens, how their condition is read by operator
precedence, and what the condition says about a row once values have been bound to it. A parameter
is written as `$n`, or as `?`, which stands for the next one.
-/

set_option autoImplicit false

namespace SqlText

inductive Token where
  | word (name : List Char)
  | parameter (number : Nat)
  | placeholder
  | symbol (c : Char)
  deriving DecidableEq

inductive Pending where
  | nothing
  | word (name : List Char)
  | parameter (digits : List Char)
  deriving DecidableEq

def Pending.tokens : Pending → Option (List Token)
  | .nothing => some []
  | .word name => some [.word name]
  | .parameter digits =>
    if digits ≠ [] ∧ digits.all Char.isDigit = true then
      some [.parameter (Nat.ofDigitChars 10 digits 0)]
    else none

def isWordChar (c : Char) : Bool := c.isAlphanum || c == '_'

def isSymbol (c : Char) : Bool := ['(', ')', ',', '=', '>', '+'].contains c

def lexStep (pending : Pending) (c : Char) : Option (List Token × Pending) :=
  if isWordChar c then match pending with
    | .nothing => if c.isDigit then none else some ([], .word [c])
    | .word name => some ([], .word (name ++ [c]))
    | .parameter digits => some ([], .parameter (digits ++ [c]))
  else match pending.tokens with
    | none => none
    | some tokens =>
      if c.isWhitespace then some (tokens, .nothing)
      else if isSymbol c then some (tokens ++ [.symbol c], .nothing)
      else if pending ≠ .nothing then none
      else if c = '?' then some ([.placeholder], .nothing)
      else if c = '$' then some ([], .parameter [])
      else none

def lexRun : Pending → List Char → Option (List Token × Pending)
  | pending, [] => some ([], pending)
  | pending, c :: cs => match lexStep pending c with
    | none => none
    | some (tokens, next) => (lexRun next cs).map fun r => (tokens ++ r.1, r.2)

def lex (text : List Char) : Option (List Token) :=
  match lexRun .nothing text with
  | none => none
  | some (tokens, pending) => pending.tokens.map (tokens ++ ·)

inductive Op where
  | or | and | eq | gt | add
  deriving DecidableEq

def Op.level : Op → Nat
  | .or => 1
  | .and => 2
  | .eq => 3
  | .gt => 3
  | .add => 4

inductive Expr (π : Type) where
  | column (name : List Char)
  | param (p : π)
  | binary (op : Op) (a b : Expr π)
  deriving DecidableEq

def Token.op? : Token → Option Op
  | .word name =>
    if name = ['O', 'R'] then some .or else if name = ['A', 'N', 'D'] then some .and else none
  | .symbol c =>
    if c = '=' then some .eq else if c = '>' then some .gt else if c = '+' then some .add else none
  | _ => none

/-- What has been read of a condition, the latest first. `none` among the operators is an open
parenthesis. -/
structure Reader where
  operators : List (Option Op) := []
  operands : List (Expr Nat) := []
  /-- An operand has just been read. -/
  complete : Bool := false
  placeholders : Nat := 0
  deriving DecidableEq

def reduce (level : Nat) : List (Option Op) → List (Expr Nat) →
    List (Option Op) × List (Expr Nat)
  | some op :: operators, b :: a :: operands =>
    if level ≤ op.level then reduce level operators (.binary op a b :: operands)
    else (some op :: operators, b :: a :: operands)
  | operators, operands => (operators, operands)

def Reader.operand (r : Reader) (e : Expr Nat) (placeholders : Nat) : Reader :=
  { r with operands := e :: r.operands, complete := true, placeholders := placeholders }

def Reader.operator (r : Reader) (op : Op) : Reader :=
  let reduced := reduce op.level r.operators r.operands
  { r with operators := some op :: reduced.1, operands := reduced.2, complete := false }

def Reader.close (r : Reader) : Option Reader :=
  match reduce 0 r.operators r.operands with
  | (none :: operators, operands) => some { r with operators := operators, operands := operands }
  | _ => none

def Reader.step (r : Reader) (t : Token) : Option Reader :=
  if r.complete then match t.op? with
    | some op => some (r.operator op)
    | none => if t = .symbol ')' then r.close else none
  else match t with
    | .word name => if t.op?.isSome then none else some (r.operand (.column name) r.placeholders)
    | .parameter n => some (r.operand (.param n) r.placeholders)
    | .placeholder => some (r.operand (.param (r.placeholders + 1)) (r.placeholders + 1))
    | .symbol c => if c = '(' then some { r with operators := none :: r.operators } else none

def Reader.run (r : Reader) (tokens : List Token) : Option Reader := tokens.foldlM Reader.step r

def Reader.result (r : Reader) : Option (Expr Nat) :=
  match r.complete, reduce 0 r.operators r.operands with
  | true, ([], [e]) => some e
  | _, _ => none

structure Select where
  columns : List (List Char)
  table : List Char
  condition : Expr Nat
  deriving DecidableEq

def names : List Token → Option (List (List Char) × List Token)
  | .word name :: .symbol ',' :: rest => (names rest).map fun r => (name :: r.1, r.2)
  | .word name :: rest => some ([name], rest)
  | _ => none

def select (tokens : List Token) : Option Select :=
  match tokens with
  | .word ['S', 'E', 'L', 'E', 'C', 'T'] :: rest => match names rest with
    | some (columns, .word ['F', 'R', 'O', 'M'] :: .word table ::
        .word ['W', 'H', 'E', 'R', 'E'] :: rest) =>
      (Reader.run {} rest).bind fun r => r.result.map fun condition => ⟨columns, table, condition⟩
    | _ => none
  | _ => none

inductive Value where
  | text (s : String)
  | int (n : Int)
  deriving DecidableEq

/-- The values take the places of the parameters, which are numbered from one. -/
def Expr.bind (values : List Value) : Expr Nat → Option (Expr Value)
  | .column name => some (.column name)
  | .param 0 => none
  | .param (n + 1) => values[n]?.map .param
  | .binary op a b => match a.bind values, b.bind values with
    | some a, some b => some (.binary op a b)
    | _, _ => none

structure Engine where
  sameText : String → String → Bool
  sum : Int → Int → Option Int

section
variable (E : Engine) (row : List Char → Option Value)

def value : Expr Value → Option Value
  | .column name => row name
  | .param v => some v
  | .binary .add a b => match value a, value b with
    | some (.int x), some (.int y) => (E.sum x y).map .int
    | _, _ => none
  | _ => none

/-- Nothing where the evaluation fails. The operands of `AND` and `OR` are evaluated from the left,
as far as the outcome is open. -/
def truth : Expr Value → Option Bool
  | .binary .and a b => match truth a with
    | some true => truth b
    | r => r
  | .binary .or a b => match truth a with
    | some false => truth b
    | r => r
  | .binary .eq a b => match value E row a, value E row b with
    | some (.text s), some (.text t) => some (E.sameText s t)
    | some (.int x), some (.int y) => some (x == y)
    | _, _ => none
  | .binary .gt a b => match value E row a, value E row b with
    | some (.int x), some (.int y) => some (decide (x > y))
    | _, _ => none
  | _ => none

end

/-- The rows that meet the condition; the statement fails if it cannot be evaluated for one. -/
def filterRows {ρ : Type} (E : Engine) (column : ρ → List Char → Option Value)
    (condition : Expr Value) : List ρ → Option (List ρ)
  | [] => some []
  | r :: rows => match truth E (column r) condition, filterRows E column condition rows with
    | some met, some rest => some (if met then r :: rest else rest)
    | _, _ => none

theorem lexRun_append {pending next last : Pending} {cs ds : List Char} {tokens tokens' : List Token}
    (h : lexRun pending cs = some (tokens, next)) (h' : lexRun next ds = some (tokens', last)) :
    lexRun pending (cs ++ ds) = some (tokens ++ tokens', last) := by
  induction cs generalizing pending tokens with
  | nil =>
    cases h
    exact h'
  | cons c cs ih =>
    rw [lexRun] at h
    rw [List.cons_append, lexRun]
    cases hstep : lexStep pending c with
    | none => simp [hstep] at h
    | some r =>
      obtain ⟨first, middle⟩ := r
      simp only [hstep, Option.map_eq_some_iff] at h ⊢
      obtain ⟨⟨rest, p⟩, hrun, heq⟩ := h
      cases heq
      exact ⟨_, ih hrun, by rw [List.append_assoc]⟩

theorem lex_of_lexRun {text : List Char} {tokens : List Token}
    (h : lexRun .nothing text = some (tokens, .nothing)) : lex text = some tokens := by
  rw [lex, h]
  exact congrArg some (List.append_nil tokens)

theorem isWordChar_of_isDigit {c : Char} (h : c.isDigit = true) : isWordChar c = true := by
  simp [isWordChar, Char.isAlphanum, h]

theorem lexRun_digits {before digits : List Char} (h : ∀ c ∈ digits, c.isDigit = true) :
    lexRun (.parameter before) digits = some ([], .parameter (before ++ digits)) := by
  induction digits generalizing before with
  | nil => simp [lexRun]
  | cons c digits ih =>
    have hc := isWordChar_of_isDigit (h c List.mem_cons_self)
    have hstep : lexStep (.parameter before) c = some ([], .parameter (before ++ [c])) := by
      simp [lexStep, hc]
    rw [lexRun, hstep]
    dsimp only
    rw [ih fun d hd => h d (List.mem_cons_of_mem c hd)]
    simp

theorem tokens_number (n : Nat) :
    (Pending.parameter (toString n).toList).tokens = some [.parameter n] := by
  rw [Nat.toString_eq_repr, Nat.toList_repr]
  have hdigits : ∀ c ∈ Nat.toDigits 10 n, c.isDigit = true :=
    fun c hc => Nat.isDigit_of_mem_toDigits (by decide) (by decide) hc
  have hne : Nat.toDigits 10 n ≠ [] := Nat.toDigits_ne_nil
  rw [Pending.tokens, if_pos ⟨hne, List.all_eq_true.mpr hdigits⟩, Nat.ofDigitChars_ten_toDigits]

def EndsWord (cs : List Char) : Prop :=
  ∃ c rest, cs = c :: rest ∧ isWordChar c = false ∧ (c.isWhitespace || isSymbol c) = true

theorem lexRun_endsWord {pending next : Pending} {cs : List Char} {tokens tokens' : List Token}
    (hpending : pending.tokens = some tokens) (hcs : EndsWord cs)
    (h : lexRun .nothing cs = some (tokens', next)) :
    lexRun pending cs = some (tokens ++ tokens', next) := by
  obtain ⟨c, rest, rfl, hword, hend⟩ := hcs
  have hnothing : Pending.nothing.tokens = some [] := rfl
  simp only [lexRun, lexStep, hword, Bool.false_eq_true, if_false, hpending, hnothing] at h ⊢
  rw [Bool.or_eq_true] at hend
  by_cases hspace : c.isWhitespace = true
  · simp only [hspace, if_true, Option.map_eq_some_iff] at h ⊢
    obtain ⟨⟨after, p⟩, hrun, heq⟩ := h
    cases heq
    exact ⟨_, hrun, by simp⟩
  · have hsymbol := hend.resolve_left hspace
    simp only [hspace, hsymbol, Bool.false_eq_true, if_false, if_true, Option.map_eq_some_iff] at h ⊢
    obtain ⟨⟨after, p⟩, hrun, heq⟩ := h
    cases heq
    exact ⟨_, hrun, by simp⟩

theorem lexRun_number {before after : List Char} {tokens tokens' : List Token} {next : Pending}
    (n : Nat) (hbefore : lexRun .nothing before = some (tokens, .parameter []))
    (hends : EndsWord after) (hafter : lexRun .nothing after = some (tokens', next)) :
    lexRun .nothing (before ++ ((toString n).toList ++ after)) =
      some (tokens ++ .parameter n :: tokens', next) := by
  have hdigits : ∀ c ∈ (toString n).toList, c.isDigit = true := by
    intro c hc
    rw [Nat.toString_eq_repr, Nat.toList_repr] at hc
    exact Nat.isDigit_of_mem_toDigits (by decide) (by decide) hc
  have hnumber := lexRun_append (@lexRun_digits [] _ hdigits)
    (lexRun_endsWord (tokens_number n) hends hafter)
  exact lexRun_append hbefore hnumber

/-- Wherever an operand may stand, the tokens are read as this one; there are `k` placeholders
before them and `k'` behind them. -/
def Reads (tokens : List Token) (k : Nat) (e : Expr Nat) (k' : Nat) : Prop :=
  ∀ r : Reader, r.complete = false → r.placeholders = k → r.run tokens = some (r.operand e k')

/-- A disjunction has been read, up to its last `OR`, since the latest open parenthesis. -/
structure Disjoined (r : Reader) (operators : List (Option Op)) (operands : List (Expr Nat))
    (e : Expr Nat) : Prop where
  complete : r.complete = true
  reduced : ∀ level ≤ 1, reduce level r.operators r.operands = (none :: operators, e :: operands)

theorem run_append (r : Reader) (tokens tokens' : List Token) :
    r.run (tokens ++ tokens') = (r.run tokens).bind fun r' => r'.run tokens' :=
  List.foldlM_append

theorem run_cons (r : Reader) (t : Token) (tokens : List Token) :
    r.run (t :: tokens) = (r.step t).bind fun r' => r'.run tokens :=
  List.foldlM_cons

section
variable {tokens : Nat → List Token} {k : Nat → Nat} {e : Nat → Expr Nat}

theorem Disjoined.or {r : Reader} {operators : List (Option Op)} {operands : List (Expr Nat)}
    {d e : Expr Nat} {tokens : List Token} {k k' : Nat} (h : Disjoined r operators operands d)
    (hk : r.placeholders = k) (hreads : Reads tokens k e k') :
    ∃ r', r.run (.word ['O', 'R'] :: tokens) = some r' ∧
      Disjoined r' operators operands (.binary .or d e) ∧ r'.placeholders = k' := by
  have hor : r.step (.word ['O', 'R']) = some (r.operator .or) := by
    rw [Reader.step, if_pos h.complete]
    rfl
  have hreduced := h.reduced 1 (Nat.le_refl 1)
  refine ⟨(r.operator .or).operand e k', ?_, ⟨rfl, fun level hlevel => ?_⟩, rfl⟩
  · rw [run_cons, hor]
    exact hreads (r.operator .or) rfl hk
  · simp only [Reader.operand, Reader.operator, Op.level, hreduced, reduce, hlevel, if_true]

theorem Disjoined.run {operators : List (Option Op)} {operands : List (Expr Nat)}
    (hreads : ∀ i, Reads (tokens i) (k i) (e i) (k (i + 1))) (n i : Nat) {r : Reader} {d : Expr Nat}
    (h : Disjoined r operators operands d) (hk : r.placeholders = k i) :
    ∃ r', r.run ((List.range' i n).flatMap fun j => .word ['O', 'R'] :: tokens j) = some r' ∧
      Disjoined r' operators operands (((List.range' i n).map e).foldl (.binary .or) d) ∧
      r'.placeholders = k (i + n) := by
  induction n generalizing i r d with
  | zero => exact ⟨r, rfl, h, hk⟩
  | succ n ih =>
    obtain ⟨r₁, hrun, hdisjoined, hplaceholders⟩ := h.or hk (hreads i)
    obtain ⟨r₂, hrest, hresult, hlast⟩ := ih (i + 1) hdisjoined hplaceholders
    refine ⟨r₂, ?_, hresult, by rw [hlast]; congr 1; omega⟩
    rw [List.range'_succ, List.flatMap_cons, run_append, hrun]
    exact hrest

theorem reads_disjunction (hreads : ∀ i, Reads (tokens i) (k i) (e i) (k (i + 1))) (n : Nat) :
    Reads (.symbol '(' :: (tokens 0 ++ ((List.range' 1 n).flatMap
        (fun j => .word ['O', 'R'] :: tokens j) ++ [.symbol ')'])))
      (k 0) (((List.range' 1 n).map e).foldl (.binary .or) (e 0)) (k (n + 1)) := by
  intro r hcomplete hk
  have hopen : r.step (.symbol '(') = some { r with operators := none :: r.operators } := by
    rw [Reader.step, if_neg (by simp [hcomplete])]
    rfl
  have hfirst : Disjoined (Reader.operand { r with operators := none :: r.operators } (e 0) (k 1))
      r.operators r.operands (e 0) := ⟨rfl, fun level _ => rfl⟩
  obtain ⟨r', hrun, hresult, hlast⟩ := hfirst.run hreads n 1 rfl
  have hclose : r'.step (.symbol ')') = some (r.operand
      (((List.range' 1 n).map e).foldl (.binary .or) (e 0)) (k (n + 1))) := by
    rw [Reader.step, if_pos hresult.complete]
    have hop : Token.op? (.symbol ')') = none := rfl
    simp only [hop, if_true, Reader.close, hresult.reduced 0 (Nat.zero_le 1), Reader.operand,
      Option.some.injEq, Reader.mk.injEq, hresult.complete, true_and]
    rw [hlast, Nat.add_comm]
  have htokens := hreads 0 { r with operators := none :: r.operators } hcomplete hk
  rw [run_cons, hopen, Option.bind_some, run_append, htokens, Option.bind_some, run_append, hrun,
    Option.bind_some, run_cons, hclose]
  rfl

end

theorem bind_disjunction {values : List Value} {es : List (Expr Nat)} {es' : List (Expr Value)}
    {d : Expr Nat} {d' : Expr Value} (hd : d.bind values = some d')
    (hes : es.map (Expr.bind values) = es'.map some) :
    (es.foldl (.binary .or) d).bind values = some (es'.foldl (.binary .or) d') := by
  induction es generalizing es' d d' with
  | nil =>
    obtain rfl : es' = [] := by simpa using hes.symm
    exact hd
  | cons e es ih =>
    cases es' with
    | nil => cases hes
    | cons e' es' =>
      rw [List.map_cons, List.map_cons, List.cons.injEq] at hes
      have hor : (Expr.binary .or d e).bind values = some (.binary .or d' e') := by
        simp only [Expr.bind, hd, hes.1]
      rw [List.foldl_cons, List.foldl_cons]
      exact ih hor hes.2

theorem truth_disjunction {α : Type} {E : Engine} {row : List Char → Option Value}
    {f : α → Expr Value} {p : α → Bool} {d : Expr Value} {b : Bool} (xs : List α)
    (hd : truth E row d = some b) (hf : ∀ x, truth E row (f x) = some (p x)) :
    truth E row ((xs.map f).foldl (.binary .or) d) = some (b || xs.any p) := by
  induction xs generalizing d b with
  | nil => simpa using hd
  | cons x xs ih =>
    have hor : truth E row (.binary .or d (f x)) = some (b || p x) := by
      cases b <;> simp [truth, hd, hf]
    rw [List.map_cons, List.foldl_cons, ih hor, List.any_cons, Bool.or_assoc]

section
variable {ρ : Type} {E : Engine} {column : ρ → List Char → Option Value} {condition : Expr Value}

theorem filterRows_eq_filter {p : ρ → Bool} {rows : List ρ}
    (h : ∀ r ∈ rows, truth E (column r) condition = some (p r)) :
    filterRows E column condition rows = some (rows.filter p) := by
  induction rows with
  | nil => rfl
  | cons r rows ih =>
    rw [filterRows, h r List.mem_cons_self, ih fun x hx => h x (List.mem_cons_of_mem r hx),
      List.filter_cons]

theorem filterRows_eq_none {rows : List ρ} {r : ρ} (hr : r ∈ rows)
    (h : truth E (column r) condition = none) : filterRows E column condition rows = none := by
  induction rows with
  | nil => cases hr
  | cons x rows ih =>
    rw [filterRows]
    rcases List.mem_cons.mp hr with rfl | hr
    · rw [h]
    · rw [ih hr]
      cases truth E (column x) condition <;> rfl

theorem mem_filterRows_iff {rows : List ρ} {r : ρ} :
    (∃ found, filterRows E column condition rows = some found ∧ r ∈ found) ↔
      (∀ x ∈ rows, (truth E (column x) condition).isSome) ∧
        r ∈ rows ∧ truth E (column r) condition = some true := by
  by_cases hall : ∀ x ∈ rows, (truth E (column x) condition).isSome
  · have hmet : ∀ x ∈ rows, truth E (column x) condition =
        some ((truth E (column x) condition).getD false) := by
      intro x hx
      obtain ⟨v, hv⟩ := Option.isSome_iff_exists.mp (hall x hx)
      rw [hv]
      rfl
    rw [filterRows_eq_filter hmet, and_iff_right hall]
    simp only [Option.some_inj, exists_eq_left', List.mem_filter]
    refine and_congr_right fun hr => ?_
    rw [hmet r hr]
    simp
  · simp only [hall, false_and, iff_false]
    rintro ⟨found, hfound, _⟩
    refine hall fun x hx => Option.isSome_iff_ne_none.mpr fun hnone => ?_
    rw [filterRows_eq_none hx hnone] at hfound
    cases hfound

end

end SqlText
