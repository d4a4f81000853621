import AuthVerifier.Lib.Base64
import AuthVerifier.Lib.IpText
import AuthVerifier.Lib.Text
import Mathlib.Algebra.GroupWithZero.Nat

/-!
PHC strings, `$id[$v=version][$name=value,..][$salt[$output]]`, and the cost parameters of Argon2 that
are read from one: a parameter that is left out has its default, and of one that is repeated the
last value counts.
-/

set_option autoImplicit false

namespace Phc

structure Record where
  ident : List Char
  version : Option Nat
  params : List (List Char × List Char)
  salt : Option (List Char)
  output : Option (List Char)
  deriving DecidableEq

def isIdentChar (c : Char) : Bool := c.isLower || c.isDigit || c == '-'

def isIdent (cs : List Char) : Bool := !cs.isEmpty && decide (cs.length ≤ 32) && cs.all isIdentChar

def isValueChar (c : Char) : Bool := c.isAlphanum || c == '/' || c == '+' || c == '.' || c == '-'

def isValue (cs : List Char) : Bool := decide (cs.length ≤ 64) && cs.all isValueChar

def isSalt (cs : List Char) : Bool := isValue cs && decide (4 ≤ cs.length)

def unpadded (cs : List Char) : Option (List UInt8) :=
  if '=' ∈ cs then none
  else Base64.decode (cs ++ List.replicate ((4 - cs.length % 4) % 4) '=')

def isBytes (least most : Nat) (cs : List Char) : Bool :=
  (unpadded cs).any fun bytes => decide (least ≤ bytes.length ∧ bytes.length ≤ most)

def isOutput (cs : List Char) : Bool := isBytes 10 64 cs

def readDecimal (cs : List Char) : Option Nat :=
  if cs ≠ [] ∧ cs.all (Ip.isDigit 10) = true ∧ (cs.head? = some '0' → cs.length = 1) ∧
      Ip.number 10 cs < 2 ^ 32 then some (Ip.number 10 cs)
  else none

def readParam (field : List Char) : Option (List Char × List Char) :=
  match Text.splitOnce '=' field with
  | some (name, value) => if isIdent name && isValue value then some (name, value) else none
  | none => none

def readParams (field : List Char) : Option (List (List Char × List Char)) :=
  if field.length ≤ 127 then (Text.splitAll ',' field).mapM readParam else none

def readVersion : List (List Char) → Option (Option Nat × List (List Char))
  | [] => some (none, [])
  | field :: fields =>
    if "v=".toList.isPrefixOf field && !field.contains ',' then
      (readDecimal (field.drop 2)).map fun version => (some version, fields)
    else some (none, field :: fields)

def readParameters : List (List Char) → Option (List (List Char × List Char) × List (List Char))
  | [] => some ([], [])
  | field :: fields =>
    if field.contains '=' then (readParams field).map fun params => (params, fields)
    else some ([], field :: fields)

def readOptional (valid : List Char → Bool) :
    List (List Char) → Option (Option (List Char) × List (List Char))
  | [] => some (none, [])
  | field :: fields => if valid field then some (some field, fields) else none

def readFields (ident : List Char) (fields : List (List Char)) : Option Record := do
  let (version, fields) ← readVersion fields
  let (params, fields) ← readParameters fields
  let (salt, fields) ← readOptional isSalt fields
  let (output, fields) ← readOptional isOutput fields
  if fields = [] then some ⟨ident, version, params, salt, output⟩ else none

def parse (cs : List Char) : Option Record :=
  match Text.splitAll '$' cs with
  | [] :: ident :: fields => if isIdent ident then readFields ident fields else none
  | _ => none

inductive Cost where
  | m | t | p
  deriving DecidableEq

def Cost.name : Cost → List Char
  | .m => ['m']
  | .t => ['t']
  | .p => ['p']

def Cost.ofName? (name : List Char) : Option Cost := [Cost.m, .t, .p].find? fun k => k.name == name

abbrev Costs := Cost → Nat

def defaults : Costs
  | .m => 4096
  | .t => 3
  | .p => 1

/-- Which values may be set, one by one, and which may stand together in the end. -/
structure Limits where
  value : Cost → Nat → Bool
  whole : Costs → Bool

def isExtra (param : List Char × List Char) : Bool :=
  (param.1 == "keyid".toList && isBytes 0 8 param.2) ||
    (param.1 == "data".toList && isBytes 0 32 param.2)

section
variable (limits : Limits)

def setParam (costs : Costs) (param : List Char × List Char) : Option Costs :=
  match Cost.ofName? param.1 with
  | some k => ((readDecimal param.2).filter (limits.value k)).map (Function.update costs k)
  | none => if isExtra param then some costs else none

def costs (h : Record) : Option Costs :=
  (h.params.foldlM (setParam limits) defaults).filter limits.whole

end

theorem Cost.ofName?_eq_some_iff {name : List Char} {k : Cost} :
    Cost.ofName? name = some k ↔ name = k.name := by
  constructor
  · intro h
    have hname := List.find?_some h
    exact (beq_iff_eq.mp hname).symm
  · rintro rfl
    cases k <;> rfl

/-- A cost with a number that may be set, or one of the other parameters. -/
def isParam (limits : Limits) (param : List Char × List Char) : Bool :=
  match Cost.ofName? param.1 with
  | some k => (readDecimal param.2).any (limits.value k)
  | none => isExtra param

def given (k : Cost) : List (List Char × List Char) → Option (List Char)
  | [] => none
  | param :: params => (given k params).or (if param.1 = k.name then some param.2 else none)

/-- The cost is the last one the parameters give, and otherwise as it was. -/
def Gives (params : List (List Char × List Char)) (start result : Costs) (k : Cost) : Prop :=
  (given k params).elim (result k = start k) fun value => readDecimal value = some (result k)

section
variable {limits : Limits}

theorem setParam_eq_some {costs next : Costs} {param : List Char × List Char}
    (h : setParam limits costs param = some next) (k : Cost) :
    if param.1 = k.name then readDecimal param.2 = some (next k) else next k = costs k := by
  unfold setParam at h
  cases hname : Cost.ofName? param.1 with
  | none =>
    have hother : param.1 ≠ k.name := fun he => by
      rw [Cost.ofName?_eq_some_iff.mpr he] at hname
      cases hname
    simp only [hname] at h
    split at h
    · cases h
      rw [if_neg hother]
    · cases h
  | some k' =>
    simp only [hname] at h
    obtain ⟨n, hn, rfl⟩ := Option.map_eq_some_iff.mp h
    have hname' := Cost.ofName?_eq_some_iff.mp hname
    by_cases hk : k = k'
    · rw [if_pos (hk ▸ hname'), (Option.filter_eq_some_iff.mp hn).1, hk, Function.update_self]
    · have hother : param.1 ≠ k.name := fun he => by
        rw [Cost.ofName?_eq_some_iff.mpr he] at hname
        exact hk (Option.some.inj hname)
      rw [if_neg hother, Function.update_of_ne hk]

theorem isSome_setParam (costs : Costs) (param : List Char × List Char) :
    (setParam limits costs param).isSome = isParam limits param := by
  unfold setParam isParam
  cases Cost.ofName? param.1 with
  | none => by_cases h : isExtra param = true <;> simp [h]
  | some k => cases hvalue : readDecimal param.2 <;> simp [Option.filter, apply_ite Option.isSome]

theorem gives_of_foldlM {params : List (List Char × List Char)} {start result : Costs}
    (h : params.foldlM (setParam limits) start = some result) :
    (∀ param ∈ params, isParam limits param = true) ∧ ∀ k, Gives params start result k := by
  induction params generalizing start with
  | nil =>
    cases h
    exact ⟨fun _ hp => absurd hp List.not_mem_nil, fun _ => rfl⟩
  | cons param params ih =>
    rw [List.foldlM_cons] at h
    obtain ⟨next, hset, hrest⟩ := Option.bind_eq_some_iff.mp h
    obtain ⟨hgood, hgives⟩ := ih hrest
    refine ⟨List.forall_mem_cons.mpr ⟨?_, hgood⟩, fun k => ?_⟩
    · rw [← isSome_setParam start, hset]
      rfl
    · have hlater := hgives k
      have hfirst := setParam_eq_some hset k
      rw [Gives] at hlater ⊢
      rw [given]
      cases hgiven : given k params with
      | some value =>
        rw [hgiven] at hlater
        exact hlater
      | none =>
        rw [hgiven] at hlater
        dsimp only [Option.elim_none] at hlater
        rw [Option.none_or]
        split at hfirst
        · rw [if_pos ‹_›, Option.elim_some, hlater, hfirst]
        · rw [if_neg ‹_›, Option.elim_none, hlater, hfirst]

theorem exists_foldlM {params : List (List Char × List Char)}
    (h : ∀ param ∈ params, isParam limits param = true) (start : Costs) :
    ∃ result, params.foldlM (setParam limits) start = some result := by
  induction params generalizing start with
  | nil => exact ⟨start, rfl⟩
  | cons param params ih =>
    obtain ⟨hparam, hparams⟩ := List.forall_mem_cons.mp h
    rw [← isSome_setParam start] at hparam
    obtain ⟨next, hnext⟩ := Option.isSome_iff_exists.mp hparam
    obtain ⟨result, hresult⟩ := ih hparams next
    refine ⟨result, ?_⟩
    rw [List.foldlM_cons, hnext]
    exact hresult

theorem Gives.unique {params : List (List Char × List Char)} {start result result' : Costs}
    {k : Cost} (h : Gives params start result k) (h' : Gives params start result' k) :
    result k = result' k := by
  unfold Gives at h h'
  cases hgiven : given k params with
  | none =>
    rw [hgiven] at h h'
    exact h.trans h'.symm
  | some value =>
    rw [hgiven] at h h'
    exact Option.some.inj (h.symm.trans h')

theorem costs_eq_some_iff {h : Record} {result : Costs} :
    costs limits h = some result ↔ limits.whole result = true ∧
      (∀ param ∈ h.params, isParam limits param = true) ∧ ∀ k, Gives h.params defaults result k := by
  rw [costs, Option.filter_eq_some_iff, and_comm]
  refine and_congr_right fun _ => ⟨gives_of_foldlM, fun ⟨hgood, hgives⟩ => ?_⟩
  obtain ⟨result', hresult⟩ := exists_foldlM hgood defaults
  obtain ⟨-, hgives'⟩ := gives_of_foldlM hresult
  rw [hresult, funext fun k => (hgives k).unique (hgives' k)]

end

theorem not_mem_of_isSalt {salt : List Char} (h : isSalt salt = true) {c : Char}
    (hc : isValueChar c = false) : c ∉ salt := by
  intro hm
  simp only [isSalt, isValue, Bool.and_eq_true, List.all_eq_true] at h
  rw [h.1.2 c hm] at hc
  cases hc

theorem not_mem_of_isOutput {output : List Char} (h : isOutput output = true) {c : Char}
    (hc : Base64.isCode c = false) : c ∉ output := by
  intro hm
  obtain ⟨bytes, hbytes, -⟩ := (Option.any_eq_true _ _).mp h
  unfold unpadded at hbytes
  split at hbytes
  · cases hbytes
  · have hmem : c ∈ Base64.encode bytes := by
      rw [← Base64.decode_eq_some_iff.mp hbytes]
      exact List.mem_append_left _ hm
    rw [Base64.isCode_of_mem_encode hmem] at hc
    cases hc

def render (ident version params salt output : List Char) : List Char :=
  '$' :: (ident ++ '$' :: (version ++ '$' :: (params ++ '$' :: (salt ++ '$' :: output))))

theorem parse_render {ident version params salt output : List Char} {v : Nat}
    {entries : List (List Char × List Char)} (hident : isIdent ident = true)
    (hversion : ∀ fields, readVersion (version :: fields) = some (some v, fields))
    (hparams : ∀ fields, readParameters (params :: fields) = some (entries, fields))
    (hplain : '$' ∉ ident ∧ '$' ∉ version ∧ '$' ∉ params) (hsalt : isSalt salt = true)
    (houtput : isOutput output = true) :
    parse (render ident version params salt output) =
      some ⟨ident, some v, entries, some salt, some output⟩ := by
  have hfields : Text.splitAll '$' (render ident version params salt output) =
      [[], ident, version, params, salt, output] := by
    have hstart (cs : List Char) : Text.splitAll '$' ('$' :: cs) = [] :: Text.splitAll '$' cs :=
      if_pos rfl
    rw [render, hstart, Text.splitAll_append _ hplain.1, Text.splitAll_append _ hplain.2.1,
      Text.splitAll_append _ hplain.2.2, Text.splitAll_append _ (not_mem_of_isSalt hsalt (by decide)),
      Text.splitAll_of_not_mem (not_mem_of_isOutput houtput (by decide))]
  have hreads (valid : List Char → Bool) (field : List Char) (fields : List (List Char))
      (h : valid field = true) : readOptional valid (field :: fields) = some (some field, fields) :=
    if_pos h
  simp only [parse, hfields, hident, if_true, readFields, hversion, hparams, hreads _ _ _ hsalt,
    hreads _ _ _ houtput, bind, Option.bind_some]

end Phc
