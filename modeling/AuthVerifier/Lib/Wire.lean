import AuthVerifier.Lib.Pointwise
import Mathlib.Algebra.Group.Int.Defs
import Mathlib.Algebra.Group.Nat.Defs
import Mathlib.Data.List.Nodup

/-!
Records exchanged as JSON documents. A codec writes a value as a document and reads it back. The
members of an object that hold a record are read by their names, so that neither their order nor
the members under other names matter.
-/

set_option autoImplicit false

namespace Wire

inductive Document where
  | null
  | bool (b : Bool)
  | integer (n : Int)
  | decimal (digits : String)
  | text (s : String)
  | list (items : List Document)
  | object (members : List (String × Document))

abbrev Entries := List (String × Document)

/-- `Fits` are the values that come back as they were written. Nothing else is ever read. -/
structure Codec (α : Type) where
  write : α → Document
  read : Document → Option α
  Fits : α → Prop
  read_write : ∀ a, Fits a → read (write a) = some a
  fits_of_read : ∀ d a, read d = some a → Fits a

namespace Codec
variable {α β : Type}

def text : Codec String where
  write := .text
  read
    | .text s => some s
    | _ => none
  Fits := fun _ => True
  read_write := fun _ _ => rfl
  fits_of_read := fun _ _ _ => trivial

def bool : Codec Bool where
  write := .bool
  read
    | .bool b => some b
    | _ => none
  Fits := fun _ => True
  read_write := fun _ _ => rfl
  fits_of_read := fun _ _ _ => trivial

def integerIn (lo hi : Int) : Codec Int where
  write := .integer
  read
    | .integer n => if lo ≤ n ∧ n ≤ hi then some n else none
    | _ => none
  Fits := fun n => lo ≤ n ∧ n ≤ hi
  read_write := fun n h => if_pos h
  fits_of_read := by
    intro d a h
    split at h
    · split at h
      · cases h
        assumption
      · cases h
    · cases h

def list (c : Codec α) : Codec (List α) where
  write l := .list (l.map c.write)
  read
    | .list ds => ds.mapM c.read
    | _ => none
  Fits l := ∀ a ∈ l, c.Fits a
  read_write := by
    intro l h
    refine Pointwise.mapM_some_iff.mpr (List.forall₂_map_left_iff.mpr ?_)
    exact List.forall₂_same.mpr (fun a ha => c.read_write a (h a ha))
  fits_of_read := by
    intro d l h a ha
    split at h
    · obtain ⟨d, -, hd⟩ := Pointwise.exists_of_mem_right (Pointwise.mapM_some_iff.mp h) ha
      exact c.fits_of_read d a hd
    · cases h

def option (c : Codec α) (hnull : c.read .null = none) : Codec (Option α) where
  write
    | none => .null
    | some a => c.write a
  read
    | .null => some none
    | d => (c.read d).map some
  Fits o := ∀ a ∈ o, c.Fits a
  read_write := by
    intro o h
    cases o with
    | none => rfl
    | some a =>
      have ha := c.read_write a (h a rfl)
      show (match c.write a with
        | .null => some none
        | d => (c.read d).map some) = some (some a)
      split
      · rename_i he
        rw [he, hnull] at ha
        cases ha
      · rw [ha, Option.map_some]
  fits_of_read := by
    intro d o h
    split at h
    · cases h
      simp
    · obtain ⟨a, ha, rfl⟩ := Option.map_eq_some_iff.mp h
      intro b hb
      cases hb
      exact c.fits_of_read _ a ha

theorem text_read_null : text.read .null = none := rfl

theorem list_read_eq_some {c : Codec α} {d : Document} {l : List α} :
    c.list.read d = some l ↔
      ∃ ds, d = .list ds ∧ List.Forall₂ (fun d a => c.read d = some a) ds l := by
  constructor
  · intro h
    simp only [list] at h
    split at h
    · exact ⟨_, rfl, Pointwise.mapM_some_iff.mp h⟩
    · cases h
  · rintro ⟨ds, rfl, h⟩
    exact Pointwise.mapM_some_iff.mpr h

theorem option_read_eq_some {c : Codec α} {hnull : c.read .null = none} {d : Document} {a : α} :
    (c.option hnull).read d = some (some a) ↔ c.read d = some a := by
  simp only [option]
  split
  · simp [hnull]
  · simp

def as (c : Codec α) (view : β → α) (build : α → β) (hb : ∀ b, c.Fits (view b) → build (view b) = b)
    (hv : ∀ a, c.Fits a → view (build a) = a) : Codec β where
  write b := c.write (view b)
  read d := (c.read d).map build
  Fits b := c.Fits (view b)
  read_write := fun b h => by rw [c.read_write _ h, Option.map_some, hb b h]
  fits_of_read := by
    intro d b h
    obtain ⟨a, ha, rfl⟩ := Option.map_eq_some_iff.mp h
    have hfits := c.fits_of_read d a ha
    rwa [hv a hfits]

def naturalTo (hi : Nat) : Codec Nat :=
  (integerIn 0 hi).as (fun n => (n : Int)) Int.toNat (fun _ _ => rfl)
    (fun _ h => Int.toNat_of_nonneg h.1)

def int64 : Codec Int := .integerIn (-2 ^ 63) (2 ^ 63 - 1)

def uint64 : Codec Nat := .naturalTo (2 ^ 64 - 1)

theorem int64_read_null : int64.read .null = none := rfl

theorem int64_fits {n : Int} : int64.Fits n ↔ -2 ^ 63 ≤ n ∧ n ≤ 2 ^ 63 - 1 := Iff.rfl

theorem uint64_fits {n : Nat} : uint64.Fits n ↔ n ≤ 2 ^ 64 - 1 :=
  ⟨fun h => Int.ofNat_le.mp h.2, fun h => ⟨Int.natCast_nonneg n, Int.ofNat_le.mpr h⟩⟩

end Codec

section
variable {α : Type}

def under (name : String) (l : List (String × α)) : List α :=
  (l.filter (fun m => m.1 == name)).map Prod.snd

theorem under_append (name : String) (l l' : List (String × α)) :
    under name (l ++ l') = under name l ++ under name l' := by
  rw [under, List.filter_append, List.map_append]
  rfl

theorem under_eq_nil {name : String} {l : List (String × α)} (h : name ∉ l.map Prod.fst) :
    under name l = [] := by
  rw [under, List.filter_eq_nil_iff.mpr, List.map_nil]
  intro m hm he
  exact h (beq_iff_eq.mp he ▸ List.mem_map_of_mem hm)

/-- Sets a value in its place, or at the end where there is none of its name. -/
def put (l : List (String × α)) (e : String × α) : List (String × α) :=
  if l.any (fun m => m.1 == e.1) then l.map (fun m => if m.1 == e.1 then e else m) else l ++ [e]

theorem under_put_of_ne {name : String} {e : String × α} (h : name ≠ e.1)
    (l : List (String × α)) : under name (put l e) = under name l := by
  have hne : (e.1 == name) = false := beq_eq_false_iff_ne.mpr (Ne.symm h)
  unfold put
  split
  · clear * - hne
    induction l with
    | nil => rfl
    | cons m l ih =>
      simp only [under, List.map_cons, List.filter_cons] at ih ⊢
      by_cases hm : (m.1 == e.1) = true
      · have hold : (m.1 == name) = false := by rwa [beq_iff_eq.mp hm]
        simpa only [if_pos hm, hne, hold, Bool.false_eq_true, if_false] using ih
      · simp only [if_neg hm]
        split
        · simp only [List.map_cons, ih]
        · exact ih
  · have hnone : under name [e] = [] := under_eq_nil (by simpa using h)
    rw [under_append, hnone, List.append_nil]

theorem put_of_new {l : List (String × α)} {e : String × α} (h : e.1 ∉ l.map Prod.fst) :
    put l e = l ++ [e] := by
  refine if_neg ?_
  simp only [List.any_eq_true, beq_iff_eq, not_exists, not_and]
  exact fun x hx hk => h (hk ▸ List.mem_map_of_mem hx)

theorem nodup_put {l : List (String × α)} (e : String × α) (h : (l.map Prod.fst).Nodup) :
    ((put l e).map Prod.fst).Nodup := by
  unfold put
  split
  · have hkeys : (l.map (fun m => if m.1 == e.1 then e else m)).map Prod.fst = l.map Prod.fst := by
      rw [List.map_map]
      refine List.map_congr_left (fun m _ => ?_)
      simp only [Function.comp_apply]
      split
      · exact (beq_iff_eq.mp ‹_›).symm
      · rfl
    rwa [hkeys]
  · rename_i hnew
    rw [List.map_append, List.nodup_append]
    refine ⟨h, by simp, ?_⟩
    rintro k hk k' hk' rfl
    obtain ⟨x, hx, rfl⟩ := List.mem_map.mp hk
    refine hnew (List.any_eq_true.mpr ⟨x, hx, ?_⟩)
    simpa using hk'

def fromEntries (l : List (String × α)) : List (String × α) := l.foldl put []

theorem nodup_foldl_put {l l' : List (String × α)} (h : (l.map Prod.fst).Nodup) :
    ((l'.foldl put l).map Prod.fst).Nodup := by
  induction l' generalizing l with
  | nil => exact h
  | cons e l' ih => exact ih (nodup_put e h)

theorem foldl_put_of_nodup {l l' : List (String × α)} (h : ((l ++ l').map Prod.fst).Nodup) :
    l'.foldl put l = l ++ l' := by
  induction l' generalizing l with
  | nil => simp
  | cons e l' ih =>
    have hnew : e.1 ∉ l.map Prod.fst := by
      intro hmem
      rw [List.map_append, List.nodup_append] at h
      exact h.2.2 _ hmem _ (by simp) rfl
    rw [List.foldl_cons, put_of_new hnew, ih (by simpa using h), List.append_assoc]
    rfl

theorem fromEntries_of_nodup {l : List (String × α)} (h : (l.map Prod.fst).Nodup) :
    fromEntries l = l :=
  foldl_put_of_nodup (by simpa using h)

end

def readEntry (m : String × Document) : Option (String × String) :=
  (Codec.text.read m.2).map (m.1, ·)

def Codec.textMap : Codec (List (String × String)) where
  write l := .object (l.map (fun e => (e.1, .text e.2)))
  read
    | .object ms => (ms.mapM readEntry).map fromEntries
    | _ => none
  Fits l := (l.map Prod.fst).Nodup
  read_write := by
    intro l h
    have hread : (l.map (fun e => (e.1, Document.text e.2))).mapM readEntry = some l :=
      Pointwise.mapM_some_iff.mpr
        (List.forall₂_map_left_iff.mpr (List.forall₂_same.mpr (fun _ _ => rfl)))
    simp only [hread, Option.map_some, fromEntries_of_nodup h]
  fits_of_read := by
    intro d l h
    split at h
    · obtain ⟨entries, -, rfl⟩ := Option.map_eq_some_iff.mp h
      exact nodup_foldl_put List.nodup_nil
    · cases h

/-- The members that hold a value: their names, how they are written, and how they are read. -/
structure Fields (α : Type) where
  names : List String
  write : α → Entries
  read : Entries → Option α
  Fits : α → Prop
  named : ∀ a, ∀ name ∈ (write a).map Prod.fst, name ∈ names
  read_congr : ∀ ms ms', (∀ name ∈ names, under name ms = under name ms') → read ms = read ms'
  read_write : ∀ a, Fits a → read (write a) = some a
  fits_of_read : ∀ ms a, read ms = some a → Fits a

namespace Fields
variable {α β : Type}

/-- One member. `absent` stands for it where it is missing; what `omitted` picks is not written. -/
def member (name : String) (c : Codec α) (absent : Option α) (omitted : α → Bool)
    (habsent : ∀ a ∈ absent, c.Fits a) (homitted : ∀ a, omitted a = true → absent = some a) :
    Fields α where
  names := [name]
  write a := if omitted a then [] else [(name, c.write a)]
  read ms := match under name ms with
    | [] => absent
    | [d] => c.read d
    | _ => none
  Fits := c.Fits
  named := by
    intro a n hn
    split at hn
    · simp at hn
    · simpa using hn
  read_congr := by
    intro ms ms' h
    rw [h name (by simp)]
  read_write := by
    intro a ha
    cases ho : omitted a with
    | true => simpa [under] using homitted a ho
    | false => simpa [under] using c.read_write a ha
  fits_of_read := by
    intro ms a h
    split at h
    · exact habsent a h
    · exact c.fits_of_read _ a h
    · cases h

def required (name : String) (c : Codec α) : Fields α :=
  member name c none (fun _ => false) (by simp) (by simp)

def nullable (name : String) (c : Codec α) (hnull : c.read .null = none) : Fields (Option α) :=
  member name (c.option hnull) (some none) (fun _ => false) (by simp [Codec.option]) (by simp)

def omittable (name : String) (c : Codec α) (hnull : c.read .null = none) : Fields (Option α) :=
  member name (c.option hnull) (some none) Option.isNone (by simp [Codec.option]) (by simp)

def defaulted (name : String) (c : Codec α) (a : α) (ha : c.Fits a) : Fields α :=
  member name c (some a) (fun _ => false) (by simpa) (by simp)

/-- The members of one value followed by those of another, under other names. -/
def pair (f : Fields α) (g : Fields β) (h : f.names.any g.names.contains = false := by decide) :
    Fields (α × β) where
  names := f.names ++ g.names
  write x := f.write x.1 ++ g.write x.2
  read ms := do
    let a ← f.read ms
    let b ← g.read ms
    return (a, b)
  Fits x := f.Fits x.1 ∧ g.Fits x.2
  named := by
    intro x name hname
    rw [List.map_append, List.mem_append] at hname
    exact List.mem_append.mpr (hname.imp (f.named x.1 name) (g.named x.2 name))
  read_congr := by
    intro ms ms' hms
    rw [f.read_congr ms ms' (fun name hname => hms name (List.mem_append_left _ hname)),
      g.read_congr ms ms' (fun name hname => hms name (List.mem_append_right _ hname))]
  read_write := by
    rintro ⟨a, b⟩ ⟨ha, hb⟩
    have hnot : ∀ name ∈ f.names, name ∉ g.names := by simpa using h
    have hf : f.read (f.write a ++ g.write b) = some a := by
      rw [← f.read_write a ha]
      refine f.read_congr _ _ (fun name hname => ?_)
      rw [under_append, under_eq_nil (fun hmem => hnot name hname (g.named b name hmem)),
        List.append_nil]
    have hg : g.read (f.write a ++ g.write b) = some b := by
      rw [← g.read_write b hb]
      refine g.read_congr _ _ (fun name hname => ?_)
      rw [under_append, under_eq_nil (fun hmem => hnot name (f.named a name hmem) hname),
        List.nil_append]
    simp only [hf, hg]
    rfl
  fits_of_read := by
    rintro ms ⟨a, b⟩ h
    simp only [Option.bind_eq_bind, Option.bind_eq_some_iff] at h
    obtain ⟨a', ha, b', hb, he⟩ := h
    cases he
    exact ⟨f.fits_of_read ms a ha, g.fits_of_read ms b hb⟩

def as (f : Fields α) (view : β → α) (build : α → β)
    (hb : ∀ b, build (view b) = b := by intros; rfl)
    (hv : ∀ a, view (build a) = a := by intros; rfl) : Fields β where
  names := f.names
  write b := f.write (view b)
  read ms := (f.read ms).map build
  Fits b := f.Fits (view b)
  named := fun b => f.named (view b)
  read_congr := fun ms ms' h => by rw [f.read_congr ms ms' h]
  read_write := fun b h => by rw [f.read_write _ h, Option.map_some, hb b]
  fits_of_read := by
    intro ms b h
    obtain ⟨a, ha, rfl⟩ := Option.map_eq_some_iff.mp h
    rw [hv a]
    exact f.fits_of_read ms a ha

def codec (f : Fields α) : Codec α where
  write a := .object (f.write a)
  read
    | .object ms => f.read ms
    | _ => none
  Fits := f.Fits
  read_write := f.read_write
  fits_of_read := by
    intro d a h
    split at h
    · exact f.fits_of_read _ a h
    · cases h

theorem codec_read_null (f : Fields α) : f.codec.read .null = none := rfl

section
variable {name : String} {c : Codec α} {absent : Option α} {omitted : α → Bool}
  {habsent : ∀ a ∈ absent, c.Fits a} {homitted : ∀ a, omitted a = true → absent = some a}
  {ms : Entries}

theorem member_read {d : Document} (h : under name ms = [d]) :
    (member name c absent omitted habsent homitted).read ms = c.read d := by
  simp only [member, h]

theorem member_read_missing (h : under name ms = []) :
    (member name c absent omitted habsent homitted).read ms = absent := by
  simp only [member, h]

end

theorem nullable_read {name : String} {c : Codec α} {hnull : c.read .null = none} {ms : Entries}
    {d : Document} (h : under name ms = [d]) :
    (nullable name c hnull).read ms = (c.option hnull).read d :=
  member_read h

theorem as_read_eq_some {f : Fields α} {view : β → α} {build : α → β}
    {hb : ∀ b, build (view b) = b} {hv : ∀ a, view (build a) = a} {ms : Entries} {b : β} :
    (f.as view build hb hv).read ms = some b ↔ f.read ms = some (view b) := by
  simp only [as, Option.map_eq_some_iff]
  constructor
  · rintro ⟨a, ha, rfl⟩
    rw [ha, hv]
  · exact fun h => ⟨view b, h, hb b⟩

theorem codec_read_eq_some {f : Fields α} {d : Document} {a : α} :
    f.codec.read d = some a ↔ ∃ ms, d = .object ms ∧ f.read ms = some a := by
  constructor
  · intro h
    simp only [codec] at h
    split at h
    · exact ⟨_, rfl, h⟩
    · cases h
  · rintro ⟨ms, rfl, h⟩
    exact h

theorem required_read_eq_some {name : String} {c : Codec α} {ms : Entries} {a : α} :
    (required name c).read ms = some a ↔ ∃ d, under name ms = [d] ∧ c.read d = some a := by
  constructor
  · intro h
    simp only [required, member] at h
    split at h
    · cases h
    · exact ⟨_, ‹_›, h⟩
    · cases h
  · rintro ⟨d, hd, ha⟩
    simp only [required, member, hd, ha]

theorem pair_read_eq_some {f : Fields α} {g : Fields β}
    {h : f.names.any g.names.contains = false} {ms : Entries} {x : α × β} :
    (f.pair g h).read ms = some x ↔ f.read ms = some x.1 ∧ g.read ms = some x.2 := by
  obtain ⟨a, b⟩ := x
  simp [pair, Option.bind_eq_some_iff]

end Fields
end Wire
