import Mathlib.Data.List.Basic
import Mathlib.Data.List.Nodup

/-!
Relational tables with a primary key. The key constraint is a field of the table, so a
statement that would break it cannot be executed: `insert` asks for a proof that the key is
new, and the rows an `UPDATE` rewrites must keep their key.
-/

set_option autoImplicit false

namespace Relational

theorem find?_congr {α : Type} {p p' : α → Bool} {l : List α} (h : ∀ x ∈ l, p x = p' x) :
    l.find? p = l.find? p' := by
  induction l with
  | nil => rfl
  | cons x l ih =>
    rw [List.find?_cons, List.find?_cons, h x List.mem_cons_self,
      ih fun y hy => h y (List.mem_cons_of_mem x hy)]

structure Table (α κ : Type) (key : α → κ) where
  rows : List α
  nodup : (rows.map key).Nodup

namespace Table
variable {α κ : Type} {key : α → κ}

theorem ext_rows {t u : Table α κ key} (h : t.rows = u.rows) : t = u := by
  cases t; cases u; cases h; rfl

instance [DecidableEq α] : DecidableEq (Table α κ key) := fun t u =>
  if h : t.rows = u.rows then isTrue (ext_rows h) else isFalse (fun e => h (by rw [e]))

instance : Membership α (Table α κ key) := ⟨fun t x => x ∈ t.rows⟩

instance [DecidableEq α] (t : Table α κ key) (x : α) : Decidable (x ∈ t) :=
  inferInstanceAs (Decidable (x ∈ t.rows))

theorem mem_def {t : Table α κ key} {x : α} : x ∈ t ↔ x ∈ t.rows := Iff.rfl

def empty : Table α κ key := ⟨[], List.nodup_nil⟩

def keys (t : Table α κ key) : List κ := t.rows.map key

theorem key_mem_keys {t : Table α κ key} {x : α} (h : x ∈ t) : key x ∈ t.keys :=
  List.mem_map_of_mem h

theorem mem_keys {t : Table α κ key} {k : κ} : k ∈ t.keys ↔ ∃ x ∈ t, key x = k := List.mem_map

theorem eq_of_key {t : Table α κ key} {x y : α} (hx : x ∈ t) (hy : y ∈ t)
    (h : key x = key y) : x = y :=
  List.inj_on_of_nodup_map t.nodup hx hy h

/-- `INSERT` of one row whose key is new. -/
def insert (t : Table α κ key) (x : α) (h : key x ∉ t.keys) : Table α κ key where
  rows := t.rows ++ [x]
  nodup := by
    rw [List.map_append, List.nodup_append]
    refine ⟨t.nodup, by simp, ?_⟩
    intro a ha b hb hab
    simp only [List.map_cons, List.map_nil, List.mem_singleton] at hb
    exact h (by rw [← hb, ← hab]; exact ha)

def deleteWhere (t : Table α κ key) (p : α → Bool) : Table α κ key where
  rows := t.rows.filter (fun x => !p x)
  nodup := (List.Sublist.map key List.filter_sublist).nodup t.nodup

/-- `UPDATE ... SET f WHERE p`, for an assignment `f` that leaves the key alone. -/
def updateWhere (t : Table α κ key) (p : α → Bool) (f : α → α) (hf : ∀ x, key (f x) = key x) :
    Table α κ key where
  rows := t.rows.map (fun x => if p x then f x else x)
  nodup := by
    have h : (fun x => key (if p x then f x else x)) = key := by
      funext x
      split
      · exact hf x
      · rfl
    rw [List.map_map, Function.comp_def, h]
    exact t.nodup

def find? [DecidableEq κ] (t : Table α κ key) (k : κ) : Option α :=
  t.rows.find? (fun x => key x == k)

@[simp] theorem mem_empty {x : α} : ¬ x ∈ (empty : Table α κ key) := by
  simp [mem_def, empty]

@[simp] theorem mem_insert {t : Table α κ key} {x y : α} {h : key x ∉ t.keys} :
    y ∈ t.insert x h ↔ y ∈ t ∨ y = x := by
  simp [mem_def, insert]

@[simp] theorem mem_deleteWhere {t : Table α κ key} {p : α → Bool} {x : α} :
    x ∈ t.deleteWhere p ↔ x ∈ t ∧ p x = false := by
  simp [mem_def, deleteWhere]

@[simp] theorem mem_updateWhere {t : Table α κ key} {p : α → Bool} {f : α → α}
    {hf : ∀ x, key (f x) = key x} {x : α} :
    x ∈ t.updateWhere p f hf ↔ ∃ y ∈ t, (if p y then f y else y) = x := by
  simp [mem_def, updateWhere]

@[simp] theorem keys_updateWhere (t : Table α κ key) (p : α → Bool) (f : α → α)
    (hf : ∀ x, key (f x) = key x) : (t.updateWhere p f hf).keys = t.keys := by
  simp only [keys, updateWhere, List.map_map]
  congr 1
  funext x
  simp only [Function.comp]
  split
  · exact hf x
  · rfl

section Find
variable [DecidableEq κ]

theorem mem_keys_deleteKey {t : Table α κ key} {k k' : κ} :
    k' ∈ (t.deleteWhere (fun x => key x == k)).keys ↔ k' ∈ t.keys ∧ k' ≠ k := by
  simp only [mem_keys, mem_deleteWhere, beq_eq_false_iff_ne]
  constructor
  · rintro ⟨x, ⟨hx, hk⟩, rfl⟩
    exact ⟨⟨x, hx, rfl⟩, hk⟩
  · rintro ⟨⟨x, hx, rfl⟩, hk⟩
    exact ⟨x, ⟨hx, hk⟩, rfl⟩

theorem find?_eq_some_iff {t : Table α κ key} {k : κ} {x : α} :
    t.find? k = some x ↔ x ∈ t ∧ key x = k := by
  constructor
  · intro h
    exact ⟨List.mem_of_find?_eq_some h, by simpa using List.find?_some h⟩
  · rintro ⟨hx, rfl⟩
    cases hf : t.find? (key x) with
    | none =>
      have h := List.find?_eq_none.mp hf x hx
      simp at h
    | some y =>
      have hy : key y = key x := by simpa using List.find?_some hf
      rw [eq_of_key (List.mem_of_find?_eq_some hf) hx hy]

theorem find?_eq_none_iff {t : Table α κ key} {k : κ} :
    t.find? k = none ↔ k ∉ t.keys := by
  simp [find?, keys, List.find?_eq_none]

theorem mem_updateWhere_key {t : Table α κ key} {k : κ} {f : α → α}
    {hf : ∀ x, key (f x) = key x} {x : α} :
    x ∈ t.updateWhere (fun y => key y == k) f hf ↔
      (x ∈ t ∧ key x ≠ k) ∨ ∃ y ∈ t, key y = k ∧ f y = x := by
  rw [mem_updateWhere]
  constructor
  · rintro ⟨y, hy, he⟩
    by_cases hk : key y = k
    · rw [if_pos (by simpa using hk)] at he
      exact .inr ⟨y, hy, hk, he⟩
    · rw [if_neg (by simpa using hk)] at he
      exact .inl (he ▸ ⟨hy, hk⟩)
  · rintro (⟨hx, hk⟩ | ⟨y, hy, hk, he⟩)
    · exact ⟨x, hx, by simp [hk]⟩
    · exact ⟨y, hy, by simp [hk, he]⟩

theorem find?_congr {t u : Table α κ key} {k : κ} (h : ∀ x, key x = k → (x ∈ t ↔ x ∈ u)) :
    t.find? k = u.find? k := by
  apply Option.ext
  intro x
  rw [find?_eq_some_iff, find?_eq_some_iff]
  exact and_congr_left (fun hk => h x hk)

theorem find?_updateWhere_of_hit {t : Table α κ key} {p : α → Bool} {f : α → α}
    {hf : ∀ x, key (f x) = key x} {k : κ} {x : α} (h : t.find? k = some x) (hp : p x = true) :
    (t.updateWhere p f hf).find? k = some (f x) := by
  obtain ⟨hx, hk⟩ := find?_eq_some_iff.mp h
  refine find?_eq_some_iff.mpr ⟨mem_updateWhere.mpr ⟨x, hx, ?_⟩, (hf x).trans hk⟩
  rw [if_pos hp]

theorem find?_updateWhere_key {t : Table α κ key} {k : κ} {x : α} {f : α → α}
    {hf : ∀ x, key (f x) = key x} (h : t.find? k = some x) :
    (t.updateWhere (fun y => key y == k) f hf).find? k = some (f x) :=
  find?_updateWhere_of_hit h (beq_iff_eq.mpr (find?_eq_some_iff.mp h).2)

theorem find?_updateWhere_of_miss {t : Table α κ key} {p : α → Bool} {f : α → α}
    {hf : ∀ x, key (f x) = key x} {k : κ} (hp : ∀ x, p x = true → key x ≠ k) :
    (t.updateWhere p f hf).find? k = t.find? k := by
  refine find?_congr fun x hx => ?_
  rw [mem_updateWhere]
  constructor
  · rintro ⟨y, hy, rfl⟩
    split at hx
    · rename_i hpy
      exact absurd ((hf y).symm.trans hx) (hp y hpy)
    · rename_i hpy
      rwa [if_neg hpy]
  · intro hmem
    exact ⟨x, hmem, if_neg fun hpx => hp x hpx hx⟩

theorem find?_insert {t : Table α κ key} {x : α} {h : key x ∉ t.keys} {k : κ} :
    (t.insert x h).find? k = if key x = k then some x else t.find? k := by
  split
  · rename_i hk
    exact find?_eq_some_iff.mpr ⟨mem_insert.mpr (.inr rfl), hk⟩
  · rename_i hk
    simp [find?, insert, List.find?_append, hk]

theorem find?_deleteWhere {t : Table α κ key} {p : α → Bool} {k : κ} :
    (t.deleteWhere p).find? k = (t.find? k).filter (fun x => !p x) := by
  apply Option.ext
  intro x
  rw [find?_eq_some_iff, mem_deleteWhere, Option.filter_eq_some_iff, find?_eq_some_iff,
    Bool.not_eq_true']
  constructor
  · rintro ⟨⟨hx, hp⟩, hk⟩
    exact ⟨⟨hx, hk⟩, hp⟩
  · rintro ⟨⟨hx, hk⟩, hp⟩
    exact ⟨⟨hx, hp⟩, hk⟩

theorem find?_deleteWhere_key {t : Table α κ key} {k k' : κ} :
    (t.deleteWhere (fun x => key x == k)).find? k' = if k' = k then none else t.find? k' := by
  rw [find?_deleteWhere]
  cases hf : t.find? k' with
  | none => simp
  | some x =>
    have hk := (find?_eq_some_iff.mp hf).2
    by_cases h : k' = k
    · simp [h, hk.trans h]
    · simp [h, hk]

end Find

end Table
end Relational
