import AuthVerifier.Lib.Table
import Mathlib.Order.Lattice

/-!
A key-value server whose keys may carry a deadline, such as Redis. A key is there strictly before
its deadline and gone from the deadline on. Commands that look at a key take the current time; a
key past its deadline is treated as absent, whether or not it has been reclaimed.
-/

set_option autoImplicit false

namespace Expiring
open Relational

structure Entry (α τ : Type) where
  key : String
  value : α
  deadline : Option τ
  deriving DecidableEq

abbrev Keyspace (α τ : Type) := Table (Entry α τ) String Entry.key

variable {α τ : Type} [LinearOrder τ]

def Entry.live (now : τ) (e : Entry α τ) : Bool :=
  match e.deadline with
  | none => true
  | some d => decide (now < d)

namespace Keyspace

def entry (ks : Keyspace α τ) (now : τ) (k : String) : Option (Entry α τ) :=
  (ks.find? k).filter (Entry.live now)

def get (ks : Keyspace α τ) (now : τ) (k : String) : Option α := (ks.entry now k).map Entry.value

def del (ks : Keyspace α τ) (k : String) : Keyspace α τ := ks.deleteWhere (fun e => e.key == k)

/-- `SET`, with the deadline its expiry option comes to. -/
def set (ks : Keyspace α τ) (k : String) (v : α) (deadline : Option τ) : Keyspace α τ :=
  (ks.del k).insert ⟨k, v, deadline⟩ (fun h => (Table.mem_keys_deleteKey.mp h).2 rfl)

/-- `SET ... NX`: the answer tells whether the key was set. -/
def setNx (ks : Keyspace α τ) (now : τ) (k : String) (v : α) (deadline : τ) :
    Keyspace α τ × Bool :=
  match ks.entry now k with
  | some _ => (ks, false)
  | none => (ks.set k v (some deadline), true)

def getDel (ks : Keyspace α τ) (now : τ) (k : String) : Keyspace α τ × Option α :=
  (ks.del k, ks.get now k)

/-- `EXPIRE`; nothing happens to a missing key. -/
def expire (ks : Keyspace α τ) (now : τ) (k : String) (deadline : τ) : Keyspace α τ :=
  match ks.entry now k with
  | some e => ks.set k e.value (some deadline)
  | none => ks

/-- `SCAN`, complete for the keys that are there. -/
def scan (ks : Keyspace α τ) (now : τ) : List String := (ks.rows.filter (Entry.live now)).map Entry.key

section Sets
variable (ks : Keyspace (List String) τ) (now : τ) (k m : String)

/-- `SMEMBERS`: a missing key is an empty set. -/
def smembers : List String := (ks.get now k).getD []

/-- `SADD`: a new set has no deadline, an old one keeps its own. -/
def sadd : Keyspace (List String) τ :=
  match ks.entry now k with
  | some e => if m ∈ e.value then ks else ks.set k (e.value ++ [m]) e.deadline
  | none => ks.set k [m] none

/-- `SREM`: the last member takes the key with it. -/
def srem : Keyspace (List String) τ :=
  match ks.entry now k with
  | none => ks
  | some e =>
    if e.value.filter (fun x => x != m) = [] then ks.del k
    else ks.set k (e.value.filter (fun x => x != m)) e.deadline

end Sets

section
variable {ks : Keyspace α τ} {now : τ} {k k' : String}

omit [LinearOrder τ] in
theorem mem_del {e : Entry α τ} : e ∈ ks.del k ↔ e ∈ ks ∧ e.key ≠ k := by
  simp [del]

omit [LinearOrder τ] in
theorem mem_set {v : α} {d : Option τ} {e : Entry α τ} :
    e ∈ ks.set k v d ↔ (e ∈ ks ∧ e.key ≠ k) ∨ e = ⟨k, v, d⟩ := by
  unfold set
  rw [Table.mem_insert, mem_del]

omit [LinearOrder τ] in
theorem find?_set {v : α} {d : Option τ} :
    (ks.set k v d).find? k' = if k = k' then some ⟨k, v, d⟩ else ks.find? k' := by
  unfold set
  rw [Table.find?_insert]
  split
  · rfl
  · rename_i hk
    unfold del
    rw [Table.find?_deleteWhere_key, if_neg (fun h => hk h.symm)]

@[simp] theorem entry_set_self {v : α} {d : Option τ} :
    (ks.set k v d).entry now k = (some ⟨k, v, d⟩ : Option (Entry α τ)).filter (Entry.live now) := by
  simp [entry, find?_set]

theorem entry_set_ne {v : α} {d : Option τ} (h : k' ≠ k) :
    (ks.set k v d).entry now k' = ks.entry now k' := by
  simp [entry, find?_set, Ne.symm h]

@[simp] theorem entry_del_self : (ks.del k).entry now k = none := by
  unfold entry del
  rw [Table.find?_deleteWhere_key, if_pos rfl]
  rfl

theorem entry_del_ne (h : k' ≠ k) : (ks.del k).entry now k' = ks.entry now k' := by
  unfold entry del
  rw [Table.find?_deleteWhere_key, if_neg h]

theorem entry_live {e : Entry α τ} (h : ks.entry now k = some e) : e.live now = true :=
  (Option.filter_eq_some_iff.mp h).2

theorem entry_later {later : τ} (hle : now ≤ later) :
    ks.entry later k = (ks.entry now k).filter (Entry.live later) := by
  unfold entry
  cases hf : ks.find? k with
  | none => rfl
  | some e =>
    cases hl : e.live now with
    | true => simp only [Option.filter, hl, if_true]
    | false =>
      have hgone : e.live later = false := by
        unfold Entry.live at hl ⊢
        cases hd : e.deadline with
        | none => simp [hd] at hl
        | some d =>
          simp only [hd, decide_eq_false_iff_not, not_lt] at hl ⊢
          exact le_trans hl hle
      simp only [Option.filter, hl, hgone, if_false, Bool.false_eq_true]

theorem get_eq_none_iff : ks.get now k = none ↔ ks.entry now k = none := by
  simp [get]

theorem get_of_entry {e : Entry α τ} (h : ks.entry now k = some e) :
    ks.get now k = some e.value := by
  simp [get, h]

theorem mem_of_get {v : α} (h : ks.get now k = some v) : ∃ e ∈ ks, e.key = k ∧ e.value = v := by
  obtain ⟨e, he, rfl⟩ := Option.map_eq_some_iff.mp h
  obtain ⟨hmem, hkey⟩ := Table.find?_eq_some_iff.mp (Option.filter_eq_some_iff.mp he).1
  exact ⟨e, hmem, hkey, rfl⟩

theorem get_later {later : τ} {v : α} (hle : now ≤ later) (h : ks.get later k = some v) :
    ks.get now k = some v := by
  obtain ⟨e, he, rfl⟩ := Option.map_eq_some_iff.mp h
  rw [entry_later hle] at he
  exact get_of_entry (Option.filter_eq_some_iff.mp he).1

theorem get_of_get_del {v : α} (h : (ks.del k).get now k' = some v) : ks.get now k' = some v := by
  by_cases hk : k' = k
  · simp [hk, get] at h
  · rwa [get, entry_del_ne hk] at h

theorem get_of_get_expire {v : α} {d : τ} (h : (ks.expire now k d).get now k' = some v) :
    ks.get now k' = some v := by
  unfold expire at h
  cases he : ks.entry now k with
  | none =>
    rw [he] at h
    exact h
  | some e =>
    rw [he] at h
    by_cases hk : k' = k
    · subst hk
      obtain ⟨e', he', rfl⟩ := Option.map_eq_some_iff.mp h
      rw [entry_set_self, Option.filter_eq_some_iff, Option.some_inj] at he'
      rw [get_of_entry he, ← he'.1]
    · rwa [get, entry_set_ne hk] at h

theorem setNx_of_entry {v : α} {d : τ} {e : Entry α τ} (h : ks.entry now k = some e) :
    ks.setNx now k v d = (ks, false) := by
  simp [setNx, h]

theorem setNx_of_absent {v : α} {d : τ} (h : ks.entry now k = none) :
    ks.setNx now k v d = (ks.set k v (some d), true) := by
  simp [setNx, h]

theorem find?_setNx_ne {v : α} {d : τ} (h : k' ≠ k) :
    (ks.setNx now k v d).1.find? k' = ks.find? k' := by
  cases he : ks.entry now k with
  | none => rw [setNx_of_absent he, find?_set, if_neg (Ne.symm h)]
  | some e => rw [setNx_of_entry he]

theorem entry_of_absent (h : ks.find? k = none) : ks.entry now k = none := by
  simp [entry, h]

theorem mem_scan : k ∈ ks.scan now ↔ ∃ e, ks.entry now k = some e := by
  simp only [scan, List.mem_map, List.mem_filter, entry, Option.filter_eq_some_iff,
    Table.find?_eq_some_iff]
  constructor
  · rintro ⟨e, ⟨he, hl⟩, hk⟩
    exact ⟨e, ⟨he, hk⟩, hl⟩
  · rintro ⟨e, ⟨he, hk⟩, hl⟩
    exact ⟨e, ⟨he, hl⟩, hk⟩

end
section Members
variable {ks : Keyspace (List String) τ} {now : τ} {k k' m : String}

theorem smembers_of_entry {e : Entry (List String) τ} (h : ks.entry now k = some e) :
    ks.smembers now k = e.value := by
  simp [smembers, get, h]

theorem smembers_of_absent (h : ks.entry now k = none) : ks.smembers now k = [] := by
  simp [smembers, get, h]

theorem smembers_set_ne {v : List String} {d : Option τ} (h : k' ≠ k) :
    (ks.set k v d).smembers now k' = ks.smembers now k' := by
  simp only [smembers, get, entry_set_ne h]

theorem smembers_set_self {v : List String} {d : Option τ}
    (h : Entry.live now (⟨k, v, d⟩ : Entry (List String) τ) = true) :
    (ks.set k v d).smembers now k = v := by
  apply smembers_of_entry (e := ⟨k, v, d⟩)
  rw [entry_set_self, Option.filter, if_pos h]

theorem live_of_deadline {e : Entry (List String) τ} (h : ks.entry now k = some e)
    (v : List String) : Entry.live now (⟨k, v, e.deadline⟩ : Entry (List String) τ) = true := by
  have hlive := entry_live h
  unfold Entry.live at hlive ⊢
  exact hlive

theorem smembers_srem :
    (ks.srem now k m).smembers now k' =
      if k' = k then (ks.smembers now k).filter (fun x => x != m) else ks.smembers now k' := by
  unfold srem
  cases he : ks.entry now k with
  | none =>
    by_cases hk : k' = k
    · simp [hk, smembers_of_absent he]
    · simp [hk]
  | some e =>
    rw [smembers_of_entry he]
    by_cases hk : k' = k
    · subst hk
      rw [if_pos rfl]
      by_cases hempty : e.value.filter (fun x => x != m) = []
      · simp only [hempty, if_true]
        exact smembers_of_absent entry_del_self
      · simp only [hempty, if_false]
        exact smembers_set_self (live_of_deadline he _)
    · rw [if_neg hk]
      by_cases hempty : e.value.filter (fun x => x != m) = []
      · simp only [hempty, if_true, smembers, get, entry_del_ne hk]
      · simp only [hempty, if_false]
        exact smembers_set_ne hk

theorem sublist_smembers_srem :
    ((ks.srem now k m).smembers now k').Sublist (ks.smembers now k') := by
  rw [smembers_srem]
  split
  · rename_i hk
    rw [hk]
    exact List.filter_sublist
  · exact .refl _

theorem smembers_sadd :
    (ks.sadd now k m).smembers now k' =
      if k' = k then
        if m ∈ ks.smembers now k then ks.smembers now k else ks.smembers now k ++ [m]
      else ks.smembers now k' := by
  unfold sadd
  cases he : ks.entry now k with
  | none =>
    rw [smembers_of_absent he]
    by_cases hk : k' = k
    · subst hk
      simpa using smembers_set_self rfl
    · simpa [hk] using smembers_set_ne hk
  | some e =>
    rw [smembers_of_entry he]
    by_cases hm : m ∈ e.value
    · by_cases hk : k' = k
      · simp [hm, hk, smembers_of_entry he]
      · simp [hm, hk]
    · by_cases hk : k' = k
      · subst hk
        simpa [hm] using smembers_set_self (live_of_deadline he _)
      · simpa [hm, hk] using smembers_set_ne hk

theorem smembers_expire {d : τ} (h : now < d) :
    (ks.expire now k d).smembers now k' = ks.smembers now k' := by
  unfold expire
  cases he : ks.entry now k with
  | none => rfl
  | some e =>
    by_cases hk : k' = k
    · subst hk
      rw [smembers_of_entry he]
      exact smembers_set_self (by simp [Entry.live, h])
    · exact smembers_set_ne hk

theorem smembers_later (ks : Keyspace (List String) τ) (k : String) {later : τ}
    (hle : now ≤ later) :
    ks.smembers later k = ks.smembers now k ∨ ks.smembers later k = [] := by
  simp only [smembers, get]
  rw [entry_later hle]
  cases ks.entry now k with
  | none => exact .inl rfl
  | some e =>
    cases hl : Entry.live later e with
    | true => simp [Option.filter, hl]
    | false => simp [Option.filter, hl]

end Members

end Keyspace
end Expiring
