import AuthVerifier.Lib.Outcome
import Mathlib.Data.List.Basic
import Mathlib.Logic.Function.Basic

/-!
Start-up scripts that bring the tables of an earlier version up to date: each table is created where
it is missing, and then each column that later versions have added is added where it is missing. The
ways in which a script adds a column differ in what happens on an engine that does not know the
statement.
-/

set_option autoImplicit false

namespace Ddl
open Effects

structure Column where
  name : String
  /-- A text column with a literal default value. -/
  textDefault : Bool := false
  deriving DecidableEq

/-- What engines differ in: `ADD COLUMN IF NOT EXISTS`, and default values of text columns. -/
structure Engine where
  addIfNotExists : Bool
  textDefaults : Bool
  deriving DecidableEq

def Engine.takes (E : Engine) (c : Column) : Bool := E.textDefaults || !c.textDefault

/-- How a script adds a column: it counts the columns of the name first, it leaves that to
`IF NOT EXISTS`, or it does so and drops the error. -/
inductive Mode where
  | checked | conditional | attempted
  deriving DecidableEq

structure Addition where
  column : Column
  mode : Mode
  deriving DecidableEq

/-- A table of a script, with the columns that it is created with and those that are added to it
where an earlier version has created it. -/
structure Table where
  name : String
  columns : List Column
  additions : List Addition := []
  deriving DecidableEq

abbrev Schema := String → Option (List String)

variable (E : Engine)

def addColumn (c : Column) (cols : List String) : Outcome (List String) Unit Unit :=
  if c.name ∈ cols ∨ E.takes c = false then .error cols () else .ok (cols ++ [c.name]) ()

def addColumnIfNotExists (c : Column) (cols : List String) : Outcome (List String) Unit Unit :=
  if E.addIfNotExists = false ∨ E.takes c = false then .error cols ()
  else if c.name ∈ cols then .ok cols ()
  else .ok (cols ++ [c.name]) ()

def Addition.run (a : Addition) (cols : List String) : Outcome (List String) Unit Unit :=
  match a.mode with
  | .checked => if a.column.name ∈ cols then .ok cols () else addColumn E a.column cols
  | .conditional => addColumnIfNotExists E a.column cols
  | .attempted => .ok (addColumnIfNotExists E a.column cols).state ()

def runAdditions : List Addition → List String → Outcome (List String) Unit Unit
  | [], cols => .ok cols ()
  | a :: as, cols => (a.run E cols).bind fun cols () => runAdditions as cols

/-- The columns that `CREATE TABLE IF NOT EXISTS` leaves. -/
def Table.created (t : Table) (old : Option (List String)) : List String :=
  old.getD (t.columns.map Column.name)

/-- `CREATE TABLE IF NOT EXISTS`, which an engine refuses for one of its columns whether or not the
table is there, and the additions. -/
def Table.migrate (t : Table) (old : Option (List String)) :
    Outcome (Option (List String)) Unit Unit :=
  if t.columns.all E.takes then
    let out := runAdditions E t.additions (t.created old)
    ⟨some out.state, out.result⟩
  else .error old ()

/-- The tables one after the other, up to the first error that is not dropped. -/
def migrate : List Table → Schema → Outcome Schema Unit Unit
  | [], s => .ok s ()
  | t :: ts, s =>
    let out := t.migrate E (s t.name)
    (⟨Function.update s t.name out.state, out.result⟩ : Outcome Schema Unit Unit).bind
      fun s () => migrate ts s

/-- The names added are distinct, and are among those of a new table. -/
structure Table.WellFormed (t : Table) : Prop where
  distinct : (t.additions.map fun a => a.column.name).Nodup
  among : ∀ a ∈ t.additions, a.column.name ∈ t.columns.map Column.name

def Table.Prior (t : Table) (old : Option (List String)) : Prop :=
  ∀ cols, old = some cols → ∀ c ∈ t.columns,
    c.name ∈ cols ∨ c.name ∈ t.additions.map fun a => a.column.name

def Table.Complete (t : Table) (now : Option (List String)) : Prop :=
  ∃ cols, now = some cols ∧ ∀ c ∈ t.columns, c.name ∈ cols

def Addition.Adds (a : Addition) : Prop :=
  E.takes a.column = true ∧ (a.mode = .checked ∨ E.addIfNotExists = true)

/-- The addition leaves the column there and no error, given whether it was there. -/
def Addition.Succeeds (a : Addition) (present : Prop) : Prop :=
  a.Adds E ∨ present ∧ a.mode ≠ .conditional

def Table.Upgradable (t : Table) (old : Option (List String)) : Prop :=
  (∀ c ∈ t.columns, E.takes c = true) ∧
    ∀ a ∈ t.additions, a.Succeeds E (a.column.name ∈ t.created old)

section
variable {E} {a : Addition} {as : List Addition} {cols : List String} {t : Table}

theorem Addition.run_state (a : Addition) (cols : List String) :
    (a.run E cols).state = cols ∨
      a.Adds E ∧ (a.run E cols).state = cols ++ [a.column.name] := by
  unfold Addition.run Addition.Adds addColumn addColumnIfNotExists
  by_cases hmem : a.column.name ∈ cols <;> cases hadd : E.addIfNotExists <;>
    cases htakes : E.takes a.column <;> cases a.mode <;>
    simp [hmem, Outcome.ok, Outcome.error]

theorem Addition.run_ok_iff (a : Addition) (cols : List String) :
    (a.run E cols).result = .ok () ∧ a.column.name ∈ (a.run E cols).state ↔
      a.Succeeds E (a.column.name ∈ cols) := by
  unfold Addition.run Addition.Succeeds Addition.Adds addColumn addColumnIfNotExists
  by_cases hmem : a.column.name ∈ cols <;> cases hadd : E.addIfNotExists <;>
    cases htakes : E.takes a.column <;> cases a.mode <;>
    simp [hmem, Outcome.ok, Outcome.error]

theorem Addition.mem_run {x : String} (hx : x ≠ a.column.name) :
    x ∈ (a.run E cols).state ↔ x ∈ cols := by
  rcases a.run_state (E := E) cols with h | ⟨-, h⟩
  · rw [h]
  · rw [h, List.mem_append, List.mem_singleton, or_iff_left hx]

theorem Addition.subset_run : cols ⊆ (a.run E cols).state := by
  rcases a.run_state (E := E) cols with h | ⟨-, h⟩
  · rw [h]
    exact List.Subset.refl cols
  · rw [h]
    exact List.subset_append_left cols _

theorem subset_runAdditions : cols ⊆ (runAdditions E as cols).state := by
  induction as generalizing cols with
  | nil => exact List.Subset.refl cols
  | cons a as ih =>
    rw [runAdditions, Outcome.bind]
    split
    · exact List.Subset.trans Addition.subset_run ih
    · exact Addition.subset_run

theorem mem_runAdditions {x : String} (hx : x ∉ as.map fun a => a.column.name) :
    x ∈ (runAdditions E as cols).state ↔ x ∈ cols := by
  induction as generalizing cols with
  | nil => rfl
  | cons a as ih =>
    rw [List.map_cons, List.mem_cons, not_or] at hx
    rw [runAdditions, Outcome.bind]
    split
    · exact (ih hx.2).trans (Addition.mem_run hx.1)
    · exact Addition.mem_run hx.1

theorem runAdditions_ok_iff (h : (as.map fun a => a.column.name).Nodup) :
    (runAdditions E as cols).result = .ok () ∧
        (∀ a ∈ as, a.column.name ∈ (runAdditions E as cols).state) ↔
      ∀ a ∈ as, a.Succeeds E (a.column.name ∈ cols) := by
  induction as generalizing cols with
  | nil => simp [runAdditions]
  | cons a as ih =>
    rw [List.map_cons, List.nodup_cons] at h
    have hothers : (∀ b ∈ as, b.Succeeds E (b.column.name ∈ (a.run E cols).state)) ↔
        ∀ b ∈ as, b.Succeeds E (b.column.name ∈ cols) := by
      refine forall₂_congr fun b hb => ?_
      have hne : b.column.name ≠ a.column.name :=
        fun he => h.1 (he ▸ List.mem_map.mpr ⟨b, hb, rfl⟩)
      have hkept : b.column.name ∈ (a.run E cols).state ↔ b.column.name ∈ cols :=
        Addition.mem_run hne
      rw [propext hkept]
    rw [List.forall_mem_cons, List.forall_mem_cons, ← a.run_ok_iff cols, ← hothers, ← ih h.2,
      runAdditions, Outcome.bind]
    cases hrun : (a.run E cols).result with
    | error e => simp
    | ok u =>
      cases u
      simp only [true_and]
      constructor
      · rintro ⟨hok, hmem, hall⟩
        exact ⟨(mem_runAdditions h.1).mp hmem, hok, hall⟩
      · rintro ⟨hmem, hok, hall⟩
        exact ⟨hok, subset_runAdditions hmem, hall⟩

theorem mem_or_adds_of_mem_runAdditions (h : (as.map fun a => a.column.name).Nodup) {a : Addition}
    (ha : a ∈ as) (hmem : a.column.name ∈ (runAdditions E as cols).state) :
    a.column.name ∈ cols ∨ a.Adds E := by
  induction as generalizing cols with
  | nil => cases ha
  | cons b bs ih =>
    rw [List.map_cons, List.nodup_cons] at h
    have hfirst : a ≠ b → (a.column.name ∈ (b.run E cols).state → a.column.name ∈ cols) := by
      intro hne
      have hbs : a ∈ bs := (List.mem_cons.mp ha).resolve_left hne
      exact (Addition.mem_run fun he => h.1 (he ▸ List.mem_map.mpr ⟨a, hbs, rfl⟩)).mp
    have hself : a = b → a.column.name ∈ (b.run E cols).state →
        a.column.name ∈ cols ∨ a.Adds E := by
      rintro rfl hrun
      rcases a.run_state (E := E) cols with hstate | ⟨hadds, -⟩
      · exact .inl (hstate ▸ hrun)
      · exact .inr hadds
    rw [runAdditions, Outcome.bind] at hmem
    by_cases hab : a = b
    · split at hmem
      · exact hself hab ((mem_runAdditions (hab ▸ h.1)).mp hmem)
      · exact hself hab hmem
    · split at hmem
      · exact (ih h.2 ((List.mem_cons.mp ha).resolve_left hab) hmem).imp_left (hfirst hab)
      · exact .inl (hfirst hab hmem)

theorem succeeds_runAdditions (h : (as.map fun a => a.column.name).Nodup) {a : Addition}
    (ha : a ∈ as) :
    a.Succeeds E (a.column.name ∈ (runAdditions E as cols).state) ↔
      a.Succeeds E (a.column.name ∈ cols) := by
  constructor
  · rintro (hadds | ⟨hmem, hmode⟩)
    · exact .inl hadds
    · rcases mem_or_adds_of_mem_runAdditions h ha hmem with hmem | hadds
      · exact .inr ⟨hmem, hmode⟩
      · exact .inl hadds
  · exact Or.imp_right (And.imp_left fun hmem => subset_runAdditions hmem)

theorem Table.upgradable_of_adds (hcolumns : ∀ c ∈ t.columns, E.takes c = true)
    (hadds : ∀ a ∈ t.additions, a.Adds E) (old : Option (List String)) : t.Upgradable E old :=
  ⟨hcolumns, fun a ha => .inl (hadds a ha)⟩

theorem Table.migrate_of_takes (htakes : ∀ c ∈ t.columns, E.takes c = true)
    (old : Option (List String)) :
    t.migrate E old = ⟨some (runAdditions E t.additions (t.created old)).state,
      (runAdditions E t.additions (t.created old)).result⟩ :=
  if_pos (List.all_eq_true.mpr htakes)

theorem Table.migrate_of_refused (hrefused : ¬ ∀ c ∈ t.columns, E.takes c = true)
    (old : Option (List String)) : t.migrate E old = .error old () :=
  if_neg fun hall => hrefused (List.all_eq_true.mp hall)

theorem Table.migrate_ok_iff (h : t.WellFormed) {old : Option (List String)} (hprior : t.Prior old) :
    (t.migrate E old).result = .ok () ∧ t.Complete (t.migrate E old).state ↔
      t.Upgradable E old := by
  by_cases htakes : ∀ c ∈ t.columns, E.takes c = true
  · rw [Table.migrate_of_takes htakes, Upgradable, and_iff_right htakes,
      ← runAdditions_ok_iff h.distinct]
    refine and_congr_right fun _ => ?_
    constructor
    · rintro ⟨_, hcols, hall⟩ a ha
      obtain ⟨c, hc, hname⟩ := List.mem_map.mp (h.among a ha)
      exact Option.some.inj hcols ▸ hname ▸ hall c hc
    · intro hall
      refine ⟨_, rfl, fun c hc => ?_⟩
      cases old with
      | none => exact subset_runAdditions (List.mem_map.mpr ⟨c, hc, rfl⟩)
      | some cols =>
        rcases hprior cols rfl c hc with hold | hadded
        · exact subset_runAdditions hold
        · obtain ⟨a, ha, hname⟩ := List.mem_map.mp hadded
          exact hname ▸ hall a ha
  · rw [Table.migrate_of_refused htakes]
    refine iff_of_false ?_ fun hall => htakes hall.1
    rintro ⟨hok, -⟩
    cases hok

theorem Table.upgradable_migrate (h : t.WellFormed) (old : Option (List String)) :
    t.Upgradable E (t.migrate E old).state ↔ t.Upgradable E old := by
  by_cases htakes : ∀ c ∈ t.columns, E.takes c = true
  · rw [Table.migrate_of_takes htakes]
    exact and_congr_right fun _ => forall₂_congr fun a ha => succeeds_runAdditions h.distinct ha
  · rw [Table.migrate_of_refused htakes]
    rfl

theorem Table.prior_migrate {old : Option (List String)} (h : t.Prior old) :
    t.Prior (t.migrate E old).state := by
  by_cases htakes : ∀ c ∈ t.columns, E.takes c = true
  · rw [Table.migrate_of_takes htakes]
    rintro _ hcols c hc
    cases old with
    | none =>
      exact .inl (Option.some.inj hcols ▸ subset_runAdditions (List.mem_map.mpr ⟨c, hc, rfl⟩))
    | some cols =>
      exact (h cols rfl c hc).imp_left fun hmem => Option.some.inj hcols ▸ subset_runAdditions hmem
  · rw [Table.migrate_of_refused htakes]
    exact h

section
variable {ts : List Table} {s : Schema}

theorem migrate_append (us : List Table) :
    migrate E (ts ++ us) s = (migrate E ts s).bind fun s () => migrate E us s := by
  induction ts generalizing s with
  | nil => rfl
  | cons t ts ih =>
    simp only [List.cons_append, migrate]
    cases hfirst : (t.migrate E (s t.name)).result with
    | error e => simp only [Outcome.bind]
    | ok u =>
      simp only [Outcome.bind]
      exact ih

theorem migrate_of_ne {name : String} (h : name ∉ ts.map Table.name) :
    (migrate E ts s).state name = s name := by
  induction ts generalizing s with
  | nil => rfl
  | cons t ts ih =>
    rw [List.map_cons, List.mem_cons, not_or] at h
    rw [migrate, Outcome.bind]
    split
    · exact (ih h.2).trans (Function.update_of_ne h.1 _ _)
    · exact Function.update_of_ne h.1 _ _

theorem migrate_state (h : (ts.map Table.name).Nodup) (ht : t ∈ ts) :
    (migrate E ts s).state t.name = (t.migrate E (s t.name)).state ∨
      (migrate E ts s).state t.name = s t.name := by
  induction ts generalizing s with
  | nil => cases ht
  | cons first ts ih =>
    rw [List.map_cons, List.nodup_cons] at h
    rw [migrate, Outcome.bind]
    by_cases hfirst : t = first
    · subst hfirst
      left
      split
      · exact (migrate_of_ne h.1).trans (Function.update_self _ _ _)
      · exact Function.update_self _ _ _
    · have hts : t ∈ ts := (List.mem_cons.mp ht).resolve_left hfirst
      have hne : t.name ≠ first.name := fun he => h.1 (he ▸ List.mem_map.mpr ⟨t, hts, rfl⟩)
      have hsame : Function.update s first.name (first.migrate E (s first.name)).state t.name =
          s t.name := Function.update_of_ne hne _ _
      split
      · rw [← hsame]
        exact ih h.2 hts
      · exact .inr hsame

theorem migrate_ok_iff (h : (ts.map Table.name).Nodup) (hwell : ∀ t ∈ ts, t.WellFormed)
    (hprior : ∀ t ∈ ts, t.Prior (s t.name)) :
    (migrate E ts s).result = .ok () ∧ (∀ t ∈ ts, t.Complete ((migrate E ts s).state t.name)) ↔
      ∀ t ∈ ts, t.Upgradable E (s t.name) := by
  induction ts generalizing s with
  | nil => simp [migrate]
  | cons t ts ih =>
    rw [List.map_cons, List.nodup_cons] at h
    rw [List.forall_mem_cons] at hwell hprior
    have hothers : ∀ u ∈ ts, Function.update s t.name (t.migrate E (s t.name)).state u.name =
        s u.name := by
      intro u hu
      have hne : u.name ≠ t.name := fun he => h.1 (he ▸ List.mem_map.mpr ⟨u, hu, rfl⟩)
      exact Function.update_of_ne hne _ _
    have hrest := @ih (Function.update s t.name (t.migrate E (s t.name)).state) h.2 hwell.2
      (fun u hu => hothers u hu ▸ hprior.2 u hu)
    have hupgradable : (∀ u ∈ ts, u.Upgradable E
          (Function.update s t.name (t.migrate E (s t.name)).state u.name)) ↔
        ∀ u ∈ ts, u.Upgradable E (s u.name) :=
      forall₂_congr fun u hu => by rw [hothers u hu]
    rw [List.forall_mem_cons, List.forall_mem_cons, ← Table.migrate_ok_iff hwell.1 hprior.1,
      ← hupgradable, ← hrest, migrate, Outcome.bind]
    cases hfirst : (t.migrate E (s t.name)).result with
    | error e => simp
    | ok u =>
      cases u
      simp only [true_and]
      rw [migrate_of_ne h.1, Function.update_self]
      exact and_left_comm

/-- A start that may have stopped on the way: each table was migrated or is as it was. -/
def Reaches (E : Engine) (ts : List Table) (s s' : Schema) : Prop :=
  ∀ t ∈ ts, s' t.name = (t.migrate E (s t.name)).state ∨ s' t.name = s t.name

variable {s' : Schema}

theorem Reaches.prior (h : Reaches E ts s s') (hprior : ∀ t ∈ ts, t.Prior (s t.name)) :
    ∀ t ∈ ts, t.Prior (s' t.name) := by
  intro t ht
  rcases h t ht with hstate | hstate <;> rw [hstate]
  · exact Table.prior_migrate (hprior t ht)
  · exact hprior t ht

theorem Reaches.upgradable_iff (h : Reaches E ts s s') (hwell : ∀ t ∈ ts, t.WellFormed) :
    (∀ t ∈ ts, t.Upgradable E (s' t.name)) ↔ ∀ t ∈ ts, t.Upgradable E (s t.name) := by
  refine forall₂_congr fun t ht => ?_
  rcases h t ht with hstate | hstate <;> rw [hstate]
  exact Table.upgradable_migrate (hwell t ht) _

end
end
end Ddl
