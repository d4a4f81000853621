import AuthVerifier.SqlQueries
import AuthVerifier.Lib.Patterns
import AuthVerifier.Lib.Text

/-!
The texts that the engines take for the id of a realm. Each of the three `CREATE TABLE realm`
statements has a pattern of its own.
-/

set_option autoImplicit false

namespace AuthVerifier
open Patterns

def sqliteRealmId (id : String) : Bool := glob "[a-zA-Z0-9_-]*" id

def postgresRealmId (id : String) : Bool := Flavour.posix.regex "^[a-zA-Z0-9_-]+$" id

/-- Letters are compared under the collation of the column, which is that of the server. -/
def mysqlRealmId (ignoreCase : Bool) (id : String) : Bool :=
  (Flavour.icu ignoreCase).regex "^[a-zA-Z0-9_-]+$" id

def realmDialects {W : Type} [DecidableEq W] (collation : String → W) (ignoreCase : Bool) :
    List Dialect :=
  [{ Dialect.sqlite with takesRealmId := sqliteRealmId },
    { Dialect.postgres with takesRealmId := postgresRealmId },
    Dialect.mysql collation (mysqlRealmId ignoreCase)]

def isRealmIdChar (c : Char) : Bool := c.isAlphanum || c == '_' || c == '-'

def realmIdSet : CharSet := [('a', 'z'), ('A', 'Z'), ('0', '9'), ('_', '_'), ('-', '-')]

theorem mem_realmIdSet (c : Char) : realmIdSet.mem c = isRealmIdChar c := by
  have hone (d : Char) : d.val ≤ c.val ∧ c.val ≤ d.val ↔ c = d := by
    constructor
    · exact fun h => Char.le_antisymm h.2 h.1
    · rintro rfl
      exact ⟨Char.le_refl c, Char.le_refl c⟩
  have halphanum : c.isAlphanum = ((decide (c.val ≥ 'A'.val ∧ c.val ≤ 'Z'.val) ||
      decide (c.val ≥ 'a'.val) && decide (c.val ≤ 'z'.val)) ||
      decide (c.val ≥ '0'.val) && decide (c.val ≤ '9'.val)) := rfl
  rw [Bool.eq_iff_iff]
  simp only [realmIdSet, CharSet.mem, List.any_cons, List.any_nil, Bool.or_false, isRealmIdChar,
    halphanum, Bool.or_eq_true, Bool.and_eq_true, decide_eq_true_eq, beq_iff_eq, hone, Char.le_def,
    ge_iff_le]
  rw [or_left_comm]
  simp only [or_assoc]

/-- The long s and the Kelvin sign, which are letters of ASCII up to case. -/
def isFoldedLetter (c : Char) : Bool := c == '\u017f' || c == '\u212a'

theorem mem_icu (ignoreCase : Bool) (c : Char) : (Flavour.icu ignoreCase).mem realmIdSet c = true ↔
    isRealmIdChar c = true ∨ (ignoreCase = true ∧ isFoldedLetter c = true) := by
  cases ignoreCase with
  | false => simp [Flavour.mem, Flavour.icu, mem_realmIdSet]
  | true =>
    simp only [Flavour.mem, Flavour.icu, if_true, List.any_cons, mem_realmIdSet, Bool.or_eq_true,
      true_and]
    refine or_congr_right' fun hc => ?_
    have hletter : c.isAlpha = false := by
      cases h : c.isAlpha with
      | false => rfl
      | true => exact absurd (by simp [isRealmIdChar, Char.isAlphanum, h]) hc
    have hcode (d : Char) : c = d ↔ c.toNat = d.toNat := Char.toNat_inj.symm
    simp only [Flavour.asciiVariants, hletter, Bool.false_eq_true, if_false, isFoldedLetter,
      Bool.or_eq_true, beq_iff_eq, hcode]
    split
    · rename_i h
      exact iff_of_true (by decide) (.inl h)
    · rename_i h
      split
      · rename_i h'
        exact iff_of_true (by decide) (.inr h')
      · rename_i h'
        exact iff_of_false (by decide) (fun hor => hor.elim h h')

theorem sqliteRealmId_eq : sqliteRealmId = Database.realmIdCheck := by
  funext id
  have htokens : readGlob "[a-zA-Z0-9_-]*".length "[a-zA-Z0-9_-]*".toList =
      some [.set realmIdSet, .star] := by decide
  rw [Bool.eq_iff_iff, sqliteRealmId, glob, htokens]
  simp only [matchGlob_set_star, mem_realmIdSet, isRealmIdChar, Database.realmIdCheck]
  cases id.toList <;> simp

theorem anchored_tokens : readRegex "^[a-zA-Z0-9_-]+$".length "^[a-zA-Z0-9_-]+$".toList =
    some [.start, .plus realmIdSet, .stop] := by decide

theorem realmIdPattern_iff {id : String} : Dialect.realmIdPattern id = true ↔
    id.toList ≠ [] ∧ ∀ c ∈ id.toList, isRealmIdChar c = true := by
  have hempty : id.isEmpty = id.toList.isEmpty := by
    rw [Bool.eq_iff_iff, String.isEmpty_iff, List.isEmpty_iff, String.toList_eq_nil_iff]
  simp [Dialect.realmIdPattern, hempty, isRealmIdChar]

theorem postgresRealmId_eq : postgresRealmId = Dialect.realmIdPattern := by
  funext id
  have hmem (c : Char) : Flavour.posix.mem realmIdSet c = isRealmIdChar c := by
    simp [Flavour.mem, Flavour.posix, mem_realmIdSet]
  have hend (rest : List Char) : Flavour.posix.endsLine rest = true ↔ rest = [] := List.isEmpty_iff
  rw [Bool.eq_iff_iff, postgresRealmId, Flavour.regex, anchored_tokens, realmIdPattern_iff]
  simp only [Flavour.search_anchored, hmem, hend]
  constructor
  · rintro ⟨word, rest, hid, hne, hword, rfl⟩
    rw [hid, List.append_nil]
    exact ⟨hne, hword⟩
  · rintro ⟨hne, hword⟩
    exact ⟨id.toList, [], (List.append_nil _).symm, hne, hword, rfl⟩

def EndsLine (rest : List Char) : Prop := (Flavour.icu false).endsLine rest = true

theorem mysqlRealmId_iff {ignoreCase : Bool} {id : String} : mysqlRealmId ignoreCase id = true ↔
    ∃ word rest, id.toList = word ++ rest ∧ word ≠ [] ∧
      (∀ c ∈ word, isRealmIdChar c = true ∨ (ignoreCase = true ∧ isFoldedLetter c = true)) ∧
      EndsLine rest := by
  rw [mysqlRealmId, Flavour.regex, anchored_tokens]
  simp only [Flavour.search_anchored, mem_icu]
  rfl

def Dialect.TakesRealm (D : Dialect) (id : String) : Prop :=
  ∀ realm : Realm, realm.id = id → ∀ s : Rows, (D.exec (.insertRealm realm) s).2 ≠ .error .check

/-- Characters that end or divide path segments, parameters of a query and Redis keys. -/
def isReserved (c : Char) : Bool := c ∈ ['/', '?', '&', '=', ':'] || Text.isWhiteSpace c

/-- All engines take the same ids, which are not empty and have letters, digits, `_` and `-` only. -/
structure SameGrammar (dialects : List Dialect) (id : String) : Prop where
  takes : ∀ D ∈ dialects, D.TakesRealm id ↔ Dialect.realmIdPattern id = true
  reserved : (∃ D ∈ dialects, D.TakesRealm id) → ∀ c ∈ id.toList, isReserved c = false

def plainRealm (id : String) : Realm where
  id := id
  authParams := {}
  sessionMaxAgeSeconds := 129600
  sessionMaxStaleAgeSeconds := 3600

theorem insertRow_check_iff {takes taken referenced : Bool} {s inserted : Rows} :
    (Query.insertRow takes taken referenced s inserted).2 = .error .check ↔ takes = false := by
  cases takes <;> cases taken <;> cases referenced <;> simp [Query.insertRow]

theorem Dialect.takesRealm_iff {D : Dialect} {id : String} :
    D.TakesRealm id ↔ D.takesRealmId id = true := by
  have hexec (realm : Realm) (s : Rows) :
      (D.exec (.insertRealm realm) s).2 = .error .check ↔ D.takesRealmId realm.id = false :=
    insertRow_check_iff
  constructor
  · intro h
    by_contra htakes
    exact h (plainRealm id) rfl ⟨[], [], [], []⟩ ((hexec _ _).mpr (Bool.eq_false_iff.mpr htakes))
  · rintro htakes realm rfl s hfails
    rw [(hexec realm s).mp hfails] at htakes
    cases htakes

theorem not_reserved_of_isRealmIdChar {c : Char} (h : isRealmIdChar c = true) :
    isReserved c = false := by
  have hlast : ∀ range ∈ realmIdSet, range.2 ≤ 'z' := by decide
  have hascii : ∀ n : Fin 123, isRealmIdChar (Char.ofNat n) = true →
      isReserved (Char.ofNat n) = false := by decide
  obtain ⟨range, hrange, hmem⟩ := List.any_eq_true.mp ((mem_realmIdSet c).trans h)
  simp only [Bool.and_eq_true, decide_eq_true_eq] at hmem
  have hle : c.toNat ≤ 122 := UInt32.le_iff_toNat_le.mp (Char.le_trans hmem.2 (hlast range hrange))
  have hc := hascii ⟨c.toNat, by omega⟩
  rw [Char.ofNat_toNat] at hc
  exact hc h

def StartsOutside (id : String) : Prop := ∀ c, id.toList.head? = some c → isRealmIdChar c = false

/-- Characters of ids and folded letters, with at most a line terminator after them. -/
def FoldedWord (id : String) : Prop :=
  ∃ word rest, id.toList = word ++ rest ∧ word ≠ [] ∧
    (∀ c ∈ word, isRealmIdChar c = true ∨ isFoldedLetter c = true) ∧ EndsLine rest

theorem realmIdCheck_eq_false_iff {id : String} :
    Database.realmIdCheck id = false ↔ StartsOutside id := by
  simp only [Database.realmIdCheck, StartsOutside]
  cases id.toList <;> simp [isRealmIdChar]

theorem realmIdPattern_of_startsOutside {id : String} (h : StartsOutside id) :
    Dialect.realmIdPattern id = false := by
  rw [← Bool.not_eq_true, realmIdPattern_iff]
  rintro ⟨hne, hall⟩
  obtain ⟨c, rest, hid⟩ := List.exists_cons_of_ne_nil hne
  have hin := hall c (hid ▸ List.mem_cons_self)
  rw [h c (by rw [hid]; rfl)] at hin
  cases hin

theorem mysqlRealmId_of_pattern {ignoreCase : Bool} {id : String}
    (h : Dialect.realmIdPattern id = true) : mysqlRealmId ignoreCase id = true := by
  obtain ⟨hne, hall⟩ := realmIdPattern_iff.mp h
  exact mysqlRealmId_iff.mpr
    ⟨id.toList, [], (List.append_nil _).symm, hne, fun c hc => .inl (hall c hc), rfl⟩

theorem mysqlRealmId_of_startsOutside {ignoreCase : Bool} {id : String} (h : StartsOutside id) :
    mysqlRealmId ignoreCase id = true ↔ ignoreCase = true ∧ FoldedWord id := by
  rw [mysqlRealmId_iff]
  constructor
  · rintro ⟨word, rest, hid, hne, hword, hrest⟩
    cases word with
    | nil => exact absurd rfl hne
    | cons c word =>
      have hout := h c (by rw [hid]; rfl)
      rcases hword c List.mem_cons_self with hin | ⟨hcase, -⟩
      · rw [hout] at hin
        cases hin
      · exact ⟨hcase, c :: word, rest, hid, hne, fun d hd => (hword d hd).imp_right And.right, hrest⟩
  · rintro ⟨hcase, word, rest, hid, hne, hword, hrest⟩
    exact ⟨word, rest, hid, hne, fun d hd => (hword d hd).imp_right (⟨hcase, ·⟩), hrest⟩

/-- The three engines agree on a text exactly when it is an id, or begins with a character that no id
has and is not taken by MySQL for letters without their case. -/
theorem realm_id_grammar_iff {W : Type} [DecidableEq W] (collation : String → W) (ignoreCase : Bool)
    (id : String) (hlength : id.length ≤ 255) :
    SameGrammar (realmDialects collation ignoreCase) id ↔
      Dialect.realmIdPattern id = true ∨
        (StartsOutside id ∧ ¬ (ignoreCase = true ∧ FoldedWord id)) := by
  have hmysql : (Dialect.mysql collation (mysqlRealmId ignoreCase)).takesRealmId id =
      mysqlRealmId ignoreCase id := by
    simp [Dialect.mysql, hlength]
  have htakes : (∀ D ∈ realmDialects collation ignoreCase,
      D.TakesRealm id ↔ Dialect.realmIdPattern id = true) ↔
      (Database.realmIdCheck id = true ↔ Dialect.realmIdPattern id = true) ∧
        (mysqlRealmId ignoreCase id = true ↔ Dialect.realmIdPattern id = true) := by
    simp [realmDialects, Dialect.takesRealm_iff, hmysql, sqliteRealmId_eq, postgresRealmId_eq]
  constructor
  · intro hsame
    obtain ⟨hsqlite, hmy⟩ := htakes.mp hsame.takes
    cases hpattern : Dialect.realmIdPattern id with
    | true => exact .inl rfl
    | false =>
      rw [hpattern] at hsqlite hmy
      have hstart : StartsOutside id := realmIdCheck_eq_false_iff.mp (by simpa using hsqlite)
      rw [mysqlRealmId_of_startsOutside hstart] at hmy
      exact .inr ⟨hstart, by simpa using hmy⟩
  · rintro (hpattern | ⟨hstart, hfolded⟩)
    · have hcheck : Database.realmIdCheck id = true := by
        rw [← Bool.not_eq_false, realmIdCheck_eq_false_iff]
        intro hstart
        rw [realmIdPattern_of_startsOutside hstart] at hpattern
        cases hpattern
      exact ⟨htakes.mpr ⟨iff_of_true hcheck hpattern,
          iff_of_true (mysqlRealmId_of_pattern hpattern) hpattern⟩,
        fun _ c hc => not_reserved_of_isRealmIdChar ((realmIdPattern_iff.mp hpattern).2 c hc)⟩
    · have hpattern := realmIdPattern_of_startsOutside hstart
      have hall := htakes.mpr ⟨by rw [realmIdCheck_eq_false_iff.mpr hstart, hpattern],
        by rw [mysqlRealmId_of_startsOutside hstart, hpattern]; simpa using hfolded⟩
      refine ⟨hall, ?_⟩
      rintro ⟨D, hD, htake⟩
      rw [(hall D hD).mp htake] at hpattern
      cases hpattern

namespace Transparent

def foldCase (text : String) : List Char := text.toList.map Char.toLower

theorem realm_id_grammar_iff_tenant :
    SameGrammar (realmDialects foldCase true) "tenant-1" ↔
      Dialect.realmIdPattern "tenant-1" = true ∨
        (StartsOutside "tenant-1" ∧ ¬ (true = true ∧ FoldedWord "tenant-1")) :=
  realm_id_grammar_iff foldCase true "tenant-1" (by decide)

/-- SQLite and MySQL take what PostgreSQL refuses, and not the same. -/
theorem realm_ids_disagree :
    sqliteRealmId "a/b?c=d" = true ∧ mysqlRealmId true "a/b?c=d" = false ∧
      postgresRealmId "a/b?c=d" = false ∧
      sqliteRealmId "a\n" = true ∧ mysqlRealmId true "a\n" = true ∧ postgresRealmId "a\n" = false ∧
      sqliteRealmId "\u212a1" = false ∧ mysqlRealmId true "\u212a1" = true ∧
      postgresRealmId "\u212a1" = false ∧
      ¬ SameGrammar (realmDialects foldCase true) "a/b?c=d" := by
  have hruns : sqliteRealmId "a/b?c=d" = true ∧ mysqlRealmId true "a/b?c=d" = false ∧
      postgresRealmId "a/b?c=d" = false ∧
      sqliteRealmId "a\n" = true ∧ mysqlRealmId true "a\n" = true ∧ postgresRealmId "a\n" = false ∧
      sqliteRealmId "\u212a1" = false ∧ mysqlRealmId true "\u212a1" = true ∧
      postgresRealmId "\u212a1" = false ∧ Dialect.realmIdPattern "a/b?c=d" = false := by
    decide
  obtain ⟨hsqlite, h₁, h₂, h₃, h₄, h₅, h₆, h₇, h₈, hpattern⟩ := hruns
  refine ⟨hsqlite, h₁, h₂, h₃, h₄, h₅, h₆, h₇, h₈, fun hsame => ?_⟩
  have htakes := (hsame.takes { Dialect.sqlite with takesRealmId := sqliteRealmId }
    List.mem_cons_self).mp (Dialect.takesRealm_iff.mpr hsqlite)
  rw [hpattern] at htakes
  cases htakes

end Transparent
end AuthVerifier
