import Mathlib.Data.Option.Basic

/-!
Arithmetic on a bounded range of integers. A result outside of the range is no result: it stands
for a panic or a failing statement.
-/

set_option autoImplicit false

namespace Bounded

/-- The values from `lo` to `hi`. -/
structure Range where
  lo : Int
  hi : Int

namespace Range
variable (R : Range)

def Fits (n : Int) : Prop := R.lo ≤ n ∧ n ≤ R.hi

instance (n : Int) : Decidable (R.Fits n) := inferInstanceAs (Decidable (_ ∧ _))

def fit? (n : Int) : Option Int := if R.Fits n then some n else none

def add (a b : Int) : Option Int := R.fit? (a + b)

def sub (a b : Int) : Option Int := R.fit? (a - b)

variable {R} {n a b c d : Int}

@[simp] theorem fit?_isSome : (R.fit? n).isSome = true ↔ R.Fits n := by
  unfold fit?
  split <;> simp_all

theorem fit?_eq_some : R.fit? n = some a ↔ R.Fits n ∧ n = a := by
  unfold fit?
  split <;> simp_all

@[simp] theorem add_isSome : (R.add a b).isSome = true ↔ R.Fits (a + b) := fit?_isSome

theorem add_eq_some : R.add a b = some c ↔ R.Fits (a + b) ∧ a + b = c := fit?_eq_some

theorem add_of_fits (h : R.Fits (a + b)) : R.add a b = some (a + b) := if_pos h

theorem sub_of_fits (h : R.Fits (a - b)) : R.sub a b = some (a - b) := if_pos h

theorem forall_fits_add_iff (hab : a ≤ b) :
    (∀ t, a ≤ t → t ≤ b → R.Fits (t + d)) ↔ R.lo - a ≤ d ∧ d ≤ R.hi - b := by
  unfold Fits
  constructor
  · intro h
    have hlow := (h a (Int.le_refl a) hab).1
    have hhigh := (h b hab (Int.le_refl b)).2
    omega
  · intro h t hat htb
    omega

end Range

def int64 : Range := ⟨-9223372036854775808, 9223372036854775807⟩

def IsI64 (n : Int) : Prop := -9223372036854775808 ≤ n ∧ n < 9223372036854775808

instance (n : Int) : Decidable (IsI64 n) := inferInstanceAs (Decidable (_ ∧ _))

/-- The `i64` that a release build makes of a sum or a difference. -/
def i64 (n : Int) : Int := n.bmod 18446744073709551616

theorem fits_iff {n : Int} : int64.Fits n ↔ IsI64 n := by
  simp only [Range.Fits, int64, IsI64]
  omega

theorem i64_eq {n : Int} (h : IsI64 n) : i64 n = n := by
  unfold IsI64 at h
  exact Int.bmod_eq_of_le (by omega) (by omega)

theorem i64_of_over {n : Int} (hlo : 9223372036854775808 ≤ n) (hhi : n < 18446744073709551616) :
    i64 n = n - 18446744073709551616 := by
  unfold i64
  rw [← Int.sub_bmod_right]
  exact Int.bmod_eq_of_le (by omega) (by omega)

theorem i64_add_lt {a b : Int} (ha : IsI64 a) (hb : IsI64 b) (hpos : 0 < b)
    (h : ¬ IsI64 (a + b)) : i64 (a + b) < a := by
  unfold IsI64 at *
  rw [i64_of_over (by omega) (by omega)]
  omega

theorem i64_add_neg {a b : Int} (ha : 0 ≤ a ∧ IsI64 a) (hb : IsI64 b) (h : ¬ IsI64 (a + b)) :
    i64 (a + b) < 0 := by
  unfold IsI64 at *
  rw [i64_of_over (by omega) (by omega)]
  omega

end Bounded
