/-
# Python.Binary64 -- the arithmetic of `float`

A finite `float` is the rational it stands for, and an operation rounds its exact result to
the nearest one, ties to even.  CPython divides integers with one rounding, and says
`OverflowError` where the result is too large.  Rounding moves a number by little beside it
(`binary64_near`).
-/
import Mathlib.Algebra.Field.Rat
import Mathlib.Algebra.Order.Field.Power
import Mathlib.Tactic.FieldSimp
import Mathlib.Tactic.Linarith
import Mathlib.Tactic.Positivity
import Mathlib.Tactic.Ring

namespace BtApiCtp.Python

variable {q r : ℚ}

/-- The nearest natural number to `num / den`, ties to even. -/
def roundHalfEven (num den : Nat) : Nat :=
  let quotient := num / den
  let rest := num % den
  if den < 2 * rest ∨ (2 * rest = den ∧ quotient % 2 = 1) then quotient + 1 else quotient

/-- The exponent of the last place at a positive `num / den`: 53 significant bits, and no
place below the subnormals'. -/
def lastPlace (num den : Nat) : Int :=
  let guess : Int := (Nat.log2 num : Int) - Nat.log2 den
  let reached : Bool :=
    if 0 ≤ guess then decide (2 ^ guess.toNat * den ≤ num)
    else decide (den ≤ num * 2 ^ (-guess).toNat)
  let leading := if reached then guess else guess - 1
  max (leading - 52) (-1074)

/-- Round to a `float`, `none` if the result is out of range. -/
def binary64 (q : ℚ) : Option ℚ :=
  if q = 0 then some 0
  else
    let num := q.num.natAbs
    let place := lastPlace num q.den
    let value : ℚ :=
      if 0 ≤ place then roundHalfEven num (q.den * 2 ^ place.toNat) * 2 ^ place.toNat
      else roundHalfEven (num * 2 ^ (-place).toNat) q.den / 2 ^ (-place).toNat
    if value < 2 ^ 1024 then some (if 0 < q then value else -value) else none

/-! ## How far a number is moved -/

theorem roundHalfEven_near (num : Nat) {den : Nat} (positive : 0 < den) :
    |(roundHalfEven num den : ℚ) - num / den| ≤ 1 := by
  have whole : (0 : ℚ) < den := by exact_mod_cast positive
  have split : (num : ℚ) / den = (num / den : Nat) + (num % den : Nat) / den := by
    field_simp
    exact_mod_cast (Nat.div_add_mod num den).symm
  have low : (0 : ℚ) ≤ (num % den : Nat) / den := by positivity
  have high : ((num % den : Nat) : ℚ) / den ≤ 1 := by
    rw [div_le_one whole]
    exact_mod_cast (Nat.mod_lt num positive).le
  rw [split, abs_le]
  unfold roundHalfEven
  dsimp only
  split <;> push_cast <;> constructor <;> linarith

/-- The last place of a number is small beside it. -/
theorem two_pow_lastPlace_le {num den : Nat} (nonzero : num ≠ 0) (positive : 0 < den) :
    (2 : ℚ) ^ lastPlace num den ≤ num / den / 1000 + 1 / 10 ^ 9 := by
  have whole : (0 : ℚ) < den := by exact_mod_cast positive
  have first : (2 : ℚ) ^ Nat.log2 num ≤ num / den * den := by
    rw [div_mul_cancel₀ _ whole.ne']
    exact_mod_cast Nat.log2_self_le nonzero
  have second : (den : ℚ) ≤ 2 * 2 ^ Nat.log2 den := by
    exact_mod_cast (Nat.lt_log2_self.le.trans_eq (pow_succ' 2 _) : den ≤ _)
  have place : lastPlace num den ≤ max ((Nat.log2 num : Int) - Nat.log2 den - 52) (-1074) := by
    unfold lastPlace
    dsimp only
    split <;> omega
  have share : (0 : ℚ) ≤ num / den := by positivity
  refine (zpow_le_zpow_right₀ one_le_two place).trans ?_
  rcases max_choice ((Nat.log2 num : Int) - Nat.log2 den - 52) (-1074) with same | same
  · rw [same, zpow_sub₀ two_ne_zero, zpow_sub₀ two_ne_zero, zpow_natCast, zpow_natCast,
      div_div, div_le_iff₀ (by positivity)]
    nlinarith [pow_pos (two_pos : (0 : ℚ) < 2) (Nat.log2 den)]
  · rw [same]
    have small : (2 : ℚ) ^ (-1074 : Int) ≤ 1 / 10 ^ 9 := by
      rw [zpow_neg, one_div]
      exact inv_anti₀ (by positivity) (by exact_mod_cast (by decide +kernel : 10 ^ 9 ≤ 2 ^ 1074))
    linarith [div_nonneg share (by norm_num : (0 : ℚ) ≤ 1000)]

/-- Rounding moves a number by little beside it. -/
theorem binary64_near (came : binary64 q = some r) : |r - q| ≤ |q| / 1000 + 1 / 10 ^ 9 := by
  unfold binary64 at came
  split at came
  · rename_i zero
    cases came
    simp [zero]
  rename_i nonzero
  have share : (q.num.natAbs : ℚ) / q.den = |q| := by
    rw [Nat.cast_natAbs, Int.cast_abs, ← Nat.abs_cast q.den, ← abs_div, Rat.num_div_den]
  have bound := two_pow_lastPlace_le (by simpa using nonzero : q.num.natAbs ≠ 0) q.pos
  rw [share] at bound
  dsimp only at came
  generalize lastPlace q.num.natAbs q.den = place at *
  generalize rounded : ite (0 ≤ place) _ _ = value at came
  -- either way, the number is a multiple of its last place, rounded to a whole one
  have scaled : ∃ num den : Nat, 0 < den ∧ (num / den * 2 ^ place : ℚ) = |q| ∧
      value = roundHalfEven num den * 2 ^ place := by
    rw [← rounded, ← share]
    split
    · rename_i whole
      lift place to Nat using whole
      rw [Int.toNat_natCast, zpow_natCast]
      refine ⟨_, _, Nat.mul_pos q.pos (Nat.two_pow_pos place), ?_, rfl⟩
      push_cast
      field_simp
    · obtain ⟨k, rfl⟩ : ∃ k : Nat, place = -k := ⟨(-place).toNat, by omega⟩
      rw [neg_neg, Int.toNat_natCast, zpow_neg, zpow_natCast]
      refine ⟨_, _, q.pos, ?_, div_eq_mul_inv _ _⟩
      push_cast
      field_simp
  obtain ⟨num, den, positive, same, rfl⟩ := scaled
  have near : |roundHalfEven num den * 2 ^ place - abs q| ≤ 2 ^ place := by
    have scale : (0 : ℚ) < 2 ^ place := by positivity
    rw [← same, ← sub_mul, abs_mul, abs_of_pos scale]
    exact mul_le_of_le_one_left scale.le (roundHalfEven_near num positive)
  split at came
  · cases came
    refine le_trans ?_ (near.trans bound)
    split
    · rename_i positive
      rw [abs_of_pos positive]
    · rename_i negative
      rw [abs_of_nonpos (not_lt.mp negative), ← abs_neg]
      ring_nf
      rfl
  · cases came

end BtApiCtp.Python
