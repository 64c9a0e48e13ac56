/-
# PromptTemplate.Proofs.Binary64.Rounding -- rounding keeps the order

Rounding a ratio of units to the nearest magnitude is monotone (`nearest_mono`) and
leaves the units of a magnitude as they are (`nearest_units`).  So adding a weight never
makes a sum smaller (`le_addMagnitudes`), and adding none leaves it as it is
(`addMagnitudes_zero`).

Magnitudes with one exponent lie between `2^52` and `2^53` parts of a grid
(`gridParts_bounds`); rounding within a grid is monotone, and grids do not overlap.
-/
import PromptTemplate.Binary64.Basic
import Mathlib.Algebra.Group.Nat.Defs

set_option autoImplicit false

namespace PromptTemplate.Binary64

/-! ## Rounding to a whole number -/

theorem le_roundRatio (num den : Nat) : num / den ≤ roundRatio num den := by
  unfold roundRatio
  dsimp only
  split <;> omega

theorem roundRatio_le (num den : Nat) : roundRatio num den ≤ num / den + 1 := by
  unfold roundRatio
  dsimp only
  split <;> omega

/-- Rounding keeps the order. -/
theorem roundRatio_mono {num num' den : Nat} (le : num ≤ num') :
    roundRatio num den ≤ roundRatio num' den := by
  rcases Nat.lt_or_eq_of_le (Nat.div_le_div_right (c := den) le) with less | same
  · exact Nat.le_trans (roundRatio_le num den) (Nat.le_trans less (le_roundRatio num' den))
  · -- with one quotient it is the remainder that decides
    have remainder : num % den ≤ num' % den := by
      have first := Nat.div_add_mod num den
      have second := Nat.div_add_mod num' den
      rw [← same] at second
      omega
    unfold roundRatio
    dsimp only
    rw [same]
    split <;> split <;> omega

/-- A whole number is not rounded. -/
theorem roundRatio_mul (n : Nat) {den : Nat} (positive : 0 < den) :
    roundRatio (n * den) den = n := by
  unfold roundRatio
  rw [Nat.mul_div_cancel n positive, Nat.mul_mod_left]
  exact if_neg (by omega)

/-! ## Grids -/

/-- How many grids above the finest one the whole number lies. -/
def gridOf (n : Nat) : Nat :=
  Nat.log2 n - 52

/-- A greater number lies on no finer grid. -/
theorem gridOf_mono {m n : Nat} (le : m ≤ n) : gridOf m ≤ gridOf n := by
  unfold gridOf
  by_cases zero : m = 0
  · simp [zero]
  · have nonzero : n ≠ 0 := by omega
    have logs : Nat.log2 m ≤ Nat.log2 n :=
      (Nat.le_log2 nonzero).2 (Nat.le_trans (Nat.log2_self_le zero) le)
    omega

/-- On its grid a number has fewer than `2^53` parts, and at least `2^52` unless the grid
is the finest one. -/
theorem gridParts_bounds (n : Nat) :
    n / 2 ^ gridOf n < 2 * hiddenBit ∧ (0 < gridOf n → hiddenBit ≤ n / 2 ^ gridOf n) := by
  have bits : hiddenBit = 2 ^ 52 := by decide
  constructor
  · rw [Nat.div_lt_iff_lt_mul (Nat.two_pow_pos _), bits, ← Nat.pow_succ', ← Nat.pow_add]
    refine Nat.lt_of_lt_of_le Nat.lt_log2_self (Nat.pow_le_pow_right (by omega) ?_)
    unfold gridOf
    omega
  · intro positive
    have nonzero : n ≠ 0 := by
      rintro rfl
      simp [gridOf, Nat.log2_zero] at positive
    rw [Nat.le_div_iff_mul_le (Nat.two_pow_pos _), bits, ← Nat.pow_add]
    refine Nat.le_trans (Nat.pow_le_pow_right (by omega) ?_) (Nat.log2_self_le nonzero)
    unfold gridOf at *
    omega

theorem nearest_eq (num den : Nat) :
    nearest num den = min infinity (gridOf (num / den) * hiddenBit +
      roundRatio num (den * 2 ^ gridOf (num / den))) := by
  rw [nearest, Nat.shiftLeft_eq]
  rfl

/-! ## Rounding to a magnitude -/

/-- Rounding is monotone: within a grid it is rounding to a whole number, and a finer grid
ends where a coarser one begins. -/
theorem nearest_mono {num num' : Nat} (den : Nat) (le : num ≤ num') :
    nearest num den ≤ nearest num' den := by
  have order := gridOf_mono (Nat.div_le_div_right (c := den) le)
  rw [nearest_eq, nearest_eq]
  refine Nat.le_min.2 ⟨Nat.min_le_left .., Nat.le_trans (Nat.min_le_right ..) ?_⟩
  rcases Nat.lt_or_eq_of_le order with less | same
  · have below := (gridParts_bounds (num / den)).1
    have above := (gridParts_bounds (num' / den)).2 (by omega)
    rw [Nat.div_div_eq_div_mul] at below above
    have upper := roundRatio_le num (den * 2 ^ gridOf (num / den))
    have lower := le_roundRatio num' (den * 2 ^ gridOf (num' / den))
    have steps : (gridOf (num / den) + 1) * hiddenBit ≤ gridOf (num' / den) * hiddenBit :=
      Nat.mul_le_mul_right _ less
    rw [Nat.add_mul, Nat.one_mul] at steps
    omega
  · rw [same]
    exact Nat.add_le_add_left (roundRatio_mono le) _

theorem units_eq (m : Nat) :
    units m = if m < hiddenBit then m
      else (hiddenBit + m % hiddenBit) * 2 ^ (m / hiddenBit - 1) := by
  rw [units, Nat.shiftLeft_eq]

/-- Rounding leaves the units of a magnitude as they are. -/
theorem nearest_units {m : Nat} (le : m ≤ infinity) : nearest (units m) 1 = m := by
  have bits : hiddenBit = 2 ^ 52 := by decide
  rw [nearest_eq, Nat.div_one, Nat.one_mul, units_eq]
  split
  · -- below the least normal number the units are the magnitude
    rename_i small
    have finest : gridOf m = 0 := by
      by_cases zero : m = 0
      · simp [zero, gridOf, Nat.log2_zero]
      · have log := (Nat.log2_lt zero).2 (bits ▸ small)
        unfold gridOf
        omega
    rw [finest, Nat.zero_mul, Nat.zero_add, Nat.pow_zero]
    have whole := roundRatio_mul m Nat.one_pos
    rw [Nat.mul_one] at whole
    rw [whole, Nat.min_eq_right le]
  · rename_i large
    have positive : 0 < m / hiddenBit := Nat.div_pos (Nat.le_of_not_lt large) (by decide)
    have part := Nat.mod_lt m (show hiddenBit > 0 by decide)
    -- the leading bit is the hidden one, so the grid is that of the exponent
    have grid : gridOf ((hiddenBit + m % hiddenBit) * 2 ^ (m / hiddenBit - 1)) =
        m / hiddenBit - 1 := by
      have log : Nat.log2 ((hiddenBit + m % hiddenBit) * 2 ^ (m / hiddenBit - 1)) =
          52 + (m / hiddenBit - 1) := by
        refine (Nat.log2_eq_iff ?_).2 ⟨?_, ?_⟩
        · exact Nat.mul_ne_zero (by omega) (Nat.ne_of_gt (Nat.two_pow_pos _))
        · rw [Nat.pow_add, ← bits]
          exact Nat.mul_le_mul_right _ (Nat.le_add_right ..)
        · rw [Nat.add_right_comm, Nat.pow_add, Nat.pow_succ, ← bits]
          exact Nat.mul_lt_mul_of_pos_right (by omega) (Nat.two_pow_pos _)
      rw [gridOf, log]
      omega
    have whole := Nat.div_add_mod m hiddenBit
    have exponent : m / hiddenBit * hiddenBit = (m / hiddenBit - 1) * hiddenBit + hiddenBit := by
      rw [← Nat.succ_mul, Nat.succ_eq_add_one, Nat.sub_add_cancel positive]
    rw [grid, roundRatio_mul _ (Nat.two_pow_pos _), Nat.min_eq_right]
    all_goals
      rw [Nat.mul_comm] at whole
      omega

theorem nearest_le_infinity (num den : Nat) : nearest num den ≤ infinity :=
  Nat.min_le_left ..

/-! ## Sums -/

theorem addMagnitudes_le_infinity (m n : Nat) : addMagnitudes m n ≤ infinity := by
  unfold addMagnitudes
  split
  · exact nearest_le_infinity _ _
  · exact Nat.le_refl _

/-- Although it is rounded, a sum is not below its parts. -/
theorem le_addMagnitudes {m : Nat} (le : m ≤ infinity) (n : Nat) : m ≤ addMagnitudes m n := by
  unfold addMagnitudes
  split
  · exact Nat.le_trans (Nat.le_of_eq (nearest_units le).symm)
      (nearest_mono 1 (Nat.le_add_right ..))
  · exact le

theorem addMagnitudes_zero {m : Nat} (le : m ≤ infinity) : addMagnitudes m 0 = m := by
  have none : units 0 = 0 := by decide
  unfold addMagnitudes
  split
  · rw [none, Nat.add_zero, nearest_units le]
  · rename_i large
    have bound : 0 < infinity := by decide
    omega

theorem addMagnitudes_comm (m n : Nat) : addMagnitudes m n = addMagnitudes n m := by
  simp only [addMagnitudes, and_comm, Nat.add_comm]

/-- Nothing is rounded away: a sum is zero only if both numbers are. -/
theorem addMagnitudes_eq_zero_iff {m n : Nat} (le : m ≤ infinity) (le' : n ≤ infinity) :
    addMagnitudes m n = 0 ↔ m = 0 ∧ n = 0 := by
  refine ⟨fun zero => ?_, ?_⟩
  · have first := le_addMagnitudes le n
    have second := le_addMagnitudes le' m
    rw [addMagnitudes_comm] at second
    omega
  · rintro ⟨rfl, rfl⟩
    exact addMagnitudes_zero le

end PromptTemplate.Binary64
