import Mathlib.Algebra.Order.Field.Basic
import Mathlib.Algebra.Order.Round
import Mathlib.Algebra.Ring.Int.Parity
import Mathlib.Data.Rat.Floor
import Mathlib.Tactic.Linarith

/-!
# The IEEE remainder, exactly

`remainder x y` is what is left of `x` after the multiple of `y` that is nearest to it, the even
one of two. Its size is the distance of `x` from the multiples of `y` (`abs_remainder_le_iff`).
-/

namespace Nearest

variable {K : Type} [Field K] [LinearOrder K] [IsStrictOrderedRing K] [FloorRing K] {x y t : K}

/-- `round` takes the larger of two integers that are equally near. -/
def roundHalfEven (x : K) : ℤ :=
  if Int.fract x = 1 - Int.fract x ∧ Odd (round x) then round x - 1 else round x

def remainder (x y : K) : K := x - roundHalfEven (x / y) * y

theorem abs_sub_roundHalfEven (x : K) : |x - roundHalfEven x| = |x - round x| := by
  unfold roundHalfEven
  split
  · rename_i h
    have hfract : Int.fract x = 1 / 2 := by linarith [h.1]
    have hround : round x = ⌈x⌉ := by
      rw [round, hfract]
      norm_num
    have hceil : (⌈x⌉ : K) - x = 1 - Int.fract x :=
      Int.ceil_sub_self_eq (by rw [hfract]; norm_num)
    rw [abs_sub_round_eq_min, hround, hfract, Int.cast_sub, Int.cast_one]
    have hdown : x - ((⌈x⌉ : K) - 1) = 1 / 2 := by linarith
    rw [hdown, abs_of_pos (by norm_num)]
    norm_num
  · rfl

theorem abs_remainder_le_iff (hy : 0 < y) :
    |remainder x y| ≤ t ↔ ∃ k : ℤ, |x + k * y| ≤ t := by
  refine ⟨fun h => ?_, fun hm => ?_⟩
  · refine ⟨-roundHalfEven (x / y), ?_⟩
    rw [Int.cast_neg, neg_mul, ← sub_eq_add_neg]
    exact h
  · obtain ⟨k, hk⟩ := hm
    have hscale : ∀ n : ℤ, |x - n * y| = |x / y - n| * y := by
      intro n
      rw [← abs_of_pos hy, ← abs_mul, abs_of_pos hy, sub_mul, div_mul_cancel₀ _ hy.ne']
    have hnearest : |x / y - roundHalfEven (x / y)| ≤ |x / y - (-k : ℤ)| := by
      rw [abs_sub_roundHalfEven]
      exact round_le (x / y) (-k)
    calc |remainder x y| = |x / y - roundHalfEven (x / y)| * y := hscale _
      _ ≤ |x / y - (-k : ℤ)| * y := mul_le_mul_of_nonneg_right hnearest hy.le
      _ = |x - (-k : ℤ) * y| := (hscale _).symm
      _ ≤ t := by
        rw [Int.cast_neg, neg_mul, sub_neg_eq_add]
        exact hk

example : remainder (7 : ℚ) 2 = -1 ∧ remainder (5 : ℚ) 2 = 1 := by decide +kernel

end Nearest
