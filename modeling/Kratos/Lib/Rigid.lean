import Mathlib.Algebra.Group.MinimalAxioms
import Mathlib.Analysis.SpecialFunctions.Complex.Arg
import Mathlib.LinearAlgebra.UnitaryGroup

/-!
# Rigid motions

`Motion n`: a rotation or reflection of `n`-space, then a translation. `S * T` is `T` and then `S`,
and motions are a group.

`yawed x y z θ` turns 3-space about the vertical and translates it; `yawed_mul` and `yawed_inv`
compute with these motions. Angles that differ by full turns are the same rotation, which is what
`atan2` leaves of an angle (`rotZ_arg`).
-/

namespace Rigid

open Matrix

variable {n : Type} [Fintype n] [DecidableEq n]

@[ext] structure Motion (n : Type) [Fintype n] [DecidableEq n] where
  rot : orthogonalGroup n ℝ
  shift : n → ℝ

namespace Motion

instance instMul : Mul (Motion n) :=
  ⟨fun S T => ⟨S.rot * T.rot, S.shift + S.rot.1 *ᵥ T.shift⟩⟩

instance instOne : One (Motion n) := ⟨⟨1, 0⟩⟩

noncomputable instance instInv : Inv (Motion n) := ⟨fun S => ⟨S.rot⁻¹, -(S.rot⁻¹.1 *ᵥ S.shift)⟩⟩

@[simp] theorem mul_rot (S T : Motion n) : (S * T).rot = S.rot * T.rot := rfl

@[simp] theorem mul_shift (S T : Motion n) :
    (S * T).shift = S.shift + S.rot.1 *ᵥ T.shift := rfl

@[simp] theorem one_rot : (1 : Motion n).rot = 1 := rfl

@[simp] theorem one_shift : (1 : Motion n).shift = 0 := rfl

@[simp] theorem inv_rot (S : Motion n) : S⁻¹.rot = S.rot⁻¹ := rfl

@[simp] theorem inv_shift (S : Motion n) : S⁻¹.shift = -(S.rot⁻¹.1 *ᵥ S.shift) := rfl

def act (S : Motion n) (v : n → ℝ) : n → ℝ := S.rot.1 *ᵥ v + S.shift

/-- Distances stay. -/
theorem act_sub_dotProduct (S : Motion n) (v w : n → ℝ) :
    (S.act v - S.act w) ⬝ᵥ (S.act v - S.act w) = (v - w) ⬝ᵥ (v - w) := by
  have hdiff : S.act v - S.act w = S.rot.1 *ᵥ (v - w) := by
    simp [act, Matrix.mulVec_sub]
  have hunit : S.rot.1ᵀ * S.rot.1 = 1 := (mem_orthogonalGroup_iff' n ℝ).1 S.rot.2
  rw [hdiff, dotProduct_mulVec, vecMul_mulVec, hunit, vecMul_one]

noncomputable instance instGroup : Group (Motion n) :=
  Group.ofLeftAxioms
    (fun S T U => by
      refine Motion.ext (mul_assoc _ _ _) ?_
      simp [Matrix.mulVec_add, add_assoc])
    (fun S => by
      refine Motion.ext (one_mul _) ?_
      simp)
    (fun S => by
      refine Motion.ext (inv_mul_cancel _) ?_
      simp)

end Motion

/-! ## Turns about the vertical -/

open Real

noncomputable def rotZ (θ : ℝ) : orthogonalGroup (Fin 3) ℝ :=
  ⟨!![cos θ, -sin θ, 0; sin θ, cos θ, 0; 0, 0, 1], by
    rw [mem_orthogonalGroup_iff]
    ext i j
    fin_cases i <;> fin_cases j <;> simp [Matrix.mul_apply, Fin.sum_univ_three] <;>
      nlinarith [cos_sq_add_sin_sq θ]⟩

theorem rotZ_eq_iff {θ φ : ℝ} : rotZ θ = rotZ φ ↔ cos θ = cos φ ∧ sin θ = sin φ := by
  constructor
  · intro h
    have hcols : ∀ i, (rotZ θ).1 i 0 = (rotZ φ).1 i 0 := fun i => by rw [h]
    exact ⟨hcols 0, hcols 1⟩
  · rintro ⟨hc, hs⟩
    apply Subtype.ext
    show !![cos θ, -sin θ, 0; sin θ, cos θ, 0; 0, 0, 1] = _
    rw [hc, hs]
    rfl

theorem rotZ_add (θ φ : ℝ) : rotZ (θ + φ) = rotZ θ * rotZ φ := by
  apply Subtype.ext
  ext i j
  fin_cases i <;> fin_cases j <;>
    simp [rotZ, cos_add, sin_add] <;> ring

theorem rotZ_zero : rotZ 0 = 1 := by
  apply Subtype.ext
  ext i j
  fin_cases i <;> fin_cases j <;> simp [rotZ]

/-- The angle of `cos φ + i sin φ` differs from `φ` by full turns. -/
theorem rotZ_arg (φ : ℝ) : rotZ (Complex.arg ⟨cos φ, sin φ⟩) = rotZ φ := by
  have hnorm : ‖(⟨cos φ, sin φ⟩ : ℂ)‖ = 1 := by
    rw [Complex.norm_def, Complex.normSq_mk, ← sq, ← sq, cos_sq_add_sin_sq, sqrt_one]
  have hne : (⟨cos φ, sin φ⟩ : ℂ) ≠ 0 := by
    rw [← norm_ne_zero_iff, hnorm]
    exact one_ne_zero
  rw [rotZ_eq_iff, Complex.cos_arg hne, Complex.sin_arg, hnorm, div_one, div_one]
  exact ⟨rfl, rfl⟩

noncomputable def rotX (θ : ℝ) : orthogonalGroup (Fin 3) ℝ :=
  ⟨!![1, 0, 0; 0, cos θ, -sin θ; 0, sin θ, cos θ], by
    rw [mem_orthogonalGroup_iff]
    ext i j
    fin_cases i <;> fin_cases j <;> simp [Matrix.mul_apply, Fin.sum_univ_three] <;>
      nlinarith [cos_sq_add_sin_sq θ]⟩

noncomputable def rotY (θ : ℝ) : orthogonalGroup (Fin 3) ℝ :=
  ⟨!![cos θ, 0, sin θ; 0, 1, 0; -sin θ, 0, cos θ], by
    rw [mem_orthogonalGroup_iff]
    ext i j
    fin_cases i <;> fin_cases j <;> simp [Matrix.mul_apply, Fin.sum_univ_three] <;>
      nlinarith [cos_sq_add_sin_sq θ]⟩

/-- Roll, then pitch, then yaw, each about an axis that stays. -/
noncomputable def rollPitchYaw (roll pitch yaw : ℝ) : orthogonalGroup (Fin 3) ℝ :=
  rotZ yaw * rotY pitch * rotX roll

theorem rollPitchYaw_eq (roll pitch yaw : ℝ) : (rollPitchYaw roll pitch yaw).1 =
    !![cos pitch * cos yaw, sin roll * sin pitch * cos yaw - cos roll * sin yaw,
        cos roll * sin pitch * cos yaw + sin roll * sin yaw;
      cos pitch * sin yaw, sin roll * sin pitch * sin yaw + cos roll * cos yaw,
        cos roll * sin pitch * sin yaw - sin roll * cos yaw;
      -sin pitch, sin roll * cos pitch, cos roll * cos pitch] := by
  ext i j
  fin_cases i <;> fin_cases j <;>
    simp [rollPitchYaw, rotX, rotY, rotZ] <;> ring

/-- Without roll or pitch. -/
noncomputable def yawed (x y z θ : ℝ) : Motion (Fin 3) := ⟨rotZ θ, ![x, y, z]⟩

theorem yawed_mul (x y z θ x' y' z' φ : ℝ) :
    yawed x y z θ * yawed x' y' z' φ =
      yawed (x + cos θ * x' - sin θ * y') (y + sin θ * x' + cos θ * y') (z + z') (θ + φ) := by
  refine Motion.ext (rotZ_add θ φ).symm ?_
  ext i
  fin_cases i <;> simp [yawed, rotZ] <;> ring

theorem yawed_inv (x y z θ : ℝ) :
    (yawed x y z θ)⁻¹ =
      yawed (-(cos θ * x + sin θ * y)) (sin θ * x - cos θ * y) (-z) (-θ) := by
  apply inv_eq_of_mul_eq_one_right
  rw [yawed_mul]
  refine Motion.ext ?_ ?_
  · show rotZ (θ + -θ) = 1
    rw [add_neg_cancel, rotZ_zero]
  · ext i
    have hsq := cos_sq_add_sin_sq θ
    fin_cases i <;> simp [yawed]
    · linear_combination (-x) * hsq
    · linear_combination (-y) * hsq

end Rigid
