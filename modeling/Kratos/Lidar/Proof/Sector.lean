import Kratos.Lib.Remainder
import Kratos.Lidar.Node
import Mathlib.Analysis.SpecialFunctions.Complex.Arg

/-!
# Sectors over the reals

With doubles that are real numbers (`exactReal`), a direction is masked iff a turn of it by whole
circles is within half the width of a sector's centre (`InSector`, `masked_iff`). That does not
change with the circle an angle is counted in (`InSector.congr`), from which the rest follows:
`masked_spec`.
-/

namespace Lidar

open Real

/-- Doubles that are real numbers: `kPi` is `π`, and the functions of `<cmath>` are those they
stand for. What no real number is reads as 0. -/
@[reducible] noncomputable def exactReal : Double ℝ where
  toAdd := inferInstance
  toSub := inferInstance
  toMul := inferInstance
  toDiv := inferInstance
  toNeg := inferInstance
  toLE := inferInstance
  toLT := inferInstance
  toBEq := ⟨fun a b => decide (a = b)⟩
  toOfScientific := ⟨fun m s e =>
    if (m, s, e) = (314159265358979323846, true, 20) then π else OfScientific.ofScientific m s e⟩
  decidableLE := inferInstance
  decidableLT := inferInstance
  isFinite _ := true
  abs x := |x|
  hypot x y := √(x ^ 2 + y ^ 2)
  atan2 y x := Complex.arg ⟨x, y⟩
  remainder := Nearest.remainder
  hostIsBigEndian := false
  ofFloat bytes := match Exact.binary32 bytes with
    | .fin q => q
    | _ => 0
  ofDouble bytes := match Exact.binary64 bytes with
    | .fin q => q
    | _ => 0

/-- `point_is_masked` over the reals. -/
noncomputable def masked (x y frontCenterDeg frontSectorDeg backSectorDeg : ℝ) : Bool :=
  @pointIsMasked ℝ exactReal x y frontCenterDeg frontSectorDeg backSectorDeg

noncomputable def radians (degrees : ℝ) : ℝ := degrees * π / 180

/-- Some whole circles bring the angle `a` within `half` of `c`, all in radians. -/
def InSector (a c half : ℝ) : Prop := 0 < half ∧ ∃ k : ℤ, |a - c + (2 * k : ℤ) * π| ≤ half + 1e-12

variable {a a' c c' w : ℝ} {x y r front back : ℝ}

/-! ## Angles -/

/-- Only the turn from the centre to the angle counts, up to whole circles. -/
theorem InSector.congr {m : ℤ} (h : a - c = a' - c' + 2 * π * m) :
    InSector a c w ↔ InSector a' c' w := by
  have hturns : ∀ n k : ℤ, a' - c' + 2 * π * n + (2 * k : ℤ) * π =
      a' - c' + (2 * (n + k) : ℤ) * π := by
    intro n k
    push_cast
    ring
  unfold InSector
  rw [h]
  refine and_congr_right fun _ => ⟨?_, ?_⟩
  · rintro ⟨k, hk⟩
    exact ⟨m + k, by rwa [← hturns]⟩
  · rintro ⟨k, hk⟩
    exact ⟨k - m, by rwa [hturns, add_sub_cancel]⟩

theorem radians_pos : 0 < radians w ↔ 0 < w := by
  unfold radians
  refine ⟨fun h => ?_, fun h => ?_⟩
  · by_contra hw
    have : w * π / 180 ≤ 0 := div_nonpos_of_nonpos_of_nonneg
      (mul_nonpos_of_nonpos_of_nonneg (not_lt.1 hw) pi_pos.le) (by norm_num)
    linarith
  · have := pi_pos
    positivity

theorem radians_add (c d : ℝ) : radians (c + d) = radians c + radians d := by
  unfold radians
  ring

theorem radians_turns (n : ℤ) : radians (360 * n) = 2 * π * n := by
  unfold radians
  ring

theorem radians_half : radians 180 = π := by
  unfold radians
  ring

/-- The azimuth of a point is its angle, up to whole circles. -/
theorem arg_polar (hr : 0 < r) (a : ℝ) :
    ∃ m : ℤ, Complex.arg ⟨r * cos a, r * sin a⟩ = a + 2 * π * m := by
  have hpoint : (⟨r * cos a, r * sin a⟩ : ℂ) =
      r * (Complex.cos a + Complex.sin a * Complex.I) := by
    apply Complex.ext <;> simp [← Complex.ofReal_cos, ← Complex.ofReal_sin]
  have hturns := Complex.arg_mul_cos_add_sin_mul_I_sub hr a
  rw [← hpoint] at hturns
  exact ⟨_, by linarith⟩

theorem exists_polar (h : ¬ (x = 0 ∧ y = 0)) :
    ∃ r a, 0 < r ∧ x = r * cos a ∧ y = r * sin a := by
  have hne : (⟨x, y⟩ : ℂ) ≠ 0 := fun he => h ⟨congrArg Complex.re he, congrArg Complex.im he⟩
  refine ⟨‖(⟨x, y⟩ : ℂ)‖, Complex.arg ⟨x, y⟩, norm_pos_iff.2 hne, ?_, ?_⟩
  · exact (Complex.norm_mul_cos_arg ⟨x, y⟩).symm
  · exact (Complex.norm_mul_sin_arg ⟨x, y⟩).symm

/-! ## The mask -/

/-- A literal is its number, if it is not that of `kPi`. -/
theorem exactReal_literal {m e : Nat} {s : Bool}
    (h : (m, s, e) ≠ (314159265358979323846, true, 20)) :
    (exactReal.toOfScientific.ofScientific m s e : ℝ) = OfScientific.ofScientific m s e :=
  if_neg h

theorem exactReal_kPi : @kPi ℝ exactReal = π := by
  unfold kPi
  exact if_pos rfl

theorem exactReal_radians (degrees : ℝ) :
    @degreesToRadians ℝ exactReal degrees = radians degrees := by
  show degrees * @kPi ℝ exactReal / exactReal.toOfScientific.ofScientific 1800 true 1 = _
  rw [exactReal_kPi, exactReal_literal (by decide), radians]
  norm_num

theorem angularDistance_le_iff {t : ℝ} :
    @angularDistance ℝ exactReal a c ≤ t ↔ ∃ k : ℤ, |a - c + (2 * k : ℤ) * π| ≤ t := by
  show |Nearest.remainder (a - c) (exactReal.toOfScientific.ofScientific 20 true 1 *
    @kPi ℝ exactReal)| ≤ t ↔ _
  have htwo : (OfScientific.ofScientific 20 true 1 : ℝ) = 2 := by norm_num
  have hturns : ∀ k : ℤ, (k : ℝ) * (2 * π) = (2 * k : ℤ) * π := by
    intro k
    push_cast
    ring
  rw [exactReal_kPi, exactReal_literal (by decide), htwo,
    Nearest.abs_remainder_le_iff two_pi_pos]
  simp only [hturns]

theorem inSector_iff {wide : ℝ} :
    (exactReal.toLT.lt (exactReal.toOfScientific.ofScientific 0 true 1) wide ∧
      exactReal.toLE.le (@angularDistance ℝ exactReal a c)
        (@degreesToRadians ℝ exactReal wide * exactReal.toOfScientific.ofScientific 5 true 1 +
          @boundaryTolerance ℝ exactReal)) ↔ InSector a c (radians wide / 2) := by
  have hzero : (OfScientific.ofScientific 0 true 1 : ℝ) = 0 := by norm_num
  have hhalf : (OfScientific.ofScientific 5 true 1 : ℝ) = 1 / 2 := by norm_num
  have htol : @boundaryTolerance ℝ exactReal = 1e-12 := exactReal_literal (by decide)
  rw [exactReal_literal (by decide), exactReal_literal (by decide), hzero, hhalf, htol,
    exactReal_radians]
  show 0 < wide ∧ @angularDistance ℝ exactReal a c ≤ radians wide * (1 / 2) + 1e-12 ↔ _
  rw [angularDistance_le_iff, InSector, div_pos_iff_of_pos_right two_pos, radians_pos, mul_one_div]

theorem masked_eq_true : masked x y c front back = true ↔ ¬ (x = 0 ∧ y = 0) ∧
    (InSector (Complex.arg ⟨x, y⟩) (radians c) (radians front / 2) ∨
      InSector (Complex.arg ⟨x, y⟩) (radians c + π) (radians back / 2)) := by
  have hzero : (exactReal.toOfScientific.ofScientific 0 true 1 : ℝ) = 0 := by
    rw [exactReal_literal (by decide)]
    norm_num
  rw [← inSector_iff, ← inSector_iff, ← exactReal_radians c, ← exactReal_kPi]
  have horigin : (!@Double.isFinite ℝ exactReal x || !@Double.isFinite ℝ exactReal y ||
      (exactReal.toBEq.beq x (exactReal.toOfScientific.ofScientific 0 true 1) &&
        exactReal.toBEq.beq y (exactReal.toOfScientific.ofScientific 0 true 1))) = true ↔
      x = 0 ∧ y = 0 := by
    rw [hzero]
    simp
  unfold masked pointIsMasked
  by_cases h0 : x = 0 ∧ y = 0
  · rw [if_pos (horigin.2 h0)]
    simp [h0]
  · rw [if_neg (mt horigin.1 h0)]
    simp only [Bool.or_eq_true, Bool.and_eq_true, decide_eq_true_eq, gt_iff_lt]
    simp only [h0, not_false_eq_true, true_and]
    rfl

/-- **A direction is masked iff it is in a sector**, whatever circle its angle is counted in. -/
theorem masked_iff (hr : 0 < r) (a c front back : ℝ) :
    masked (r * cos a) (r * sin a) c front back = true ↔
      InSector a (radians c) (radians front / 2) ∨ InSector a (radians c + π) (radians back / 2) := by
  obtain ⟨m, hm⟩ := arg_polar hr a
  have horigin : ¬ (r * cos a = 0 ∧ r * sin a = 0) := by
    rintro ⟨hx, hy⟩
    have hcos : cos a = 0 := (mul_eq_zero.1 hx).resolve_left hr.ne'
    have hsin : sin a = 0 := (mul_eq_zero.1 hy).resolve_left hr.ne'
    have hone := sin_sq_add_cos_sq a
    rw [hcos, hsin] at hone
    norm_num at hone
  have hcongr : ∀ c' w, InSector (a + 2 * π * m) c' w ↔ InSector a c' w :=
    fun c' w => InSector.congr (m := m) (by ring)
  rw [masked_eq_true, hm, hcongr, hcongr]
  exact and_iff_right horigin

/-! ## What follows -/

theorem masked_scaled {s : ℝ} (hs : 0 < s) :
    masked (s * x) (s * y) c front back = masked x y c front back := by
  rw [Bool.eq_iff_iff]
  by_cases h0 : x = 0 ∧ y = 0
  · rw [h0.1, h0.2, mul_zero]
  · obtain ⟨r, a, hr, rfl, rfl⟩ := exists_polar h0
    rw [← mul_assoc, ← mul_assoc, masked_iff (mul_pos hs hr), masked_iff hr]

/-- Parameters that have the same sectors mask the same points. -/
theorem masked_congr {front' back' : ℝ} (h : ∀ a,
    InSector a (radians c) (radians front / 2) ∨ InSector a (radians c + π) (radians back / 2) ↔
      InSector a (radians c') (radians front' / 2) ∨ InSector a (radians c' + π) (radians back' / 2)) :
    masked x y c front back = masked x y c' front' back' := by
  rw [Bool.eq_iff_iff, masked_eq_true, masked_eq_true, h]

theorem masked_turned (n : ℤ) :
    masked x y (c + 360 * n) front back = masked x y c front back := by
  refine masked_congr fun a => ?_
  rw [radians_add, radians_turns]
  have hfront : a - (radians c + 2 * π * n) = a - radians c + 2 * π * (-n : ℤ) := by
    push_cast
    ring
  have hback : a - (radians c + 2 * π * n + π) = a - (radians c + π) + 2 * π * (-n : ℤ) := by
    push_cast
    ring
  rw [InSector.congr hfront, InSector.congr hback]

/-- Turned to the back, the front sector is the back one. -/
theorem masked_reversed : masked x y (c + 180) front back = masked x y c back front := by
  refine masked_congr fun a => ?_
  rw [radians_add, radians_half]
  have hcircle : a - (radians c + π + π) = a - radians c + 2 * π * (-1 : ℤ) := by
    push_cast
    ring
  rw [InSector.congr hcircle]
  exact or_comm

/-- **Masking is by the direction alone.** -/
theorem masked_spec (x y c front back : ℝ) :
    (∀ r a, 0 < r → x = r * cos a → y = r * sin a →
      (masked x y c front back = true ↔
        InSector a (radians c) (radians front / 2) ∨ InSector a (radians c + π) (radians back / 2))) ∧
    (¬ (x = 0 ∧ y = 0) → ∃ r a, 0 < r ∧ x = r * cos a ∧ y = r * sin a) ∧
    (∀ s, 0 < s → masked (s * x) (s * y) c front back = masked x y c front back) ∧
    (∀ n : ℤ, masked x y (c + 360 * n) front back = masked x y c front back) ∧
    masked x y (c + 180) front back = masked x y c back front := by
  refine ⟨?_, exists_polar, fun s hs => masked_scaled hs, masked_turned, masked_reversed⟩
  rintro r a hr rfl rfl
  exact masked_iff hr a c front back

/-- A front centre of two and a half turns puts the points straight ahead in the back sector. -/
theorem masked_spec_ahead :
    masked 1 0 900 0 30 = true ∧ masked 5 0 900 0 30 = masked 1 0 900 0 30 := by
  obtain ⟨hsector, -, hscale, -⟩ := masked_spec 1 0 900 0 30
  constructor
  · have hwidth : 0 < radians 30 / 2 := half_pos (radians_pos.2 (by norm_num))
    have hcentre : (0 : ℝ) - (radians 900 + π) + (2 * 3 : ℤ) * π = 0 := by
      unfold radians
      push_cast
      ring
    refine (hsector 1 0 one_pos (by simp) (by simp)).2 (.inr ⟨hwidth, 3, ?_⟩)
    rw [hcentre, abs_zero]
    positivity
  · have h := hscale 5 (by norm_num)
    rwa [mul_one, mul_zero] at h

end Lidar
