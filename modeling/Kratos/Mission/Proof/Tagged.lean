import Mathlib.Analysis.SpecialFunctions.Sqrt
import Kratos.Lib.Rigid
import Kratos.Mission.Plane
import Kratos.Mission.Script

/-!
# Back to where the waypoint was tagged

GLIM stores the pose of the sensor, and Nav2 drives the base. With exact arithmetic, the pose that
`resolve` makes of a sensor pose and of the TF from the sensor to the base is their product
(`represents_goalPose`), so a correction of the map moves the goal as it moves the waypoint.
-/

namespace Mission

open Prog Rigid Real

/-- Exact arithmetic. -/
noncomputable instance realPyFloat : PyFloat ℝ where
  sin := Real.sin
  cos := Real.cos
  atan2 y x := Complex.arg ⟨x, y⟩
  hypot x y := √(x ^ 2 + y ^ 2)
  gt a b := decide (b < a)

/-! ## Messages as motions -/

/-- The rotation of a unit quaternion. -/
noncomputable def Quaternion.matrix (q : Quaternion ℝ) : Matrix (Fin 3) (Fin 3) ℝ :=
  !![1 - 2 * (q.y ^ 2 + q.z ^ 2), 2 * (q.x * q.y - q.w * q.z), 2 * (q.x * q.z + q.w * q.y);
    2 * (q.x * q.y + q.w * q.z), 1 - 2 * (q.x ^ 2 + q.z ^ 2), 2 * (q.y * q.z - q.w * q.x);
    2 * (q.x * q.z - q.w * q.y), 2 * (q.y * q.z + q.w * q.x), 1 - 2 * (q.x ^ 2 + q.y ^ 2)]

/-- What a message says of the motion `S`: its translation exactly, and its rotation by a unit
quaternion. -/
structure Represents (t : Point ℝ) (q : Quaternion ℝ) (S : Motion (Fin 3)) : Prop where
  position : ![t.x, t.y, t.z] = S.shift
  unit : q.x ^ 2 + q.y ^ 2 + q.z ^ 2 + q.w ^ 2 = 1
  rotation : q.matrix = S.rot

def Pose.Represents (pose : Pose ℝ) (S : Motion (Fin 3)) : Prop :=
  Mission.Represents pose.position pose.orientation S

def Transform.Represents (t : Transform ℝ) (S : Motion (Fin 3)) : Prop :=
  Mission.Represents t.translation t.rotation S

theorem yawFromQuat_eq (q : Quaternion ℝ) :
    yawFromQuat q =
      Complex.arg ⟨1 - 2 * (q.y * q.y + q.z * q.z), 2 * (q.w * q.z + q.x * q.y)⟩ := by
  show Complex.arg ⟨1.0 - 2.0 * _, 2.0 * _⟩ = _
  norm_num

/-- **The yaw of an upright rotation is its angle, up to full turns.** -/
theorem rotZ_yawFromQuat {q : Quaternion ℝ} {θ : ℝ} (h : q.matrix = rotZ θ) :
    rotZ (yawFromQuat q) = rotZ θ := by
  have hcos : 1 - 2 * (q.y ^ 2 + q.z ^ 2) = cos θ := congrFun (congrFun h 0) 0
  have hsin : 2 * (q.x * q.y + q.w * q.z) = sin θ := congrFun (congrFun h 1) 0
  rw [yawFromQuat_eq, ← sq, ← sq, hcos, add_comm (q.w * q.z), hsin, rotZ_arg]

theorem matrix_halfAngle (θ : ℝ) :
    (Quaternion.mk 0 0 (sin (θ / 2)) (cos (θ / 2))).matrix = rotZ θ := by
  obtain ⟨a, rfl⟩ : ∃ a, θ = 2 * a := ⟨θ / 2, by ring⟩
  have hsq := cos_sq_add_sin_sq a
  rw [mul_div_cancel_left₀ a two_ne_zero]
  ext i j
  fin_cases i <;> fin_cases j <;>
    simp [Quaternion.matrix, rotZ, cos_two_mul, sin_two_mul] <;> linarith

/-- The message that `resolve` makes of a yaw. -/
theorem represents_halfAngle (x y z θ : ℝ) :
    Represents ⟨x, y, z⟩ ⟨0, 0, sin (θ / 2), cos (θ / 2)⟩ (yawed x y z θ) where
  position := rfl
  unit := by
    rw [zero_pow two_ne_zero, zero_add, zero_add]
    exact sin_sq_add_cos_sq _
  rotation := matrix_halfAngle θ

theorem goalPose_eq (pose : Pose ℝ) (t : Transform ℝ) :
    goalPose pose t.offset =
      { position :=
          { x := pose.position.x + cos (yawFromQuat pose.orientation) * t.translation.x -
              sin (yawFromQuat pose.orientation) * t.translation.y
            y := pose.position.y + sin (yawFromQuat pose.orientation) * t.translation.x +
              cos (yawFromQuat pose.orientation) * t.translation.y
            z := 0 }
        orientation :=
          { x := 0
            y := 0
            z := sin ((yawFromQuat pose.orientation + yawFromQuat t.rotation) / 2)
            w := cos ((yawFromQuat pose.orientation + yawFromQuat t.rotation) / 2) } } := by
  have hzero : (0.0 : ℝ) = 0 := by norm_num
  have htwo : (2.0 : ℝ) = 2 := by norm_num
  unfold goalPose Transform.offset
  simp only [hzero, htwo]
  rfl

/-- **`resolve` multiplies upright motions**, if the product is on the ground. -/
theorem represents_goalPose {pose : Pose ℝ} {t : Transform ℝ} {x y z θ x' y' z' φ : ℝ}
    (hp : pose.Represents (yawed x y z θ)) (ht : t.Represents (yawed x' y' z' φ))
    (hz : z + z' = 0) :
    (goalPose pose t.offset).Represents (yawed x y z θ * yawed x' y' z' φ) := by
  have hyaw := rotZ_yawFromQuat hp.rotation
  have hoyaw := rotZ_yawFromQuat ht.rotation
  obtain ⟨hcos, hsin⟩ := rotZ_eq_iff.1 hyaw
  have hx : pose.position.x = x := congrFun hp.position 0
  have hy : pose.position.y = y := congrFun hp.position 1
  have hx' : t.translation.x = x' := congrFun ht.position 0
  have hy' : t.translation.y = y' := congrFun ht.position 1
  have hmul : yawed x y z θ * yawed x' y' z' φ =
      yawed (x + cos θ * x' - sin θ * y') (y + sin θ * x' + cos θ * y') 0
        (yawFromQuat pose.orientation + yawFromQuat t.rotation) := by
    rw [yawed_mul, hz]
    refine Motion.ext ?_ rfl
    show rotZ (θ + φ) = rotZ (_ + _)
    rw [rotZ_add, rotZ_add, hyaw, hoyaw]
  rw [goalPose_eq, hmul, hcos, hsin, hx, hy, hx', hy']
  exact represents_halfAngle _ _ _ _

/-! ## `resolve` -/

/-- Once GLIM has answered and the TF is there, `resolve` returns. -/
theorem resolve_run {G : Geometry} {p : Params G} {name : String} {ins ins₁ rest : List (Tick G)}
    {w w₁ w₂ : World G} {res : WaypointResponse G} {offset : G.Offset}
    (hres : (call p.getWaypointService (.getWaypoint name) World.waypointResponse).run ins w =
      .ret (some res) ins₁ w₁)
    (hfound : res.found = true)
    (hoffset : (sensorToBaseOffset p).run ins₁ w₁ = .ret (some offset) rest w₂) :
    ∃ goal, (resolve p name).run ins w =
        .ret (some goal) rest (w₂.record (.resolved name goal)) ∧
      goal.pose = G.toBase res.pose offset := by
  unfold resolve
  rw [run_ret _ hres]
  dsimp only
  rw [if_pos hfound, run_ret _ hoffset]
  exact ⟨_, rfl, rfl⟩

/-- **Whatever the mount, the correction of the map and the angles, `resolve` returns the corrected
pose of the base**, if GLIM has the corrected pose of the sensor and the TF is the inverse of the
mount. -/
theorem resolve_returns_tagged (p : Params (.plane ℝ)) (name : String)
    (ins ins₁ rest : List (Tick (.plane ℝ))) (w w₁ w₂ : World (.plane ℝ))
    (res : WaypointResponse (.plane ℝ)) (t : Transform ℝ) (gx gy γ x y θ mx my mz ψ : ℝ)
    (hres : (call p.getWaypointService (.getWaypoint name) World.waypointResponse).run ins w =
      .ret (some res) ins₁ w₁)
    (hfound : res.found = true)
    (hsensor : Pose.Represents res.pose (yawed gx gy 0 γ * yawed x y 0 θ * yawed mx my mz ψ))
    (htf : (sensorToBaseOffset p).run ins₁ w₁ = .ret (some t) rest w₂)
    (hmount : t.Represents (yawed mx my mz ψ)⁻¹) :
    ∃ goal, (resolve p name).run ins w =
        .ret (some goal) rest (w₂.record (.resolved name goal)) ∧
      Pose.Represents goal.pose (yawed gx gy 0 γ * yawed x y 0 θ) := by
  obtain ⟨goal, hrun, hgoal⟩ := resolve_run hres hfound htf
  refine ⟨goal, hrun, ?_⟩
  have hprod : yawed gx gy 0 γ * yawed x y 0 θ =
      yawed gx gy 0 γ * yawed x y 0 θ * yawed mx my mz ψ * (yawed mx my mz ψ)⁻¹ :=
    (mul_inv_cancel_right _ _).symm
  rw [hgoal, hprod]
  rw [yawed_inv] at hmount ⊢
  rw [yawed_mul, yawed_mul] at hsensor ⊢
  exact represents_goalPose hsensor hmount (by ring)

/-- The map is turned by half a turn after tagging, and the sensor looks to the left. -/
noncomputable def turnedMap : List (Tick (.plane ℝ)) :=
  [{}, { events :=
    [.transform (Transform.mk ⟨0, 1, -2⟩ ⟨0, 0, sin (-(π / 2) / 2), cos (-(π / 2) / 2)⟩),
      .waypoint 0 ⟨true, "map", Pose.mk ⟨10, -2, 2⟩
        ⟨0, 0, sin ((π + π + π / 2) / 2), cos ((π + π + π / 2) / 2)⟩⟩] }]

theorem resolve_returns_tagged_turned :
    ∃ goal rest w, (resolve { replanThreshold := (1 : ℝ) } "wp1").run turnedMap {} =
        .ret (some goal) rest w ∧ Pose.Represents goal.pose (yawed 9 (-2) 0 0) := by
  have hrover : yawed 10 0 0 π * yawed 1 2 0 π = yawed 9 (-2) 0 (π + π) := by
    rw [yawed_mul]
    norm_num
  have hsensor : yawed 9 (-2) 0 (π + π) * yawed 1 0 2 (π / 2) =
      yawed 10 (-2) 2 (π + π + π / 2) := by
    rw [yawed_mul]
    norm_num [← two_mul]
  have hmount : (yawed 1 0 2 (π / 2))⁻¹ = yawed 0 1 (-2) (-(π / 2)) := by
    rw [yawed_inv]
    norm_num
  obtain ⟨goal, hrun, hgoal⟩ := resolve_returns_tagged { replanThreshold := (1 : ℝ) } "wp1"
    turnedMap _ _ {} _ _ _ _ 10 0 π 1 2 π 1 0 2 (π / 2) rfl rfl
    (by rw [hrover, hsensor]; exact represents_halfAngle _ _ _ _) rfl
    (by rw [hmount]; exact represents_halfAngle _ _ _ _)
  have hturn : rotZ (π + π) = rotZ 0 := by
    rw [rotZ_eq_iff, ← two_mul, cos_two_pi, sin_two_pi, cos_zero, sin_zero]
    exact ⟨rfl, rfl⟩
  refine ⟨goal, _, _, hrun, ?_⟩
  rw [hrover, yawed, hturn] at hgoal
  exact hgoal

end Mission
