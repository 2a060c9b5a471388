import Kratos.Mission.World

/-!
# Poses as ROS has them

`yaw_from_quat` and the 2D composition in `resolve`, for any numbers with Python's `math`.
-/

namespace Mission

/-- Python's floats, with what the script uses of `math`. -/
class PyFloat (F : Type) extends Add F, Sub F, Mul F, Div F, OfScientific F where
  sin : F → F
  cos : F → F
  atan2 : F → F → F
  hypot : F → F → F
  gt : F → F → Bool

open PyFloat

/-- `geometry_msgs/msg/Point` and `Vector3`. -/
structure Point (F : Type) where
  x : F
  y : F
  z : F

structure Quaternion (F : Type) where
  x : F
  y : F
  z : F
  w : F

structure Pose (F : Type) where
  position : Point F
  orientation : Quaternion F

structure Transform (F : Type) where
  translation : Point F
  rotation : Quaternion F

variable {F : Type} [PyFloat F]

def yawFromQuat (q : Quaternion F) : F :=
  atan2 (2.0 * (q.w * q.z + q.x * q.y)) (1.0 - 2.0 * (q.y * q.y + q.z * q.z))

/-- The tuple that `sensor_to_base_offset` returns. -/
def Transform.offset (t : Transform F) : F × F × F :=
  (t.translation.x, t.translation.y, yawFromQuat t.rotation)

/-- The pose of the goal in `resolve`. A message's quaternion is `(0, 0, 0, 1)` before it is
assigned to. -/
def goalPose (pose : Pose F) (offset : F × F × F) : Pose F :=
  let p := pose.position
  let yaw := yawFromQuat pose.orientation
  let (ox, oy, oyaw) := offset
  let baseYaw := yaw + oyaw
  { position :=
      { x := p.x + cos yaw * ox - sin yaw * oy
        y := p.y + sin yaw * ox + cos yaw * oy
        z := 0.0 }
    orientation := { x := 0.0, y := 0.0, z := sin (baseYaw / 2.0), w := cos (baseYaw / 2.0) } }

/-- GLIM's poses, the TF from the sensor to the base, and Nav2's poses. -/
def Geometry.plane (F : Type) [PyFloat F] : Geometry where
  SensorPose := Pose F
  Offset := Transform F
  BasePose := Pose F
  Dist := F
  toBase pose t := goalPose pose t.offset
  moved a b := hypot (a.position.x - b.position.x) (a.position.y - b.position.y)
  gt := PyFloat.gt

end Mission
