import Kratos.Waypoint.Manager
import Mathlib.Data.Rat.Defs

/-!
# What the manager shows and saves

The same header, from poses on: the message of `get_waypoint`, the document and the file operations
of `write_yaml`, and `publish_markers`.

Eigen is a parameter (`Eigen`) of which no law is assumed, and so is the text that yaml-cpp makes of
a document. A file operation may fail and the process may die in it (`Faults`). A marker's `int` id
does not overflow.
-/

namespace Waypoint

/-! ## Eigen -/

@[ext] structure Vector3d (F : Type) where
  x : F
  y : F
  z : F
  deriving DecidableEq, Repr

@[ext] structure Quaterniond (F : Type) where
  x : F
  y : F
  z : F
  w : F
  deriving DecidableEq, Repr

/-- What is used of `Isometry3d` (`P`), `Matrix3d` and `Quaterniond`, with `std::atan2`. -/
structure Eigen (P F : Type) where
  Matrix3d : Type
  translation : P → Vector3d F
  linear : P → Matrix3d
  /-- `T.linear() = m`. -/
  setLinear : P → Matrix3d → P
  /-- The constructor of `Quaterniond` from a matrix. -/
  quaterniond : Matrix3d → Quaterniond F
  normalized : Quaterniond F → Quaterniond F
  toRotationMatrix : Quaterniond F → Matrix3d
  atan2 : F → F → F

/-- Motions that turn by a half about the vertical or not at all, for concrete runs. -/
structure HalfTurn where
  turned : Bool
  shift : Vector3d ℚ
  deriving DecidableEq, Repr

namespace HalfTurn

def turn (turned : Bool) (v : Vector3d ℚ) : Vector3d ℚ :=
  if turned then ⟨-v.x, -v.y, v.z⟩ else v

instance : One HalfTurn := ⟨⟨false, ⟨0, 0, 0⟩⟩⟩

instance : Mul HalfTurn :=
  ⟨fun S T =>
    let v := turn S.turned T.shift
    ⟨S.turned != T.turned, ⟨S.shift.x + v.x, S.shift.y + v.y, S.shift.z + v.z⟩⟩⟩

instance : Inv HalfTurn :=
  ⟨fun S => ⟨S.turned, turn S.turned ⟨-S.shift.x, -S.shift.y, -S.shift.z⟩⟩⟩

end HalfTurn

/-- A matrix is the list of its rows here, and the quaternion of a matrix is the one of these two
rotations. -/
@[reducible] def Eigen.halfTurn : Eigen HalfTurn ℚ where
  Matrix3d := Vector3d (Vector3d ℚ)
  translation T := T.shift
  linear T := if T.turned then ⟨⟨-1, 0, 0⟩, ⟨0, -1, 0⟩, ⟨0, 0, 1⟩⟩ else ⟨⟨1, 0, 0⟩, ⟨0, 1, 0⟩, ⟨0, 0, 1⟩⟩
  setLinear T m := { T with turned := decide (m.x.x < 0) }
  quaterniond m := if m.x.x < 0 then ⟨0, 0, 1, 0⟩ else ⟨0, 0, 0, 1⟩
  normalized q := q
  toRotationMatrix q :=
    ⟨⟨1 - 2 * (q.y ^ 2 + q.z ^ 2), 2 * (q.x * q.y - q.w * q.z), 2 * (q.x * q.z + q.w * q.y)⟩,
      ⟨2 * (q.x * q.y + q.w * q.z), 1 - 2 * (q.x ^ 2 + q.z ^ 2), 2 * (q.y * q.z - q.w * q.x)⟩,
      ⟨2 * (q.x * q.z - q.w * q.y), 2 * (q.y * q.z + q.w * q.x), 1 - 2 * (q.x ^ 2 + q.y ^ 2)⟩⟩
  atan2 _ x := if x < 0 then 3.141592653589793 else 0

variable {S P F : Type}

/-! ## `get_waypoint` -/

/-- `geometry_msgs/msg/Pose`. -/
structure Pose (F : Type) where
  position : Vector3d F
  orientation : Quaterniond F
  deriving DecidableEq, Repr

/-- `Eigen::Quaterniond(T.linear()).normalized()`. -/
def Eigen.rotation (E : Eigen P F) (T : P) : Quaterniond F :=
  E.normalized (E.quaterniond (E.linear T))

/-- The pose in the message of a response. -/
def GetWaypointResponse.message (E : Eigen P F) (res : GetWaypointResponse P) : Option (Pose F) :=
  res.pose.map fun tWorld => ⟨E.translation tWorld, E.rotation tWorld⟩

/-! ## `write_yaml` -/

/-- What is handed to `YAML::Emitter`, whose doubles are stamps or coordinates. -/
inductive Yaml (S F : Type) where
  | str (s : String)
  | int (n : Int)
  | stamp (s : S)
  | double (x : F)
  | flow (xs : List F)
  | seq (items : List (Yaml S F))
  | map (entries : List (String × Yaml S F))

def Vector3d.yaml (v : Vector3d F) : Yaml S F := .flow [v.x, v.y, v.z]

/-- x, y, z, w. -/
def Quaterniond.yaml (q : Quaterniond F) : Yaml S F := .flow [q.x, q.y, q.z, q.w]

section
variable [Add F] [Sub F] [Mul F] [OfScientific F] [Mul P]

def Eigen.yaw (E : Eigen P F) (q : Quaterniond F) : F :=
  E.atan2 (2.0 * (q.w * q.z + q.x * q.y)) (1.0 - 2.0 * (q.y * q.y + q.z * q.z))

/-- The keys that only a waypoint whose submap has a world pose gets. -/
def mapEntries (E : Eigen P F) (tWorld : P) : List (String × Yaml S F) :=
  [("map_xyz", (E.translation tWorld).yaml), ("map_yaw", .double (E.yaw (E.rotation tWorld))),
    ("map_qxyzw", (E.rotation tWorld).yaml)]

def WaypointManager.waypointYaml (E : Eigen P F) (m : WaypointManager S P)
    (wp : WaypointEntry P) : Yaml S F :=
  .map ([("name", .str wp.name), ("submap_id", .int wp.submapId),
      ("local_xyz", (E.translation wp.tSubmapSensor).yaml),
      ("local_qxyzw", (E.rotation wp.tSubmapSensor).yaml)] ++
    match m.submapWorldPose wp.submapId with
    | none => []
    | some tWorldOrigin => mapEntries E (tWorldOrigin * wp.tSubmapSensor))

def PendingWaypoint.yaml (E : Eigen P F) (pwp : PendingWaypoint S P) : Yaml S F :=
  .map [("name", .str pwp.name), ("stamp", .stamp pwp.stamp),
    ("odom_xyz", (E.translation pwp.tOdomSensor).yaml),
    ("odom_qxyzw", (E.rotation pwp.tOdomSensor).yaml)]

def WaypointManager.document (E : Eigen P F) (m : WaypointManager S P) : Yaml S F :=
  .map [("waypoints", .seq (m.waypoints.map (m.waypointYaml E))),
    ("pending_waypoints", .seq (m.pendingWaypoints.map (PendingWaypoint.yaml E)))]

end

/-! ### Files -/

/-- The files by path. -/
abbrev Disk := String → Option (List UInt8)

inductive Opening where
  | done
  | fails
  /-- The process dies, before the file is truncated or after it. -/
  | dies (truncated : Bool)
  deriving DecidableEq, Repr

/-- An operation by which the next `n` bytes of the text reach the file. -/
inductive Writing where
  | done (n : Nat)
  | fails (n : Nat)
  | dies (n : Nat)
  deriving DecidableEq, Repr

/-- How opening, `<<` and the close in the destructor go. What `<<` has not written is still in the
buffer; if both are done, all of it is written. -/
structure Faults where
  opening : Opening
  writing : Writing
  closing : Writing
  deriving DecidableEq, Repr

def Disk.append (disk : Disk) (path : String) (bytes : List UInt8) : Disk :=
  Function.update disk path ((disk path).map (· ++ bytes))

/-- The destructor of the stream: `rest` is what has not been written. The process may not live to
see the answer. -/
def closeStream (disk : Disk) (path : String) (rest : List UInt8) (faults : Faults) :
    Disk × Option Bool :=
  match faults.writing, faults.closing with
  | _, .dies n => (disk.append path (rest.take n), none)
  | .done _, .done _ => (disk.append path rest, some true)
  | _, .done n | _, .fails n => (disk.append path (rest.take n), some true)

/-- The files, and the answer if the process lives. -/
def writeFile (disk : Disk) (path : String) (text : List UInt8) (faults : Faults) :
    Disk × Option Bool :=
  match faults.opening with
  | .fails => (disk, some false)
  | .dies truncated => (if truncated then Function.update disk path (some []) else disk, none)
  | .done =>
    let disk : Disk := Function.update disk path (some [])
    match faults.writing with
    | .dies n => (disk.append path (text.take n), none)
    -- the stream is not asked whether the text was written
    | .done n | .fails n => closeStream (disk.append path (text.take n)) path (text.drop n) faults

namespace WaypointManager

section
variable [Add F] [Sub F] [Mul F] [OfScientific F] [Mul P]

/-- `emit` is the text of a document. -/
def writeYaml (E : Eigen P F) (emit : Yaml S F → List UInt8) (m : WaypointManager S P)
    (disk : Disk) (path : String) (faults : Faults) : Disk × Option Bool :=
  writeFile disk path (emit (m.document E)) faults

/-- The path that `save_waypoints` writes to. -/
def savePath (path : String) : String := if path = "" then "/tmp/waypoints.yaml" else path

def saveWaypoints (E : Eigen P F) (emit : Yaml S F → List UInt8) (m : WaypointManager S P)
    (disk : Disk) (path : String) (faults : Faults) : Disk × Option SaveWaypointsResponse :=
  let (disk, ok) := m.writeYaml E emit disk (savePath path) faults
  (disk, ok.map (m.saveWaypointsCb path))

def autosavePath : String := "/tmp/waypoints_autosave.yaml"

def autosave (E : Eigen P F) (emit : Yaml S F → List UInt8) (m : WaypointManager S P)
    (disk : Disk) (faults : Faults) : Disk :=
  if m.waypoints.isEmpty && m.pendingWaypoints.isEmpty then disk
  else (m.writeYaml E emit disk autosavePath faults).1

end

end WaypointManager

/-! ## `publish_markers` -/

inductive MarkerType where
  | sphere
  | textViewFacing
  deriving DecidableEq, Repr

inductive MarkerAction where
  | add
  | delete
  | deleteAll
  deriving DecidableEq, Repr

structure Header where
  stamp : Int
  frameId : String
  deriving DecidableEq, Repr

structure ColorRGBA (F : Type) where
  r : F
  g : F
  b : F
  a : F
  deriving DecidableEq, Repr

/-- `visualization_msgs/msg/Marker`, with the fields that are set; the lifetime stays 0. -/
structure Marker (F : Type) where
  header : Header
  ns : String
  id : Int
  type : MarkerType
  action : MarkerAction
  pose : Pose F
  scale : Vector3d F
  color : ColorRGBA F
  text : String
  deriving DecidableEq, Repr

section
variable [Add F] [OfScientific F]

def sphereMarker (now : Int) (idx : Int) (pose : Pose F) : Marker F where
  header := ⟨now, "map"⟩
  ns := "waypoints"
  id := idx
  type := .sphere
  action := .add
  pose
  scale := ⟨0.3, 0.3, 0.3⟩
  color := ⟨0.1, 0.9, 0.2, 1.0⟩
  text := ""

def textMarker (now : Int) (idx : Int) (pose : Pose F) (name : String) : Marker F where
  header := ⟨now, "map"⟩
  ns := "waypoint_names"
  id := idx
  type := .textViewFacing
  action := .add
  pose := { pose with position := { pose.position with z := pose.position.z + 0.4 } }
  scale := ⟨0.0, 0.0, 0.25⟩
  color := ⟨1.0, 1.0, 1.0, 1.0⟩
  text := name

/-- The pose of a sphere: the rotation goes through a quaternion and back to a matrix first. -/
def Eigen.markerPose (E : Eigen P F) (tWorld : P) : Pose F :=
  let tWorld := E.setLinear tWorld (E.toRotationMatrix (E.rotation tWorld))
  ⟨E.translation tWorld, E.quaterniond (E.linear tWorld)⟩

namespace WaypointManager

variable [Mul P]

/-- The loop of `publish_markers`: a waypoint without a world pose is skipped and takes no id. -/
def markersFrom (E : Eigen P F) (m : WaypointManager S P) (now : Int) (idx : Int) :
    List (WaypointEntry P) → List (Marker F)
  | [] => []
  | wp :: wps =>
    match m.submapWorldPose wp.submapId with
    | none => markersFrom E m now idx wps
    | some tWorldOrigin =>
      let pose := E.markerPose (tWorldOrigin * wp.tSubmapSensor)
      sphereMarker now idx pose :: textMarker now idx pose wp.name ::
        markersFrom E m now (idx + 1) wps

/-- The message that is published, if one is; `hasPub` says that the publisher exists. -/
def publishMarkers (E : Eigen P F) (m : WaypointManager S P) (hasPub : Bool) (now : Int) :
    Option (List (Marker F)) :=
  if !hasPub || m.waypoints.isEmpty then none
  else some (m.markersFrom E now 0 m.waypoints)

end WaypointManager

end

end Waypoint
