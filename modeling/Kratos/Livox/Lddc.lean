import Kratos.Lidar.Node
import Kratos.Livox.Node

/-!
# Messages and topics

`src/livox_ros_driver2/src/lddc.cpp`: what the poll thread makes of a packet that it has taken, and
the publisher that it gives the message to, as built for ROS 2.

The bytes of a number and the cast of an intensity are a parameter (`Host`), of which no law is
assumed. Reading past `points` is undefined (`none`).
-/

namespace Livox

/-- How the host lays out a `float`, and the `double` that a time is converted to; and its cast of a
`float` to a byte. -/
class Host (F : Type) where
  float : F → Vector UInt8 4
  double : UInt64 → Vector UInt8 8
  toUInt8 : F → UInt8

open Host

/-! ## `comm.cpp` -/

/-- `inet_ntoa`, on the rover: the lowest byte comes first. -/
def ipNumToString (ipNum : UInt32) : String :=
  ".".intercalate
    (([0, 8, 16, 24] : List UInt32).map fun shift => toString (ipNum >>> shift).toUInt8.toNat)

def replacePeriodByUnderline (str : String) : String :=
  str.map fun c => if c = '.' then '_' else c

/-! ## `PointCloud2` -/

variable {F : Type}

/-- Where `datatype` is that of a byte. -/
def UINT8 : UInt8 := 2

/-- The point of `pkg.points` at each `i < points_num`. -/
def StoragePacket.read (pkg : StoragePacket F) : Option (List (PointXyzlt F)) :=
  (List.range pkg.pointsNum.toNat).mapM fun i => pkg.points[i]?

/-- `timestamp`, which is left at 0 if there is no point. -/
def StoragePacket.timestamp (pkg : StoragePacket F) : UInt64 :=
  if pkg.points.isEmpty then 0 else pkg.baseTime

/-- `rclcpp::Time(timestamp)`, in nanoseconds. -/
def rclcppTime (timestamp : UInt64) : Int := timestamp.toInt64.toInt

/-- `sizeof(LivoxPointXyzrtlt)`; the structure is packed. -/
def sizeofLivoxPointXyzrtlt : UInt32 := 26

/-- The `LivoxPointXyzrtlt` of a point. -/
def PointXyzlt.record [Host F] (p : PointXyzlt F) : List UInt8 :=
  (float p.x).toList ++ (float p.y).toList ++ (float p.z).toList ++ (float p.intensity).toList ++
    [p.tag, p.line] ++ (double F p.offsetTime).toList

def initPointcloud2MsgHeader (frameId : String) : Lidar.PointCloud2 where
  header := { frameId }
  height := 1
  width := 0
  fields :=
    [⟨"x", 0, Lidar.PointField.FLOAT32, 1⟩,
      ⟨"y", 4, Lidar.PointField.FLOAT32, 1⟩,
      ⟨"z", 8, Lidar.PointField.FLOAT32, 1⟩,
      ⟨"intensity", 12, Lidar.PointField.FLOAT32, 1⟩,
      ⟨"tag", 16, UINT8, 1⟩,
      ⟨"line", 17, UINT8, 1⟩,
      ⟨"timestamp", 18, Lidar.PointField.FLOAT64, 1⟩]
  pointStep := sizeofLivoxPointXyzrtlt

/-- The message, with the points that the loop pushes. -/
def pointcloud2Msg [Host F] (frameId : String) (pkg : StoragePacket F)
    (points : List (PointXyzlt F)) : Lidar.PointCloud2 :=
  let cloud := initPointcloud2MsgHeader frameId
  { cloud with
    header := { cloud.header with stamp := rclcppTime pkg.timestamp }
    width := pkg.pointsNum
    rowStep := pkg.pointsNum * cloud.pointStep
    isBigendian := false
    isDense := true
    data := points.flatMap PointXyzlt.record }

def initPointcloud2Msg [Host F] (frameId : String) (pkg : StoragePacket F) :
    Option Lidar.PointCloud2 :=
  pkg.read.map (pointcloud2Msg frameId pkg)

/-! ## `CustomMsg` -/

structure CustomPoint (F : Type) where
  offsetTime : UInt32
  x : F
  y : F
  z : F
  reflectivity : UInt8
  tag : UInt8
  line : UInt8
  deriving DecidableEq

structure CustomMsg (F : Type) where
  header : Lidar.Header
  timebase : UInt64
  pointNum : UInt32
  lidarId : UInt8
  points : List (CustomPoint F) := []
  deriving DecidableEq

/-- The handle is cut to a byte. -/
def initCustomMsg (frameId : String) (pkg : StoragePacket F) (lidar : LidarDevice F) :
    CustomMsg F where
  header := { frameId, stamp := rclcppTime pkg.timestamp }
  timebase := pkg.timestamp
  pointNum := pkg.pointsNum
  lidarId := if lidar.lidarType = kLivoxLidarType then lidar.handle.toUInt8 else 0

/-- The body of the loop in `FillPointsToCustomMsg`. -/
def PointXyzlt.custom [Host F] (baseTime : UInt64) (p : PointXyzlt F) : CustomPoint F where
  offsetTime := (p.offsetTime - baseTime).toUInt32
  x := p.x
  y := p.y
  z := p.z
  reflectivity := toUInt8 p.intensity
  tag := p.tag
  line := p.line

def fillPointsToCustomMsg [Host F] (livoxMsg : CustomMsg F) (pkg : StoragePacket F) :
    Option (CustomMsg F) :=
  pkg.read.map fun points =>
    { livoxMsg with points := livoxMsg.points ++ points.map (PointXyzlt.custom pkg.baseTime) }

/-! ## `Lddc` -/

def kPointCloud2Msg : UInt8 := 0
def kLivoxCustomMsg : UInt8 := 1

def kOutputToRos : UInt8 := 0

/-- The publishers of a kind of message. A publisher is its topic, and `none` where it is null. -/
structure Publishers where
  privatePub : Index → Option String := fun _ => none
  globalPub : Option String := none

/-- The publisher's topic, which is made at its first use. -/
def Publishers.current (self : Publishers) (useMultiTopic : Bool) (privateName globalName : String)
    (index : Index) : String × Publishers :=
  if useMultiTopic then
    let topic := (self.privatePub index).getD privateName
    (topic, { self with privatePub := Function.update self.privatePub index (some topic) })
  else
    let topic := self.globalPub.getD globalName
    (topic, { self with globalPub := some topic })

/-- `transfer_format_` is in `Driver`. -/
structure Lddc where
  useMultiTopic : Bool
  outputType : UInt8
  frameId : String
  pub : Publishers := {}
  imuPub : Publishers := {}

/-- The members that are set; the others stay 0. -/
structure ImuMsg (F : Type) where
  header : Lidar.Header
  angularVelocity : F × F × F
  linearAcceleration : F × F × F
  deriving DecidableEq

inductive Message (F : Type) where
  | pointCloud2 (cloud : Lidar.PointCloud2)
  | custom (livoxMsg : CustomMsg F)
  | imu (imuMsg : ImuMsg F)
  deriving DecidableEq

/-- A message of the LiDAR at a place. -/
structure Sent (F : Type) where
  index : Index
  topic : String
  message : Message F
  deriving DecidableEq

/-! The names that `snprintf` leaves are no longer than their buffers. -/

def topicName (handle : UInt32) : String :=
  "livox/lidar_" ++ replacePeriodByUnderline (ipNumToString handle)

namespace Lddc

def getCurrentPublisher (self : Lddc) (lds : Lds F) (index : Index) : String × Lddc :=
  let (topic, pub) :=
    self.pub.current self.useMultiTopic (topicName (lds.lidars index).handle) "livox/lidar" index
  (topic, { self with pub })

variable [Host F]

/-- The message of a packet, in either of the formats that are published. -/
def message (self : Lddc) (d : Driver F) (index : Index) (pkg : StoragePacket F) :
    Option (Message F) :=
  if d.transferFormat = kPointCloud2Msg then
    (initPointcloud2Msg self.frameId pkg).map .pointCloud2
  else
    (fillPointsToCustomMsg (initCustomMsg self.frameId pkg (d.lds.lidars index)) pkg).map .custom

/-- The end of the loop's body in `PublishPointcloud2` and in `PublishCustomPointcloud`. -/
def publish (self : Lddc) (d : Driver F) (index : Index) (pkg : StoragePacket F) :
    Option (Lddc × Option (Sent F)) :=
  (self.message d index pkg).map fun message =>
    let (topic, self) := self.getCurrentPublisher d.lds index
    (self, if self.outputType = kOutputToRos then some { index, topic, message } else none)

end Lddc

/-- What is sent in some turns of the node. -/
def Node.sent [Host F] (lddc : Lddc) (n : Node F) : List NodeTurn → Option (List (Sent F))
  | [] => some []
  | t :: ts =>
    match (n.turn t).2 with
    | some (.data (.published index pkg)) => do
      let (lddc, message) ← lddc.publish n.driver index pkg
      let rest ← sent lddc (n.turn t).1 ts
      return message.toList ++ rest
    | _ => sent lddc (n.turn t).1 ts

end Livox
