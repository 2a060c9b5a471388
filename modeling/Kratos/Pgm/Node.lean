import Mathlib.Data.Rat.Floor
import Kratos.Lib.Raster

/-!
# The grid node, live mode

`src/pcd2pgm/src/pcd2pgm.cpp` with a `live_topic`: `Pcd2PgmNode`'s members, the callback of a live
cloud and what it sends. Coordinates and parameters are exact rationals. PCL's two filters are a
parameter (`Pcl`).

Conversions that the standard leaves open are the rover's (AArch64): a double out of an integer
type's range becomes the nearest value of the type. A write beyond `data`, which is undefined, is
left out.
-/

namespace Pgm

structure PointXYZ where
  x : ℚ
  y : ℚ
  z : ℚ
  deriving DecidableEq

abbrev Cloud := List PointXYZ

/-! ## Filters -/

/-- `PassThrough` on z (limits, negative) and `RadiusOutlierRemoval` (radius, neighbours), which
keeps points of its input. -/
structure Pcl where
  passThrough : ℚ → ℚ → Bool → Cloud → Cloud
  radiusOutlierRemoval : ℚ → Int → Cloud → Cloud
  radius_nil : ∀ radius count, radiusOutlierRemoval radius count [] = []

/-- The filters as PCL documents them; a point is a neighbour of itself, but does not count. -/
def Pcl.documented : Pcl where
  passThrough low high negative cloud :=
    cloud.filter fun p => (decide (low ≤ p.z) && decide (p.z ≤ high)) != negative
  radiusOutlierRemoval radius count cloud :=
    cloud.filter fun p =>
      decide (count < cloud.countP fun q =>
        (p.x - q.x) ^ 2 + (p.y - q.y) ^ 2 + (p.z - q.z) ^ 2 ≤ radius ^ 2)
  radius_nil _ _ := rfl

/-! ## Messages -/

structure Pose where
  position : ℚ × ℚ × ℚ
  orientation : ℚ × ℚ × ℚ × ℚ
  deriving DecidableEq

/-- `nav_msgs/msg/OccupancyGrid`. -/
@[ext] structure OccupancyGrid where
  stamp : Int := 0
  frameId : String := ""
  mapLoadTime : Int := 0
  resolution : ℚ := 0
  width : Nat := 0
  height : Nat := 0
  origin : Pose := ⟨(0, 0, 0), (0, 0, 0, 1)⟩
  data : List Int := []
  deriving DecidableEq

inductive Log where
  /-- info: Live cloud received: {points} points -/
  | received (points : Nat)
  /-- info: After PassThrough filtering: {points} points -/
  | afterPassThrough (points : Nat)
  /-- warn: Live cloud ({points} points) is empty after PassThrough - keeping the previous /map -/
  | emptyAfterPassThrough (points : Nat)
  /-- info: After RadiusOutlier filtering: {points} points -/
  | afterRadius (points : Nat)
  /-- warn: Live cloud is empty after RadiusOutlier - keeping the previous /map -/
  | emptyAfterRadius
  /-- warn: {dropped} points fell outside the fixed grid bounds (...) - widen
  fixed_width_m/fixed_height_m if this keeps happening -/
  | outsideGrid (dropped : Nat)
  deriving DecidableEq

/-- What a callback sends, in order. -/
inductive Output where
  | log (m : Log)
  | pcdCloud (frameId : String) (cloud : Cloud)
  | map (grid : OccupancyGrid)
  deriving DecidableEq

/-! ## The node -/

structure Params where
  threZMin : ℚ := 1 / 2
  threZMax : ℚ := 2
  flagPassThrough : Bool := false
  threRadius : ℚ := 1 / 2
  mapResolution : ℚ := 1 / 20
  thresPointCount : Int := 10
  fixedOriginX : ℚ := -25
  fixedOriginY : ℚ := -25
  fixedWidthM : ℚ := 50
  fixedHeightM : ℚ := 50

/-- The members that the callback assigns; a null pointer is `none`. -/
structure Node where
  pcdCloud : Cloud := []
  cloudAfterPassThrough : Option Cloud := none
  cloudAfterRadius : Option Cloud := none
  mapTopicMsg : OccupancyGrid := {}

/-! ## Rasterizing -/

/-- A double into an `int`. -/
def toInt32 (x : Int) : Int := max (-2 ^ 31) (min x (2 ^ 31 - 1))

/-- A double into an `unsigned`. -/
def toUInt32 (x : Int) : Nat := (min x (2 ^ 32 - 1)).toNat

/-- The value of an `unsigned` expression. -/
def wrapUInt32 (x : Int) : Nat := (x % 2 ^ 32).toNat

/-- `static_cast<int>` of an `unsigned`. -/
def asInt32 (n : Nat) : Int := (n : Int).bmod (2 ^ 32)

variable (p : Params) (pcl : Pcl)

def gridWidth : Nat := toUInt32 ⌈p.fixedWidthM / p.mapResolution⌉

def gridHeight : Nat := toUInt32 ⌈p.fixedHeightM / p.mapResolution⌉

/-- `msg.info.width * msg.info.height`. -/
def dataSize : Nat := wrapUInt32 (gridWidth p * gridHeight p)

/-- The index that the point's cell has in `data`, if it is in the grid. -/
def cellIndex (point : PointXYZ) : Option Nat :=
  let i := toInt32 ⌊(point.x - p.fixedOriginX) / p.mapResolution⌋
  let j := toInt32 ⌊(point.y - p.fixedOriginY) / p.mapResolution⌋
  if i ≥ 0 ∧ i < asInt32 (gridWidth p) ∧ j ≥ 0 ∧ j < asInt32 (gridHeight p) then
    some (wrapUInt32 (i + j * gridWidth p))
  else none

/-- The message and the log lines. `now` is the node's clock, which stands still meanwhile. -/
def setMapTopicMsgFixedBounds (now : Int) (cloud : Cloud) : OccupancyGrid × List Output :=
  let dropped := cloud.countP fun point => (cellIndex p point).isNone
  ({ stamp := now
     frameId := "map"
     mapLoadTime := now
     resolution := p.mapResolution
     width := gridWidth p
     height := gridHeight p
     origin := ⟨(p.fixedOriginX, p.fixedOriginY, 0), (0, 0, 0, 1)⟩
     data := Raster.paint (cellIndex p) 100 cloud (List.replicate (dataSize p) 0) },
    if dropped > 0 then [.log (.outsideGrid dropped)] else [])

/-! ## Callbacks -/

def passThroughFilter (node : Node) : Node × List Output :=
  let filtered := pcl.passThrough p.threZMin p.threZMax p.flagPassThrough node.pcdCloud
  ({ node with cloudAfterPassThrough := some filtered },
    [.log (.afterPassThrough filtered.length)])

def radiusOutlierFilter (node : Node) (input : Cloud) : Node × List Output :=
  let filtered := pcl.radiusOutlierRemoval p.threRadius p.thresPointCount input
  ({ node with cloudAfterRadius := some filtered }, [.log (.afterRadius filtered.length)])

def publishCallback (node : Node) : List Output :=
  match node.cloudAfterRadius with
  | none => []
  | some cloud => [.pcdCloud "map" cloud, .map node.mapTopicMsg]

/-- `cloud` is the message as `pcl::fromROSMsg` reads it. -/
def liveCloudCallback (node : Node) (now : Int) (cloud : Cloud) : Node × List Output :=
  let node := { node with pcdCloud := cloud }
  let received : List Output := [.log (.received cloud.length)]
  let (node, passed) := passThroughFilter p pcl node
  match node.cloudAfterPassThrough with
  | none | some [] =>
    (node, received ++ passed ++ [.log (.emptyAfterPassThrough cloud.length)])
  | some (point :: points) =>
    let (node, filtered) := radiusOutlierFilter p pcl node (point :: points)
    match node.cloudAfterRadius with
    | none | some [] => (node, received ++ passed ++ filtered ++ [.log .emptyAfterRadius])
    | some (point :: points) =>
      let (msg, outside) := setMapTopicMsgFixedBounds p now (point :: points)
      let node := { node with mapTopicMsg := msg }
      (node, received ++ passed ++ filtered ++ outside ++ publishCallback node)

/-- A sequence of live clouds, each with the clock when it comes; the outputs of each. -/
def run (node : Node) : List (Int × Cloud) → Node × List (List Output)
  | [] => (node, [])
  | (now, cloud) :: clouds =>
    let (node, output) := liveCloudCallback p pcl node now cloud
    let (node, outputs) := run node clouds
    (node, output :: outputs)

end Pgm
