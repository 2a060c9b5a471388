import Kratos.Pgm.Node

/-!
# The grid node, file mode

The rasterizer of a node without a `live_topic`, which takes the grid from the bounding box of the
cloud. Arithmetic and conversions are those of live mode.
-/

namespace Pgm

/-- `x_min`, `x_max`, `y_min` and `y_max`. -/
structure Bounds where
  xMin : ℚ
  xMax : ℚ
  yMin : ℚ
  yMax : ℚ
  deriving DecidableEq

/-- A round of the first loop. -/
def Bounds.extend (b : Bounds) (point : PointXYZ) : Bounds :=
  ⟨min b.xMin point.x, max b.xMax point.x, min b.yMin point.y, max b.yMax point.y⟩

/-- The first loop. It starts from the limits of `double`, which no coordinate exceeds: the first
point takes their place. -/
def boundsOf (point : PointXYZ) (points : Cloud) : Bounds :=
  points.foldl Bounds.extend ⟨point.x, point.x, point.y, point.y⟩

namespace Bounds

variable (p : Params) (b : Bounds)

def width : Nat := toUInt32 ⌈(b.xMax - b.xMin) / p.mapResolution⌉

def height : Nat := toUInt32 ⌈(b.yMax - b.yMin) / p.mapResolution⌉

/-- `msg.info.width * msg.info.height`. -/
def dataSize : Nat := wrapUInt32 (b.width p * b.height p)

/-- The index of the point's cell in `data`. Here `i` and `j` are compared as `unsigned`. -/
def cellIndex (point : PointXYZ) : Option Nat :=
  let i := toInt32 ⌊(point.x - b.xMin) / p.mapResolution⌋
  let j := toInt32 ⌊(point.y - b.yMin) / p.mapResolution⌋
  if i ≥ 0 ∧ wrapUInt32 i < b.width p ∧ j ≥ 0 ∧ wrapUInt32 j < b.height p then
    some (wrapUInt32 (i + j * b.width p))
  else none

end Bounds

inductive FileLog where
  /-- warn: Point cloud is empty! -/
  | empty
  /-- info: Map data size: {size} -/
  | dataSize (size : Nat)
  deriving DecidableEq

/-- The message, which an empty cloud leaves as it is but for its header and resolution. -/
def setMapTopicMsgDynamicBounds (p : Params) (now : Int) (cloud : Cloud) (msg : OccupancyGrid) :
    OccupancyGrid × FileLog :=
  let msg := { msg with
    stamp := now
    frameId := "map"
    mapLoadTime := now
    resolution := p.mapResolution }
  match cloud with
  | [] => (msg, .empty)
  | point :: points =>
    let b := boundsOf point points
    let data := Raster.paint (b.cellIndex p) 100 (point :: points) (List.replicate (b.dataSize p) 0)
    ({ msg with
        width := b.width p
        height := b.height p
        origin := ⟨(b.xMin, b.yMin, 0), (0, 0, 0, 1)⟩
        data },
      .dataSize data.length)

end Pgm
