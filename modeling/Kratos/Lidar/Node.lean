import Kratos.Lib.Exact

/-!
# The angle filter node

`src/lidar_angle_filter`: the predicates of `angle_filter.hpp` and the members of
`LidarAngleFilterNode`, with `filter_cloud`.

Doubles are a parameter (`Double`) of which no law is assumed. Memory is a list of bytes and sizes
are 64 bits (`sizeT`). A read outside `data`, which is undefined, is told apart from an exception
(`Fault`). Memory does not run out.
-/

namespace Lidar

/-- `double`, its `<cmath>`, and how the host lays out a `float` and a `double`. -/
class Double (F : Type) extends Add F, Sub F, Mul F, Div F, Neg F, LE F, LT F, BEq F,
    OfScientific F where
  decidableLE : DecidableLE F
  decidableLT : DecidableLT F
  isFinite : F → Bool
  abs : F → F
  hypot : F → F → F
  atan2 : F → F → F
  remainder : F → F → F
  hostIsBigEndian : Bool
  /-- The bytes of a `float`, in host order, widened. -/
  ofFloat : List UInt8 → F
  /-- The bytes of a `double`, in host order. -/
  ofDouble : List UInt8 → F

open Double

variable {F : Type} [Double F]

instance instDecidableLE : DecidableLE F := decidableLE

instance instDecidableLT : DecidableLT F := decidableLT

/-- The `<cmath>` functions whose values are not rational. -/
class Libm where
  hypot : Exact → Exact → Exact
  atan2 : Exact → Exact → Exact
  remainder : Exact → Exact → Exact

/-- Doubles that do not round, on the rover (AArch64). -/
instance [Libm] : Double Exact where
  decidableLE := inferInstance
  decidableLT := inferInstance
  isFinite := Exact.isFinite
  abs := Exact.abs
  hypot := Libm.hypot
  atan2 := Libm.atan2
  remainder := Libm.remainder
  hostIsBigEndian := false
  ofFloat := Exact.binary32
  ofDouble := Exact.binary64

/-! ## `angle_filter.hpp` -/

def kPi : F := 3.14159265358979323846

def degreesToRadians (degrees : F) : F := degrees * kPi / 180.0

def angularDistance (first second : F) : F := abs (remainder (first - second) (2.0 * kPi))

def boundaryTolerance : F := 1e-12

def pointIsMasked (x y frontCenterDeg frontSectorDeg backSectorDeg : F) : Bool :=
  if !isFinite x || !isFinite y || (x == 0.0 && y == 0.0) then false
  else
    let azimuth := atan2 y x
    let frontCenter := degreesToRadians frontCenterDeg
    let backCenter := frontCenter + kPi
    let inFrontSector :=
      decide (frontSectorDeg > 0.0) &&
        decide (angularDistance azimuth frontCenter ≤
          degreesToRadians frontSectorDeg * 0.5 + boundaryTolerance)
    let inBackSector :=
      decide (backSectorDeg > 0.0) &&
        decide (angularDistance azimuth backCenter ≤
          degreesToRadians backSectorDeg * 0.5 + boundaryTolerance)
    inFrontSector || inBackSector

def pointInElevationRange (x y z minElevationDeg maxElevationDeg : F) : Bool :=
  if !isFinite x || !isFinite y || !isFinite z then true
  else
    let elevationDeg := atan2 z (hypot x y) * 180.0 / kPi
    decide (elevationDeg ≥ minElevationDeg) && decide (elevationDeg ≤ maxElevationDeg)

def pointIsUsable (x y z minRange : F) : Bool :=
  if !isFinite x || !isFinite y || !isFinite z then false
  else decide (x * x + y * y + z * z ≥ minRange * minRange)

def scanHasEnoughPoints (usablePoints minUsablePoints : Nat) : Bool :=
  decide (usablePoints ≥ minUsablePoints)

/-! ## Parameters -/

structure Params (F : Type) [Double F] where
  inputTopic : String := "/livox/lidar"
  outputTopic : String := "/livox/lidar_filtered"
  frontCenterDeg : F := 0.0
  frontSectorDeg : F := 30.0
  backSectorDeg : F := 30.0
  minUsablePoints : Int32 := 120
  minUsableRange : F := 0.7
  minElevationDeg : F := -90.0
  maxElevationDeg : F := 90.0

def validSectorWidth (width : F) : Bool :=
  isFinite width && decide (width ≥ 0.0) && decide (width ≤ 180.0)

/-- Throws the text of a std::invalid_argument. -/
def validateParameters (p : Params F) : Except String Unit :=
  if p.inputTopic = p.outputTopic then
    throw "input_topic and output_topic must be different"
  else if !isFinite p.frontCenterDeg then
    throw "front_center_deg must be finite"
  else if p.minUsablePoints < 0 ∨ !isFinite p.minUsableRange ∨ p.minUsableRange < 0.0 then
    throw "min_usable_points and min_usable_range must be >= 0"
  else if !isFinite p.minElevationDeg ∨ !isFinite p.maxElevationDeg ∨
      p.minElevationDeg < -90.0 ∨ p.maxElevationDeg > 90.0 ∨
      p.minElevationDeg ≥ p.maxElevationDeg then
    throw "min_elevation_deg and max_elevation_deg must satisfy -90 <= min < max <= 90"
  else if !validSectorWidth p.frontSectorDeg ∨ !validSectorWidth p.backSectorDeg then
    throw "front_sector_deg and back_sector_deg must be between 0 and 180"
  else return ()

/-- `static_cast<unsigned long>(min_usable_points_)`. -/
def Params.usableThreshold (p : Params F) : Nat := (p.minUsablePoints.toInt % 2 ^ 64).toNat

/-! ## Messages -/

/-- `sensor_msgs/msg/PointField`. -/
structure PointField where
  name : String
  offset : UInt32
  datatype : UInt8
  count : UInt32 := 1
  deriving DecidableEq

def PointField.FLOAT32 : UInt8 := 7

def PointField.FLOAT64 : UInt8 := 8

structure Header where
  stamp : Int := 0
  frameId : String := ""
  deriving DecidableEq

/-- `sensor_msgs/msg/PointCloud2`. -/
structure PointCloud2 where
  header : Header := {}
  height : UInt32 := 0
  width : UInt32 := 0
  fields : List PointField := []
  isBigendian : Bool := false
  pointStep : UInt32 := 0
  rowStep : UInt32 := 0
  data : List UInt8 := []
  isDense : Bool := false
  deriving DecidableEq

/-! ## Reading a point -/

inductive Fault where
  /-- An access outside `data`. -/
  | outOfBounds
  /-- A std::runtime_error. -/
  | runtimeError (what : String)
  deriving DecidableEq

structure CoordinateField where
  offset : UInt32
  datatype : UInt8

/-- The size of a `float` or of a `double`. -/
def sizeOfType (datatype : UInt8) : Nat := if datatype = PointField.FLOAT32 then 4 else 8

def findCoordinateField (cloud : PointCloud2) (name : String) : Except Fault CoordinateField :=
  match cloud.fields.find? fun candidate => candidate.name = name with
  | none => throw (.runtimeError ("PointCloud2 is missing the '" ++ name ++ "' field"))
  | some field =>
    if field.datatype ≠ PointField.FLOAT32 ∧ field.datatype ≠ PointField.FLOAT64 then
      throw (.runtimeError ("PointCloud2 field '" ++ name ++ "' must be FLOAT32 or FLOAT64"))
    else if field.offset.toNat + sizeOfType field.datatype > cloud.pointStep.toNat then
      throw (.runtimeError ("PointCloud2 field '" ++ name ++ "' extends beyond point_step"))
    else return ⟨field.offset, field.datatype⟩

/-- Copying `size` bytes out of `data`. -/
def memcpy (data : List UInt8) (source size : Nat) : Except Fault (List UInt8) :=
  if source + size ≤ data.length then return (data.drop source).take size
  else throw .outOfBounds

def byteSwap (value : List UInt8) : List UInt8 := value.reverse

/-- The coordinate that the bytes of a field hold. -/
def decode (datatype : UInt8) (cloudIsBigEndian : Bool) (value : List UInt8) : F :=
  let value := if cloudIsBigEndian != hostIsBigEndian F then byteSwap value else value
  if datatype = PointField.FLOAT32 then ofFloat value else ofDouble value

def readCoordinate (data : List UInt8) (point : Nat) (field : CoordinateField)
    (cloudIsBigEndian : Bool) : Except Fault F := do
  let value ← memcpy data (point + field.offset.toNat) (sizeOfType field.datatype)
  return decode field.datatype cloudIsBigEndian value

/-! ## `filter_cloud` -/

/-- std::size_t. -/
def sizeT (n : Nat) : Nat := n % 2 ^ 64

/-- What the loops assign. -/
structure Scan where
  data : List UInt8 := []
  keptPoints : Nat := 0
  maskedPoints : Nat := 0
  usablePoints : Nat := 0

/-- The body of the loops. -/
def filterPoint (p : Params F) (cloud : PointCloud2) (xField yField zField : CoordinateField)
    (scan : Scan) (row column : Nat) : Except Fault Scan := do
  let rowOffset := sizeT (row * cloud.rowStep.toNat)
  let offset := sizeT (rowOffset + sizeT (column * cloud.pointStep.toNat))
  if sizeT (offset + cloud.pointStep.toNat) > cloud.data.length then
    throw (.runtimeError "PointCloud2 data is shorter than its dimensions declare")
  else
    let x : F ← readCoordinate cloud.data offset xField cloud.isBigendian
    let y : F ← readCoordinate cloud.data offset yField cloud.isBigendian
    let z : F ← readCoordinate cloud.data offset zField cloud.isBigendian
    if !pointInElevationRange x y z p.minElevationDeg p.maxElevationDeg then
      return { scan with maskedPoints := scan.maskedPoints + 1 }
    else if pointIsMasked x y p.frontCenterDeg p.frontSectorDeg p.backSectorDeg then
      return { scan with maskedPoints := scan.maskedPoints + 1 }
    else
      let point ← memcpy cloud.data offset cloud.pointStep.toNat
      return {
        data := scan.data ++ point
        keptPoints := scan.keptPoints + 1
        maskedPoints := scan.maskedPoints
        usablePoints :=
          scan.usablePoints + if pointIsUsable x y z p.minUsableRange then 1 else 0 }

def scanCloud (p : Params F) (cloud : PointCloud2) : Except Fault Scan := do
  let xField ← findCoordinateField cloud "x"
  let yField ← findCoordinateField cloud "y"
  let zField ← findCoordinateField cloud "z"
  (List.range cloud.height.toNat).foldlM (fun scan row =>
    (List.range cloud.width.toNat).foldlM (fun scan column =>
      filterPoint p cloud xField yField zField scan row column) scan) {}

/-- What is logged, at the most: the macros are throttled. -/
inductive Log (F : Type) where
  /-- warn: Dropping scan: only {usable} points beyond {range:.2f} m (need {needed}). LiDAR covered
  or blocked? {dropped} scans dropped so far. GLIM is not sent this scan. -/
  | dropping (usable : Nat) (range : F) (needed : Int32) (dropped : UInt64)
  /-- debug: Kept {kept} points; masked {masked} points -/
  | kept (kept masked : Nat)
  /-- error: {what} -/
  | error (what : String)

/-- The member that the callback assigns, and what it has sent and logged. -/
structure Node (F : Type) where
  droppedScans : UInt64 := 0
  published : List PointCloud2 := []
  logs : List (Log F) := []

/-- The message a scan is published as. -/
def filtered (cloud : PointCloud2) (scan : Scan) : PointCloud2 :=
  let width := UInt32.ofNat scan.keptPoints
  { header := cloud.header
    height := 1
    width
    fields := cloud.fields
    isBigendian := cloud.isBigendian
    pointStep := cloud.pointStep
    rowStep := width * cloud.pointStep
    data := scan.data
    isDense := cloud.isDense }

/-- The node after a cloud, unless an access was out of bounds. -/
def filterCloud (p : Params F) (node : Node F) (cloud : PointCloud2) : Option (Node F) :=
  match scanCloud p cloud with
  | .error .outOfBounds => none
  | .error (.runtimeError what) => some { node with logs := node.logs ++ [.error what] }
  | .ok scan =>
    if !scanHasEnoughPoints scan.usablePoints p.usableThreshold then
      let dropped := node.droppedScans + 1
      some {
        node with
        droppedScans := dropped
        logs := node.logs ++
          [.dropping scan.usablePoints p.minUsableRange p.minUsablePoints dropped] }
    else
      some {
        node with
        published := node.published ++ [filtered cloud scan]
        logs := node.logs ++ [.kept scan.keptPoints scan.maskedPoints] }

end Lidar
