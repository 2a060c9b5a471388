import Mathlib.Data.Fin.VecNotation
import Mathlib.Order.Fin.Basic
import Kratos.Lib.OrderedMap
import Kratos.Livox.Lds

/-!
# Point frames

`src/livox_ros_driver2/src/comm/pub_handler.cpp`: the SDK's thread queues raw packets, and the thread
of `RawDataProcess` decodes them into a cloud for each LiDAR and cuts the clouds into frames.

`float` and `double` are one type, of which no law is assumed (`CMath`). A packet of the SDK carries
the records that its `data_type` says; reading past them, a division or a remainder by 0 and a write
past a frame's arrays are undefined (`none`). `points_callback_` is set, and what `imu_callback_` does
is in `Imu.lean`.
-/

namespace Livox

class CMath (F : Type) extends Add F, Sub F, Mul F, Div F, Neg F, OfScientific F where
  ofInt : Int → F
  sin : F → F
  cos : F → F

open CMath

/-! ## Packets -/

structure CartesianRawPoint where
  x : Int
  y : Int
  z : Int
  reflectivity : UInt8
  tag : UInt8
  deriving DecidableEq

structure SpherPoint where
  depth : Nat
  theta : Nat
  phi : Nat
  reflectivity : UInt8
  tag : UInt8
  deriving DecidableEq

structure DoubleEchoRawPoint where
  point1 : CartesianRawPoint
  point2 : CartesianRawPoint
  deriving DecidableEq

inductive RawData where
  | imu
  | cartesianHigh (raw : List CartesianRawPoint)
  | cartesianLow (raw : List CartesianRawPoint)
  | spherical (raw : List SpherPoint)
  | doubleEcho (raw : List DoubleEchoRawPoint)
  | unknown
  deriving DecidableEq

inductive DeviceType where
  | industrialHAP
  | mid360
  | mid360s
  | other
  deriving DecidableEq

/-- `LivoxLidarEthernetPacket`; `timestamp` is its eight bytes as a number. -/
structure EthernetPacket where
  timeType : UInt8
  timestamp : UInt64
  timeInterval : UInt16
  dotNum : UInt16
  data : RawData

/-- Its `lidar_type` is always `kLivoxLidarType`. -/
structure RawPacket where
  handle : UInt32
  extrinsicEnable : Bool
  pointNum : UInt32
  lineNum : UInt8
  timeStamp : UInt64
  pointInterval : UInt64
  rawData : RawData
  deriving DecidableEq

def kTimestampTypeNoSync : UInt8 := 0
def kTimestampTypeGptpOrPtp : UInt8 := 1
def kTimestampTypeGps : UInt8 := 2

def kLineNumberDefault : UInt8 := 1
def kLineNumberMid360 : UInt8 := 4
def kLineNumberHAP : UInt8 := 6

def kNsPerSecond : UInt32 := 1000000000
def kNsTolerantFrameTimeDeviation : UInt64 := 1000000
def kRatioOfMsToNs : UInt64 := 1000000

/-- `now` is what the clock gives. -/
def getEthPacketTimestamp (timestampType : UInt8) (timeStamp now : UInt64) : UInt64 :=
  if timestampType = kTimestampTypeGptpOrPtp ∨ timestampType = kTimestampTypeGps then timeStamp
  else now

/-- What `OnLivoxLidarPointCloudCallback` makes of a packet of points. -/
def rawPacket (handle : UInt32) (devType : DeviceType) (data : EthernetPacket) (now : UInt64) :
    Option RawPacket :=
  if data.dotNum = 0 then none
  else
    some
      { handle
        extrinsicEnable := false
        pointNum := data.dotNum.toUInt32
        lineNum :=
          match devType with
          | .industrialHAP => kLineNumberHAP
          | .mid360 | .mid360s => kLineNumberMid360
          | .other => kLineNumberDefault
        timeStamp := getEthPacketTimestamp data.timeType data.timestamp now
        pointInterval := .ofNat (data.timeInterval.toNat * 100 / data.dotNum.toNat)
        rawData := data.data }

/-! ## Extrinsic parameters -/

/-- Millimetres, and a matrix. -/
structure ExtParameterDetailed (F : Type) where
  trans : Fin 3 → F
  rotation : Fin 3 → Fin 3 → F

structure LidarExtParameter (F : Type) where
  lidarType : UInt8
  handle : UInt32
  param : ExtParameter F

variable {F : Type} [CMath F]

/-- The initializer of `extrinsic_`. -/
def ExtParameterDetailed.default : ExtParameterDetailed F where
  trans := ![ofInt 0, ofInt 0, ofInt 0]
  rotation :=
    ![![ofInt 1, ofInt 0, ofInt 0], ![ofInt 0, ofInt 1, ofInt 1], ![ofInt 0, ofInt 0, ofInt 1]]

def kPi : F := 3.14159265358979323846

def ExtParameter.detailed (param : ExtParameter F) : ExtParameterDetailed F :=
  let cosRoll := cos (param.roll * kPi / 180.0)
  let cosPitch := cos (param.pitch * kPi / 180.0)
  let cosYaw := cos (param.yaw * kPi / 180.0)
  let sinRoll := sin (param.roll * kPi / 180.0)
  let sinPitch := sin (param.pitch * kPi / 180.0)
  let sinYaw := sin (param.yaw * kPi / 180.0)
  { trans := ![ofInt param.x.toInt, ofInt param.y.toInt, ofInt param.z.toInt]
    rotation :=
      ![![cosPitch * cosYaw, sinRoll * sinPitch * cosYaw - cosRoll * sinYaw,
          cosRoll * sinPitch * cosYaw + sinRoll * sinYaw],
        ![cosPitch * sinYaw, sinRoll * sinPitch * sinYaw + cosRoll * cosYaw,
          cosRoll * sinPitch * sinYaw - sinRoll * cosYaw],
        ![-sinPitch, sinRoll * cosPitch, cosRoll * cosPitch]] }

/-! ## Decoding -/

/-- The branches on `extrinsic_enable` in `ProcessCartesianHighPoint` and its two relatives; `unit`
is 1000.0 or 100.0. -/
def cartesian (unit : F) (extrinsic : ExtParameterDetailed F) (extrinsicEnable : Bool)
    (raw : CartesianRawPoint) : F × F × F :=
  if extrinsicEnable then (ofInt raw.x / unit, ofInt raw.y / unit, ofInt raw.z / unit)
  else
    let row := fun r : Fin 3 =>
      (ofInt raw.x * extrinsic.rotation r 0 + ofInt raw.y * extrinsic.rotation r 1 +
        ofInt raw.z * extrinsic.rotation r 2 + extrinsic.trans r) / unit
    (row 0, row 1, row 2)

/-- The same branches in `ProcessSphericalPoint`. -/
def spherical (extrinsic : ExtParameterDetailed F) (extrinsicEnable : Bool) (raw : SpherPoint) :
    F × F × F :=
  let radius := ofInt raw.depth / 1000.0
  let theta := ofInt raw.theta / 100.0 / ofInt 180 * kPi
  let phi := ofInt raw.phi / 100.0 / ofInt 180 * kPi
  let srcX := radius * sin theta * cos phi
  let srcY := radius * sin theta * sin phi
  let srcZ := radius * cos theta
  if extrinsicEnable then (srcX, srcY, srcZ)
  else
    let row := fun r : Fin 3 =>
      srcX * extrinsic.rotation r 0 + srcY * extrinsic.rotation r 1 +
        srcZ * extrinsic.rotation r 2 + extrinsic.trans r / 1000.0
    (row 0, row 1, row 2)

namespace RawPacket

/-- The assignments to the other members of a point. -/
def point (pkt : RawPacket) (i : Nat) (xyz : F × F × F) (reflectivity tag : UInt8) :
    PointXyzlt F where
  x := xyz.1
  y := xyz.2.1
  z := xyz.2.2
  intensity := ofInt reflectivity.toNat
  tag
  line := .ofNat (i % pkt.lineNum.toNat)
  offsetTime := pkt.timeStamp + .ofNat i * pkt.pointInterval

/-- `raw[i]`, in a turn that takes `i % line_num` too. -/
def record {R : Type} (pkt : RawPacket) (raw : List R) (i : Nat) : Option R :=
  if pkt.lineNum = 0 then none else raw[i]?

/-- The loops over `raw[i]` for `i < point_num`, with the points that a turn pushes. -/
def forEach {R : Type} (pkt : RawPacket) (raw : List R) (turn : Nat → R → List (PointXyzlt F)) :
    Option (List (PointXyzlt F)) :=
  ((List.range pkt.pointNum.toNat).mapM fun i => (pkt.record raw i).map (turn i)).map List.flatten

def processCartesianHighPoint (pkt : RawPacket) (extrinsic : ExtParameterDetailed F)
    (raw : List CartesianRawPoint) : Option (List (PointXyzlt F)) :=
  pkt.forEach raw fun i r =>
    [pkt.point i (cartesian 1000.0 extrinsic pkt.extrinsicEnable r) r.reflectivity r.tag]

def processCartesianLowPoint (pkt : RawPacket) (extrinsic : ExtParameterDetailed F)
    (raw : List CartesianRawPoint) : Option (List (PointXyzlt F)) :=
  pkt.forEach raw fun i r =>
    [pkt.point i (cartesian 100.0 extrinsic pkt.extrinsicEnable r) r.reflectivity r.tag]

def processSphericalPoint (pkt : RawPacket) (extrinsic : ExtParameterDetailed F)
    (raw : List SpherPoint) : Option (List (PointXyzlt F)) :=
  pkt.forEach raw fun i r =>
    [pkt.point i (spherical extrinsic pkt.extrinsicEnable r) r.reflectivity r.tag]

def processDoubleEchoPoint (pkt : RawPacket) (extrinsic : ExtParameterDetailed F)
    (raw : List DoubleEchoRawPoint) : Option (List (PointXyzlt F)) :=
  pkt.forEach raw fun i r =>
    [pkt.point i (cartesian 1000.0 extrinsic pkt.extrinsicEnable r.point1) r.point1.reflectivity
        r.point1.tag,
      pkt.point i (cartesian 1000.0 extrinsic pkt.extrinsicEnable r.point2) r.point2.reflectivity
        r.point2.tag]

/-- The points that `PointCloudProcess` pushes. -/
def pointCloudProcess (pkt : RawPacket) (extrinsic : ExtParameterDetailed F) :
    Option (List (PointXyzlt F)) :=
  match pkt.rawData with
  | .cartesianHigh raw => pkt.processCartesianHighPoint extrinsic raw
  | .cartesianLow raw => pkt.processCartesianLowPoint extrinsic raw
  | .spherical raw => pkt.processSphericalPoint extrinsic raw
  | .doubleEcho raw => pkt.processDoubleEchoPoint extrinsic raw
  | .imu | .unknown => some []

end RawPacket

/-! ## `LidarPubHandler` -/

structure LidarPubHandler (F : Type) where
  pointsClouds : List (PointXyzlt F)
  extrinsic : ExtParameterDetailed F
  isSetExtrinsicParams : Bool

namespace LidarPubHandler

def new : LidarPubHandler F where
  pointsClouds := []
  extrinsic := .default
  isSetExtrinsicParams := false

def setLidarsExtParam (self : LidarPubHandler F) (lidarParam : LidarExtParameter F) :
    LidarPubHandler F :=
  if self.isSetExtrinsicParams then self
  else { self with extrinsic := lidarParam.param.detailed, isSetExtrinsicParams := true }

omit [CMath F]

def getLidarBaseTime (self : LidarPubHandler F) : UInt64 :=
  match self.pointsClouds.head? with
  | none => 0
  | some point => point.offsetTime

def getRecentTimeStamp (self : LidarPubHandler F) : UInt64 :=
  match self.pointsClouds.getLast? with
  | none => 0
  | some point => point.offsetTime

/-- The cloud, which the caller swaps for its empty one. -/
def getLidarPointClouds (self : LidarPubHandler F) : List (PointXyzlt F) × LidarPubHandler F :=
  (self.pointsClouds, { self with pointsClouds := [] })

end LidarPubHandler

/-! ## `PubHandler` -/

instance instLinearOrderUInt32 : LinearOrder UInt32 where
  le_refl := UInt32.le_refl
  le_trans := fun _ _ _ => UInt32.le_trans
  le_antisymm := fun _ _ => UInt32.le_antisymm
  le_total := UInt32.le_total
  lt_iff_le_not_ge := fun _ _ =>
    ⟨fun h => ⟨UInt32.le_of_lt h, UInt32.not_le.2 h⟩, fun h => UInt32.not_le.1 h.2⟩
  toDecidableLE := inferInstance
  toDecidableEq := inferInstance

/-- Between two passes of `RawDataProcess`. `first` and `is_timestamp_sync_` are static; `frame_` is
empty and each list in `points_` is stale. -/
structure PubHandler (F : Type) where
  rawPacketQueue : List RawPacket := []
  publishInterval : UInt64
  publishIntervalTolerance : UInt64
  publishIntervalMs : UInt64
  lastPubTime : Int := 0
  first : Bool := true
  isTimestampSync : Bool := false
  lidarProcessHandlers : List (UInt32 × LidarPubHandler F) := []
  lidarExtrinsics : List (UInt32 × LidarExtParameter F) := []

/-- What a turn does that can be seen from outside. -/
inductive PubEvent (F : Type) where
  | received (packet : RawPacket)
  | processed (id : UInt32) (packet : RawPacket) (extrinsic : ExtParameterDetailed F)
      (points : List (PointXyzlt F))
  | frame (frame : PointFrame F)

/-- `publish_interval_` for a frequency between 0.5 and 100. -/
def publishIntervalOf (publishFreq : ℚ) : UInt64 :=
  .ofNat ⌊kNsPerSecond.toNat / (publishFreq * 10) * 10⌋₊

def getLidarId (lidarType : UInt8) (handle : UInt32) : UInt32 :=
  if lidarType = kLivoxLidarType then handle else 0

namespace PubHandler

omit [CMath F]

def setPointCloudConfig (publishFreq : ℚ) : PubHandler F where
  publishInterval := publishIntervalOf publishFreq
  publishIntervalTolerance := publishIntervalOf publishFreq - kNsTolerantFrameTimeDeviation
  publishIntervalMs := publishIntervalOf publishFreq / kRatioOfMsToNs

/-- The assignments to an entry of `frame_`. -/
def frameEntry (handle : UInt32) (h : LidarPubHandler F) : UInt64 × PointPacket F :=
  (h.getLidarBaseTime,
    { handle
      lidarType := kLivoxLidarType
      pointsNum := .ofNat h.getLidarPointClouds.1.length
      points := h.getLidarPointClouds.1 })

/-- The loop over `lidar_process_handlers_`; `none` is a write past `base_time`. -/
def collect : List (UInt32 × LidarPubHandler F) → PointFrame F → Option (PointFrame F)
  | [], frame => some frame
  | (handle, h) :: handlers, frame =>
    if kMaxSourceLidar ≤ frame.length then none
    else if h.pointsClouds = [] then collect handlers frame
    else collect handlers (frame ++ [frameEntry handle h])

/-- `h` is the handler of `id`; the frame is what `points_callback_` is called with. -/
def checkTimer (self : PubHandler F) (id : UInt32) (h : LidarPubHandler F) (now : Int) :
    Option (PubHandler F × Option (PointFrame F)) :=
  if self.isTimestampSync then
    let recentTimeMs := h.getRecentTimeStamp / kRatioOfMsToNs
    if self.publishIntervalMs = 0 then none
    else if recentTimeMs % self.publishIntervalMs ≠ 0 ∨ recentTimeMs = 0 then some (self, none)
    else
      let diff := h.getRecentTimeStamp - h.getLidarBaseTime
      if diff < self.publishIntervalTolerance then some (self, none)
      else
        let swapped :=
          { self with
            lidarProcessHandlers :=
              OrderedMap.put self.lidarProcessHandlers id h.getLidarPointClouds.2 }
        if h.getLidarPointClouds.1 = [] then some (swapped, none)
        else some (swapped, some [frameEntry id h])
  else if self.first then some ({ self with lastPubTime := now, first := false }, none)
  else if now - self.lastPubTime < self.publishInterval.toNat then some (self, none)
  else
    (collect self.lidarProcessHandlers []).map fun frame =>
      ({ self with
          lastPubTime := self.lastPubTime + self.publishInterval.toNat
          lidarProcessHandlers :=
            self.lidarProcessHandlers.map fun p => (p.1, p.2.getLidarPointClouds.2) },
        some frame)

end PubHandler

namespace PubHandler

/-- The handler of a LiDAR, which is made at its first packet. -/
def processHandler (self : PubHandler F) (id : UInt32) : LidarPubHandler F :=
  let h := (OrderedMap.find self.lidarProcessHandlers id).getD .new
  match OrderedMap.find self.lidarExtrinsics id with
  | none => h
  | some lidarParam => h.setLidarsExtParam lidarParam

/-- A pass of the loop in `RawDataProcess`, from the front of the queue. -/
def rawDataProcess (self : PubHandler F) (now : Int) : Option (PubHandler F × List (PubEvent F)) :=
  match self.rawPacketQueue with
  | [] => some (self, [])
  | rawData :: rest => do
    let id := getLidarId kLivoxLidarType rawData.handle
    let h := self.processHandler id
    let points ← rawData.pointCloudProcess h.extrinsic
    let h := { h with pointsClouds := h.pointsClouds ++ points }
    let self :=
      { self with
        rawPacketQueue := rest
        lidarProcessHandlers := OrderedMap.put self.lidarProcessHandlers id h }
    let (self, frame) ← self.checkTimer id h now
    some (self, .processed id rawData h.extrinsic points :: (frame.map .frame).toList)

end PubHandler

/-- What the threads do, in any order: the two parts of `OnLivoxLidarPointCloudCallback`, a pass of
`RawDataProcess`, and the setters. -/
inductive PubTurn (F : Type) where
  | sync (timeType : UInt8)
  | receive (handle : UInt32) (devType : DeviceType) (data : EthernetPacket) (now : UInt64)
  | process (now : Int)
  | addLidarsExtParam (lidarParam : LidarExtParameter F)
  | clearAllLidarsExtrinsicParams

namespace PubHandler

def turn (self : PubHandler F) : PubTurn F → Option (PubHandler F × List (PubEvent F))
  | .sync timeType => some ({ self with isTimestampSync := timeType ≠ kTimestampTypeNoSync }, [])
  | .receive handle devType data now =>
    match data.data with
    | .imu => some (self, [])
    | _ =>
      (rawPacket handle devType data now).map fun packet =>
        ({ self with rawPacketQueue := self.rawPacketQueue ++ [packet] }, [.received packet])
  | .process now => self.rawDataProcess now
  | .addLidarsExtParam lidarParam =>
    some
      ({ self with
          lidarExtrinsics :=
            OrderedMap.put self.lidarExtrinsics (getLidarId lidarParam.lidarType lidarParam.handle)
              lidarParam }, [])
  | .clearAllLidarsExtrinsicParams => some ({ self with lidarExtrinsics := [] }, [])

/-- The handler after some turns, and what was seen; `none` if one of them was undefined. -/
def run (self : PubHandler F) : List (PubTurn F) → Option (PubHandler F × List (PubEvent F))
  | [] => some (self, [])
  | t :: ts => do
    let (self, evs) ← self.turn t
    let (self, evs') ← self.run ts
    some (self, evs ++ evs')

end PubHandler

end Livox
