import Mathlib.Algebra.Order.Floor.Semiring
import Mathlib.Data.Rat.Floor
import Mathlib.Logic.Function.Basic

/-!
# The LiDAR driver's storage

`src/livox_ros_driver2/src/comm` (`comm.h`, `ldq.cpp`, `cache_index.cpp`) and `lds.cpp`: what stands
between the thread that makes point frames and the thread that publishes them. A `float` is left
generic. Memory does not run out. The members for IMU data are in `Imu.lean`.
-/

namespace Livox

/-- `kMaxSourceLidar`: the places of LiDARs, and the size of a frame's arrays. -/
abbrev kMaxSourceLidar : Nat := 32

/-- A place in `lidars_`. -/
abbrev Index := Fin kMaxSourceLidar

/-- The one `LidarProtoType` that the driver serves. -/
def kLivoxLidarType : UInt8 := 8

/-! ## Points -/

structure PointXyzlt (F : Type) where
  x : F
  y : F
  z : F
  intensity : F
  tag : UInt8
  line : UInt8
  offsetTime : UInt64
  deriving DecidableEq

/-- The points of one LiDAR in a frame. -/
structure PointPacket (F : Type) where
  handle : UInt32
  lidarType : UInt8
  pointsNum : UInt32
  points : List (PointXyzlt F)

/-- The first `lidar_num` entries of `base_time` and `lidar_point`. -/
abbrev PointFrame (F : Type) := List (UInt64 × PointPacket F)

structure StoragePacket (F : Type) where
  baseTime : UInt64 := 0
  pointsNum : UInt32 := 0
  points : List (PointXyzlt F) := []
  deriving DecidableEq

/-! ## `ldq.cpp` -/

/-- `storagePacket` is empty when the pointer is null. -/
structure LidarDataQueue (F : Type) where
  storagePacket : List (StoragePacket F) := []
  rdIdx : UInt32 := 0
  wrIdx : UInt32 := 0
  mask : UInt32 := 0
  size : UInt32 := 0

def isPowerOf2 (size : UInt32) : Bool := size != 0 && (size &&& (size - 1)) == 0

/-- The least of `1 << 0` to `1 << 31` that is not smaller, or the last one. -/
def roundupPowerOf2 (size : UInt32) : UInt32 :=
  (((List.range 32).map fun i => (1 : UInt32) <<< UInt32.ofNat i).find? (size ≤ ·)).getD
    ((1 : UInt32) <<< 31)

/-- `publish_freq` is at most 100. -/
def calculatePacketQueueSize (publishFreq : ℚ) : UInt32 :=
  if publishFreq > 10 then UInt32.ofNat ⌊publishFreq⌋₊ + 1 else 10

variable {F : Type}

def initQueue (queueSize : UInt32) : LidarDataQueue F :=
  let queueSize := if isPowerOf2 queueSize then queueSize else roundupPowerOf2 queueSize
  { storagePacket := List.replicate queueSize.toNat {}
    rdIdx := 0
    wrIdx := 0
    size := queueSize
    mask := queueSize - 1 }

namespace LidarDataQueue

def queueUsedSize (queue : LidarDataQueue F) : UInt32 := queue.wrIdx - queue.rdIdx

def queueIsFull (queue : LidarDataQueue F) : Bool := queue.wrIdx - queue.rdIdx > queue.mask

def queueIsEmpty (queue : LidarDataQueue F) : Bool := queue.rdIdx == queue.wrIdx

/-- An assignment to `queue->storage_packet[wr_idx & mask]`. -/
def write (queue : LidarDataQueue F) (f : StoragePacket F → StoragePacket F) : LidarDataQueue F :=
  { queue with storagePacket := queue.storagePacket.modify (queue.wrIdx &&& queue.mask).toNat f }

/-! The statements of `QueuePushAny`. -/

def writeBaseTime (queue : LidarDataQueue F) (baseTime : UInt64) : LidarDataQueue F :=
  queue.write fun cell => { cell with baseTime }

def writePointsNum (queue : LidarDataQueue F) (packet : PointPacket F) : LidarDataQueue F :=
  queue.write fun cell => { cell with pointsNum := packet.pointsNum }

def clearPoints (queue : LidarDataQueue F) : LidarDataQueue F :=
  queue.write fun cell => { cell with points := [] }

def copyPoints (queue : LidarDataQueue F) (packet : PointPacket F) : LidarDataQueue F :=
  queue.write fun cell => { cell with points := packet.points.take packet.pointsNum.toNat }

def advanceWrIdx (queue : LidarDataQueue F) : LidarDataQueue F :=
  { queue with wrIdx := queue.wrIdx + 1 }

/-- `queue->storage_packet[rd_idx & mask]`. -/
def front (queue : LidarDataQueue F) : StoragePacket F :=
  queue.storagePacket.getD (queue.rdIdx &&& queue.mask).toNat {}

/-! The statements of `QueuePrePop` on the packet that it fills. -/

def readBaseTime (queue : LidarDataQueue F) (pkg : StoragePacket F) : StoragePacket F :=
  { pkg with baseTime := queue.front.baseTime }

def readPointsNum (queue : LidarDataQueue F) (pkg : StoragePacket F) : StoragePacket F :=
  { pkg with pointsNum := queue.front.pointsNum }

def readPoints (queue : LidarDataQueue F) (pkg : StoragePacket F) : StoragePacket F :=
  { pkg with points := queue.front.points.take pkg.pointsNum.toNat }

def queuePopUpdate (queue : LidarDataQueue F) : LidarDataQueue F :=
  { queue with rdIdx := queue.rdIdx + 1 }

end LidarDataQueue

/-! ## `cache_index.cpp` -/

/-- The places that are taken, and under which key. -/
structure CacheIndex where
  mapIndex : String → Option Index := fun _ => none
  indexCache : Index → Bool := fun _ => false

def generateIndexKey (livoxLidarType : UInt8) (handle : UInt32) : Option String :=
  if livoxLidarType = kLivoxLidarType then some ("livox_lidar_" ++ toString handle.toNat) else none

namespace CacheIndex

def getIndex (c : CacheIndex) (livoxLidarType : UInt8) (handle : UInt32) : Option Index :=
  (generateIndexKey livoxLidarType handle).bind c.mapIndex

/-- The second locked block of `GetFreeIndex`: the first place that is not taken. -/
def takeIndex (c : CacheIndex) (key : String) : Option Index × CacheIndex :=
  match (List.finRange kMaxSourceLidar).find? fun i => !c.indexCache i with
  | none => (none, c)
  | some i =>
    (some i,
      { mapIndex := Function.update c.mapIndex key (some i)
        indexCache := Function.update c.indexCache i true })

/-- The place, and the cache after the call; `none` is the return code `-1`. -/
def getFreeIndex (c : CacheIndex) (livoxLidarType : UInt8) (handle : UInt32) :
    Option Index × CacheIndex :=
  match generateIndexKey livoxLidarType handle with
  | none => (none, c)
  | some key =>
    match c.mapIndex key with
    | some index => (some index, c)
    | none => c.takeIndex key

/-- `lidar_type` and `handle` of the device. -/
def resetIndex (c : CacheIndex) (lidarType : UInt8) (handle : UInt32) : CacheIndex :=
  match generateIndexKey lidarType handle with
  | none => c
  | some key =>
    match c.mapIndex key with
    | none => c
    | some index =>
      { mapIndex := Function.update c.mapIndex key none
        indexCache := Function.update c.indexCache index false }

end CacheIndex

/-! Calls of `GetFreeIndex` by several threads: other calls may come between its locked blocks. -/

/-- The keys of the calls that have left the first block, with no place found. -/
structure Calls where
  cache : CacheIndex := {}
  pending : List String := []

inductive CallTurn where
  /-- A call, up to the end of its first block. -/
  | enter (livoxLidarType : UInt8) (handle : UInt32)
  /-- The second block of the `n`-th pending call. -/
  | take (n : Nat)
  | resetIndex (lidarType : UInt8) (handle : UInt32)
  deriving DecidableEq

namespace Calls

def turn (c : Calls) : CallTurn → Calls
  | .enter livoxLidarType handle =>
    match generateIndexKey livoxLidarType handle with
    | none => c
    | some key =>
      match c.cache.mapIndex key with
      | some _ => c
      | none => { c with pending := c.pending ++ [key] }
  | .take n =>
    match c.pending[n]? with
    | none => c
    | some key => { cache := (c.cache.takeIndex key).2, pending := c.pending.eraseIdx n }
  | .resetIndex lidarType handle => { c with cache := c.cache.resetIndex lidarType handle }

def run (c : Calls) (ts : List CallTurn) : Calls := ts.foldl turn c

end Calls

/-! ## `lds.cpp` -/

inductive LidarConnectState where
  | off
  | on
  | config
  | sampling
  deriving DecidableEq

/-- Degrees, and millimetres. -/
structure ExtParameter (F : Type) where
  roll : F
  pitch : F
  yaw : F
  x : Int32
  y : Int32
  z : Int32
  deriving DecidableEq

structure UserLivoxLidarConfig (F : Type) where
  handle : UInt32
  pclDataType : Int8
  patternMode : Int8
  blindSpotSet : Int32
  dualEmitEn : Int8
  extrinsicParam : ExtParameter F
  setBits : BitVec 32
  deriving DecidableEq

structure LidarDevice (F : Type) where
  lidarType : UInt8
  handle : UInt32
  connectState : LidarConnectState
  data : LidarDataQueue F
  livoxConfig : UserLivoxLidarConfig F

/-- The members of `Lds`; a `Semaphore` is its `count_`. -/
structure Lds (F : Type) where
  lidars : Index → LidarDevice F
  pcdSemaphore : Nat := 0
  cacheIndex : CacheIndex := {}
  publishFreq : ℚ
  requestExit : Bool := false

/-- `storage_packet` is null in a device that is reset: `ResetLds` runs in the constructor. -/
def resetLidar (lidar : LidarDevice F) : LidarDevice F :=
  { lidar with data := {}, connectState := .off }

namespace Lds

def resetLds (lds : Lds F) : Lds F := { lds with lidars := fun i => resetLidar (lds.lidars i) }

def setQueue (lds : Lds F) (i : Index) (f : LidarDataQueue F → LidarDataQueue F) : Lds F :=
  { lds with
    lidars := Function.update lds.lidars i { lds.lidars i with data := f (lds.lidars i).data } }

def setConnectState (lds : Lds F) (i : Index) (state : LidarConnectState) : Lds F :=
  { lds with lidars := Function.update lds.lidars i { lds.lidars i with connectState := state } }

end Lds

end Livox
