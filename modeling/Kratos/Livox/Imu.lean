import Kratos.Livox.Lddc

/-!
# IMU data

`PubHandler::OnLivoxLidarPointCloudCallback` for a packet of IMU data with `Lds::StorageImuData`, which
the threads of the SDK run, and `DriverNode::ImuDataPollThread` with `Lddc::DistributeImuData` down to
`PublishImuData`, which the IMU poll thread runs, beside the threads and callbacks of `Node.lean`. A
turn is a statement, as in `Threads.lean`; each call of `LidarImuDataQueue` locks its mutex.

`imu_data` and `imu_semaphore_`, which nothing else reads or writes, stand beside the node. `ResetLds`
has cleared the queues.
-/

namespace Livox

variable {F : Type}

structure RawImuPoint (F : Type) where
  gyroX : F
  gyroY : F
  gyroZ : F
  accX : F
  accY : F
  accZ : F

structure ImuData (F : Type) where
  lidarType : UInt8
  handle : UInt32
  timeStamp : UInt64
  gyroX : F
  gyroY : F
  gyroZ : F
  accX : F
  accY : F
  accZ : F
  deriving DecidableEq

/-- What the callback makes of a packet. -/
def imuDataOf (handle : UInt32) (timeType : UInt8) (timestamp now : UInt64) (imu : RawImuPoint F) :
    ImuData F where
  lidarType := kLivoxLidarType
  handle
  timeStamp := getEthPacketTimestamp timeType timestamp now
  gyroX := imu.gyroX
  gyroY := imu.gyroY
  gyroZ := imu.gyroZ
  accX := imu.accX
  accY := imu.accY
  accZ := imu.accZ

/-! ## Messages -/

/-- The next statement of a thread of the SDK. -/
inductive StoreImuPc (F : Type) where
  /-- Outside `StorageImuData`. -/
  | idle
  | getIndex (imuData : ImuData F)
  | push (i : Index) (imuData : ImuData F)
  | ifEmpty (i : Index)
  /-- `if (imu_semaphore_.GetCount() <= 0)` -/
  | ifCount
  | signal

/-- The next statement of the IMU poll thread. -/
inductive PollImuPc (F : Type) where
  /-- The tests at the top of `DistributeImuData`. -/
  | start
  | wait
  /-- The head of its loop. -/
  | lidars (i : Nat)
  /-- `while (!lds_->IsRequestExit() && !p_queue.Empty())` -/
  | polling (i : Index)
  | pop (i : Index)
  /-- The rest of `PublishImuData`. -/
  | publish (i : Index) (imuData : ImuData F)
  /-- `future_.wait_for(..)` -/
  | status
  | done
  deriving DecidableEq

structure DriverNode (F : Type) where
  node : Node F
  imuData : Index → List (ImuData F) := fun _ => []
  imuSemaphore : Nat := 0
  /-- The threads of the SDK, as many as call back. -/
  store : Nat → StoreImuPc F := fun _ => .idle
  poll : PollImuPc F := .start

inductive DriverTurn (F : Type) where
  | node (t : NodeTurn)
  /-- IMU data of a LiDAR comes to a thread of the SDK. -/
  | receive (k : Nat) (handle : UInt32) (timeType : UInt8) (timestamp now : UInt64)
    (imu : RawImuPoint F)
  | store (k : Nat)
  | poll

inductive DriverEvent (F : Type) where
  | node (e : NodeEvent F)
  | pushed (i : Index) (imuData : ImuData F)
  | popped (i : Index) (imuData : ImuData F)
  | published (i : Index) (imuData : ImuData F)
  deriving DecidableEq

namespace DriverNode

def init [CMath F] (lds : Lds F) (entries : List (ConfigEntry F)) (transferFormat : UInt8)
    (frames : List (PointFrame F)) : DriverNode F where
  node := .init lds entries transferFormat frames

def lds (n : DriverNode F) : Lds F := n.node.driver.lds

/-- The next statement of a thread of the SDK. -/
def toStore (n : DriverNode F) (k : Nat) (pc : StoreImuPc F) : DriverNode F :=
  { n with store := Function.update n.store k pc }

/-- An assignment to a queue. -/
def setImuData (n : DriverNode F) (i : Index) (queue : List (ImuData F)) : DriverNode F :=
  { n with imuData := Function.update n.imuData i queue }

def storeTurn (n : DriverNode F) (k : Nat) : DriverNode F × Option (DriverEvent F) :=
  match n.store k with
  | .idle => (n, none)
  | .getIndex imuData =>
    match n.lds.cacheIndex.getIndex imuData.lidarType imuData.handle with
    | none => (n.toStore k .idle, none)
    | some i => (n.toStore k (.push i imuData), none)
  | .push i imuData =>
    ((n.setImuData i (n.imuData i ++ [imuData])).toStore k (.ifEmpty i), some (.pushed i imuData))
  | .ifEmpty i =>
    if (n.imuData i).isEmpty then (n.toStore k .idle, none) else (n.toStore k .ifCount, none)
  | .ifCount =>
    if n.imuSemaphore ≤ 0 then (n.toStore k .signal, none) else (n.toStore k .idle, none)
  | .signal => ({ n.toStore k .idle with imuSemaphore := n.imuSemaphore + 1 }, none)

def pollTurn (n : DriverNode F) : DriverNode F × Option (DriverEvent F) :=
  match n.poll with
  | .start =>
    if n.lds.requestExit then ({ n with poll := .status }, none) else ({ n with poll := .wait }, none)
  | .wait =>
    if n.imuSemaphore > 0 then
      ({ n with imuSemaphore := n.imuSemaphore - 1, poll := .lidars 0 }, none)
    else (n, none)
  | .lidars i =>
    if h : i < kMaxSourceLidar then
      if (n.lds.lidars ⟨i, h⟩).connectState ≠ .sampling then ({ n with poll := .lidars (i + 1) }, none)
      else ({ n with poll := .polling ⟨i, h⟩ }, none)
    else ({ n with poll := .status }, none)
  | .polling i =>
    if !n.lds.requestExit && !(n.imuData i).isEmpty then ({ n with poll := .pop i }, none)
    else ({ n with poll := .lidars (i + 1) }, none)
  | .pop i =>
    match n.imuData i with
    | [] => ({ n with poll := .polling i }, none)
    | imuData :: rest =>
      ({ n.setImuData i rest with poll := .publish i imuData }, some (.popped i imuData))
  | .publish i imuData => ({ n with poll := .polling i }, some (.published i imuData))
  | .status =>
    if n.node.driver.exitSignal then ({ n with poll := .done }, none)
    else ({ n with poll := .start }, none)
  | .done => (n, none)

def turn (n : DriverNode F) : DriverTurn F → DriverNode F × Option (DriverEvent F)
  | .node t => ({ n with node := (n.node.turn t).1 }, (n.node.turn t).2.map .node)
  | .receive k handle timeType timestamp now imu =>
    match n.store k with
    | .idle => (n.toStore k (.getIndex (imuDataOf handle timeType timestamp now imu)), none)
    -- the thread is in a callback
    | _ => (n, none)
  | .store k => n.storeTurn k
  | .poll => n.pollTurn

def run (n : DriverNode F) (ts : List (DriverTurn F)) : DriverNode F :=
  ts.foldl (fun n t => (n.turn t).1) n

/-- What is seen of these turns. -/
def trace (n : DriverNode F) : List (DriverTurn F) → List (DriverEvent F)
  | [] => []
  | t :: ts => (n.turn t).2.toList ++ trace (n.turn t).1 ts

end DriverNode

end Livox
