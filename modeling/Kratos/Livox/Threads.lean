import Kratos.Livox.Lds

/-!
# The point thread and the poll thread

`LidarCommonCallback::OnLidarPointClounCb` with `Lds::StoragePointData` and `PushLidarData`, which
the point thread runs for each frame, and `DriverNode::PointCloudDataPollThread` with
`Lddc::DistributePointCloudData` down to `QueuePop`, which the poll thread runs. The threads take
turns in any order. A turn is one statement that reads or writes what they share; of the two indices
that a test of a queue reads, only the other thread's can change under it. Memory is sequentially
consistent, and `InitQueue` is one turn: until `wr_idx` moves the poll thread sees an empty queue.
-/

namespace Livox

variable {F : Type}

/-! ## The state -/

/-- The arguments of `PushLidarData`, and the packets of the frame that come after it. -/
structure Pushing (F : Type) where
  index : Index
  baseTime : UInt64
  packet : PointPacket F
  rest : PointFrame F

/-- What `QueuePushAny` makes of its arguments. -/
def Pushing.stored (p : Pushing F) : StoragePacket F where
  baseTime := p.baseTime
  pointsNum := p.packet.pointsNum
  points := p.packet.points.take p.packet.pointsNum.toNat

/-- The next statement of the point thread. -/
inductive StorePc (F : Type) where
  /-- Outside `StoragePointData`. -/
  | idle
  /-- The head of its loop. -/
  | packets (rest : PointFrame F)
  /-- The test for a null `storage_packet`, with `InitQueue`. -/
  | init (p : Pushing F)
  | ifFull (p : Pushing F)
  | baseTime (p : Pushing F)
  | pointsNum (p : Pushing F)
  | clear (p : Pushing F)
  | copy (p : Pushing F)
  | advance (p : Pushing F)
  | ifEmpty (p : Pushing F)
  /-- `if (pcd_semaphore_.GetCount() <= 0)` -/
  | ifCount (p : Pushing F)
  | signal (p : Pushing F)

/-- The next statement of the poll thread. -/
inductive PollPc (F : Type) where
  /-- The tests at the top of `DistributePointCloudData`. -/
  | start
  | wait
  /-- The head of its loop. -/
  | lidars (i : Nat)
  /-- The test for a null `storage_packet` in `PollingLidarPointCloudData`. -/
  | ifNull (i : Index)
  /-- `while (!lds_->IsRequestExit() && !QueueIsEmpty(p_queue))` -/
  | polling (i : Index)
  /-- `while (!QueueIsEmpty(queue))` in `PublishPointcloud2` and `PublishCustomPointcloud`. -/
  | publishing (i : Index)
  /-- The test in `QueuePrePop`. -/
  | prePop (i : Index)
  | baseTime (i : Index)
  | pointsNum (i : Index) (pkg : StoragePacket F)
  | points (i : Index) (pkg : StoragePacket F)
  | popUpdate (i : Index) (pkg : StoragePacket F)
  /-- The rest of the loop's body. -/
  | publish (i : Index) (pkg : StoragePacket F)
  /-- `future_.wait_for(..)` -/
  | status
  | done
  deriving DecidableEq

structure Driver (F : Type) where
  lds : Lds F
  /-- `transfer_format_`: 0 is `kPointCloud2Msg`, 1 is `kLivoxCustomMsg`. -/
  transferFormat : UInt8
  exitSignal : Bool := false
  /-- The frames that the point thread has still to store. -/
  frames : List (PointFrame F)
  store : StorePc F := .idle
  poll : PollPc F := .start

/-- What a turn does that can be seen from outside. -/
inductive Event (F : Type) where
  | stored (i : Index) (packet : StoragePacket F)
  | dropped (i : Index) (packet : StoragePacket F)
  | taken (i : Index) (pkg : StoragePacket F)
  | published (i : Index) (pkg : StoragePacket F)
  deriving DecidableEq

/-- The driver as its threads start, with the frames that are to come. -/
def Driver.init (lds : Lds F) (transferFormat : UInt8) (frames : List (PointFrame F)) : Driver F where
  lds := { lds.resetLds with pcdSemaphore := 0, requestExit := false }
  transferFormat
  frames

/-! ## The turns -/

namespace Driver

def queue (d : Driver F) (i : Index) : LidarDataQueue F := (d.lds.lidars i).data

/-- An assignment to a member of a queue, and the point thread's next statement. -/
def assign (d : Driver F) (p : Pushing F) (f : LidarDataQueue F → LidarDataQueue F)
    (next : Pushing F → StorePc F) : Driver F :=
  { d with lds := d.lds.setQueue p.index f, store := next p }

def pointTurn (d : Driver F) : Driver F × Option (Event F) :=
  match d.store with
  | .idle =>
    match d.frames with
    | [] => (d, none)
    | frame :: frames => ({ d with frames, store := .packets frame }, none)
  | .packets [] => ({ d with store := .idle }, none)
  | .packets ((baseTime, packet) :: rest) =>
    match d.lds.cacheIndex.getIndex packet.lidarType packet.handle with
    | none => ({ d with store := .packets rest }, none)
    | some index => ({ d with store := .init { index, baseTime, packet, rest } }, none)
  | .init p =>
    if (d.queue p.index).storagePacket = [] then
      (d.assign p (fun _ => initQueue (calculatePacketQueueSize d.lds.publishFreq)) .ifFull, none)
    else ({ d with store := .ifFull p }, none)
  | .ifFull p =>
    if !(d.queue p.index).queueIsFull then ({ d with store := .baseTime p }, none)
    else ({ d with store := .ifCount p }, some (.dropped p.index p.stored))
  | .baseTime p => (d.assign p (·.writeBaseTime p.baseTime) .pointsNum, none)
  | .pointsNum p => (d.assign p (·.writePointsNum p.packet) .clear, none)
  | .clear p => (d.assign p (·.clearPoints) .copy, none)
  | .copy p => (d.assign p (·.copyPoints p.packet) .advance, none)
  | .advance p => (d.assign p (·.advanceWrIdx) .ifEmpty, some (.stored p.index p.stored))
  | .ifEmpty p =>
    if !(d.queue p.index).queueIsEmpty then ({ d with store := .ifCount p }, none)
    else ({ d with store := .packets p.rest }, none)
  | .ifCount p =>
    if d.lds.pcdSemaphore ≤ 0 then ({ d with store := .signal p }, none)
    else ({ d with store := .packets p.rest }, none)
  | .signal p =>
    ({ d with
        lds := { d.lds with pcdSemaphore := d.lds.pcdSemaphore + 1 }
        store := .packets p.rest }, none)

def pollTurn (d : Driver F) : Driver F × Option (Event F) :=
  match d.poll with
  | .start =>
    if d.lds.requestExit then ({ d with poll := .status }, none) else ({ d with poll := .wait }, none)
  | .wait =>
    if d.lds.pcdSemaphore > 0 then
      ({ d with
          lds := { d.lds with pcdSemaphore := d.lds.pcdSemaphore - 1 }
          poll := .lidars 0 }, none)
    else (d, none)
  | .lidars i =>
    if h : i < kMaxSourceLidar then
      if (d.lds.lidars ⟨i, h⟩).connectState ≠ .sampling then ({ d with poll := .lidars (i + 1) }, none)
      else ({ d with poll := .ifNull ⟨i, h⟩ }, none)
    else ({ d with poll := .status }, none)
  | .ifNull i =>
    if (d.queue i).storagePacket = [] then ({ d with poll := .lidars (i + 1) }, none)
    else ({ d with poll := .polling i }, none)
  | .polling i =>
    if !d.lds.requestExit && !(d.queue i).queueIsEmpty then
      -- `PublishPclMsg` returns at once, and another format has no branch
      if d.transferFormat = 0 ∨ d.transferFormat = 1 then ({ d with poll := .publishing i }, none)
      else (d, none)
    else ({ d with poll := .lidars (i + 1) }, none)
  | .publishing i =>
    if !(d.queue i).queueIsEmpty then ({ d with poll := .prePop i }, none)
    else ({ d with poll := .polling i }, none)
  | .prePop i =>
    -- what is not popped has no points
    if (d.queue i).queueIsEmpty then ({ d with poll := .publish i {} }, none)
    else ({ d with poll := .baseTime i }, none)
  | .baseTime i => ({ d with poll := .pointsNum i ((d.queue i).readBaseTime {}) }, none)
  | .pointsNum i pkg => ({ d with poll := .points i ((d.queue i).readPointsNum pkg) }, none)
  | .points i pkg => ({ d with poll := .popUpdate i ((d.queue i).readPoints pkg) }, none)
  | .popUpdate i pkg =>
    ({ d with lds := d.lds.setQueue i (·.queuePopUpdate), poll := .publish i pkg },
      some (.taken i pkg))
  | .publish i pkg =>
    ({ d with poll := .publishing i }, if pkg.points = [] then none else some (.published i pkg))
  | .status =>
    if d.exitSignal then ({ d with poll := .done }, none) else ({ d with poll := .start }, none)
  | .done => (d, none)

end Driver

/-- Whose turn it is: one of the two threads, or a thread of the SDK or of ROS. -/
inductive Turn where
  | point
  | poll
  /-- `GetFreeIndex` for a LiDAR that has come up. -/
  | allot (handle : UInt32)
  /-- `connect_state` becomes `kConnectStateSampling`. -/
  | sampling (i : Index)
  /-- `RequestExit` in the node's destructor. -/
  | requestExit
  /-- `exit_signal_.set_value()` there. -/
  | exitSignal
  deriving DecidableEq

namespace Driver

def turn (d : Driver F) : Turn → Driver F × Option (Event F)
  | .point => d.pointTurn
  | .poll => d.pollTurn
  | .allot handle =>
    ({ d with
        lds :=
          { d.lds with cacheIndex := (d.lds.cacheIndex.getFreeIndex kLivoxLidarType handle).2 } },
      none)
  | .sampling i => ({ d with lds := d.lds.setConnectState i .sampling }, none)
  | .requestExit => ({ d with lds := { d.lds with requestExit := true } }, none)
  | .exitSignal => ({ d with exitSignal := true }, none)

/-- The driver after some turns. -/
def run (d : Driver F) (ts : List Turn) : Driver F := ts.foldl (fun d t => (d.turn t).1) d

/-- What is seen of these turns. -/
def trace (d : Driver F) : List Turn → List (Event F)
  | [] => []
  | t :: ts => (d.turn t).2.toList ++ trace (d.turn t).1 ts

end Driver

end Livox
