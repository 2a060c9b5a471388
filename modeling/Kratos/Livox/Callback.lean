import Kratos.Livox.PubHandler

/-!
# Setting the LiDARs up

`src/livox_ros_driver2/src` (`parse_cfg_file/parse_livox_lidar_cfg.cpp`, `lds_lidar.cpp` and
`call_back/livox_lidar_callback.cpp`): the entries of `lidar_configs`, the devices that
`InitLivoxLidar` makes of them, and the callbacks of the SDK, which ask each LiDAR for its settings
until it has acknowledged them.

The SDK answers a request by its callback, or never. `config_mutex_` is held while `set_bits` is
changed, so that a callback is one step; an answer that is neither a success nor a timeout has a
response.
-/

namespace Livox

variable {F : Type}

/-! ## `parse_livox_lidar_cfg.cpp` -/

/-- `extrinsic_parameter`, with the members that it has. -/
structure ExtrinsicEntry (F : Type) where
  roll : Option F := none
  pitch : Option F := none
  yaw : Option F := none
  x : Option Int32 := none
  y : Option Int32 := none
  z : Option Int32 := none

/-- An entry of `lidar_configs`, with the members that it has; `ip` is what `inet_addr` makes of
it. -/
structure ConfigEntry (F : Type) where
  ip : Option UInt32
  pclDataType : Option Int32 := none
  patternMode : Option Int32 := none
  blindSpotSet : Option Int32 := none
  dualEmitEn : Option Int32 := none
  extrinsicParameter : Option (ExtrinsicEntry F) := none

section

variable [CMath F]

def parseExtrinsics (value : ExtrinsicEntry F) : ExtParameter F where
  roll := value.roll.getD (CMath.ofInt 0)
  pitch := value.pitch.getD (CMath.ofInt 0)
  yaw := value.yaw.getD (CMath.ofInt 0)
  x := value.x.getD 0
  y := value.y.getD 0
  z := value.z.getD 0

/-- The body of the loop in `ParseUserConfigs`. -/
def parseUserConfig (config : ConfigEntry F) : Option (UserLivoxLidarConfig F) :=
  config.ip.map fun handle =>
    { handle
      pclDataType := (config.pclDataType.map Int32.toInt8).getD (-1)
      patternMode := (config.patternMode.map Int32.toInt8).getD (-1)
      -- an `int8_t` although the member is wider
      blindSpotSet := (config.blindSpotSet.map fun n => n.toInt8.toInt32).getD (-1)
      dualEmitEn := (config.dualEmitEn.map Int32.toInt8).getD (-1)
      extrinsicParam := (config.extrinsicParameter.map parseExtrinsics).getD (parseExtrinsics {})
      setBits := 0 }

/-- What `Parse` leaves in its argument, whether or not it succeeds. -/
def parseUserConfigs (entries : List (ConfigEntry F)) : List (UserLivoxLidarConfig F) :=
  entries.filterMap parseUserConfig

end

/-! ## `lds_lidar.cpp` -/

/-- 16 bits for a coordinate, in centimetres. -/
def kLivoxLidarCartesianCoordinateLowData : Int8 := 2

def lidarParam (config : UserLivoxLidarConfig F) : LidarExtParameter F where
  lidarType := kLivoxLidarType
  handle := config.handle
  param :=
    if config.pclDataType = kLivoxLidarCartesianCoordinateLowData then
      { config.extrinsicParam with
        x := config.extrinsicParam.x / 10
        y := config.extrinsicParam.y / 10
        z := config.extrinsicParam.z / 10 }
    else config.extrinsicParam

/-- A turn of the loop in `InitLivoxLidar`: the devices, and the calls of `AddLidarsExtParam`. -/
def addUserConfig (st : Lds F × List (LidarExtParameter F)) (config : UserLivoxLidarConfig F) :
    Lds F × List (LidarExtParameter F) :=
  match st.1.cacheIndex.getFreeIndex kLivoxLidarType config.handle with
  | (none, _) => st
  | (some index, cacheIndex) =>
    let lidar :=
      { st.1.lidars index with
        lidarType := kLivoxLidarType
        livoxConfig := config
        handle := config.handle }
    ({ st.1 with cacheIndex, lidars := Function.update st.1.lidars index lidar },
      st.2 ++ [lidarParam config])

def initLivoxLidar (lds : Lds F) (userConfigs : List (UserLivoxLidarConfig F)) :
    Lds F × List (LidarExtParameter F) :=
  userConfigs.foldl addUserConfig (lds, [])

/-! ## Requests -/

def kConfigDataType : BitVec 32 := 1 <<< 0
def kConfigScanPattern : BitVec 32 := 1 <<< 1
def kConfigBlindSpot : BitVec 32 := 1 <<< 2
def kConfigDualEmit : BitVec 32 := 1 <<< 3

/-- The settings that have a bit in `set_bits`. -/
inductive Setting where
  | dataType
  | scanPattern
  | blindSpot
  | dualEmit
  deriving DecidableEq

def Setting.bit : Setting → BitVec 32
  | .dataType => kConfigDataType
  | .scanPattern => kConfigScanPattern
  | .blindSpot => kConfigBlindSpot
  | .dualEmit => kConfigDualEmit

/-- The calls of the SDK with their values; the work mode is `kLivoxLidarNormal`. -/
inductive Request (F : Type) where
  | pclDataType (dataType : Int8)
  | scanPattern (pattern : Int8)
  | blindSpot (distance : UInt32)
  | dualEmit (enable : Bool)
  | installAttitude (attitude : ExtParameter F)
  | workMode
  | imuData
  deriving DecidableEq

def Request.setting? : Request F → Option Setting
  | .pclDataType _ => some .dataType
  | .scanPattern _ => some .scanPattern
  | .blindSpot _ => some .blindSpot
  | .dualEmit _ => some .dualEmit
  | _ => none

namespace UserLivoxLidarConfig

/-- The test for -1 of a member. -/
def has (config : UserLivoxLidarConfig F) : Setting → Bool
  | .dataType => config.pclDataType ≠ -1
  | .scanPattern => config.patternMode ≠ -1
  | .blindSpot => config.blindSpotSet ≠ -1
  | .dualEmit => config.dualEmitEn ≠ -1

def request (config : UserLivoxLidarConfig F) : Setting → Request F
  | .dataType => .pclDataType config.pclDataType
  | .scanPattern => .scanPattern config.patternMode
  | .blindSpot => .blindSpot config.blindSpotSet.toUInt32
  | .dualEmit => .dualEmit (config.dualEmitEn ≠ 0)

end UserLivoxLidarConfig

inductive LivoxStatus where
  | success
  | timeout
  | failure
  deriving DecidableEq

/-! ## `livox_lidar_callback.cpp` -/

structure LdsLidar (F : Type) where
  lds : Lds F
  /-- The requests that are not answered, in the order in which they were made. -/
  requests : List (UInt32 × Request F) := []

namespace LdsLidar

/-- A call of the SDK. -/
def send (self : LdsLidar F) (handle : UInt32) (request : Request F) : LdsLidar F :=
  { self with requests := self.requests ++ [(handle, request)] }

def config (self : LdsLidar F) (i : Index) : UserLivoxLidarConfig F := (self.lds.lidars i).livoxConfig

/-- An assignment to `set_bits`. -/
def setBits (self : LdsLidar F) (i : Index) (f : BitVec 32 → BitVec 32) : LdsLidar F :=
  let lidar :=
    { self.lds.lidars i with
      livoxConfig := { self.config i with setBits := f (self.config i).setBits } }
  { self with lds := { self.lds with lidars := Function.update self.lds.lidars i lidar } }

/-- `if (!lidar_device->livox_config.set_bits)` with its assignment. -/
def sampleIfSet (self : LdsLidar F) (i : Index) : LdsLidar F :=
  if (self.config i).setBits = 0 then { self with lds := self.lds.setConnectState i .sampling }
  else self

def getLidarDevice (self : LdsLidar F) (handle : UInt32) : Option Index :=
  self.lds.cacheIndex.getIndex kLivoxLidarType handle

/-- One of the four blocks under the lock in `LidarInfoChangeCallback`. -/
def ask (handle : UInt32) (i : Index) (self : LdsLidar F) (setting : Setting) : LdsLidar F :=
  if (self.config i).has setting then
    (self.setBits i (· ||| setting.bit)).send handle ((self.config i).request setting)
  else self

def lidarInfoChangeCallback (self : LdsLidar F) (handle : UInt32) : LdsLidar F :=
  match self.getLidarDevice handle with
  | none =>
    match self.lds.cacheIndex.getFreeIndex kLivoxLidarType handle with
    | (none, _) => self
    | (some index, cacheIndex) =>
      let lidar := { self.lds.lidars index with lidarType := kLivoxLidarType }
      let self :=
        { self with
          lds :=
            { self.lds with cacheIndex, lidars := Function.update self.lds.lidars index lidar } }
      (self.send handle .workMode).send handle .imuData
  | some i =>
    let self := [.dataType, .scanPattern, .blindSpot, .dualEmit].foldl (ask handle i) self
    let self := self.sampleIfSet i
    let self := self.send (self.config i).handle (.installAttitude (self.config i).extrinsicParam)
    (self.send handle .workMode).send handle .imuData

/-- What the next four callbacks do. -/
def setCallback (setting : Setting) (self : LdsLidar F) (status : LivoxStatus) (handle : UInt32) :
    LdsLidar F :=
  match self.getLidarDevice handle with
  | none => self
  | some i =>
    match status with
    | .success => (self.setBits i (· &&& ~~~setting.bit)).sampleIfSet i
    | .timeout => self.send handle ((self.config i).request setting)
    | .failure => self

def setDataTypeCallback : LdsLidar F → LivoxStatus → UInt32 → LdsLidar F := setCallback .dataType
def setPatternModeCallback : LdsLidar F → LivoxStatus → UInt32 → LdsLidar F := setCallback .scanPattern
def setBlindSpotCallback : LdsLidar F → LivoxStatus → UInt32 → LdsLidar F := setCallback .blindSpot
def setDualEmitCallback : LdsLidar F → LivoxStatus → UInt32 → LdsLidar F := setCallback .dualEmit

def setAttitudeCallback (self : LdsLidar F) (status : LivoxStatus) (handle : UInt32) : LdsLidar F :=
  match self.getLidarDevice handle with
  | none => self
  | some i =>
    match status with
    | .timeout =>
      self.send (self.config i).handle (.installAttitude (self.config i).extrinsicParam)
    | .success | .failure => self

def workModeChangedCallback (self : LdsLidar F) (status : LivoxStatus) (handle : UInt32) :
    LdsLidar F :=
  if status ≠ .success then self.send handle .workMode else self

/-- `response` is false where the pointer is null. -/
def enableLivoxLidarImuDataCallback (self : LdsLidar F) (status : LivoxStatus) (handle : UInt32)
    (response : Bool) : LdsLidar F :=
  match self.getLidarDevice handle with
  | none => self
  | some _ => if response ∧ status = .timeout then self.send handle .imuData else self

/-- The callback that a request was given. -/
def callback (self : LdsLidar F) (handle : UInt32) (status : LivoxStatus) (response : Bool) :
    Request F → LdsLidar F
  | .pclDataType _ => self.setDataTypeCallback status handle
  | .scanPattern _ => self.setPatternModeCallback status handle
  | .blindSpot _ => self.setBlindSpotCallback status handle
  | .dualEmit _ => self.setDualEmitCallback status handle
  | .installAttitude _ => self.setAttitudeCallback status handle
  | .workMode => self.workModeChangedCallback status handle
  | .imuData => self.enableLivoxLidarImuDataCallback status handle response

end LdsLidar

/-- What the SDK does, in any order: it tells of a LiDAR, or answers a request. -/
inductive SdkTurn where
  | infoChange (handle : UInt32)
  | answer (n : Nat) (status : LivoxStatus) (response : Bool)
  deriving DecidableEq

inductive SdkEvent (F : Type) where
  | changed (handle : UInt32)
  | answered (handle : UInt32) (request : Request F) (status : LivoxStatus)
  deriving DecidableEq

namespace LdsLidar

/-- The devices of the entries, before the SDK has called. -/
def init [CMath F] (lds : Lds F) (entries : List (ConfigEntry F)) : LdsLidar F where
  lds := (initLivoxLidar { lds.resetLds with cacheIndex := {} } (parseUserConfigs entries)).1

/-- The calls of `AddLidarsExtParam` for them. -/
def initParams [CMath F] (lds : Lds F) (entries : List (ConfigEntry F)) :
    List (LidarExtParameter F) :=
  (initLivoxLidar { lds.resetLds with cacheIndex := {} } (parseUserConfigs entries)).2

def turn (self : LdsLidar F) : SdkTurn → LdsLidar F × Option (SdkEvent F)
  | .infoChange handle => (self.lidarInfoChangeCallback handle, some (.changed handle))
  | .answer n status response =>
    match self.requests[n]? with
    | none => (self, none)
    | some (handle, request) =>
      ({ self with requests := self.requests.eraseIdx n }.callback handle status response request,
        some (.answered handle request status))

def run (self : LdsLidar F) (ts : List SdkTurn) : LdsLidar F :=
  ts.foldl (fun self t => (self.turn t).1) self

/-- What is seen of these turns. -/
def trace (self : LdsLidar F) : List SdkTurn → List (SdkEvent F)
  | [] => []
  | t :: ts => (self.turn t).2.toList ++ trace (self.turn t).1 ts

end LdsLidar

end Livox
