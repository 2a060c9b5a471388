import Mathlib.Algebra.Group.Basic
import Mathlib.Logic.Function.Basic
import Mathlib.Data.List.Induction

/-!
# The waypoint manager

`glim/glim_ext_addon/waypoint_manager/include/glim_ext/waypoint_manager_module.hpp`: the state of
`WaypointManager`, its callbacks and its services. Every callback and service takes `mtx` for its
whole body, so a run is a sequence of calls (`Call`, `WaypointManager.run`).

Stamps `S` are compared with `≤` only and poses `P` are multiplied and inverted only, so both are
left generic: no order law is assumed of stamps (a NaN stamp is in no range), and a rigid
transform is an element of a group.
-/

namespace Waypoint

/-! ## What GLIM hands over -/

/-- The fields of a `glim::EstimationFrame` that the callbacks read. -/
@[ext] structure EstimationFrame (S P : Type) where
  stamp : S
  tWorldSensor : P
  deriving DecidableEq, Repr

/-- The fields of a `glim::SubMap` that the callbacks read; a null frame pointer is `none`.
`originFrame` is GLIM's accessor `origin_frame()`. -/
structure SubMap (S P : Type) where
  id : Int
  frames : List (Option (EstimationFrame S P))
  originFrame : Option (EstimationFrame S P)
  tWorldOrigin : P
  deriving DecidableEq, Repr

/-! ## The state -/

/-- A bound waypoint, stored relative to its submap. -/
structure WaypointEntry (P : Type) where
  name : String
  submapId : Int
  tSubmapSensor : P
  deriving DecidableEq, Repr

/-- A completed submap in odometry coordinates. -/
structure SubmapReference (S P : Type) where
  id : Int
  firstStamp : S
  lastStamp : S
  tOdomOriginSensor : P
  deriving DecidableEq, Repr

/-- A tag whose submap is not finalized yet. -/
structure PendingWaypoint (S P : Type) where
  name : String
  stamp : S
  tOdomSensor : P
  deriving DecidableEq, Repr

structure WaypointManager (S P : Type) where
  hasFrame : Bool
  latestFramePose : P
  latestFrameStamp : S
  submapWorldPose : Int → Option P
  submapReferences : List (SubmapReference S P)
  waypoints : List (WaypointEntry P)
  pendingWaypoints : List (PendingWaypoint S P)

variable {S P : Type}

/-- A freshly constructed manager (the member initializers). -/
def WaypointManager.init [Zero S] [One P] : WaypointManager S P where
  hasFrame := false
  latestFramePose := 1
  latestFrameStamp := 0
  submapWorldPose := fun _ => none
  submapReferences := []
  waypoints := []
  pendingWaypoints := []

/-- `[first_stamp, last_stamp]` contains `stamp`: the test of `find_submap_for_stamp_locked`. -/
def SubmapReference.Covers [LE S] (s : SubmapReference S P) (stamp : S) : Prop :=
  s.firstStamp ≤ stamp ∧ stamp ≤ s.lastStamp

instance [LE S] [DecidableLE S] (s : SubmapReference S P) (stamp : S) :
    Decidable (s.Covers stamp) :=
  inferInstanceAs (Decidable (_ ∧ _))

namespace WaypointManager

/-! ## The locked helpers -/

/-- The newest recorded submap whose range contains the stamp. -/
def findSubmapForStampLocked [LE S] [DecidableLE S] (m : WaypointManager S P) (stamp : S) :
    Option (SubmapReference S P) :=
  m.submapReferences.reverse.find? fun s => s.Covers stamp

def eraseWaypointNamedLocked (m : WaypointManager S P) (name : String) : WaypointManager S P :=
  { m with waypoints := m.waypoints.filter fun wp => wp.name ≠ name }

def erasePendingWaypointNamedLocked (m : WaypointManager S P) (name : String) :
    WaypointManager S P :=
  { m with pendingWaypoints := m.pendingWaypoints.filter fun wp => wp.name ≠ name }

def addWaypointLocked [Mul P] [Inv P] (m : WaypointManager S P) (name : String) (tOdomSensor : P)
    (submap : SubmapReference S P) : WaypointManager S P :=
  { m with
    waypoints := m.waypoints ++
      [{ name, submapId := submap.id,
         tSubmapSensor := submap.tOdomOriginSensor⁻¹ * tOdomSensor }] }

/-- The loop of `bind_pending_waypoints_locked`: `kept` is what the iterator has passed, the list
what is still ahead of it. -/
def bindPendingFrom [LE S] [DecidableLE S] [Mul P] [Inv P] (m : WaypointManager S P)
    (kept : List (PendingWaypoint S P)) : List (PendingWaypoint S P) → WaypointManager S P
  | [] => { m with pendingWaypoints := kept }
  | it :: rest =>
    match m.findSubmapForStampLocked it.stamp with
    | none => bindPendingFrom m (kept ++ [it]) rest
    | some submap => bindPendingFrom (m.addWaypointLocked it.name it.tOdomSensor submap) kept rest

def bindPendingWaypointsLocked [LE S] [DecidableLE S] [Mul P] [Inv P] (m : WaypointManager S P) :
    WaypointManager S P :=
  m.bindPendingFrom [] m.pendingWaypoints

/-! ## The callbacks -/

def onUpdateNewFrame (m : WaypointManager S P) (frame : Option (EstimationFrame S P)) :
    WaypointManager S P :=
  match frame with
  | none => m
  | some frame =>
    { m with
      latestFramePose := frame.tWorldSensor
      latestFrameStamp := frame.stamp
      hasFrame := true }

end WaypointManager

/-- The reference `on_new_submap` records: nothing for a submap without frames, or whose first,
last or origin frame is null. -/
def SubMap.reference? (submap : SubMap S P) : Option (SubmapReference S P) :=
  if submap.frames.isEmpty then none
  else
    match submap.frames.head?.join, submap.frames.getLast?.join, submap.originFrame with
    | some first, some last, some origin =>
      some ⟨submap.id, first.stamp, last.stamp, origin.tWorldSensor⟩
    | _, _, _ => none

namespace WaypointManager

def onNewSubmap [LE S] [DecidableLE S] [Mul P] [Inv P] (m : WaypointManager S P)
    (submap : Option (SubMap S P)) : WaypointManager S P :=
  match submap.bind SubMap.reference? with
  | none => m
  | some ref =>
    { m with submapReferences := m.submapReferences ++ [ref] }.bindPendingWaypointsLocked

def onInsertSubmap (m : WaypointManager S P) (submap : Option (SubMap S P)) :
    WaypointManager S P :=
  match submap with
  | none => m
  | some submap =>
    { m with
      submapWorldPose := Function.update m.submapWorldPose submap.id (some submap.tWorldOrigin) }

/-- One pointer of the vector at a time; a null one is skipped. -/
def onUpdateSubmaps (m : WaypointManager S P) (submaps : List (Option (SubMap S P))) :
    WaypointManager S P :=
  submaps.foldl onInsertSubmap m

/-! ## The services -/

end WaypointManager

structure AddWaypointResponse where
  success : Bool
  message : String
  deriving DecidableEq, Repr

/-- `pose` is set only when `found` is. -/
structure GetWaypointResponse (P : Type) where
  found : Bool
  frameId : String
  pose : Option P
  deriving DecidableEq, Repr

structure SaveWaypointsResponse where
  success : Bool
  message : String
  deriving DecidableEq, Repr

namespace WaypointManager

def addWaypointCb [LE S] [DecidableLE S] [Mul P] [Inv P] (m : WaypointManager S P)
    (name : String) : WaypointManager S P × AddWaypointResponse :=
  if m.hasFrame = false then
    (m, ⟨false, "no odometry yet - move the sensor first"⟩)
  else if name = "" then
    (m, ⟨false, "waypoint name must not be empty"⟩)
  else
    let m := (m.eraseWaypointNamedLocked name).erasePendingWaypointNamedLocked name
    match m.findSubmapForStampLocked m.latestFrameStamp with
    | some submap =>
      (m.addWaypointLocked name m.latestFramePose submap,
        ⟨true, "waypoint '" ++ name ++ "' tagged in submap " ++ toString submap.id⟩)
    | none =>
      ({ m with
          pendingWaypoints :=
            m.pendingWaypoints ++ [⟨name, m.latestFrameStamp, m.latestFramePose⟩] },
        ⟨true, "waypoint '" ++ name ++ "' queued until its submap is finalized"⟩)

/-- The loop skips other names and leaves at the first entry of this one, resolved or not. -/
def getWaypointCb [Mul P] (m : WaypointManager S P) (name : String) : GetWaypointResponse P :=
  match m.waypoints.find? fun wp => wp.name = name with
  | none => ⟨false, "", none⟩
  | some wp =>
    match m.submapWorldPose wp.submapId with
    | none => ⟨false, "", none⟩
    | some tWorldOrigin => ⟨true, "map", some (tWorldOrigin * wp.tSubmapSensor)⟩

def pendingSuffix : String := " (pending)"

def listWaypointsCb (m : WaypointManager S P) : List String :=
  m.waypoints.map (·.name) ++ m.pendingWaypoints.map fun pwp => pwp.name ++ pendingSuffix

/-- `ok` is the result of `write_yaml(path)`. -/
def saveWaypointsCb (m : WaypointManager S P) (path : String) (ok : Bool) :
    SaveWaypointsResponse :=
  let path := if path = "" then "/tmp/waypoints.yaml" else path
  ⟨ok,
    if ok then
      "saved " ++ toString m.waypoints.length ++ " waypoints (" ++
        toString m.pendingWaypoints.length ++ " pending) to " ++ path
    else "failed to open " ++ path⟩

end WaypointManager

/-! ## Runs -/

/-- One call from a GLIM thread or a service client. -/
inductive Call (S P : Type) where
  | newFrame (frame : Option (EstimationFrame S P))
  | newSubmap (submap : Option (SubMap S P))
  | insertSubmap (submap : Option (SubMap S P))
  | updateSubmaps (submaps : List (Option (SubMap S P)))
  | add (name : String)
  | get (name : String)
  | list
  | save (path : String) (ok : Bool)
  deriving DecidableEq, Repr

/-- The responses of the services; a callback of GLIM has none. -/
inductive Reply (P : Type) where
  | void
  | added (res : AddWaypointResponse)
  | got (res : GetWaypointResponse P)
  | listed (names : List String)
  | saved (res : SaveWaypointsResponse)
  deriving DecidableEq, Repr

namespace WaypointManager

variable [LE S] [DecidableLE S] [Mul P] [Inv P]

/-- The state after a call; the three reading services leave it as it is. -/
def step (m : WaypointManager S P) : Call S P → WaypointManager S P
  | .newFrame frame => m.onUpdateNewFrame frame
  | .newSubmap submap => m.onNewSubmap submap
  | .insertSubmap submap => m.onInsertSubmap submap
  | .updateSubmaps submaps => m.onUpdateSubmaps submaps
  | .add name => (m.addWaypointCb name).1
  | .get _ | .list | .save _ _ => m

/-- What a call is answered with. -/
def reply (m : WaypointManager S P) : Call S P → Reply P
  | .add name => .added (m.addWaypointCb name).2
  | .get name => .got (m.getWaypointCb name)
  | .list => .listed m.listWaypointsCb
  | .save path ok => .saved (m.saveWaypointsCb path ok)
  | .newFrame _ | .newSubmap _ | .insertSubmap _ | .updateSubmaps _ => .void

/-- The answers to a history of calls, from any state. -/
def replies (m : WaypointManager S P) : List (Call S P) → List (Reply P)
  | [] => []
  | c :: h => m.reply c :: replies (m.step c) h

/-- The manager after a history of calls. -/
def run [Zero S] [One P] (h : List (Call S P)) : WaypointManager S P :=
  h.foldl step init

@[simp] theorem run_nil [Zero S] [One P] : run ([] : List (Call S P)) = init := rfl

theorem run_append [Zero S] [One P] (h k : List (Call S P)) :
    run (h ++ k) = k.foldl step (run h) := List.foldl_append

theorem run_snoc [Zero S] [One P] (h : List (Call S P)) (c : Call S P) :
    run (h ++ [c]) = (run h).step c := by
  rw [run_append]; rfl

end WaypointManager

end Waypoint
