import Kratos.Waypoint.Manager

/-!
# Waypoints do not depend on the coordinates

GLIM's poses are in two frames: frames and submaps in that of the odometry, `T_world_origin` in that
of the map. A run with the odometry moved by `H` and the map by `G` (`Call.moved`) binds the same
entries, since an entry is the product of an inverse odometry pose and an odometry pose
(`moved_addWaypointLocked`), and it answers as before, with the poses of `get_waypoint` moved by `G`
(`frame_independence`).
-/

namespace Waypoint

open WaypointManager

variable {S P : Type}

/-! ## Moved inputs and answers -/

section
variable [Mul P] (H G : P)

def EstimationFrame.moved (f : EstimationFrame S P) : EstimationFrame S P :=
  { f with tWorldSensor := H * f.tWorldSensor }

def SubMap.moved (sm : SubMap S P) : SubMap S P :=
  { sm with
    frames := sm.frames.map (Option.map (EstimationFrame.moved H))
    originFrame := sm.originFrame.map (EstimationFrame.moved H)
    tWorldOrigin := G * sm.tWorldOrigin }

def Call.moved : Call S P → Call S P
  | .newFrame frame => .newFrame (frame.map (EstimationFrame.moved H))
  | .newSubmap submap => .newSubmap (submap.map (SubMap.moved H G))
  | .insertSubmap submap => .insertSubmap (submap.map (SubMap.moved H G))
  | .updateSubmaps submaps => .updateSubmaps (submaps.map (Option.map (SubMap.moved H G)))
  | .add name => .add name
  | .get name => .get name
  | .list => .list
  | .save path ok => .save path ok

/-- Only the pose of a waypoint that is found moves. -/
def Reply.moved : Reply P → Reply P
  | .got res => .got { res with pose := res.pose.map (G * ·) }
  | r => r

def SubmapReference.moved (s : SubmapReference S P) : SubmapReference S P :=
  { s with tOdomOriginSensor := H * s.tOdomOriginSensor }

def PendingWaypoint.moved (p : PendingWaypoint S P) : PendingWaypoint S P :=
  { p with tOdomSensor := H * p.tOdomSensor }

/-- The states that two such runs are in. The bound waypoints are the same. -/
structure Moved (m m' : WaypointManager S P) : Prop where
  hasFrame : m'.hasFrame = m.hasFrame
  latestPose : m.hasFrame = true → m'.latestFramePose = H * m.latestFramePose
  latestStamp : m'.latestFrameStamp = m.latestFrameStamp
  world : ∀ id, m'.submapWorldPose id = (m.submapWorldPose id).map (G * ·)
  refs : m'.submapReferences = m.submapReferences.map (SubmapReference.moved H)
  waypoints : m'.waypoints = m.waypoints
  pending : m'.pendingWaypoints = m.pendingWaypoints.map (PendingWaypoint.moved H)

end

/-! ## The helpers -/

section
variable [Group P] {H G : P} {m m' : WaypointManager S P}

theorem moved_init [Zero S] : Moved H G (init : WaypointManager S P) init := by
  constructor <;> simp [init]

theorem Moved.find [LE S] [DecidableLE S] (h : Moved H G m m') (stamp : S) :
    m'.findSubmapForStampLocked stamp =
      (m.findSubmapForStampLocked stamp).map (SubmapReference.moved H) := by
  unfold findSubmapForStampLocked
  rw [h.refs, ← List.map_reverse, List.find?_map]
  rfl

theorem reference?_moved (sm : SubMap S P) :
    (sm.moved H G).reference? = sm.reference?.map (SubmapReference.moved H) := by
  have hfirst : ((sm.moved H G).frames.head?).join =
      (sm.frames.head?).join.map (EstimationFrame.moved H) := by
    show ((sm.frames.map _).head?).join = _
    rw [List.head?_map]
    cases sm.frames.head? <;> rfl
  have hlast : ((sm.moved H G).frames.getLast?).join =
      (sm.frames.getLast?).join.map (EstimationFrame.moved H) := by
    show ((sm.frames.map _).getLast?).join = _
    rw [List.getLast?_map]
    cases sm.frames.getLast? <;> rfl
  have hempty : (sm.moved H G).frames.isEmpty = sm.frames.isEmpty := List.isEmpty_map
  have horigin : (sm.moved H G).originFrame = sm.originFrame.map (EstimationFrame.moved H) := rfl
  unfold SubMap.reference?
  rw [hfirst, hlast, hempty, horigin]
  split
  · rfl
  · cases sm.frames.head?.join <;> cases sm.frames.getLast?.join <;> cases sm.originFrame <;> rfl

/-- **An entry is the same in both runs**: the motion of the odometry cancels. -/
theorem moved_addWaypointLocked (h : Moved H G m m') (name : String) (T : P)
    (s : SubmapReference S P) :
    Moved H G (m.addWaypointLocked name T s)
      (m'.addWaypointLocked name (H * T) (s.moved H)) where
  __ := h
  waypoints := by
    show m'.waypoints ++ [_] = m.waypoints ++ [_]
    rw [h.waypoints]
    have hcancel : (H * s.tOdomOriginSensor)⁻¹ * (H * T) = s.tOdomOriginSensor⁻¹ * T := by
      rw [mul_inv_rev, mul_assoc, inv_mul_cancel_left]
    show _ ++ [WaypointEntry.mk name s.id ((H * s.tOdomOriginSensor)⁻¹ * (H * T))] = _
    rw [hcancel]

theorem Moved.eraseWaypointNamedLocked (h : Moved H G m m') (name : String) :
    Moved H G (m.eraseWaypointNamedLocked name) (m'.eraseWaypointNamedLocked name) where
  __ := h
  waypoints := by
    show m'.waypoints.filter _ = m.waypoints.filter _
    rw [h.waypoints]

theorem Moved.erasePendingWaypointNamedLocked (h : Moved H G m m') (name : String) :
    Moved H G (m.erasePendingWaypointNamedLocked name)
      (m'.erasePendingWaypointNamedLocked name) where
  __ := h
  pending := by
    show m'.pendingWaypoints.filter _ = (m.pendingWaypoints.filter _).map _
    rw [h.pending, List.filter_map]
    rfl

theorem Moved.push (h : Moved H G m m') {p p' : PendingWaypoint S P} (hp : p' = p.moved H) :
    Moved H G { m with pendingWaypoints := m.pendingWaypoints ++ [p] }
      { m' with pendingWaypoints := m'.pendingWaypoints ++ [p'] } where
  __ := h
  pending := by
    show m'.pendingWaypoints ++ [_] = (m.pendingWaypoints ++ [_]).map _
    rw [h.pending, hp, List.map_append]
    rfl

/-! ## The calls -/

theorem Moved.onUpdateNewFrame (h : Moved H G m m') (frame : Option (EstimationFrame S P)) :
    Moved H G (m.onUpdateNewFrame frame)
      (m'.onUpdateNewFrame (frame.map (EstimationFrame.moved H))) := by
  cases frame with
  | none => exact h
  | some f => exact { h with hasFrame := rfl, latestPose := fun _ => rfl, latestStamp := rfl }

theorem Moved.onInsertSubmap (h : Moved H G m m') (submap : Option (SubMap S P)) :
    Moved H G (m.onInsertSubmap submap) (m'.onInsertSubmap (submap.map (SubMap.moved H G))) := by
  cases submap with
  | none => exact h
  | some sm =>
    refine { h with world := fun id => ?_ }
    show Function.update m'.submapWorldPose sm.id (some (G * sm.tWorldOrigin)) id =
      (Function.update m.submapWorldPose sm.id (some sm.tWorldOrigin) id).map _
    by_cases hid : id = sm.id
    · subst hid
      rw [Function.update_self, Function.update_self]
      rfl
    · rw [Function.update_of_ne hid, Function.update_of_ne hid, h.world]

theorem Moved.onUpdateSubmaps (h : Moved H G m m') (submaps : List (Option (SubMap S P))) :
    Moved H G (m.onUpdateSubmaps submaps)
      (m'.onUpdateSubmaps (submaps.map (Option.map (SubMap.moved H G)))) := by
  unfold WaypointManager.onUpdateSubmaps
  induction submaps generalizing m m' with
  | nil => exact h
  | cons submap submaps ih => exact ih (h.onInsertSubmap submap)

theorem Moved.getWaypointCb (h : Moved H G m m') (name : String) :
    Reply.got (m'.getWaypointCb name) = (Reply.got (m.getWaypointCb name)).moved G := by
  unfold WaypointManager.getWaypointCb
  rw [h.waypoints]
  cases m.waypoints.find? _ with
  | none => rfl
  | some wp =>
    dsimp only
    rw [h.world]
    cases m.submapWorldPose wp.submapId with
    | none => rfl
    | some T =>
      show Reply.got ⟨true, "map", some (G * T * wp.tSubmapSensor)⟩ = _
      rw [mul_assoc]
      rfl

theorem Moved.listWaypointsCb (h : Moved H G m m') : m'.listWaypointsCb = m.listWaypointsCb := by
  unfold WaypointManager.listWaypointsCb
  rw [h.waypoints, h.pending, List.map_map]
  rfl

theorem Moved.saveWaypointsCb (h : Moved H G m m') (path : String) (ok : Bool) :
    m'.saveWaypointsCb path ok = m.saveWaypointsCb path ok := by
  unfold WaypointManager.saveWaypointsCb
  rw [h.waypoints, h.pending, List.length_map]

variable [LE S] [DecidableLE S]

theorem Moved.bindPendingFrom (h : Moved H G m m') (kept ps : List (PendingWaypoint S P)) :
    Moved H G (m.bindPendingFrom kept ps)
      (m'.bindPendingFrom (kept.map (PendingWaypoint.moved H))
        (ps.map (PendingWaypoint.moved H))) := by
  induction ps generalizing m m' kept with
  | nil => exact { h with pending := rfl }
  | cons p ps ih =>
    have hfind : m'.findSubmapForStampLocked (p.moved H).stamp =
        (m.findSubmapForStampLocked p.stamp).map (SubmapReference.moved H) := h.find p.stamp
    rw [List.map_cons, WaypointManager.bindPendingFrom, WaypointManager.bindPendingFrom, hfind]
    cases m.findSubmapForStampLocked p.stamp with
    | none =>
      have hkept := ih h (kept ++ [p])
      rw [List.map_append] at hkept
      exact hkept
    | some s => exact ih (moved_addWaypointLocked h p.name p.tOdomSensor s) kept

theorem Moved.onNewSubmap (h : Moved H G m m') (submap : Option (SubMap S P)) :
    Moved H G (m.onNewSubmap submap) (m'.onNewSubmap (submap.map (SubMap.moved H G))) := by
  have href : (submap.map (SubMap.moved H G)).bind SubMap.reference? =
      (submap.bind SubMap.reference?).map (SubmapReference.moved H) := by
    cases submap with
    | none => rfl
    | some sm => exact reference?_moved sm
  unfold WaypointManager.onNewSubmap
  rw [href]
  cases submap.bind SubMap.reference? with
  | none => exact h
  | some s =>
    have hpush : Moved H G { m with submapReferences := m.submapReferences ++ [s] }
        { m' with submapReferences := m'.submapReferences ++ [s.moved H] } :=
      { h with
        refs := by
          show m'.submapReferences ++ [_] = (m.submapReferences ++ [_]).map _
          rw [h.refs, List.map_append]
          rfl }
    have hbind := hpush.bindPendingFrom [] m.pendingWaypoints
    rw [← h.pending] at hbind
    exact hbind

theorem Moved.addWaypointCb (h : Moved H G m m') (name : String) :
    Moved H G (m.addWaypointCb name).1 (m'.addWaypointCb name).1 ∧
      (m'.addWaypointCb name).2 = (m.addWaypointCb name).2 := by
  unfold WaypointManager.addWaypointCb
  rw [h.hasFrame]
  split
  · exact ⟨h, rfl⟩
  · rename_i hframe
    split
    · exact ⟨h, rfl⟩
    · have herase := (h.eraseWaypointNamedLocked name).erasePendingWaypointNamedLocked name
      have hpose := herase.latestPose (Bool.of_not_eq_false hframe)
      dsimp only
      generalize (m.eraseWaypointNamedLocked name).erasePendingWaypointNamedLocked name = e,
        (m'.eraseWaypointNamedLocked name).erasePendingWaypointNamedLocked name = e'
        at herase hpose ⊢
      have hfind : e'.findSubmapForStampLocked e'.latestFrameStamp =
          (e.findSubmapForStampLocked e.latestFrameStamp).map (SubmapReference.moved H) := by
        rw [herase.latestStamp, herase.find]
      rw [hfind]
      cases e.findSubmapForStampLocked e.latestFrameStamp with
      | none =>
        refine ⟨herase.push ?_, rfl⟩
        rw [herase.latestStamp, hpose]
        rfl
      | some s =>
        have hadd := moved_addWaypointLocked herase name e.latestFramePose s
        rw [← hpose] at hadd
        exact ⟨hadd, rfl⟩

/-! ## Two runs -/

theorem Moved.step (h : Moved H G m m') (c : Call S P) :
    Moved H G (m.step c) (m'.step (c.moved H G)) := by
  cases c with
  | newFrame frame => exact h.onUpdateNewFrame frame
  | newSubmap submap => exact h.onNewSubmap submap
  | insertSubmap submap => exact h.onInsertSubmap submap
  | updateSubmaps submaps => exact h.onUpdateSubmaps submaps
  | add name => exact (h.addWaypointCb name).1
  | get name => exact h
  | list => exact h
  | save path ok => exact h

theorem Moved.reply (h : Moved H G m m') (c : Call S P) :
    m'.reply (c.moved H G) = (m.reply c).moved G := by
  cases c with
  | add name => exact congrArg Reply.added (h.addWaypointCb name).2
  | get name => exact h.getWaypointCb name
  | list => exact congrArg Reply.listed h.listWaypointsCb
  | save path ok => exact congrArg Reply.saved (h.saveWaypointsCb path ok)
  | _ => rfl

theorem Moved.foldl (h : Moved H G m m') (cs : List (Call S P)) :
    Moved H G (cs.foldl WaypointManager.step m)
      ((cs.map (Call.moved H G)).foldl WaypointManager.step m') := by
  induction cs generalizing m m' with
  | nil => exact h
  | cons c cs ih => exact ih (h.step c)

theorem Moved.replies (h : Moved H G m m') (cs : List (Call S P)) :
    m'.replies (cs.map (Call.moved H G)) = (m.replies cs).map (Reply.moved G) := by
  induction cs generalizing m m' with
  | nil => rfl
  | cons c cs ih =>
    rw [List.map_cons, WaypointManager.replies, WaypointManager.replies, List.map_cons, h.reply c,
      ih (h.step c)]

/-- **Moving the odometry and the map**: every call is answered as before, with the poses found
moved with the map, and the bound entries are the same. -/
theorem frame_independence [Zero S] (H G : P) (h : List (Call S P)) :
    init.replies (h.map (Call.moved H G)) = (init.replies h).map (Reply.moved G) ∧
      (run (h.map (Call.moved H G))).waypoints = (run h).waypoints :=
  ⟨moved_init.replies h, (moved_init.foldl h).waypoints⟩

end

end Waypoint
