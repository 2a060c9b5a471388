import Mathlib.Logic.Function.Basic
import Kratos.Lib.Prog

/-!
# The world of a mission

`src/kratos_nav/scripts/waypoint_mission.py` talks to Nav2 through goal requests, answers,
results, feedback and cancels, and to GLIM through service calls. The node is spun only where the
script waits, so a run is fed a list of `Tick`s, one for each spin, each with the messages that
move during it. No bound is put on delays: what happens when is the list's choice.

A goal request is named by its place in `World.goals`, and so is everything about it: what Nav2
made of it (`World.phase`) and the futures the node holds (`World.answer`, `World.result`).

`World.trace` records, newest first, what the script sends, processes and returns. No function of
the script reads it.
-/

namespace Mission

/-! ## Geometry -/

/-- The poses of a run. `toBase` is the 2D composition in `resolve`, `moved` the `math.hypot` of
two goals' x and y, and `gt` is Python's `>` on distances, of which no law is assumed. -/
structure Geometry where
  SensorPose : Type
  Offset : Type
  BasePose : Type
  Dist : Type
  toBase : SensorPose → Offset → BasePose
  moved : BasePose → BasePose → Dist
  gt : Dist → Dist → Bool

/-- Poses on a line, for concrete runs. -/
def Geometry.line : Geometry where
  SensorPose := Int
  Offset := Int
  BasePose := Int
  Dist := Nat
  toBase sensor offset := sensor + offset
  moved a b := (a - b).natAbs
  gt a b := decide (b < a)

/-- What `resolve` fills in of a `PoseStamped`. -/
structure PoseStamped (G : Geometry) where
  frameId : String
  stamp : Int
  pose : G.BasePose

/-- The answer of `/get_waypoint`, as far as `resolve` reads it. -/
structure WaypointResponse (G : Geometry) where
  found : Bool
  frameId : String
  pose : G.SensorPose

/-! ## Messages -/

/-- `action_msgs/msg/GoalStatus`. -/
inductive GoalStatus where
  | unknown | accepted | executing | canceling | succeeded | canceled | aborted
  deriving DecidableEq, Repr

/-- A goal request, named by its place among all requests sent. -/
abbrev GoalId := Nat

inductive GoalMsg (G : Geometry) where
  | navigateToPose (pose : PoseStamped G)
  | navigateThroughPoses (poses : List (PoseStamped G))

inductive Request where
  | getWaypoint (name : String)
  | listWaypoints
  deriving DecidableEq, Repr

/-- What Nav2 has made of a goal request. -/
inductive Phase where
  | requested
  | rejected
  | executing
  /-- A later goal was accepted while this one was executing. -/
  | preempted
  | ended (status : GoalStatus)
  deriving DecidableEq, Repr

/-- The log messages, by the text they have in the source. -/
inductive LogMsg (G : Geometry) where
  /-- error: service {srv_name} not available (is GLIM running?) -/
  | serviceUnavailable (service : String)
  /-- error: no TF {sensor} -> {base}; is nav.launch.py running? -/
  | noTransform (sensor base : String)
  /-- warn: '{name}' not resolvable yet (pending submap?) - waiting -/
  | notResolvable (name : String)
  /-- error: Nav2 did not answer the goal request within 5 s -/
  | noAnswer
  /-- error: Nav2 rejected the goal -/
  | goalRejected
  /-- error: waypoint '{name}' not found in GLIM -/
  | notFound (name : String)
  /-- info: -> '{name}' at ({x:.2f}, {y:.2f}) -/
  | driving (name : String) (goal : PoseStamped G)
  /-- info: reached '{name}' -/
  | reached (name : String)
  /-- error: failed '{name}' (status {status}) -/
  | failedAt (name : String) (status : GoalStatus)
  /-- warn: '{name}' moved {moved:.2f} m (loop closure) - re-sending goal -/
  | moved (name : String) (moved : G.Dist)
  /-- info: -> through '{n}' ({x:.2f}, {y:.2f}), ... -/
  | drivingThrough (route : List (String × PoseStamped G))
  /-- error: failed with {names[passed:]} left (status {status}) -/
  | failedWith (left : List String) (status : GoalStatus)
  /-- warn: a waypoint ahead moved {moved:.2f} m (loop closure) - re-sending the route through
  {names} -/
  | routeMoved (moved : G.Dist) (names : List String)
  /-- error: mode must be 'pose' or 'through', not '{mode}' -/
  | badMode (mode : String)
  /-- error: Nav2 {action} not available (is nav.launch.py up and active?) -/
  | serverUnavailable (action : String)
  /-- error: no waypoints (tag some with /add_waypoint first) -/
  | noWaypoints
  /-- info: mission ({mode}): {names} -/
  | mission (mode : String) (names : List String)
  /-- error: mission finished with failures: {failed} -/
  | failures (failed : List String)
  /-- info: mission complete -/
  | complete
  /-- warn: Nav2 accepted a timed-out goal late - cancelling it -/
  | lateAccept
  /-- warn: cancelling current Nav2 goal -/
  | cancellingCurrent
  /-- error: Nav2 never answered a goal request - check RViz that the rover is not driving -/
  | neverAnswered
  /-- error: cleanup failed: {e} -/
  | cleanupFailed

/-- How the wait in `send_action` for Nav2's answer ended. -/
inductive Outcome where
  | timedOut | rejected | accepted
  deriving DecidableEq, Repr

/-- What the trace records. -/
inductive Entry (G : Geometry) where
  | log (m : LogMsg G)
  /-- `resolve` returned a goal. -/
  | resolved (name : String) (goal : PoseStamped G)
  | sent (g : GoalId) (msg : GoalMsg G)
  | outcome (g : GoalId) (o : Outcome)
  | cancel (g : GoalId)
  /-- `on_through_feedback` ran. -/
  | feedback (g : GoalId) (numberOfPosesRemaining : Int)
  /-- `go_through` took its count from `self.poses_remaining`. -/
  | read (numberOfPosesRemaining : Int)
  /-- `run` called `go_to`. -/
  | goTo (name : String)
  /-- `go_to` returned. -/
  | returned (ok : Bool)
  /-- A KeyboardInterrupt was raised in a wait. -/
  | interrupt

/-! ## The world -/

structure World (G : Geometry) where
  /-- Python's `time.monotonic()`, in nanoseconds. -/
  monotonic : Nat := 0
  /-- The node's clock, in nanoseconds. It need not be monotonic. -/
  now : Int := 0
  /-- `rclpy.ok()`: signal handling is off, so only `main` ends it. -/
  ok : Bool := true
  -- Nav2
  goals : List (GoalMsg G) := []
  phase : GoalId → Phase := fun _ => .requested
  cancels : List GoalId := []
  resultRequests : List GoalId := []
  -- GLIM and TF
  calls : List Request := []
  -- what has reached the node
  answer : GoalId → Option Bool := fun _ => none
  result : GoalId → Option GoalStatus := fun _ => none
  cancelResponse : Nat → Option Unit := fun _ => none
  waypointResponse : Nat → Option (WaypointResponse G) := fun _ => none
  listResponse : Nat → Option (List String) := fun _ => none
  transform : Option G.Offset := none
  -- self
  currentHandle : Option GoalId := none
  unanswered : List GoalId := []
  posesRemaining : Option Int := none
  trace : List (Entry G) := []

variable {G : Geometry}

/-! ## What moves during a tick -/

inductive Event (G : Geometry) where
  | accept (g : GoalId)
  | reject (g : GoalId)
  | finish (g : GoalId) (status : GoalStatus)
  | answer (g : GoalId)
  | result (g : GoalId)
  | cancelResponse (k : Nat)
  | feedback (g : GoalId) (numberOfPosesRemaining : Int)
  | waypoint (k : Nat) (response : WaypointResponse G)
  | names (k : Nat) (names : List String)
  | transform (offset : G.Offset)

/-- Events that need no spinning of the node: Nav2 acts on its own. -/
def Event.remote : Event G → Bool
  | .accept _ | .reject _ | .finish _ _ => true
  | _ => false

/-- One call of `spin_once` or one poll: the time it took, the clock after it, what moved, whether
a polled server is there and whether a KeyboardInterrupt is raised in it. -/
structure Tick (G : Geometry) where
  elapsed : Nat := 0
  now : Int := 0
  events : List (Event G) := []
  ready : Bool := true
  interrupt : Bool := false

def World.record (w : World G) (e : Entry G) : World G := { w with trace := e :: w.trace }

/-- Nav2 accepting a goal preempts the one it was executing. -/
def preempt (phase : GoalId → Phase) (g : GoalId) : Phase :=
  if phase g = .executing then .preempted else phase g

/-- An event that is not possible in `w` changes nothing. -/
def World.handle (w : World G) : Event G → World G
  | .accept g =>
    if g < w.goals.length ∧ w.phase g = .requested then
      { w with phase := Function.update (preempt w.phase) g .executing }
    else w
  | .reject g =>
    if g < w.goals.length ∧ w.phase g = .requested then
      { w with phase := Function.update w.phase g .rejected }
    else w
  | .finish g status =>
    if w.phase g = .executing ∨ w.phase g = .preempted then
      { w with phase := Function.update w.phase g (.ended status) }
    else w
  | .answer g =>
    if w.answer g = none ∧ w.phase g ≠ .requested then
      { w with answer := Function.update w.answer g (some (w.phase g ≠ .rejected)) }
    else w
  | .result g =>
    match w.phase g with
    | .ended status =>
      if g ∈ w.resultRequests ∧ w.result g = none then
        { w with result := Function.update w.result g (some status) }
      else w
    | _ => w
  | .cancelResponse k =>
    if k < w.cancels.length then
      { w with cancelResponse := Function.update w.cancelResponse k (some ()) }
    else w
  | .feedback g n =>
    match w.goals[g]? with
    | some (.navigateThroughPoses _) =>
      { w with posesRemaining := some n, trace := .feedback g n :: w.trace }
    | _ => w
  | .waypoint k response =>
    if k < w.calls.length ∧ w.waypointResponse k = none then
      { w with waypointResponse := Function.update w.waypointResponse k (some response) }
    else w
  | .names k names =>
    if k < w.calls.length ∧ w.listResponse k = none then
      { w with listResponse := Function.update w.listResponse k (some names) }
    else w
  | .transform offset => { w with transform := some offset }

/-- The node spins for one tick. -/
def World.advance (w : World G) (t : Tick G) : World G :=
  t.events.foldl World.handle { w with monotonic := w.monotonic + t.elapsed, now := t.now }

/-- The node polls for one tick, without being spun: nothing reaches it. -/
def World.idle (w : World G) (t : Tick G) : World G :=
  w.advance { t with events := t.events.filter Event.remote }

end Mission
