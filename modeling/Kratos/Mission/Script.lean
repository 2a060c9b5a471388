import Kratos.Mission.World

/-!
# The script

`waypoint_mission.py`, method by method and under the source's names. A handle and the future of
its result both name the goal they belong to.

`while rclpy.ok()` loops test `World.ok` first and are `Prog.loop`s of a `turn`; what they assign
is the loop state. `return` inside a loop is `Turn.done`.
-/

namespace Mission

open Prog

inductive PyErr where
  | keyboardInterrupt
  /-- `max()` of nothing. -/
  | valueError
  deriving DecidableEq, Repr

/-- A method of the node. -/
abbrev Script (G : Geometry) (α : Type) := Prog (Tick G) PyErr (World G) α

/-- A nanosecond clock's second. -/
def second : Nat := 1000000000

/-- The node's parameters. The two periods are held as the nanoseconds `Duration` makes of them. -/
structure Params (G : Geometry) where
  waypoints : List String := [""]
  getWaypointService : String := "/get_waypoint"
  listWaypointsService : String := "/list_waypoints"
  mode : String := "pose"
  baseFrame : String := "base_link"
  sensorFrame : String := "livox_frame"
  refreshPeriod : Int := 2 * second
  replanThreshold : G.Dist
  waitForWaypoint : Int := 30 * second
  stopOnFailure : Bool := true

variable {G : Geometry}

/-! ## Waiting -/

def log (m : LogMsg G) : Script G Unit := modify fun w => w.record (.log m)

/-- The signal handler, where the wait it hits lets it run. -/
def interruptIf (interrupt : Bool) : Script G Unit :=
  if interrupt then do
    modify fun w => w.record .interrupt
    raise .keyboardInterrupt
  else pure ()

/-- `rclpy.spin_once`. -/
def spinOnce : Script G Unit := do
  let t ← next
  modify fun w => w.advance t
  interruptIf t.interrupt

/-- `wait_for_service` and `wait_for_server`, which poll without spinning the node. -/
def waitForServer : Script G Bool := do
  let t ← next
  modify fun w => w.idle t
  interruptIf t.interrupt
  return t.ready

/-- The loop of `rclpy.spin_until_future_complete`. -/
def wait.turn (future : World G → Option α) (deadline : Nat) (_ : Unit) :
    Script G (Turn Unit (Option α)) := do
  let w ← get
  if !w.ok || (future w).isSome then
    return .done (future w)
  else
    spinOnce
    let w ← get
    if w.monotonic ≥ deadline then return .done (future w) else return .next ()

/-- A future is what it makes of the world: its result once it is done. -/
def wait (future : World G → Option α) (timeout : Nat) : Script G (Option α) := do
  let w ← get
  loop (wait.turn future (w.monotonic + timeout)) ()

def call (service : String) (request : Request) (response : World G → Nat → Option α) :
    Script G (Option α) := do
  if ← waitForServer then
    let w ← get
    modify fun w => { w with calls := w.calls ++ [request] }
    wait (fun w' => response w' w.calls.length) (3 * second)
  else
    log (.serviceUnavailable service)
    return none

/-! ## Waypoint to goal -/

section Params

variable (p : Params G)

def sensorToBaseOffset.turn (deadline : Int) (_ : Unit) :
    Script G (Turn Unit (Option G.Offset)) := do
  let w ← get
  if w.ok && w.now < deadline then
    match w.transform with
    | some t => return .done (some t)
    | none =>
      spinOnce
      return .next ()
  else
    log (.noTransform p.sensorFrame p.baseFrame)
    return .done none

def sensorToBaseOffset : Script G (Option G.Offset) := do
  let w ← get
  loop (sensorToBaseOffset.turn p (w.now + 5 * second)) ()

def resolve (name : String) : Script G (Option (PoseStamped G)) := do
  match ← call p.getWaypointService (.getWaypoint name) World.waypointResponse with
  | none => return none
  | some res =>
    if res.found then
      match ← sensorToBaseOffset p with
      | none => return none
      | some offset =>
        let w ← get
        let goal : PoseStamped G :=
          { frameId := if res.frameId = "" then "map" else res.frameId
            stamp := w.now
            pose := G.toBase res.pose offset }
        modify fun w => w.record (.resolved name goal)
        return some goal
    else return none

/-- `if not warned`: only the first time. -/
def warnOnce (warned : Bool) (m : LogMsg G) : Script G Unit :=
  if warned then pure () else log m

def resolveWithWait.turn (name : String) (deadline : Int) (warned : Bool) :
    Script G (Turn Bool (Option (PoseStamped G))) := do
  let w ← get
  if w.ok then
    match ← resolve p name with
    | some goal => return .done (some goal)
    | none =>
      let w ← get
      if w.now > deadline then return .done none
      else
        warnOnce warned (.notResolvable name)
        spinOnce
        return .next true
  else return .done none

def resolveWithWait (name : String) : Script G (Option (PoseStamped G)) := do
  let w ← get
  loop (resolveWithWait.turn p name (w.now + p.waitForWaypoint)) false

/-! ## Sending goals -/

/-- `send_goal_async`; the request's future is its number. -/
def sendGoalAsync (msg : GoalMsg G) : Script G GoalId := do
  let w ← get
  modify fun w => { w with goals := w.goals ++ [msg], trace := .sent w.goals.length msg :: w.trace }
  return w.goals.length

def recordOutcome (g : GoalId) (o : Outcome) : Script G Unit :=
  modify fun w => w.record (.outcome g o)

/-- The handle and the result future, or neither. -/
def sendAction (msg : GoalMsg G) : Script G (Option (GoalId × GoalId)) := do
  let request ← sendGoalAsync msg
  match ← wait (fun w => w.answer request) (5 * second) with
  | none =>
    log .noAnswer
    recordOutcome request .timedOut
    modify fun w => { w with unanswered := w.unanswered ++ [request] }
    return none
  | some false =>
    log .goalRejected
    recordOutcome request .rejected
    return none
  | some true =>
    recordOutcome request .accepted
    modify fun w => { w with currentHandle := some request }
    modify fun w => { w with resultRequests := request :: w.resultRequests }
    return some (request, request)

def send (goal : PoseStamped G) : Script G (Option (GoalId × GoalId)) :=
  sendAction (.navigateToPose goal)

def sendThrough (goals : List (PoseStamped G)) : Script G (Option (GoalId × GoalId)) := do
  modify fun w => { w with posesRemaining := none }
  sendAction (.navigateThroughPoses goals)

/-! ## Cancelling goals -/

/-- `cancel_goal_async`; the request's future is its number. -/
def cancelGoalAsync (g : GoalId) : Script G Nat := do
  let w ← get
  modify fun w => { w with cancels := w.cancels ++ [g], trace := .cancel g :: w.trace }
  return w.cancels.length

def cancelAndWait (g : GoalId) : Script G Unit := do
  let request ← cancelGoalAsync g
  let _ ← wait (fun w => w.cancelResponse request) (2 * second)

/-- The body of `cancel_late_goals`' loop. -/
def cancelLate (request : GoalId) : Script G Unit := do
  modify fun w => { w with unanswered := w.unanswered.erase request }
  let w ← get
  match w.answer request with
  | some true =>
    log .lateAccept
    cancelAndWait request
  | _ => return ()

def cancelLateGoals : Script G Unit := do
  let w ← get
  (w.unanswered.filter fun r => (w.answer r).isSome).forM cancelLate

def cancelCurrent : Script G Unit := do
  let w ← get
  match w.currentHandle with
  | some handle =>
    log .cancellingCurrent
    cancelAndWait handle
  | none => return ()

def forgetCurrent : Script G Unit := modify fun w => { w with currentHandle := none }

/-! ## One waypoint at a time -/

/-- What `go_to`'s loop assigns. -/
structure goTo.Vars (G : Geometry) where
  goal : PoseStamped G
  handle : GoalId
  resultFuture : GoalId
  nextRefresh : Int

def goTo.refresh (name : String) (l : goTo.Vars G) : Script G (Turn (goTo.Vars G) Bool) := do
  match ← resolve p name with
  | none => return .next l
  | some fresh =>
    let moved := G.moved fresh.pose l.goal.pose
    if G.gt moved p.replanThreshold then
      log (.moved name moved)
      match ← send fresh with
      | none => return .next l
      | some (newHandle, newFuture) =>
        return .next { l with goal := fresh, handle := newHandle, resultFuture := newFuture }
    else return .next l

def goTo.turn (name : String) (l : goTo.Vars G) : Script G (Turn (goTo.Vars G) Bool) := do
  let w ← get
  if w.ok then
    spinOnce
    cancelLateGoals
    let w ← get
    match w.result l.resultFuture with
    | some status =>
      forgetCurrent
      if status = .succeeded then
        log (.reached name)
        return .done true
      else
        log (.failedAt name status)
        return .done false
    | none =>
      if w.now ≥ l.nextRefresh then
        goTo.refresh p name { l with nextRefresh := w.now + p.refreshPeriod }
      else return .next l
  else return .done false

def goTo (name : String) : Script G Bool := do
  match ← resolveWithWait p name with
  | none =>
    log (.notFound name)
    return false
  | some goal =>
    log (.driving name goal)
    match ← send goal with
    | none => return false
    | some (handle, resultFuture) =>
      let w ← get
      loop (goTo.turn p name)
        { goal, handle, resultFuture, nextRefresh := w.now + p.refreshPeriod }

/-! ## One route through all -/

/-- What `go_through`'s loop assigns. -/
structure goThrough.Vars (G : Geometry) where
  names : List String
  goals : List (PoseStamped G)
  handle : GoalId
  resultFuture : GoalId
  nextRefresh : Int
  passed : Nat

/-- Python's `max` of some distances: the first of the greatest, and a ValueError for none. -/
def maxDist (G : Geometry) : List G.Dist → Option G.Dist
  | [] => none
  | d :: ds => some (ds.foldl (fun m d => if G.gt d m then d else m) d)

/-- The loop over `names` that fills `goals`. -/
def resolveRoute : List String → Script G (Option (List (PoseStamped G)))
  | [] => return some []
  | name :: names => do
    match ← resolveWithWait p name with
    | none =>
      log (.notFound name)
      return none
    | some goal =>
      match ← resolveRoute names with
      | none => return none
      | some goals => return some (goal :: goals)

/-- `[(n, self.resolve(n)) for n, _ in ahead]`. -/
def resolveAhead : List (String × PoseStamped G) → Script G (List (String × Option (PoseStamped G)))
  | [] => return []
  | (name, _) :: ahead => do
    let goal ← resolve p name
    let fresh ← resolveAhead ahead
    return (name, goal) :: fresh

def goThrough.update (l : goThrough.Vars G) : Script G (goThrough.Vars G) := do
  let w ← get
  match w.posesRemaining with
  | none => return l
  | some remaining =>
    modify fun w => w.record (.read remaining)
    let nowPassed : Int := l.names.length - remaining
    let upTo := (max (l.passed : Int) nowPassed).toNat
    ((l.names.drop l.passed).take (upTo - l.passed)).forM fun name => log (.reached name)
    return { l with passed := upTo }

def goThrough.refresh (l : goThrough.Vars G) :
    Script G (Turn (goThrough.Vars G) (List String)) := do
  let ahead := (l.names.drop l.passed).zip (l.goals.drop l.passed)
  let fresh ← resolveAhead p ahead
  match fresh.mapM fun (n, g) => g.map fun g => (n, g) with
  | none => return .next l
  | some fresh =>
    match maxDist G (List.zipWith (fun a f => G.moved f.2.pose a.2.pose) ahead fresh) with
    | none => raise .valueError
    | some moved =>
      if G.gt moved p.replanThreshold then
        log (.routeMoved moved (fresh.map (·.1)))
        match ← sendThrough (fresh.map (·.2)) with
        | none => return .next l
        | some (newHandle, newFuture) =>
          return .next
            { l with
              names := fresh.map (·.1)
              goals := fresh.map (·.2)
              handle := newHandle
              resultFuture := newFuture
              passed := 0 }
      else return .next l

def goThrough.turn (l : goThrough.Vars G) :
    Script G (Turn (goThrough.Vars G) (List String)) := do
  let w ← get
  if w.ok then
    spinOnce
    cancelLateGoals
    let l ← goThrough.update l
    let w ← get
    match w.result l.resultFuture with
    | some status =>
      forgetCurrent
      if status = .succeeded then
        (l.names.drop l.passed).forM fun name => log (.reached name)
        return .done []
      else
        log (.failedWith (l.names.drop l.passed) status)
        return .done (l.names.drop l.passed)
    | none =>
      if w.now ≥ l.nextRefresh then
        goThrough.refresh p { l with nextRefresh := w.now + p.refreshPeriod }
      else return .next l
  else return .done (l.names.drop l.passed)

/-- The names not reached. -/
def goThrough (names : List String) : Script G (List String) := do
  match ← resolveRoute p names with
  | none => return names
  | some goals =>
    log (.drivingThrough (names.zip goals))
    match ← sendThrough goals with
    | none => return names
    | some (handle, resultFuture) =>
      let w ← get
      loop (goThrough.turn p)
        { names, goals, handle, resultFuture, nextRefresh := w.now + p.refreshPeriod, passed := 0 }

/-! ## The mission -/

def pendingSuffix : String := " (pending)"

/-- `n[:-len(PENDING_SUFFIX)] if n.endswith(PENDING_SUFFIX) else n`. -/
def bareName (n : String) : String :=
  if pendingSuffix.toList.isSuffixOf n.toList then
    .ofList (n.toList.take (n.toList.length - pendingSuffix.toList.length))
  else n

def waypointNames : Script G (List String) := do
  let names := p.waypoints.filter (· ≠ "")
  if names ≠ [] then return names
  else
    match ← call p.listWaypointsService .listWaypoints World.listResponse with
    | none => return []
    | some names => return names.map bareName

/-- The loop over `names` in mode pose; the names that failed. -/
def visitAll : List String → Script G (List String)
  | [] => return []
  | name :: names => do
    modify fun w => w.record (.goTo name)
    let ok ← goTo p name
    modify fun w => w.record (.returned ok)
    if ok then visitAll names
    else if p.stopOnFailure then return [name]
    else
      let failed ← visitAll names
      return name :: failed

def finish (failed : List String) : Script G Int := do
  if failed ≠ [] then
    log (.failures failed)
    return 1
  else
    log .complete
    return 0

def drive (names : List String) : Script G Int := do
  log (.mission p.mode names)
  if p.mode = "through" then
    let failed ← goThrough p names
    finish failed
  else
    let failed ← visitAll p names
    finish failed

def run : Script G Int := do
  if p.mode ≠ "pose" ∧ p.mode ≠ "through" then
    log (.badMode p.mode)
    return 1
  else if ← waitForServer then
    let names ← waypointNames p
    if names = [] then
      log .noWaypoints
      return 1
    else drive p names
  else
    log (.serverUnavailable
      (if p.mode = "pose" then "navigate_to_pose" else "navigate_through_poses"))
    return 1

end Params

/-! ## The end of the mission -/

def cleanup.turn (deadline : Int) (_ : Unit) : Script G (Turn Unit Unit) := do
  let w ← get
  if w.ok && !w.unanswered.isEmpty && w.now < deadline then
    spinOnce
    cancelLateGoals
    return .next ()
  else return .done ()

def cleanup : Script G Unit := do
  cancelCurrent
  let w ← get
  loop (cleanup.turn (w.now + 5 * second)) ()
  let w ← get
  if w.unanswered.isEmpty then return () else log .neverAnswered

/-- `main`'s `try` and `finally` up to the return of `cleanup`; `run`'s result or exception. -/
def session (p : Params G) : Script G (Except PyErr Int) := do
  let rc ← attempt (run p)
  cleanup
  return rc

/-- `main`, once the node is made; what it hands to `sys.exit`. A KeyboardInterrupt in `cleanup`
is no `Exception` and passes through. -/
def main (p : Params G) : Script G Int := do
  let rc ← attempt (run p)
  match ← attempt cleanup with
  | .error .keyboardInterrupt => raise .keyboardInterrupt
  | .error .valueError => log .cleanupFailed
  | .ok () => pure ()
  modify fun w => { w with ok := false }
  match rc with
  | .ok rc => return rc
  | .error .keyboardInterrupt => return 1
  | .error .valueError => raise .valueError

end Mission
