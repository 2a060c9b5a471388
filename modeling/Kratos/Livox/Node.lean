import Kratos.Livox.Callback
import Kratos.Livox.Threads

/-!
# The driver's node

The callbacks of `Callback.lean` and the two threads of `Threads.lean` on one `Lds`. As `main` starts
the node, `InitLdsLidar` has made the devices before a thread runs.
-/

namespace Livox

variable {F : Type}

structure Node (F : Type) where
  driver : Driver F
  /-- The requests that the SDK has not answered. -/
  requests : List (UInt32 × Request F) := []

inductive NodeTurn where
  | point
  | poll
  | requestExit
  | exitSignal
  | sdk (t : SdkTurn)
  deriving DecidableEq

inductive NodeEvent (F : Type) where
  | data (e : Event F)
  | sdk (e : SdkEvent F)
  deriving DecidableEq

namespace Node

def init [CMath F] (lds : Lds F) (entries : List (ConfigEntry F)) (transferFormat : UInt8)
    (frames : List (PointFrame F)) : Node F where
  driver := .init (LdsLidar.init lds entries).lds transferFormat frames

def ldsLidar (n : Node F) : LdsLidar F := { lds := n.driver.lds, requests := n.requests }

/-- A turn of a thread. -/
def drive (n : Node F) (t : Turn) : Node F × Option (NodeEvent F) :=
  ({ n with driver := (n.driver.turn t).1 }, (n.driver.turn t).2.map .data)

def turn (n : Node F) : NodeTurn → Node F × Option (NodeEvent F)
  | .point => n.drive .point
  | .poll => n.drive .poll
  | .requestExit => n.drive .requestExit
  | .exitSignal => n.drive .exitSignal
  | .sdk t =>
    let (ldsLidar, e) := n.ldsLidar.turn t
    ({ driver := { n.driver with lds := ldsLidar.lds }, requests := ldsLidar.requests },
      e.map .sdk)

def run (n : Node F) (ts : List NodeTurn) : Node F := ts.foldl (fun n t => (n.turn t).1) n

/-- What is seen of these turns. -/
def trace (n : Node F) : List NodeTurn → List (NodeEvent F)
  | [] => []
  | t :: ts => (n.turn t).2.toList ++ trace (n.turn t).1 ts

end Node

end Livox
