import Mathlib.Data.List.Flatten
import Kratos.Livox.Proof.Cache
import Kratos.Livox.Proof.Frames
import Kratos.Livox.Proof.Handled

/-!
# From the SDK to the topic

The frames that `RawDataProcess` cuts go through `OnLidarPointClounCb` to the point thread of
`Threads.lean`. What the poll thread publishes of a LiDAR are then points that were decoded of that
LiDAR, in order and each at most once (`pipeline`).
-/

namespace Livox

variable {F : Type}

def PubEvent.frame? : PubEvent F → Option (PointFrame F)
  | .frame f => some f
  | _ => none

/-- The frames that `OnLidarPointClounCb` passes on to `StoragePointData`. -/
def onLidarPointClounCb (tr : List (PubEvent F)) : List (PointFrame F) :=
  (tr.filterMap PubEvent.frame?).filter fun frame => !frame.isEmpty

theorem flatten_onLidarPointClounCb (tr : List (PubEvent F)) :
    (onLidarPointClounCb tr).flatten = framesIn tr := by
  induction tr with
  | nil => rfl
  | cons e tr ih =>
    unfold onLidarPointClounCb framesIn at ih ⊢
    cases e with
    | frame f => cases f <;> simp [PubEvent.frame?, PubEvent.entries, ← ih]
    | received packet | processed id packet extrinsic points =>
      simp [PubEvent.frame?, PubEvent.entries, List.filterMap_cons, ← ih]

/-- What `GetFreeIndex` keeps of the places, the turns of the driver keep. -/
theorem run_cacheIndex {P : CacheIndex → Prop}
    (hP : ∀ c handle, P c → P (c.getFreeIndex kLivoxLidarType handle).2) {d : Driver F}
    (h : P d.lds.cacheIndex) (ts : List Turn) : P (d.run ts).lds.cacheIndex := by
  induction ts generalizing d with
  | nil => exact h
  | cons t ts ih =>
    refine ih (d := (d.turn t).1) ?_
    cases t with
    | point =>
      have hkeep : d.pointTurn.1.lds.cacheIndex = d.lds.cacheIndex := by
        unfold Driver.pointTurn
        repeat' split
        all_goals rfl
      exact (congrArg P hkeep).mpr h
    | poll => exact (congrArg P (pollTurn_store (0 : Index) d).2.2.1).mpr h
    | allot handle => exact hP _ _ h
    | sampling i | requestExit | exitSignal => exact h

/-- The turns of the driver keep every LiDAR at a place of its own. -/
theorem run_placed {d : Driver F} (h : d.lds.cacheIndex.Placed) (ts : List Turn) :
    (d.run ts).lds.cacheIndex.Placed :=
  run_cacheIndex (fun _ _ hc => hc.getFreeIndex _ _) h ts

/-- The packets at a LiDAR's place have no points but its own. -/
theorem packetsFor_points {c : CacheIndex} (hc : c.Placed) {t : UInt8} {handle : UInt32} {i : Index}
    (hi : c.getIndex t handle = some i) (frame : PointFrame F) :
    ((c.packetsFor i frame).flatMap fun packet => packet.points).Sublist
      (frame.pointsOf handle) := by
  unfold CacheIndex.packetsFor PointFrame.pointsOf
  rw [List.flatMap_map]
  refine (List.Sublist.flatMap_right _ fun entry _ => List.take_sublist _ _).trans ?_
  refine (List.monotone_filter_right _ fun entry hentry => ?_).flatMap _
  rw [decide_eq_true_iff] at hentry ⊢
  exact hc.getIndex_inj hentry hi

/-- What is published at a LiDAR's place are points that were decoded of it. -/
theorem Handled.decoded [CMath F] {d : Driver F} {s : PubHandler F} {tr : List (PubEvent F)}
    {events : List (Event F)} {q : List (StoragePacket F)} {i : Index} {t : UInt8} {handle : UInt32}
    (h : Handled i d events (onLidarPointClounCb tr)) (hf : Feed i d events q)
    (hc : d.lds.cacheIndex.Placed) (hi : d.lds.cacheIndex.getIndex t handle = some i)
    (hcut : Cut s tr) :
    ((publishedIn i events).flatMap fun pkg => pkg.points).Sublist (decodedIn handle tr) := by
  have hpublished := h.published hf
  rw [flatten_onLidarPointClounCb] at hpublished
  refine (hpublished.flatMap _).trans ((packetsFor_points hc hi (framesIn tr)).trans ?_)
  rw [← hcut.conserved handle]
  exact List.sublist_append_left _ _

/-- **What is published of a LiDAR are its decoded points**, in order and each at most once, however
the threads take turns and whatever else is connected. -/
theorem pipeline [CMath F] (publishFreq : ℚ) (pubTurns : List (PubTurn F)) (s : PubHandler F)
    (tr : List (PubEvent F)) (lds : Lds F) (transferFormat : UInt8) (turns : List Turn) (t : UInt8)
    (handle : UInt32) (i : Index)
    (hrun : (PubHandler.setPointCloudConfig publishFreq).run pubTurns = some (s, tr))
    (hplaced : lds.cacheIndex.Placed)
    (hi : ((Driver.init lds transferFormat (onLidarPointClounCb tr)).run turns).lds.cacheIndex.getIndex
      t handle = some i) :
    ((publishedIn i ((Driver.init lds transferFormat (onLidarPointClounCb tr)).trace turns)).flatMap
      fun pkg => pkg.points).Sublist (decodedIn handle tr) := by
  have hcut := (cut_init publishFreq).run hrun
  have hhandled := (handled_init lds transferFormat (onLidarPointClounCb tr) i).run turns
  obtain ⟨q, hf⟩ := (feed_init lds transferFormat (onLidarPointClounCb tr) i).run turns
  rw [List.nil_append] at hcut hhandled hf
  exact hhandled.decoded hf (run_placed hplaced turns) hi hcut

/-- The two frames of the stream, published. -/
theorem pipeline_stream :
    ((publishedIn 0 ((Driver.init oneLds 0 (onLidarPointClounCb streamed.2)).trace
        (.allot 1 :: .sampling 0 :: (List.replicate 24 .point ++ List.replicate 24 .poll)))).flatMap
      fun pkg => pkg.points).Sublist (decodedIn 1 streamed.2) :=
  pipeline 100 (.sync kTimestampTypeGptpOrPtp :: stream 45) streamed.1 streamed.2 oneLds 0 _
    kLivoxLidarType 1 0 (Option.some_get _).symm CacheIndex.placed_empty (by decide +kernel)

end Livox
