import Kratos.Lib.Slots
import Kratos.Livox.Proof.Frames

/-!
# Frames follow the clock

With time synchronization `CheckTimer` looks at the time of a LiDAR's latest point, and a frame ends in
the first millisecond of a publish interval. So `RawDataProcess` cuts the packets of a LiDAR as
`Slots.run` does (`Synced`), in any order of the threads' turns and of the LiDARs' packets. Where
packets end close enough to each other, there is one frame in each interval (`slices`).
-/

namespace Livox

variable {F : Type} {tr : List (PubEvent F)} {id : UInt32}

/-! ## Times -/

def firstTime (points : List (PointXyzlt F)) : Nat :=
  (points.head?.map fun point => point.offsetTime.toNat).getD 0

def lastTime (points : List (PointXyzlt F)) : Nat :=
  (points.getLast?.map fun point => point.offsetTime.toNat).getD 0

def PubEvent.decodedAt? (id : UInt32) : PubEvent F → Option (List (PointXyzlt F))
  | .processed j _ _ points => if j = id then some points else none
  | _ => none

/-- The points of a LiDAR that have been decoded, packet by packet. -/
def packetsIn (id : UInt32) (tr : List (PubEvent F)) : List (List (PointXyzlt F)) :=
  tr.filterMap (PubEvent.decodedAt? id)

/-- When the packets of a LiDAR begin and end. -/
def spansIn (id : UInt32) (tr : List (PubEvent F)) : List (Nat × Nat) :=
  (packetsIn id tr).map fun points => (firstTime points, lastTime points)

/-- When the frames of a LiDAR begin and end. -/
def piecesIn (id : UInt32) (tr : List (PubEvent F)) : List (Nat × Nat) :=
  ((framesIn tr).filter fun entry => entry.2.handle = id).map fun entry =>
    (firstTime entry.2.points, lastTime entry.2.points)

/-- When the frames of a LiDAR end. -/
def cutsIn (id : UInt32) (tr : List (PubEvent F)) : List Nat :=
  ((framesIn tr).filter fun entry => entry.2.handle = id).map fun entry => lastTime entry.2.points

@[simp] theorem packetsIn_append (l : List (PubEvent F)) :
    packetsIn id (tr ++ l) = packetsIn id tr ++ packetsIn id l := List.filterMap_append

@[simp] theorem piecesIn_append (l : List (PubEvent F)) :
    piecesIn id (tr ++ l) = piecesIn id tr ++ piecesIn id l := by simp [piecesIn]

theorem cutsIn_eq : cutsIn id tr = (piecesIn id tr).map Prod.snd := by
  simp [cutsIn, piecesIn]

theorem firstTime_append {points points' : List (PointXyzlt F)} (h : points ≠ []) :
    firstTime (points ++ points') = firstTime points := by
  obtain ⟨p, rest, rfl⟩ := List.exists_cons_of_ne_nil h
  rfl

theorem lastTime_append {points points' : List (PointXyzlt F)} (h : points' ≠ []) :
    lastTime (points ++ points') = lastTime points' := by
  unfold lastTime
  rw [List.getLast?_append_of_ne_nil _ h]

/-! ## The timer -/

/-- The ratio of milliseconds to nanoseconds. -/
abbrev msToNs : Nat := kRatioOfMsToNs.toNat

/-- **With time synchronization `CheckTimer` is the test of a slot**, if time has not gone back. -/
theorem checkTimer_sync {s : PubHandler F} {h : LidarPubHandler F} {now : Int}
    (hsync : s.isTimestampSync = true) (hms : s.publishIntervalMs ≠ 0) (hne : h.pointsClouds ≠ [])
    (htime : firstTime h.pointsClouds ≤ lastTime h.pointsClouds) :
    s.checkTimer id h now =
      if Slots.Due msToNs s.publishIntervalMs.toNat s.publishIntervalTolerance.toNat
          (firstTime h.pointsClouds) (lastTime h.pointsClouds) then
        some
          ({ s with
              lidarProcessHandlers :=
                OrderedMap.put s.lidarProcessHandlers id h.getLidarPointClouds.2 },
            some [PubHandler.frameEntry id h])
      else some (s, none) := by
  have hrecent : h.getRecentTimeStamp.toNat = lastTime h.pointsClouds := by
    unfold LidarPubHandler.getRecentTimeStamp lastTime
    cases h.pointsClouds.getLast? <;> rfl
  have hbase : h.getLidarBaseTime.toNat = firstTime h.pointsClouds := by
    unfold LidarPubHandler.getLidarBaseTime firstTime
    cases h.pointsClouds.head? <;> rfl
  have hrecentMs : (h.getRecentTimeStamp / kRatioOfMsToNs).toNat =
      lastTime h.pointsClouds / msToNs := by
    rw [UInt64.toNat_div, hrecent]
  have hdiff : (h.getRecentTimeStamp - h.getLidarBaseTime).toNat =
      lastTime h.pointsClouds - firstTime h.pointsClouds := by
    rw [UInt64.toNat_sub_of_le _ _ (by rw [UInt64.le_iff_toNat_le, hbase, hrecent]; exact htime),
      hrecent, hbase]
  have hpos : h.getRecentTimeStamp / kRatioOfMsToNs = 0 ↔ lastTime h.pointsClouds / msToNs = 0 := by
    rw [← UInt64.toNat_inj, hrecentMs]
    rfl
  have hslot : h.getRecentTimeStamp / kRatioOfMsToNs % s.publishIntervalMs = 0 ↔
      lastTime h.pointsClouds / msToNs % s.publishIntervalMs.toNat = 0 := by
    rw [← UInt64.toNat_inj, UInt64.toNat_mod, hrecentMs]
    rfl
  have hlong : h.getRecentTimeStamp - h.getLidarBaseTime < s.publishIntervalTolerance ↔
      lastTime h.pointsClouds - firstTime h.pointsClouds < s.publishIntervalTolerance.toNat := by
    rw [UInt64.lt_iff_toNat_lt, hdiff]
  unfold PubHandler.checkTimer
  rw [if_pos hsync]
  dsimp only
  rw [if_neg hms]
  simp only [ne_eq, hpos, hslot, hlong, Slots.Due, ← not_lt]
  split
  · rename_i hno
    rw [if_neg]
    rintro ⟨hyes, hyes', -⟩
    exact hno.elim (absurd hyes) hyes'
  · rename_i hslot'
    rw [not_or, not_not] at hslot'
    split
    · rename_i hshort
      rw [if_neg fun hdue => hdue.2.2 hshort]
    · rename_i hfar
      rw [if_neg (show h.getLidarPointClouds.1 ≠ [] from hne), if_pos ⟨hslot'.1, hslot'.2, hfar⟩]

/-- Its test is defined for an interval that is not 0. -/
theorem checkTimer_interval {s : PubHandler F} {h : LidarPubHandler F} {now : Int}
    {r : PubHandler F × Option (PointFrame F)} (hsync : s.isTimestampSync = true)
    (hcheck : s.checkTimer id h now = some r) : s.publishIntervalMs ≠ 0 := by
  intro hms
  unfold PubHandler.checkTimer at hcheck
  rw [if_pos hsync] at hcheck
  dsimp only at hcheck
  rw [if_pos hms] at hcheck
  cases hcheck

/-- Another LiDAR's timer leaves the cloud, and frames nothing of it. -/
theorem checkTimer_other {s s' : PubHandler F} {j : UInt32} {h : LidarPubHandler F} {now : Int}
    {frame : Option (PointFrame F)} (hs : OrderedMap.Sorted s.lidarProcessHandlers)
    (hsync : s.isTimestampSync = true) (hj : j ≠ id)
    (hcheck : s.checkTimer j h now = some (s', frame)) :
    cloudOf s'.lidarProcessHandlers id = cloudOf s.lidarProcessHandlers id ∧
      (frame.getD []).filter (fun entry => decide (entry.2.handle = id)) = [] := by
  have hput : ∀ c : LidarPubHandler F,
      cloudOf (OrderedMap.put s.lidarProcessHandlers j c) id = cloudOf s.lidarProcessHandlers id :=
    fun c => by rw [cloudOf_put hs, if_neg hj]
  unfold PubHandler.checkTimer at hcheck
  rw [if_pos hsync] at hcheck
  dsimp only at hcheck
  split at hcheck
  · cases hcheck
  split at hcheck
  · cases hcheck
    exact ⟨rfl, rfl⟩
  · split at hcheck
    · cases hcheck
      exact ⟨rfl, rfl⟩
    · split at hcheck
      · cases hcheck
        exact ⟨hput _, rfl⟩
      · cases hcheck
        exact ⟨hput _, by simp [PubHandler.frameEntry, hj]⟩

/-- The timer keeps the settings. -/
theorem checkTimer_settings {s s' : PubHandler F} {h : LidarPubHandler F} {now : Int}
    {frame : Option (PointFrame F)} (hcheck : s.checkTimer id h now = some (s', frame)) :
    s'.isTimestampSync = s.isTimestampSync ∧ s'.publishIntervalMs = s.publishIntervalMs ∧
      s'.publishIntervalTolerance = s.publishIntervalTolerance := by
  unfold PubHandler.checkTimer at hcheck
  split at hcheck
  · dsimp only at hcheck
    split at hcheck
    · cases hcheck
    repeat' split at hcheck
    all_goals cases hcheck; exact ⟨rfl, rfl, rfl⟩
  · split at hcheck
    · cases hcheck
      exact ⟨rfl, rfl, rfl⟩
    · split at hcheck
      · cases hcheck
        exact ⟨rfl, rfl, rfl⟩
      · obtain ⟨collected, -, heq⟩ := Option.map_eq_some_iff.1 hcheck
        cases heq
        exact ⟨rfl, rfl, rfl⟩

/-! ## The invariant -/

/-- The packets have points, and end at most `g` apart, from the time `now` on. -/
def Timely (g now : Nat) (packets : List (List (PointXyzlt F))) : Prop :=
  (∀ points ∈ packets, points ≠ []) ∧
    Slots.Steady g now (packets.map fun points => (firstTime points, lastTime points))

instance [DecidableEq F] (g now : Nat) (packets : List (List (PointXyzlt F))) :
    Decidable (Timely g now packets) := by
  unfold Timely
  infer_instance

theorem Timely.append {g now : Nat} {evs : List (PubEvent F)} {points : List (PointXyzlt F)}
    (h : Timely g now (packetsIn id (tr ++ evs))) (hpackets : packetsIn id evs = [points]) :
    Timely g now (packetsIn id tr) := by
  obtain ⟨hne, hsteady⟩ := h
  rw [packetsIn_append, hpackets] at hne hsteady
  rw [List.map_append, List.map_singleton, Slots.steady_concat] at hsteady
  exact ⟨fun points' h' => hne points' (List.mem_append_left _ h'), hsteady.1⟩

/-- The cloud is what has come since the last cut. -/
structure Sliced (id : UInt32) (now ms tol : Nat) (cloud : List (PointXyzlt F))
    (tr : List (PubEvent F)) : Prop where
  pieces : (Slots.run msToNs ms tol {} (spansIn id tr)).pieces = piecesIn id tr
  base : (Slots.run msToNs ms tol {} (spansIn id tr)).base =
    if cloud = [] then none else some (firstTime cloud)
  last : cloud ≠ [] → lastTime cloud = Slots.endOf now (spansIn id tr) ∧
    firstTime cloud ≤ lastTime cloud

structure Synced (id : UInt32) (g now : Nat) (ms tol : UInt64) (s : PubHandler F)
    (tr : List (PubEvent F)) : Prop where
  sorted : OrderedMap.Sorted s.lidarProcessHandlers
  sync : s.isTimestampSync = true
  interval : s.publishIntervalMs = ms
  tolerance : s.publishIntervalTolerance = tol
  sliced : Timely g now (packetsIn id tr) →
    Sliced id now ms.toNat tol.toNat (cloudOf s.lidarProcessHandlers id) tr

/-- What is known of the cloud with a further packet. -/
theorem Sliced.joined {g now ms tol : Nat} {cloud points : List (PointXyzlt F)}
    {evs : List (PubEvent F)} (h : Sliced id now ms tol cloud tr)
    (htimely : Timely g now (packetsIn id (tr ++ evs))) (hpackets : packetsIn id evs = [points]) :
    points ≠ [] ∧ lastTime (cloud ++ points) = lastTime points ∧
      firstTime (cloud ++ points) ≤ lastTime (cloud ++ points) := by
  obtain ⟨hne, hsteady⟩ := htimely
  rw [packetsIn_append, hpackets] at hne hsteady
  rw [List.map_append, List.map_singleton, Slots.steady_concat] at hsteady
  obtain ⟨-, hbegin, hspan, -⟩ := hsteady
  have hpoints : points ≠ [] := hne points (List.mem_append_right _ (List.mem_singleton_self _))
  have hlast : lastTime (cloud ++ points) = lastTime points := lastTime_append hpoints
  refine ⟨hpoints, hlast, ?_⟩
  rw [hlast]
  by_cases hnil : cloud = []
  · rw [hnil]
    exact hspan
  · rw [firstTime_append hnil]
    obtain ⟨heq, hle⟩ := h.last hnil
    exact (hle.trans heq.le).trans (hbegin.trans hspan)

/-- A packet joins the cloud, which is cut if the timer says so. -/
theorem Sliced.packet {g now ms tol : Nat} {cloud cloud' points : List (PointXyzlt F)}
    {evs : List (PubEvent F)} (h : Sliced id now ms tol cloud tr)
    (htimely : Timely g now (packetsIn id (tr ++ evs))) (hpackets : packetsIn id evs = [points])
    (hpieces : piecesIn id evs =
      if Slots.Due msToNs ms tol (firstTime (cloud ++ points)) (lastTime (cloud ++ points)) then
        [(firstTime (cloud ++ points), lastTime (cloud ++ points))] else [])
    (hcloud : cloud' =
      if Slots.Due msToNs ms tol (firstTime (cloud ++ points)) (lastTime (cloud ++ points)) then []
      else cloud ++ points) : Sliced id now ms tol cloud' (tr ++ evs) := by
  obtain ⟨hpoints, hlast, hle⟩ := h.joined htimely hpackets
  have hspans : spansIn id (tr ++ evs) = spansIn id tr ++ [(firstTime points, lastTime points)] := by
    simp [spansIn, hpackets]
  have hbase : (Slots.run msToNs ms tol {} (spansIn id tr)).base.getD (firstTime points) =
      firstTime (cloud ++ points) := by
    rw [h.base]
    split
    · rename_i hnil
      rw [hnil]
      rfl
    · rename_i hcons
      exact (firstTime_append hcons).symm
  rw [hlast] at hpieces hcloud hle
  refine ⟨?_, ?_, fun hcloud' => ?_⟩
  · rw [hspans, Slots.run_concat, piecesIn_append, hpieces, ← h.pieces]
    unfold Slots.step
    dsimp only
    rw [hbase]
    split
    · rfl
    · exact (List.append_nil _).symm
  · rw [hspans, Slots.run_concat, hcloud]
    unfold Slots.step
    dsimp only
    rw [hbase]
    split
    · rfl
    · rw [if_neg (List.append_ne_nil_of_right_ne_nil _ hpoints)]
  · rw [hspans, Slots.endOf_concat]
    split at hcloud
    · exact absurd hcloud hcloud'
    · rw [hcloud, hlast]
      exact ⟨rfl, hle⟩

namespace Synced

variable {g now : Nat} {ms tol : UInt64} {s s' : PubHandler F} {evs : List (PubEvent F)}

/-- A turn that shows nothing of the LiDAR and leaves its cloud. -/
theorem silent (h : Synced id g now ms tol s tr) (hs : OrderedMap.Sorted s'.lidarProcessHandlers)
    (hsettings : s'.isTimestampSync = true ∧ s'.publishIntervalMs = s.publishIntervalMs ∧
      s'.publishIntervalTolerance = s.publishIntervalTolerance)
    (hcloud : cloudOf s'.lidarProcessHandlers id = cloudOf s.lidarProcessHandlers id)
    (hpackets : packetsIn id evs = []) (hpieces : piecesIn id evs = []) :
    Synced id g now ms tol s' (tr ++ evs) where
  sorted := hs
  sync := hsettings.1
  interval := hsettings.2.1.trans h.interval
  tolerance := hsettings.2.2.trans h.tolerance
  sliced := fun htimely => by
    rw [packetsIn_append, hpackets, List.append_nil] at htimely
    have hsliced := h.sliced htimely
    have hspans : spansIn id (tr ++ evs) = spansIn id tr := by simp [spansIn, hpackets]
    refine ⟨?_, ?_, ?_⟩
    · rw [hspans, piecesIn_append, hpieces, List.append_nil]
      exact hsliced.pieces
    · rw [hspans, hcloud]
      exact hsliced.base
    · rw [hspans, hcloud]
      exact hsliced.last

variable [CMath F]

theorem rawDataProcess (h : Synced id g now ms tol s tr) {clock : Int}
    (hturn : s.rawDataProcess clock = some (s', evs)) : Synced id g now ms tol s' (tr ++ evs) := by
  rcases rawDataProcess_cases hturn with ⟨-, rfl, rfl⟩ |
    ⟨rawData, rest, points, c, frame, s₁, hqueue, hpoints, hc, hs₁, hcheck, rfl⟩
  · exact h.silent h.sorted ⟨h.sync, rfl, rfl⟩ rfl rfl rfl
  have hsorted : OrderedMap.Sorted s₁.lidarProcessHandlers := hs₁ ▸ h.sorted.put _ _
  have hsync : s₁.isTimestampSync = true := hs₁ ▸ h.sync
  have hcloud : ∀ j, cloudOf s₁.lidarProcessHandlers j =
      if rawData.handle = j then c.pointsClouds else cloudOf s.lidarProcessHandlers j :=
    fun j => hs₁ ▸ cloudOf_put h.sorted rawData.handle c
  have hchecked := checkTimer_checked hsorted
    (hs₁ ▸ (OrderedMap.find_put h.sorted).trans (if_pos rfl)) hcheck
  have hsettings : s'.isTimestampSync = true ∧ s'.publishIntervalMs = s.publishIntervalMs ∧
      s'.publishIntervalTolerance = s.publishIntervalTolerance := by
    have hset := checkTimer_settings hcheck
    rw [hsync, hs₁] at hset
    exact hset
  have hpieces : piecesIn id (PubEvent.processed rawData.handle rawData c.extrinsic points ::
      (frame.map .frame).toList) = ((frame.getD []).filter fun entry => entry.2.handle = id).map
        fun entry => (firstTime entry.2.points, lastTime entry.2.points) := by
    cases frame <;> simp [piecesIn, framesIn, PubEvent.entries]
  by_cases hid : rawData.handle = id
  · subst hid
    refine ⟨hchecked.sorted, hsettings.1, hsettings.2.1.trans h.interval,
      hsettings.2.2.trans h.tolerance, fun htimely => ?_⟩
    have hpackets : packetsIn rawData.handle (PubEvent.processed rawData.handle rawData c.extrinsic
        points :: (frame.map .frame).toList) = [points] := by
      cases frame <;> simp [packetsIn, PubEvent.decodedAt?]
    have hsliced := h.sliced (htimely.append hpackets)
    have hjoin : c.pointsClouds = cloudOf s.lidarProcessHandlers rawData.handle ++ points := by
      rw [hc, processHandler_pointsClouds]
    obtain ⟨hne, -, hle⟩ := hsliced.joined htimely hpackets
    have hcloud : c.pointsClouds ≠ [] := hjoin ▸ List.append_ne_nil_of_right_ne_nil _ hne
    rw [checkTimer_sync hsync (checkTimer_interval hsync hcheck) hcloud (hjoin ▸ hle),
      show s₁.publishIntervalMs = ms from hs₁ ▸ h.interval,
      show s₁.publishIntervalTolerance = tol from hs₁ ▸ h.tolerance, hjoin] at hcheck
    by_cases hdue : Slots.Due msToNs ms.toNat tol.toNat
        (firstTime (cloudOf s.lidarProcessHandlers rawData.handle ++ points))
        (lastTime (cloudOf s.lidarProcessHandlers rawData.handle ++ points))
    · rw [if_pos hdue] at hcheck
      cases hcheck
      refine hsliced.packet htimely hpackets ?_ ?_
      · rw [hpieces, if_pos hdue, ← hjoin]
        simp [PubHandler.frameEntry, LidarPubHandler.getLidarPointClouds]
      · rw [if_pos hdue, cloudOf_put hsorted, if_pos rfl]
        rfl
    · rw [if_neg hdue] at hcheck
      cases hcheck
      refine hsliced.packet htimely hpackets ?_ ?_
      · rw [hpieces, if_neg hdue]
        rfl
      · rw [if_neg hdue, hcloud, if_pos rfl, hjoin]
  · obtain ⟨hother, hnone⟩ := checkTimer_other hsorted hsync hid hcheck
    refine h.silent hchecked.sorted hsettings ?_ ?_ ?_
    · rw [hother, hcloud, if_neg hid]
    · cases frame <;> simp [packetsIn, PubEvent.decodedAt?, hid]
    · rw [hpieces, hnone]
      rfl

theorem turn (h : Synced id g now ms tol s tr) {t : PubTurn F}
    (ht : ∀ timeType, t = .sync timeType → timeType ≠ kTimestampTypeNoSync)
    (hturn : s.turn t = some (s', evs)) : Synced id g now ms tol s' (tr ++ evs) := by
  cases t with
  | process clock => exact h.rawDataProcess hturn
  | sync timeType =>
    cases hturn
    exact h.silent h.sorted ⟨by simpa using ht timeType rfl, rfl, rfl⟩ rfl rfl rfl
  | receive handle devType data clock =>
    unfold PubHandler.turn at hturn
    dsimp only at hturn
    split at hturn
    · cases hturn
      exact h.silent h.sorted ⟨h.sync, rfl, rfl⟩ rfl rfl rfl
    · obtain ⟨packet, -, heq⟩ := Option.map_eq_some_iff.1 hturn
      cases heq
      exact h.silent h.sorted ⟨h.sync, rfl, rfl⟩ rfl rfl rfl
  | addLidarsExtParam lidarParam | clearAllLidarsExtrinsicParams =>
    cases hturn
    exact h.silent h.sorted ⟨h.sync, rfl, rfl⟩ rfl rfl rfl

theorem run (h : Synced id g now ms tol s tr) {ts : List (PubTurn F)}
    (hts : ∀ timeType, .sync timeType ∈ ts → timeType ≠ kTimestampTypeNoSync)
    (hrun : s.run ts = some (s', evs)) : Synced id g now ms tol s' (tr ++ evs) := by
  induction ts generalizing s tr evs with
  | nil =>
    cases hrun
    exact h.silent h.sorted ⟨h.sync, rfl, rfl⟩ rfl rfl rfl
  | cons t ts ih =>
    obtain ⟨⟨s₁, evs₁⟩, hturn, hrun⟩ := Option.bind_eq_some_iff.1 hrun
    obtain ⟨⟨s₂, evs₂⟩, hrest, hrun⟩ := Option.bind_eq_some_iff.1 hrun
    cases hrun
    rw [← List.append_assoc]
    exact ih (h.turn (fun ty ht => hts ty (ht ▸ List.mem_cons_self)) hturn)
      (fun ty hty => hts ty (List.mem_cons_of_mem _ hty)) hrest

end Synced

/-! ## One frame in each interval -/

variable [CMath F]

/-- In a run with time synchronization. -/
theorem sliced_run {publishFreq : ℚ} {ts : List (PubTurn F)} {s : PubHandler F}
    {tr : List (PubEvent F)} {id : UInt32} {g now : Nat} (hlow : 1 / 2 ≤ publishFreq)
    (hhigh : publishFreq ≤ 100)
    (hsync : ∀ timeType, .sync timeType ∈ ts → timeType ≠ kTimestampTypeNoSync)
    (hrun : (PubHandler.setPointCloudConfig publishFreq).run (.sync kTimestampTypeGptpOrPtp :: ts) =
      some (s, tr))
    (htimely : Timely g now (packetsIn id tr)) :
    Sliced id now ((publishIntervalOf publishFreq).toNat / msToNs)
      ((publishIntervalOf publishFreq).toNat - msToNs) (cloudOf s.lidarProcessHandlers id) tr := by
  have hinterval := (publishIntervalOf_toNat hlow hhigh).1
  obtain ⟨⟨s', evs⟩, hrest, hrun⟩ := Option.bind_eq_some_iff.1 hrun
  cases hrun
  have hstart : Synced (F := F) id g now (publishIntervalOf publishFreq / kRatioOfMsToNs)
      (publishIntervalOf publishFreq - kNsTolerantFrameTimeDeviation)
      { PubHandler.setPointCloudConfig publishFreq with isTimestampSync := true } [] :=
    ⟨List.Pairwise.nil, rfl, rfl, rfl, fun _ => ⟨rfl, rfl, fun h => absurd rfl h⟩⟩
  have hsliced := (hstart.run hsync hrest).sliced htimely
  have hms : (publishIntervalOf publishFreq / kRatioOfMsToNs).toNat =
      (publishIntervalOf publishFreq).toNat / msToNs := UInt64.toNat_div _ _
  have htol : (publishIntervalOf publishFreq - kNsTolerantFrameTimeDeviation).toNat =
      (publishIntervalOf publishFreq).toNat - msToNs :=
    UInt64.toNat_sub_of_le _ _ (UInt64.le_iff_toNat_le.2 (le_trans (by decide) hinterval))
  rw [hms, htol] at hsliced
  exact hsliced

/-- **One frame of a LiDAR in each publish interval**, whatever else the threads do: if its packets
end less than half a millisecond apart, less what the interval is over whole milliseconds, then each
frame ends in the millisecond that is an interval after that of the frame before, and the packets do
not outrun the next such millisecond. -/
theorem slices (publishFreq : ℚ) (ts : List (PubTurn F)) (s : PubHandler F) (tr : List (PubEvent F))
    (id : UInt32) (g now : Nat) (hlow : 1 / 2 ≤ publishFreq) (hhigh : publishFreq ≤ 100)
    (hgap : 2 * g + (publishIntervalOf publishFreq).toNat % msToNs ≤ msToNs)
    (hsync : ∀ timeType, .sync timeType ∈ ts → timeType ≠ kTimestampTypeNoSync)
    (hrun : (PubHandler.setPointCloudConfig publishFreq).run (.sync kTimestampTypeGptpOrPtp :: ts) =
      some (s, tr))
    (htimely : Timely g now (packetsIn id tr)) :
    (cutsIn id tr).IsChain
        (fun c c' => c' / msToNs = c / msToNs + (publishIntervalOf publishFreq).toNat / msToNs) ∧
      ∀ c, (cutsIn id tr).getLast? = some c →
        Slots.endOf now (spansIn id tr) <
          (c / msToNs + (publishIntervalOf publishFreq).toNat / msToNs + 1) * msToNs := by
  have hinterval := (publishIntervalOf_toNat hlow hhigh).1
  have hpieces := (sliced_run hlow hhigh hsync hrun htimely).pieces
  have hunit : msToNs = 1000000 := rfl
  have hdiv := Nat.div_add_mod (publishIntervalOf publishFreq).toNat msToNs
  have hmany : 1 < (publishIntervalOf publishFreq).toNat / msToNs :=
    lt_of_lt_of_le (by decide) (Nat.div_le_div_right hinterval)
  rw [Nat.mul_comm] at hdiv
  have hpos : 0 < msToNs := by decide
  have hcover : (publishIntervalOf publishFreq).toNat / msToNs * msToNs ≤
      (publishIntervalOf publishFreq).toNat - msToNs + msToNs := by omega
  have hroom : (publishIntervalOf publishFreq).toNat - msToNs + 2 * g ≤
      (publishIntervalOf publishFreq).toNat / msToNs * msToNs := by omega
  have hcutting := (Slots.cutting_init now).run hpos hmany hcover hroom htimely.2
  rw [cutsIn_eq, ← hpieces]
  exact ⟨hcutting.chain, fun c hc => (hcutting.slot c hc).2.2⟩

/-- Then no frame is longer than two intervals, also not the first. -/
theorem pieces_short {publishFreq : ℚ} {ts : List (PubTurn F)} {s : PubHandler F}
    {tr : List (PubEvent F)} {id : UInt32} {g now : Nat} (hlow : 1 / 2 ≤ publishFreq)
    (hhigh : publishFreq ≤ 100) (hgap : 2 * g ≤ msToNs)
    (hsync : ∀ timeType, .sync timeType ∈ ts → timeType ≠ kTimestampTypeNoSync)
    (hrun : (PubHandler.setPointCloudConfig publishFreq).run (.sync kTimestampTypeGptpOrPtp :: ts) =
      some (s, tr))
    (htimely : Timely g now (packetsIn id tr)) :
    ∀ q ∈ piecesIn id tr, q.1 ≤ q.2 ∧
      q.2 < q.1 + 2 * (publishIntervalOf publishFreq).toNat := by
  have hinterval := (publishIntervalOf_toNat hlow hhigh).1
  have hpieces := (sliced_run hlow hhigh hsync hrun htimely).pieces
  have hunit : msToNs = 1000000 := rfl
  have hmany : 0 < (publishIntervalOf publishFreq).toNat / msToNs :=
    lt_of_lt_of_le (by decide) (Nat.div_le_div_right hinterval)
  have hle := Nat.div_mul_le_self (publishIntervalOf publishFreq).toNat msToNs
  have hpos : 0 < msToNs := by decide
  have htol : 0 < (publishIntervalOf publishFreq).toNat - msToNs := by omega
  have hg : g < msToNs := by omega
  have hstart : Slots.Running msToNs ((publishIntervalOf publishFreq).toNat / msToNs)
      ((publishIntervalOf publishFreq).toNat - msToNs) g {} now := Slots.running_init now
  intro q hq
  rw [← hpieces] at hq
  obtain ⟨hfl, hlt⟩ := (hstart.run hpos hmany htol hg htimely.2).pieces q hq
  exact ⟨hfl, by omega⟩

/-- Two frames, 10 milliseconds apart. -/
theorem slices_stream :
    (cutsIn 1 streamed.2).IsChain
        (fun c c' => c' / msToNs = c / msToNs + (publishIntervalOf 100).toNat / msToNs) ∧
      ∀ c, (cutsIn 1 streamed.2).getLast? = some c →
        Slots.endOf 0 (spansIn 1 streamed.2) <
          (c / msToNs + (publishIntervalOf 100).toNat / msToNs + 1) * msToNs :=
  slices 100 (stream 45) streamed.1 streamed.2 1 500000 0 (by norm_num) le_rfl (by decide +kernel)
    (by simp [stream]) (Option.some_get _).symm (by decide +kernel)

end Livox
