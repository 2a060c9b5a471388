import Mathlib.Tactic.FieldSimp
import Mathlib.Tactic.Linarith
import Kratos.Livox.PubHandler

/-!
# Every decoded point is in one frame

`Cut s tr`: after what `tr` shows, the points that have been framed of a LiDAR and then those in its
cloud are those that have been decoded, in order; and the packets that have been processed and then
those in the queue are those that have been received. Every turn keeps it (`Cut.turn`), with or
without time synchronization, and so does every run (`frames_conserve`).
-/

namespace Livox

variable {F : Type} {tr : List (PubEvent F)} {id : UInt32}

/-! ## What a trace says -/

def PubEvent.entries : PubEvent F → PointFrame F
  | .frame f => f
  | _ => []

def PubEvent.decodedAt (id : UInt32) : PubEvent F → List (PointXyzlt F)
  | .processed j _ _ points => if j = id then points else []
  | _ => []

def PubEvent.processed? : PubEvent F → Option RawPacket
  | .processed _ packet _ _ => some packet
  | _ => none

def PubEvent.received? : PubEvent F → Option RawPacket
  | .received packet => some packet
  | _ => none

def framesIn (tr : List (PubEvent F)) : PointFrame F := tr.flatMap PubEvent.entries

def processedIn (tr : List (PubEvent F)) : List RawPacket := tr.filterMap PubEvent.processed?

def receivedIn (tr : List (PubEvent F)) : List RawPacket := tr.filterMap PubEvent.received?

/-- The points of a LiDAR that have been decoded. -/
def decodedIn (id : UInt32) (tr : List (PubEvent F)) : List (PointXyzlt F) :=
  tr.flatMap (PubEvent.decodedAt id)

/-- The points of a LiDAR in some entries of frames. -/
def PointFrame.pointsOf (id : UInt32) (frame : PointFrame F) : List (PointXyzlt F) :=
  (frame.filter fun entry => entry.2.handle = id).flatMap fun entry => entry.2.points

@[simp] theorem framesIn_append (l : List (PubEvent F)) :
    framesIn (tr ++ l) = framesIn tr ++ framesIn l := List.flatMap_append

@[simp] theorem processedIn_append (l : List (PubEvent F)) :
    processedIn (tr ++ l) = processedIn tr ++ processedIn l := List.filterMap_append

@[simp] theorem receivedIn_append (l : List (PubEvent F)) :
    receivedIn (tr ++ l) = receivedIn tr ++ receivedIn l := List.filterMap_append

@[simp] theorem decodedIn_append (l : List (PubEvent F)) :
    decodedIn id (tr ++ l) = decodedIn id tr ++ decodedIn id l := List.flatMap_append

@[simp] theorem pointsOf_append (frame frame' : PointFrame F) :
    PointFrame.pointsOf id (frame ++ frame') =
      PointFrame.pointsOf id frame ++ PointFrame.pointsOf id frame' := by
  simp [PointFrame.pointsOf]

/-! ## Clouds -/

/-- The cloud of a LiDAR, which is empty before it has a handler. -/
def cloudOf (handlers : List (UInt32 × LidarPubHandler F)) (id : UInt32) : List (PointXyzlt F) :=
  ((OrderedMap.find handlers id).map LidarPubHandler.pointsClouds).getD []

theorem cloudOf_put {handlers : List (UInt32 × LidarPubHandler F)} (hs : OrderedMap.Sorted handlers)
    (j : UInt32) (h : LidarPubHandler F) :
    cloudOf (OrderedMap.put handlers j h) id =
      if j = id then h.pointsClouds else cloudOf handlers id := by
  unfold cloudOf
  rw [OrderedMap.find_put hs]
  split <;> rfl

/-- An entry of a frame is a cloud with a point, under the time of the first. -/
structure Entry (entry : UInt64 × PointPacket F) : Prop where
  pointsNum : entry.2.pointsNum = .ofNat entry.2.points.length
  baseTime : ∃ point rest, entry.2.points = point :: rest ∧ entry.1 = point.offsetTime

theorem entry_frameEntry {h : LidarPubHandler F} (hne : h.pointsClouds ≠ []) (id : UInt32) :
    Entry (PubHandler.frameEntry id h) where
  pointsNum := rfl
  baseTime := by
    obtain ⟨point, rest, hcons⟩ := List.exists_cons_of_ne_nil hne
    refine ⟨point, rest, hcons, ?_⟩
    simp [PubHandler.frameEntry, LidarPubHandler.getLidarBaseTime, hcons]

/-! ## The loop over the handlers -/

theorem collect_eq {handlers : List (UInt32 × LidarPubHandler F)} {frame frame' : PointFrame F}
    (h : PubHandler.collect handlers frame = some frame') :
    frame' = frame ++ (handlers.filter fun p => decide (p.2.pointsClouds ≠ [])).map
      fun p => PubHandler.frameEntry p.1 p.2 := by
  induction handlers generalizing frame with
  | nil =>
    cases h
    simp
  | cons p handlers ih =>
    obtain ⟨handle, c⟩ := p
    unfold PubHandler.collect at h
    split at h
    · cases h
    · split at h
      · rename_i hnil
        rw [ih h]
        simp [hnil]
      · rename_i hne
        rw [ih h]
        simp [hne]

/-- The entry of a LiDAR is its cloud. -/
theorem pointsOf_collect {handlers : List (UInt32 × LidarPubHandler F)} {frame : PointFrame F}
    (hs : OrderedMap.Sorted handlers) (h : PubHandler.collect handlers [] = some frame) :
    frame.pointsOf id = cloudOf handlers id := by
  have hskip : ∀ l : List (UInt32 × LidarPubHandler F),
      (l.filter fun p => decide (p.2.pointsClouds ≠ [])).flatMap (fun p => p.2.pointsClouds) =
        l.flatMap fun p => p.2.pointsClouds := by
    intro l
    induction l with
    | nil => rfl
    | cons p l ih => by_cases hp : p.2.pointsClouds = [] <;> simp_all
  rw [collect_eq h]
  unfold PointFrame.pointsOf
  rw [List.nil_append, List.filter_map, List.flatMap_map]
  have hswap : (handlers.filter fun p => decide (p.2.pointsClouds ≠ [])).filter
        ((fun entry => decide (entry.2.handle = id)) ∘ fun p => PubHandler.frameEntry p.1 p.2) =
      (handlers.filter fun p => p.1 = id).filter fun p => decide (p.2.pointsClouds ≠ []) :=
    List.filter_comm ..
  rw [hswap]
  refine (hskip _).trans ?_
  have hkey := OrderedMap.filter_key hs id
  unfold cloudOf
  rw [hkey]
  cases OrderedMap.find handlers id <;> simp

/-! ## `CheckTimer` -/

/-- What `CheckTimer` does to the clouds and what it frames. -/
structure Checked (s s' : PubHandler F) (frame : Option (PointFrame F)) : Prop where
  sorted : OrderedMap.Sorted s'.lidarProcessHandlers
  queue : s'.rawPacketQueue = s.rawPacketQueue
  extrinsics : s'.lidarExtrinsics = s.lidarExtrinsics
  conserved : ∀ id, PointFrame.pointsOf id (frame.getD []) ++ cloudOf s'.lidarProcessHandlers id =
    cloudOf s.lidarProcessHandlers id
  entries : ∀ entry ∈ frame.getD [], Entry entry

theorem checked_none {s : PubHandler F} (hs : OrderedMap.Sorted s.lidarProcessHandlers) :
    Checked s s none :=
  ⟨hs, rfl, rfl, fun _ => rfl, fun _ h => absurd h List.not_mem_nil⟩

theorem checkTimer_checked {s s' : PubHandler F} {h : LidarPubHandler F} {now : Int}
    {frame : Option (PointFrame F)} (hs : OrderedMap.Sorted s.lidarProcessHandlers)
    (hfind : OrderedMap.find s.lidarProcessHandlers id = some h)
    (hcheck : s.checkTimer id h now = some (s', frame)) : Checked s s' frame := by
  have hcloud : cloudOf s.lidarProcessHandlers id = h.pointsClouds := by
    unfold cloudOf
    rw [hfind]
    rfl
  unfold PubHandler.checkTimer at hcheck
  split at hcheck
  · dsimp only at hcheck
    split at hcheck
    · cases hcheck
    split at hcheck
    · cases hcheck
      exact checked_none hs
    · split at hcheck
      · cases hcheck
        exact checked_none hs
      · -- the cloud of the LiDAR is swapped for an empty one
        split at hcheck
        · rename_i hnil
          cases hcheck
          refine ⟨hs.put _ _, rfl, rfl, fun j => ?_, fun _ h => absurd h List.not_mem_nil⟩
          rw [cloudOf_put hs]
          split
          · rename_i hj
            rw [← hj, hcloud]
            exact hnil.symm
          · rfl
        · rename_i hne
          cases hcheck
          refine ⟨hs.put _ _, rfl, rfl, fun j => ?_, fun entry hentry => ?_⟩
          · rw [cloudOf_put hs]
            by_cases hj : id = j
            · subst hj
              rw [hcloud]
              simp [PointFrame.pointsOf, PubHandler.frameEntry, LidarPubHandler.getLidarPointClouds]
            · simp [PointFrame.pointsOf, PubHandler.frameEntry, hj]
          · rw [List.mem_singleton.1 hentry]
            exact entry_frameEntry hne id
  · split at hcheck
    · cases hcheck
      exact ⟨hs, rfl, rfl, fun _ => rfl, fun _ h => absurd h List.not_mem_nil⟩
    · split at hcheck
      · cases hcheck
        exact checked_none hs
      · -- every cloud is
        obtain ⟨collected, hcollect, heq⟩ := Option.map_eq_some_iff.1 hcheck
        cases heq
        refine ⟨hs.map _, rfl, rfl, fun j => ?_, fun entry hentry => ?_⟩
        · rw [Option.getD_some, pointsOf_collect hs hcollect]
          unfold cloudOf
          rw [OrderedMap.find_map]
          cases OrderedMap.find s.lidarProcessHandlers j <;>
            simp [LidarPubHandler.getLidarPointClouds]
        · rw [Option.getD_some, collect_eq hcollect, List.nil_append] at hentry
          obtain ⟨p, hp, rfl⟩ := List.mem_map.1 hentry
          exact entry_frameEntry (of_decide_eq_true (List.mem_filter.1 hp).2) p.1

/-! ## The invariant -/

variable [CMath F]

/-- What a trace says of its own entries. -/
structure Cut (s : PubHandler F) (tr : List (PubEvent F)) : Prop where
  sorted : OrderedMap.Sorted s.lidarProcessHandlers
  queue : receivedIn tr = processedIn tr ++ s.rawPacketQueue
  conserved : ∀ id, (framesIn tr).pointsOf id ++ cloudOf s.lidarProcessHandlers id = decodedIn id tr
  entries : ∀ entry ∈ framesIn tr, Entry entry
  decoded : ∀ id packet extrinsic points, .processed id packet extrinsic points ∈ tr →
    id = packet.handle ∧ packet.pointCloudProcess extrinsic = some points

theorem cut_init (publishFreq : ℚ) : Cut (.setPointCloudConfig publishFreq : PubHandler F) [] where
  sorted := List.Pairwise.nil
  queue := rfl
  conserved := fun _ => rfl
  entries := fun _ h => absurd h List.not_mem_nil
  decoded := fun _ _ _ _ h => absurd h List.not_mem_nil

theorem processHandler_pointsClouds (s : PubHandler F) (id : UInt32) :
    (s.processHandler id).pointsClouds = cloudOf s.lidarProcessHandlers id := by
  unfold PubHandler.processHandler cloudOf
  cases OrderedMap.find s.lidarProcessHandlers id <;> cases OrderedMap.find s.lidarExtrinsics id <;>
    simp [LidarPubHandler.new, LidarPubHandler.setLidarsExtParam, apply_ite]

/-- What a pass of `RawDataProcess` does: nothing without a packet, or one packet and the timer. -/
theorem rawDataProcess_cases {s s' : PubHandler F} {now : Int} {evs : List (PubEvent F)}
    (hturn : s.rawDataProcess now = some (s', evs)) :
    (s.rawPacketQueue = [] ∧ s' = s ∧ evs = []) ∨
      ∃ rawData rest points c frame s₁, s.rawPacketQueue = rawData :: rest ∧
        rawData.pointCloudProcess (s.processHandler rawData.handle).extrinsic = some points ∧
        c = { s.processHandler rawData.handle with
              pointsClouds := (s.processHandler rawData.handle).pointsClouds ++ points } ∧
        s₁ = { s with
               rawPacketQueue := rest
               lidarProcessHandlers := OrderedMap.put s.lidarProcessHandlers rawData.handle c } ∧
        s₁.checkTimer rawData.handle c now = some (s', frame) ∧
        evs = .processed rawData.handle rawData c.extrinsic points :: (frame.map .frame).toList := by
  unfold PubHandler.rawDataProcess at hturn
  split at hturn
  · rename_i hqueue
    cases hturn
    exact .inl ⟨hqueue, rfl, rfl⟩
  · rename_i rawData rest hqueue
    dsimp only [getLidarId] at hturn
    rw [if_pos rfl] at hturn
    obtain ⟨points, hpoints, hturn⟩ := Option.bind_eq_some_iff.1 hturn
    obtain ⟨⟨s'', frame⟩, hcheck, hturn⟩ := Option.bind_eq_some_iff.1 hturn
    cases hturn
    exact .inr ⟨rawData, rest, points, _, frame, _, hqueue, hpoints, rfl, rfl, hcheck, rfl⟩

namespace Cut

variable {s s' : PubHandler F} {evs : List (PubEvent F)}

/-- A turn that is not seen, and leaves the clouds and the queue. -/
theorem silent (h : Cut s tr) (hhandlers : s'.lidarProcessHandlers = s.lidarProcessHandlers)
    (hqueue : s'.rawPacketQueue = s.rawPacketQueue) : Cut s' (tr ++ []) := by
  rw [List.append_nil]
  exact ⟨hhandlers ▸ h.sorted, hqueue ▸ h.queue, hhandlers ▸ h.conserved, h.entries, h.decoded⟩

theorem receive (h : Cut s tr) (packet : RawPacket) :
    Cut { s with rawPacketQueue := s.rawPacketQueue ++ [packet] } (tr ++ [.received packet]) where
  sorted := h.sorted
  queue := by
    rw [receivedIn_append, processedIn_append, h.queue]
    simp [receivedIn, processedIn, PubEvent.received?, PubEvent.processed?]
  conserved := fun id => by
    have hid := h.conserved id
    simpa [framesIn, decodedIn, PubEvent.entries, PubEvent.decodedAt] using hid
  entries := by simpa [framesIn, PubEvent.entries] using h.entries
  decoded := by simpa using h.decoded

/-- The events of a pass: a packet, and what `CheckTimer` frames. -/
theorem process {rawData : RawPacket} {rest : List RawPacket} {h h' : LidarPubHandler F}
    {points : List (PointXyzlt F)} {frame : Option (PointFrame F)} (hcut : Cut s tr)
    (hqueue : s.rawPacketQueue = rawData :: rest)
    (hbefore : h.pointsClouds = cloudOf s.lidarProcessHandlers rawData.handle)
    (hpoints : rawData.pointCloudProcess h.extrinsic = some points)
    (hafter : h' = { h with pointsClouds := h.pointsClouds ++ points })
    (hchecked : Checked
      { s with
        rawPacketQueue := rest
        lidarProcessHandlers := OrderedMap.put s.lidarProcessHandlers rawData.handle h' }
      s' frame) :
    Cut s'
      (tr ++ .processed rawData.handle rawData h.extrinsic points :: (frame.map .frame).toList) := by
  have hentries : framesIn
      (PubEvent.processed rawData.handle rawData h.extrinsic points :: (frame.map .frame).toList) =
        frame.getD [] := by
    cases frame <;> simp [framesIn, PubEvent.entries]
  refine ⟨hchecked.sorted, ?_, fun j => ?_, ?_, ?_⟩
  · rw [receivedIn_append, processedIn_append, hcut.queue, hqueue, hchecked.queue]
    cases frame <;>
      simp [receivedIn, processedIn, PubEvent.received?, PubEvent.processed?, List.filterMap_cons]
  · have hj := hchecked.conserved j
    dsimp only at hj
    rw [cloudOf_put hcut.sorted] at hj
    have hdecoded : decodedIn j
        (PubEvent.processed rawData.handle rawData h.extrinsic points :: (frame.map .frame).toList) =
          if rawData.handle = j then points else [] := by
      cases frame <;> simp [decodedIn, PubEvent.decodedAt]
    rw [framesIn_append, hentries, pointsOf_append, decodedIn_append, hdecoded, List.append_assoc, hj,
      ← hcut.conserved j, hafter]
    split
    · rename_i hid
      subst hid
      rw [hbefore, List.append_assoc]
    · rw [List.append_nil]
  · intro entry hentry
    rw [framesIn_append, hentries] at hentry
    rcases List.mem_append.1 hentry with hentry | hentry
    · exact hcut.entries entry hentry
    · exact hchecked.entries entry hentry
  · intro j packet extrinsic points' hmem
    rcases List.mem_append.1 hmem with hmem | hmem
    · exact hcut.decoded j packet extrinsic points' hmem
    · rcases List.mem_cons.1 hmem with heq | hmem
      · injection heq with hj hpacket hextrinsic hpoints'
        subst hj hpacket hextrinsic hpoints'
        exact ⟨rfl, hpoints⟩
      · cases frame with
        | none => cases hmem
        | some f => cases List.mem_singleton.1 hmem

theorem rawDataProcess (h : Cut s tr) {now : Int}
    (hturn : s.rawDataProcess now = some (s', evs)) : Cut s' (tr ++ evs) := by
  rcases rawDataProcess_cases hturn with ⟨-, rfl, rfl⟩ |
    ⟨rawData, rest, points, c, frame, s₁, hqueue, hpoints, hc, hs₁, hcheck, rfl⟩
  · exact h.silent rfl rfl
  · have hchecked := checkTimer_checked (s := s₁) (hs₁ ▸ h.sorted.put _ _)
      (hs₁ ▸ (OrderedMap.find_put h.sorted).trans (if_pos rfl)) hcheck
    rw [hs₁] at hchecked
    have hextrinsic : c.extrinsic = (s.processHandler rawData.handle).extrinsic := by rw [hc]
    rw [hextrinsic]
    exact h.process hqueue (processHandler_pointsClouds s rawData.handle) hpoints hc hchecked

theorem turn (h : Cut s tr) {t : PubTurn F} (hturn : s.turn t = some (s', evs)) :
    Cut s' (tr ++ evs) := by
  cases t with
  | process now => exact h.rawDataProcess hturn
  | receive handle devType data now =>
    unfold PubHandler.turn at hturn
    dsimp only at hturn
    split at hturn
    · cases hturn
      exact h.silent rfl rfl
    · obtain ⟨packet, -, heq⟩ := Option.map_eq_some_iff.1 hturn
      cases heq
      exact h.receive packet
  | sync timeType | addLidarsExtParam lidarParam | clearAllLidarsExtrinsicParams =>
    cases hturn
    exact h.silent rfl rfl

theorem run (h : Cut s tr) {ts : List (PubTurn F)} (hrun : s.run ts = some (s', evs)) :
    Cut s' (tr ++ evs) := by
  induction ts generalizing s tr evs with
  | nil =>
    cases hrun
    exact h.silent rfl rfl
  | cons t ts ih =>
    obtain ⟨⟨s₁, evs₁⟩, hturn, hrun⟩ := Option.bind_eq_some_iff.1 hrun
    obtain ⟨⟨s₂, evs₂⟩, hrest, hrun⟩ := Option.bind_eq_some_iff.1 hrun
    cases hrun
    rw [← List.append_assoc]
    exact ih (h.turn hturn) hrest

end Cut

/-- **Decoded points are neither lost, repeated, reordered nor given to another LiDAR**: those of a
LiDAR are the points of its frames and then its cloud; packets are decoded in the order in which
they came, and a frame's entry bears the time of its first point. -/
theorem frames_conserve (publishFreq : ℚ) (ts : List (PubTurn F)) (s : PubHandler F)
    (tr : List (PubEvent F))
    (hrun : (PubHandler.setPointCloudConfig publishFreq).run ts = some (s, tr)) :
    receivedIn tr = processedIn tr ++ s.rawPacketQueue ∧
      (∀ id, (framesIn tr).pointsOf id ++ cloudOf s.lidarProcessHandlers id = decodedIn id tr) ∧
      (∀ entry ∈ framesIn tr, Entry entry) ∧
      ∀ id packet extrinsic points, .processed id packet extrinsic points ∈ tr →
        id = packet.handle ∧ packet.pointCloudProcess extrinsic = some points := by
  have h := (cut_init publishFreq).run hrun
  rw [List.nil_append] at h
  exact ⟨h.queue, h.conserved, h.entries, h.decoded⟩

/-! ## No turn is undefined -/

def RawData.count : RawData → Nat
  | .imu | .unknown => 0
  | .cartesianHigh raw | .cartesianLow raw => raw.length
  | .spherical raw => raw.length
  | .doubleEcho raw => raw.length

/-- A packet that holds the `dot_num` records it declares, one at least; of an unknown type none is
read. -/
def EthernetPacket.Whole (data : EthernetPacket) : Prop :=
  data.dotNum ≠ 0 ∧ (data.data ≠ .unknown → data.dotNum.toNat ≤ data.data.count)

/-- What comes is whole, and of one of these LiDARs. -/
def PubTurn.Fair (handles : List UInt32) : PubTurn F → Prop
  | .receive handle _ data _ => handle ∈ handles ∧ (data.data ≠ .imu → data.Whole)
  | _ => True

omit [CMath F] in
theorem forEach_isSome {R : Type} {pkt : RawPacket} {raw : List R}
    {turn : Nat → R → List (PointXyzlt F)} (hline : pkt.lineNum ≠ 0)
    (h : pkt.pointNum.toNat ≤ raw.length) : (pkt.forEach raw turn).isSome := by
  have hall : ∀ l : List Nat, (∀ i ∈ l, i < raw.length) →
      (l.mapM fun i => (pkt.record raw i).map (turn i)).isSome := by
    intro l hl
    induction l with
    | nil => rfl
    | cons i l ih =>
      obtain ⟨hi, hrest⟩ := List.forall_mem_cons.1 hl
      obtain ⟨ps, hps⟩ := Option.isSome_iff_exists.1 (ih hrest)
      have hrecord : pkt.record raw i = some raw[i] := by
        rw [RawPacket.record, if_neg hline, List.getElem?_eq_getElem hi]
      simp [List.mapM_cons, hrecord, hps]
  unfold RawPacket.forEach
  rw [Option.isSome_map]
  exact hall _ fun i hi => (List.mem_range.1 hi).trans_le h

/-- A queued packet that can be decoded. -/
structure RawPacket.Whole (pkt : RawPacket) : Prop where
  lineNum : pkt.lineNum ≠ 0
  count : pkt.rawData ≠ .unknown → pkt.pointNum.toNat ≤ pkt.rawData.count

theorem pointCloudProcess_isSome {pkt : RawPacket} {extrinsic : ExtParameterDetailed F}
    (h : pkt.Whole) : (pkt.pointCloudProcess extrinsic).isSome := by
  obtain ⟨hline, hcount⟩ := h
  unfold RawPacket.pointCloudProcess
  cases hraw : pkt.rawData with
  | cartesianHigh raw | cartesianLow raw | spherical raw | doubleEcho raw =>
    rw [hraw] at hcount
    exact forEach_isSome hline (hcount (by simp))
  | imu | unknown => rfl

omit [CMath F] in
theorem rawPacket_whole {handle : UInt32} {devType : DeviceType} {data : EthernetPacket}
    {now : UInt64} (h : data.Whole) : ∃ packet, rawPacket handle devType data now = some packet ∧
      packet.handle = handle ∧ packet.Whole := by
  obtain ⟨hpos, hcount⟩ := h
  unfold rawPacket
  rw [if_neg hpos]
  refine ⟨_, rfl, rfl, ?_, by simpa using hcount⟩
  cases devType <;> simp [kLineNumberHAP, kLineNumberMid360, kLineNumberDefault]

omit [CMath F] in
theorem collect_isSome {handlers : List (UInt32 × LidarPubHandler F)} {frame : PointFrame F}
    (h : frame.length + handlers.length ≤ kMaxSourceLidar) :
    (PubHandler.collect handlers frame).isSome := by
  induction handlers generalizing frame with
  | nil => rfl
  | cons p handlers ih =>
    rw [List.length_cons] at h
    unfold PubHandler.collect
    rw [if_neg (by omega)]
    split
    · exact ih (by omega)
    · exact ih (by rw [List.length_append, List.length_singleton]; omega)

/-- Only these LiDARs have a handler or a packet in the queue, the packets are whole, and there is an
interval. -/
structure Safe (handles : List UInt32) (s : PubHandler F) : Prop where
  interval : s.publishIntervalMs ≠ 0
  sorted : OrderedMap.Sorted s.lidarProcessHandlers
  keys : ∀ p ∈ s.lidarProcessHandlers, p.1 ∈ handles
  queue : ∀ pkt ∈ s.rawPacketQueue, pkt.handle ∈ handles ∧ pkt.Whole

namespace Safe

variable {handles : List UInt32} {s s' : PubHandler F}

omit [CMath F] in
theorem length_le (h : Safe handles s) : s.lidarProcessHandlers.length ≤ handles.length := by
  have hnodup : (s.lidarProcessHandlers.map (·.1)).Nodup :=
    List.pairwise_map.2 (h.sorted.imp fun hlt => hlt.ne)
  have hsub : s.lidarProcessHandlers.map (·.1) ⊆ handles := fun id hid => by
    obtain ⟨p, hp, rfl⟩ := List.mem_map.1 hid
    exact h.keys p hp
  simpa using (List.subperm_of_subset hnodup hsub).length_le

omit [CMath F] in
theorem put_keys (h : Safe handles s) (hid : id ∈ handles) (c : LidarPubHandler F) :
    ∀ p ∈ OrderedMap.put s.lidarProcessHandlers id c, p.1 ∈ handles := by
  intro p hp
  rcases OrderedMap.key_of_mem_put hp with hkey | hkey
  · exact hkey ▸ hid
  · obtain ⟨q, hq, hqp⟩ := List.mem_map.1 hkey
    exact hqp ▸ h.keys q hq

omit [CMath F] in
theorem checkTimer {h : LidarPubHandler F} (hsafe : Safe handles s) (hmax : handles.length ≤ 32)
    (hid : id ∈ handles) (now : Int) :
    ∃ s' frame, s.checkTimer id h now = some (s', frame) ∧ Safe handles s' := by
  have hput : ∀ c : LidarPubHandler F, Safe handles
      { s with lidarProcessHandlers := OrderedMap.put s.lidarProcessHandlers id c } := fun c =>
    ⟨hsafe.interval, hsafe.sorted.put _ _, hsafe.put_keys hid c, hsafe.queue⟩
  unfold PubHandler.checkTimer
  split
  · dsimp only
    rw [if_neg hsafe.interval]
    split
    · exact ⟨_, _, rfl, hsafe⟩
    · split
      · exact ⟨_, _, rfl, hsafe⟩
      · split
        · exact ⟨_, _, rfl, hput _⟩
        · exact ⟨_, _, rfl, hput _⟩
  · split
    · exact ⟨_, _, rfl, hsafe.interval, hsafe.sorted, hsafe.keys, hsafe.queue⟩
    · split
      · exact ⟨_, _, rfl, hsafe⟩
      · have hlen : ([] : PointFrame F).length + s.lidarProcessHandlers.length ≤ kMaxSourceLidar := by
          rw [List.length_nil, Nat.zero_add]
          exact hsafe.length_le.trans hmax
        obtain ⟨frame, hframe⟩ := Option.isSome_iff_exists.1 (collect_isSome hlen)
        rw [hframe]
        refine ⟨_, _, rfl, hsafe.interval, hsafe.sorted.map _, fun p hp => ?_, hsafe.queue⟩
        obtain ⟨q, hq, rfl⟩ := List.mem_map.1 hp
        exact hsafe.keys q hq

theorem turn (h : Safe handles s) (hmax : handles.length ≤ 32) {t : PubTurn F} (ht : t.Fair handles) :
    ∃ s' evs, s.turn t = some (s', evs) ∧ Safe handles s' := by
  cases t with
  | sync timeType | addLidarsExtParam lidarParam | clearAllLidarsExtrinsicParams =>
    exact ⟨_, _, rfl, h.interval, h.sorted, h.keys, h.queue⟩
  | receive handle devType data now =>
    obtain ⟨hhandle, hwhole⟩ := ht
    unfold PubHandler.turn
    dsimp only
    split
    · exact ⟨_, _, rfl, h⟩
    · rename_i himu
      obtain ⟨packet, hpacket, hsame, hok⟩ := rawPacket_whole (hwhole fun he => himu he)
      rw [hpacket]
      refine ⟨_, _, rfl, h.interval, h.sorted, h.keys, fun pkt hpkt => ?_⟩
      rcases List.mem_append.1 hpkt with hpkt | hpkt
      · exact h.queue pkt hpkt
      · rw [List.mem_singleton.1 hpkt]
        exact ⟨hsame ▸ hhandle, hok⟩
  | process now =>
    unfold PubHandler.turn PubHandler.rawDataProcess
    dsimp only
    split
    · exact ⟨_, _, rfl, h⟩
    · rename_i rawData rest hqueue
      have hraw := h.queue rawData (hqueue ▸ List.mem_cons_self)
      have hsome : (rawData.pointCloudProcess (s.processHandler rawData.handle).extrinsic).isSome :=
        pointCloudProcess_isSome hraw.2
      obtain ⟨points, hpoints⟩ := Option.isSome_iff_exists.1 hsome
      have hsafe : ∀ c : LidarPubHandler F, Safe handles
          { s with
            rawPacketQueue := rest
            lidarProcessHandlers := OrderedMap.put s.lidarProcessHandlers rawData.handle c } :=
        fun c => ⟨h.interval, h.sorted.put _ _, h.put_keys hraw.1 c,
          fun pkt hpkt => h.queue pkt (hqueue ▸ List.mem_cons_of_mem _ hpkt)⟩
      let c : LidarPubHandler F :=
        { s.processHandler rawData.handle with
          pointsClouds := (s.processHandler rawData.handle).pointsClouds ++ points }
      obtain ⟨s', frame, hcheck, hs'⟩ := (hsafe c).checkTimer (h := c) hmax hraw.1 now
      refine ⟨s',
        .processed rawData.handle rawData c.extrinsic points :: (frame.map .frame).toList, ?_, hs'⟩
      simp only [getLidarId, if_pos, hpoints, Option.bind_eq_bind, Option.bind_some]
      exact Option.bind_eq_some_iff.2 ⟨_, hcheck, rfl⟩

theorem run (h : Safe handles s) (hmax : handles.length ≤ 32) {ts : List (PubTurn F)}
    (hts : ∀ t ∈ ts, t.Fair handles) : (s.run ts).isSome := by
  induction ts generalizing s with
  | nil => rfl
  | cons t ts ih =>
    obtain ⟨ht, hrest⟩ := List.forall_mem_cons.1 hts
    obtain ⟨s', evs, hturn, hs'⟩ := h.turn hmax ht
    obtain ⟨⟨s'', evs'⟩, hrun⟩ := Option.isSome_iff_exists.1 (ih hs' hrest)
    simp [PubHandler.run, hturn, hrun]

end Safe

/-- The interval in nanoseconds, for a frequency that the node's own check lets through. -/
theorem publishIntervalOf_toNat {publishFreq : ℚ} (hlow : 1 / 2 ≤ publishFreq)
    (hhigh : publishFreq ≤ 100) : 10000000 ≤ (publishIntervalOf publishFreq).toNat ∧
      (publishIntervalOf publishFreq).toNat ≤ 2000000000 := by
  have hpos : 0 < publishFreq := by linarith
  have hval : (kNsPerSecond.toNat : ℚ) / (publishFreq * 10) * 10 = 1000000000 / publishFreq := by
    rw [show (kNsPerSecond.toNat : ℚ) = 1000000000 by rfl]
    field_simp
  have hmin : (10000000 : ℚ) ≤ 1000000000 / publishFreq := by
    rw [le_div_iff₀ hpos]
    linarith
  have hmax : (1000000000 : ℚ) / publishFreq ≤ 2000000000 := by
    rw [div_le_iff₀ hpos]
    linarith
  have hfloor : ⌊(1000000000 : ℚ) / publishFreq⌋₊ ≤ 2000000000 :=
    Nat.floor_le_of_le (by exact_mod_cast hmax)
  have hlarge : (2000000000 : Nat) < UInt64.size := by decide
  unfold publishIntervalOf
  rw [hval, UInt64.toNat_ofNat_of_lt' (by omega)]
  exact ⟨Nat.le_floor (by exact_mod_cast hmin), hfloor⟩

omit [CMath F] in
theorem safe_init {publishFreq : ℚ} (hlow : 1 / 2 ≤ publishFreq) (hhigh : publishFreq ≤ 100)
    (handles : List UInt32) :
    Safe handles (PubHandler.setPointCloudConfig publishFreq : PubHandler F) where
  interval := fun hzero => by
    have hms : (publishIntervalOf publishFreq).toNat / 1000000 = 0 :=
      (UInt64.toNat_div _ _).symm.trans (congrArg UInt64.toNat hzero)
    have hlong := (publishIntervalOf_toNat hlow hhigh).1
    omega
  sorted := List.Pairwise.nil
  keys := fun _ h => absurd h List.not_mem_nil
  queue := fun _ h => absurd h List.not_mem_nil

instance instCMathRat : CMath ℚ where
  ofInt n := n
  sin := fun _ => 0
  cos := fun _ => 1

/-- A packet of one point, with the time in nanoseconds. -/
def packetAt (time : Nat) : EthernetPacket where
  timeType := kTimestampTypeGptpOrPtp
  timestamp := .ofNat time
  timeInterval := 0
  dotNum := 1
  data := .cartesianHigh [{ x := 1000, y := 2000, z := 3000, reflectivity := 10, tag := 0 }]

/-- Packets half a millisecond apart, each processed when it has come. -/
def stream (n : Nat) : List (PubTurn ℚ) :=
  (List.range n).flatMap fun k => [.receive 1 .mid360 (packetAt (500000 * k)) 0, .process 0]

/-- The run of 45 of these packets, at 100 frames a second. -/
def streamed : PubHandler ℚ × List (PubEvent ℚ) :=
  ((PubHandler.setPointCloudConfig 100 : PubHandler ℚ).run
    (.sync kTimestampTypeGptpOrPtp :: stream 45)).get (by decide +kernel)

theorem frames_conserve_stream :
    receivedIn streamed.2 = processedIn streamed.2 ++ streamed.1.rawPacketQueue ∧
      (∀ id, (framesIn streamed.2).pointsOf id ++ cloudOf streamed.1.lidarProcessHandlers id =
        decodedIn id streamed.2) ∧
      (∀ entry ∈ framesIn streamed.2, Entry entry) ∧
      ∀ id packet extrinsic points, .processed id packet extrinsic points ∈ streamed.2 →
        id = packet.handle ∧ packet.pointCloudProcess extrinsic = some points :=
  frames_conserve 100 (.sync kTimestampTypeGptpOrPtp :: stream 45) streamed.1 streamed.2
    (Option.some_get _).symm

end Livox
