import Kratos.Livox.Proof.Fifo

/-!
# Every packet of a frame is stored or dropped once

The point thread takes the packets of its frames in order. `Handled i d tr frames`: what a trace `tr`
has stored and dropped of LiDAR `i` are, in order, packets of that LiDAR in the part of `frames` that
the thread has passed. A packet is dropped at a full queue only (`dropped_full`), so what is
published are packets of the frames, in order and each at most once (`published_sublist`).
-/

namespace Livox

variable {F : Type} {i : Index} {d : Driver F} {tr : List (Event F)}

/-- What `QueuePushAny` makes of an entry of a frame. -/
def packetOf (entry : UInt64 × PointPacket F) : StoragePacket F where
  baseTime := entry.1
  pointsNum := entry.2.pointsNum
  points := entry.2.points.take entry.2.pointsNum.toNat

/-- The packets of a frame that are the LiDAR's. -/
def CacheIndex.packetsFor (c : CacheIndex) (i : Index) (frame : PointFrame F) :
    List (StoragePacket F) :=
  (frame.filter fun entry => c.getIndex entry.2.lidarType entry.2.handle = some i).map packetOf

def Event.handledAt (i : Index) : Event F → Option (StoragePacket F)
  | .stored j packet | .dropped j packet => if j = i then some packet else none
  | _ => none

def handledIn (i : Index) (tr : List (Event F)) : List (StoragePacket F) :=
  tr.filterMap (Event.handledAt i)

@[simp] theorem handledIn_append (l : List (Event F)) :
    handledIn i (tr ++ l) = handledIn i tr ++ handledIn i l := List.filterMap_append

@[simp] theorem handledIn_toList (ev : Option (Event F)) :
    handledIn i ev.toList = (ev.bind (Event.handledAt i)).toList := by
  cases ev with
  | none => rfl
  | some e => cases h : e.handledAt i <;> simp [handledIn, h]

theorem storedIn_sublist (i : Index) (tr : List (Event F)) :
    (storedIn i tr).Sublist (handledIn i tr) := by
  induction tr with
  | nil => exact .slnil
  | cons e tr ih =>
    cases e with
    | stored j packet =>
      by_cases hi : j = i
      · simpa [storedIn, handledIn, Event.storedAt, Event.handledAt, List.filterMap_cons, hi]
          using ih.cons_cons packet
      · simpa [storedIn, handledIn, Event.storedAt, Event.handledAt, List.filterMap_cons, hi]
          using ih
    | dropped j packet =>
      by_cases hi : j = i
      · simpa [storedIn, handledIn, Event.storedAt, Event.handledAt, List.filterMap_cons, hi]
          using ih.cons packet
      · simpa [storedIn, handledIn, Event.storedAt, Event.handledAt, List.filterMap_cons, hi]
          using ih
    | taken j pkg | published j pkg =>
      simpa [storedIn, handledIn, Event.storedAt, Event.handledAt, List.filterMap_cons] using ih

/-! ## The places of the point thread -/

/-- The packets of its frame that the point thread has not begun with. -/
def StorePc.left : StorePc F → PointFrame F
  | .idle => []
  | .packets rest => rest
  | .init p | .ifFull p | .baseTime p | .pointsNum p | .clear p | .copy p | .advance p | .ifEmpty p
  | .ifCount p | .signal p => p.rest

/-- The packet that it has begun with and has neither stored nor dropped. -/
def StorePc.begun (i : Index) : StorePc F → List (StoragePacket F)
  | .init p | .ifFull p | .baseTime p | .pointsNum p | .clear p | .copy p | .advance p =>
    if p.index = i then [p.stored] else []
  | _ => []

structure Handled (i : Index) (d : Driver F) (tr : List (Event F)) (frames : List (PointFrame F)) :
    Prop where
  past : ∃ past, past ++ d.store.left ++ d.frames.flatten = frames.flatten ∧
    (handledIn i tr ++ d.store.begun i).Sublist (d.lds.cacheIndex.packetsFor i past)

/-! ## Places stay -/

/-- What has a place keeps it. -/
theorem getIndex_getFreeIndex {c : CacheIndex} {t t' : UInt8} {handle handle' : UInt32}
    {index : Index} (h : c.getIndex t handle = some index) :
    (c.getFreeIndex t' handle').2.getIndex t handle = some index := by
  unfold CacheIndex.getFreeIndex
  split
  · exact h
  · rename_i key hkey
    split
    · exact h
    · rename_i hnone
      unfold CacheIndex.takeIndex
      split
      · exact h
      · unfold CacheIndex.getIndex at h ⊢
        obtain ⟨k, hk, hindex⟩ := Option.bind_eq_some_iff.1 h
        have hne : k ≠ key := fun he => by
          rw [he, hnone] at hindex
          cases hindex
        rw [hk, Option.bind_some]
        dsimp only
        rw [Function.update_of_ne hne]
        exact hindex

theorem packetsFor_sublist {c c' : CacheIndex}
    (h : ∀ t handle, c.getIndex t handle = some i → c'.getIndex t handle = some i)
    (frame : PointFrame F) : (c.packetsFor i frame).Sublist (c'.packetsFor i frame) := by
  refine List.Sublist.map _ (List.monotone_filter_right _ fun entry hentry => ?_)
  rw [decide_eq_true_iff] at hentry ⊢
  exact h _ _ hentry

/-! ## The turns -/

namespace Handled

variable {frames : List (PointFrame F)} {d' : Driver F} {ev : Option (Event F)}

/-- A turn in which no packet is begun with, and what is done with one is seen. -/
theorem go (h : Handled i d tr frames) (hframes : d'.frames = d.frames)
    (hcache : d'.lds.cacheIndex = d.lds.cacheIndex) (hleft : d'.store.left = d.store.left)
    (hev : (ev.bind (Event.handledAt i)).toList ++ d'.store.begun i = d.store.begun i) :
    Handled i d' (tr ++ ev.toList) frames where
  past := by
    obtain ⟨past, hpast, hsub⟩ := h.past
    refine ⟨past, by rw [hframes, hleft, hpast], ?_⟩
    rw [handledIn_append, handledIn_toList, List.append_assoc, hev, hcache]
    exact hsub

/-- The head of the loop takes an entry. -/
theorem entry (h : Handled i d tr frames) {e : UInt64 × PointPacket F} {rest : PointFrame F}
    {pc : StorePc F} (hpc : d.store = .packets (e :: rest)) (hleft : pc.left = rest)
    (hbegun : pc.begun i =
      if d.lds.cacheIndex.getIndex e.2.lidarType e.2.handle = some i then [packetOf e] else []) :
    Handled i { d with store := pc } (tr ++ (none : Option (Event F)).toList) frames where
  past := by
    obtain ⟨past, hpast, hsub⟩ := h.past
    rw [hpc] at hpast hsub
    refine ⟨past ++ [e], ?_, ?_⟩
    · rw [← hpast, hleft]
      simp [StorePc.left]
    · have hsub' : (handledIn i tr).Sublist (d.lds.cacheIndex.packetsFor i past) := by
        simpa [StorePc.begun] using hsub
      have happ : d.lds.cacheIndex.packetsFor i (past ++ [e]) =
          d.lds.cacheIndex.packetsFor i past ++ pc.begun i := by
        rw [hbegun]
        unfold CacheIndex.packetsFor
        rw [List.filter_append, List.map_append]
        by_cases hi : d.lds.cacheIndex.getIndex e.2.lidarType e.2.handle = some i
        · simp [hi]
        · simp [hi]
      simpa [happ] using hsub'.append_right (pc.begun i)

theorem pointTurn (h : Handled i d tr frames) :
    Handled i d.pointTurn.1 (tr ++ d.pointTurn.2.toList) frames := by
  unfold Driver.pointTurn
  cases hpc : d.store with
  | idle =>
    dsimp only
    cases hf : d.frames with
    | nil => exact h.go rfl rfl rfl rfl
    | cons frame rest =>
      obtain ⟨past, hpast, hsub⟩ := h.past
      rw [hpc, hf] at hpast
      rw [hpc] at hsub
      exact ⟨past, by simpa [StorePc.left] using hpast, by simpa [StorePc.begun] using hsub⟩
  | packets rest =>
    cases rest with
    | nil => exact h.go rfl rfl (by rw [hpc]; rfl) (by rw [hpc]; rfl)
    | cons e rest =>
      obtain ⟨baseTime, packet⟩ := e
      dsimp only
      split
      · rename_i hnone
        exact h.entry hpc rfl (by simp [hnone, StorePc.begun])
      · rename_i index hindex
        exact h.entry hpc rfl (by simp [hindex, StorePc.begun, Pushing.stored, packetOf])
  | init p | ifEmpty p | ifCount p =>
    dsimp only
    split
    · exact h.go rfl rfl (by rw [hpc]; rfl) (by rw [hpc]; rfl)
    · exact h.go rfl rfl (by rw [hpc]; rfl) (by rw [hpc]; rfl)
  | ifFull p =>
    dsimp only
    split
    · exact h.go rfl rfl (by rw [hpc]; rfl) (by rw [hpc]; rfl)
    · refine h.go rfl rfl (by rw [hpc]; rfl) ?_
      rw [hpc]
      by_cases hi : p.index = i
      · simp [Event.handledAt, StorePc.begun, hi]
      · simp [Event.handledAt, StorePc.begun, hi]
  | baseTime p | pointsNum p | clear p | copy p | signal p =>
    exact h.go rfl rfl (by rw [hpc]; rfl) (by rw [hpc]; rfl)
  | advance p =>
    refine h.go rfl rfl (by rw [hpc]; rfl) ?_
    rw [hpc]
    by_cases hi : p.index = i
    · simp [Event.handledAt, Driver.assign, StorePc.begun, hi]
    · simp [Event.handledAt, Driver.assign, StorePc.begun, hi]

end Handled

/-- The poll thread leaves the frames and the point thread where it is. -/
theorem pollTurn_store (i : Index) (d : Driver F) :
    d.pollTurn.1.frames = d.frames ∧ d.pollTurn.1.store = d.store ∧
      d.pollTurn.1.lds.cacheIndex = d.lds.cacheIndex ∧
      d.pollTurn.2.bind (Event.handledAt i) = none := by
  unfold Driver.pollTurn
  split
  case h_12 => exact ⟨rfl, rfl, rfl, by dsimp only; split <;> rfl⟩
  all_goals repeat' split
  all_goals exact ⟨rfl, rfl, rfl, rfl⟩

namespace Handled

variable {frames : List (PointFrame F)}

theorem turn (h : Handled i d tr frames) (t : Turn) :
    Handled i (d.turn t).1 (tr ++ (d.turn t).2.toList) frames := by
  cases t with
  | point => exact h.pointTurn
  | poll =>
    obtain ⟨hframes, hstore, hcache, hev⟩ := pollTurn_store i d
    exact h.go hframes hcache (congrArg _ hstore) (by rw [Driver.turn, hev, hstore]; rfl)
  | allot handle =>
    obtain ⟨past, hpast, hsub⟩ := h.past
    have hgrow : (d.lds.cacheIndex.packetsFor i past).Sublist
        ((d.lds.cacheIndex.getFreeIndex kLivoxLidarType handle).2.packetsFor i past) :=
      packetsFor_sublist (fun _ _ hi => getIndex_getFreeIndex hi) past
    exact ⟨past, hpast, by simpa [Driver.turn] using hsub.trans hgrow⟩
  | sampling j | requestExit | exitSignal => exact h.go rfl rfl rfl rfl

theorem run (h : Handled i d tr frames) (ts : List Turn) :
    Handled i (d.run ts) (tr ++ d.trace ts) frames := by
  induction ts generalizing d tr with
  | nil => simpa [Driver.trace, Driver.run] using h
  | cons t ts ih => simpa [Driver.trace, Driver.run] using ih (h.turn t)

end Handled

theorem handled_init (lds : Lds F) (transferFormat : UInt8) (frames : List (PointFrame F))
    (i : Index) : Handled i (.init lds transferFormat frames) [] frames where
  past := ⟨[], rfl, List.nil_sublist _⟩

theorem Feed.publishedIn_sublist {q : List (StoragePacket F)} (hf : Feed i d tr q) :
    (publishedIn i tr).Sublist (storedIn i tr) := by
  rw [hf.stored]
  calc (publishedIn i tr).Sublist _ := List.sublist_append_left _ _
    _ = _ := hf.published
    List.Sublist _ _ := List.filter_sublist
    List.Sublist _ _ := List.sublist_append_left _ _

theorem Handled.published {q : List (StoragePacket F)} (h : Handled i d tr frames)
    (hf : Feed i d tr q) :
    (publishedIn i tr).Sublist (d.lds.cacheIndex.packetsFor i frames.flatten) := by
  obtain ⟨past, hpast, hsub⟩ := h.past
  have hpre : past.Sublist frames.flatten := by
    rw [← hpast, List.append_assoc]
    exact List.sublist_append_left _ _
  calc (publishedIn i tr).Sublist _ := hf.publishedIn_sublist
    List.Sublist _ _ := storedIn_sublist i _
    List.Sublist _ _ := List.sublist_append_left _ _
    List.Sublist _ _ := hsub
    List.Sublist _ _ := (hpre.filter _).map packetOf

/-- **What is published of a LiDAR are its packets in the frames**, in order and each at most once. -/
theorem published_sublist (lds : Lds F) (transferFormat : UInt8) (frames : List (PointFrame F))
    (ts : List Turn) (i : Index) :
    let d₀ : Driver F := .init lds transferFormat frames
    (publishedIn i (d₀.trace ts)).Sublist
      ((d₀.run ts).lds.cacheIndex.packetsFor i frames.flatten) := by
  intro d₀
  obtain ⟨q, hf⟩ := (feed_init lds transferFormat frames i).run ts
  have h := (handled_init lds transferFormat frames i).run ts
  rw [List.nil_append] at hf h
  exact h.published hf

/-! ## When a packet is dropped -/

theorem le_roundupPowerOf2 {size : UInt32} (h : size.toNat ≤ 2 ^ 31) :
    size.toNat ≤ (roundupPowerOf2 size).toNat := by
  unfold roundupPowerOf2
  cases hfind : ((List.range 32).map fun i => (1 : UInt32) <<< UInt32.ofNat i).find? (size ≤ ·) with
  | none => exact h
  | some power =>
    have hle := List.find?_some hfind
    exact UInt32.le_iff_toNat_le.1 (of_decide_eq_true hle)

theorem le_initQueue {queueSize : UInt32} (h : queueSize.toNat ≤ 2 ^ 31) :
    queueSize.toNat ≤ (initQueue queueSize : LidarDataQueue F).storagePacket.length := by
  unfold initQueue
  dsimp only
  rw [List.length_replicate]
  split
  · exact le_rfl
  · exact le_roundupPowerOf2 h

/-- A queue is made for ten packets at least, and for a second of frames. -/
theorem calculatePacketQueueSize_spec {publishFreq : ℚ} (h : publishFreq ≤ 100) :
    10 ≤ (calculatePacketQueueSize publishFreq).toNat ∧
      publishFreq ≤ (calculatePacketQueueSize publishFreq).toNat ∧
      (calculatePacketQueueSize publishFreq).toNat ≤ 2 ^ 31 := by
  unfold calculatePacketQueueSize
  split
  · rename_i hten
    have hfloor : ⌊publishFreq⌋₊ ≤ 100 := Nat.floor_le_of_le h
    have hsize : (UInt32.ofNat ⌊publishFreq⌋₊ + 1).toNat = ⌊publishFreq⌋₊ + 1 := by
      rw [UInt32.toNat_add, UInt32.toNat_ofNat_of_lt' (by omega : ⌊publishFreq⌋₊ < 2 ^ 32),
        UInt32.toNat_one, Nat.mod_eq_of_lt (by omega)]
    rw [hsize]
    have hten' : 10 ≤ ⌊publishFreq⌋₊ := Nat.le_floor hten.le
    refine ⟨by omega, ?_, by omega⟩
    push_cast
    exact (Nat.lt_floor_add_one publishFreq).le
  · rename_i hten
    exact ⟨le_rfl, not_lt.1 hten, by decide⟩

/-- Every queue is of the one size, once it is allocated. -/
structure Sized (i : Index) (d : Driver F) (publishFreq : ℚ) : Prop where
  freq : d.lds.publishFreq = publishFreq
  size : (d.queue i).storagePacket = [] ∨ (d.queue i).storagePacket.length =
    (initQueue (calculatePacketQueueSize publishFreq) : LidarDataQueue F).storagePacket.length

namespace Sized

variable {publishFreq : ℚ}

theorem assign (h : Sized i d publishFreq) {p : Pushing F}
    {f : LidarDataQueue F → LidarDataQueue F} {next : Pushing F → StorePc F}
    (hf : ∀ queue, (f queue).storagePacket.length = queue.storagePacket.length) :
    Sized i (d.assign p f next) publishFreq where
  freq := h.freq
  size := by
    have hlen : ((d.assign p f next).queue i).storagePacket.length =
        (d.queue i).storagePacket.length := by
      rw [queue_assign]
      split
      · exact hf _
      · rfl
    rw [← List.length_eq_zero_iff, hlen, List.length_eq_zero_iff]
    exact h.size

theorem pointTurn (h : Sized i d publishFreq) : Sized i d.pointTurn.1 publishFreq := by
  have hwrite : ∀ (f : StoragePacket F → StoragePacket F) (queue : LidarDataQueue F),
      (queue.write f).storagePacket.length = queue.storagePacket.length :=
    fun f queue => List.length_modify f _ _
  unfold Driver.pointTurn
  cases d.store with
  | init p =>
    dsimp only
    split
    · refine ⟨h.freq, ?_⟩
      rw [queue_assign]
      split
      · exact .inr (by rw [h.freq])
      · exact h.size
    · exact ⟨h.freq, h.size⟩
  | baseTime p | pointsNum p | clear p | copy p => exact h.assign fun queue => hwrite _ queue
  | advance p => exact h.assign fun queue => rfl
  | packets rest =>
    cases rest with
    | nil => exact ⟨h.freq, h.size⟩
    | cons entry rest =>
      dsimp only
      split <;> exact ⟨h.freq, h.size⟩
  | _ =>
    dsimp only
    repeat' split
    all_goals exact ⟨h.freq, h.size⟩

theorem pollTurn (h : Sized i d publishFreq) : Sized i d.pollTurn.1 publishFreq := by
  unfold Driver.pollTurn
  cases d.poll with
  | popUpdate j pkg =>
    refine ⟨h.freq, ?_⟩
    unfold Driver.queue
    dsimp only
    rw [setQueue_data]
    split <;> exact h.size
  | _ =>
    dsimp only
    repeat' split
    all_goals exact ⟨h.freq, h.size⟩

theorem turn (h : Sized i d publishFreq) (t : Turn) : Sized i (d.turn t).1 publishFreq := by
  cases t with
  | point => exact h.pointTurn
  | poll => exact h.pollTurn
  | sampling j =>
    refine ⟨h.freq, ?_⟩
    unfold Driver.turn Driver.queue
    dsimp only
    rw [setConnectState_data]
    exact h.size
  | allot handle | requestExit | exitSignal => exact ⟨h.freq, h.size⟩

theorem run (h : Sized i d publishFreq) (ts : List Turn) : Sized i (d.run ts) publishFreq := by
  induction ts generalizing d with
  | nil => exact h
  | cons t ts ih => exact ih (h.turn t)

end Sized

/-- A packet is dropped where the queue was found full. -/
theorem Feed.dropped {q : List (StoragePacket F)} (h : Feed i d tr q) {t : Turn}
    {packet : StoragePacket F} (hev : (d.turn t).2 = some (.dropped i packet)) :
    (d.queue i).Ring q ∧ q.length = (d.queue i).storagePacket.length := by
  cases t with
  | point =>
    unfold Driver.turn Driver.pointTurn at hev
    cases hpc : d.store with
    | ifFull p =>
      have hok : StorePc.Ok i (d.queue i) q (.ifFull p) := hpc ▸ h.store
      rw [hpc] at hev
      dsimp only at hev
      split at hev
      · cases hev
      · rename_i hfull
        injection hev with hev
        injection hev with hi hpacket
        have hring := hok hi
        rw [hi] at hfull
        exact ⟨hring, hring.isFull_iff.1 (by simpa using hfull)⟩
    | packets rest =>
      rw [hpc] at hev
      cases rest with
      | nil => cases hev
      | cons entry rest =>
        dsimp only at hev
        split at hev <;> cases hev
    | _ =>
      rw [hpc] at hev
      dsimp only at hev
      first
        | cases hev
        | split at hev <;> cases hev
  | poll =>
    have hquiet := (pollTurn_store i d).2.2.2
    rw [Driver.turn] at hev
    rw [hev] at hquiet
    simp [Event.handledAt] at hquiet
  | allot handle | sampling j | requestExit | exitSignal => cases hev

/-- **A packet is dropped only while ten packets and a second of frames wait to be published.** -/
theorem dropped_full (lds : Lds F) (transferFormat : UInt8) (frames : List (PointFrame F))
    (ts : List Turn) (t : Turn) (i : Index) (packet : StoragePacket F) (hfreq : lds.publishFreq ≤ 100)
    (hev : (((Driver.init lds transferFormat frames).run ts).turn t).2 = some (.dropped i packet)) :
    let queue := ((Driver.init lds transferFormat frames).run ts).queue i
    queue.contents.length = queue.storagePacket.length ∧ 10 ≤ queue.contents.length ∧
      lds.publishFreq ≤ queue.contents.length := by
  obtain ⟨q, h⟩ := (feed_init lds transferFormat frames i).run ts
  obtain ⟨hring, hfull⟩ := h.dropped hev
  have hsized : Sized i (.init lds transferFormat frames) lds.publishFreq := ⟨rfl, .inl rfl⟩
  have hlen := (hsized.run ts).size.resolve_left hring.allocated
  obtain ⟨hten, hle, hmax⟩ := calculatePacketQueueSize_spec hfreq
  have hinit := le_initQueue (F := F) hmax
  intro queue
  rw [h.contains.contents_eq]
  refine ⟨hfull, by omega, hle.trans ?_⟩
  exact_mod_cast (by omega : (calculatePacketQueueSize lds.publishFreq).toNat ≤ q.length)

/-! One LiDAR, with the handle 1. -/

def oneLds [Zero F] : Lds F where
  lidars := fun _ =>
    { lidarType := kLivoxLidarType
      handle := 1
      connectState := .off
      data := {}
      livoxConfig :=
        { handle := 1, pclDataType := -1, patternMode := -1, blindSpotSet := -1, dualEmitEn := -1
          extrinsicParam := { roll := 0, pitch := 0, yaw := 0, x := 0, y := 0, z := 0 }
          setBits := 0 } }
  publishFreq := 10

def onePacket : PointPacket Nat where
  handle := 1
  lidarType := kLivoxLidarType
  pointsNum := 1
  points := [{ x := 1, y := 2, z := 3, intensity := 4, tag := 0, line := 0, offsetTime := 0 }]

/-- The seventeenth packet of a frame, with the poll thread not yet at its turn. -/
theorem dropped_full_one :
    10 ≤ (((Driver.init oneLds 0 [List.replicate 17 (7, onePacket)]).run
      (.allot 1 :: List.replicate 164 .point)).queue 0).contents.length :=
  (dropped_full oneLds 0 [List.replicate 17 (7, onePacket)] (.allot 1 :: List.replicate 164 .point)
    .point 0 (packetOf (7, onePacket)) (by decide +kernel) (by decide +kernel)).2.1

end Livox
