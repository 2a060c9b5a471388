import Kratos.Livox.Proof.Imu

/-!
# No wake-up of the IMU poll thread is lost

Any number of threads of the SDK push IMU data, and each of them signals `imu_semaphore_` only if it
finds the count at 0. `ImuWake i n`: while there is IMU data of a sampling LiDAR, there is a count, or
some thread of the SDK is about to see to one, or the sweep has not passed the LiDAR. So the poll
thread does not sleep over IMU data (`imu_no_lost_wakeup`), and a LiDAR of the file is not read before
it has acknowledged its settings (`imu_acknowledged`).
-/

namespace Livox

variable {F : Type} {n n' : DriverNode F} {tr : List (DriverEvent F)} {i : Index}

/-- A thread of the SDK is on its way to `imu_semaphore_`, with data of the LiDAR in its queue. -/
def StoreImuPc.Signals (i : Index) : StoreImuPc F → Prop
  | .ifEmpty j => j = i
  | .ifCount | .signal => True
  | _ => False

instance (i : Index) (pc : StoreImuPc F) : Decidable (pc.Signals i) :=
  match pc with
  | .ifEmpty j => inferInstanceAs (Decidable (j = i))
  | .ifCount | .signal => inferInstanceAs (Decidable True)
  | .idle | .getIndex _ | .push _ _ => inferInstanceAs (Decidable False)

/-- The poll thread is in a sweep that has not passed the LiDAR. -/
def PollImuPc.Before (i : Index) : PollImuPc F → Prop
  | .lidars k => k ≤ i
  | .polling j | .pop j | .publish j _ => j ≤ i
  | _ => False

structure ImuWake (i : Index) (n : DriverNode F) : Prop where
  sampling : (n.lds.lidars i).connectState = .sampling
  awake : n.lds.requestExit = false → n.imuData i ≠ [] →
    0 < n.imuSemaphore ∨ (∃ k, (n.store k).Signals i) ∨ n.poll.Before i

/-- No turn takes back `RequestExit`. -/
theorem node_requestExit (n : Node F) (t : NodeTurn)
    (h : (n.turn t).1.driver.lds.requestExit = false) : n.driver.lds.requestExit = false := by
  have hrule : CallbackRule fun lds lds' : Lds F => lds'.requestExit = lds.requestExit :=
    ⟨fun _ => rfl, fun h h' => h'.trans h, fun _ _ => rfl, fun _ _ _ => rfl, fun _ _ _ _ _ => rfl⟩
  cases t with
  | point =>
    have hkeep : n.driver.pointTurn.1.lds.requestExit = n.driver.lds.requestExit := by
      unfold Driver.pointTurn
      repeat' split
      all_goals rfl
    exact hkeep.symm.trans h
  | poll => exact (pollTurn_keeps n.driver).1.symm.trans h
  | requestExit => cases h
  | exitSignal => exact h
  | sdk t => exact (hrule.turn n.ldsLidar t).symm.trans h

namespace ImuWake

/-! ## The threads of the SDK -/

/-- A thread of the SDK comes to its next statement, and leaves the queues and the count. -/
theorem toStore (h : ImuWake i n) {k : Nat} {pc : StoreImuPc F}
    (hpc : (n.store k).Signals i → n.imuData i ≠ [] → 0 < n.imuSemaphore ∨ pc.Signals i) :
    ImuWake i (n.toStore k pc) where
  sampling := h.sampling
  awake := fun hexit hne => by
    rcases h.awake hexit hne with hcount | ⟨k', hstore⟩ | hpoll
    · exact .inl hcount
    · by_cases hk : k' = k
      · subst hk
        refine (hpc hstore hne).imp_right fun hs => .inl ⟨k', ?_⟩
        rwa [toStore_store, Function.update_self]
      · refine .inr (.inl ⟨k', ?_⟩)
        rwa [toStore_store, Function.update_of_ne hk]
    · exact .inr (.inr hpoll)

/-- After its push a thread is about to signal, and for another LiDAR nothing changes. -/
theorem push (h : ImuWake i n) {k : Nat} {j : Index} {imuData : ImuData F}
    (hpc : n.store k = .push j imuData) :
    ImuWake i ((n.setImuData j (n.imuData j ++ [imuData])).toStore k (.ifEmpty j)) where
  sampling := h.sampling
  awake := fun hexit hne => by
    by_cases hj : j = i
    · refine .inr (.inl ⟨k, ?_⟩)
      rw [toStore_store, Function.update_self]
      exact hj
    · have hleft : ImuWake i (n.toStore k (.ifEmpty j)) := h.toStore fun hs => by
        rw [hpc] at hs
        exact hs.elim
      refine hleft.awake hexit fun hnil => hne ?_
      unfold DriverNode.setImuData DriverNode.toStore
      dsimp only
      rwa [Function.update_of_ne (Ne.symm hj)]

theorem storeTurn (h : ImuWake i n) (k : Nat) : ImuWake i (n.storeTurn k).1 := by
  have hno : ∀ pc, n.store k = pc → ¬pc.Signals i → ∀ pc' : StoreImuPc F,
      ImuWake i (n.toStore k pc') := fun pc hpc hn pc' =>
    h.toStore fun hs => absurd (hpc ▸ hs) hn
  unfold DriverNode.storeTurn
  cases hpc : n.store k with
  | idle => exact h
  | getIndex imuData =>
    dsimp only
    split <;> exact hno _ hpc id _
  | push j imuData => exact h.push hpc
  | ifEmpty j =>
    dsimp only
    split
    · rename_i hempty
      refine h.toStore fun hs hne => ?_
      rw [hpc] at hs
      rw [show j = i from hs] at hempty
      exact absurd (List.isEmpty_iff.1 hempty) hne
    · exact h.toStore fun _ _ => .inr trivial
  | ifCount =>
    dsimp only
    split
    · exact h.toStore fun _ _ => .inr trivial
    · rename_i hcount
      exact h.toStore fun _ _ => .inl (Nat.lt_of_not_le hcount)
  | signal => exact ⟨h.sampling, fun _ _ => .inl (Nat.succ_pos _)⟩

/-! ## The poll thread -/

theorem toPoll (h : ImuWake i n) {pc : PollImuPc F}
    (hpc : n.poll.Before i → n.lds.requestExit = false → n.imuData i ≠ [] → pc.Before i) :
    ImuWake i { n with poll := pc } where
  sampling := h.sampling
  awake := fun hexit hne => by
    rcases h.awake hexit hne with hcount | hstore | hpoll
    · exact .inl hcount
    · exact .inr (.inl hstore)
    · exact .inr (.inr (hpc hpoll hexit hne))

theorem pop (h : ImuWake i n) {j : Index} {imuData : ImuData F} {rest : List (ImuData F)}
    (hpc : n.poll = .pop j) :
    ImuWake i { n.setImuData j rest with poll := .publish j imuData } where
  sampling := h.sampling
  awake := fun hexit hne => by
    by_cases hj : j = i
    · exact .inr (.inr (congrArg Fin.val hj).le)
    · have hne' : n.imuData i ≠ [] := by
        unfold DriverNode.setImuData at hne
        dsimp only at hne
        rwa [Function.update_of_ne (Ne.symm hj)] at hne
      rcases h.awake hexit hne' with hcount | hstore | hpoll
      · exact .inl hcount
      · exact .inr (.inl hstore)
      · rw [hpc] at hpoll
        exact .inr (.inr hpoll)

theorem pollTurn (h : ImuWake i n) : ImuWake i n.pollTurn.1 := by
  unfold DriverNode.pollTurn
  cases hpc : n.poll with
  | start | status =>
    dsimp only
    split <;> exact h.toPoll fun hb => by rw [hpc] at hb; exact hb.elim
  | wait =>
    dsimp only
    split
    · exact ⟨h.sampling, fun _ _ => .inr (.inr (Nat.zero_le _))⟩
    · exact h
  | lidars k =>
    dsimp only
    split
    · rename_i hk
      split
      · rename_i hconnect
        refine h.toPoll fun hb _ _ => ?_
        rw [hpc] at hb
        have hne : k ≠ i := fun he => hconnect ((Fin.ext he : (⟨k, hk⟩ : Index) = i) ▸ h.sampling)
        exact Nat.succ_le_of_lt (lt_of_le_of_ne hb hne)
      · exact h.toPoll fun hb _ _ => by rw [hpc] at hb; exact hb
    · rename_i hk
      refine h.toPoll fun hb _ _ => absurd (lt_of_le_of_lt ?_ i.isLt) hk
      rw [hpc] at hb
      exact hb
  | polling j =>
    dsimp only
    split
    · exact h.toPoll fun hb _ _ => by rw [hpc] at hb; exact hb
    · rename_i hstop
      refine h.toPoll fun hb hexit hne => ?_
      rw [hpc] at hb
      have hne' : (j : Nat) ≠ i := fun he => by
        rw [hexit, Fin.ext he] at hstop
        simp [hne] at hstop
      exact Nat.succ_le_of_lt (lt_of_le_of_ne hb hne')
  | pop j =>
    dsimp only
    split
    · exact h.toPoll fun hb _ _ => by rw [hpc] at hb; exact hb
    · exact h.pop hpc
  | publish j imuData => exact h.toPoll fun hb _ _ => by rw [hpc] at hb; exact hb
  | done => exact h

theorem turn (h : ImuWake i n) (t : DriverTurn F) : ImuWake i (n.turn t).1 := by
  cases t with
  | node t =>
    exact ⟨node_sampling n.node t i h.sampling,
      fun hexit => h.awake (node_requestExit n.node t hexit)⟩
  | receive k handle timeType timestamp now imu =>
    unfold DriverNode.turn
    dsimp only
    split
    · rename_i hidle
      exact h.toStore fun hs => by rw [hidle] at hs; exact hs.elim
    · exact h
  | store k => exact h.storeTurn k
  | poll => exact h.pollTurn

theorem run (h : ImuWake i n) (ts : List (DriverTurn F)) : ImuWake i (n.run ts) :=
  List.foldlRecOn (motive := ImuWake i) ts _ h fun _ h t _ => h.turn t

/-- A push for a sampling LiDAR sees to it, whatever was in its queue. -/
theorem of_pushed {t : DriverTurn F} {imuData : ImuData F}
    (hsampling : (n.lds.lidars i).connectState = .sampling)
    (hev : (n.turn t).2 = some (.pushed i imuData)) : ImuWake i (n.turn t).1 := by
  cases t with
  | store k =>
    change (n.storeTurn k).2 = _ at hev
    change ImuWake i (n.storeTurn k).1
    unfold DriverNode.storeTurn at hev ⊢
    cases hpc : n.store k with
    | push j imuData' =>
      rw [hpc] at hev
      injection hev with hev
      injection hev with hj
      refine ⟨hsampling, fun _ _ => .inr (.inl ⟨k, ?_⟩)⟩
      rw [toStore_store, Function.update_self]
      exact hj
    | _ =>
      rw [hpc] at hev
      dsimp only at hev
      first
        | cases hev
        | split at hev <;> cases hev
  | poll =>
    unfold DriverNode.turn DriverNode.pollTurn at hev
    dsimp only at hev
    repeat' split at hev
    all_goals cases hev
  | node t =>
    obtain ⟨e, -, heq⟩ := Option.map_eq_some_iff.1 hev
    cases heq
  | receive k handle timeType timestamp now imu =>
    unfold DriverNode.turn at hev
    dsimp only at hev
    split at hev <;> cases hev

end ImuWake

/-- The thread of the SDK whose turn it is. -/
def DriverTurn.thread? : DriverTurn F → Option Nat
  | .receive k .. | .store k => some k
  | .node _ | .poll => none

/-- A thread stays where it is while others have their turns. -/
theorem turn_store {t : DriverTurn F} {k : Nat} (ht : t.thread? ≠ some k) :
    (n.turn t).1.store k = n.store k := by
  cases t with
  | node t => rfl
  | poll =>
    change n.pollTurn.1.store k = _
    unfold DriverNode.pollTurn
    repeat' split
    all_goals rfl
  | receive j handle timeType timestamp now imu =>
    have hne : k ≠ j := fun he => ht (congrArg some he.symm)
    unfold DriverNode.turn
    dsimp only
    split
    · rw [toStore_store, Function.update_of_ne hne]
    · rfl
  | store j =>
    have hne : k ≠ j := fun he => ht (congrArg some he.symm)
    change (n.storeTurn j).1.store k = _
    unfold DriverNode.storeTurn
    repeat' split
    all_goals first
      | rfl
      | exact Function.update_of_ne hne _ _

theorem run_store {ts : List (DriverTurn F)} {k : Nat} (hts : ∀ t ∈ ts, t.thread? ≠ some k) :
    (n.run ts).store k = n.store k :=
  List.foldlRecOn (motive := fun n' : DriverNode F => n'.store k = n.store k) ts _ rfl
    fun _ hstore t ht => (turn_store (hts t ht)).trans hstore

theorem driver_run_append (n : DriverNode F) (ts ts' : List (DriverTurn F)) :
    n.run (ts ++ ts') = (n.run ts).run ts' := List.foldl_append

/-- Nothing is left to publish of a LiDAR while the poll thread waits for a signal that is not to
come. -/
theorem ImuFeed.published_of_wait (h : ImuFeed i n tr) (hwake : ImuWake i n)
    (hexit : n.lds.requestExit = false) (hwait : n.poll = .wait) (hcount : n.imuSemaphore = 0)
    (hstore : ∀ k, ¬(n.store k).Signals i) :
    imuAt i (imuPushes tr) = imuAt i (imuPublications tr) := by
  have hnil : n.imuData i = [] := by
    by_contra hne
    rcases hwake.awake hexit hne with hc | ⟨k, hs⟩ | hb
    · omega
    · exact hstore k hs
    · rw [hwait] at hb
      exact hb
  unfold ImuFeed at h
  rw [hwait, hnil] at h
  exact h.trans (List.append_nil _)

section

variable [CMath F]

/-- **The IMU poll thread never sleeps over IMU data**: once data of a sampling LiDAR has been pushed,
whenever the poll thread waits at a count of 0 and no thread of the SDK is about to signal, all that
has been pushed of the LiDAR has been published. -/
theorem imu_no_lost_wakeup (lds : Lds F) (entries : List (ConfigEntry F)) (transferFormat : UInt8)
    (frames : List (PointFrame F)) (ts ts' : List (DriverTurn F)) (t : DriverTurn F) (i : Index)
    (imuData : ImuData F)
    (hsampling : (((DriverNode.init lds entries transferFormat frames).run ts).lds.lidars
      i).connectState = .sampling)
    (hev : (((DriverNode.init lds entries transferFormat frames).run ts).turn t).2 =
      some (.pushed i imuData)) :
    let n₀ := DriverNode.init lds entries transferFormat frames
    let n := n₀.run (ts ++ t :: ts')
    n.lds.requestExit = false → n.poll = .wait → n.imuSemaphore = 0 →
      (∀ k, ¬(n.store k).Signals i) →
        imuAt i (imuPushes (n₀.trace (ts ++ t :: ts'))) =
          imuAt i (imuPublications (n₀.trace (ts ++ t :: ts'))) := by
  intro n₀ n hexit hwait hcount hstore
  have hwake : ImuWake i n := by
    have hrun := (ImuWake.of_pushed hsampling hev).run ts'
    rwa [show n = _ from driver_run_append n₀ ts (t :: ts')]
  exact (imuFeed_run lds entries transferFormat frames _ i).published_of_wait hwake hexit hwait hcount
    hstore

end

/-- The turns up to the statement that adds the data to the queue. -/
def imuPushing : List (DriverTurn ℚ) :=
  oneSetup.map (fun t => .node (.sdk t)) ++ (imuStored 7).take 2

/-- The rest of `StorageImuData`, and the sweep that publishes the data. -/
def imuSweep : List (DriverTurn ℚ) := List.replicate 3 (.store 0) ++ List.replicate 41 .poll

theorem imu_no_lost_wakeup_one :
    imuAt 0 (imuPushes (imuNode.trace (imuPushing ++ .store 0 :: imuSweep))) =
      imuAt 0 (imuPublications (imuNode.trace (imuPushing ++ .store 0 :: imuSweep))) := by
  have hstore : ∀ k, ¬(((DriverNode.init bareLds [oneEntry] 0 []).run
      (imuPushing ++ .store 0 :: imuSweep)).store k).Signals 0 := by
    intro k
    by_cases hk : k = 0
    · subst hk
      decide +kernel
    · rw [run_store]
      · exact id
      · intro t ht hthread
        have hzero : ∀ t ∈ imuPushing ++ .store 0 :: imuSweep,
            t.thread? = none ∨ t.thread? = some 0 := by decide +kernel
        rcases hzero t ht with hnone | hsome
        · rw [hnone] at hthread
          cases hthread
        · exact hk (Option.some_inj.1 (hthread.symm.trans hsome))
  exact imu_no_lost_wakeup bareLds [oneEntry] 0 [] imuPushing imuSweep (.store 0) 0
    (imuDataOf 1 kTimestampTypeGptpOrPtp 7 0
      { gyroX := 1, gyroY := 2, gyroZ := 3, accX := 4, accY := 5, accZ := 6 })
    (by decide +kernel) (by decide +kernel) (by decide +kernel) (by decide +kernel)
    (by decide +kernel) hstore

/-! ## Whose queue is read -/

/-- The place whose queue the poll thread reads. -/
def PollImuPc.place? : PollImuPc F → Option Index
  | .polling i | .pop i | .publish i _ => some i
  | .start | .wait | .lidars _ | .status | .done => none

/-- It is that of a sampling LiDAR. -/
def ImuReading (n : DriverNode F) : Prop :=
  ∀ i, n.poll.place? = some i → (n.lds.lidars i).connectState = .sampling

namespace ImuReading

theorem pollTurn (h : ImuReading n) : ImuReading n.pollTurn.1 := by
  intro j hj
  have hlds : n.pollTurn.1.lds = n.lds := congrArg (fun n : Node F => n.driver.lds) (pollTurn_node n).1
  rw [hlds]
  have hread := h j
  unfold DriverNode.pollTurn at hj
  cases hpoll : n.poll with
  | lidars k =>
    rw [hpoll] at hj
    dsimp only at hj
    split at hj
    · split at hj
      · cases hj
      · rename_i hsampling
        cases hj
        exact Classical.not_not.1 hsampling
    · cases hj
  | start | wait | status =>
    rw [hpoll] at hj
    dsimp only at hj
    split at hj <;> simp_all [PollImuPc.place?]
  | done => simp_all [PollImuPc.place?]
  | polling k | pop k =>
    rw [hpoll] at hj hread
    dsimp only at hj
    split at hj <;> simp_all [PollImuPc.place?]
  | publish k imuData =>
    rw [hpoll] at hj hread
    exact hread hj

theorem turn (h : ImuReading n) (t : DriverTurn F) : ImuReading (n.turn t).1 := by
  cases t with
  | node t => exact fun j hj => node_sampling n.node t j (h j hj)
  | receive k handle timeType timestamp now imu =>
    unfold DriverNode.turn
    dsimp only
    split <;> exact h
  | store k =>
    have hkeep : (n.storeTurn k).1.poll = n.poll ∧ (n.storeTurn k).1.lds = n.lds := by
      unfold DriverNode.storeTurn
      repeat' split
      all_goals exact ⟨rfl, rfl⟩
    intro j hj
    show ((n.storeTurn k).1.lds.lidars j).connectState = .sampling
    rw [hkeep.2]
    exact h j (hkeep.1 ▸ hj)
  | poll => exact h.pollTurn

theorem run (h : ImuReading n) (ts : List (DriverTurn F)) : ImuReading (n.run ts) :=
  List.foldlRecOn (motive := ImuReading) ts _ h fun _ h t _ => h.turn t

end ImuReading

/-- What a turn shows of a queue is read from it there. -/
theorem imu_place?_of_read {t : DriverTurn F} {imuData : ImuData F}
    (hev : (n.turn t).2 = some (.popped i imuData) ∨ (n.turn t).2 = some (.published i imuData)) :
    n.poll.place? = some i := by
  cases t with
  | poll =>
    change n.pollTurn.2 = _ ∨ n.pollTurn.2 = _ at hev
    unfold DriverNode.pollTurn at hev
    cases hpoll : n.poll with
    | pop j =>
      rw [hpoll] at hev
      dsimp only at hev
      split at hev
      · simp at hev
      · simp only [Option.some.injEq, DriverEvent.popped.injEq, reduceCtorEq, or_false] at hev
        rw [PollImuPc.place?, hev.1]
    | publish j imuData' =>
      rw [hpoll] at hev
      simp only [Option.some.injEq, DriverEvent.published.injEq, reduceCtorEq, false_or] at hev
      rw [PollImuPc.place?, hev.1]
    | _ =>
      rw [hpoll] at hev
      dsimp only at hev
      repeat' split at hev
      all_goals simp at hev
  | store k =>
    change (n.storeTurn k).2 = _ ∨ (n.storeTurn k).2 = _ at hev
    unfold DriverNode.storeTurn at hev
    repeat' split at hev
    all_goals simp at hev
  | node t => simp [DriverNode.turn] at hev
  | receive k handle timeType timestamp now imu =>
    unfold DriverNode.turn at hev
    dsimp only at hev
    split at hev <;> simp at hev

variable [CMath F]

/-- **No IMU data of a LiDAR of the file is read before it has acknowledged its settings**: when data is
popped from its queue or published, each setting that was parsed of its entry has been acknowledged
with the value parsed, whatever the order of the turns. -/
theorem imu_acknowledged (lds : Lds F) (entries : List (ConfigEntry F)) (transferFormat : UInt8)
    (frames : List (PointFrame F)) (ts : List (DriverTurn F)) (t : DriverTurn F) (handle : UInt32)
    (i : Index) (c : UserLivoxLidarConfig F) (imuData : ImuData F) (s : Setting)
    (hplace : (LdsLidar.init lds entries).getLidarDevice handle = some i)
    (hentry : entryOf (parseUserConfigs entries) handle = some c)
    (hev : (((DriverNode.init lds entries transferFormat frames).run ts).turn t).2 =
        some (.popped i imuData) ∨
      (((DriverNode.init lds entries transferFormat frames).run ts).turn t).2 =
        some (.published i imuData))
    (hs : c.has s = true) :
    .node (.sdk (.answered handle (c.request s) .success)) ∈
      (DriverNode.init lds entries transferFormat frames).trace ts := by
  have hreading : ImuReading (DriverNode.init lds entries transferFormat frames) :=
    fun j hj => (nomatch hj)
  have hsampling := hreading.run ts i (imu_place?_of_read hev)
  obtain ⟨hrun, htrace⟩ := run_node (DriverNode.init lds entries transferFormat frames) ts
  have hinv := node_inv lds entries transferFormat frames (ts.filterMap DriverTurn.node?) hplace hentry
  have hstate : (((Node.init lds entries transferFormat frames).run
      (ts.filterMap DriverTurn.node?)).ldsLidar.lds.lidars i).connectState = .sampling := by
    rw [DriverNode.lds, hrun] at hsampling
    exact hsampling
  have hacked := hinv.ready (decide_eq_true hstate) s (by simp [wantsOf, hs])
  have hmem : (.sdk (.answered handle (c.request s) .success) : NodeEvent F) ∈
      nodeIn ((DriverNode.init lds entries transferFormat frames).trace ts) := by
    rw [htrace]
    show _ ∈ (Node.init lds entries transferFormat frames).trace _
    simpa [view, answersOf] using hacked
  obtain ⟨e, he, heq⟩ := List.mem_filterMap.1 hmem
  cases e with
  | node e =>
    cases heq
    exact he
  | pushed j imuData | popped j imuData | published j imuData => cases heq

/-- The data is popped at the fifth turn of the poll thread. -/
theorem imu_acknowledged_one : .node (.sdk (.answered 1 (.blindSpot 50) .success)) ∈
    imuNode.trace (imuPushing ++ List.replicate 4 (.store 0) ++ List.replicate 4 .poll) :=
  imu_acknowledged bareLds [oneEntry] 0 [] _ .poll 1 0 ((parseUserConfig oneEntry).get (by decide))
    (imuDataOf 1 kTimestampTypeGptpOrPtp 7 0
      { gyroX := 1, gyroY := 2, gyroZ := 3, accX := 4, accY := 5, accZ := 6 })
    .blindSpot (by decide +kernel) (by decide +kernel) (.inl (by decide +kernel)) (by decide +kernel)

end Livox
