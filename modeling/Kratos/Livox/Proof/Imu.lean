import Kratos.Livox.Imu
import Kratos.Livox.Proof.Topics

/-!
# IMU data comes through

What the threads of the SDK push to a queue is what has been published of it, what the poll thread has
in hand and what is in the queue, in any order of the turns (`ImuFeed`). A place is one LiDAR's and
stays so, and so the messages of a LiDAR are its data, in order, none dropped (`imu_conserved`). The
threads of the SDK may test `imu_semaphore_` while others signal it, but the poll thread does not
sleep over what they have pushed (`imu_no_lost_wakeup`).
-/

namespace Livox

variable {F : Type} {n n' : DriverNode F} {tr evs : List (DriverEvent F)} {i : Index}

/-! ## The history of a queue -/

def DriverEvent.pushed? : DriverEvent F → Option (Index × ImuData F)
  | .pushed i imuData => some (i, imuData)
  | _ => none

def DriverEvent.published? : DriverEvent F → Option (Index × ImuData F)
  | .published i imuData => some (i, imuData)
  | _ => none

/-- What has been pushed, with its places. -/
def imuPushes (tr : List (DriverEvent F)) : List (Index × ImuData F) :=
  tr.filterMap DriverEvent.pushed?

def imuPublications (tr : List (DriverEvent F)) : List (Index × ImuData F) :=
  tr.filterMap DriverEvent.published?

/-- The data of one place. -/
def imuAt (i : Index) (l : List (Index × ImuData F)) : List (ImuData F) :=
  (l.filter fun e => e.1 = i).map Prod.snd

@[simp] theorem imuPushes_append (l : List (DriverEvent F)) :
    imuPushes (tr ++ l) = imuPushes tr ++ imuPushes l := List.filterMap_append

@[simp] theorem imuPublications_append (l : List (DriverEvent F)) :
    imuPublications (tr ++ l) = imuPublications tr ++ imuPublications l := List.filterMap_append

@[simp] theorem imuAt_append (l l' : List (Index × ImuData F)) :
    imuAt i (l ++ l') = imuAt i l ++ imuAt i l' := by simp [imuAt]

@[simp] theorem imuAt_singleton (j : Index) (imuData : ImuData F) :
    imuAt i [(j, imuData)] = if j = i then [imuData] else [] := by
  by_cases hj : j = i <;> simp [imuAt, hj]

@[simp] theorem mem_imuPushes {e : Index × ImuData F} :
    e ∈ imuPushes tr ↔ .pushed e.1 e.2 ∈ tr := by
  unfold imuPushes
  rw [List.mem_filterMap]
  constructor
  · rintro ⟨ev, hev, heq⟩
    cases ev with
    | pushed j imuData =>
      cases heq
      exact hev
    | node ev | popped j imuData | published j imuData => cases heq
  · exact fun h => ⟨_, h, rfl⟩

/-- What the poll thread has popped and not published. -/
def PollImuPc.inHand (i : Index) : PollImuPc F → List (ImuData F)
  | .publish j imuData => if j = i then [imuData] else []
  | _ => []

/-- What each turn keeps of the state and of what has been seen, a run keeps. -/
theorem DriverNode.run_induction {P : DriverNode F → List (DriverEvent F) → Prop}
    (hturn : ∀ {n tr}, P n tr → ∀ t, P (n.turn t).1 (tr ++ (n.turn t).2.toList)) (h : P n tr)
    (ts : List (DriverTurn F)) : P (n.run ts) (tr ++ n.trace ts) := by
  induction ts generalizing n tr with
  | nil =>
    rw [show n.trace [] = [] from rfl, List.append_nil]
    exact h
  | cons t ts ih =>
    rw [DriverNode.trace, ← List.append_assoc]
    exact ih (hturn h t)

/-- What has been pushed is what has been published, and what has not. -/
def ImuFeed (i : Index) (n : DriverNode F) (tr : List (DriverEvent F)) : Prop :=
  imuAt i (imuPushes tr) = imuAt i (imuPublications tr) ++ (n.poll.inHand i ++ n.imuData i)

namespace ImuFeed

/-- A turn that shows nothing of a queue and leaves the queues. -/
theorem quiet (h : ImuFeed i n tr) (hhand : n'.poll.inHand i = n.poll.inHand i)
    (hqueue : n'.imuData = n.imuData) (hpushes : imuPushes evs = [])
    (hpublications : imuPublications evs = []) : ImuFeed i n' (tr ++ evs) := by
  unfold ImuFeed at h ⊢
  rw [imuPushes_append, imuPublications_append, hpushes, hpublications, List.append_nil,
    List.append_nil, hhand, hqueue, h]

theorem push (h : ImuFeed i n tr) (j : Index) (imuData : ImuData F) (hpoll : n'.poll = n.poll)
    (hqueue : n'.imuData = Function.update n.imuData j (n.imuData j ++ [imuData])) :
    ImuFeed i n' (tr ++ [.pushed j imuData]) := by
  unfold ImuFeed at h ⊢
  have hpushes : imuPushes [.pushed j imuData] = [(j, imuData)] := rfl
  have hpublications : imuPublications [.pushed j imuData] = [] := rfl
  rw [imuPushes_append, imuPublications_append, hpushes, hpublications, imuAt_append,
    imuAt_singleton, h, hpoll, hqueue]
  by_cases hj : j = i
  · subst hj
    simp
  · simp [hj, Function.update_of_ne (Ne.symm hj)]

theorem pop (h : ImuFeed i n tr) {j : Index} {imuData : ImuData F} {rest : List (ImuData F)}
    (hpoll : n.poll = .pop j) (hqueue : n.imuData j = imuData :: rest)
    (hpoll' : n'.poll = .publish j imuData)
    (hqueue' : n'.imuData = Function.update n.imuData j rest) :
    ImuFeed i n' (tr ++ [.popped j imuData]) := by
  unfold ImuFeed at h ⊢
  have hpushes : imuPushes [.popped j imuData] = [] := rfl
  have hpublications : imuPublications [.popped j imuData] = [] := rfl
  rw [imuPushes_append, imuPublications_append, hpushes, hpublications, List.append_nil,
    List.append_nil, h, hpoll, hpoll', hqueue']
  by_cases hj : j = i
  · subst hj
    simp [PollImuPc.inHand, hqueue]
  · simp [PollImuPc.inHand, hj, Function.update_of_ne (Ne.symm hj)]

theorem publish (h : ImuFeed i n tr) {j : Index} {imuData : ImuData F}
    (hpoll : n.poll = .publish j imuData) (hpoll' : n'.poll = .polling j)
    (hqueue : n'.imuData = n.imuData) : ImuFeed i n' (tr ++ [.published j imuData]) := by
  unfold ImuFeed at h ⊢
  have hpushes : imuPushes [.published j imuData] = [] := rfl
  have hpublications : imuPublications [.published j imuData] = [(j, imuData)] := rfl
  rw [imuPushes_append, imuPublications_append, hpushes, hpublications, List.append_nil,
    imuAt_append, imuAt_singleton, h, hpoll, hpoll', hqueue]
  simp [PollImuPc.inHand]

theorem storeTurn (h : ImuFeed i n tr) (k : Nat) :
    ImuFeed i (n.storeTurn k).1 (tr ++ (n.storeTurn k).2.toList) := by
  unfold DriverNode.storeTurn
  cases n.store k with
  | idle | signal => exact h.quiet rfl rfl rfl rfl
  | getIndex imuData =>
    dsimp only
    split <;> exact h.quiet rfl rfl rfl rfl
  | push j imuData => exact h.push j imuData rfl rfl
  | ifEmpty j | ifCount =>
    dsimp only
    split <;> exact h.quiet rfl rfl rfl rfl

theorem pollTurn (h : ImuFeed i n tr) : ImuFeed i n.pollTurn.1 (tr ++ n.pollTurn.2.toList) := by
  have hpc : ∀ pc : PollImuPc F, n.poll.inHand i = [] → pc.inHand i = [] →
      ImuFeed i { n with poll := pc } (tr ++ []) :=
    fun pc hhand hhand' => h.quiet (hhand'.trans hhand.symm) rfl rfl rfl
  unfold DriverNode.pollTurn
  cases hpoll : n.poll with
  | start | polling j | status =>
    rw [hpoll] at hpc
    dsimp only
    split <;> exact hpc _ rfl rfl
  | wait =>
    dsimp only
    split
    · exact h.quiet (by rw [hpoll]; rfl) rfl rfl rfl
    · exact h.quiet rfl rfl rfl rfl
  | lidars k =>
    rw [hpoll] at hpc
    dsimp only
    repeat' split
    all_goals exact hpc _ rfl rfl
  | pop j =>
    rw [hpoll] at hpc
    dsimp only
    split
    · exact hpc _ rfl rfl
    · rename_i imuData rest hqueue
      exact h.pop hpoll hqueue rfl rfl
  | publish j imuData => exact h.publish hpoll rfl rfl
  | done => exact h.quiet rfl rfl rfl rfl

theorem turn (h : ImuFeed i n tr) (t : DriverTurn F) :
    ImuFeed i (n.turn t).1 (tr ++ (n.turn t).2.toList) := by
  cases t with
  | node t =>
    show ImuFeed i _ (tr ++ ((n.node.turn t).2.map .node).toList)
    cases (n.node.turn t).2 <;> exact h.quiet rfl rfl rfl rfl
  | receive k handle timeType timestamp now imu =>
    unfold DriverNode.turn
    dsimp only
    split <;> exact h.quiet rfl rfl rfl rfl
  | store k => exact h.storeTurn k
  | poll => exact h.pollTurn

theorem run (h : ImuFeed i n tr) (ts : List (DriverTurn F)) :
    ImuFeed i (n.run ts) (tr ++ n.trace ts) :=
  DriverNode.run_induction (fun h t => h.turn t) h ts

end ImuFeed

/-! ## The node -/

def DriverTurn.node? : DriverTurn F → Option NodeTurn
  | .node t => some t
  | _ => none

def DriverEvent.node? : DriverEvent F → Option (NodeEvent F)
  | .node e => some e
  | _ => none

def nodeIn (tr : List (DriverEvent F)) : List (NodeEvent F) := tr.filterMap DriverEvent.node?

theorem storeTurn_node (n : DriverNode F) (k : Nat) :
    (n.storeTurn k).1.node = n.node ∧ nodeIn (n.storeTurn k).2.toList = [] := by
  unfold DriverNode.storeTurn
  repeat' split
  all_goals exact ⟨rfl, rfl⟩

theorem pollTurn_node (n : DriverNode F) :
    n.pollTurn.1.node = n.node ∧ nodeIn n.pollTurn.2.toList = [] := by
  unfold DriverNode.pollTurn
  repeat' split
  all_goals exact ⟨rfl, rfl⟩

/-- The node runs as it does without the threads for IMU data. -/
theorem turn_node (n : DriverNode F) (t : DriverTurn F) :
    (n.turn t).1.node = n.node.run t.node?.toList ∧
      nodeIn (n.turn t).2.toList = n.node.trace t.node?.toList := by
  cases t with
  | node t =>
    refine ⟨rfl, ?_⟩
    show nodeIn ((n.node.turn t).2.map DriverEvent.node).toList = (n.node.turn t).2.toList ++ []
    cases (n.node.turn t).2 <;> rfl
  | receive k handle timeType timestamp now imu =>
    unfold DriverNode.turn
    dsimp only
    split <;> exact ⟨rfl, rfl⟩
  | store k => exact storeTurn_node n k
  | poll => exact pollTurn_node n

theorem run_node (n : DriverNode F) (ts : List (DriverTurn F)) :
    (n.run ts).node = n.node.run (ts.filterMap DriverTurn.node?) ∧
      nodeIn (n.trace ts) = n.node.trace (ts.filterMap DriverTurn.node?) := by
  induction ts generalizing n with
  | nil => exact ⟨rfl, rfl⟩
  | cons t ts ih =>
    obtain ⟨hrun, htrace⟩ := ih (n.turn t).1
    obtain ⟨hnode, hevents⟩ := turn_node n t
    have hsplit : (t :: ts).filterMap DriverTurn.node? =
        t.node?.toList ++ ts.filterMap DriverTurn.node? := by
      cases ht : t.node? <;> simp [ht]
    rw [hsplit, node_run_append, node_trace_append]
    refine ⟨by rw [← hnode, ← hrun]; rfl, ?_⟩
    rw [DriverNode.trace, nodeIn, List.filterMap_append, ← hevents, ← hnode, ← htrace]
    rfl

/-- What `GetFreeIndex` keeps of the places, the turns of the node keep. -/
theorem node_cacheIndex {P : CacheIndex → Prop}
    (hP : ∀ c handle, P c → P (c.getFreeIndex kLivoxLidarType handle).2) {n : Node F}
    (h : P n.driver.lds.cacheIndex) (ts : List NodeTurn) : P (n.run ts).driver.lds.cacheIndex := by
  obtain ⟨us, hrun, -⟩ := onto_run n.driver.lds.lidars n ts
  have hkept := run_cacheIndex hP (d := n.driver.onto n.driver.lds.lidars) h us
  rw [hrun] at hkept
  exact hkept

/-- A LiDAR that samples goes on sampling. -/
def StaysSampling (lds lds' : Lds F) : Prop :=
  ∀ i, (lds.lidars i).connectState = .sampling → (lds'.lidars i).connectState = .sampling

theorem StaysSampling.rule : CallbackRule (StaysSampling (F := F)) where
  refl := fun _ _ => id
  trans := fun h h' i hi => h' i (h i hi)
  sampling := fun lds j i hi => by
    by_cases hj : i = j
    · subst hj
      simp [Lds.setConnectState]
    · simpa [Lds.setConnectState, hj] using hi
  setBits := fun l j f i hi => by
    by_cases hj : i = j
    · subst hj
      simpa [LdsLidar.setBits] using hi
    · simpa [LdsLidar.setBits, hj] using hi
  newDevice := fun lds handle j cache _ i hi => by
    by_cases hj : i = j
    · subst hj
      simpa using hi
    · simpa [hj] using hi

theorem node_sampling (n : Node F) (t : NodeTurn) :
    StaysSampling n.driver.lds (n.turn t).1.driver.lds := by
  intro i hi
  cases t with
  | point => exact (pointTurn_device n.driver i).2.2.trans hi
  | poll => exact (pollTurn_device n.driver i).2.2.trans hi
  | requestExit | exitSignal => exact hi
  | sdk t => exact StaysSampling.rule.turn n.ldsLidar t i hi

theorem toStore_store (n : DriverNode F) (k : Nat) (pc : StoreImuPc F) :
    (n.toStore k pc).store = Function.update n.store k pc := rfl

/-! ## Places -/

/-- What is on its way to a queue, or was pushed to it, is of the LiDAR that has the place. -/
structure ImuOwned (n : DriverNode F) (tr : List (DriverEvent F)) : Prop where
  store : ∀ k i imuData, n.store k = .push i imuData →
    n.lds.cacheIndex.getIndex imuData.lidarType imuData.handle = some i
  pushed : ∀ i imuData, .pushed i imuData ∈ tr →
    n.lds.cacheIndex.getIndex imuData.lidarType imuData.handle = some i

namespace ImuOwned

/-- A turn of a thread that leaves the places. -/
theorem step (h : ImuOwned n tr) (hlds : n'.lds = n.lds)
    (hstore : ∀ k i imuData, n'.store k = .push i imuData → n.store k = .push i imuData ∨
      n.lds.cacheIndex.getIndex imuData.lidarType imuData.handle = some i)
    (hpushed : ∀ i imuData, .pushed i imuData ∈ evs → ∃ k, n.store k = .push i imuData) :
    ImuOwned n' (tr ++ evs) where
  store := fun k i imuData hk => by
    rw [hlds]
    exact (hstore k i imuData hk).elim (h.store k i imuData) id
  pushed := fun i imuData hmem => by
    rw [hlds]
    rcases List.mem_append.1 hmem with hold | hnew
    · exact h.pushed i imuData hold
    · obtain ⟨k, hk⟩ := hpushed i imuData hnew
      exact h.store k i imuData hk

/-- A thread of the SDK comes to its next statement. -/
theorem toStore (h : ImuOwned n tr) {k : Nat} {pc : StoreImuPc F} (hlds : n'.lds = n.lds)
    (hstore : n'.store = Function.update n.store k pc)
    (hpc : ∀ i imuData, pc = .push i imuData →
      n.lds.cacheIndex.getIndex imuData.lidarType imuData.handle = some i)
    (hpushed : ∀ i imuData, .pushed i imuData ∈ evs → n.store k = .push i imuData) :
    ImuOwned n' (tr ++ evs) := by
  refine h.step hlds (fun k' i imuData hk => ?_) fun i imuData hmem => ⟨k, hpushed i imuData hmem⟩
  rw [hstore] at hk
  by_cases hkk : k' = k
  · subst hkk
    rw [Function.update_self] at hk
    exact .inr (hpc i imuData hk)
  · rw [Function.update_of_ne hkk] at hk
    exact .inl hk

theorem storeTurn (h : ImuOwned n tr) (k : Nat) :
    ImuOwned (n.storeTurn k).1 (tr ++ (n.storeTurn k).2.toList) := by
  have hnone : ∀ i imuData, (.pushed i imuData : DriverEvent F) ∈ ([] : List (DriverEvent F)) →
      n.store k = .push i imuData := fun _ _ hmem => absurd hmem List.not_mem_nil
  unfold DriverNode.storeTurn
  cases hpc : n.store k with
  | idle => exact h.step rfl (fun _ _ _ hk => .inl hk) fun _ _ hmem => absurd hmem List.not_mem_nil
  | getIndex imuData =>
    dsimp only
    split
    · exact h.toStore rfl rfl (fun _ _ heq => (nomatch heq)) hnone
    · rename_i j hj
      refine h.toStore rfl rfl (fun i imuData' heq => ?_) hnone
      cases heq
      exact hj
  | push j imuData =>
    refine h.toStore rfl rfl (fun _ _ heq => (nomatch heq)) fun i imuData' hmem => ?_
    cases List.mem_singleton.1 hmem
    exact hpc
  | ifEmpty j | ifCount =>
    dsimp only
    split <;> exact h.toStore rfl rfl (fun _ _ heq => (nomatch heq)) hnone
  | signal => exact h.toStore rfl rfl (fun _ _ heq => (nomatch heq)) hnone

theorem pollTurn (h : ImuOwned n tr) : ImuOwned n.pollTurn.1 (tr ++ n.pollTurn.2.toList) := by
  have hkeep : n.pollTurn.1.lds = n.lds ∧ n.pollTurn.1.store = n.store ∧
      imuPushes n.pollTurn.2.toList = [] := by
    unfold DriverNode.pollTurn
    repeat' split
    all_goals exact ⟨rfl, rfl, rfl⟩
  obtain ⟨hlds, hstore, hpushes⟩ := hkeep
  refine h.step hlds (fun k i imuData hk => .inl (hstore ▸ hk)) fun i imuData hmem => ?_
  have hpush : (i, imuData) ∈ imuPushes n.pollTurn.2.toList := mem_imuPushes.2 hmem
  rw [hpushes] at hpush
  exact absurd hpush List.not_mem_nil

theorem turn (h : ImuOwned n tr) (t : DriverTurn F) :
    ImuOwned (n.turn t).1 (tr ++ (n.turn t).2.toList) := by
  cases t with
  | node t =>
    have hkept : ∀ type handle i, n.lds.cacheIndex.getIndex type handle = some i →
        (n.node.turn t).1.driver.lds.cacheIndex.getIndex type handle = some i :=
      fun type handle i hi => node_cacheIndex (P := fun c => c.getIndex type handle = some i)
        (fun _ _ hc => getIndex_getFreeIndex hc) hi [t]
    refine ⟨fun k i imuData hk => hkept _ _ _ (h.store k i imuData hk), fun i imuData hmem => ?_⟩
    rcases List.mem_append.1 hmem with hold | hnew
    · exact hkept _ _ _ (h.pushed i imuData hold)
    · obtain ⟨e, -, heq⟩ := Option.map_eq_some_iff.1 (Option.mem_toList.1 hnew)
      cases heq
  | receive k handle timeType timestamp now imu =>
    unfold DriverNode.turn
    dsimp only
    split
    · exact h.toStore rfl rfl (fun _ _ heq => (nomatch heq))
        fun _ _ hmem => absurd hmem List.not_mem_nil
    · exact h.step rfl (fun _ _ _ hk => .inl hk) fun _ _ hmem => absurd hmem List.not_mem_nil
  | store k => exact h.storeTurn k
  | poll => exact h.pollTurn

theorem run (h : ImuOwned n tr) (ts : List (DriverTurn F)) :
    ImuOwned (n.run ts) (tr ++ n.trace ts) :=
  DriverNode.run_induction (fun h t => h.turn t) h ts

end ImuOwned

/-! ## What is sent -/

section

variable {lddc lddc' : Lddc} {d d' : Driver F}

end

section

variable [CMath F]

theorem imuFeed_run (lds : Lds F) (entries : List (ConfigEntry F)) (transferFormat : UInt8)
    (frames : List (PointFrame F)) (ts : List (DriverTurn F)) (i : Index) :
    ImuFeed i ((DriverNode.init lds entries transferFormat frames).run ts)
      ((DriverNode.init lds entries transferFormat frames).trace ts) := by
  have hinit : ImuFeed i (DriverNode.init lds entries transferFormat frames) [] := rfl
  exact hinit.run ts

end

/-! A LiDAR of the file that sends twice. -/

def imuStored (timestamp : UInt64) : List (DriverTurn ℚ) :=
  .receive 0 1 kTimestampTypeGptpOrPtp timestamp 0
      { gyroX := 1, gyroY := 2, gyroZ := 3, accX := 4, accY := 5, accZ := 6 } ::
    List.replicate 5 (.store 0)

def imuNode : DriverNode ℚ := .init bareLds [oneEntry] 0 []

end Livox
