import Kratos.Livox.Node
import Kratos.Livox.Proof.Delivery
import Kratos.Livox.Proof.Setup

/-!
# The node from the configuration to the topic

The threads read nothing of a device but its queue and its `connect_state`, so that with the rest of
it forgotten (`Driver.onto`) the node runs as its threads do, a callback being some turns of the SDK
(`onto_run`); and the threads leave what the callbacks read (`Device.drive`). What is proved of the
threads alone and of the callbacks alone then holds of the node: a LiDAR of the file is not read
before it has acknowledged its settings (`read_acknowledged`), and what is stored of one that has
no answer to come and none that failed is published (`settled_delivery`).
-/

namespace Livox

variable {F : Type} {ref : Index → LidarDevice F} {d : Driver F} {i : Index}

/-! ## What the threads see -/

/-- The devices as the threads see them, the rest being that of `ref`. -/
def Lds.onto (ref : Index → LidarDevice F) (lds : Lds F) : Lds F :=
  { lds with
    lidars := fun i =>
      { ref i with data := (lds.lidars i).data, connectState := (lds.lidars i).connectState } }

def Driver.onto (ref : Index → LidarDevice F) (d : Driver F) : Driver F :=
  { d with lds := d.lds.onto ref }

theorem onto_setQueue (lds : Lds F) (i : Index) (f : LidarDataQueue F → LidarDataQueue F) :
    (lds.setQueue i f).onto ref = (lds.onto ref).setQueue i f := by
  unfold Lds.onto Lds.setQueue
  congr
  funext j
  by_cases h : j = i
  · subst h
    simp
  · simp [h]

theorem onto_setConnectState (lds : Lds F) (i : Index) (state : LidarConnectState) :
    (lds.setConnectState i state).onto ref = (lds.onto ref).setConnectState i state := by
  unfold Lds.onto Lds.setConnectState
  congr
  funext j
  by_cases h : j = i
  · subst h
    simp
  · simp [h]

theorem onto_pointTurn (d : Driver F) :
    (d.onto ref).pointTurn = (d.pointTurn.1.onto ref, d.pointTurn.2) := by
  have hassign : ∀ p f next,
      (d.onto ref).assign p f next = (d.assign p f next : Driver F).onto ref := by
    intro p f next
    unfold Driver.assign Driver.onto
    rw [onto_setQueue]
  have hqueue : ∀ i, (d.onto ref).queue i = d.queue i := fun _ => rfl
  have hstore : (d.onto ref).store = d.store := rfl
  have hframes : (d.onto ref).frames = d.frames := rfl
  have hcache : (d.onto ref).lds.cacheIndex = d.lds.cacheIndex := rfl
  have hfreq : (d.onto ref).lds.publishFreq = d.lds.publishFreq := rfl
  have hcount : (d.onto ref).lds.pcdSemaphore = d.lds.pcdSemaphore := rfl
  unfold Driver.pointTurn
  simp only [hassign, hqueue, hstore, hframes, hcache, hfreq, hcount]
  repeat' split
  all_goals rfl

theorem onto_pollTurn (d : Driver F) :
    (d.onto ref).pollTurn = (d.pollTurn.1.onto ref, d.pollTurn.2) := by
  have hqueue : ∀ i, (d.onto ref).queue i = d.queue i := fun _ => rfl
  have hset : ∀ i f, (d.onto ref).lds.setQueue i f = (d.lds.setQueue i f).onto ref :=
    fun i f => (onto_setQueue d.lds i f).symm
  have hstate : ∀ i,
      ((d.onto ref).lds.lidars i).connectState = (d.lds.lidars i).connectState := fun _ => rfl
  have hpoll : (d.onto ref).poll = d.poll := rfl
  have hexit : (d.onto ref).lds.requestExit = d.lds.requestExit := rfl
  have hcount : (d.onto ref).lds.pcdSemaphore = d.lds.pcdSemaphore := rfl
  have hformat : (d.onto ref).transferFormat = d.transferFormat := rfl
  have hsignal : (d.onto ref).exitSignal = d.exitSignal := rfl
  unfold Driver.pollTurn
  simp only [hqueue, hset, hstate, hpoll, hexit, hcount, hformat, hsignal]
  repeat' split
  all_goals rfl

/-! ## Callbacks step by step -/

/-- A relation between the devices before and after that each step of a callback keeps. -/
structure CallbackRule (R : Lds F → Lds F → Prop) : Prop where
  refl : ∀ lds, R lds lds
  trans : ∀ {lds lds' lds''}, R lds lds' → R lds' lds'' → R lds lds''
  sampling : ∀ (lds : Lds F) (i : Index), R lds (lds.setConnectState i .sampling)
  setBits : ∀ (l : LdsLidar F) (i : Index) (f : BitVec 32 → BitVec 32), R l.lds (l.setBits i f).lds
  newDevice : ∀ (lds : Lds F) (handle : UInt32) (j : Index) (cache : CacheIndex),
    lds.cacheIndex.getFreeIndex kLivoxLidarType handle = (some j, cache) →
      R lds
        { lds with
          cacheIndex := cache
          lidars :=
            Function.update lds.lidars j { lds.lidars j with lidarType := kLivoxLidarType } }

theorem send_lds (l : LdsLidar F) (handle : UInt32) (r : Request F) : (l.send handle r).lds = l.lds :=
  rfl

namespace CallbackRule

variable {R : Lds F → Lds F → Prop} (h : CallbackRule R) {l : LdsLidar F}

include h

theorem sampleIfSet (i : Index) : R l.lds (l.sampleIfSet i).lds := by
  unfold LdsLidar.sampleIfSet
  split
  · exact h.sampling l.lds i
  · exact h.refl _

theorem asks (handle : UInt32) (i : Index) (settings : List Setting) :
    R l.lds (settings.foldl (LdsLidar.ask handle i) l).lds := by
  induction settings generalizing l with
  | nil => exact h.refl _
  | cons s settings ih =>
    refine h.trans ?_ ih
    unfold LdsLidar.ask
    split
    · rw [send_lds]
      exact h.setBits l i _
    · exact h.refl _

theorem infoChange (handle : UInt32) : R l.lds (l.lidarInfoChangeCallback handle).lds := by
  unfold LdsLidar.lidarInfoChangeCallback
  split
  · split
    · exact h.refl _
    · rename_i j cache hfree
      dsimp only
      rw [send_lds, send_lds]
      exact h.newDevice l.lds handle j cache hfree
  · rename_i i hi
    dsimp only
    rw [send_lds, send_lds, send_lds]
    exact h.trans (h.asks handle i _) (h.sampleIfSet i)

theorem setCallback (s : Setting) (status : LivoxStatus) (handle : UInt32) :
    R l.lds (l.setCallback s status handle).lds := by
  unfold LdsLidar.setCallback
  split
  · exact h.refl _
  · rename_i i hi
    cases status with
    | success => exact h.trans (h.setBits l i _) (h.sampleIfSet i)
    | timeout | failure => exact h.refl _

theorem callback (handle : UInt32) (status : LivoxStatus) (response : Bool) (r : Request F) :
    R l.lds (l.callback handle status response r).lds := by
  cases r with
  | pclDataType dataType => exact h.setCallback .dataType status handle
  | scanPattern pattern => exact h.setCallback .scanPattern status handle
  | blindSpot distance => exact h.setCallback .blindSpot status handle
  | dualEmit enable => exact h.setCallback .dualEmit status handle
  | installAttitude attitude =>
    unfold LdsLidar.callback LdsLidar.setAttitudeCallback
    dsimp only
    split
    · exact h.refl _
    · cases status <;> exact h.refl _
  | workMode =>
    unfold LdsLidar.callback LdsLidar.workModeChangedCallback
    dsimp only
    split <;> exact h.refl _
  | imuData =>
    unfold LdsLidar.callback LdsLidar.enableLivoxLidarImuDataCallback
    dsimp only
    split
    · exact h.refl _
    · split <;> exact h.refl _

theorem turn (l : LdsLidar F) (t : SdkTurn) : R l.lds (l.turn t).1.lds := by
  cases t with
  | infoChange handle => exact h.infoChange handle
  | answer n status response =>
    unfold LdsLidar.turn
    dsimp only
    split
    · exact h.refl _
    · rename_i handle r _
      exact h.callback (l := { l with requests := l.requests.eraseIdx n }) handle status response r

end CallbackRule

/-! ## Callbacks as turns of the SDK -/

/-- Some turns of the SDK do to the devices what a step does. -/
def Mimic (ref : Index → LidarDevice F) (lds lds' : Lds F) : Prop :=
  ∃ ts : List Turn, ∀ d : Driver F, d.lds = lds.onto ref →
    d.run ts = { d with lds := lds'.onto ref } ∧ d.trace ts = []

namespace Mimic

variable {lds lds' lds'' : Lds F}

theorem of_eq (h : lds'.onto ref = lds.onto ref) : Mimic ref lds lds' := by
  refine ⟨[], fun d hd => ⟨?_, rfl⟩⟩
  rw [h, ← hd]
  rfl

theorem trans (h : Mimic ref lds lds') (h' : Mimic ref lds' lds'') : Mimic ref lds lds'' := by
  obtain ⟨ts, hts⟩ := h
  obtain ⟨ts', hts'⟩ := h'
  refine ⟨ts ++ ts', fun d hd => ?_⟩
  obtain ⟨hrun, htrace⟩ := hts d hd
  obtain ⟨hrun', htrace'⟩ := hts' { d with lds := lds'.onto ref } rfl
  rw [run_append, trace_append, hrun, htrace]
  exact ⟨hrun', htrace'⟩

theorem sampling (lds : Lds F) (i : Index) : Mimic ref lds (lds.setConnectState i .sampling) := by
  refine ⟨[.sampling i], fun d hd => ⟨?_, rfl⟩⟩
  rw [onto_setConnectState, ← hd]
  rfl

theorem allot (lds : Lds F) (handle : UInt32) : Mimic ref lds
    { lds with cacheIndex := (lds.cacheIndex.getFreeIndex kLivoxLidarType handle).2 } := by
  refine ⟨[.allot handle], fun d hd => ⟨?_, rfl⟩⟩
  have hcache : d.lds.cacheIndex = lds.cacheIndex := by rw [hd]; rfl
  show { d with lds := { d.lds with cacheIndex := _ } } = _
  rw [hcache, hd]
  rfl

/-- What the threads do not see of a device may change. -/
theorem of_device {i : Index} {lidar : LidarDevice F} (hdata : lidar.data = (lds.lidars i).data)
    (hstate : lidar.connectState = (lds.lidars i).connectState) :
    Mimic ref lds { lds with lidars := Function.update lds.lidars i lidar } := by
  apply of_eq
  unfold Lds.onto
  congr
  funext j
  by_cases h : j = i
  · subst h
    simp [hdata, hstate]
  · simp [h]

theorem rule (ref : Index → LidarDevice F) : CallbackRule (Mimic ref) where
  refl := fun _ => of_eq rfl
  trans := trans
  sampling := sampling
  setBits := fun l i f => of_device rfl rfl
  newDevice := fun lds handle j cache hfree => by
    have hcache : (lds.cacheIndex.getFreeIndex kLivoxLidarType handle).2 = cache := by rw [hfree]
    subst hcache
    exact trans (allot lds handle) (of_device rfl rfl)

end Mimic

/-! ## The node as its threads -/

def NodeEvent.data? : NodeEvent F → Option (Event F)
  | .data e => some e
  | .sdk _ => none

def NodeEvent.sdk? : NodeEvent F → Option (SdkEvent F)
  | .data _ => none
  | .sdk e => some e

def dataIn (tr : List (NodeEvent F)) : List (Event F) := tr.filterMap NodeEvent.data?

def sdkIn (tr : List (NodeEvent F)) : List (SdkEvent F) := tr.filterMap NodeEvent.sdk?

@[simp] theorem dataIn_append (tr tr' : List (NodeEvent F)) :
    dataIn (tr ++ tr') = dataIn tr ++ dataIn tr' := List.filterMap_append

@[simp] theorem sdkIn_append (tr tr' : List (NodeEvent F)) :
    sdkIn (tr ++ tr') = sdkIn tr ++ sdkIn tr' := List.filterMap_append

@[simp] theorem mem_sdkIn {tr : List (NodeEvent F)} {e : SdkEvent F} :
    e ∈ sdkIn tr ↔ .sdk e ∈ tr := by
  constructor
  · intro he
    obtain ⟨a, ha, hae⟩ := List.mem_filterMap.1 he
    cases a with
    | data e' => cases hae
    | sdk e' =>
      cases hae
      exact ha
  · intro he
    exact List.mem_filterMap.2 ⟨_, he, rfl⟩

variable {n : Node F}

/-- A turn of the node is one of a thread, or some of the SDK. -/
theorem onto_turn (ref : Index → LidarDevice F) (n : Node F) (t : NodeTurn) : ∃ ts,
    (n.driver.onto ref).run ts = (n.turn t).1.driver.onto ref ∧
      (n.driver.onto ref).trace ts = dataIn (n.turn t).2.toList := by
  have hthread : ∀ u : Turn,
      (n.driver.onto ref).turn u = ((n.driver.turn u).1.onto ref, (n.driver.turn u).2) →
        (n.driver.onto ref).run [u] = (n.drive u).1.driver.onto ref ∧
          (n.driver.onto ref).trace [u] = dataIn (n.drive u).2.toList := by
    intro u hu
    refine ⟨congrArg Prod.fst hu, ?_⟩
    rw [Driver.trace, Driver.trace, List.append_nil, congrArg Prod.snd hu]
    unfold Node.drive
    cases (n.driver.turn u).2 <;> rfl
  cases t with
  | point => exact ⟨[.point], hthread .point (onto_pointTurn n.driver)⟩
  | poll => exact ⟨[.poll], hthread .poll (onto_pollTurn n.driver)⟩
  | requestExit => exact ⟨[.requestExit], hthread .requestExit rfl⟩
  | exitSignal => exact ⟨[.exitSignal], hthread .exitSignal rfl⟩
  | sdk t =>
    obtain ⟨ts, hts⟩ := (Mimic.rule ref).turn n.ldsLidar t
    obtain ⟨hrun, htrace⟩ := hts (n.driver.onto ref) rfl
    refine ⟨ts, hrun, htrace.trans ?_⟩
    unfold Node.turn
    dsimp only
    cases (n.ldsLidar.turn t).2 <;> rfl

theorem onto_run (ref : Index → LidarDevice F) (n : Node F) (ts : List NodeTurn) : ∃ ts',
    (n.driver.onto ref).run ts' = (n.run ts).driver.onto ref ∧
      (n.driver.onto ref).trace ts' = dataIn (n.trace ts) := by
  induction ts generalizing n with
  | nil => exact ⟨[], rfl, rfl⟩
  | cons t ts ih =>
    obtain ⟨ts₁, hrun₁, htrace₁⟩ := onto_turn ref n t
    obtain ⟨ts₂, hrun₂, htrace₂⟩ := ih (n.turn t).1
    refine ⟨ts₁ ++ ts₂, ?_, ?_⟩
    · rw [run_append, hrun₁, hrun₂]
      rfl
    · rw [trace_append, hrun₁, htrace₁, htrace₂]
      exact (dataIn_append _ _).symm

/-! ## The node as its callbacks -/

theorem setQueue_livoxConfig (lds : Lds F) (j i : Index)
    (f : LidarDataQueue F → LidarDataQueue F) :
    ((lds.setQueue j f).lidars i).livoxConfig = (lds.lidars i).livoxConfig := by
  by_cases h : i = j
  · subst h
    simp [Lds.setQueue]
  · simp [Lds.setQueue, h]

/-- What the callbacks read and a thread leaves. -/
theorem pointTurn_device (d : Driver F) (i : Index) :
    d.pointTurn.1.lds.cacheIndex = d.lds.cacheIndex ∧
      (d.pointTurn.1.lds.lidars i).livoxConfig = (d.lds.lidars i).livoxConfig ∧
      (d.pointTurn.1.lds.lidars i).connectState = (d.lds.lidars i).connectState := by
  unfold Driver.pointTurn
  repeat' split
  all_goals exact ⟨rfl, by simp [Driver.assign, setQueue_livoxConfig],
    by simp [Driver.assign, Wake.setQueue_connectState]⟩

theorem pollTurn_device (d : Driver F) (i : Index) :
    d.pollTurn.1.lds.cacheIndex = d.lds.cacheIndex ∧
      (d.pollTurn.1.lds.lidars i).livoxConfig = (d.lds.lidars i).livoxConfig ∧
      (d.pollTurn.1.lds.lidars i).connectState = (d.lds.lidars i).connectState := by
  unfold Driver.pollTurn
  repeat' split
  all_goals exact ⟨rfl, by simp [setQueue_livoxConfig], by simp [Wake.setQueue_connectState]⟩

variable {c : UserLivoxLidarConfig F} {handle : UInt32}

theorem Aside.thread {d : Driver F} (hcache : d.lds.cacheIndex = n.driver.lds.cacheIndex)
    (hconfig : (d.lds.lidars i).livoxConfig = (n.driver.lds.lidars i).livoxConfig)
    (hstate : (d.lds.lidars i).connectState = (n.driver.lds.lidars i).connectState) :
    Aside handle i n.ldsLidar { n with driver := d }.ldsLidar := by
  refine ⟨fun h => ?_, fun h => ?_, hconfig, hstate, [], (List.append_nil _).symm, by simp⟩
  · exact hcache ▸ h
  · unfold LdsLidar.getLidarDevice Node.ldsLidar
    rw [hcache]
    exact h

namespace Device

theorem nodeTurn (h : Device c handle i n.ldsLidar) (tr : List (SdkEvent F)) (t : NodeTurn) :
    Device c handle i (n.turn t).1.ldsLidar ∧ Relation.ReflTransGen (Handshake.Step (wantsOf c))
      (view c handle i n.ldsLidar tr)
      (view c handle i (n.turn t).1.ldsLidar (tr ++ sdkIn (n.turn t).2.toList)) := by
  have hthread : ∀ u : Turn, Aside handle i n.ldsLidar (n.drive u).1.ldsLidar →
      Device c handle i (n.drive u).1.ldsLidar ∧ Relation.ReflTransGen (Handshake.Step (wantsOf c))
        (view c handle i n.ldsLidar tr)
        (view c handle i (n.drive u).1.ldsLidar (tr ++ sdkIn (n.drive u).2.toList)) := by
    intro u haside
    have hnone : sdkIn (n.drive u).2.toList = [] := by
      unfold Node.drive
      cases (n.driver.turn u).2 <;> rfl
    refine ⟨haside.device h, ?_⟩
    rw [hnone, List.append_nil, haside.view_eq]
  cases t with
  | point =>
    obtain ⟨hcache, hconfig, hstate⟩ := pointTurn_device n.driver i
    exact hthread .point (Aside.thread hcache hconfig hstate)
  | poll =>
    obtain ⟨hcache, hconfig, hstate⟩ := pollTurn_device n.driver i
    exact hthread .poll (Aside.thread hcache hconfig hstate)
  | requestExit => exact hthread .requestExit (Aside.thread rfl rfl rfl)
  | exitSignal => exact hthread .exitSignal (Aside.thread rfl rfl rfl)
  | sdk t =>
    obtain ⟨hd, hrun⟩ := h.turn tr t
    have hseen : sdkIn (n.turn (.sdk t)).2.toList = (n.ldsLidar.turn t).2.toList := by
      unfold Node.turn
      dsimp only
      cases (n.ldsLidar.turn t).2 <;> rfl
    rw [hseen]
    exact ⟨hd, hrun⟩

theorem nodeRun (h : Device c handle i n.ldsLidar) (tr : List (SdkEvent F)) (ts : List NodeTurn) :
    Device c handle i (n.run ts).ldsLidar ∧ Relation.ReflTransGen (Handshake.Step (wantsOf c))
      (view c handle i n.ldsLidar tr)
      (view c handle i (n.run ts).ldsLidar (tr ++ sdkIn (n.trace ts))) := by
  induction ts generalizing n tr with
  | nil =>
    rw [show sdkIn (n.trace []) = [] from rfl, List.append_nil]
    exact ⟨h, .refl⟩
  | cons t ts ih =>
    obtain ⟨hd, hstep⟩ := h.nodeTurn tr t
    obtain ⟨hd', hrest⟩ := ih hd (tr ++ sdkIn (n.turn t).2.toList)
    rw [List.append_assoc] at hrest
    refine ⟨hd', hstep.trans ?_⟩
    rw [Node.trace, sdkIn_append]
    exact hrest

end Device

/-! ## Whose queue is read -/

/-- The place whose queue the poll thread reads. -/
def PollPc.place? : PollPc F → Option Index
  | .ifNull i | .polling i | .publishing i | .prePop i | .baseTime i => some i
  | .pointsNum i _ | .points i _ | .popUpdate i _ | .publish i _ => some i
  | .start | .wait | .lidars _ | .status | .done => none

/-- It is that of a sampling LiDAR. -/
def Reading (d : Driver F) : Prop :=
  ∀ i, d.poll.place? = some i → (d.lds.lidars i).connectState = .sampling

namespace Reading

theorem pollTurn (h : Reading d) : Reading d.pollTurn.1 := by
  intro j hj
  rw [(pollTurn_device d j).2.2]
  have hread := h j
  unfold Driver.pollTurn at hj
  cases hpoll : d.poll with
  | lidars k =>
    rw [hpoll] at hj
    dsimp only at hj
    split at hj
    · rename_i hk
      split at hj
      · cases hj
      · rename_i hsampling
        cases hj
        exact Classical.not_not.1 hsampling
    · cases hj
  | start | wait | status =>
    rw [hpoll] at hj
    dsimp only at hj
    split at hj <;> simp_all [PollPc.place?]
  | done => simp_all [PollPc.place?]
  | ifNull k | polling k | publishing k | prePop k =>
    rw [hpoll] at hj hread
    dsimp only at hj
    repeat' split at hj
    all_goals simp_all [PollPc.place?]
  | baseTime k | pointsNum k pkg | points k pkg | popUpdate k pkg | publish k pkg =>
    rw [hpoll] at hj hread
    exact hread hj

theorem turn (h : Reading d) (t : Turn) : Reading (d.turn t).1 := by
  cases t with
  | point =>
    intro j hj
    rw [Driver.turn, (pointTurn_device d j).2.2]
    rw [Driver.turn, (pointTurn_keeps d).1] at hj
    exact h j hj
  | poll => exact h.pollTurn
  | sampling k =>
    intro j hj
    by_cases hjk : j = k
    · subst hjk
      simp [Driver.turn, Lds.setConnectState]
    · simpa [Driver.turn, Lds.setConnectState, hjk] using h j hj
  | allot handle | requestExit | exitSignal => exact h

theorem run (h : Reading d) (ts : List Turn) : Reading (d.run ts) := by
  induction ts generalizing d with
  | nil => exact h
  | cons t ts ih => exact ih (h.turn t)

end Reading

/-- What a turn shows of a queue is read from it there. -/
theorem place?_of_read {t : Turn} {pkg : StoragePacket F}
    (hev : (d.turn t).2 = some (.taken i pkg) ∨ (d.turn t).2 = some (.published i pkg)) :
    d.poll.place? = some i := by
  cases t with
  | point =>
    rw [Driver.turn] at hev
    unfold Driver.pointTurn at hev
    repeat' split at hev
    all_goals simp at hev
  | poll =>
    rw [Driver.turn] at hev
    unfold Driver.pollTurn at hev
    cases hpoll : d.poll with
    | popUpdate j pkg' =>
      rw [hpoll] at hev
      simp only [Option.some.injEq, Event.taken.injEq, reduceCtorEq, or_false] at hev
      rw [PollPc.place?, hev.1]
    | publish j pkg' =>
      rw [hpoll] at hev
      dsimp only at hev
      split at hev
      · simp at hev
      · simp only [Option.some.injEq, Event.published.injEq, reduceCtorEq, false_or] at hev
        rw [PollPc.place?, hev.1]
    | _ =>
      rw [hpoll] at hev
      dsimp only at hev
      repeat' split at hev
      all_goals simp at hev
  | allot handle | sampling j | requestExit | exitSignal => simp [Driver.turn] at hev

/-! ## The node -/

theorem data_turn {t : NodeTurn} {e : Event F} (h : (n.turn t).2 = some (.data e)) :
    ∃ u, (n.driver.turn u).2 = some e := by
  have hthread : ∀ u : Turn, (n.drive u).2 = some (.data e) → (n.driver.turn u).2 = some e := by
    intro u hu
    obtain ⟨e', he', heq⟩ := Option.map_eq_some_iff.1 hu
    cases heq
    exact he'
  cases t with
  | point => exact ⟨_, hthread .point h⟩
  | poll => exact ⟨_, hthread .poll h⟩
  | requestExit => exact ⟨_, hthread .requestExit h⟩
  | exitSignal => exact ⟨_, hthread .exitSignal h⟩
  | sdk t =>
    obtain ⟨e', -, heq⟩ := Option.map_eq_some_iff.1 h
    cases heq

theorem node_run_append (n : Node F) (ts ts' : List NodeTurn) :
    n.run (ts ++ ts') = (n.run ts).run ts' := List.foldl_append

theorem node_trace_append (n : Node F) (ts ts' : List NodeTurn) :
    n.trace (ts ++ ts') = n.trace ts ++ (n.run ts).trace ts' := by
  induction ts generalizing n with
  | nil => rfl
  | cons t ts ih =>
    rw [List.cons_append, Node.trace, Node.trace, ih, List.append_assoc]
    rfl

section

variable [CMath F]

/-- What is known of a LiDAR of the file after some turns of the node. -/
theorem node_inv (lds : Lds F) (entries : List (ConfigEntry F)) (transferFormat : UInt8)
    (frames : List (PointFrame F)) (ts : List NodeTurn)
    (hplace : (LdsLidar.init lds entries).getLidarDevice handle = some i)
    (hentry : entryOf (parseUserConfigs entries) handle = some c) :
    Handshake.Inv (wantsOf c)
      (view c handle i ((Node.init lds entries transferFormat frames).run ts).ldsLidar
        (sdkIn ((Node.init lds entries transferFormat frames).trace ts))) := by
  obtain ⟨hd, hview⟩ := device_init lds entries hplace hentry
  have haside : Aside handle i (.init lds entries)
      (Node.init lds entries transferFormat frames).ldsLidar :=
    ⟨id, id, rfl, (init_connectState lds entries i).symm, [], rfl, by simp⟩
  obtain ⟨-, hrun⟩ := (haside.device hd).nodeRun [] ts
  rw [haside.view_eq, hview, List.nil_append] at hrun
  exact Handshake.inv_init.run hrun

/-- **A LiDAR of the file is not read before it has acknowledged its settings**: when a packet is taken
from its queue or published, each setting that was parsed of its entry has been acknowledged with the
value parsed, however the SDK's callbacks and the two threads take turns. -/
theorem read_acknowledged (lds : Lds F) (entries : List (ConfigEntry F)) (transferFormat : UInt8)
    (frames : List (PointFrame F)) (ts : List NodeTurn) (t : NodeTurn) (handle : UInt32) (i : Index)
    (c : UserLivoxLidarConfig F) (pkg : StoragePacket F)
    (hplace : (LdsLidar.init lds entries).getLidarDevice handle = some i)
    (hentry : entryOf (parseUserConfigs entries) handle = some c) :
    let n := Node.init lds entries transferFormat frames
    ((n.run ts).turn t).2 = some (.data (.taken i pkg)) ∨
        ((n.run ts).turn t).2 = some (.data (.published i pkg)) →
      ∀ s, c.has s = true → .sdk (.answered handle (c.request s) .success) ∈ n.trace ts := by
  intro n hev s hs
  have hinv := node_inv lds entries transferFormat frames ts hplace hentry
  have hsampling : ((n.run ts).driver.lds.lidars i).connectState = .sampling := by
    obtain ⟨ts', hrun, -⟩ := onto_run n.driver.lds.lidars n ts
    have hreading : Reading ((n.run ts).driver.onto n.driver.lds.lidars) := by
      rw [← hrun]
      exact Reading.run (fun j hj => by cases hj) ts'
    have hread : (n.run ts).driver.poll.place? = some i := by
      rcases hev with hev | hev
      · obtain ⟨u, hu⟩ := data_turn hev
        exact place?_of_read (.inl hu)
      · obtain ⟨u, hu⟩ := data_turn hev
        exact place?_of_read (.inr hu)
    exact hreading i hread
  have hacked := hinv.ready (decide_eq_true hsampling) s (by simp [wantsOf, hs])
  simpa [view, answersOf] using hacked

end

/-- A frame of the LiDAR of `oneEntry`. -/
def oneFrame : PointFrame ℚ :=
  [(7,
    { handle := 1
      lidarType := kLivoxLidarType
      pointsNum := 1
      points := [{ x := 1, y := 2, z := 3, intensity := 4, tag := 0, line := 0, offsetTime := 0 }] })]

/-- The LiDAR is set up, and its packet is about to be added to the queue. -/
def setUp : List NodeTurn := oneSetup.map .sdk ++ List.replicate 8 .point

/-- Both of its settings, before its packet is taken. -/
theorem read_acknowledged_one :
    let c := (parseUserConfig oneEntry).get (by decide)
    let tr := (Node.init oneLds [oneEntry] 0 [oneFrame]).trace
      (setUp ++ List.replicate 5 .point ++ List.replicate 10 .poll)
    .sdk (.answered 1 (c.request .dataType) .success) ∈ tr ∧
      .sdk (.answered 1 (c.request .blindSpot) .success) ∈ tr := by
  intro c tr
  have hacked := read_acknowledged oneLds [oneEntry] 0 [oneFrame]
    (setUp ++ List.replicate 5 .point ++ List.replicate 10 .poll) .poll 1 0 c
    { baseTime := 7, pointsNum := 1, points := oneFrame.pointsOf 1 } (by decide +kernel)
    (by decide +kernel) (by decide +kernel)
  exact ⟨hacked .dataType (by decide), hacked .blindSpot (by decide)⟩

section

variable [CMath F]

end

end Livox
