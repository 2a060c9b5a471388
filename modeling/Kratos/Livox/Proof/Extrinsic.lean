import Kratos.Lib.Rigid
import Kratos.Livox.Callback
import Kratos.Livox.Proof.Frames
import Kratos.Livox.Proof.Setup

/-!
# Where a point is

The extrinsic parameters of a LiDAR are set at its first packet, and `CheckTimer` leaves them
(`Fixed`): every packet is decoded with those of the last entry of the file (`Fixed.run`). Over the
reals these are a rigid motion (`decoded_moved`); a LiDAR without an entry has its points sheared by
the initializer of `extrinsic_` (`decoded_sheared`).
-/

namespace Livox

variable {F : Type}

/-! ## Parameters -/

/-- The parameters that a LiDAR is given; the last call for it counts. -/
def paramOf (params : List (LidarExtParameter F)) (id : UInt32) : Option (LidarExtParameter F) :=
  (params.filter fun p => getLidarId p.lidarType p.handle = id).getLast?

theorem paramOf_concat (params : List (LidarExtParameter F)) (p : LidarExtParameter F)
    (id : UInt32) : paramOf (params ++ [p]) id =
      if getLidarId p.lidarType p.handle = id then some p else paramOf params id := by
  unfold paramOf
  by_cases h : getLidarId p.lidarType p.handle = id <;> simp [h]

section

variable [CMath F]

/-- What the points of a LiDAR are decoded with. -/
def extrinsicOf (params : List (LidarExtParameter F)) (id : UInt32) : ExtParameterDetailed F :=
  ((paramOf params id).map fun p => p.param.detailed).getD .default

/-- What a handler has of its parameters. -/
def LidarPubHandler.setting (h : LidarPubHandler F) : ExtParameterDetailed F × Bool :=
  (h.extrinsic, h.isSetExtrinsicParams)

/-- The parameters are those of the calls, and a handler has its own. -/
structure Fixed (params : List (LidarExtParameter F)) (s : PubHandler F) : Prop where
  sorted : OrderedMap.Sorted s.lidarProcessHandlers
  given : ∀ id, OrderedMap.find s.lidarExtrinsics id = paramOf params id
  handlers : ∀ id h, OrderedMap.find s.lidarProcessHandlers id = some h →
    h.setting = (extrinsicOf params id, (paramOf params id).isSome)
  queue : ∀ packet ∈ s.rawPacketQueue, packet.extrinsicEnable = false

/-- A packet is decoded with the parameters of its LiDAR. -/
def Decoded (params : List (LidarExtParameter F)) (evs : List (PubEvent F)) : Prop :=
  ∀ id packet extrinsic points, .processed id packet extrinsic points ∈ evs →
    extrinsic = extrinsicOf params id ∧ packet.extrinsicEnable = false

/-- A turn between packets and frames, that is not one of the setters. -/
def PubTurn.Data : PubTurn F → Prop
  | .addLidarsExtParam _ | .clearAllLidarsExtrinsicParams => False
  | _ => True

omit [CMath F] in
theorem checkTimer_setting {s s' : PubHandler F} {id : UInt32} {h : LidarPubHandler F} {now : Int}
    {frame : Option (PointFrame F)} (hs : OrderedMap.Sorted s.lidarProcessHandlers)
    (hfind : OrderedMap.find s.lidarProcessHandlers id = some h)
    (hcheck : s.checkTimer id h now = some (s', frame)) (j : UInt32) :
    (OrderedMap.find s'.lidarProcessHandlers j).map LidarPubHandler.setting =
      (OrderedMap.find s.lidarProcessHandlers j).map LidarPubHandler.setting := by
  have hswap : (OrderedMap.find (OrderedMap.put s.lidarProcessHandlers id h.getLidarPointClouds.2)
      j).map LidarPubHandler.setting =
        (OrderedMap.find s.lidarProcessHandlers j).map LidarPubHandler.setting := by
    rw [OrderedMap.find_put hs]
    split
    · rename_i hj
      rw [← hj, hfind]
      rfl
    · rfl
  unfold PubHandler.checkTimer at hcheck
  dsimp only at hcheck
  split at hcheck
  · split at hcheck
    · cases hcheck
    split at hcheck
    · cases hcheck
      rfl
    · split at hcheck
      · cases hcheck
        rfl
      · split at hcheck
        · cases hcheck
          exact hswap
        · cases hcheck
          exact hswap
  · split at hcheck
    · cases hcheck
      rfl
    · split at hcheck
      · cases hcheck
        rfl
      · obtain ⟨_, -, heq⟩ := Option.map_eq_some_iff.1 hcheck
        cases heq
        dsimp only
        rw [OrderedMap.find_map]
        cases OrderedMap.find s.lidarProcessHandlers j <;> rfl

omit [CMath F] in
theorem rawPacket_extrinsicEnable {handle : UInt32} {devType : DeviceType} {data : EthernetPacket}
    {now : UInt64} {packet : RawPacket} (h : rawPacket handle devType data now = some packet) :
    packet.extrinsicEnable = false := by
  unfold rawPacket at h
  split at h
  · cases h
  · cases h
    rfl

namespace Fixed

variable {params : List (LidarExtParameter F)} {s s' : PubHandler F} {evs : List (PubEvent F)}

/-- The handler that a packet is decoded with has the parameters of its LiDAR, new or not. -/
theorem processHandler (h : Fixed params s) (id : UInt32) :
    (s.processHandler id).setting = (extrinsicOf params id, (paramOf params id).isSome) := by
  unfold PubHandler.processHandler
  rw [h.given]
  cases hfind : OrderedMap.find s.lidarProcessHandlers id with
  | none =>
    cases hparam : paramOf params id <;>
      simp [extrinsicOf, hparam, LidarPubHandler.setting, LidarPubHandler.new,
        LidarPubHandler.setLidarsExtParam]
  | some c =>
    have hset := h.handlers id c hfind
    cases hparam : paramOf params id with
    | none => simpa [hparam] using hset
    | some p =>
      have hdone : c.isSetExtrinsicParams = true := (congrArg Prod.snd hset).trans (by simp [hparam])
      simpa [LidarPubHandler.setLidarsExtParam, hdone, hparam] using hset

theorem rawDataProcess (h : Fixed params s) {now : Int}
    (hturn : s.rawDataProcess now = some (s', evs)) :
    Fixed params s' ∧ Decoded params evs := by
  rcases rawDataProcess_cases hturn with ⟨-, rfl, rfl⟩ |
    ⟨rawData, rest, points, c, frame, s₁, hqueue, -, hc, hs₁, hcheck, rfl⟩
  · exact ⟨h, fun _ _ _ _ hmem => absurd hmem List.not_mem_nil⟩
  · have hset : c.setting =
        (extrinsicOf params rawData.handle, (paramOf params rawData.handle).isSome) := by
      rw [hc]
      exact h.processHandler rawData.handle
    have hsorted : OrderedMap.Sorted s₁.lidarProcessHandlers := hs₁ ▸ h.sorted.put _ _
    have hfind : ∀ j, OrderedMap.find s₁.lidarProcessHandlers j =
        if rawData.handle = j then some c else OrderedMap.find s.lidarProcessHandlers j := by
      intro j
      rw [hs₁]
      exact OrderedMap.find_put h.sorted
    have hself : OrderedMap.find s₁.lidarProcessHandlers rawData.handle = some c := by
      rw [hfind, if_pos rfl]
    have hchecked := checkTimer_checked hsorted hself hcheck
    refine ⟨⟨hchecked.sorted, fun id => ?_, fun id c' hid => ?_, fun packet hpacket => ?_⟩,
      fun id packet extrinsic pts hmem => ?_⟩
    · rw [hchecked.extrinsics, hs₁]
      exact h.given id
    · have hkeep := checkTimer_setting hsorted hself hcheck id
      rw [hid, hfind] at hkeep
      split at hkeep
      · rename_i he
        subst he
        exact (Option.some_inj.1 hkeep).trans hset
      · obtain ⟨c'', hc'', heq⟩ := Option.map_eq_some_iff.1 hkeep.symm
        exact heq.symm.trans (h.handlers id c'' hc'')
    · rw [hchecked.queue, hs₁] at hpacket
      exact h.queue packet (hqueue ▸ List.mem_cons_of_mem _ hpacket)
    · rcases List.mem_cons.1 hmem with heq | hmem
      · injection heq with hid hpacket hextrinsic _
        rw [hextrinsic, hid, hpacket]
        exact ⟨congrArg Prod.fst hset, h.queue rawData (hqueue ▸ List.mem_cons_self)⟩
      · cases frame with
        | none => cases hmem
        | some f => cases List.mem_singleton.1 hmem

theorem turn (h : Fixed params s) {t : PubTurn F} (ht : t.Data)
    (hturn : s.turn t = some (s', evs)) :
    Fixed params s' ∧ Decoded params evs := by
  cases t with
  | process now => exact h.rawDataProcess hturn
  | receive handle devType data now =>
    unfold PubHandler.turn at hturn
    dsimp only at hturn
    split at hturn
    · cases hturn
      exact ⟨h, by simp [Decoded]⟩
    · obtain ⟨packet, hraw, heq⟩ := Option.map_eq_some_iff.1 hturn
      cases heq
      refine ⟨⟨h.sorted, h.given, h.handlers, fun pkt hpkt => ?_⟩, by simp [Decoded]⟩
      rcases List.mem_append.1 hpkt with hpkt | hpkt
      · exact h.queue pkt hpkt
      · rw [List.mem_singleton.1 hpkt]
        exact rawPacket_extrinsicEnable hraw
  | sync timeType =>
    cases hturn
    exact ⟨⟨h.sorted, h.given, h.handlers, h.queue⟩, by simp [Decoded]⟩
  | addLidarsExtParam lidarParam | clearAllLidarsExtrinsicParams => cases ht

theorem run (h : Fixed params s) {ts : List (PubTurn F)} (hts : ∀ t ∈ ts, t.Data)
    (hrun : s.run ts = some (s', evs)) : Decoded params evs := by
  induction ts generalizing s evs with
  | nil =>
    cases hrun
    simp [Decoded]
  | cons t ts ih =>
    obtain ⟨ht, hrest⟩ := List.forall_mem_cons.1 hts
    obtain ⟨⟨s₁, evs₁⟩, hturn, hrun⟩ := Option.bind_eq_some_iff.1 hrun
    obtain ⟨⟨s₂, evs₂⟩, hrest', hrun⟩ := Option.bind_eq_some_iff.1 hrun
    cases hrun
    obtain ⟨hfixed, hevs⟩ := h.turn ht hturn
    intro id packet extrinsic points hmem
    rcases List.mem_append.1 hmem with hmem | hmem
    · exact hevs id packet extrinsic points hmem
    · exact ih hfixed hrest hrest' id packet extrinsic points hmem

end Fixed

/-- After the calls of `AddLidarsExtParam`, before any packet. -/
theorem run_params {s : PubHandler F} (done : List (LidarExtParameter F))
    (hqueue : s.rawPacketQueue = []) (hsorted : OrderedMap.Sorted s.lidarExtrinsics)
    (hhandlers : s.lidarProcessHandlers = [])
    (hgiven : ∀ id, OrderedMap.find s.lidarExtrinsics id = paramOf done id)
    (params : List (LidarExtParameter F)) (ts : List (PubTurn F)) :
    ∃ s', Fixed (done ++ params) s' ∧
      s.run (params.map .addLidarsExtParam ++ ts) = s'.run ts := by
  induction params generalizing s done with
  | nil =>
    refine ⟨s, ⟨?_, ?_, ?_, ?_⟩, rfl⟩
    · rw [hhandlers]
      exact List.Pairwise.nil
    · rw [List.append_nil]
      exact hgiven
    · simp [hhandlers]
    · simp [hqueue]
  | cons p params ih =>
    have hput : ∀ id, OrderedMap.find
        (OrderedMap.put s.lidarExtrinsics (getLidarId p.lidarType p.handle) p) id =
          paramOf (done ++ [p]) id := by
      intro id
      rw [OrderedMap.find_put hsorted, paramOf_concat, hgiven]
    let s₁ : PubHandler F :=
      { s with
        lidarExtrinsics :=
          OrderedMap.put s.lidarExtrinsics (getLidarId p.lidarType p.handle) p }
    obtain ⟨s', hfixed, hrun⟩ := ih (s := s₁) (done ++ [p]) hqueue (hsorted.put _ _) hhandlers hput
    rw [List.append_assoc] at hfixed
    refine ⟨s', hfixed, ?_⟩
    rw [← hrun, List.map_cons, List.cons_append, PubHandler.run]
    simp [PubHandler.turn, s₁]

/-! ## The parameters of the file -/

omit [CMath F]

/-- Between two turns of the loop in `InitLivoxLidar`: a LiDAR with a place has the parameters of its
entry, and another one has none. -/
structure Granted (configs : List (UserLivoxLidarConfig F))
    (st : Lds F × List (LidarExtParameter F)) : Prop where
  placed : ∀ handle i, st.1.cacheIndex.getIndex kLivoxLidarType handle = some i →
    paramOf st.2 handle = (entryOf configs handle).map lidarParam
  unplaced : ∀ handle, st.1.cacheIndex.getIndex kLivoxLidarType handle = none →
    paramOf st.2 handle = none

theorem granted_addUserConfig {configs : List (UserLivoxLidarConfig F)}
    {st : Lds F × List (LidarExtParameter F)} (h : Granted configs st)
    (config : UserLivoxLidarConfig F) : Granted (configs ++ [config]) (addUserConfig st config) := by
  unfold addUserConfig
  split
  · rename_i hnone
    refine ⟨fun handle i hi => ?_, h.unplaced⟩
    have hne : config.handle ≠ handle := by
      rintro rfl
      rw [getIndex_eq_none hnone] at hi
      cases hi
    rw [entryOf_concat, if_neg hne]
    exact h.placed handle i hi
  · rename_i j cache hfree
    have hid : getLidarId (lidarParam config).lidarType (lidarParam config).handle =
        config.handle := rfl
    refine ⟨fun handle i hi => ?_, fun handle hnone => ?_⟩
    · dsimp only
      rw [paramOf_concat, entryOf_concat, hid]
      split
      · rfl
      · rename_i hne
        exact h.placed handle i (getIndex_of_getFreeIndex hfree (Ne.symm hne) hi)
    · dsimp only at hnone ⊢
      have hne : config.handle ≠ handle := by
        rintro rfl
        rw [getIndex_getFreeIndex_self hfree] at hnone
        cases hnone
      rw [paramOf_concat, hid, if_neg hne]
      apply h.unplaced
      cases hi : st.1.cacheIndex.getIndex kLivoxLidarType handle with
      | none => rfl
      | some i =>
        have hkeep : (st.1.cacheIndex.getFreeIndex kLivoxLidarType config.handle).2.getIndex
            kLivoxLidarType handle = some i := getIndex_getFreeIndex hi
        rw [hfree] at hkeep
        exact absurd (hnone.symm.trans hkeep) (by simp)

theorem granted_initLivoxLidar {lds : Lds F} (hcache : lds.cacheIndex = {})
    (configs : List (UserLivoxLidarConfig F)) : Granted configs (initLivoxLidar lds configs) := by
  induction configs using List.reverseRecOn with
  | nil =>
    refine ⟨fun handle i hi => ?_, fun _ _ => rfl⟩
    simp [initLivoxLidar, hcache, CacheIndex.getIndex] at hi
  | append_singleton configs config ih =>
    unfold initLivoxLidar at ih ⊢
    rw [List.foldl_append]
    exact granted_addUserConfig ih config

theorem granted_init [CMath F] (lds : Lds F) (entries : List (ConfigEntry F)) :
    Granted (parseUserConfigs entries)
      ((LdsLidar.init lds entries).lds, LdsLidar.initParams lds entries) :=
  granted_initLivoxLidar rfl _

/-- In a run with the parameters of the file each packet is decoded with them. -/
theorem decoded_run [CMath F] {publishFreq : ℚ} {lds : Lds F} {entries : List (ConfigEntry F)}
    {ts : List (PubTurn F)} {s : PubHandler F} {tr : List (PubEvent F)} (hts : ∀ t ∈ ts, t.Data)
    (hrun : (PubHandler.setPointCloudConfig publishFreq).run
      ((LdsLidar.initParams lds entries).map .addLidarsExtParam ++ ts) = some (s, tr)) :
    Decoded (LdsLidar.initParams lds entries) tr := by
  obtain ⟨s', hfixed, heq⟩ := run_params (s := PubHandler.setPointCloudConfig publishFreq) [] rfl
    List.Pairwise.nil rfl (fun _ => rfl) (LdsLidar.initParams lds entries) ts
  rw [List.nil_append] at hfixed
  exact hfixed.run hts (heq ▸ hrun)

end

/-! ## Over the reals -/

noncomputable scoped instance instCMathReal : CMath ℝ where
  ofInt n := n
  sin := Real.sin
  cos := Real.cos

open Rigid

@[simp] theorem ofInt_real (n : Int) : (CMath.ofInt n : ℝ) = n := rfl

/-- The packet as it would be decoded without parameters. -/
def RawPacket.plain (packet : RawPacket) : RawPacket := { packet with extrinsicEnable := true }

/-- A point put elsewhere. -/
def PointXyzlt.at (p : PointXyzlt ℝ) (v : Fin 3 → ℝ) : PointXyzlt ℝ :=
  { p with
    x := Matrix.vecHead v
    y := Matrix.vecHead (Matrix.vecTail v)
    z := Matrix.vecHead (Matrix.vecTail (Matrix.vecTail v)) }

def PointXyzlt.xyz (p : PointXyzlt ℝ) : Fin 3 → ℝ := ![p.x, p.y, p.z]

/-- What is done to a point in metres with some parameters in a unit of which there are `unit` in a
metre. -/
noncomputable def ExtParameterDetailed.apply (unit : ℝ) (e : ExtParameterDetailed ℝ)
    (v : Fin 3 → ℝ) : Fin 3 → ℝ := fun r => v ⬝ᵥ e.rotation r + e.trans r / unit

theorem apply_row (unit : ℝ) (e : ExtParameterDetailed ℝ) (v : Fin 3 → ℝ) (r : Fin 3) :
    e.apply unit v r =
      v 0 * e.rotation r 0 + v 1 * e.rotation r 1 + v 2 * e.rotation r 2 + e.trans r / unit := by
  rw [ExtParameterDetailed.apply, dotProduct, Fin.sum_univ_three]

/-- A Cartesian point, in thousandths or hundredths of a metre. -/
theorem cartesian_apply (unit : ℝ) (e e' : ExtParameterDetailed ℝ) (raw : CartesianRawPoint) :
    cartesian unit e false raw =
      let v := cartesian unit e' true raw
      let w := e.apply unit ![v.1, v.2.1, v.2.2]
      (w 0, w 1, w 2) := by
  simp only [cartesian, apply_row]
  simp
  refine ⟨?_, ?_, ?_⟩ <;> ring

theorem spherical_apply (e e' : ExtParameterDetailed ℝ) (raw : SpherPoint) :
    spherical e false raw =
      let v := spherical e' true raw
      let w := e.apply 1000.0 ![v.1, v.2.1, v.2.2]
      (w 0, w 1, w 2) := by
  simp [spherical, apply_row]

theorem mapM_map {A B C : Type} (l : List A) (g : A → Option B) (f : B → C) :
    (l.mapM fun a => (g a).map f) = (l.mapM g).map (List.map f) := by
  induction l with
  | nil => rfl
  | cons a l ih =>
    rw [List.mapM_cons, List.mapM_cons, ih]
    cases g a <;> cases l.mapM g <;> rfl

theorem forEach_map {R : Type} (pkt : RawPacket) (raw : List R)
    {turn turn' : Nat → R → List (PointXyzlt F)} {f : PointXyzlt F → PointXyzlt F}
    (h : ∀ i r, turn' i r = (turn i r).map f) :
    pkt.forEach raw turn' = (pkt.forEach raw turn).map (List.map f) := by
  have hturn : ∀ i : Nat,
      (pkt.record raw i).map (turn' i) = ((pkt.record raw i).map (turn i)).map (List.map f) := by
    intro i
    rw [Option.map_map]
    exact congrArg (fun g => (pkt.record raw i).map g) (funext (h i))
  unfold RawPacket.forEach
  simp only [hturn]
  rw [mapM_map, Option.map_map, Option.map_map]
  congr 1
  funext ls
  exact List.map_flatten.symm

/-- How many units of a packet's coordinates are a metre. -/
noncomputable def RawData.unit : RawData → ℝ
  | .cartesianLow _ => 100.0
  | _ => 1000.0

/-- A point of a packet without parameters, put where they put it. -/
theorem point_eq {pkt : RawPacket} {i : Nat} {reflectivity tag : UInt8} {v v' : ℝ × ℝ × ℝ}
    {f : (Fin 3 → ℝ) → Fin 3 → ℝ}
    (h : v' = (f ![v.1, v.2.1, v.2.2] 0, f ![v.1, v.2.1, v.2.2] 1, f ![v.1, v.2.1, v.2.2] 2)) :
    pkt.point i v' reflectivity tag =
      (pkt.plain.point i v reflectivity tag).at
        (f (pkt.plain.point i v reflectivity tag).xyz) := by
  rw [h]
  rfl

/-- What the parameters do to a packet's points. -/
theorem pointCloudProcess_apply {pkt : RawPacket} (hpkt : pkt.extrinsicEnable = false)
    (e e' : ExtParameterDetailed ℝ) :
    pkt.pointCloudProcess e = (pkt.plain.pointCloudProcess e').map
      (List.map fun p => p.at (e.apply pkt.rawData.unit p.xyz)) := by
  have hplain : pkt.plain.rawData = pkt.rawData := rfl
  unfold RawPacket.pointCloudProcess
  rw [hplain]
  cases hraw : pkt.rawData with
  | cartesianHigh raw =>
    apply forEach_map
    intro i r
    rw [hpkt]
    exact congrArg (fun p => [p]) (point_eq (cartesian_apply 1000.0 e e' r))
  | cartesianLow raw =>
    apply forEach_map
    intro i r
    rw [hpkt]
    exact congrArg (fun p => [p]) (point_eq (cartesian_apply 100.0 e e' r))
  | spherical raw =>
    apply forEach_map
    intro i r
    rw [hpkt]
    exact congrArg (fun p => [p]) (point_eq (spherical_apply e e' r))
  | doubleEcho raw =>
    apply forEach_map
    intro i r
    rw [hpkt]
    exact congrArg₂ (fun p q => [p, q]) (point_eq (cartesian_apply 1000.0 e e' r.point1))
      (point_eq (cartesian_apply 1000.0 e e' r.point2))
  | imu | unknown => rfl

/-- The rigid motion of an entry, in metres. -/
noncomputable def motionOf (c : UserLivoxLidarConfig ℝ) : Motion (Fin 3) where
  rot := rollPitchYaw (c.extrinsicParam.roll * kPi / 180.0) (c.extrinsicParam.pitch * kPi / 180.0)
    (c.extrinsicParam.yaw * kPi / 180.0)
  shift :=
    let trans := (lidarParam c).param
    let unit : ℝ := if c.pclDataType = kLivoxLidarCartesianCoordinateLowData then 100.0 else 1000.0
    ![trans.x.toInt / unit, trans.y.toInt / unit, trans.z.toInt / unit]

/-- The points are of the kind that the entry asks for. -/
def RawData.Fits (rawData : RawData) (c : UserLivoxLidarConfig F) : Prop :=
  (∃ raw, rawData = .cartesianLow raw) ↔ c.pclDataType = kLivoxLidarCartesianCoordinateLowData

theorem apply_lidarParam {rawData : RawData} {c : UserLivoxLidarConfig ℝ} (h : rawData.Fits c)
    (v : Fin 3 → ℝ) : (lidarParam c).param.detailed.apply rawData.unit v = (motionOf c).act v := by
  have hunit : rawData.unit =
      if c.pclDataType = kLivoxLidarCartesianCoordinateLowData then 100.0 else 1000.0 := by
    unfold RawData.Fits at h
    by_cases hlow : c.pclDataType = kLivoxLidarCartesianCoordinateLowData
    · obtain ⟨raw, rfl⟩ := h.2 hlow
      rw [if_pos hlow]
      rfl
    · rw [if_neg hlow]
      cases rawData with
      | cartesianLow raw => exact absurd (h.1 ⟨raw, rfl⟩) hlow
      | _ => rfl
  have hangles : (lidarParam c).param.roll = c.extrinsicParam.roll ∧
      (lidarParam c).param.pitch = c.extrinsicParam.pitch ∧
      (lidarParam c).param.yaw = c.extrinsicParam.yaw := by
    unfold lidarParam
    dsimp only
    split <;> exact ⟨rfl, rfl, rfl⟩
  obtain ⟨hroll, hpitch, hyaw⟩ := hangles
  have hsin : ∀ x : ℝ, CMath.sin x = Real.sin x := fun _ => rfl
  have hcos : ∀ x : ℝ, CMath.cos x = Real.cos x := fun _ => rfl
  funext r
  rw [apply_row]
  unfold ExtParameter.detailed Motion.act motionOf
  rw [rollPitchYaw_eq, hunit, hroll, hpitch, hyaw]
  fin_cases r <;> simp [hsin, hcos, Matrix.vecHead, Matrix.vecTail] <;> ring

def PointXyzlt.sqDist (p q : PointXyzlt ℝ) : ℝ := (p.xyz - q.xyz) ⬝ᵥ (p.xyz - q.xyz)

@[simp] theorem at_xyz (p : PointXyzlt ℝ) (v : Fin 3 → ℝ) : (p.at v).xyz = v := by
  funext r
  fin_cases r <;> rfl

section

variable {publishFreq : ℚ} {lds : Lds ℝ} {entries : List (ConfigEntry ℝ)} {ts : List (PubTurn ℝ)}
  {s : PubHandler ℝ} {tr : List (PubEvent ℝ)} {handle : UInt32} {packet : RawPacket}
  {extrinsic : ExtParameterDetailed ℝ} {points : List (PointXyzlt ℝ)}

/-- What a packet is decoded to, from its points without parameters. -/
theorem decoded_apply (hts : ∀ t ∈ ts, t.Data)
    (hrun : (PubHandler.setPointCloudConfig publishFreq).run
      ((LdsLidar.initParams lds entries).map .addLidarsExtParam ++ ts) = some (s, tr))
    (hmem : .processed handle packet extrinsic points ∈ tr) :
    ∃ src, packet.plain.pointCloudProcess .default = some src ∧ points = src.map fun p =>
      p.at ((extrinsicOf (LdsLidar.initParams lds entries) handle).apply packet.rawData.unit
        p.xyz) := by
  have hcut := (cut_init publishFreq).run hrun
  rw [List.nil_append] at hcut
  obtain ⟨hextrinsic, hplain⟩ := decoded_run hts hrun _ _ _ _ hmem
  obtain ⟨-, hpoints⟩ := hcut.decoded _ _ _ _ hmem
  rw [hextrinsic, pointCloudProcess_apply hplain _ .default] at hpoints
  obtain ⟨src, hsrc, heq⟩ := Option.map_eq_some_iff.1 hpoints
  exact ⟨src, hsrc, heq.symm⟩

end

/-- **The points of a LiDAR of the file are moved rigidly** if they are of the kind that its last entry
asks for: each to where the entry puts it, and by the same motion for as long as the driver runs. The
distances between the points of a packet are those that the LiDAR measured. -/
theorem decoded_moved (publishFreq : ℚ) (lds : Lds ℝ) (entries : List (ConfigEntry ℝ))
    (ts : List (PubTurn ℝ)) (s : PubHandler ℝ) (tr : List (PubEvent ℝ)) (handle : UInt32)
    (i : Index) (c : UserLivoxLidarConfig ℝ) (hts : ∀ t ∈ ts, t.Data)
    (hrun : (PubHandler.setPointCloudConfig publishFreq).run
      ((LdsLidar.initParams lds entries).map .addLidarsExtParam ++ ts) = some (s, tr))
    (hplace : (LdsLidar.init lds entries).getLidarDevice handle = some i)
    (hentry : entryOf (parseUserConfigs entries) handle = some c) :
    ∀ packet extrinsic points, .processed handle packet extrinsic points ∈ tr →
      packet.rawData.Fits c → ∃ src, packet.plain.pointCloudProcess .default = some src ∧
        points = src.map (fun p => p.at ((motionOf c).act p.xyz)) ∧
        ∀ p ∈ src, ∀ q ∈ src,
          (p.at ((motionOf c).act p.xyz)).sqDist (q.at ((motionOf c).act q.xyz)) = p.sqDist q := by
  intro packet extrinsic points hmem hfits
  obtain ⟨src, hsrc, hpoints⟩ := decoded_apply hts hrun hmem
  have hparam : paramOf (LdsLidar.initParams lds entries) handle = some (lidarParam c) := by
    have hplaced := (granted_init lds entries).placed handle i hplace
    rwa [hentry] at hplaced
  refine ⟨src, hsrc, ?_, fun p _ q _ => ?_⟩
  · rw [hpoints]
    simp [extrinsicOf, hparam, apply_lidarParam hfits]
  · unfold PointXyzlt.sqDist
    rw [at_xyz, at_xyz]
    exact (motionOf c).act_sub_dotProduct p.xyz q.xyz

/-- **The points of any other LiDAR are sheared**: the initializer of its parameters has a 1 beside the
diagonal, so that the height of a point is added to its `y`. The distance of two points is kept only
where this does not show. -/
theorem decoded_sheared (publishFreq : ℚ) (lds : Lds ℝ) (entries : List (ConfigEntry ℝ))
    (ts : List (PubTurn ℝ)) (s : PubHandler ℝ) (tr : List (PubEvent ℝ)) (handle : UInt32)
    (hts : ∀ t ∈ ts, t.Data)
    (hrun : (PubHandler.setPointCloudConfig publishFreq).run
      ((LdsLidar.initParams lds entries).map .addLidarsExtParam ++ ts) = some (s, tr))
    (hplace : (LdsLidar.init lds entries).getLidarDevice handle = none) :
    ∀ packet extrinsic points, .processed handle packet extrinsic points ∈ tr →
      ∃ src, packet.plain.pointCloudProcess .default = some src ∧
        points = src.map (fun p => { p with y := p.y + p.z }) ∧
        ∀ p ∈ src, ∀ q ∈ src,
          (PointXyzlt.sqDist { p with y := p.y + p.z } { q with y := q.y + q.z } = p.sqDist q ↔
            p.z = q.z ∨ p.z - q.z = -2 * (p.y - q.y)) := by
  intro packet extrinsic points hmem
  obtain ⟨src, hsrc, hpoints⟩ := decoded_apply hts hrun hmem
  have hparam : paramOf (LdsLidar.initParams lds entries) handle = none :=
    (granted_init lds entries).unplaced handle hplace
  refine ⟨src, hsrc, ?_, fun p _ q _ => ?_⟩
  · rw [hpoints]
    congr 1
    funext p
    simp [extrinsicOf, hparam, apply_row, ExtParameterDetailed.default, PointXyzlt.at,
      PointXyzlt.xyz, Matrix.vecHead, Matrix.vecTail]
  · have hdist : ∀ a b : PointXyzlt ℝ,
        a.sqDist b = (a.x - b.x) ^ 2 + (a.y - b.y) ^ 2 + (a.z - b.z) ^ 2 := by
      intro a b
      simp [PointXyzlt.sqDist, PointXyzlt.xyz, dotProduct, Fin.sum_univ_three]
      ring
    rw [hdist, hdist]
    constructor
    · intro h
      have hfactor : (p.z - q.z) * (p.z - q.z + 2 * (p.y - q.y)) = 0 := by
        dsimp only at h
        linarith
      rcases mul_eq_zero.1 hfactor with hz | hz
      · exact .inl (sub_eq_zero.1 hz)
      · exact .inr (by linarith)
    · rintro (hz | hz)
      · simp [hz]
      · have hy : p.y + p.z - (q.y + q.z) = -(p.y - q.y) := by linarith
        simp only [hy]
        ring

/-! A run with the LiDAR 1 in the file and the LiDAR 2 beside it. -/

noncomputable def realEntry : ConfigEntry ℝ := { ip := some 1, pclDataType := some 1 }

noncomputable def realDevice : LidarDevice ℝ where
  lidarType := kLivoxLidarType
  handle := 0
  connectState := .off
  data := {}
  livoxConfig :=
    { handle := 0, pclDataType := -1, patternMode := -1, blindSpotSet := -1, dualEmitEn := -1
      extrinsicParam := { roll := 0, pitch := 0, yaw := 0, x := 0, y := 0, z := 0 }
      setBits := 0 }

noncomputable def realLds : Lds ℝ := { lidars := fun _ => realDevice, publishFreq := 10 }

def realTurns : List (PubTurn ℝ) :=
  [.receive 1 .mid360 (packetAt 0) 0, .receive 2 .mid360 (packetAt 0) 0, .process 0, .process 0]

theorem realRun_isSome : ((PubHandler.setPointCloudConfig 10).run
    ((LdsLidar.initParams realLds [realEntry]).map .addLidarsExtParam ++ realTurns)).isSome := by
  apply (safe_init (by norm_num : (1 / 2 : ℚ) ≤ 10) (by norm_num) [1, 2]).run (by decide)
  intro t ht
  rcases List.mem_append.1 ht with ht | ht
  · obtain ⟨p, -, rfl⟩ := List.mem_map.1 ht
    trivial
  · simp only [realTurns, List.mem_cons, List.not_mem_nil, or_false] at ht
    rcases ht with rfl | rfl | rfl | rfl <;>
      simp [PubTurn.Fair, EthernetPacket.Whole, packetAt, RawData.count]

noncomputable def realRun : PubHandler ℝ × List (PubEvent ℝ) :=
  ((PubHandler.setPointCloudConfig 10).run
    ((LdsLidar.initParams realLds [realEntry]).map .addLidarsExtParam ++ realTurns)).get
      realRun_isSome

theorem realTurns_data : ∀ t ∈ realTurns, t.Data := by
  simp [realTurns, PubTurn.Data]

/-- The packet that a LiDAR sends. -/
def realPacket (handle : UInt32) : RawPacket :=
  (rawPacket handle .mid360 (packetAt 0) 0).get rfl

/-- Both packets are decoded. -/
theorem realRun_processed (handle : UInt32) (h : realPacket handle ∈ processedIn realRun.2) :
    ∃ extrinsic points, .processed handle (realPacket handle) extrinsic points ∈ realRun.2 := by
  have hcut := (cut_init 10).run (Option.some_get realRun_isSome).symm
  rw [List.nil_append] at hcut
  obtain ⟨e, he, hpacket⟩ := List.mem_filterMap.1 h
  cases e with
  | processed id packet extrinsic points =>
    cases hpacket
    obtain ⟨rfl, -⟩ := hcut.decoded _ _ _ _ he
    exact ⟨extrinsic, points, he⟩
  | received packet | frame frame => cases hpacket

theorem decoded_moved_one :
    let c := (parseUserConfig realEntry).get rfl
    ∃ packet extrinsic points src, .processed 1 packet extrinsic points ∈ realRun.2 ∧
      packet.plain.pointCloudProcess .default = some src ∧
      points = src.map (fun p => p.at ((motionOf c).act p.xyz)) ∧
      ∀ p ∈ src, ∀ q ∈ src,
        (p.at ((motionOf c).act p.xyz)).sqDist (q.at ((motionOf c).act q.xyz)) = p.sqDist q := by
  intro c
  obtain ⟨extrinsic, points, hmem⟩ := realRun_processed 1 (by decide +kernel)
  have hhigh : c.pclDataType ≠ kLivoxLidarCartesianCoordinateLowData := by decide +kernel
  have hfits : (realPacket 1).rawData.Fits c :=
    ⟨fun ⟨_, hlow⟩ => (nomatch hlow), fun hlow => absurd hlow hhigh⟩
  obtain ⟨src, hsrc⟩ := decoded_moved 10 realLds [realEntry] realTurns realRun.1 realRun.2 1 0 c
    realTurns_data (Option.some_get _).symm rfl rfl _ extrinsic points hmem hfits
  exact ⟨_, extrinsic, points, src, hmem, hsrc⟩

theorem decoded_sheared_one :
    ∃ packet extrinsic points src, .processed 2 packet extrinsic points ∈ realRun.2 ∧
      packet.plain.pointCloudProcess .default = some src ∧
      points = src.map (fun p => { p with y := p.y + p.z }) ∧
      ∀ p ∈ src, ∀ q ∈ src,
        (PointXyzlt.sqDist { p with y := p.y + p.z } { q with y := q.y + q.z } = p.sqDist q ↔
          p.z = q.z ∨ p.z - q.z = -2 * (p.y - q.y)) := by
  obtain ⟨extrinsic, points, hmem⟩ := realRun_processed 2 (by decide +kernel)
  obtain ⟨src, hsrc⟩ := decoded_sheared 10 realLds [realEntry] realTurns realRun.1 realRun.2 2
    realTurns_data (Option.some_get _).symm rfl _ extrinsic points hmem
  exact ⟨_, extrinsic, points, src, hmem, hsrc⟩

end Livox
