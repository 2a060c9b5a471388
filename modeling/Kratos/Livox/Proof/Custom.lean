import Kratos.Livox.Proof.Messages

/-!
# Custom messages

A `CustomMsg` has the time of its first point, and of each point 32 bits of what has passed since
then. Reading it back (`CustomMsg.read`) gives each point but for its time, and its time too if that
is less than `2 ^ 32` nanoseconds after the first (`sent_custom`). The intensity comes back because
decoding made it of a byte (`decoded_point`).
-/

namespace Livox

variable {F : Type}

/-! ## What decoding gives -/

/-- A point of a packet is made of its `i`-th record. -/
def RawPacket.Made [CMath F] (pkt : RawPacket) (i : Nat) (p : PointXyzlt F) : Prop :=
  ∃ xyz reflectivity tag, p = pkt.point i xyz reflectivity tag

theorem mapM_getD {A B : Type} {g : A → Option (List B)} {l : List A} {ys : List (List B)}
    (h : l.mapM g = some ys) : ys = l.map fun a => (g a).getD [] := by
  induction l generalizing ys with
  | nil =>
    cases h
    rfl
  | cons a l ih =>
    rw [List.mapM_cons] at h
    obtain ⟨y, hy, h⟩ := Option.bind_eq_some_iff.1 h
    obtain ⟨zs, hzs, h⟩ := Option.bind_eq_some_iff.1 h
    cases h
    rw [List.map_cons, hy, ← ih hzs]
    rfl

theorem forEach_eq {R : Type} {pkt : RawPacket} {raw : List R}
    {turn : Nat → R → List (PointXyzlt F)} {points : List (PointXyzlt F)}
    (h : pkt.forEach raw turn = some points) :
    points =
      (List.range pkt.pointNum.toNat).flatMap fun i => ((pkt.record raw i).map (turn i)).getD [] := by
  obtain ⟨ys, hys, rfl⟩ := Option.map_eq_some_iff.1 h
  rw [mapM_getD hys, List.flatMap_def]

/-- The points of a packet come record by record. -/
theorem pointCloudProcess_made [CMath F] {pkt : RawPacket} {extrinsic : ExtParameterDetailed F}
    {points : List (PointXyzlt F)} (h : pkt.pointCloudProcess extrinsic = some points) :
    ∃ f : Nat → List (PointXyzlt F), points = (List.range pkt.pointNum.toNat).flatMap f ∧
      ∀ i, ∀ p ∈ f i, pkt.Made i p := by
  have hmade : ∀ {R : Type} (raw : List R) (turn : Nat → R → List (PointXyzlt F)),
      (∀ i r, ∀ p ∈ turn i r, pkt.Made i p) →
        ∀ i, ∀ p ∈ ((pkt.record raw i).map (turn i)).getD [], pkt.Made i p := by
    intro R raw turn hturn i p hp
    cases hr : pkt.record raw i with
    | none => simp [hr] at hp
    | some r =>
      rw [hr] at hp
      exact hturn i r p hp
  have hone : ∀ (i : Nat) (xyz : F × F × F) (reflectivity tag : UInt8),
      ∀ p ∈ [pkt.point i xyz reflectivity tag], pkt.Made i p := fun i xyz reflectivity tag p hp =>
    ⟨xyz, reflectivity, tag, List.mem_singleton.1 hp⟩
  unfold RawPacket.pointCloudProcess at h
  split at h
  · exact ⟨_, forEach_eq h, hmade _ _ fun i r => hone i _ _ _⟩
  · exact ⟨_, forEach_eq h, hmade _ _ fun i r => hone i _ _ _⟩
  · exact ⟨_, forEach_eq h, hmade _ _ fun i r => hone i _ _ _⟩
  · refine ⟨_, forEach_eq h, hmade _ _ fun i r p hp => ?_⟩
    rcases List.mem_cons.1 hp with rfl | hp
    · exact ⟨_, _, _, rfl⟩
    · exact hone i _ _ _ p hp
  · cases h
    exact ⟨fun _ => [], by simp, fun _ _ hp => absurd hp List.not_mem_nil⟩
  · cases h
    exact ⟨fun _ => [], by simp, fun _ _ hp => absurd hp List.not_mem_nil⟩

/-- A point that was decoded has a byte's intensity. -/
theorem decoded_intensity [CMath F] {s : PubHandler F} {tr : List (PubEvent F)} (hcut : Cut s tr)
    {handle : UInt32} : ∀ p ∈ decodedIn handle tr, ∃ r : UInt8, p.intensity = CMath.ofInt r.toNat := by
  intro p hp
  obtain ⟨e, he, hp⟩ := List.mem_flatMap.1 hp
  cases e with
  | processed id packet extrinsic points =>
    obtain ⟨-, hpoints⟩ := hcut.decoded id packet extrinsic points he
    have hmem : p ∈ points := by
      simp only [PubEvent.decodedAt] at hp
      split at hp
      · exact hp
      · exact absurd hp List.not_mem_nil
    obtain ⟨f, rfl, hmade⟩ := pointCloudProcess_made hpoints
    obtain ⟨i, -, hpi⟩ := List.mem_flatMap.1 hmem
    obtain ⟨xyz, reflectivity, tag, rfl⟩ := hmade i p hpi
    exact ⟨reflectivity, rfl⟩
  | received packet | frame frame => exact absurd hp List.not_mem_nil

/-! ## Reading a message back -/

/-- The point that a reader makes of one in the message. -/
def CustomMsg.read [CMath F] (msg : CustomMsg F) (pt : CustomPoint F) : PointXyzlt F where
  x := pt.x
  y := pt.y
  z := pt.z
  intensity := CMath.ofInt pt.reflectivity.toNat
  tag := pt.tag
  line := pt.line
  offsetTime := msg.timebase + pt.offsetTime.toUInt64

theorem offset_back (base time : UInt64) :
    base + (time - base).toUInt32.toUInt64 = time ↔ (time - base).toNat < 2 ^ 32 := by
  have hback : base + (time - base) = time := by
    rw [UInt64.add_comm, UInt64.sub_add_cancel]
  calc base + (time - base).toUInt32.toUInt64 = time
    _ ↔ base + (time - base).toUInt32.toUInt64 = base + (time - base) := by rw [hback]
    _ ↔ (time - base).toUInt32.toUInt64 = time - base := UInt64.add_right_inj base
    _ ↔ (time - base).toNat % 2 ^ 32 = (time - base).toNat := by
      rw [← UInt64.toNat_inj, UInt32.toNat_toUInt64, UInt64.toNat_toUInt32]
    _ ↔ (time - base).toNat < 2 ^ 32 := by omega

/-- The message has these points, as far as their times fit. -/
structure CarriesCustom [CMath F] (msg : CustomMsg F) (points : List (PointXyzlt F)) : Prop where
  pointNum : msg.pointNum.toNat = points.length
  timebase : ∃ point rest, points = point :: rest ∧ msg.timebase = point.offsetTime
  points : List.Forall₂
    (fun pt p => msg.read pt = { p with offsetTime := (msg.read pt).offsetTime } ∧
      (msg.read pt = p ↔ (p.offsetTime - msg.timebase).toNat < 2 ^ 32))
    msg.points points

/-- A message of these points, at their LiDAR's place. -/
def CustomOf [CMath F] (frameId : String) (m : Sent F) (c : Index × List (PointXyzlt F)) : Prop :=
  m.index = c.1 ∧
    ∃ msg, m.message = .custom msg ∧ CarriesCustom msg c.2 ∧ Stamped msg.header frameId c.2

/-- What holds of the entries of a list holds beside a relation to another list. -/
theorem forall₂_mem {A B : Type} {R : A → B → Prop} {P : A → Prop} {l : List A} {m : List B}
    (h : List.Forall₂ R l m) (hP : ∀ a ∈ l, P a) : List.Forall₂ (fun a b => R a b ∧ P a) l m := by
  induction h with
  | nil => exact .nil
  | cons hab _ ih =>
    obtain ⟨ha, hrest⟩ := List.forall_mem_cons.1 hP
    exact .cons ⟨hab, ha⟩ (ih hrest)

section

variable [CMath F] [Host F] {msg : CustomMsg F} {p : PointXyzlt F}

/-- What comes back of a point whose intensity is a byte's. -/
theorem read_custom (hcast : ∀ r : UInt8, Host.toUInt8 (CMath.ofInt r.toNat : F) = r)
    (hp : ∃ r : UInt8, p.intensity = CMath.ofInt r.toNat) :
    msg.read (p.custom msg.timebase) =
        { p with offsetTime := (msg.read (p.custom msg.timebase)).offsetTime } ∧
      (msg.read (p.custom msg.timebase) = p ↔ (p.offsetTime - msg.timebase).toNat < 2 ^ 32) := by
  obtain ⟨r, hr⟩ := hp
  have hread : msg.read (p.custom msg.timebase) =
      { p with offsetTime := msg.timebase + (p.offsetTime - msg.timebase).toUInt32.toUInt64 } := by
    have hintensity : (CMath.ofInt (Host.toUInt8 p.intensity).toNat : F) = p.intensity := by
      rw [hr, hcast]
    simp [CustomMsg.read, PointXyzlt.custom, hintensity]
  refine ⟨by rw [hread], ?_⟩
  rw [hread, ← offset_back]
  constructor
  · exact fun h => congrArg PointXyzlt.offsetTime h
  · intro h
    rw [h]

/-- The message of a whole packet. -/
theorem messageOf_custom {lddc : Lddc} {d : Driver F} {i : Index} {pkg : StoragePacket F}
    (hcast : ∀ r : UInt8, Host.toUInt8 (CMath.ofInt r.toNat : F) = r)
    (hformat : d.transferFormat = kLivoxCustomMsg) (hpkg : pkg.Whole)
    (hbytes : ∀ p ∈ pkg.points, ∃ r : UInt8, p.intensity = CMath.ofInt r.toNat) :
    ∃ msg, lddc.messageOf d i pkg = .custom msg ∧ CarriesCustom msg pkg.points ∧
      Stamped msg.header lddc.frameId pkg.points := by
  unfold Lddc.messageOf
  rw [hformat, if_neg (by decide)]
  refine ⟨_, rfl, ⟨hpkg.pointsNum, ?_, ?_⟩, hpkg.stamped lddc.frameId⟩
  · obtain ⟨point, rest, hcons, htime⟩ := hpkg.baseTime
    exact ⟨point, rest, hcons, hpkg.timestamp_eq.trans htime⟩
  · rw [List.forall₂_map_left_iff, List.forall₂_same]
    intro p hp
    have hbase : pkg.baseTime = pkg.timestamp := hpkg.timestamp_eq.symm
    rw [hbase]
    exact read_custom hcast (hbytes p hp)

/-- The node on the frames of a run sends messages of decoded points. -/
theorem fed_customs (hcast : ∀ r : UInt8, Host.toUInt8 (CMath.ofInt r.toNat : F) = r)
    {s : PubHandler F} {tr : List (PubEvent F)} (hcut : Cut s tr) (lds : Lds F)
    (entries : List (ConfigEntry F)) (useMultiTopic : Bool) (frameId : String)
    (ts : List NodeTurn) :
    let n := Node.fed lds entries kLivoxCustomMsg tr
    ∃ sent, n.sent { useMultiTopic, outputType := kOutputToRos, frameId } ts = some sent ∧
      List.Forall₂ (CustomOf frameId) sent (carriedIn (dataIn (n.trace ts))) := by
  intro n
  obtain ⟨sent, hsent, hall⟩ := fed_sent hcut lds entries kLivoxCustomMsg useMultiTopic frameId ts
  have hbytes : ∀ e ∈ publications (dataIn (n.trace ts)), ∀ p ∈ e.2.points,
      ∃ r : UInt8, p.intensity = CMath.ofInt r.toNat := fun e he p hp => by
    obtain ⟨handle, hi⟩ := fed_place ts e he
    have hmem := List.mem_flatMap.2 ⟨e.2, mem_publishedIn he, hp⟩
    exact decoded_intensity hcut p ((fed_decoded hcut ts hi).subset hmem)
  refine ⟨sent, hsent, ?_⟩
  unfold carriedIn
  rw [List.forall₂_map_right_iff]
  refine (forall₂_mem hall hbytes).flip.imp fun m e hm => ⟨hm.1.index, ?_⟩
  obtain ⟨d', hd', hmessage⟩ := hm.1.message
  obtain ⟨msg, hmsg, hcarries, hstamped⟩ :=
    messageOf_custom hcast (i := e.1) hd'.transferFormat hm.1.whole hm.2
  exact ⟨msg, hmessage.trans hmsg, hcarries, hstamped⟩

/-- **Custom messages give back decoded points**: all of a point but its time, and its time too if and
only if it is less than `2 ^ 32` nanoseconds after that of the first point. What the messages of a
LiDAR carry was decoded of it, in order and each point at most once. -/
theorem sent_custom (publishFreq : ℚ) (pubTurns : List (PubTurn F)) (s : PubHandler F)
    (tr : List (PubEvent F)) (lds : Lds F) (entries : List (ConfigEntry F)) (useMultiTopic : Bool)
    (frameId : String) (ts : List NodeTurn)
    (hcast : ∀ r : UInt8, Host.toUInt8 (CMath.ofInt r.toNat : F) = r)
    (hrun : (PubHandler.setPointCloudConfig publishFreq).run pubTurns = some (s, tr)) :
    let n := Node.fed lds entries kLivoxCustomMsg tr
    ∃ sent carried,
      n.sent { useMultiTopic, outputType := kOutputToRos, frameId } ts = some sent ∧
      List.Forall₂ (CustomOf frameId) sent carried ∧
      ∀ handle i, (n.run ts).ldsLidar.getLidarDevice handle = some i →
        ((carried.filter fun c => c.1 = i).flatMap Prod.snd).Sublist (decodedIn handle tr) := by
  intro n
  have hcut := (cut_init publishFreq).run hrun
  rw [List.nil_append] at hcut
  obtain ⟨sent, hsent, hall⟩ := fed_customs hcast hcut lds entries useMultiTopic frameId ts
  refine ⟨sent, carriedIn (dataIn (n.trace ts)), hsent, hall, fun handle i hi => ?_⟩
  rw [carriedIn_at]
  exact fed_decoded hcut ts hi

end

theorem toUInt8_ofInt (r : UInt8) : Host.toUInt8 (CMath.ofInt r.toNat : ℚ) = r := by
  show UInt8.ofNat (((r.toNat : ℤ) : ℚ).num.natAbs) = r
  simp

/-- The points ahead. -/
theorem sent_custom_ahead :
    let n := Node.fed oneLds [oneEntry] kLivoxCustomMsg ahead.2
    ∃ sent carried, n.sent
        { useMultiTopic := false, outputType := kOutputToRos, frameId := "livox_frame" } aheadTurns =
          some sent ∧
      List.Forall₂ (CustomOf "livox_frame") sent carried ∧
      ∀ handle i, (n.run aheadTurns).ldsLidar.getLidarDevice handle = some i →
        ((carried.filter fun c => c.1 = i).flatMap Prod.snd).Sublist (decodedIn handle ahead.2) :=
  sent_custom 100 _ ahead.1 ahead.2 oneLds [oneEntry] false "livox_frame" aheadTurns
    toUInt8_ofInt (Option.some_get _).symm

end Livox
