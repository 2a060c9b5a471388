import Kratos.Livox.Proof.Custom
import Kratos.Livox.Proof.Slices

/-!
# Custom messages with time synchronization

Where the packets of a LiDAR are timely (`Slices.lean`), its points ascend in time: those of a packet
span at most 6553500 nanoseconds, so `offset_time` wraps in a packet only if it ends before it begins.
A frame is then shorter than two intervals, which `2 ^ 32` nanoseconds have room for, and reading a
custom message gives back its points with their times (`custom_lossless`).
-/

namespace Livox

variable {F : Type} {tr : List (PubEvent F)} {id : UInt32}

/-! ## Times that ascend -/

def timesOf (points : List (PointXyzlt F)) : List Nat :=
  points.map fun point => point.offsetTime.toNat

theorem firstTime_eq (points : List (PointXyzlt F)) :
    firstTime points = (timesOf points).head?.getD 0 := by
  simp [firstTime, timesOf]

theorem lastTime_eq (points : List (PointXyzlt F)) :
    lastTime points = (timesOf points).getLast?.getD 0 := by
  simp [lastTime, timesOf]

/-- The time of a point is between the first and the last. -/
theorem time_bounds {points : List (PointXyzlt F)} (h : (timesOf points).Pairwise (· ≤ ·))
    {p : PointXyzlt F} (hp : p ∈ points) :
    firstTime points ≤ p.offsetTime.toNat ∧ p.offsetTime.toNat ≤ lastTime points := by
  have hmem : p.offsetTime.toNat ∈ timesOf points := List.mem_map_of_mem hp
  have hne := List.ne_nil_of_mem hmem
  rw [firstTime_eq, lastTime_eq, List.head?_eq_some_head hne, List.getLast?_eq_some_getLast hne]
  exact ⟨h.rel_head hmem, h.rel_getLast hmem⟩

/-- Numbers that ascend over less than `M` ascend modulo `M` if the last is not below the first. -/
theorem ascends_mod {times : List Nat} {M first last : Nat} (h : times.Pairwise (· ≤ ·))
    (hfirst : times.head? = some first) (hlast : times.getLast? = some last)
    (hspan : last < first + M) (hends : first % M ≤ last % M) :
    (times.map (· % M)).Pairwise (· ≤ ·) := by
  have hbounds : ∀ x ∈ times, first ≤ x ∧ x ≤ last := fun x hx => by
    have hne := List.ne_nil_of_mem hx
    rw [List.head?_eq_some_head hne, Option.some_inj] at hfirst
    rw [List.getLast?_eq_some_getLast hne, Option.some_inj] at hlast
    exact ⟨hfirst ▸ h.rel_head hx, hlast ▸ h.rel_getLast hx⟩
  have hdiv := Nat.div_add_mod first M
  have hdiv' := Nat.div_add_mod last M
  -- first and last have wrapped equally often
  have hwrap : last / M ≤ first / M := by
    by_contra hlt
    have hmul := Nat.mul_le_mul_left M (Nat.succ_le_of_lt (not_le.1 hlt))
    rw [Nat.mul_succ] at hmul
    omega
  rw [List.pairwise_map]
  refine h.imp_of_mem fun {x y} hx hy hxy => ?_
  have hfx : first / M ≤ x / M := Nat.div_le_div_right (hbounds x hx).1
  have hxy' : x / M ≤ y / M := Nat.div_le_div_right hxy
  have hyl : y / M ≤ last / M := Nat.div_le_div_right (hbounds y hy).2
  have heq : x / M = y / M := by omega
  have hdivx := Nat.div_add_mod x M
  have hdivy := Nat.div_add_mod y M
  rw [heq] at hdivx
  omega

/-! ## The packets that come -/

/-- The times of a packet are at most so far apart. -/
def RawPacket.Small (pkt : RawPacket) : Prop :=
  pkt.pointNum.toNat * pkt.pointInterval.toNat ≤ 6553500

theorem rawPacket_small {handle : UInt32} {devType : DeviceType} {data : EthernetPacket}
    {now : UInt64} {packet : RawPacket} (h : rawPacket handle devType data now = some packet) :
    packet.Small := by
  unfold rawPacket at h
  split at h
  · cases h
  cases h
  unfold RawPacket.Small
  dsimp only
  have hinterval : (UInt64.ofNat (data.timeInterval.toNat * 100 / data.dotNum.toNat)).toNat ≤
      data.timeInterval.toNat * 100 / data.dotNum.toNat := by
    rw [UInt64.toNat_ofNat']
    exact Nat.mod_le _ _
  have hlt := data.timeInterval.toNat_lt
  calc data.dotNum.toUInt32.toNat *
        (UInt64.ofNat (data.timeInterval.toNat * 100 / data.dotNum.toNat)).toNat
      ≤ data.dotNum.toNat * (data.timeInterval.toNat * 100 / data.dotNum.toNat) :=
        Nat.mul_le_mul_left _ hinterval
    _ ≤ data.timeInterval.toNat * 100 := Nat.mul_div_le _ _
    _ ≤ 6553500 := by omega

variable [CMath F]

theorem turn_small {s s' : PubHandler F} {t : PubTurn F} {evs : List (PubEvent F)}
    (hturn : s.turn t = some (s', evs)) : ∀ packet ∈ receivedIn evs, packet.Small := by
  cases t with
  | process clock =>
    rcases rawDataProcess_cases hturn with ⟨-, -, rfl⟩ |
      ⟨rawData, rest, points, c, frame, s₁, -, -, -, -, -, rfl⟩
    · simp [receivedIn]
    · cases frame <;> simp [receivedIn, PubEvent.received?]
  | receive handle devType data clock =>
    unfold PubHandler.turn at hturn
    dsimp only at hturn
    split at hturn
    · cases hturn
      simp [receivedIn]
    · obtain ⟨packet, hpacket, heq⟩ := Option.map_eq_some_iff.1 hturn
      cases heq
      simpa [receivedIn, PubEvent.received?] using rawPacket_small hpacket
  | sync timeType | addLidarsExtParam lidarParam | clearAllLidarsExtrinsicParams =>
    cases hturn
    simp [receivedIn]

theorem run_small {s s' : PubHandler F} {ts : List (PubTurn F)} (hrun : s.run ts = some (s', tr)) :
    ∀ packet ∈ receivedIn tr, packet.Small := by
  induction ts generalizing s tr with
  | nil =>
    cases hrun
    simp [receivedIn]
  | cons t ts ih =>
    obtain ⟨⟨s₁, evs₁⟩, hturn, hrun⟩ := Option.bind_eq_some_iff.1 hrun
    obtain ⟨⟨s₂, evs₂⟩, hrest, hrun⟩ := Option.bind_eq_some_iff.1 hrun
    cases hrun
    rw [receivedIn_append]
    exact fun packet hp => (List.mem_append.1 hp).elim (turn_small hturn packet) (ih hrest packet)

/-! ## The points that are decoded -/

/-- The times of a packet ascend if it does not end before it begins. -/
theorem pointCloudProcess_ascends {pkt : RawPacket} {extrinsic : ExtParameterDetailed F}
    {points : List (PointXyzlt F)} (h : pkt.pointCloudProcess extrinsic = some points)
    (hsmall : pkt.Small) (hle : firstTime points ≤ lastTime points) :
    (timesOf points).Pairwise (· ≤ ·) := by
  obtain ⟨f, hpoints, hmade⟩ := pointCloudProcess_made h
  -- the times before they wrap
  let time : Nat → Nat := fun i => pkt.timeStamp.toNat + i * pkt.pointInterval.toNat
  let times := (List.range pkt.pointNum.toNat).flatMap fun i => (f i).map fun _ => time i
  have hwrapped : timesOf points = times.map (· % 2 ^ 64) := by
    unfold timesOf
    rw [hpoints, List.map_flatMap, List.map_flatMap]
    refine List.flatMap_congr fun i _ => ?_
    rw [List.map_map]
    refine List.map_congr_left fun p hp => ?_
    obtain ⟨xyz, reflectivity, tag, rfl⟩ := hmade i p hp
    simp [RawPacket.point, time]
  have hasc : times.Pairwise (· ≤ ·) := by
    refine List.pairwise_flatMap.2 ⟨fun i _ => ?_, ?_⟩
    · exact List.pairwise_map.2 (List.pairwise_of_forall fun _ _ => le_rfl)
    · refine List.pairwise_lt_range.imp fun hij x hx y hy => ?_
      obtain ⟨-, -, rfl⟩ := List.mem_map.1 hx
      obtain ⟨-, -, rfl⟩ := List.mem_map.1 hy
      exact Nat.add_le_add_left (Nat.mul_le_mul_right _ hij.le) _
  have hspan : ∀ x ∈ times, pkt.timeStamp.toNat ≤ x ∧ x ≤ pkt.timeStamp.toNat + 6553500 := by
    intro x hx
    obtain ⟨i, hi, hx⟩ := List.mem_flatMap.1 hx
    obtain ⟨-, -, rfl⟩ := List.mem_map.1 hx
    have hi' := Nat.mul_le_mul_right pkt.pointInterval.toNat (List.mem_range.1 hi).le
    unfold RawPacket.Small at hsmall
    dsimp only [time]
    omega
  rw [hwrapped]
  by_cases hnil : times = []
  · rw [hnil]
    exact .nil
  · rw [firstTime_eq, lastTime_eq, hwrapped, List.head?_map, List.getLast?_map,
      List.head?_eq_some_head hnil, List.getLast?_eq_some_getLast hnil] at hle
    have hfirst := (hspan _ (List.head_mem hnil)).1
    have hlast := (hspan _ (List.getLast_mem hnil)).2
    exact ascends_mod hasc (List.head?_eq_some_head hnil) (List.getLast?_eq_some_getLast hnil)
      (by omega) hle

omit [CMath F] in
theorem decodedIn_eq (id : UInt32) (tr : List (PubEvent F)) :
    decodedIn id tr = (packetsIn id tr).flatten := by
  induction tr with
  | nil => rfl
  | cons e tr ih =>
    unfold decodedIn packetsIn at ih ⊢
    cases e with
    | processed j packet extrinsic points =>
      by_cases hj : j = id <;>
        simp [PubEvent.decodedAt, PubEvent.decodedAt?, hj, ih]
    | received packet | frame frame =>
      simpa [PubEvent.decodedAt, PubEvent.decodedAt?, List.filterMap_cons] using ih

/-- The times of a LiDAR's points ascend. -/
theorem decoded_ascends {s : PubHandler F} {g now : Nat} (hcut : Cut s tr)
    (hsmall : ∀ packet ∈ receivedIn tr, packet.Small) (htimely : Timely g now (packetsIn id tr)) :
    (timesOf (decodedIn id tr)).Pairwise (· ≤ ·) := by
  obtain ⟨hspans, hpairs⟩ := htimely.2.ordered
  have hpacket : ∀ points ∈ packetsIn id tr, (timesOf points).Pairwise (· ≤ ·) := by
    intro points hpoints
    have hle := (hspans _ (List.mem_map_of_mem hpoints)).2
    obtain ⟨e, he, hdecoded⟩ := List.mem_filterMap.1 hpoints
    cases e with
    | processed j packet extrinsic points' =>
      simp only [PubEvent.decodedAt?] at hdecoded
      split at hdecoded
      · cases hdecoded
        have hprocessed : packet ∈ processedIn tr := List.mem_filterMap.2 ⟨_, he, rfl⟩
        have hreceived : packet ∈ receivedIn tr := hcut.queue ▸ List.mem_append_left _ hprocessed
        exact pointCloudProcess_ascends (hcut.decoded _ _ _ _ he).2 (hsmall packet hreceived) hle
      · cases hdecoded
    | received packet | frame frame => cases hdecoded
  rw [decodedIn_eq, timesOf, List.map_flatten, List.pairwise_flatten]
  refine ⟨fun times htimes => ?_, ?_⟩
  · obtain ⟨points, hpoints, rfl⟩ := List.mem_map.1 htimes
    exact hpacket points hpoints
  · rw [List.pairwise_map]
    refine (List.pairwise_map.1 hpairs).imp_of_mem fun {l l'} hl hl' hle x hx y hy => ?_
    obtain ⟨p, hp, rfl⟩ := List.mem_map.1 hx
    obtain ⟨p', hp', rfl⟩ := List.mem_map.1 hy
    calc p.offsetTime.toNat ≤ lastTime l := (time_bounds (hpacket l hl) hp).2
      _ ≤ firstTime l' := hle
      _ ≤ p'.offsetTime.toNat := (time_bounds (hpacket l' hl') hp').1

/-! ## What is published -/

/-- What is published at a LiDAR's place are packets of its frames. -/
theorem fed_entry {lds : Lds F} {entries : List (ConfigEntry F)} {transferFormat : UInt8}
    {handle : UInt32} {i : Index} (ts : List NodeTurn)
    (hi : ((Node.fed lds entries transferFormat tr).run ts).ldsLidar.getLidarDevice handle = some i) :
    ∀ pkg ∈ publishedIn i (dataIn ((Node.fed lds entries transferFormat tr).trace ts)),
      ∃ entry ∈ framesIn tr, entry.2.handle = handle ∧ pkg = packetOf entry := by
  obtain ⟨d, hcache, hplaced, -, hthreads⟩ := fed_threads lds entries transferFormat tr ts
  obtain ⟨hhandled, q, hfeed⟩ := hthreads i
  have hplace : d.lds.cacheIndex.getIndex kLivoxLidarType handle = some i := hcache ▸ hi
  intro pkg hpkg
  have hmem := (hhandled.published hfeed).subset hpkg
  rw [flatten_onLidarPointClounCb] at hmem
  obtain ⟨entry, hentry, rfl⟩ := List.mem_map.1 hmem
  obtain ⟨hframe, hat⟩ := List.mem_filter.1 hentry
  exact ⟨entry, hframe, hplaced.getIndex_inj (of_decide_eq_true hat) hplace, rfl⟩

/-- No point comes `2 ^ 32` nanoseconds after the first. -/
def Near (points : List (PointXyzlt F)) : Prop :=
  ∀ first, points.head? = some first → ∀ p ∈ points,
    (p.offsetTime - first.offsetTime).toNat < 2 ^ 32

/-- The points of a frame's packet are near. -/
theorem entry_near {publishFreq : ℚ} {ts : List (PubTurn F)} {s : PubHandler F} {g now : Nat}
    (hlow : 1 / 2 ≤ publishFreq) (hhigh : publishFreq ≤ 100) (hgap : 2 * g ≤ msToNs)
    (hsync : ∀ timeType, .sync timeType ∈ ts → timeType ≠ kTimestampTypeNoSync)
    (hrun : (PubHandler.setPointCloudConfig publishFreq).run (.sync kTimestampTypeGptpOrPtp :: ts) =
      some (s, tr))
    (htimely : Timely g now (packetsIn id tr)) {entry : UInt64 × PointPacket F}
    (hentry : entry ∈ framesIn tr) (hid : entry.2.handle = id) : Near entry.2.points := by
  have hcut := (cut_init publishFreq).run hrun
  rw [List.nil_append] at hcut
  have hmem : entry ∈ (framesIn tr).filter fun e => decide (e.2.handle = id) :=
    List.mem_filter.2 ⟨hentry, decide_eq_true hid⟩
  have hsub : entry.2.points.Sublist (decodedIn id tr) := by
    have hin := List.mem_map_of_mem (f := fun e : UInt64 × PointPacket F => e.2.points) hmem
    rw [← hcut.conserved id, PointFrame.pointsOf, List.flatMap_def]
    exact (List.sublist_flatten_of_mem hin).trans (List.sublist_append_left _ _)
  have hasc : (timesOf entry.2.points).Pairwise (· ≤ ·) :=
    (decoded_ascends hcut (run_small hrun) htimely).sublist (hsub.map _)
  have hpiece : (firstTime entry.2.points, lastTime entry.2.points) ∈ piecesIn id tr :=
    List.mem_map_of_mem hmem
  have hshort := (pieces_short hlow hhigh hgap hsync hrun htimely _ hpiece).2
  have hinterval := (publishIntervalOf_toNat hlow hhigh).2
  intro first hfirst p hp
  have htime : first.offsetTime.toNat = firstTime entry.2.points := by simp [firstTime, hfirst]
  obtain ⟨hle, hlast⟩ := time_bounds hasc hp
  rw [UInt64.toNat_sub_of_le _ _ (by rw [UInt64.le_iff_toNat_le, htime]; exact hle), htime]
  omega

omit [CMath F] in
theorem Near.packetOf {entry : UInt64 × PointPacket F} (h : Near entry.2.points) :
    Near (packetOf entry).points := by
  intro first hfirst p hp
  unfold Livox.packetOf at hfirst hp
  rw [List.head?_take] at hfirst
  split at hfirst
  · cases hfirst
  · exact h first hfirst p (List.mem_of_mem_take hp)

/-- A message whose points are near gives them back. -/
theorem CarriesCustom.read_all {msg : CustomMsg F} {points : List (PointXyzlt F)}
    (h : CarriesCustom msg points) (hnear : Near points) : msg.points.map msg.read = points := by
  obtain ⟨first, rest, hcons, htime⟩ := h.timebase
  have hfirst : ∀ p ∈ points, (p.offsetTime - msg.timebase).toNat < 2 ^ 32 :=
    htime ▸ hnear first (by rw [hcons]; rfl)
  have hback : List.Forall₂ (fun p pt => p = msg.read pt) points msg.points :=
    (forall₂_mem h.points.flip hfirst).imp fun p pt hp => (hp.1.2.2 hp.2).symm
  rw [← List.forall₂_map_right_iff, List.forall₂_eq_eq_eq] at hback
  exact hback.symm

/-- **With time synchronization custom messages lose nothing**: where a LiDAR's packets are timely,
reading its messages gives back points that were decoded of it, with their times, in order and each
at most once. -/
theorem custom_lossless [Host F] (publishFreq : ℚ) (pubTurns : List (PubTurn F)) (s : PubHandler F)
    (tr : List (PubEvent F)) (lds : Lds F) (entries : List (ConfigEntry F)) (useMultiTopic : Bool)
    (frameId : String) (ts : List NodeTurn) (handle : UInt32) (i : Index) (g now : Nat)
    (hcast : ∀ r : UInt8, Host.toUInt8 (CMath.ofInt r.toNat : F) = r)
    (hlow : 1 / 2 ≤ publishFreq) (hhigh : publishFreq ≤ 100) (hgap : 2 * g ≤ msToNs)
    (hsync : ∀ timeType, .sync timeType ∈ pubTurns → timeType ≠ kTimestampTypeNoSync)
    (hrun : (PubHandler.setPointCloudConfig publishFreq).run
      (.sync kTimestampTypeGptpOrPtp :: pubTurns) = some (s, tr))
    (htimely : Timely g now (packetsIn handle tr))
    (hi : ((Node.fed lds entries kLivoxCustomMsg tr).run ts).ldsLidar.getLidarDevice handle =
      some i) :
    ∃ sent clouds,
      (Node.fed lds entries kLivoxCustomMsg tr).sent
        { useMultiTopic, outputType := kOutputToRos, frameId } ts = some sent ∧
      List.Forall₂ (fun m points => ∃ msg, m.message = .custom msg ∧ msg.points.map msg.read = points)
        (sent.filter fun m => m.index = i) clouds ∧
      clouds.flatten.Sublist (decodedIn handle tr) := by
  have hcut := (cut_init publishFreq).run hrun
  rw [List.nil_append] at hcut
  obtain ⟨sent, hsent, hall⟩ := fed_customs hcast hcut lds entries useMultiTopic frameId ts
  generalize htrace : dataIn ((Node.fed lds entries kLivoxCustomMsg tr).trace ts) = events at hall
  have hnear : ∀ c ∈ (carriedIn events).filter fun c => c.1 = i, Near c.2 := by
    intro c hc
    obtain ⟨hc, hplace⟩ := List.mem_filter.1 hc
    obtain ⟨e, he, rfl⟩ := List.mem_map.1 hc
    have hpublished : e.2 ∈ publishedIn i events := of_decide_eq_true hplace ▸ mem_publishedIn he
    rw [← htrace] at hpublished
    obtain ⟨entry, hentry, hid, heq⟩ := fed_entry ts hi e.2 hpublished
    have hentryNear := entry_near hlow hhigh hgap hsync hrun htimely hentry hid
    exact heq ▸ hentryNear.packetOf
  have hat : List.Forall₂ (CustomOf frameId) (sent.filter fun m => m.index = i)
      ((carriedIn events).filter fun c => c.1 = i) :=
    List.rel_filter (fun m c hm => by simp [hm.1]) hall
  refine ⟨sent, ((carriedIn events).filter fun c => c.1 = i).map Prod.snd, hsent, ?_, ?_⟩
  · rw [List.forall₂_map_right_iff]
    refine ((forall₂_mem hat.flip hnear).imp fun c m hm => ?_).flip
    obtain ⟨⟨-, msg, hmsg, hcarries, -⟩, hclose⟩ := hm
    exact ⟨msg, hmsg, hcarries.read_all hclose⟩
  · rw [← List.flatMap_def, carriedIn_at, ← htrace]
    exact fed_decoded hcut ts hi

/-- The two frames of the points ahead. -/
theorem custom_lossless_ahead :
    ∃ sent clouds, (Node.fed oneLds [oneEntry] kLivoxCustomMsg ahead.2).sent
        { useMultiTopic := false, outputType := kOutputToRos, frameId := "livox_frame" } aheadTurns =
          some sent ∧
      List.Forall₂ (fun m points => ∃ msg, m.message = .custom msg ∧ msg.points.map msg.read = points)
        (sent.filter fun m => m.index = 0) clouds ∧
      clouds.flatten.Sublist (decodedIn 1 ahead.2) :=
  custom_lossless 100 _ ahead.1 ahead.2 oneLds [oneEntry] false "livox_frame" aheadTurns 1 0 500000 0
    toUInt8_ofInt (by norm_num) le_rfl (by decide) (by simp) (Option.some_get _).symm (by decide +kernel)
    (by decide +kernel)

end Livox
