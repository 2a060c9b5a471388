import Kratos.Livox.Proof.Messages

/-!
# The driver and the angle filter

The clouds of `Lddc` are read by `LidarAngleFilterNode`, which sees each coordinate as the `float` of
the point, widened (`coordinates_record`). Of a message that carries points it publishes one that
carries those it keeps, if enough of them are usable (`filterCloud_carries`). So whatever the topic
loses, the filtered clouds carry decoded points that are outside the sectors
(`filtered_clouds`).
-/

namespace Livox

open Lidar

variable {F D : Type} [Host F] [Double D]

/-! ## One message -/

/-- A `float` as the filter reads it. -/
def widen (x : F) : D := Double.ofFloat (Host.float x).toList

variable (p : Params D)

/-- The filter keeps the point. -/
def keepsPoint (pt : PointXyzlt F) : Bool := p.keeps (widen pt.x) (widen pt.y) (widen pt.z)

/-- Enough of the points are usable. -/
def passes (points : List (PointXyzlt F)) : Bool :=
  decide (p.usableThreshold ≤
    points.countP fun pt => pointIsUsable (widen pt.x) (widen pt.y) (widen pt.z) p.minUsableRange)

variable {p} {cloud : PointCloud2} {points : List (PointXyzlt F)}

theorem coordinates_record (hhost : Double.hostIsBigEndian D = false)
    (hbig : cloud.isBigendian = false) (pt : PointXyzlt F) :
    (cloud.coordinate lddcAxes.x pt.record : D) = widen pt.x ∧
      (cloud.coordinate lddcAxes.y pt.record : D) = widen pt.y ∧
      (cloud.coordinate lddcAxes.z pt.record : D) = widen pt.z := by
  unfold PointCloud2.coordinate decode
  rw [hbig, hhost]
  simp [lddcAxes, PointXyzlt.record, widen, sizeOfType, PointField.FLOAT32, List.drop_append,
    List.drop_eq_nil_of_le]

theorem kept_carries (hhost : Double.hostIsBigEndian D = false) (h : Carries cloud points) :
    kept p cloud lddcAxes = (points.filter (keepsPoint p)).map PointXyzlt.record := by
  unfold kept
  rw [h.row.records_eq, List.filter_map]
  congr 1
  refine List.filter_congr fun pt _ => ?_
  obtain ⟨hx, hy, hz⟩ := coordinates_record hhost h.isBigendian pt
  rw [Function.comp_apply, keptRecord, hx, hy, hz]
  rfl

theorem usable_carries (hhost : Double.hostIsBigEndian D = false) (h : Carries cloud points)
    (l : List (PointXyzlt F)) :
    (l.map PointXyzlt.record).countP (usableRecord p cloud lddcAxes) =
      l.countP fun pt =>
        pointIsUsable (widen pt.x) (widen pt.y) (widen pt.z) p.minUsableRange := by
  rw [List.countP_map]
  refine List.countP_congr fun pt _ => ?_
  obtain ⟨hx, hy, hz⟩ := coordinates_record hhost h.isBigendian pt
  rw [Function.comp_apply, usableRecord, hx, hy, hz]

omit [Double D] in
theorem Carries.length_lt (h : Carries cloud points) : points.length < 2 ^ 32 := by
  have hwidth := h.row.width
  rw [List.length_map] at hwidth
  rw [← hwidth]
  exact cloud.width.toNat_lt

omit [Double D] in
theorem Carries.data_length (h : Carries cloud points) :
    cloud.data.length = points.length * 26 := by
  have hlengths : points.map (List.length ∘ PointXyzlt.record) = List.replicate points.length 26 := by
    rw [← List.map_const']
    exact List.map_congr_left fun p _ => record_length p
  rw [h.row.data, List.length_flatten, List.map_map, hlengths, List.sum_replicate_nat]

omit [Double D] in
/-- A message of some of the points. -/
theorem carries_filtered (h : Carries cloud points) {l : List (PointXyzlt F)} (hl : l.Sublist points)
    {scan : Scan} (hd : scan.data = (l.map PointXyzlt.record).flatten)
    (hk : scan.keptPoints = (l.map PointXyzlt.record).length) :
    Carries (filtered cloud scan) l := by
  have hcount := h.length_lt
  have hrow : Row (filtered cloud scan) (l.map PointXyzlt.record) := by
    refine ⟨rfl, ?_, hd, fun r hr => ?_⟩
    · show (UInt32.ofNat scan.keptPoints).toNat = _
      rw [hk, UInt32.toNat_ofNat_of_lt']
      rw [List.length_map]
      exact hl.length_le.trans_lt hcount
    · exact h.row.lengths r ((hl.map _).subset hr)
  have hmembers : ∀ pt ∈ points, fieldsOf cloud pt.record = pt.members := by
    have hfields := h.fields
    rw [h.row.records_eq, List.map_map] at hfields
    exact List.map_inj_left.1 hfields
  refine ⟨h.axes.filtered scan, h.isBigendian, hrow, ?_⟩
  rw [hrow.records_eq, List.map_map]
  exact List.map_congr_left fun pt hpt => hmembers pt (hl.subset hpt)

/-- **Of a message that carries points the filter makes one that carries those it keeps**, or drops
it. -/
theorem filterCloud_carries (hhost : Double.hostIsBigEndian D = false) (h : Carries cloud points)
    (node : Lidar.Node D) : ∃ after, filterCloud p node cloud = some after ∧
      if passes p (points.filter (keepsPoint p)) then
        ∃ msg, after.published = node.published ++ [msg] ∧ msg.header = cloud.header ∧
          Carries msg (points.filter (keepsPoint p))
      else after.published = node.published := by
  have hdata : cloud.data.length < 2 ^ 63 := by
    have hcount := h.length_lt
    rw [h.data_length]
    omega
  obtain ⟨after, he, hcases⟩ := filterCloud_cases (p := p) h.axes hdata h.row.complete node
  refine ⟨after, he, ?_⟩
  rw [kept_carries hhost h, usable_carries hhost h] at hcases
  unfold passes
  simp only [decide_eq_true_eq]
  split
  · rename_i hgate
    rw [if_pos hgate] at hcases
    obtain ⟨scan, hpub, -, hd, hk⟩ := hcases
    exact ⟨_, hpub, rfl, carries_filtered h List.filter_sublist hd hk⟩
  · rename_i hgate
    rw [if_neg hgate] at hcases
    exact hcases.1

/-! ## What the filter publishes of a run -/

omit [Host F] [Double D] in
/-- Some entries of a list go with some of what it goes with. -/
theorem forall₂_sublist {A B : Type} {R : A → B → Prop} {l l' : List A} {m : List B}
    (h : List.Forall₂ R l m) (hl : l'.Sublist l) : ∃ m', m'.Sublist m ∧ List.Forall₂ R l' m' := by
  induction hl generalizing m with
  | slnil => exact ⟨m, .refl m, h⟩
  | cons a _ ih =>
    cases h with
    | cons _ hrest =>
      obtain ⟨m', hm', hall⟩ := ih hrest
      exact ⟨m', hm'.cons _, hall⟩
  | cons_cons a _ ih =>
    cases h with
    | cons hab hrest =>
      obtain ⟨m', hm', hall⟩ := ih hrest
      exact ⟨_, hm'.cons_cons _, .cons hab hall⟩

omit [Host F] in
def Message.cloud? : Message F → Option PointCloud2
  | .pointCloud2 cloud => some cloud
  | .custom _ | .imu _ => none

/-- The filter on the clouds that it receives. -/
def filterAll (p : Params D) (node : Lidar.Node D) (received : List (Sent F)) :
    Option (Lidar.Node D) :=
  (received.filterMap fun m => m.message.cloud?).foldlM (filterCloud p) node

theorem filterAll_carries (hhost : Double.hostIsBigEndian D = false) {frameId : String}
    {received : List (Sent F)} {carried : List (Index × List (PointXyzlt F))}
    (h : List.Forall₂ (CloudOf frameId) received carried) (node : Lidar.Node D) :
    ∃ after msgs, filterAll p node received = some after ∧
      after.published = node.published ++ msgs ∧
      List.Forall₂ Carries msgs
        ((carried.map fun c => c.2.filter (keepsPoint p)).filter (passes p)) := by
  induction h generalizing node with
  | nil => exact ⟨node, [], rfl, (List.append_nil _).symm, .nil⟩
  | @cons m c received carried hm _ ih =>
    obtain ⟨-, cloud, hmessage, hcarries, -⟩ := hm
    obtain ⟨mid, hmid, hcases⟩ := filterCloud_carries (p := p) hhost hcarries node
    obtain ⟨after, msgs, hafter, hpub, hall⟩ := ih mid
    have hrun : filterAll p node (m :: received) = some after := by
      unfold filterAll at hafter ⊢
      rw [List.filterMap_cons, hmessage]
      show filterCloud p node cloud >>= _ = _
      rw [hmid]
      exact hafter
    rw [List.map_cons, List.filter_cons]
    split at hcases
    · rename_i hgate
      obtain ⟨msg, hmsg, -, hcarried⟩ := hcases
      rw [if_pos hgate]
      refine ⟨after, msg :: msgs, hrun, ?_, .cons hcarried hall⟩
      rw [hpub, hmsg, List.append_assoc]
      rfl
    · rename_i hgate
      rw [if_neg hgate]
      exact ⟨after, msgs, hrun, by rw [hpub, hcases], hall⟩

/-- **The filtered clouds carry decoded points outside the sectors**: whatever the order of the
driver's turns and whatever the topic loses, the filter publishes of each cloud that it receives the
points that it keeps, if enough of them are usable, and drops the others; and what it receives of a
LiDAR was decoded of it, in order and each point at most once. -/
theorem filtered_clouds [CMath F] (publishFreq : ℚ) (pubTurns : List (PubTurn F))
    (s : PubHandler F) (tr : List (PubEvent F)) (lds : Lds F) (entries : List (ConfigEntry F))
    (useMultiTopic : Bool) (frameId : String) (ts : List NodeTurn) (p : Params D)
    (node : Lidar.Node D) (hhost : Double.hostIsBigEndian D = false)
    (hrun : (PubHandler.setPointCloudConfig publishFreq).run pubTurns = some (s, tr)) :
    let n := Node.fed lds entries kPointCloud2Msg tr
    ∃ sent, n.sent { useMultiTopic, outputType := kOutputToRos, frameId } ts = some sent ∧
      ∀ received, received.Sublist sent → ∃ carried after msgs,
        List.Forall₂ (CloudOf frameId) received carried ∧
        filterAll p node received = some after ∧ after.published = node.published ++ msgs ∧
        List.Forall₂ Carries msgs
          ((carried.map fun c => c.2.filter (keepsPoint p)).filter (passes p)) ∧
        ∀ handle i, (n.run ts).ldsLidar.getLidarDevice handle = some i →
          ((carried.filter fun c => c.1 = i).flatMap Prod.snd).Sublist (decodedIn handle tr) := by
  intro n
  have hcut := (cut_init publishFreq).run hrun
  rw [List.nil_append] at hcut
  obtain ⟨sent, hsent, hall⟩ := fed_clouds hcut lds entries useMultiTopic frameId ts
  refine ⟨sent, hsent, fun received hreceived => ?_⟩
  obtain ⟨carried, hcarried, hclouds⟩ := forall₂_sublist hall hreceived
  obtain ⟨after, msgs, hafter, hpub, hmsgs⟩ := filterAll_carries hhost hclouds node
  refine ⟨carried, after, msgs, hclouds, hafter, hpub, hmsgs, fun handle i hi => ?_⟩
  refine ((hcarried.filter _).flatMap _).trans ?_
  rw [carriedIn_at]
  exact fed_decoded hcut ts hi

/-- The points ahead, without sectors. -/
theorem filtered_clouds_ahead :
    let _ := Libm.axis
    let n := Node.fed oneLds [oneEntry] kPointCloud2Msg ahead.2
    ∃ sent, n.sent
        { useMultiTopic := false, outputType := kOutputToRos, frameId := "livox_frame" } aheadTurns =
          some sent ∧
      ∀ received, received.Sublist sent → ∃ carried after msgs,
        List.Forall₂ (CloudOf "livox_frame") received carried ∧
        filterAll axisParams {} received = some after ∧ after.published = [] ++ msgs ∧
        List.Forall₂ Carries msgs
          ((carried.map fun c => c.2.filter (keepsPoint axisParams)).filter (passes axisParams)) ∧
        ∀ handle i, (n.run aheadTurns).ldsLidar.getLidarDevice handle = some i →
          ((carried.filter fun c => c.1 = i).flatMap Prod.snd).Sublist (decodedIn handle ahead.2) := by
  intro _
  exact filtered_clouds 100 _ ahead.1 ahead.2 oneLds [oneEntry] false "livox_frame" aheadTurns
    axisParams {} rfl (Option.some_get _).symm

end Livox
