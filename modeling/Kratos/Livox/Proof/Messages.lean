import Kratos.Lidar.Proof.Layout
import Kratos.Livox.Lddc
import Kratos.Livox.Proof.Acknowledged
import Kratos.Livox.Proof.Pipeline

/-!
# Messages carry decoded points

A packet that is published has all the points that it counts, and the time of the first one
(`Node.Whole`). So no message reads past its packet, and what is sent is, packet by packet, what
was published (`sent_eq`). Who reads a `PointCloud2` by its fields finds in it the members of the
points (`Carries`), which were decoded of the LiDAR, in order and each at most once (`sent_clouds`).
-/

namespace Livox

variable {F : Type}

/-! ## Reading a packet -/

theorem mapM_getElem? {A : Type} (l : List A) :
    (List.range l.length).mapM (fun i => l[i]?) = some l := by
  induction l with
  | nil => rfl
  | cons a l ih =>
    rw [List.length_cons, List.range_succ_eq_map, List.mapM_cons, List.mapM_map]
    simp only [Function.comp_def, List.getElem?_cons_zero, List.getElem?_cons_succ, ih]
    rfl

/-- A packet has a point, all that it counts, and the time of the first. -/
structure StoragePacket.Whole (pkg : StoragePacket F) : Prop where
  pointsNum : pkg.pointsNum.toNat = pkg.points.length
  baseTime : ∃ point rest, pkg.points = point :: rest ∧ pkg.baseTime = point.offsetTime

namespace StoragePacket.Whole

variable {pkg : StoragePacket F}

theorem read_eq (h : pkg.Whole) : pkg.read = some pkg.points := by
  unfold StoragePacket.read
  rw [h.pointsNum]
  exact mapM_getElem? pkg.points

theorem timestamp_eq (h : pkg.Whole) : pkg.timestamp = pkg.baseTime := by
  obtain ⟨point, rest, hcons, -⟩ := h.baseTime
  simp [StoragePacket.timestamp, hcons]

/-- An entry of a frame, unless its length is a multiple of what 32 bits can count. -/
theorem packetOf {entry : UInt64 × PointPacket F} (h : Entry entry)
    (hne : (Livox.packetOf entry).points ≠ []) : (Livox.packetOf entry).Whole := by
  obtain ⟨point, rest, hcons, htime⟩ := h.baseTime
  have hcount : entry.2.pointsNum.toNat ≤ entry.2.points.length := by
    rw [h.pointsNum, UInt32.toNat_ofNat']
    exact Nat.mod_le _ _
  refine ⟨?_, ?_⟩
  · show _ = (entry.2.points.take entry.2.pointsNum.toNat).length
    rw [List.length_take, Nat.min_eq_left hcount]
    rfl
  · have hpoints : (Livox.packetOf entry).points = entry.2.points.take entry.2.pointsNum.toNat := rfl
    cases hn : entry.2.pointsNum.toNat with
    | zero => exact absurd (by rw [hpoints, hn]; rfl) hne
    | succ n => exact ⟨point, rest.take n, by rw [hpoints, hn, hcons]; rfl, htime⟩

end StoragePacket.Whole

/-! ## What the node publishes -/

def Event.published? : Event F → Option (Index × StoragePacket F)
  | .published i pkg => some (i, pkg)
  | _ => none

/-- The packets that are published, with their places. -/
def publications (tr : List (Event F)) : List (Index × StoragePacket F) :=
  tr.filterMap Event.published?

@[simp] theorem publications_append (tr tr' : List (Event F)) :
    publications (tr ++ tr') = publications tr ++ publications tr' := List.filterMap_append

theorem publishedIn_eq (i : Index) (tr : List (Event F)) :
    publishedIn i tr = ((publications tr).filter fun e => e.1 = i).map Prod.snd := by
  induction tr with
  | nil => rfl
  | cons e tr ih =>
    unfold publishedIn publications at ih ⊢
    cases e with
    | published j pkg =>
      by_cases hj : j = i
      · simp [Event.publishedAt, Event.published?, hj, ih]
      · simp [Event.publishedAt, Event.published?, hj, ih]
    | stored j packet | dropped j packet | taken j pkg =>
      simpa [Event.publishedAt, Event.published?, List.filterMap_cons] using ih

theorem mem_publishedIn {tr : List (Event F)} {e : Index × StoragePacket F}
    (he : e ∈ publications tr) : e.2 ∈ publishedIn e.1 tr := by
  rw [publishedIn_eq]
  exact List.mem_map_of_mem (List.mem_filter.2 ⟨he, by simp⟩)

section

variable [CMath F] {tr : List (PubEvent F)} {s : PubHandler F} {lds : Lds F}
  {entries : List (ConfigEntry F)} {transferFormat : UInt8} {i : Index}

/-- The node on the frames of a run of `PubHandler`. -/
def Node.fed (lds : Lds F) (entries : List (ConfigEntry F)) (transferFormat : UInt8)
    (tr : List (PubEvent F)) : Node F :=
  .init lds entries transferFormat (onLidarPointClounCb tr)

/-- The threads of the node are in a run of their own, in which packets are handled in order. -/
theorem fed_threads (lds : Lds F) (entries : List (ConfigEntry F)) (transferFormat : UInt8)
    (tr : List (PubEvent F)) (ts : List NodeTurn) : ∃ d : Driver F,
    d.lds.cacheIndex = ((Node.fed lds entries transferFormat tr).run ts).driver.lds.cacheIndex ∧
      d.lds.cacheIndex.Placed ∧
      (∀ handle i, (LdsLidar.init lds entries).getLidarDevice handle = some i →
        d.lds.cacheIndex.getIndex kLivoxLidarType handle = some i) ∧
      ∀ i, Handled i d (dataIn ((Node.fed lds entries transferFormat tr).trace ts))
          (onLidarPointClounCb tr) ∧
        ∃ q, Feed i d (dataIn ((Node.fed lds entries transferFormat tr).trace ts)) q := by
  obtain ⟨us, hrun, htrace⟩ := onto_run (Node.fed lds entries transferFormat tr).driver.lds.lidars
    (Node.fed lds entries transferFormat tr) ts
  have hinit : (Node.fed lds entries transferFormat tr).driver.onto
      (Node.fed lds entries transferFormat tr).driver.lds.lidars =
        .init (LdsLidar.init lds entries).lds transferFormat (onLidarPointClounCb tr) := rfl
  rw [hinit] at hrun htrace
  have hplaced := (listed_init lds entries).placed
  have hcache := congrArg (fun d : Driver F => d.lds.cacheIndex) hrun
  refine ⟨_, hcache, run_placed (d := .init (LdsLidar.init lds entries).lds _ _) hplaced us,
    fun handle i hi => ?_, fun i => ?_⟩
  · exact run_cacheIndex (P := fun c => c.getIndex kLivoxLidarType handle = some i)
      (d := .init (LdsLidar.init lds entries).lds transferFormat (onLidarPointClounCb tr))
      (fun _ _ h => getIndex_getFreeIndex h) hi us
  have hhandled := (handled_init (LdsLidar.init lds entries).lds transferFormat
    (onLidarPointClounCb tr) i).run us
  obtain ⟨q, hfeed⟩ := (feed_init (LdsLidar.init lds entries).lds transferFormat
    (onLidarPointClounCb tr) i).run us
  rw [List.nil_append, htrace] at hhandled hfeed
  exact ⟨hhandled, q, hfeed⟩

/-- **What the node publishes is whole.** -/
theorem fed_whole (hcut : ∀ entry ∈ framesIn tr, Entry entry) (ts : List NodeTurn) :
    ∀ e ∈ publications (dataIn ((Node.fed lds entries transferFormat tr).trace ts)), e.2.Whole := by
  obtain ⟨d, -, -, -, hthreads⟩ := fed_threads lds entries transferFormat tr ts
  intro e he
  obtain ⟨hhandled, q, hfeed⟩ := hthreads e.1
  have hmem := mem_publishedIn he
  have hne : e.2.points ≠ [] := by
    have htaken := List.mem_append_left (d.poll.inHand e.1) hmem
    rw [hfeed.published] at htaken
    exact of_decide_eq_true (List.mem_filter.1 htaken).2
  have hpacket := (hhandled.published hfeed).subset hmem
  rw [flatten_onLidarPointClounCb] at hpacket
  obtain ⟨entry, hentry, heq⟩ := List.mem_map.1 hpacket
  rw [← heq] at hne ⊢
  exact .packetOf (hcut entry (List.mem_filter.1 hentry).1) hne

/-- A place at which the node publishes is a LiDAR's. -/
theorem fed_place (ts : List NodeTurn) :
    ∀ e ∈ publications (dataIn ((Node.fed lds entries transferFormat tr).trace ts)),
      ∃ handle, ((Node.fed lds entries transferFormat tr).run ts).ldsLidar.getLidarDevice handle =
        some e.1 := by
  obtain ⟨d, hcache, -, -, hthreads⟩ := fed_threads lds entries transferFormat tr ts
  intro e he
  obtain ⟨hhandled, q, hfeed⟩ := hthreads e.1
  obtain ⟨entry, hentry, -⟩ :=
    List.mem_map.1 ((hhandled.published hfeed).subset (mem_publishedIn he))
  have hplace := of_decide_eq_true (List.mem_filter.1 hentry).2
  obtain ⟨key, hkey, -⟩ := Option.bind_eq_some_iff.1 hplace
  rw [generateIndexKey_type hkey, hcache] at hplace
  exact ⟨entry.2.handle, hplace⟩

/-- What the node publishes of a LiDAR are its decoded points. -/
theorem fed_decoded (hcut : Cut s tr) (ts : List NodeTurn) {handle : UInt32}
    (hi : ((Node.fed lds entries transferFormat tr).run ts).ldsLidar.getLidarDevice handle = some i) :
    ((publishedIn i (dataIn ((Node.fed lds entries transferFormat tr).trace ts))).flatMap
      fun pkg => pkg.points).Sublist (decodedIn handle tr) := by
  obtain ⟨d, hcache, hplaced, -, hthreads⟩ := fed_threads lds entries transferFormat tr ts
  obtain ⟨hhandled, q, hfeed⟩ := hthreads i
  have hplace : d.lds.cacheIndex.getIndex kLivoxLidarType handle = some i := hcache ▸ hi
  exact hhandled.decoded hfeed hplaced hplace hcut

end

/-! ## Clouds in one row -/

section

open Lidar

variable {cloud : PointCloud2} {K : List (List UInt8)}

/-- Records of one size, side by side in the only row. -/
structure Row (cloud : PointCloud2) (K : List (List UInt8)) : Prop where
  height : cloud.height = 1
  width : cloud.width.toNat = K.length
  data : cloud.data = K.flatten
  lengths : ∀ r ∈ K, r.length = cloud.pointStep.toNat

namespace Row

theorem points_eq (h : Row cloud K) :
    cloud.points = (List.range K.length).map fun column => (0, column) := by
  rw [PointCloud2.points, h.height, h.width]
  simp [Raster.walk]

theorem size (h : Row cloud K) : cloud.data.length = cloud.width.toNat * cloud.pointStep.toNat := by
  rw [h.data, h.width, List.length_flatten, List.map_congr_left h.lengths, List.map_const',
    List.sum_replicate_nat]

theorem offset_eq (cloud : PointCloud2) (column : Nat) :
    cloud.offset (0, column) = column * cloud.pointStep.toNat := by
  rw [PointCloud2.offset, Nat.zero_mul, Nat.zero_add]

theorem complete (h : Row cloud K) : cloud.Complete := by
  intro q hq
  rw [h.points_eq] at hq
  obtain ⟨column, hcolumn, rfl⟩ := List.mem_map.1 hq
  rw [List.mem_range, ← h.width] at hcolumn
  rw [PointCloud2.Fits, offset_eq, h.size, ← Nat.succ_mul]
  exact Nat.mul_le_mul_right _ hcolumn

theorem records_eq (h : Row cloud K) : cloud.records = K := by
  rw [PointCloud2.records, h.points_eq, List.map_map]
  refine List.ext_getElem (by simp) fun j hj hj' => ?_
  rw [List.getElem_map, List.getElem_range, Function.comp_apply, PointCloud2.record, offset_eq,
    h.data]
  exact take_drop_flatten h.lengths hj'

end Row

end

/-! ## The message of a packet -/

section

open Lidar Slice

variable [Host F] {pkg : StoragePacket F} {frameId : String} {cloud : PointCloud2}

/-- The size of a member with this `datatype`. -/
def sizeOfMember (datatype : UInt8) : Nat := if datatype = UINT8 then 1 else sizeOfType datatype

/-- What a reader finds in a record, who goes by the fields. -/
def fieldsOf (cloud : PointCloud2) (record : List UInt8) : List (String × List UInt8) :=
  cloud.fields.map fun f =>
    (f.name, slice f.offset.toNat (f.count.toNat * sizeOfMember f.datatype) record)

/-- The members of a point, as the host lays them out. -/
def PointXyzlt.members (p : PointXyzlt F) : List (String × List UInt8) :=
  [("x", (Host.float p.x).toList),
    ("y", (Host.float p.y).toList),
    ("z", (Host.float p.z).toList),
    ("intensity", (Host.float p.intensity).toList),
    ("tag", [p.tag]),
    ("line", [p.line]),
    ("timestamp", (Host.double F p.offsetTime).toList)]

theorem record_length (p : PointXyzlt F) : p.record.length = 26 := by simp [PointXyzlt.record]

/-- The fields are where the members are. -/
theorem fieldsOf_record (frameId : String) (p : PointXyzlt F) :
    fieldsOf (initPointcloud2MsgHeader frameId) p.record = p.members := by
  simp [fieldsOf, initPointcloud2MsgHeader, PointXyzlt.record, PointXyzlt.members, slice,
    sizeOfMember, sizeOfType, UINT8, PointField.FLOAT32, PointField.FLOAT64, List.drop_append,
    List.take_append, List.drop_eq_nil_of_le, List.take_of_length_le]

/-- The fields of the coordinates. -/
def lddcAxes : Axes where
  x := ⟨"x", 0, PointField.FLOAT32, 1⟩
  y := ⟨"y", 4, PointField.FLOAT32, 1⟩
  z := ⟨"z", 8, PointField.FLOAT32, 1⟩

/-- The message has these points and no others. -/
structure Carries (cloud : PointCloud2) (points : List (PointXyzlt F)) : Prop where
  axes : cloud.HasAxes lddcAxes
  isBigendian : cloud.isBigendian = false
  row : Row cloud (points.map PointXyzlt.record)
  fields : cloud.records.map (fieldsOf cloud) = points.map PointXyzlt.members

/-- There is a first point, and the message has its time. -/
def Stamped (header : Header) (frameId : String) (points : List (PointXyzlt F)) : Prop :=
  ∃ point rest, points = point :: rest ∧ header = { frameId, stamp := rclcppTime point.offsetTime }

theorem pointcloud2Msg_carries (frameId : String) (h : pkg.Whole) :
    Carries (pointcloud2Msg frameId pkg pkg.points) pkg.points := by
  have hrow : Row (pointcloud2Msg frameId pkg pkg.points) (pkg.points.map PointXyzlt.record) := by
    refine ⟨rfl, ?_, rfl, ?_⟩
    · rw [List.length_map]
      exact h.pointsNum
    · intro r hr
      obtain ⟨p, -, rfl⟩ := List.mem_map.1 hr
      exact record_length p
  have hstep : (pointcloud2Msg frameId pkg pkg.points).pointStep.toNat = 26 := rfl
  refine ⟨⟨⟨rfl, ?_⟩, ⟨rfl, ?_⟩, ⟨rfl, ?_⟩⟩, rfl, hrow, ?_⟩
  · exact .inl ⟨rfl, by rw [hstep]; decide⟩
  · exact .inl ⟨rfl, by rw [hstep]; decide⟩
  · exact .inl ⟨rfl, by rw [hstep]; decide⟩
  · rw [hrow.records_eq, List.map_map]
    exact List.map_congr_left fun p _ => fieldsOf_record frameId p

omit [Host F] in
theorem StoragePacket.Whole.stamped (frameId : String) (h : pkg.Whole) :
    Stamped { frameId, stamp := rclcppTime pkg.timestamp } frameId pkg.points := by
  obtain ⟨point, rest, hcons, htime⟩ := h.baseTime
  exact ⟨point, rest, hcons, by rw [h.timestamp_eq, htime]⟩

end

/-! ## What is sent -/

/-- What a message depends on, and no turn changes. -/
structure Lasting (d d' : Driver F) : Prop where
  transferFormat : d'.transferFormat = d.transferFormat
  handle : ∀ j, (d'.lds.lidars j).handle = (d.lds.lidars j).handle

theorem Lasting.refl (d : Driver F) : Lasting d d := ⟨rfl, fun _ => rfl⟩

theorem Lasting.trans {d d' d'' : Driver F} (h : Lasting d d') (h' : Lasting d' d'') : Lasting d d'' :=
  ⟨h'.transferFormat.trans h.transferFormat, fun j => (h'.handle j).trans (h.handle j)⟩

theorem update_handle {lidars : Index → LidarDevice F} {i : Index} {lidar : LidarDevice F}
    (h : lidar.handle = (lidars i).handle) (j : Index) :
    (Function.update lidars i lidar j).handle = (lidars j).handle := by
  by_cases hj : j = i
  · subst hj
    simpa using h
  · simp [hj]

theorem setQueue_handle (lds : Lds F) (i j : Index) (f : LidarDataQueue F → LidarDataQueue F) :
    ((lds.setQueue i f).lidars j).handle = (lds.lidars j).handle := by
  unfold Lds.setQueue
  exact update_handle (by rfl) j

theorem pointTurn_lasting (d : Driver F) : Lasting d d.pointTurn.1 := by
  refine ⟨(pointTurn_keeps d).2.2, fun j => ?_⟩
  unfold Driver.pointTurn
  repeat' split
  all_goals simp [Driver.assign, setQueue_handle]

theorem pollTurn_lasting (d : Driver F) : Lasting d d.pollTurn.1 := by
  refine ⟨(pollTurn_keeps d).2.2, fun j => ?_⟩
  unfold Driver.pollTurn
  repeat' split
  all_goals simp [setQueue_handle]

/-- No handle is changed. -/
def SameHandles (lds lds' : Lds F) : Prop := ∀ j, (lds'.lidars j).handle = (lds.lidars j).handle

theorem SameHandles.rule : CallbackRule (SameHandles (F := F)) where
  refl := fun _ _ => rfl
  trans := fun h h' j => (h' j).trans (h j)
  sampling := fun lds i j => update_handle (by rfl) j
  setBits := fun l i f j => update_handle (by rfl) j
  newDevice := fun lds handle i cache _ j => update_handle (by rfl) j

theorem turn_lasting (n : Node F) (t : NodeTurn) : Lasting n.driver (n.turn t).1.driver := by
  cases t with
  | point => exact pointTurn_lasting n.driver
  | poll => exact pollTurn_lasting n.driver
  | requestExit | exitSignal => exact ⟨rfl, fun _ => rfl⟩
  | sdk t => exact ⟨rfl, SameHandles.rule.turn n.ldsLidar t⟩

section

variable {lddc lddc' : Lddc} {d d' : Driver F} {i : Index} {pkg : StoragePacket F}

/-- The topic of the LiDAR at a place. -/
def Lddc.topic (lddc : Lddc) (d : Driver F) (i : Index) : String :=
  if lddc.useMultiTopic then topicName (d.lds.lidars i).handle else "livox/lidar"

/-- The publishers that have been made have these names. -/
structure Publishers.Opened (privateName : Index → String) (globalName : String)
    (pub : Publishers) : Prop where
  privatePub : ∀ i topic, pub.privatePub i = some topic → topic = privateName i
  globalPub : ∀ topic, pub.globalPub = some topic → topic = globalName

theorem Publishers.opened_new (privateName : Index → String) (globalName : String) :
    Opened privateName globalName {} := ⟨fun _ _ h => (nomatch h), fun _ h => (nomatch h)⟩

theorem Publishers.Opened.current {privateName : Index → String} {globalName : String}
    {pub : Publishers} (h : pub.Opened privateName globalName) (useMultiTopic : Bool) (i : Index) :
    (pub.current useMultiTopic (privateName i) globalName i).1 =
        (if useMultiTopic then privateName i else globalName) ∧
      (pub.current useMultiTopic (privateName i) globalName i).2.Opened privateName globalName := by
  unfold Publishers.current
  split
  · have htopic : (pub.privatePub i).getD (privateName i) = privateName i := by
      cases hpub : pub.privatePub i with
      | none => rfl
      | some topic => exact h.privatePub i topic hpub
    refine ⟨htopic, fun j topic hj => ?_, h.globalPub⟩
    dsimp only at hj
    by_cases hij : j = i
    · subst hij
      rw [Function.update_self, Option.some_inj] at hj
      rw [← hj, htopic]
    · rw [Function.update_of_ne hij] at hj
      exact h.privatePub j topic hj
  · have htopic : pub.globalPub.getD globalName = globalName := by
      cases hpub : pub.globalPub with
      | none => rfl
      | some topic => exact h.globalPub topic hpub
    refine ⟨htopic, h.privatePub, fun topic hglobal => ?_⟩
    rw [← Option.some_inj.1 hglobal]
    exact htopic

/-- The publishers that `lddc'` has made are those of `lddc` as it was built. -/
structure Lddc.Opened (lddc : Lddc) (d : Driver F) (lddc' : Lddc) : Prop where
  useMultiTopic : lddc'.useMultiTopic = lddc.useMultiTopic
  outputType : lddc'.outputType = lddc.outputType
  frameId : lddc'.frameId = lddc.frameId
  pub : lddc'.pub.Opened (fun i => topicName (d.lds.lidars i).handle) "livox/lidar"

theorem getCurrentPublisher_opened (h : lddc.Opened d lddc') (hd : Lasting d d') (i : Index) :
    (lddc'.getCurrentPublisher d'.lds i).1 = lddc.topic d i ∧
      lddc.Opened d (lddc'.getCurrentPublisher d'.lds i).2 := by
  obtain ⟨htopic, hopened⟩ := h.pub.current lddc'.useMultiTopic i
  unfold Lddc.topic Lddc.getCurrentPublisher
  rw [hd.handle, ← h.useMultiTopic]
  exact ⟨htopic, h.useMultiTopic, h.outputType, h.frameId, hopened⟩

variable [Host F]

/-- The message of a whole packet. -/
def Lddc.messageOf (lddc : Lddc) (d : Driver F) (i : Index) (pkg : StoragePacket F) : Message F :=
  if d.transferFormat = kPointCloud2Msg then
    .pointCloud2 (pointcloud2Msg lddc.frameId pkg pkg.points)
  else
    .custom
      { initCustomMsg lddc.frameId pkg (d.lds.lidars i) with
        points := pkg.points.map (PointXyzlt.custom pkg.baseTime) }

theorem message_eq (h : pkg.Whole) : lddc.message d i pkg = some (lddc.messageOf d i pkg) := by
  unfold Lddc.message Lddc.messageOf initPointcloud2Msg fillPointsToCustomMsg
  rw [h.read_eq]
  split <;> rfl

/-- What is sent of a packet, with the devices as they are then. -/
structure SentOf (lddc : Lddc) (d : Driver F) (e : Index × StoragePacket F) (m : Sent F) : Prop where
  index : m.index = e.1
  topic : m.topic = lddc.topic d e.1
  whole : e.2.Whole
  message : ∃ d', Lasting d d' ∧ m.message = lddc.messageOf d' e.1 e.2

theorem publish_sentOf (h : lddc.Opened d lddc') (hd : Lasting d d')
    (hout : lddc.outputType = kOutputToRos) (hpkg : pkg.Whole) :
    ∃ lddc'' m, lddc'.publish d' i pkg = some (lddc'', some m) ∧ lddc.Opened d lddc'' ∧
      SentOf lddc d (i, pkg) m := by
  obtain ⟨htopic, hopened⟩ := getCurrentPublisher_opened h hd i
  have hsent : (lddc'.getCurrentPublisher d'.lds i).2.outputType = kOutputToRos :=
    hopened.outputType.trans hout
  have hmessage : lddc'.messageOf d' i pkg = lddc.messageOf d' i pkg := by
    unfold Lddc.messageOf
    rw [h.frameId]
  unfold Lddc.publish
  rw [message_eq hpkg, Option.map_some]
  dsimp only
  rw [if_pos hsent]
  exact ⟨_, _, rfl, hopened, rfl, htopic, hpkg, d', hd, hmessage⟩

/-- **What is sent is what is published**, packet by packet, if every packet is whole. -/
theorem sent_eq (hout : lddc.outputType = kOutputToRos) (h : lddc.Opened d lddc') {n : Node F}
    (hd : Lasting d n.driver) (ts : List NodeTurn)
    (hwhole : ∀ e ∈ publications (dataIn (n.trace ts)), e.2.Whole) :
    ∃ sent, n.sent lddc' ts = some sent ∧
      List.Forall₂ (SentOf lddc d) (publications (dataIn (n.trace ts))) sent := by
  induction ts generalizing n lddc' with
  | nil => exact ⟨[], rfl, .nil⟩
  | cons t ts ih =>
    rw [Node.trace, dataIn_append, publications_append] at hwhole ⊢
    obtain ⟨hfirst, hrest⟩ := List.forall_mem_append.1 hwhole
    have hd' : Lasting d (n.turn t).1.driver := hd.trans (turn_lasting n t)
    unfold Node.sent
    split
    · rename_i i pkg hev
      rw [hev] at hfirst ⊢
      have hpkg : pkg.Whole := hfirst (i, pkg) (List.mem_singleton_self _)
      obtain ⟨lddc'', m, hpublish, hopened, hsent⟩ := publish_sentOf h hd hout hpkg (i := i)
      obtain ⟨rest, heq, hall⟩ := ih hopened hd' hrest
      refine ⟨m :: rest, ?_, .cons hsent hall⟩
      rw [hpublish, Option.bind_eq_bind, Option.bind_some]
      dsimp only
      rw [heq]
      rfl
    · rename_i hother
      have hnone : publications (dataIn (n.turn t).2.toList) = [] := by
        cases hev : (n.turn t).2 with
        | none => rfl
        | some e =>
          cases e with
          | sdk e => rfl
          | data e =>
            cases e with
            | published i pkg => exact absurd hev (hother i pkg)
            | stored i packet | dropped i packet | taken i pkg => rfl
      rw [hnone, List.nil_append]
      exact ih h hd' hrest

end

section

variable [CMath F] [Host F]

/-- The node on the frames of a run sends what it publishes. -/
theorem fed_sent {s : PubHandler F} {tr : List (PubEvent F)} (hcut : Cut s tr) (lds : Lds F)
    (entries : List (ConfigEntry F)) (transferFormat : UInt8) (useMultiTopic : Bool)
    (frameId : String) (ts : List NodeTurn) :
    let n := Node.fed lds entries transferFormat tr
    let lddc : Lddc := { useMultiTopic, outputType := kOutputToRos, frameId }
    ∃ sent, n.sent lddc ts = some sent ∧
      List.Forall₂ (SentOf lddc n.driver) (publications (dataIn (n.trace ts))) sent := by
  intro n lddc
  refine sent_eq rfl ?_ (.refl _) ts (fed_whole hcut.entries ts)
  exact ⟨rfl, rfl, rfl, Publishers.opened_new _ _⟩

/-- The points of the packets that are published, with their places. -/
def carriedIn (tr : List (Event F)) : List (Index × List (PointXyzlt F)) :=
  (publications tr).map fun e => (e.1, e.2.points)

omit [CMath F] [Host F] in
theorem carriedIn_at (i : Index) (tr : List (Event F)) :
    ((carriedIn tr).filter fun c => c.1 = i).flatMap Prod.snd =
      (publishedIn i tr).flatMap fun pkg => pkg.points := by
  rw [publishedIn_eq, carriedIn, List.filter_map, List.flatMap_map, List.flatMap_map]
  rfl

/-- A message of these points, at their LiDAR's place. -/
def CloudOf (frameId : String) (m : Sent F) (c : Index × List (PointXyzlt F)) : Prop :=
  m.index = c.1 ∧
    ∃ cloud, m.message = .pointCloud2 cloud ∧ Carries cloud c.2 ∧ Stamped cloud.header frameId c.2

theorem fed_clouds {s : PubHandler F} {tr : List (PubEvent F)} (hcut : Cut s tr) (lds : Lds F)
    (entries : List (ConfigEntry F)) (useMultiTopic : Bool) (frameId : String)
    (ts : List NodeTurn) :
    let n := Node.fed lds entries kPointCloud2Msg tr
    ∃ sent, n.sent { useMultiTopic, outputType := kOutputToRos, frameId } ts = some sent ∧
      List.Forall₂ (CloudOf frameId) sent (carriedIn (dataIn (n.trace ts))) := by
  intro n
  obtain ⟨sent, hsent, hall⟩ := fed_sent hcut lds entries kPointCloud2Msg useMultiTopic frameId ts
  refine ⟨sent, hsent, ?_⟩
  unfold carriedIn
  rw [List.forall₂_map_right_iff]
  refine hall.flip.imp fun m e hm => ⟨hm.index, ?_⟩
  obtain ⟨d', hd', hmessage⟩ := hm.message
  have hformat : d'.transferFormat = kPointCloud2Msg := hd'.transferFormat
  unfold Lddc.messageOf at hmessage
  rw [if_pos hformat] at hmessage
  exact ⟨_, hmessage, pointcloud2Msg_carries frameId hm.whole, hm.whole.stamped frameId⟩

/-- **Every message carries decoded points**: whatever the order of the turns, no message reads past
its packet, who reads the messages of a LiDAR by their fields finds the members of points that were
decoded of it, in order and each at most once, and a message has the time of its first point. There
is no message but of a LiDAR. -/
theorem sent_clouds (publishFreq : ℚ) (pubTurns : List (PubTurn F)) (s : PubHandler F)
    (tr : List (PubEvent F)) (lds : Lds F) (entries : List (ConfigEntry F)) (useMultiTopic : Bool)
    (frameId : String) (ts : List NodeTurn)
    (hrun : (PubHandler.setPointCloudConfig publishFreq).run pubTurns = some (s, tr)) :
    let n := Node.fed lds entries kPointCloud2Msg tr
    ∃ sent carried,
      n.sent { useMultiTopic, outputType := kOutputToRos, frameId } ts = some sent ∧
      List.Forall₂ (CloudOf frameId) sent carried ∧
      (∀ c ∈ carried, ∃ handle, (n.run ts).ldsLidar.getLidarDevice handle = some c.1) ∧
      ∀ handle i, (n.run ts).ldsLidar.getLidarDevice handle = some i →
        ((carried.filter fun c => c.1 = i).flatMap Prod.snd).Sublist (decodedIn handle tr) := by
  intro n
  have hcut := (cut_init publishFreq).run hrun
  rw [List.nil_append] at hcut
  obtain ⟨sent, hsent, hall⟩ := fed_clouds hcut lds entries useMultiTopic frameId ts
  refine ⟨sent, carriedIn (dataIn (n.trace ts)), hsent, hall, fun c hc => ?_, fun handle i hi => ?_⟩
  · obtain ⟨e, he, rfl⟩ := List.mem_map.1 hc
    exact fed_place ts e he
  · rw [carriedIn_at]
    exact fed_decoded hcut ts hi

end

/-! Numbers that are whole, not negative and no longer than a significand. -/

/-- The bits of a number, with an exponent of `e` bits and a fraction of `m`. -/
def bitsOfNat (e m n : Nat) : Nat :=
  if n = 0 then 0 else (2 ^ (e - 1) - 1 + n.log2) * 2 ^ m + (n * 2 ^ (m - n.log2) - 2 ^ m)

def bytesOf (k bits : Nat) : Vector UInt8 k := .ofFn fun i => .ofNat (bits / 2 ^ (8 * i.val))

instance instHostRat : Host ℚ where
  float q := bytesOf 4 (bitsOfNat 8 23 q.num.natAbs)
  double t := bytesOf 8 (bitsOfNat 11 52 t.toNat)
  toUInt8 q := .ofNat q.num.natAbs

/-- A packet of a point two metres ahead. -/
def aheadAt (time : Nat) : EthernetPacket :=
  { packetAt time with
    data := .cartesianHigh [{ x := 2000, y := 0, z := 0, reflectivity := 10, tag := 0 }] }

/-- The run of 45 of these packets, half a millisecond apart, at 100 frames a second. -/
def ahead : PubHandler ℚ × List (PubEvent ℚ) :=
  ((PubHandler.setPointCloudConfig 100 : PubHandler ℚ).run (.sync kTimestampTypeGptpOrPtp ::
    (List.range 45).flatMap fun k =>
      [.receive 1 .mid360 (aheadAt (500000 * k)) 0, .process 0])).get (by decide +kernel)

/-- The LiDAR is set up, and its frames are stored and published. -/
def aheadTurns : List NodeTurn :=
  oneSetup.map .sdk ++ List.replicate 30 .point ++ List.replicate 30 .poll

theorem sent_clouds_ahead :
    let n := Node.fed oneLds [oneEntry] kPointCloud2Msg ahead.2
    ∃ sent carried, n.sent
        { useMultiTopic := false, outputType := kOutputToRos, frameId := "livox_frame" } aheadTurns =
          some sent ∧
      List.Forall₂ (CloudOf "livox_frame") sent carried ∧
      (∀ c ∈ carried, ∃ handle, (n.run aheadTurns).ldsLidar.getLidarDevice handle = some c.1) ∧
      ∀ handle i, (n.run aheadTurns).ldsLidar.getLidarDevice handle = some i →
        ((carried.filter fun c => c.1 = i).flatMap Prod.snd).Sublist (decodedIn handle ahead.2) :=
  sent_clouds 100 _ ahead.1 ahead.2 oneLds [oneEntry] false "livox_frame" aheadTurns
    (Option.some_get _).symm

end Livox
