import Kratos.Livox.Proof.Messages

/-!
# Topics

With a topic for each LiDAR, the name of a topic gives back the address (`topicName_inj`). No turn
changes a handle, and `InitLivoxLidar` gives one to the devices of the file only. So the topic of a
LiDAR of the file carries its decoded points and no others (`topic_clouds`), and the LiDARs that are
not in the file have one topic together, that of the address 0.
-/

namespace Livox

variable {F : Type}

/-! ## Names -/

/-- The parts of an address, as they are written. -/
def addressParts (handle : UInt32) : List (List Char) :=
  ([0, 8, 16, 24] : List UInt32).map fun shift => Nat.toDigits 10 (handle >>> shift).toUInt8.toNat

theorem isDigit_of_mem_parts {handle : UInt32} {part : List Char} (hpart : part ∈ addressParts handle)
    {c : Char} (hc : c ∈ part) : c.isDigit := by
  obtain ⟨shift, -, rfl⟩ := List.mem_map.1 hpart
  exact Nat.isDigit_of_mem_toDigits (by decide) (by decide) hc

theorem map_intercalate {A B : Type} (f : A → B) (sep : List A) (ls : List (List A)) :
    (sep.intercalate ls).map f = (sep.map f).intercalate (ls.map (List.map f)) := by
  induction ls with
  | nil => rfl
  | cons l ls ih =>
    cases ls with
    | nil => simp
    | cons l' ls =>
      rw [List.intercalate_cons_cons, List.map_append, List.map_append, ih]
      simp only [List.map_cons, List.intercalate_cons_cons]

/-- The name of a topic, but for its prefix. -/
theorem underlined_toList (handle : UInt32) :
    (replacePeriodByUnderline (ipNumToString handle)).toList =
      ['_'].intercalate (addressParts handle) := by
  have hdigits : ∀ part ∈ addressParts handle,
      part.map (fun c => if c = '.' then '_' else c) = part := fun part hpart => by
    refine (List.map_congr_left fun c hc => ?_).trans (List.map_id part)
    have hne : c ≠ '.' := by
      rintro rfl
      exact absurd (isDigit_of_mem_parts hpart hc) (by decide)
    rw [if_neg hne]
    rfl
  have hparts : (addressParts handle).map (List.map fun c => if c = '.' then '_' else c) =
      addressParts handle := (List.map_congr_left hdigits).trans (List.map_id _)
  have hwritten : (ipNumToString handle).toList = ['.'].intercalate (addressParts handle) := by
    unfold ipNumToString addressParts
    rw [String.toList_intercalate, List.map_map]
    congr 1
    exact List.map_congr_left fun shift _ => Nat.toList_repr
  unfold replacePeriodByUnderline
  rw [String.toList_map, hwritten, map_intercalate, hparts]
  rfl

theorem toNat_eq_bytes (x : UInt32) : x.toNat =
    (x >>> 0).toUInt8.toNat + 2 ^ 8 * (x >>> 8).toUInt8.toNat + 2 ^ 16 * (x >>> 16).toUInt8.toNat +
      2 ^ 24 * (x >>> 24).toUInt8.toNat := by
  have hlt := x.toNat_lt
  simp [Nat.shiftRight_eq_div_pow]
  omega

theorem underlined_inj {handle handle' : UInt32}
    (h : replacePeriodByUnderline (ipNumToString handle) =
      replacePeriodByUnderline (ipNumToString handle')) : handle = handle' := by
  have hname : ['_'].intercalate (addressParts handle) = ['_'].intercalate (addressParts handle') := by
    rw [← underlined_toList, ← underlined_toList, h]
  have hfree : ∀ x, ∀ part ∈ addressParts x, '_' ∉ part := fun x part hpart hc =>
    absurd (isDigit_of_mem_parts hpart hc) (by decide)
  have hparts : addressParts handle = addressParts handle' := by
    rw [← List.splitOn_intercalate '_' (hfree handle) (by simp [addressParts]), hname,
      List.splitOn_intercalate '_' (hfree handle') (by simp [addressParts])]
  have hbyte : ∀ shift ∈ ([0, 8, 16, 24] : List UInt32),
      (handle >>> shift).toUInt8 = (handle' >>> shift).toUInt8 := fun shift hshift => by
    have hdigits := List.map_inj_left.1 hparts shift hshift
    refine UInt8.toNat_inj.1 ?_
    rw [← Nat.ofDigitChars_ten_toDigits (n := (handle >>> shift).toUInt8.toNat), hdigits,
      Nat.ofDigitChars_ten_toDigits]
  refine UInt32.toNat_inj.1 ?_
  rw [toNat_eq_bytes handle, toNat_eq_bytes handle', hbyte 0 (by decide), hbyte 8 (by decide),
    hbyte 16 (by decide), hbyte 24 (by decide)]

/-- **Different LiDARs have different topics.** -/
theorem topicName_inj {handle handle' : UInt32} (h : topicName handle = topicName handle') :
    handle = handle' := underlined_inj ((String.append_right_inj _).1 h)

/-- A device has the handle of the LiDAR that has its place, or none. -/
structure Addressed (lds : Lds F) : Prop where
  placed : lds.cacheIndex.Placed
  listed : ∀ handle i, lds.cacheIndex.getIndex kLivoxLidarType handle = some i →
    (lds.lidars i).handle = handle
  other : ∀ i, (∀ handle, lds.cacheIndex.getIndex kLivoxLidarType handle ≠ some i) →
    (lds.lidars i).handle = 0

/-- The device of a LiDAR has a handle of its own. -/
theorem Addressed.handle_eq_iff {lds : Lds F} (h : Addressed lds) {handle : UInt32} {i : Index}
    (hi : lds.cacheIndex.getIndex kLivoxLidarType handle = some i) (hne : handle ≠ 0) (j : Index) :
    (lds.lidars j).handle = handle ↔ j = i := by
  constructor
  · intro hj
    by_contra hji
    have hother : ∀ handle', lds.cacheIndex.getIndex kLivoxLidarType handle' ≠ some j := by
      intro handle' hi'
      have heq := h.listed handle' j hi'
      rw [hj] at heq
      subst heq
      exact hji (Option.some_inj.1 (hi'.symm.trans hi))
    exact hne (hj.symm.trans (h.other j hother))
  · rintro rfl
    exact h.listed handle j hi

theorem addressed_addUserConfig {st : Lds F × List (LidarExtParameter F)} (h : Addressed st.1)
    (config : UserLivoxLidarConfig F) : Addressed (addUserConfig st config).1 := by
  unfold addUserConfig
  split
  · exact h
  · rename_i j cache hfree
    have hplaced := h.placed.getFreeIndex kLivoxLidarType config.handle
    rw [hfree] at hplaced
    have hself := getIndex_getFreeIndex_self hfree
    refine ⟨hplaced, fun handle i hi => ?_, fun i hi => ?_⟩
    · by_cases he : handle = config.handle
      · subst he
        have hij : i = j := Option.some_inj.1 (hi.symm.trans hself)
        subst hij
        simp
      · have hij : i ≠ j := by
          rintro rfl
          exact he (hplaced.getIndex_inj hi hself)
        simpa [hij] using h.listed handle i (getIndex_of_getFreeIndex hfree he hi)
    · have hij : i ≠ j := by
        rintro rfl
        exact hi _ hself
      have hbefore : ∀ handle, st.1.cacheIndex.getIndex kLivoxLidarType handle ≠ some i :=
        fun handle hold => hi handle (by
          have hkept : (st.1.cacheIndex.getFreeIndex kLivoxLidarType config.handle).2.getIndex
              kLivoxLidarType handle = some i := getIndex_getFreeIndex hold
          rwa [hfree] at hkept)
      simpa [hij] using h.other i hbefore

variable [CMath F]

theorem addressed_init {lds : Lds F} (hzero : ∀ j, (lds.lidars j).handle = 0)
    (entries : List (ConfigEntry F)) : Addressed (LdsLidar.init lds entries).lds := by
  have hfold : ∀ (configs : List (UserLivoxLidarConfig F)) (st : Lds F × List (LidarExtParameter F)),
      Addressed st.1 → Addressed (configs.foldl addUserConfig st).1 := by
    intro configs
    induction configs with
    | nil => exact fun st h => h
    | cons config configs ih => exact fun st h => ih _ (addressed_addUserConfig h config)
  refine hfold _ _ ⟨CacheIndex.placed_empty, fun handle i hi => ?_, fun i _ => hzero i⟩
  simp [CacheIndex.getIndex] at hi

/-! ## What is sent on a topic -/

variable [Host F]

omit [CMath F] in
/-- The messages of a place carry what is carried there. -/
theorem cloudsOf_at {frameId : String} {sent : List (Sent F)}
    {carried : List (Index × List (PointXyzlt F))}
    (h : List.Forall₂ (CloudOf frameId) sent carried) (i : Index) :
    List.Forall₂ (fun m points => ∃ cloud, m.message = .pointCloud2 cloud ∧ Carries cloud points)
      (sent.filter fun m => m.index = i) ((carried.filter fun c => c.1 = i).map Prod.snd) := by
  have hat : List.Forall₂ (CloudOf frameId) (sent.filter fun m => m.index = i)
      (carried.filter fun c => c.1 = i) := List.rel_filter (fun m c hm => by simp [hm.1]) h
  rw [List.forall₂_map_right_iff]
  refine hat.imp fun m c hm => ?_
  obtain ⟨-, cloud, hmessage, hcarries, -⟩ := hm
  exact ⟨cloud, hmessage, hcarries⟩

omit [CMath F] in
theorem topic_of_sent {lddc : Lddc} {d : Driver F} {pubs : List (Index × StoragePacket F)}
    {sent : List (Sent F)} (h : List.Forall₂ (SentOf lddc d) pubs sent) :
    ∀ m ∈ sent, m.topic = lddc.topic d m.index := by
  induction h with
  | nil => simp
  | cons hm _ ih =>
    refine List.forall_mem_cons.2 ⟨?_, ih⟩
    rw [hm.topic, hm.index]

/-- **The topic of a LiDAR of the file carries its decoded points and no others**, in order and each at
most once, whatever the order of the turns; and every message that is not on the topic of a LiDAR of
the file is on that of the address 0. -/
theorem topic_clouds (publishFreq : ℚ) (pubTurns : List (PubTurn F)) (s : PubHandler F)
    (tr : List (PubEvent F)) (lds : Lds F) (entries : List (ConfigEntry F)) (frameId : String)
    (ts : List NodeTurn) (hzero : ∀ j, (lds.lidars j).handle = 0)
    (hrun : (PubHandler.setPointCloudConfig publishFreq).run pubTurns = some (s, tr)) :
    ∃ sent, (Node.fed lds entries kPointCloud2Msg tr).sent
        { useMultiTopic := true, outputType := kOutputToRos, frameId } ts = some sent ∧
      (∀ handle i, (LdsLidar.init lds entries).getLidarDevice handle = some i → handle ≠ 0 →
        ∃ clouds : List (List (PointXyzlt F)),
          List.Forall₂
            (fun m points => ∃ cloud, m.message = .pointCloud2 cloud ∧ Carries cloud points)
            (sent.filter fun m => m.topic = topicName handle) clouds ∧
          clouds.flatten.Sublist (decodedIn handle tr)) ∧
      ∀ m ∈ sent, m.topic = topicName 0 ∨ ∃ handle,
        (LdsLidar.init lds entries).getLidarDevice handle = some m.index ∧
          m.topic = topicName handle := by
  have hcut := (cut_init publishFreq).run hrun
  rw [List.nil_append] at hcut
  have haddressed := addressed_init hzero entries
  obtain ⟨sent, hsent, hall⟩ := fed_sent hcut lds entries kPointCloud2Msg true frameId ts
  obtain ⟨sent', hsent', hclouds⟩ := fed_clouds hcut lds entries true frameId ts
  obtain rfl : sent = sent' := Option.some_inj.1 (hsent.symm.trans hsent')
  have htopic : ∀ m ∈ sent,
      m.topic = topicName ((LdsLidar.init lds entries).lds.lidars m.index).handle :=
    topic_of_sent hall
  refine ⟨sent, hsent, fun handle i hi hne => ?_, fun m hm => ?_⟩
  · have hfilter : (sent.filter fun m => m.topic = topicName handle) =
        sent.filter fun m => m.index = i := by
      refine List.filter_congr fun m hm => decide_eq_decide.2 ?_
      rw [htopic m hm, ← haddressed.handle_eq_iff hi hne m.index]
      exact ⟨fun hname => topicName_inj hname, fun hhandle => by rw [hhandle]⟩
    rw [hfilter]
    refine ⟨_, cloudsOf_at hclouds i, ?_⟩
    rw [← List.flatMap_def, carriedIn_at]
    obtain ⟨d, hcache, -, hkept, -⟩ := fed_threads lds entries kPointCloud2Msg tr ts
    have hplace := hkept handle i hi
    rw [hcache] at hplace
    exact fed_decoded hcut ts hplace
  · rw [htopic m hm]
    by_cases hlisted : ∃ handle,
        (LdsLidar.init lds entries).lds.cacheIndex.getIndex kLivoxLidarType handle = some m.index
    · obtain ⟨handle, hi⟩ := hlisted
      exact .inr ⟨handle, hi, by rw [haddressed.listed handle m.index hi]⟩
    · rw [haddressed.other m.index (not_exists.1 hlisted)]
      exact .inl rfl

/-- The devices before any has a handle. -/
def bareLds : Lds ℚ :=
  { (oneLds : Lds ℚ) with
    lidars := fun i => { (oneLds : Lds ℚ).lidars i with lidarType := 0, handle := 0 } }

/-- The LiDAR of the file, whose address is 1.0.0.0. -/
theorem topic_clouds_ahead :
    ∃ sent, (Node.fed bareLds [oneEntry] kPointCloud2Msg ahead.2).sent
        { useMultiTopic := true, outputType := kOutputToRos, frameId := "livox_frame" } aheadTurns =
          some sent ∧
      (∀ handle i, (LdsLidar.init bareLds [oneEntry]).getLidarDevice handle = some i → handle ≠ 0 →
        ∃ clouds : List (List (PointXyzlt ℚ)),
          List.Forall₂
            (fun m points => ∃ cloud, m.message = .pointCloud2 cloud ∧ Carries cloud points)
            (sent.filter fun m => m.topic = topicName handle) clouds ∧
          clouds.flatten.Sublist (decodedIn handle ahead.2)) ∧
      ∀ m ∈ sent, m.topic = topicName 0 ∨ ∃ handle,
        (LdsLidar.init bareLds [oneEntry]).getLidarDevice handle = some m.index ∧
          m.topic = topicName handle :=
  topic_clouds 100 _ ahead.1 ahead.2 bareLds [oneEntry] "livox_frame" aheadTurns (fun _ => rfl)
    (Option.some_get _).symm

end Livox
