import Mathlib.Data.Fintype.Basic
import Kratos.Lib.Handshake
import Kratos.Livox.Callback
import Kratos.Livox.Proof.Cache
import Kratos.Livox.Proof.Frames
import Kratos.Livox.Proof.Handled

/-!
# A LiDAR that samples has its settings

Seen from one LiDAR of the file (`Device`), the callbacks of the SDK are steps of a `Handshake` with
the settings of its entry (`Device.turn`), whatever the other LiDARs do meanwhile. So a LiDAR that
samples has acknowledged each of them with the value that was parsed, and one that was told of, with
no answer to come and no failure, samples (`sampling_acknowledged`). The parser has put each value
through an `int8_t`, which need not keep it (`blind_spot`).
-/

namespace Livox

open Handshake

/-! ## Bits -/

instance instFintypeSetting : Fintype Setting where
  elems := ⟨[Setting.dataType, .scanPattern, .blindSpot, .dualEmit], by decide⟩
  complete := fun s => by cases s <;> decide

namespace Setting

def index : Setting → Nat
  | .dataType => 0
  | .scanPattern => 1
  | .blindSpot => 2
  | .dualEmit => 3

theorem index_inj {s s' : Setting} (h : s.index = s'.index) : s = s' := by
  cases s <;> cases s' <;> first | rfl | cases h

theorem getLsbD_bit (s : Setting) (k : Nat) : s.bit.getLsbD k = decide (k = s.index) := by
  have hbit : s.bit = .twoPow 32 s.index := by cases s <;> rfl
  have hlt : s.index < 32 := by cases s <;> decide
  simp [hbit, hlt, eq_comm]

/-- The settings whose bits are set. -/
def ofBits (bits : BitVec 32) : Finset Setting := Finset.univ.filter fun s => bits.getLsbD s.index

@[simp] theorem mem_ofBits {bits : BitVec 32} {s : Setting} :
    s ∈ ofBits bits ↔ bits.getLsbD s.index = true := by simp [ofBits]

theorem ofBits_or (bits : BitVec 32) (s : Setting) :
    ofBits (bits ||| s.bit) = insert s (ofBits bits) := by
  ext s'
  simp only [mem_ofBits, BitVec.getLsbD_or, getLsbD_bit, Finset.mem_insert, Bool.or_eq_true,
    decide_eq_true_eq]
  constructor
  · rintro (h | h)
    · exact .inr h
    · exact .inl (index_inj h)
  · rintro (rfl | h)
    · exact .inr rfl
    · exact .inl h

theorem ofBits_and_not (bits : BitVec 32) (s : Setting) :
    ofBits (bits &&& ~~~s.bit) = (ofBits bits).erase s := by
  ext s'
  have hlt : s'.index < 32 := by cases s' <;> decide
  simp only [mem_ofBits, BitVec.getLsbD_and, BitVec.getLsbD_not, getLsbD_bit, Finset.mem_erase,
    Bool.and_eq_true, hlt, decide_true, Bool.not_eq_true', decide_eq_false_iff_not, true_and]
  constructor
  · rintro ⟨h, hne⟩
    exact ⟨fun he => hne (he ▸ rfl), h⟩
  · rintro ⟨hne, h⟩
    exact ⟨h, fun he => hne (index_inj he)⟩

/-- No other bit is set. -/
def Only (bits : BitVec 32) : Prop := ∀ k, bits.getLsbD k = true → ∃ s : Setting, k = s.index

theorem Only.eq_zero_iff {bits : BitVec 32} (h : Only bits) : bits = 0 ↔ ofBits bits = ∅ := by
  constructor
  · rintro rfl
    simp [ofBits]
  · intro hempty
    apply BitVec.eq_of_getLsbD_eq
    intro k _
    by_contra hk
    obtain ⟨s, rfl⟩ := h k (by simpa using hk)
    have hs : s ∉ ofBits bits := by simp [hempty]
    simp at hs
    simp [hs] at hk

theorem Only.or {bits : BitVec 32} (h : Only bits) (s : Setting) : Only (bits ||| s.bit) := by
  intro k hk
  rw [BitVec.getLsbD_or, getLsbD_bit, Bool.or_eq_true, decide_eq_true_eq] at hk
  exact hk.elim (h k) fun hk => ⟨s, hk⟩

theorem Only.and_not {bits : BitVec 32} (h : Only bits) (s : Setting) :
    Only (bits &&& ~~~s.bit) := by
  intro k hk
  rw [BitVec.getLsbD_and, Bool.and_eq_true] at hk
  exact h k hk.1

end Setting

open Setting

variable {F : Type} {c : UserLivoxLidarConfig F} {handle : UInt32} {i : Index}
  {d d' : LdsLidar F} {tr : List (SdkEvent F)}

/-! ## Requests -/

/-- The settings of a LiDAR for which there is a request. -/
def pendingOf (handle : UInt32) (requests : List (UInt32 × Request F)) : List Setting :=
  requests.filterMap fun r => if r.1 = handle then r.2.setting? else none

@[simp] theorem pendingOf_append (l l' : List (UInt32 × Request F)) :
    pendingOf handle (l ++ l') = pendingOf handle l ++ pendingOf handle l' := by
  simp [pendingOf]

/-- A request that is not for a setting of the LiDAR. -/
def Foreign (handle : UInt32) (r : UInt32 × Request F) : Prop := r.1 = handle → r.2.setting? = none

instance (handle : UInt32) (r : UInt32 × Request F) : Decidable (Foreign handle r) :=
  inferInstanceAs (Decidable (r.1 = handle → r.2.setting? = none))

theorem pendingOf_foreign {l : List (UInt32 × Request F)} (h : ∀ r ∈ l, Foreign handle r) :
    pendingOf handle l = [] := by
  apply List.filterMap_eq_nil_iff.2
  intro r hr
  split
  · rename_i hh
    exact h r hr hh
  · rfl

theorem eraseIdx_split {A : Type} {l : List A} {n : Nat} {a : A} (h : l[n]? = some a) :
    ∃ l₁ l₂, l = l₁ ++ a :: l₂ ∧ l.eraseIdx n = l₁ ++ l₂ := by
  obtain ⟨hn, rfl⟩ := List.getElem?_eq_some_iff.1 h
  refine ⟨l.take n, l.drop (n + 1), ?_, List.eraseIdx_eq_take_drop_succ ..⟩
  simp

theorem setting?_request (s : Setting) : (c.request s).setting? = some s := by cases s <;> rfl

theorem request_setBits (bits : BitVec 32) (s : Setting) :
    ({ c with setBits := bits } : UserLivoxLidarConfig F).request s = c.request s := by
  cases s <;> rfl

theorem has_setBits (bits : BitVec 32) (s : Setting) :
    ({ c with setBits := bits } : UserLivoxLidarConfig F).has s = c.has s := by
  cases s <;> rfl

/-! ## One LiDAR -/

/-- The settings that the entry of a LiDAR has. -/
def wantsOf (c : UserLivoxLidarConfig F) : Finset Setting := Finset.univ.filter fun s => c.has s

/-- The settings that a LiDAR has answered so. -/
noncomputable def answersOf (c : UserLivoxLidarConfig F) (handle : UInt32) (status : LivoxStatus)
    (tr : List (SdkEvent F)) : Finset Setting :=
  open Classical in Finset.univ.filter fun s => .answered handle (c.request s) status ∈ tr

/-- What the driver and the trace have of a LiDAR. -/
noncomputable def view (c : UserLivoxLidarConfig F) (handle : UInt32) (i : Index)
    (d : LdsLidar F) (tr : List (SdkEvent F)) : State Setting where
  started := open Classical in decide (.changed handle ∈ tr)
  unset := ofBits (d.config i).setBits
  ready := decide ((d.lds.lidars i).connectState = .sampling)
  pending := pendingOf handle d.requests
  acked := answersOf c handle .success tr
  failed := answersOf c handle .failure tr

/-- The LiDAR with the entry `c` has a place, and its requests are for the values of `c`. -/
structure Device (c : UserLivoxLidarConfig F) (handle : UInt32) (i : Index) (d : LdsLidar F) :
    Prop where
  placed : d.lds.cacheIndex.Placed
  place : d.getLidarDevice handle = some i
  config : d.config i = { c with setBits := (d.config i).setBits }
  bits : Only (d.config i).setBits
  requests : ∀ r ∈ d.requests, r.1 = handle → ∀ s, r.2.setting? = some s → r.2 = c.request s

/-! ## What does not concern a LiDAR -/

/-- A step that leaves a LiDAR as it is. -/
structure Aside (handle : UInt32) (i : Index) (d d' : LdsLidar F) : Prop where
  placed : d.lds.cacheIndex.Placed → d'.lds.cacheIndex.Placed
  place : d.getLidarDevice handle = some i → d'.getLidarDevice handle = some i
  config : d'.config i = d.config i
  connectState : (d'.lds.lidars i).connectState = (d.lds.lidars i).connectState
  requests : ∃ new, d'.requests = d.requests ++ new ∧ ∀ r ∈ new, Foreign handle r

namespace Aside

theorem refl (d : LdsLidar F) : Aside handle i d d :=
  ⟨id, id, rfl, rfl, [], (List.append_nil _).symm, fun _ h => absurd h List.not_mem_nil⟩

theorem trans {d'' : LdsLidar F} (h : Aside handle i d d')
    (h' : Aside handle i d' d'') : Aside handle i d d'' := by
  obtain ⟨new, heq, hnew⟩ := h.requests
  obtain ⟨new', heq', hnew'⟩ := h'.requests
  refine ⟨h'.placed ∘ h.placed, h'.place ∘ h.place, h'.config.trans h.config,
    h'.connectState.trans h.connectState, new ++ new', ?_, ?_⟩
  · rw [heq', heq, List.append_assoc]
  · intro r hr
    exact (List.mem_append.1 hr).elim (hnew r) (hnew' r)

/-- It asks nothing and leaves the device. -/
theorem of_lidar (hplaced : d.lds.cacheIndex.Placed → d'.lds.cacheIndex.Placed)
    (hplace : d.getLidarDevice handle = some i → d'.getLidarDevice handle = some i)
    (hlidar : d'.lds.lidars i = d.lds.lidars i) (hrequests : d'.requests = d.requests) :
    Aside handle i d d' :=
  ⟨hplaced, hplace, congrArg LidarDevice.livoxConfig hlidar,
    congrArg LidarDevice.connectState hlidar, [], hrequests.trans (List.append_nil _).symm, by simp⟩

theorem send {j : UInt32} {request : Request F} (h : Foreign handle (j, request)) :
    Aside handle i d (d.send j request) := by
  refine ⟨id, id, rfl, rfl, [(j, request)], rfl, ?_⟩
  simpa using h

theorem setBits {j : Index} (h : j ≠ i) (f : BitVec 32 → BitVec 32) :
    Aside handle i d (d.setBits j f) :=
  of_lidar id id (Function.update_of_ne h.symm ..) rfl

theorem sampleIfSet {j : Index} (h : j ≠ i) : Aside handle i d (d.sampleIfSet j) := by
  unfold LdsLidar.sampleIfSet
  split
  · exact of_lidar id id (Function.update_of_ne h.symm ..) rfl
  · exact refl d

theorem device (h : Aside handle i d d') (hd : Device c handle i d) :
    Device c handle i d' := by
  obtain ⟨new, heq, hnew⟩ := h.requests
  refine ⟨h.placed hd.placed, h.place hd.place, ?_, ?_, ?_⟩
  · rw [h.config]
    exact hd.config
  · rw [h.config]
    exact hd.bits
  · intro r hr hh s hs
    rw [heq] at hr
    rcases List.mem_append.1 hr with hr | hr
    · exact hd.requests r hr hh s hs
    · simp [hnew r hr hh] at hs

theorem view_eq (h : Aside handle i d d') : view c handle i d' tr = view c handle i d tr := by
  obtain ⟨new, heq, hnew⟩ := h.requests
  unfold view
  simp [h.config, h.connectState, heq, pendingOf_foreign hnew]

end Aside

/-! ## The operations on a LiDAR -/

namespace Device

theorem view_test (h : Device c handle i d) :
    view c handle i (d.sampleIfSet i) tr = (view c handle i d tr).test := by
  unfold LdsLidar.sampleIfSet State.test
  have hiff : (d.config i).setBits = 0 ↔ (view c handle i d tr).unset = ∅ := h.bits.eq_zero_iff
  by_cases hzero : (d.config i).setBits = 0
  · rw [if_pos hzero, if_pos (hiff.1 hzero)]
    simp [view, LdsLidar.config, Lds.setConnectState]
  · rw [if_neg hzero, if_neg fun hempty => hzero (hiff.2 hempty)]

theorem sampleIfSet (h : Device c handle i d) : Device c handle i (d.sampleIfSet i) := by
  unfold LdsLidar.sampleIfSet
  split
  · have hconfig :
        LdsLidar.config { d with lds := d.lds.setConnectState i .sampling } i = d.config i := by
      simp [LdsLidar.config, Lds.setConnectState]
    refine ⟨h.placed, h.place, ?_, ?_, h.requests⟩
    · rw [hconfig]
      exact h.config
    · rw [hconfig]
      exact h.bits
  · exact h

@[simp] theorem config_setBits (f : BitVec 32 → BitVec 32) :
    (d.setBits i f).config i = { d.config i with setBits := f (d.config i).setBits } := by
  simp [LdsLidar.config, LdsLidar.setBits]

theorem setBits (h : Device c handle i d) {f : BitVec 32 → BitVec 32}
    (hf : Only (f (d.config i).setBits)) : Device c handle i (d.setBits i f) := by
  refine ⟨h.placed, h.place, ?_, ?_, h.requests⟩
  · rw [config_setBits, h.config]
  · rw [config_setBits]
    exact hf

theorem view_setBits (f : BitVec 32 → BitVec 32) : view c handle i (d.setBits i f) tr =
    { view c handle i d tr with unset := ofBits (f (d.config i).setBits) } := by
  simp [view, LdsLidar.setBits, LdsLidar.config]

theorem request_eq (h : Device c handle i d) (s : Setting) :
    (d.config i).request s = c.request s := by
  rw [h.config, request_setBits]

theorem has_eq (h : Device c handle i d) (s : Setting) : (d.config i).has s = c.has s := by
  rw [h.config, has_setBits]

theorem send (h : Device c handle i d) (s : Setting) :
    Device c handle i (d.send handle (c.request s)) := by
  refine ⟨h.placed, h.place, h.config, h.bits, ?_⟩
  intro r hr hh s' hs'
  rcases List.mem_append.1 hr with hr | hr
  · exact h.requests r hr hh s' hs'
  · rw [List.mem_singleton.1 hr, setting?_request] at hs'
    cases hs'
    rw [List.mem_singleton.1 hr]

theorem view_send (s : Setting) : view c handle i (d.send handle (c.request s)) tr =
    { view c handle i d tr with pending := (view c handle i d tr).pending + {s} } := by
  have hpending : pendingOf handle (d.send handle (c.request s)).requests =
      pendingOf handle d.requests ++ [s] := by
    simp [LdsLidar.send, pendingOf, setting?_request]
  unfold view
  rw [hpending]
  rfl

theorem ask (h : Device c handle i d) (tr : List (SdkEvent F)) (s : Setting) :
    Device c handle i (d.ask handle i s) ∧ view c handle i (d.ask handle i s) tr =
      { view c handle i d tr with
        unset := (view c handle i d tr).unset ∪ ([s].filter c.has).toFinset
        pending := (view c handle i d tr).pending + ([s].filter c.has : List Setting) } := by
  unfold LdsLidar.ask
  rw [h.has_eq, h.request_eq]
  cases hhas : c.has s with
  | false => simp [h, hhas]
  | true =>
    refine ⟨(h.setBits (h.bits.or s)).send s, ?_⟩
    rw [if_pos rfl, view_send, view_setBits, ofBits_or]
    simp [view, hhas]

theorem asks (h : Device c handle i d) (tr : List (SdkEvent F)) (l : List Setting) :
    Device c handle i (l.foldl (LdsLidar.ask handle i) d) ∧
      view c handle i (l.foldl (LdsLidar.ask handle i) d) tr =
        { view c handle i d tr with
          unset := (view c handle i d tr).unset ∪ (l.filter c.has).toFinset
          pending := (view c handle i d tr).pending + (l.filter c.has : List Setting) } := by
  induction l generalizing d with
  | nil => simp [h]
  | cons s l ih =>
    obtain ⟨hd, hview⟩ := h.ask tr s
    obtain ⟨hd', hview'⟩ := ih hd
    refine ⟨hd', ?_⟩
    rw [List.foldl_cons, hview', hview]
    have hsplit : (s :: l).filter c.has = [s].filter c.has ++ l.filter c.has :=
      List.filter_append [s] l
    rw [hsplit]
    simp [Finset.union_assoc, Multiset.add_assoc, ← Multiset.coe_add]

end Device

/-! ## Places -/

theorem CacheIndex.Placed.indexCache_eq {cache : CacheIndex} (h : cache.Placed) {handle : UInt32}
    {i : Index} (hi : cache.getIndex kLivoxLidarType handle = some i) :
    cache.indexCache i = true := by
  obtain ⟨key, -, hi⟩ := Option.bind_eq_some_iff.1 hi
  exact h.taken key i hi

/-- What `GetFreeIndex` gives: the place that the LiDAR has, or a free one. -/
theorem getFreeIndex_cases {cache cache' : CacheIndex} {handle : UInt32} {j : Index}
    (h : cache.getFreeIndex kLivoxLidarType handle = (some j, cache')) :
    (cache.getIndex kLivoxLidarType handle = some j ∧ cache' = cache) ∨
      ∃ key, generateIndexKey kLivoxLidarType handle = some key ∧ cache.indexCache j = false ∧
        cache.getIndex kLivoxLidarType handle = none ∧ cache' =
          { mapIndex := Function.update cache.mapIndex key (some j)
            indexCache := Function.update cache.indexCache j true } := by
  unfold CacheIndex.getFreeIndex at h
  split at h
  · cases h
  · rename_i key hkey
    unfold CacheIndex.getIndex
    rw [hkey, Option.bind_some]
    split at h
    · rename_i index hindex
      cases h
      exact .inl ⟨hindex, rfl⟩
    · rename_i hnone
      rcases CacheIndex.takeIndex_cases cache key with ⟨heq, -⟩ | ⟨k, hfree, heq⟩
      · rw [heq] at h
        cases h
      · rw [heq] at h
        cases h
        exact .inr ⟨key, rfl, hfree, hnone, rfl⟩

/-- The LiDAR of the call has the place. -/
theorem getIndex_getFreeIndex_self {cache cache' : CacheIndex} {handle : UInt32} {j : Index}
    (h : cache.getFreeIndex kLivoxLidarType handle = (some j, cache')) :
    cache'.getIndex kLivoxLidarType handle = some j := by
  rcases getFreeIndex_cases h with ⟨hhas, rfl⟩ | ⟨key, hkey, -, -, rfl⟩
  · exact hhas
  · unfold CacheIndex.getIndex
    rw [hkey]
    exact Function.update_self ..

/-- No other LiDAR gets one. -/
theorem getIndex_of_getFreeIndex {cache cache' : CacheIndex} {handle handle' : UInt32} {i j : Index}
    (h : cache.getFreeIndex kLivoxLidarType handle' = (some j, cache')) (hne : handle ≠ handle')
    (hi : cache'.getIndex kLivoxLidarType handle = some i) :
    cache.getIndex kLivoxLidarType handle = some i := by
  rcases getFreeIndex_cases h with ⟨-, rfl⟩ | ⟨key, hkey, -, -, rfl⟩
  · exact hi
  · obtain ⟨key', hkey', hi⟩ := Option.bind_eq_some_iff.1 hi
    have hkeys : key' ≠ key := fun he => hne (generateIndexKey_inj hkey' (he ▸ hkey))
    unfold CacheIndex.getIndex
    rw [hkey']
    exact (Function.update_of_ne hkeys ..).symm.trans hi

/-- A call fails only for a LiDAR without a place. -/
theorem getIndex_eq_none {cache cache' : CacheIndex} {handle : UInt32}
    (h : cache.getFreeIndex kLivoxLidarType handle = (none, cache')) :
    cache.getIndex kLivoxLidarType handle = none := by
  unfold CacheIndex.getFreeIndex at h
  unfold CacheIndex.getIndex
  split at h
  · rename_i hkey
    simp [hkey]
  · rename_i key hkey
    split at h
    · cases h
    · rename_i hnone
      simp [hkey, hnone]

/-! ## The callbacks of other LiDARs -/

namespace Aside

/-- Another LiDAR has another place. -/
theorem place_ne (h : Device c handle i d) {handle' : UInt32} {j : Index} (hne : handle' ≠ handle)
    (hj : d.getLidarDevice handle' = some j) : j ≠ i := by
  rintro rfl
  exact hne (h.placed.getIndex_inj hj h.place)

theorem ask {handle' : UInt32} {j : Index} (hne : handle' ≠ handle) (hj : j ≠ i) (s : Setting) :
    Aside handle i d (d.ask handle' j s) := by
  unfold LdsLidar.ask
  split
  · exact (setBits hj _).trans (send fun h => absurd h hne)
  · exact refl d

theorem asks {handle' : UInt32} {j : Index} (hne : handle' ≠ handle) (hj : j ≠ i)
    (l : List Setting) : Aside handle i d (l.foldl (LdsLidar.ask handle' j) d) := by
  induction l generalizing d with
  | nil => exact refl d
  | cons s l ih => exact (ask hne hj s).trans ih

/-- The calls at the end of `LidarInfoChangeCallback`. -/
theorem sends (handle' : UInt32) :
    Aside handle i d ((d.send handle' .workMode).send handle' .imuData) :=
  (send fun _ => rfl).trans (send fun _ => rfl)

theorem newDevice (h : Device c handle i d) {handle' : UInt32} {j : Index} {cache : CacheIndex}
    (hfree : d.lds.cacheIndex.getFreeIndex kLivoxLidarType handle' = (some j, cache))
    (hnone : d.getLidarDevice handle' = none) (lidar : LidarDevice F) :
    Aside handle i d
      { d with
        lds := { d.lds with cacheIndex := cache, lidars := Function.update d.lds.lidars j lidar } } := by
  have hcache : (d.lds.cacheIndex.getFreeIndex kLivoxLidarType handle').2 = cache := by rw [hfree]
  refine of_lidar (fun hp => ?_) (fun hi => ?_) ?_ rfl
  · exact hcache ▸ hp.getFreeIndex kLivoxLidarType handle'
  · exact hcache ▸ getIndex_getFreeIndex hi
  · apply Function.update_of_ne
    rintro rfl
    have htaken := h.placed.indexCache_eq h.place
    rcases getFreeIndex_cases hfree with ⟨hhas, -⟩ | ⟨-, -, hfalse, -⟩
    · exact absurd (hnone.symm.trans hhas) (by simp)
    · simp [hfalse] at htaken

theorem infoChange (h : Device c handle i d) {handle' : UInt32} (hne : handle' ≠ handle) :
    Aside handle i d (d.lidarInfoChangeCallback handle') := by
  unfold LdsLidar.lidarInfoChangeCallback
  split
  · rename_i hnone
    split
    · exact refl d
    · rename_i j cache hfree
      exact (newDevice h hfree hnone _).trans (sends handle')
  · rename_i j hj
    have hji := place_ne h hne hj
    exact (asks hne hji _).trans ((sampleIfSet hji).trans ((send fun _ => rfl).trans (sends handle')))

theorem setCallback (h : Device c handle i d) {handle' : UInt32} (hne : handle' ≠ handle)
    (s : Setting) (status : LivoxStatus) : Aside handle i d (d.setCallback s status handle') := by
  unfold LdsLidar.setCallback
  split
  · exact refl d
  · rename_i j hj
    have hji := place_ne h hne hj
    cases status with
    | success => exact (setBits hji _).trans (sampleIfSet hji)
    | timeout => exact send fun he => absurd he hne
    | failure => exact refl d

theorem callback (h : Device c handle i d) {handle' : UInt32} {r : Request F}
    (hr : Foreign handle (handle', r)) (status : LivoxStatus) (response : Bool) :
    Aside handle i d (d.callback handle' status response r) := by
  have hne : ∀ s, r.setting? = some s → handle' ≠ handle := fun s hs he => by
    simp [hr he] at hs
  cases r with
  | pclDataType dataType => exact setCallback h (hne _ rfl) .dataType status
  | scanPattern pattern => exact setCallback h (hne _ rfl) .scanPattern status
  | blindSpot distance => exact setCallback h (hne _ rfl) .blindSpot status
  | dualEmit enable => exact setCallback h (hne _ rfl) .dualEmit status
  | installAttitude attitude =>
    unfold LdsLidar.callback LdsLidar.setAttitudeCallback
    dsimp only
    split
    · exact refl d
    · cases status with
      | timeout => exact send fun _ => rfl
      | success | failure => exact refl d
  | workMode =>
    unfold LdsLidar.callback LdsLidar.workModeChangedCallback
    dsimp only
    split
    · exact send fun _ => rfl
    · exact refl d
  | imuData =>
    unfold LdsLidar.callback LdsLidar.enableLivoxLidarImuDataCallback
    dsimp only
    split
    · exact refl d
    · split
      · exact send fun _ => rfl
      · exact refl d

end Aside

/-! ## The turns -/

theorem answersOf_foreign {status : LivoxStatus} {e : SdkEvent F}
    (h : ∀ s, e ≠ .answered handle (c.request s) status) :
    answersOf c handle status (tr ++ [e]) = answersOf c handle status tr := by
  ext s
  simp [answersOf, Ne.symm (h s)]

theorem request_inj {s s' : Setting} (h : c.request s = c.request s') : s = s' := by
  have hs := congrArg Request.setting? h
  simpa [setting?_request] using hs

theorem answersOf_answered (s : Setting) (status : LivoxStatus) :
    answersOf c handle status (tr ++ [.answered handle (c.request s) status]) =
      insert s (answersOf c handle status tr) := by
  ext s'
  simp only [answersOf, Finset.mem_filter, Finset.mem_univ, true_and, List.mem_append,
    List.mem_singleton, SdkEvent.answered.injEq, and_true, Finset.mem_insert]
  constructor
  · rintro (h | h)
    · exact .inr h
    · exact .inl (request_inj h)
  · rintro (rfl | h)
    · exact .inr rfl
    · exact .inl h

theorem view_changed : view c handle i d (tr ++ [.changed handle]) =
    { view c handle i d tr with started := true } := by
  unfold view
  rw [answersOf_foreign (by simp), answersOf_foreign (by simp)]
  simp

theorem view_answered (s : Setting) (status : LivoxStatus) :
    view c handle i d (tr ++ [.answered handle (c.request s) status]) =
      { view c handle i d tr with
        acked := if status = .success then insert s (view c handle i d tr).acked
          else (view c handle i d tr).acked
        failed := if status = .failure then insert s (view c handle i d tr).failed
          else (view c handle i d tr).failed } := by
  have hstarted : SdkEvent.changed handle ∈ tr ++ [.answered handle (c.request s) status] ↔
      SdkEvent.changed handle ∈ tr := by simp
  unfold view
  simp only [hstarted]
  cases status with
  | success => simp [answersOf_answered, answersOf_foreign]
  | timeout => simp [answersOf_foreign]
  | failure => simp [answersOf_answered, answersOf_foreign]

/-- An event of another LiDAR, or of no setting. -/
theorem view_foreign {e : SdkEvent F} (hchanged : e ≠ .changed handle)
    (hanswered : ∀ s status, e ≠ .answered handle (c.request s) status) :
    view c handle i d (tr ++ [e]) = view c handle i d tr := by
  unfold view
  rw [answersOf_foreign fun s => hanswered s _, answersOf_foreign fun s => hanswered s _]
  simp [hchanged.symm]

theorem wantsOf_val : (wantsOf c).val =
    (([.dataType, .scanPattern, .blindSpot, .dualEmit] : List Setting).filter c.has : List Setting) := by
  have huniv : (Finset.univ : Finset Setting).val =
      ([.dataType, .scanPattern, .blindSpot, .dualEmit] : List Setting) := rfl
  unfold wantsOf
  rw [Finset.filter_val, huniv, Multiset.filter_coe]
  simp

theorem wantsOf_toFinset :
    (([.dataType, .scanPattern, .blindSpot, .dualEmit] : List Setting).filter c.has).toFinset =
      wantsOf c := by
  ext s
  cases s <;> simp [wantsOf]

namespace Device

theorem infoChange (h : Device c handle i d) (tr : List (SdkEvent F)) :
    Device c handle i (d.lidarInfoChangeCallback handle) ∧
    Step (wantsOf c) (view c handle i d tr)
      (view c handle i (d.lidarInfoChangeCallback handle) (tr ++ [.changed handle])) := by
  unfold LdsLidar.lidarInfoChangeCallback
  rw [h.place]
  dsimp only
  obtain ⟨hd, hview⟩ := h.asks (tr ++ [.changed handle])
    [.dataType, .scanPattern, .blindSpot, .dualEmit]
  have haside : ∀ d' : LdsLidar F, Aside handle i d'
      (((d'.send (d'.config i).handle (.installAttitude (d'.config i).extrinsicParam)).send handle
        .workMode).send handle .imuData) :=
    fun d' => (Aside.send fun _ => rfl).trans (Aside.sends handle)
  refine ⟨(haside _).device hd.sampleIfSet, ?_⟩
  rw [(haside _).view_eq, hd.view_test, hview, view_changed, ← wantsOf_val, wantsOf_toFinset]
  exact .ask

/-- A request is no longer there. -/
theorem answered (h : Device c handle i d) (n : Nat) :
    Device c handle i { d with requests := d.requests.eraseIdx n } :=
  ⟨h.placed, h.place, h.config, h.bits,
    fun r hr => h.requests r ((List.eraseIdx_sublist ..).subset hr)⟩

theorem view_eraseIdx (i : Index) (tr : List (SdkEvent F)) {n : Nat} {s : Setting}
    (hn : d.requests[n]? = some (handle, c.request s)) :
    s ∈ (view c handle i d tr).pending ∧
      view c handle i { d with requests := d.requests.eraseIdx n } tr =
        { view c handle i d tr with pending := (view c handle i d tr).pending.erase s } := by
  obtain ⟨l₁, l₂, hsplit, herase⟩ := eraseIdx_split hn
  have hone : pendingOf handle [(handle, c.request s)] = [s] := by
    simp [pendingOf, setting?_request]
  have hpending : (pendingOf handle d.requests).Perm
      (s :: pendingOf handle (d.requests.eraseIdx n)) := by
    rw [herase, hsplit, ← List.singleton_append, pendingOf_append, pendingOf_append, hone,
      pendingOf_append]
    exact List.perm_middle
  have hcoe : (pendingOf handle d.requests : Multiset Setting) =
      s ::ₘ pendingOf handle (d.requests.eraseIdx n) := Multiset.coe_eq_coe.2 hpending
  unfold view
  dsimp only [LdsLidar.config]
  rw [hcoe]
  simp

theorem view_foreign_eraseIdx {n : Nat} {r : UInt32 × Request F} (hn : d.requests[n]? = some r)
    (hr : Foreign handle r) :
    view c handle i { d with requests := d.requests.eraseIdx n } tr = view c handle i d tr := by
  obtain ⟨l₁, l₂, hsplit, herase⟩ := eraseIdx_split hn
  have hpending : pendingOf handle (d.requests.eraseIdx n) = pendingOf handle d.requests := by
    have hone : pendingOf handle [r] = [] := pendingOf_foreign (by simpa using hr)
    rw [herase, hsplit, ← List.singleton_append, pendingOf_append, pendingOf_append,
      pendingOf_append, hone, List.nil_append]
  unfold view
  dsimp only [LdsLidar.config]
  rw [hpending]

theorem setCallback_eq (h : Device c handle i d) (s : Setting) (status : LivoxStatus) :
    d.setCallback s status handle =
      match status with
      | .success => (d.setBits i (· &&& ~~~s.bit)).sampleIfSet i
      | .timeout => d.send handle (c.request s)
      | .failure => d := by
  unfold LdsLidar.setCallback
  rw [h.place]
  cases status with
  | timeout => simp [h.request_eq]
  | success | failure => rfl

theorem setCallback (h : Device c handle i d) {n : Nat} {s : Setting} (status : LivoxStatus)
    (hn : d.requests[n]? = some (handle, c.request s))
    (hd : d' = ({ d with requests := d.requests.eraseIdx n } : LdsLidar F).setCallback s status handle) :
    Device c handle i d' ∧ Relation.ReflTransGen (Step (wantsOf c)) (view c handle i d tr)
      (view c handle i d' (tr ++ [.answered handle (c.request s) status])) := by
  obtain ⟨hmem, hview⟩ := view_eraseIdx i tr hn
  have h' := h.answered n
  rw [h'.setCallback_eq] at hd
  subst hd
  cases status with
  | success =>
    have hset : Device c handle i
        (LdsLidar.setBits { d with requests := d.requests.eraseIdx n } i (· &&& ~~~s.bit)) :=
      h'.setBits (h'.bits.and_not s)
    refine ⟨hset.sampleIfSet, .single ?_⟩
    dsimp only
    rw [hset.view_test, view_setBits, view_answered, hview, ofBits_and_not]
    exact .ack s hmem
  | timeout =>
    refine ⟨h'.send s, ?_⟩
    dsimp only
    rw [view_send, view_answered, hview]
    -- asked for again, it is as pending as before
    have hagain : (view c handle i d tr).pending.erase s + {s} = (view c handle i d tr).pending := by
      rw [Multiset.add_comm]
      exact Multiset.cons_erase hmem
    dsimp only
    rw [hagain]
    exact .refl
  | failure =>
    dsimp only
    rw [view_answered, hview]
    exact ⟨h', .single (.fail s hmem)⟩

theorem turn (h : Device c handle i d) (tr : List (SdkEvent F)) (t : SdkTurn) :
    Device c handle i (d.turn t).1 ∧ Relation.ReflTransGen (Step (wantsOf c))
      (view c handle i d tr) (view c handle i (d.turn t).1 (tr ++ (d.turn t).2.toList)) := by
  cases t with
  | infoChange handle' =>
    by_cases hne : handle' = handle
    · subst hne
      obtain ⟨hd, hstep⟩ := h.infoChange tr
      exact ⟨hd, .single hstep⟩
    · have haside := Aside.infoChange h hne
      refine ⟨haside.device h, ?_⟩
      rw [LdsLidar.turn, Option.toList_some, haside.view_eq,
        view_foreign (by simpa using hne) (by simp)]
  | answer n status response =>
    unfold LdsLidar.turn
    dsimp only
    cases hn : d.requests[n]? with
    | none => simp [h, Relation.ReflTransGen.refl]
    | some r =>
      obtain ⟨handle', r⟩ := r
      dsimp only
      by_cases hr : Foreign handle (handle', r)
      · -- not for a setting of the LiDAR
        have haside := Aside.callback (h.answered n) hr status response
        have hsame : view c handle i { d with requests := d.requests.eraseIdx n } tr =
            view c handle i d tr := view_foreign_eraseIdx hn hr
        refine ⟨haside.device (h.answered n), ?_⟩
        rw [Option.toList_some, haside.view_eq, view_foreign (by simp), hsame]
        rintro s status' he
        cases he
        simp [Foreign, setting?_request] at hr
      · obtain ⟨rfl, hsome⟩ := Classical.not_imp.1 hr
        obtain ⟨s, hs⟩ := Option.ne_none_iff_exists'.1 hsome
        have hreq := h.requests _ (List.mem_of_getElem? hn) rfl s hs
        dsimp only at hreq
        subst hreq
        have hcallback : ∀ d' : LdsLidar F, d'.callback handle' status response (c.request s) =
            d'.setCallback s status handle' := by
          intro d'
          cases s <;> rfl
        rw [hcallback]
        exact h.setCallback status hn rfl

theorem run (h : Device c handle i d) (tr : List (SdkEvent F)) (ts : List SdkTurn) :
    Device c handle i (d.run ts) ∧ Relation.ReflTransGen (Step (wantsOf c))
      (view c handle i d tr) (view c handle i (d.run ts) (tr ++ d.trace ts)) := by
  induction ts generalizing d tr with
  | nil =>
    rw [LdsLidar.trace, List.append_nil]
    exact ⟨h, .refl⟩
  | cons t ts ih =>
    obtain ⟨hd, hstep⟩ := h.turn tr t
    obtain ⟨hd', hrest⟩ := ih hd (tr ++ (d.turn t).2.toList)
    rw [List.append_assoc] at hrest
    exact ⟨hd', hstep.trans hrest⟩

theorem answered_eq (h : Device c handle i d) {ts : List SdkTurn} {r : Request F}
    {status : LivoxStatus} (hr : .answered handle r status ∈ d.trace ts) {s : Setting}
    (hs : r.setting? = some s) : r = c.request s := by
  induction ts generalizing d with
  | nil => cases hr
  | cons t ts ih =>
    rcases List.mem_append.1 hr with hr | hr
    · cases t with
      | infoChange handle' => simp [LdsLidar.turn] at hr
      | answer n status' response =>
        unfold LdsLidar.turn at hr
        dsimp only at hr
        cases hn : d.requests[n]? with
        | none => simp [hn] at hr
        | some r' =>
          simp only [hn, Option.toList_some, List.mem_singleton, SdkEvent.answered.injEq] at hr
          obtain ⟨rfl, rfl, -⟩ := hr
          exact h.requests r' (List.mem_of_getElem? hn) rfl s hs
    · exact ih (h.turn [] t).1 hr

end Device

/-! ## The devices of the file -/

/-- The entry that counts for a LiDAR is the last one of it. -/
def entryOf (configs : List (UserLivoxLidarConfig F)) (handle : UInt32) :
    Option (UserLivoxLidarConfig F) :=
  (configs.filter fun config => config.handle = handle).getLast?

/-- Between two turns of the loop in `InitLivoxLidar`. -/
structure Listed (configs : List (UserLivoxLidarConfig F)) (lds : Lds F) : Prop where
  placed : lds.cacheIndex.Placed
  config : ∀ handle i, lds.cacheIndex.getIndex kLivoxLidarType handle = some i →
    entryOf configs handle = some (lds.lidars i).livoxConfig
  off : ∀ i, (lds.lidars i).connectState = .off

theorem entryOf_concat (configs : List (UserLivoxLidarConfig F)) (config : UserLivoxLidarConfig F)
    (handle : UInt32) : entryOf (configs ++ [config]) handle =
      if config.handle = handle then some config else entryOf configs handle := by
  unfold entryOf
  by_cases h : config.handle = handle <;> simp [h]

theorem listed_addUserConfig {configs : List (UserLivoxLidarConfig F)}
    {st : Lds F × List (LidarExtParameter F)} (h : Listed configs st.1)
    (config : UserLivoxLidarConfig F) : Listed (configs ++ [config]) (addUserConfig st config).1 := by
  unfold addUserConfig
  split
  · rename_i hnone
    refine ⟨h.placed, fun handle i hi => ?_, h.off⟩
    have hne : config.handle ≠ handle := by
      rintro rfl
      rw [getIndex_eq_none hnone] at hi
      cases hi
    rw [entryOf_concat, if_neg hne]
    exact h.config handle i hi
  · rename_i j cache hfree
    have hplaced := h.placed.getFreeIndex kLivoxLidarType config.handle
    rw [hfree] at hplaced
    refine ⟨hplaced, fun handle i hi => ?_, fun i => ?_⟩
    · rw [entryOf_concat]
      by_cases he : config.handle = handle
      · subst he
        have hij : i = j := Option.some_inj.1 (hi.symm.trans (getIndex_getFreeIndex_self hfree))
        subst hij
        simp
      · have hij : i ≠ j := by
          rintro rfl
          exact he (hplaced.getIndex_inj (getIndex_getFreeIndex_self hfree) hi)
        have hold := h.config handle i (getIndex_of_getFreeIndex hfree (Ne.symm he) hi)
        simpa [he, hij] using hold
    · by_cases hij : i = j
      · subst hij
        simpa using h.off i
      · simpa [hij] using h.off i

theorem listed_initLivoxLidar {lds : Lds F} (hplaced : lds.cacheIndex = {})
    (hoff : ∀ i, (lds.lidars i).connectState = .off) (configs : List (UserLivoxLidarConfig F)) :
    Listed configs (initLivoxLidar lds configs).1 := by
  induction configs using List.reverseRecOn with
  | nil =>
    refine ⟨hplaced ▸ CacheIndex.placed_empty, fun handle i hi => ?_, hoff⟩
    simp [initLivoxLidar, hplaced, CacheIndex.getIndex] at hi
  | append_singleton configs config ih =>
    unfold initLivoxLidar at ih ⊢
    rw [List.foldl_append]
    exact listed_addUserConfig ih config

variable [CMath F]

/-- The entry that counts is one of the file. -/
theorem mem_of_entryOf {entries : List (ConfigEntry F)}
    (h : entryOf (parseUserConfigs entries) handle = some c) :
    ∃ entry ∈ entries, parseUserConfig entry = some c ∧ c.handle = handle := by
  obtain ⟨hmem, hhandle⟩ := List.mem_filter.1 (List.mem_of_getLast? h)
  obtain ⟨entry, hentry, hparse⟩ := List.mem_filterMap.1 hmem
  exact ⟨entry, hentry, hparse, of_decide_eq_true hhandle⟩

theorem setBits_parseUserConfig {entry : ConfigEntry F} (h : parseUserConfig entry = some c) :
    c.setBits = 0 := by
  obtain ⟨_, -, rfl⟩ := Option.map_eq_some_iff.1 h
  rfl

theorem listed_init (lds : Lds F) (entries : List (ConfigEntry F)) :
    Listed (parseUserConfigs entries) (LdsLidar.init lds entries).lds := by
  apply listed_initLivoxLidar
  · rfl
  · exact fun _ => rfl

theorem init_connectState (lds : Lds F) (entries : List (ConfigEntry F)) (i : Index) :
    ((LdsLidar.init lds entries).lds.lidars i).connectState = .off := (listed_init lds entries).off i

/-- What the driver knows of a LiDAR of the file before the SDK has called. -/
theorem device_init (lds : Lds F) (entries : List (ConfigEntry F))
    (hplace : (LdsLidar.init lds entries).getLidarDevice handle = some i)
    (hentry : entryOf (parseUserConfigs entries) handle = some c) :
    Device c handle i (.init lds entries) ∧ view c handle i (.init lds entries) [] = {} := by
  have hlisted := listed_init lds entries
  have hconfig : (LdsLidar.init lds entries).config i = c :=
    Option.some_inj.1 ((hlisted.config handle i hplace).symm.trans hentry)
  have hoff := init_connectState lds entries i
  obtain ⟨entry, -, hparse, -⟩ := mem_of_entryOf hentry
  have hbits := setBits_parseUserConfig hparse
  have hrequests : (LdsLidar.init lds entries).requests = [] := rfl
  refine ⟨⟨hlisted.placed, hplace, ?_, ?_, ?_⟩, ?_⟩
  · rw [hconfig]
  · rw [hconfig, hbits]
    intro k hk
    simp at hk
  · simp [hrequests]
  · unfold view
    rw [hconfig, hoff, hbits, hrequests]
    simp [ofBits, pendingOf, answersOf]

/-- **A LiDAR of the file samples once its settings are acknowledged, and not before**: when it
samples it has acknowledged each that the parser has found in its entry, with the value parsed, and
when it was told of, with no answer to come and none that failed, it samples. No other value is asked
of it. -/
theorem sampling_acknowledged (lds : Lds F) (entries : List (ConfigEntry F)) (ts : List SdkTurn)
    (handle : UInt32) (i : Index) (c : UserLivoxLidarConfig F)
    (hplace : (LdsLidar.init lds entries).getLidarDevice handle = some i)
    (hentry : entryOf (parseUserConfigs entries) handle = some c) :
    let d := (LdsLidar.init lds entries).run ts
    let tr := (LdsLidar.init lds entries).trace ts
    ((d.lds.lidars i).connectState = .sampling →
      ∀ s, c.has s = true → .answered handle (c.request s) .success ∈ tr) ∧
    (.changed handle ∈ tr → (∀ r ∈ d.requests, Foreign handle r) →
      (∀ s, .answered handle (c.request s) .failure ∉ tr) →
        (d.lds.lidars i).connectState = .sampling) ∧
    ∀ r status s, .answered handle r status ∈ tr → r.setting? = some s → r = c.request s := by
  intro d tr
  obtain ⟨hd, hview⟩ := device_init lds entries hplace hentry
  obtain ⟨-, hrun⟩ := hd.run [] ts
  rw [hview, List.nil_append] at hrun
  have hinv : Inv (wantsOf c) (view c handle i d tr) := inv_init.run hrun
  refine ⟨fun hsampling s hs => ?_, fun hchanged hrequests hfailed => ?_, fun r status s hr hs => ?_⟩
  · have hacked := hinv.ready (decide_eq_true hsampling) s (by simp [wantsOf, hs])
    simpa [view, answersOf] using hacked
  · have hready := hinv.ready_of_settled (by simpa [view] using hchanged)
      (by simp [view, pendingOf_foreign hrequests])
      (by simpa [view, answersOf, Finset.filter_eq_empty_iff] using hfailed)
    simpa [view] using hready
  · exact hd.answered_eq hr hs

/-- The entry of a LiDAR with two settings. -/
def oneEntry : ConfigEntry ℚ := { ip := some 1, pclDataType := some 1, blindSpotSet := some 50 }

/-- It is told of, and acknowledges both, the first one at the second time. -/
def oneSetup : List SdkTurn :=
  [.infoChange 1, .answer 0 .timeout false, .answer 0 .success true, .answer 3 .success true]

theorem sampling_acknowledged_one :
    let c := (parseUserConfig oneEntry).get (by decide)
    let d := (LdsLidar.init oneLds [oneEntry]).run oneSetup
    let tr := (LdsLidar.init oneLds [oneEntry]).trace oneSetup
    ((d.lds.lidars 0).connectState = .sampling →
      ∀ s, c.has s = true → .answered 1 (c.request s) .success ∈ tr) ∧
    (.changed 1 ∈ tr → (∀ r ∈ d.requests, Foreign 1 r) →
      (∀ s, .answered 1 (c.request s) .failure ∉ tr) →
        (d.lds.lidars 0).connectState = .sampling) ∧
    ∀ r status s, .answered 1 r status ∈ tr → r.setting? = some s → r = c.request s :=
  sampling_acknowledged oneLds [oneEntry] oneSetup 1 0 _ (by decide +kernel) (by decide +kernel)

/-- The LiDAR samples then. -/
example : (((LdsLidar.init oneLds [oneEntry]).run oneSetup).lds.lidars 0).connectState = .sampling := by
  decide +kernel

/-- An `int8_t` keeps what the file allows up to 127. -/
theorem toInt8_blindSpot {n : Int32} (hlow : 50 ≤ n) (hhigh : n ≤ 200) :
    n.toInt8.toInt32.toUInt32 = n.toUInt32 ↔ n < 128 := by
  have hall : ∀ k : Fin 201, 50 ≤ k.val →
      ((Int32.ofNat k).toInt8.toInt32.toUInt32 = (Int32.ofNat k).toUInt32 ↔
        Int32.ofNat k < 128) := by decide +kernel
  have hlow' : 50 ≤ n.toInt := Int32.le_iff_toInt_le.1 hlow
  have hhigh' : n.toInt ≤ 200 := Int32.le_iff_toInt_le.1 hhigh
  have hk := hall ⟨n.toInt.toNat, by omega⟩ (by dsimp only; omega)
  have hn : Int32.ofNat n.toInt.toNat = n := by
    rw [← Int32.ofInt_eq_ofNat, Int.toNat_of_nonneg (by omega), Int32.ofInt_toInt]
  dsimp only at hk
  rwa [hn] at hk

/-- **A blind spot of 128 centimetres or more is not set**, although the file may have up to 200: what
the LiDAR is asked for then is another distance, in every run. -/
theorem blind_spot (lds : Lds F) (entries : List (ConfigEntry F)) (ts : List SdkTurn)
    (handle : UInt32) (i : Index) (entry : ConfigEntry F) (c : UserLivoxLidarConfig F) (n : Int32)
    (distance : UInt32) (status : LivoxStatus)
    (hplace : (LdsLidar.init lds entries).getLidarDevice handle = some i)
    (hentry : entryOf (parseUserConfigs entries) handle = some c)
    (hparse : parseUserConfig entry = some c) (hn : entry.blindSpotSet = some n)
    (hlow : 50 ≤ n) (hhigh : n ≤ 200)
    (hanswered : .answered handle (.blindSpot distance) status ∈
      (LdsLidar.init lds entries).trace ts) :
    distance = n.toUInt32 ↔ n < 128 := by
  obtain ⟨hd, -⟩ := device_init lds entries hplace hentry
  have hreq := hd.answered_eq hanswered (s := .blindSpot) rfl
  obtain ⟨ip, -, rfl⟩ := Option.map_eq_some_iff.1 hparse
  injection hreq with hdistance
  rw [hdistance, hn]
  exact toInt8_blindSpot hlow hhigh

theorem blind_spot_one : (4294967240 : UInt32) = (200 : Int32).toUInt32 ↔ (200 : Int32) < 128 :=
  blind_spot (F := ℚ) oneLds [{ oneEntry with blindSpotSet := some 200 }] oneSetup 1 0
    { oneEntry with blindSpotSet := some 200 }
    ((parseUserConfig { oneEntry with blindSpotSet := some 200 }).get (by decide)) 200 4294967240
    .success (by decide +kernel) (by decide +kernel) (by decide +kernel) rfl (by decide) (by decide)
    (by decide +kernel)

end Livox
