import Kratos.Waypoint.Proof.Views
import Mathlib.Data.List.Perm.Subperm

/-!
# What the viewer shows

A viewer keeps a marker under its namespace and id until a message replaces or deletes it
(`Display.receive`). `publish_markers` numbers the resolvable waypoints from 0 and deletes nothing.

* **The extent** (`Extent d M`): the ids that are shown are those below `M`, the largest number of
  waypoints published so far (`extent_watch`).
* Only the ids of the newest message are up to date (`receive_pairsFrom`). So the display is right
  after it iff no earlier message had more waypoints (`shows_iff`), and right throughout a run iff
  the number never goes down (`shows_throughout_iff`).
-/

namespace Waypoint

open WaypointManager

variable {S P F : Type}

/-! ## The viewer -/

/-- Namespace and id of a marker. -/
abbrev Marker.key (mk : Marker F) : String × Int := (mk.ns, mk.id)

/-- The markers that are shown. -/
abbrev Display (F : Type) := String × Int → Option (Marker F)

def Display.show (d : Display F) (mk : Marker F) : Display F :=
  match mk.action with
  | .add => Function.update d mk.key (some mk)
  | .delete => Function.update d mk.key none
  | .deleteAll => fun _ => none

def Display.receive (d : Display F) (ms : List (Marker F)) : Display F := ms.foldl Display.show d

theorem receive_eq_putAll {d : Display F} {ms : List (Marker F)} (h : ∀ mk ∈ ms, mk.action = .add) :
    d.receive ms = Keyed.putAll (ms.map fun mk => (mk.key, mk)) d := by
  induction ms generalizing d with
  | nil => rfl
  | cons mk ms ih =>
    have hshow : d.show mk = Function.update d mk.key (some mk) := by
      rw [Display.show, h mk List.mem_cons_self]
    have hrest := ih (d := d.show mk) fun mk' hmk' => h mk' (List.mem_cons_of_mem _ hmk')
    rw [hshow] at hrest
    exact (congrArg (List.foldl Display.show · ms) hshow).trans hrest

/-- A call, or `publish_markers`: by its timer, or after a callback of GLIM. -/
inductive Op (S P : Type) where
  | call (c : Call S P)
  | publish (now : Int)

section
variable [LE S] [DecidableLE S] [Mul P] [Inv P] [Add F] [OfScientific F]

/-- The manager and the viewer. -/
def watchStep (E : Eigen P F) (w : WaypointManager S P × Display F) :
    Op S P → WaypointManager S P × Display F
  | .call c => (w.1.step c, w.2)
  | .publish now => (w.1, ((w.1.publishMarkers E true now).map w.2.receive).getD w.2)

def watch [Zero S] [One P] (E : Eigen P F) (ops : List (Op S P)) :
    WaypointManager S P × Display F :=
  ops.foldl (watchStep E) (init, fun _ => none)

/-- How many waypoints are resolvable at each `publish_markers`, from a manager on. -/
def counts (m : WaypointManager S P) : List (Op S P) → List Nat
  | [] => []
  | .call c :: ops => counts (m.step c) ops
  | .publish _ :: ops => m.resolvable.length :: counts m ops

end

/-- The display is one sphere and one label for each waypoint that `get_waypoint` finds, as of
`now`, and nothing else. -/
def Shows [Add F] [OfScientific F] [Mul P] (E : Eigen P F) (m : WaypointManager S P) (now : Int)
    (d : Display F) : Prop :=
  ∃ id : String → Int,
    (∀ n n' T T', (m.getWaypointCb n).pose = some T → (m.getWaypointCb n').pose = some T' →
      id n = id n' → n = n') ∧
    ∀ key mk, d key = some mk ↔ key = mk.key ∧ ∃ n T, (m.getWaypointCb n).pose = some T ∧
      (mk = sphereMarker now (id n) (E.markerPose T) ∨
        mk = textMarker now (id n) (E.markerPose T) n)

/-! ## What a message changes -/

section
variable [Add F] [OfScientific F] {E : Eigen P F} {now : Int} {rs : List (String × P)}
  {d : Display F} {key : String × Int} {mk : Marker F}

/-- The keys that the first `M` ids make. -/
def Slot (M : Nat) (key : String × Int) : Prop :=
  ∃ i : Nat, i < M ∧ (key = ("waypoints", (i : Int)) ∨ key = ("waypoint_names", (i : Int)))

/-- What is shown is shown under the keys of the first `M` ids. -/
def Extent (d : Display F) (M : Nat) : Prop := ∀ key, (d key).isSome = true ↔ Slot M key

theorem slot_max {M N : Nat} : Slot (max M N) key ↔ Slot M key ∨ Slot N key := by
  refine ⟨fun hm => ?_, fun hm => ?_⟩
  · obtain ⟨i, hi, hkey⟩ := hm
    by_cases hM : i < M
    · exact .inl ⟨i, hM, hkey⟩
    · exact .inr ⟨i, by omega, hkey⟩
  · rcases hm with ⟨i, hi, hkey⟩ | ⟨i, hi, hkey⟩
    · exact ⟨i, by omega, hkey⟩
    · exact ⟨i, by omega, hkey⟩

theorem pair_mem (E : Eigen P F) (now idx : Int) {k : Nat} {name : String} {T : P}
    (hk : rs[k]? = some (name, T)) :
    sphereMarker now (idx + k) (E.markerPose T) ∈ pairsFrom E now idx rs ∧
      textMarker now (idx + k) (E.markerPose T) name ∈ pairsFrom E now idx rs := by
  induction rs generalizing idx k with
  | nil => simp at hk
  | cons r rs ih =>
    cases k with
    | zero =>
      obtain rfl : r = (name, T) := by simpa using hk
      simp [pairsFrom]
    | succ k =>
      have hid : idx + (k + 1 : Nat) = idx + 1 + (k : Int) := by omega
      rw [hid]
      obtain ⟨hs, ht⟩ := ih (idx + 1) (by simpa using hk)
      simp only [pairsFrom, List.mem_cons]
      exact ⟨.inr (.inr hs), .inr (.inr ht)⟩

theorem pairsFrom_action {idx : Int} (h : mk ∈ pairsFrom E now idx rs) : mk.action = .add := by
  obtain ⟨k, name, T, -, rfl | rfl⟩ := mem_pairsFrom h <;> rfl

theorem pairsFrom_key (E : Eigen P F) (now : Int) :
    (∃ mk ∈ pairsFrom E now 0 rs, mk.key = key) ↔ Slot rs.length key := by
  refine ⟨fun hm => ?_, fun hm => ?_⟩
  · obtain ⟨mk, hmk, rfl⟩ := hm
    obtain ⟨k, name, T, hk, hmk⟩ := mem_pairsFrom hmk
    have hlt : k < rs.length := (List.getElem?_eq_some_iff.1 hk).1
    rcases hmk with rfl | rfl
    · exact ⟨k, hlt, .inl (by simp [sphereMarker])⟩
    · exact ⟨k, hlt, .inr (by simp [textMarker])⟩
  · obtain ⟨i, hi, hkey⟩ := hm
    obtain ⟨hs, ht⟩ := pair_mem E now 0 (List.getElem?_eq_getElem hi)
    rcases hkey with rfl | rfl
    · exact ⟨_, hs, by simp [sphereMarker]⟩
    · exact ⟨_, ht, by simp [textMarker]⟩

theorem pairsFrom_keys_nodup {idx : Int} : ((pairsFrom E now idx rs).map Marker.key).Nodup := by
  induction rs generalizing idx with
  | nil => exact .nil
  | cons r rs ih =>
    obtain ⟨name, T⟩ := r
    have hlater : ∀ mk ∈ pairsFrom E now (idx + 1) rs, mk.id ≠ idx := by
      intro mk hmk
      have := pairsFrom_id hmk
      omega
    simp only [pairsFrom, List.map_cons, List.nodup_cons, List.mem_cons, List.mem_map, not_or]
    refine ⟨⟨by simp [sphereMarker, textMarker], ?_⟩, ?_, ih⟩
    · rintro ⟨mk, hmk, hkey⟩
      exact hlater mk hmk (congrArg Prod.snd hkey)
    · rintro ⟨mk, hmk, hkey⟩
      exact hlater mk hmk (congrArg Prod.snd hkey)

/-- **A message replaces the keys of its markers and leaves the others.** -/
theorem receive_pairsFrom : d.receive (pairsFrom E now 0 rs) key = some mk ↔
    (mk ∈ pairsFrom E now 0 rs ∧ mk.key = key) ∨ (¬ Slot rs.length key ∧ d key = some mk) := by
  have hkeys : ((pairsFrom E now 0 rs).map fun mk => (mk.key, mk)).map Prod.fst =
      (pairsFrom E now 0 rs).map Marker.key := by
    rw [List.map_map]
    rfl
  have hn := hkeys ▸ pairsFrom_keys_nodup (E := E)
  rw [receive_eq_putAll fun _ => pairsFrom_action]
  by_cases hslot : Slot rs.length key
  · obtain ⟨mk', hmk', rfl⟩ := (pairsFrom_key E now).2 hslot
    rw [Keyed.putAll_of_mem hn (List.mem_map_of_mem hmk') d]
    refine ⟨fun h => ?_, fun hm => ?_⟩
    · obtain rfl := Option.some.inj h
      exact .inl ⟨hmk', rfl⟩
    · rcases hm with ⟨hmk, hkey⟩ | ⟨hno, -⟩
      · have hput := Keyed.putAll_of_mem hn (List.mem_map_of_mem hmk) d
        rw [← Keyed.putAll_of_mem hn (List.mem_map_of_mem hmk') d, ← hput]
        exact congrArg _ hkey.symm
      · exact absurd hslot hno
  · have hnot : key ∉ ((pairsFrom E now 0 rs).map fun mk => (mk.key, mk)).map Prod.fst := by
      rw [hkeys, List.mem_map]
      exact fun h => hslot ((pairsFrom_key E now).1 h)
    rw [Keyed.putAll_of_notMem hnot]
    constructor
    · exact fun h => .inr ⟨hslot, h⟩
    · rintro (⟨hmk, hkey⟩ | ⟨-, h⟩)
      · exact absurd ((pairsFrom_key E now).1 ⟨mk, hmk, hkey⟩) hslot
      · exact h

theorem Extent.receive {M : Nat} (h : Extent d M) :
    Extent (d.receive (pairsFrom E now 0 rs)) (max M rs.length) := by
  intro key
  rw [slot_max, Option.isSome_iff_exists]
  simp only [receive_pairsFrom]
  refine ⟨fun hm => ?_, fun hslot => ?_⟩
  · obtain ⟨mk, ⟨hmk, hkey⟩ | ⟨-, hd⟩⟩ := hm
    · exact .inr ((pairsFrom_key E now).1 ⟨mk, hmk, hkey⟩)
    · exact .inl ((h key).1 (by rw [hd]; rfl))
  · by_cases hnew : Slot rs.length key
    · obtain ⟨mk, hmk, hkey⟩ := (pairsFrom_key E now).2 hnew
      exact ⟨mk, .inl ⟨hmk, hkey⟩⟩
    · obtain ⟨mk, hd⟩ := Option.isSome_iff_exists.1 ((h key).2 (hslot.resolve_right hnew))
      exact ⟨mk, .inr ⟨hnew, hd⟩⟩

end

/-! ## Runs -/

section
variable [LE S] [DecidableLE S] [Mul P] [Inv P] [Add F] [OfScientific F] {E : Eigen P F}

theorem watchStep_publish (w : WaypointManager S P × Display F) (now : Int) :
    watchStep E w (.publish now) = (w.1, w.2.receive (pairsFrom E now 0 w.1.resolvable)) := by
  rw [← publishMarkers_eq]
  simp only [watchStep]
  cases w.1.publishMarkers E true now <;> rfl

/-- The display reaches as far as the longest message. -/
theorem extent_foldl (ops : List (Op S P)) {w : WaypointManager S P × Display F} {M : Nat}
    (h : Extent w.2 M) :
    Extent (ops.foldl (watchStep E) w).2 ((counts w.1 ops).foldl max M) := by
  induction ops generalizing w M with
  | nil => exact h
  | cons op ops ih =>
    cases op with
    | call c => exact ih (w := (w.1.step c, w.2)) h
    | publish now =>
      rw [List.foldl_cons, watchStep_publish]
      exact ih (w := (w.1, _)) h.receive

/-- The calls of a run, without `publish_markers`. -/
def calls : List (Op S P) → List (Call S P)
  | [] => []
  | .call c :: ops => c :: calls ops
  | .publish _ :: ops => calls ops

theorem counts_append (m : WaypointManager S P) (ops ops' : List (Op S P)) :
    counts m (ops ++ ops') = counts m ops ++ counts ((calls ops).foldl step m) ops' := by
  induction ops generalizing m with
  | nil => rfl
  | cons op ops ih =>
    cases op with
    | call c => exact ih (m.step c)
    | publish now => exact congrArg (m.resolvable.length :: ·) (ih m)

theorem manager_foldl (ops : List (Op S P)) (w : WaypointManager S P × Display F) :
    (ops.foldl (watchStep E) w).1 = (calls ops).foldl step w.1 := by
  induction ops generalizing w with
  | nil => rfl
  | cons op ops ih =>
    cases op with
    | call c => exact ih (w.1.step c, w.2)
    | publish now =>
      rw [List.foldl_cons, watchStep_publish]
      exact ih (w.1, _)

variable [Zero S] [One P]

theorem extent_watch (ops : List (Op S P)) :
    Extent (watch E ops).2 ((counts init ops).foldl max 0) := by
  apply extent_foldl
  intro key
  refine ⟨fun h => ?_, fun hm => ?_⟩
  · simp at h
  · obtain ⟨i, hi, -⟩ := hm
    omega

theorem resolvable_nodup (ops : List (Op S P)) :
    ((watch E ops).1.waypoints.map (·.name)).Nodup := by
  unfold watch
  rw [manager_foldl]
  exact (List.nodup_append.1 (registryOk_run (calls ops)).nodup).1

theorem watch_publish (ops : List (Op S P)) (now : Int) : watch E (ops ++ [.publish now]) =
    ((watch E ops).1, (watch E ops).2.receive (pairsFrom E now 0 (watch E ops).1.resolvable)) := by
  unfold watch
  rw [List.foldl_append, List.foldl_cons, List.foldl_nil, watchStep_publish]

end

/-! ## When the display is right -/

section
variable [Add F] [OfScientific F] [Mul P] {E : Eigen P F} {m : WaypointManager S P} {now : Int}
  {d : Display F}

/-- A display that is right has one slot for each resolvable waypoint at most. -/
theorem Shows.extent_le (h : Shows E m now d) (hb : (m.waypoints.map (·.name)).Nodup) {M : Nat}
    (hM : Extent d M) : M ≤ m.resolvable.length := by
  obtain ⟨id, -, hshow⟩ := h
  let ids := m.resolvable.map fun r => id r.1
  have hsub : (List.range M).map (fun i : Nat => (i : Int)) ⊆ ids := by
    intro j hj
    obtain ⟨i, hi, rfl⟩ := List.mem_map.1 hj
    have hslot : Slot M ("waypoints", (i : Int)) := ⟨i, List.mem_range.1 hi, .inl rfl⟩
    obtain ⟨mk, hmk⟩ := Option.isSome_iff_exists.1 ((hM _).2 hslot)
    obtain ⟨hkey, n, T, hT, rfl | rfl⟩ := (hshow _ _).1 hmk
    · have hid : (i : Int) = id n := congrArg Prod.snd hkey
      rw [hid]
      exact List.mem_map_of_mem (f := fun r => id r.1) ((getWaypointCb_pose hb).1 hT)
    · simp [textMarker] at hkey
  have hn : ((List.range M).map fun i : Nat => (i : Int)).Nodup :=
    List.nodup_range.map fun i j h => Int.ofNat_inj.1 h
  have hlen := (hn.subperm hsub).length_le
  simpa [ids] using hlen

/-- Where no slot is left over, a message is all that is shown. -/
theorem shows_receive (hb : (m.waypoints.map (·.name)).Nodup) {M : Nat} (hM : Extent d M)
    (hle : M ≤ m.resolvable.length) :
    Shows E m now (d.receive (pairsFrom E now 0 m.resolvable)) := by
  let names := m.resolvable.map (·.1)
  have hn : names.Nodup := (resolvable_sublist m).nodup hb
  have hget : ∀ {n T}, (m.getWaypointCb n).pose = some T →
      m.resolvable[names.idxOf n]? = some (n, T) := by
    intro n T hT
    obtain ⟨k, hk⟩ := List.mem_iff_getElem?.1 ((getWaypointCb_pose hb).1 hT)
    rw [Keyed.idxOf_key hn hk, hk]
  -- the place of a name among the resolvable ones is its id
  refine ⟨fun n => (names.idxOf n : Int), ?_, fun key mk => ?_⟩
  · intro n n' T T' hT hT' hid
    have hk := hget hT
    rw [Int.ofNat_inj.1 hid, hget hT'] at hk
    exact (congrArg Prod.fst (Option.some.inj hk)).symm
  · rw [receive_pairsFrom]
    refine ⟨fun hm => ?_, fun hm => ?_⟩
    · rcases hm with ⟨hmk, hkey⟩ | ⟨hslot, hd⟩
      · obtain ⟨k, n, T, hk, hmk'⟩ := mem_pairsFrom hmk
        refine ⟨hkey.symm, n, T, (getWaypointCb_pose hb).2 (List.mem_of_getElem? hk), ?_⟩
        simpa [names, Keyed.idxOf_key hn hk] using hmk'
      · obtain ⟨i, hi, hkey⟩ := (hM key).1 (by rw [hd]; rfl)
        exact absurd ⟨i, by omega, hkey⟩ hslot
    · obtain ⟨rfl, n, T, hT, hmk⟩ := hm
      have hpair := pair_mem E now 0 (hget hT)
      rw [Int.zero_add] at hpair
      rcases hmk with rfl | rfl
      · exact .inl ⟨hpair.1, rfl⟩
      · exact .inl ⟨hpair.2, rfl⟩

end

section
variable [LE S] [DecidableLE S] [Mul P] [Inv P] [Zero S] [One P] [Add F] [OfScientific F]

theorem foldl_max_le {l : List Nat} {a b : Nat} :
    l.foldl max a ≤ b ↔ a ≤ b ∧ ∀ n ∈ l, n ≤ b := by
  induction l generalizing a with
  | nil => simp
  | cons n l ih =>
    rw [List.foldl_cons, ih, Nat.max_le, List.forall_mem_cons, and_assoc]

/-- **After a message** the display is right iff no earlier one had more waypoints. -/
theorem shows_iff (E : Eigen P F) (ops : List (Op S P)) (now : Int) :
    Shows E (watch E ops).1 now (watch E (ops ++ [.publish now])).2 ↔
      ∀ n ∈ counts init ops, n ≤ (watch E ops).1.resolvable.length := by
  have hb := resolvable_nodup (E := E) ops
  have hM := extent_watch (E := E) ops
  rw [watch_publish]
  refine ⟨fun h => ?_, fun h => ?_⟩
  · have hle := h.extent_le hb hM.receive
    exact (foldl_max_le.1 (le_trans (le_max_left _ _) hle)).2
  · exact shows_receive hb hM (foldl_max_le.2 ⟨Nat.zero_le _, h⟩)

/-- **Throughout a run** the display is right after every message iff the number of resolvable
waypoints never goes down from one message to a later one. -/
theorem shows_throughout_iff (E : Eigen P F) (ops : List (Op S P)) :
    (∀ pre now post, ops = pre ++ .publish now :: post →
      Shows E (watch E pre).1 now (watch E (pre ++ [.publish now])).2) ↔
    (counts init ops).Pairwise (· ≤ ·) := by
  have hcounts : ∀ (pre : List (Op S P)) (now : Int) (post : List (Op S P)),
      counts init (pre ++ .publish now :: post) = counts init pre ++
        (watch E pre).1.resolvable.length :: counts (watch E pre).1 post := by
    intro pre now post
    rw [counts_append, watch, manager_foldl]
    rfl
  constructor
  · intro h
    induction ops using List.reverseRecOn with
    | nil => exact .nil
    | append_singleton ops op ih =>
      have hpre := ih fun pre now post hops =>
        h pre now (post ++ [op]) (by rw [hops, List.append_assoc]; rfl)
      cases op with
      | call c =>
        rw [counts_append]
        simpa [counts] using hpre
      | publish now =>
        have hle := (shows_iff E ops now).1 (h ops now [] rfl)
        rw [hcounts, List.pairwise_append]
        refine ⟨hpre, by simp [counts], ?_⟩
        simpa [counts] using hle
  · intro h pre now post hops
    rw [hops, hcounts, List.pairwise_append] at h
    exact (shows_iff E pre now).2 fun n hn => h.2.2 n hn _ List.mem_cons_self

end

/-- A waypoint is bound and shown; then it is tagged again where no submap is finalized. -/
def retagged : List (Op Int HalfTurn) :=
  let submap : SubMap Int HalfTurn :=
    ⟨0, [some ⟨0, ⟨false, ⟨2, 1, 0⟩⟩⟩], some ⟨0, ⟨false, ⟨2, 1, 0⟩⟩⟩, ⟨false, ⟨2, 1, 0⟩⟩⟩
  [.call (.newFrame (some ⟨0, ⟨false, ⟨3, 0, 0⟩⟩⟩)), .call (.newSubmap (some submap)),
    .call (.insertSubmap (some submap)), .call (.add "wp1"), .publish 0,
    .call (.newFrame (some ⟨1, ⟨false, ⟨9, 0, 0⟩⟩⟩)), .call (.add "wp1")]

theorem retagged_still_shown :
    let m := (watch Eigen.halfTurn retagged).1
    let d := (watch Eigen.halfTurn (retagged ++ [.publish 1])).2
    m.listWaypointsCb = ["wp1 (pending)"] ∧
      (d ("waypoint_names", 0)).map (·.text) = some "wp1" ∧ ¬ Shows Eigen.halfTurn m 1 d := by
  intro m d
  have hnone : ∀ n, (m.getWaypointCb n).pose = none := by
    intro n
    have hwps : m.waypoints = [] := by decide +kernel
    exact getWaypointCb_of_notMem (by rw [hwps]; simp)
  have hstill : (d ("waypoint_names", 0)).map (·.text) = some "wp1" := by decide +kernel
  refine ⟨by decide +kernel, hstill, ?_⟩
  rintro ⟨id, -, hshow⟩
  obtain ⟨mk, hmk, -⟩ := Option.map_eq_some_iff.1 hstill
  obtain ⟨-, n, T, hT, -⟩ := (hshow _ _).1 hmk
  rw [hnone] at hT
  cases hT

end Waypoint
