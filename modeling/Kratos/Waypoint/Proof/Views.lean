import Kratos.Waypoint.Output
import Kratos.Waypoint.Proof.Registry
import Mathlib.Algebra.Ring.Int.Defs

/-!
# The read paths agree

`get_waypoint`, `write_yaml` and `publish_markers` go through the bound waypoints each in its own
way: the first one of the name, all of them, or those with a world pose. As every name is there at
most once, each sees the same waypoints as the others (`resolvable`): `getWaypointCb_eq`,
`entriesOf_waypoints`, `publishMarkers_eq`. `read_paths_agree` is the result.
-/

namespace Waypoint

open WaypointManager

variable {S P F : Type}

/-! ## The waypoints that have a world pose -/

section
variable [Mul P]

def WaypointManager.worldPose (m : WaypointManager S P) (wp : WaypointEntry P) : Option P :=
  (m.submapWorldPose wp.submapId).map (· * wp.tSubmapSensor)

/-- The names that can be resolved, with their poses, in the order of the list. -/
def WaypointManager.resolvable (m : WaypointManager S P) : List (String × P) :=
  m.waypoints.filterMap fun wp => (m.worldPose wp).map (Prod.mk wp.name)

variable {m : WaypointManager S P} {name : String} {T : P}

theorem resolvable_sublist (m : WaypointManager S P) :
    List.Sublist (m.resolvable.map (·.1)) (m.waypoints.map (·.name)) := by
  unfold resolvable
  induction m.waypoints with
  | nil => exact .slnil
  | cons wp wps ih =>
    cases hw : m.worldPose wp with
    | none =>
      rw [List.filterMap_cons_none (by rw [hw]; rfl)]
      exact .cons _ ih
    | some W =>
      rw [List.filterMap_cons_some (by rw [hw]; rfl)]
      exact .cons_cons _ ih

theorem mem_resolvable : (name, T) ∈ m.resolvable ↔
    ∃ wp ∈ m.waypoints, wp.name = name ∧ m.worldPose wp = some T := by
  unfold resolvable
  rw [List.mem_filterMap]
  refine exists_congr fun wp => and_congr_right fun _ => ?_
  cases m.worldPose wp with
  | none => simp
  | some W => simp

/-- Where names are distinct, the first waypoint of the name is the only one. -/
theorem getWaypointCb_of_mem (hn : (m.waypoints.map (·.name)).Nodup) {wp : WaypointEntry P}
    (hwp : wp ∈ m.waypoints) : (m.getWaypointCb wp.name).pose = m.worldPose wp := by
  unfold getWaypointCb
  rw [← List.head?_filter, Keyed.filter_of_mem hn hwp]
  dsimp only [List.head?_cons]
  unfold worldPose
  cases m.submapWorldPose wp.submapId <;> rfl

theorem getWaypointCb_of_notMem (hname : name ∉ m.waypoints.map (·.name)) :
    (m.getWaypointCb name).pose = none := by
  unfold getWaypointCb
  rw [← List.head?_filter, Keyed.filter_of_notMem hname]
  rfl

theorem getWaypointCb_pose (hn : (m.waypoints.map (·.name)).Nodup) :
    (m.getWaypointCb name).pose = some T ↔ (name, T) ∈ m.resolvable := by
  rw [mem_resolvable]
  refine ⟨fun h => ?_, ?_⟩
  · by_cases hname : name ∈ m.waypoints.map (·.name)
    · obtain ⟨wp, hwp, rfl⟩ := List.mem_map.1 hname
      rw [getWaypointCb_of_mem hn hwp] at h
      exact ⟨wp, hwp, rfl, h⟩
    · rw [getWaypointCb_of_notMem hname] at h
      cases h
  · rintro ⟨wp, hwp, rfl, hT⟩
    rw [getWaypointCb_of_mem hn hwp, hT]

theorem found_iff_pose : (m.getWaypointCb name).found = (m.getWaypointCb name).pose.isSome := by
  unfold getWaypointCb
  split
  · rfl
  · split <;> rfl

end

/-! ## The document -/

/-- The value of a key of a mapping. -/
def Yaml.field (key : String) : Yaml S F → Option (Yaml S F)
  | .map entries => (entries.find? fun e => e.1 = key).map (·.2)
  | _ => none

def Yaml.items : Yaml S F → List (Yaml S F)
  | .seq items => items
  | _ => []

def Yaml.hasName (name : String) (e : Yaml S F) : Bool :=
  match e.field "name" with
  | some (.str s) => s = name
  | _ => false

/-- The entries for a name in one of the lists of a document. -/
def Yaml.entriesOf (doc : Yaml S F) (key name : String) : List (Yaml S F) :=
  ((doc.field key).elim [] Yaml.items).filter (Yaml.hasName name)

section
variable [Add F] [Sub F] [Mul F] [OfScientific F] [Mul P]
variable {E : Eigen P F} {m : WaypointManager S P} {name : String}

theorem entriesOf_waypoints : (m.document E).entriesOf "waypoints" name =
    (m.waypoints.filter fun wp => wp.name = name).map (m.waypointYaml E) := by
  show (m.waypoints.map (m.waypointYaml E)).filter _ = _
  rw [List.filter_map]
  rfl

theorem entriesOf_pending : (m.document E).entriesOf "pending_waypoints" name =
    (m.pendingWaypoints.filter fun pwp => pwp.name = name).map (PendingWaypoint.yaml E) := by
  show (m.pendingWaypoints.map (PendingWaypoint.yaml E)).filter _ = _
  rw [List.filter_map]
  rfl

end

/-! ## The markers -/

section
variable [Add F] [OfScientific F]

/-- The markers of a list of poses, numbered from `idx`. -/
def pairsFrom (E : Eigen P F) (now idx : Int) : List (String × P) → List (Marker F)
  | [] => []
  | (name, T) :: rs =>
    sphereMarker now idx (E.markerPose T) :: textMarker now idx (E.markerPose T) name ::
      pairsFrom E now (idx + 1) rs

/-- The labels that read `name`. -/
def labelsOf (ms : List (Marker F)) (name : String) : List (Marker F) :=
  ms.filter fun mk => mk.type = .textViewFacing ∧ mk.text = name

/-- The spheres that go with them. -/
def spheresOf (ms : List (Marker F)) (name : String) : List (Marker F) :=
  ms.filter fun mk => mk.type = .sphere ∧ ∃ label ∈ labelsOf ms name, label.id = mk.id

variable {E : Eigen P F} {now idx : Int} {rs rs' : List (String × P)} {name : String} {T : P}

theorem pairsFrom_append : pairsFrom E now idx (rs ++ rs') =
    pairsFrom E now idx rs ++ pairsFrom E now (idx + rs.length) rs' := by
  induction rs generalizing idx with
  | nil => simp [pairsFrom]
  | cons r rs ih =>
    have hidx : idx + (r :: rs).length = idx + 1 + rs.length := by
      rw [List.length_cons]
      omega
    rw [hidx]
    simp [pairsFrom, ih]

/-- Each marker is of one of the poses, and numbered by its place. -/
theorem mem_pairsFrom {mk : Marker F} (h : mk ∈ pairsFrom E now idx rs) :
    ∃ (k : Nat) (name : String) (T : P), rs[k]? = some (name, T) ∧
      (mk = sphereMarker now (idx + k) (E.markerPose T) ∨
        mk = textMarker now (idx + k) (E.markerPose T) name) := by
  induction rs generalizing idx with
  | nil => cases h
  | cons r rs ih =>
    obtain ⟨name, T⟩ := r
    rcases List.mem_cons.1 h with rfl | h
    · exact ⟨0, name, T, rfl, .inl (by simp)⟩
    · rcases List.mem_cons.1 h with rfl | h
      · exact ⟨0, name, T, rfl, .inr (by simp)⟩
      · obtain ⟨k, name', T', hk, hmk⟩ := ih h
        have hid : idx + 1 + (k : Int) = idx + (k + 1 : Nat) := by omega
        rw [hid] at hmk
        exact ⟨k + 1, name', T', hk, hmk⟩

theorem labelsOf_nil (hname : name ∉ rs.map (·.1)) :
    labelsOf (pairsFrom E now idx rs) name = [] := by
  refine List.filter_eq_nil_iff.2 fun mk hmk => ?_
  obtain ⟨k, name', T, hk, rfl | rfl⟩ := mem_pairsFrom hmk
  · simp [sphereMarker]
  · have hne : name' ≠ name := fun he =>
      hname (he ▸ List.mem_map_of_mem (List.mem_of_getElem? hk))
    simpa [textMarker] using hne

theorem pairsFrom_id {mk : Marker F} (h : mk ∈ pairsFrom E now idx rs) :
    idx ≤ mk.id ∧ mk.id < idx + rs.length := by
  obtain ⟨k, name, T, hk, hmk⟩ := mem_pairsFrom h
  have hlt : k < rs.length := (List.getElem?_eq_some_iff.1 hk).1
  have hid : mk.id = idx + k := by rcases hmk with rfl | rfl <;> rfl
  omega

/-- **A name that is there once has one label and one sphere.** -/
theorem pair_of_mem (hn : (rs.map (·.1)).Nodup) (hm : (name, T) ∈ rs) :
    ∃ i, labelsOf (pairsFrom E now idx rs) name = [textMarker now i (E.markerPose T) name] ∧
      spheresOf (pairsFrom E now idx rs) name = [sphereMarker now i (E.markerPose T)] := by
  obtain ⟨rs₁, rs₂, rfl⟩ := List.append_of_mem hm
  rw [List.map_append, List.map_cons, List.nodup_middle, List.nodup_cons, List.mem_append,
    not_or] at hn
  obtain ⟨⟨hn₁, hn₂⟩, -⟩ := hn
  let i := idx + rs₁.length
  have hpairs : pairsFrom E now idx (rs₁ ++ (name, T) :: rs₂) =
      pairsFrom E now idx rs₁ ++ sphereMarker now i (E.markerPose T) ::
        textMarker now i (E.markerPose T) name :: pairsFrom E now (i + 1) rs₂ := pairsFrom_append
  have hlabels : labelsOf (pairsFrom E now idx (rs₁ ++ (name, T) :: rs₂)) name =
      [textMarker now i (E.markerPose T) name] := by
    rw [hpairs]
    have h₁ : labelsOf (pairsFrom E now idx rs₁) name = [] := labelsOf_nil hn₁
    have h₂ : labelsOf (pairsFrom E now (i + 1) rs₂) name = [] := labelsOf_nil hn₂
    unfold labelsOf at h₁ h₂ ⊢
    rw [List.filter_append, List.filter_cons_of_neg (by simp [sphereMarker]),
      List.filter_cons_of_pos (by simp [textMarker]), h₁, h₂]
    rfl
  refine ⟨i, hlabels, ?_⟩
  have hsphere : ∀ mk : Marker F, (∃ label ∈ labelsOf
      (pairsFrom E now idx (rs₁ ++ (name, T) :: rs₂)) name, label.id = mk.id) ↔ mk.id = i := by
    intro mk
    rw [hlabels]
    simp [textMarker, eq_comm]
  unfold spheresOf
  simp only [hsphere]
  have hother : ∀ ms : List (Marker F), (∀ mk ∈ ms, mk.id ≠ i) →
      (ms.filter fun mk => mk.type = .sphere ∧ mk.id = i) = [] :=
    fun ms h => List.filter_eq_nil_iff.2 fun mk hmk => by simp [h mk hmk]
  rw [hpairs, List.filter_append, List.filter_cons_of_pos (by simp [sphereMarker]),
    List.filter_cons_of_neg (by simp [textMarker]), hother, hother]
  · rfl
  · intro mk hmk
    have := pairsFrom_id hmk
    omega
  · intro mk hmk
    have := pairsFrom_id hmk
    omega

variable [Mul P] {m : WaypointManager S P}

theorem markersFrom_eq (wps : List (WaypointEntry P)) : m.markersFrom E now idx wps =
    pairsFrom E now idx (wps.filterMap fun wp => (m.worldPose wp).map (Prod.mk wp.name)) := by
  induction wps generalizing idx with
  | nil => rfl
  | cons wp wps ih =>
    unfold markersFrom
    have hw : m.worldPose wp = (m.submapWorldPose wp.submapId).map (· * wp.tSubmapSensor) := rfl
    cases h : m.submapWorldPose wp.submapId with
    | none =>
      rw [h] at hw
      rw [List.filterMap_cons_none (by rw [hw]; rfl)]
      exact ih
    | some W =>
      rw [h] at hw
      rw [List.filterMap_cons_some (by rw [hw]; rfl)]
      dsimp only
      rw [ih]
      rfl

/-- What is published, if anything: the markers of the resolvable waypoints. -/
theorem publishMarkers_eq : (m.publishMarkers E true now).getD [] =
    pairsFrom E now 0 m.resolvable := by
  unfold publishMarkers resolvable
  cases h : m.waypoints with
  | nil => rfl
  | cons wp wps => exact markersFrom_eq (wp :: wps)

/-- A bound waypoint is resolvable iff its submap has a world pose. -/
theorem mem_resolvable_of_bound (hb : (m.waypoints.map (·.name)).Nodup) {wp : WaypointEntry P}
    (hwp : wp ∈ m.waypoints) (T : P) :
    (wp.name, T) ∈ m.resolvable ↔ m.worldPose wp = some T := by
  rw [← getWaypointCb_pose hb, getWaypointCb_of_mem hb hwp]

/-- A bound name has a pair of markers iff its submap has a world pose. -/
theorem markers_bound (E : Eigen P F) (now : Int) (hb : (m.waypoints.map (·.name)).Nodup)
    {wp : WaypointEntry P} (hwp : wp ∈ m.waypoints) :
    (m.worldPose wp = none → labelsOf (pairsFrom E now 0 m.resolvable) wp.name = []) ∧
      ∀ T, m.worldPose wp = some T → ∃ i,
        labelsOf (pairsFrom E now 0 m.resolvable) wp.name =
            [textMarker now i (E.markerPose T) wp.name] ∧
          spheresOf (pairsFrom E now 0 m.resolvable) wp.name =
            [sphereMarker now i (E.markerPose T)] := by
  have hmem := mem_resolvable_of_bound hb hwp
  refine ⟨fun hw => labelsOf_nil fun hin => ?_,
    fun T hw => pair_of_mem ((resolvable_sublist m).nodup hb) ((hmem T).2 hw)⟩
  obtain ⟨⟨n, T⟩, hT, hname⟩ := List.mem_map.1 hin
  obtain rfl : n = wp.name := hname
  rw [hmem, hw] at hT
  cases hT

end

/-! ## Agreement -/

/-- What Eigen does with rigid transforms: their rotations go through quaternions, which are unit
ones, unchanged. -/
structure Eigen.Rigid (E : Eigen P F) : Prop where
  translation_setLinear : ∀ T M, E.translation (E.setLinear T M) = E.translation T
  linear_setLinear : ∀ T T', E.linear (E.setLinear T (E.linear T')) = E.linear T'
  normalized : ∀ T, E.normalized (E.quaterniond (E.linear T)) = E.quaterniond (E.linear T)
  toRotationMatrix : ∀ T, E.toRotationMatrix (E.quaterniond (E.linear T)) = E.linear T

theorem Eigen.Rigid.markerPose {E : Eigen P F} (hE : E.Rigid) (T : P) :
    (E.markerPose T).position = E.translation T ∧ (E.markerPose T).orientation = E.rotation T := by
  have hmatrix : E.toRotationMatrix (E.rotation T) = E.linear T := by
    rw [Eigen.rotation, hE.normalized, hE.toRotationMatrix]
  unfold Eigen.markerPose
  rw [hmatrix]
  dsimp only
  rw [hE.translation_setLinear, hE.linear_setLinear, Eigen.rotation, hE.normalized]
  exact ⟨rfl, rfl⟩

theorem halfTurn_rigid : Eigen.halfTurn.Rigid := by
  have hlinear : ∀ turned : Bool, Eigen.halfTurn.toRotationMatrix (Eigen.halfTurn.quaterniond
      (Eigen.halfTurn.linear ⟨turned, ⟨0, 0, 0⟩⟩)) = Eigen.halfTurn.linear ⟨turned, ⟨0, 0, 0⟩⟩ ∧
      decide ((Eigen.halfTurn.linear ⟨turned, ⟨0, 0, 0⟩⟩).x.x < 0) = turned := by
    decide +kernel
  refine ⟨fun _ _ => rfl, fun T T' => ?_, fun _ => rfl, fun T => (hlinear T.turned).1⟩
  exact congrArg (fun turned => Eigen.halfTurn.linear ⟨turned, T.shift⟩) (hlinear T'.turned).2

/-! ## The three paths -/

section
variable [Add F] [Sub F] [Mul F] [OfScientific F] [Mul P]

/-- What the three paths say of a name, with `ms` the markers that are published. -/
structure Agree (E : Eigen P F) (m : WaypointManager S P) (ms : List (Marker F)) (name : String) :
    Prop where
  document : (m.getWaypointCb name).found = true ↔
    ∃ e ∈ (m.document E).entriesOf "waypoints" name,
      (e.field "map_xyz").isSome = true ∧ (e.field "map_qxyzw").isSome = true
  markers : (m.getWaypointCb name).found = true ↔
    (spheresOf ms name).length = 1 ∧ (labelsOf ms name).length = 1
  poses : ∀ pose, (m.getWaypointCb name).message E = some pose →
    (∀ e ∈ (m.document E).entriesOf "waypoints" name,
      e.field "map_xyz" = some pose.position.yaml ∧
        e.field "map_qxyzw" = some pose.orientation.yaml) ∧
    (∀ sphere ∈ spheresOf ms name, sphere.pose.position = pose.position ∧
      E.toRotationMatrix sphere.pose.orientation = E.toRotationMatrix pose.orientation) ∧
    ∀ label ∈ labelsOf ms name,
      label.pose.position = { pose.position with z := pose.position.z + 0.4 } ∧
        E.toRotationMatrix label.pose.orientation = E.toRotationMatrix pose.orientation
  /-- A bound name is in the document once, with the keys of a world pose only if it is found. -/
  bound : name ∈ m.waypoints.map (·.name) →
    (m.document E).entriesOf "pending_waypoints" name = [] ∧
    ∃ e, (m.document E).entriesOf "waypoints" name = [e] ∧
      ((m.getWaypointCb name).found = false → e.field "map_xyz" = none ∧
        e.field "map_yaw" = none ∧ e.field "map_qxyzw" = none)
  pending : name ∈ m.pendingWaypoints.map (·.name) →
    (m.document E).entriesOf "waypoints" name = [] ∧
    ∃ e, (m.document E).entriesOf "pending_waypoints" name = [e]

/-- What a waypoint's entry has under the keys of a world pose. -/
theorem waypointYaml_field (E : Eigen P F) (m : WaypointManager S P) (wp : WaypointEntry P) :
    (m.waypointYaml E wp).field "map_xyz" =
        (m.worldPose wp).map (fun T => (E.translation T).yaml) ∧
      (m.waypointYaml E wp).field "map_yaw" =
        (m.worldPose wp).map (fun T => .double (E.yaw (E.rotation T))) ∧
      (m.waypointYaml E wp).field "map_qxyzw" =
        (m.worldPose wp).map (fun T => (E.rotation T).yaml) := by
  unfold waypointYaml worldPose
  cases m.submapWorldPose wp.submapId with
  | none => exact ⟨rfl, rfl, rfl⟩
  | some W => exact ⟨rfl, rfl, rfl⟩

variable {E : Eigen P F} {m : WaypointManager S P} {now : Int} {name : String}

/-- A bound name has one entry in the document, among the bound ones. -/
theorem entries_bound (hn : (m.waypoints.map (·.name) ++ m.pendingWaypoints.map (·.name)).Nodup)
    {wp : WaypointEntry P} (hwp : wp ∈ m.waypoints) :
    (m.document E).entriesOf "waypoints" wp.name = [m.waypointYaml E wp] ∧
      (m.document E).entriesOf "pending_waypoints" wp.name = [] := by
  obtain ⟨hb, -, hdisj⟩ := List.nodup_append.1 hn
  have hpend : wp.name ∉ m.pendingWaypoints.map (·.name) :=
    fun h => hdisj _ (List.mem_map_of_mem hwp) _ h rfl
  rw [entriesOf_waypoints, entriesOf_pending, Keyed.filter_of_mem hb hwp,
    Keyed.filter_of_notMem hpend]
  exact ⟨rfl, rfl⟩

theorem agree_bound (hE : E.Rigid)
    (hn : (m.waypoints.map (·.name) ++ m.pendingWaypoints.map (·.name)).Nodup)
    {wp : WaypointEntry P} (hwp : wp ∈ m.waypoints) :
    Agree E m (pairsFrom E now 0 m.resolvable) wp.name := by
  obtain ⟨hb, hp, hdisj⟩ := List.nodup_append.1 hn
  obtain ⟨hentries, hnone⟩ := entries_bound (E := E) hn hwp
  obtain ⟨hnolabel, hpair⟩ := markers_bound E now hb hwp
  have hpose := getWaypointCb_of_mem hb hwp
  have hfound : (m.getWaypointCb wp.name).found = (m.worldPose wp).isSome := by
    rw [found_iff_pose, hpose]
  obtain ⟨hxyz, hyaw, hqxyzw⟩ := waypointYaml_field E m wp
  refine ⟨?_, ?_, fun pose hmsg => ?_, fun _ => ⟨hnone, _, hentries, fun hno => ?_⟩,
    fun h => absurd rfl (hdisj _ (List.mem_map_of_mem hwp) _ h)⟩
  · rw [hfound, hentries]
    simp [hxyz, hqxyzw]
  · rw [hfound]
    cases hw : m.worldPose wp with
    | none =>
      rw [hnolabel hw]
      simp
    | some T =>
      obtain ⟨i, hlabels, hspheres⟩ := hpair T hw
      rw [hlabels, hspheres]
      simp
  · rw [GetWaypointResponse.message, hpose, Option.map_eq_some_iff] at hmsg
    obtain ⟨T, hw, rfl⟩ := hmsg
    obtain ⟨i, hlabels, hspheres⟩ := hpair T hw
    obtain ⟨hposition, horientation⟩ := hE.markerPose T
    rw [hentries, hlabels, hspheres]
    simp only [List.mem_singleton, forall_eq]
    rw [hxyz, hqxyzw, hw]
    refine ⟨⟨rfl, rfl⟩, ⟨hposition, congrArg _ horientation⟩, ?_, congrArg _ horientation⟩
    show Vector3d.mk (E.markerPose T).position.x _ _ = _
    rw [hposition]
  · rw [hfound, Option.isSome_eq_false_iff, Option.isNone_iff_eq_none] at hno
    rw [hxyz, hyaw, hqxyzw, hno]
    exact ⟨rfl, rfl, rfl⟩

theorem agree_unbound (hp : (m.pendingWaypoints.map (·.name)).Nodup)
    (hname : name ∉ m.waypoints.map (·.name)) :
    Agree E m (pairsFrom E now 0 m.resolvable) name := by
  have hpose := getWaypointCb_of_notMem hname
  have hfound : (m.getWaypointCb name).found = false := by rw [found_iff_pose, hpose]; rfl
  have hentries : (m.document E).entriesOf "waypoints" name = [] := by
    rw [entriesOf_waypoints, Keyed.filter_of_notMem hname]
    rfl
  have hlabels : labelsOf (pairsFrom E now 0 m.resolvable) name = [] :=
    labelsOf_nil fun hin => hname ((resolvable_sublist m).subset hin)
  refine ⟨?_, ?_, fun pose hmsg => ?_, fun h => absurd h hname, fun hmem => ⟨hentries, ?_⟩⟩
  · rw [hfound, hentries]
    simp
  · rw [hfound, hlabels]
    simp
  · rw [GetWaypointResponse.message, hpose] at hmsg
    cases hmsg
  · obtain ⟨pwp, hpwp, rfl⟩ := List.mem_map.1 hmem
    refine ⟨pwp.yaml E, ?_⟩
    rw [entriesOf_pending, Keyed.filter_of_mem hp hpwp]
    rfl

/-- **The three read paths agree** in every state that can be reached. -/
theorem read_paths_agree [LE S] [DecidableLE S] [Inv P] [Zero S] [One P] (E : Eigen P F)
    (hE : E.Rigid) (h : List (Call S P)) (now : Int) (name : String) :
    Agree E (run h) (((run h).publishMarkers E true now).getD []) name ∧
      ((∃ h₁ c h₂, h = h₁ ++ c :: h₂ ∧ AcceptedAdd name h₁ c) ↔
        name ∈ (run h).waypoints.map (·.name) ∨ name ∈ (run h).pendingWaypoints.map (·.name)) := by
  have hok := registryOk_run h
  rw [publishMarkers_eq, ← hok.names, List.mem_append]
  refine ⟨?_, Iff.rfl⟩
  by_cases hname : name ∈ (run h).waypoints.map (·.name)
  · obtain ⟨wp, hwp, rfl⟩ := List.mem_map.1 hname
    exact agree_bound hE hok.nodup hwp
  · exact agree_unbound (List.nodup_append.1 hok.nodup).2.1 hname

end

/-- The rover tags a waypoint in a submap that the map turns round. -/
def turnedHistory : List (Call Int HalfTurn) :=
  let frame : EstimationFrame Int HalfTurn := ⟨1, ⟨false, ⟨3, 0, 0⟩⟩⟩
  let submap : SubMap Int HalfTurn :=
    ⟨0, [some ⟨0, ⟨false, ⟨2, 1, 0⟩⟩⟩], some ⟨0, ⟨false, ⟨2, 1, 0⟩⟩⟩, ⟨true, ⟨5, 5, 0⟩⟩⟩
  [.newFrame (some { frame with stamp := 0 }), .add "wp1", .newSubmap (some submap),
    .insertSubmap (some submap), .newFrame (some frame), .add "wp2"]

theorem read_paths_agree_turned :
    let m := run turnedHistory
    let ms := (m.publishMarkers Eigen.halfTurn true 0).getD []
    (m.getWaypointCb "wp1").message Eigen.halfTurn = some ⟨⟨4, 6, 0⟩, ⟨0, 0, 1, 0⟩⟩ ∧
      ∃ sphere, spheresOf ms "wp1" = [sphere] ∧ sphere.pose.position = ⟨4, 6, 0⟩ := by
  intro m ms
  obtain ⟨hagree, -⟩ := read_paths_agree Eigen.halfTurn halfTurn_rigid turnedHistory 0 "wp1"
  have hmsg : (m.getWaypointCb "wp1").message Eigen.halfTurn =
      some ⟨⟨4, 6, 0⟩, ⟨0, 0, 1, 0⟩⟩ := by decide +kernel
  have hfound : (m.getWaypointCb "wp1").found = true := by decide +kernel
  obtain ⟨sphere, hsphere⟩ := List.length_eq_one_iff.1 (hagree.markers.1 hfound).1
  refine ⟨hmsg, sphere, hsphere, ?_⟩
  exact ((hagree.poses _ hmsg).2.1 sphere (hsphere ▸ List.mem_singleton_self sphere)).1

end Waypoint
