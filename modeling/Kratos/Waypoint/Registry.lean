import Kratos.Waypoint.Manager

/-!
# The registry a waypoint manager keeps

What the manager is for, without its lists: a map from names to the status of their last tag. A
name is pending with the frame of its tag, or bound with that frame and a submap covering it
(`Registry`). `Refines m r` connects a manager to the registry it implements
(`Kratos/Waypoint/Proof/Refine.lean` proves that every call keeps it).
-/

namespace Waypoint

/-- What became of a name's last tag, made at `frame`. -/
inductive Status (S P : Type) where
  | pending (frame : EstimationFrame S P)
  | bound (submap : SubmapReference S P) (frame : EstimationFrame S P)

variable {S P : Type}

/-- The waypoint a frame becomes in a submap. -/
def entryOf [Mul P] [Inv P] (name : String) (s : SubmapReference S P)
    (f : EstimationFrame S P) : WaypointEntry P :=
  ⟨name, s.id, s.tOdomOriginSensor⁻¹ * f.tWorldSensor⟩

def pendingOf (name : String) (f : EstimationFrame S P) : PendingWaypoint S P :=
  ⟨name, f.stamp, f.tWorldSensor⟩

/-- The frame a pending waypoint was tagged at. -/
def PendingWaypoint.frame (p : PendingWaypoint S P) : EstimationFrame S P :=
  ⟨p.stamp, p.tOdomSensor⟩

@[simp] theorem pendingOf_frame (name : String) (f : EstimationFrame S P) :
    (pendingOf name f).frame = f := rfl

@[simp] theorem pendingOf_name (name : String) (f : EstimationFrame S P) :
    (pendingOf name f).name = name := rfl

@[simp] theorem entryOf_name [Mul P] [Inv P] (name : String) (s : SubmapReference S P)
    (f : EstimationFrame S P) : (entryOf name s f).name = name := rfl

structure Registry (S P : Type) where
  frame : Option (EstimationFrame S P)
  refs : List (SubmapReference S P)
  world : Int → Option P
  status : String → Option (Status S P)

namespace Registry

def init : Registry S P := ⟨none, [], fun _ => none, fun _ => none⟩

section
variable [LE S] [DecidableLE S]

/-- The status of a tag made now: bound to the newest covering submap, if there is one. -/
def statusNow (r : Registry S P) (f : EstimationFrame S P) : Status S P :=
  match r.refs.reverse.find? fun s => s.Covers f.stamp with
  | some s => .bound s f
  | none => .pending f

def tag (r : Registry S P) (name : String) : Registry S P :=
  match r.frame with
  | none => r
  | some f =>
    if name = "" then r
    else { r with status := Function.update r.status name (some (r.statusNow f)) }

@[simp] theorem tag_frame (r : Registry S P) (name : String) : (r.tag name).frame = r.frame := by
  unfold tag
  split
  · rfl
  · split <;> rfl

@[simp] theorem tag_refs (r : Registry S P) (name : String) : (r.tag name).refs = r.refs := by
  unfold tag
  split
  · rfl
  · split <;> rfl

@[simp] theorem tag_world (r : Registry S P) (name : String) : (r.tag name).world = r.world := by
  unfold tag
  split
  · rfl
  · split <;> rfl

/-- A pending tag in the range of the new submap becomes bound to it. -/
def bindTo (s : SubmapReference S P) : Status S P → Status S P
  | .pending f => if s.Covers f.stamp then .bound s f else .pending f
  | .bound s' f => .bound s' f

def finalize (r : Registry S P) (s : SubmapReference S P) : Registry S P :=
  { r with refs := r.refs ++ [s], status := fun name => (r.status name).map (bindTo s) }

end

/-- Reported poses, oldest first. -/
def report (r : Registry S P) (ws : List (Int × P)) : Registry S P :=
  { r with world := ws.foldl (fun world w => Function.update world w.1 (some w.2)) r.world }

end Registry

/-! ## What a call means -/

/-- The frame a call brings. -/
def Call.frame? : Call S P → Option (EstimationFrame S P)
  | .newFrame frame => frame
  | _ => none

/-- The submap a call finalizes. -/
def Call.finalized? : Call S P → Option (SubmapReference S P)
  | .newSubmap submap => submap.bind SubMap.reference?
  | _ => none

/-- The poses a call reports. -/
def Call.reports : Call S P → List (Int × P)
  | .insertSubmap submap => submap.toList.map fun sm => (sm.id, sm.tWorldOrigin)
  | .updateSubmaps submaps =>
    submaps.flatMap fun submap => submap.toList.map fun sm => (sm.id, sm.tWorldOrigin)
  | _ => []

namespace Registry

/-- A pending name is in no recorded range; a bound one is in its own submap's. -/
structure Wf [LE S] (r : Registry S P) : Prop where
  pending : ∀ {name f}, r.status name = some (.pending f) → ∀ s ∈ r.refs, ¬ s.Covers f.stamp
  bound : ∀ {name s f}, r.status name = some (.bound s f) → s ∈ r.refs ∧ s.Covers f.stamp

theorem wf_init [LE S] : Wf (init : Registry S P) where
  pending := by simp [init]
  bound := by simp [init]

theorem Wf.congr [LE S] {r r' : Registry S P} (h : Wf r) (hs : r'.status = r.status)
    (hr : r'.refs = r.refs) : Wf r' where
  pending := by rw [hs, hr]; exact h.pending
  bound := by rw [hs, hr]; exact h.bound

variable [LE S] [DecidableLE S]

def step (r : Registry S P) : Call S P → Registry S P
  | .newFrame frame => { r with frame := frame.orElse fun _ => r.frame }
  | .newSubmap submap =>
    match submap.bind SubMap.reference? with
    | none => r
    | some s => r.finalize s
  | .insertSubmap submap => r.report (Call.insertSubmap submap).reports
  | .updateSubmaps submaps => r.report (Call.updateSubmaps submaps).reports
  | .add name => r.tag name
  | .get _ | .list | .save _ _ => r

def run (h : List (Call S P)) : Registry S P := h.foldl step init

theorem run_snoc (h : List (Call S P)) (c : Call S P) : run (h ++ [c]) = (run h).step c := by
  simp [run, List.foldl_append]

/-! ## Bindings are right -/

theorem statusNow_pending {r : Registry S P} {f f' : EstimationFrame S P}
    (h : r.statusNow f = .pending f') : f' = f ∧ ∀ s ∈ r.refs, ¬ s.Covers f.stamp := by
  unfold statusNow at h
  split at h
  · cases h
  · rename_i hn
    cases h
    exact ⟨rfl, fun s hs => by simpa using List.find?_eq_none.1 hn s (List.mem_reverse.2 hs)⟩

theorem statusNow_bound {r : Registry S P} {f f' : EstimationFrame S P} {s : SubmapReference S P}
    (h : r.statusNow f = .bound s f') : f' = f ∧ s ∈ r.refs ∧ s.Covers f.stamp := by
  unfold statusNow at h
  split at h
  · rename_i hs
    cases h
    exact ⟨rfl, List.mem_reverse.1 (List.mem_of_find?_eq_some hs), by
      simpa using List.find?_some hs⟩
  · cases h

theorem Wf.tag {r : Registry S P} (h : Wf r) (name : String) : Wf (r.tag name) := by
  unfold Registry.tag
  split
  · exact h
  split
  · exact h
  refine ⟨fun {n f} hs => ?_, fun {n s f} hs => ?_⟩ <;> simp only [Function.update_apply] at hs <;>
    split at hs
  · obtain ⟨rfl, hn⟩ := statusNow_pending (Option.some.inj hs)
    exact hn
  · exact h.pending hs
  · obtain ⟨rfl, hn⟩ := statusNow_bound (Option.some.inj hs)
    exact hn
  · exact h.bound hs

theorem Wf.finalize {r : Registry S P} (h : Wf r) (s : SubmapReference S P) :
    Wf (r.finalize s) := by
  refine ⟨fun {n f} hs => ?_, fun {n s' f} hs => ?_⟩
  all_goals
    simp only [Registry.finalize, Option.map_eq_some_iff] at hs
    obtain ⟨st, hst, hb⟩ := hs
  · cases st with
    | bound s' f' => cases hb
    | pending f' =>
      simp only [bindTo] at hb
      split at hb
      · cases hb
      · rename_i hc
        cases hb
        intro t ht
        rcases List.mem_append.1 ht with ht | ht
        · exact h.pending hst t ht
        · rwa [List.mem_singleton.1 ht]
  · cases st with
    | bound t f' =>
      cases hb
      exact ⟨List.mem_append_left _ (h.bound hst).1, (h.bound hst).2⟩
    | pending f' =>
      simp only [bindTo] at hb
      split at hb
      · rename_i hc
        cases hb
        exact ⟨by simp [Registry.finalize], hc⟩
      · cases hb

theorem Wf.step {r : Registry S P} (h : Wf r) (c : Call S P) : Wf (r.step c) := by
  cases c with
  | newFrame frame => exact h.congr rfl rfl
  | newSubmap submap =>
    simp only [Registry.step]
    split
    · exact h
    · exact h.finalize _
  | insertSubmap submap => exact h.congr rfl rfl
  | updateSubmaps submaps => exact h.congr rfl rfl
  | add name => exact h.tag name
  | get name => exact h
  | list => exact h
  | save path ok => exact h

theorem wf_run (h : List (Call S P)) : Wf (run h) := by
  induction h using List.reverseRecOn with
  | nil => exact wf_init
  | append_singleton h c ih => rw [run_snoc]; exact ih.step c

end Registry

/-! ## Refinement -/

/-- The manager `m` implements the registry `r`. -/
structure Refines [Mul P] [Inv P] (m : WaypointManager S P) (r : Registry S P) : Prop where
  hasFrame : m.hasFrame = r.frame.isSome
  latest : ∀ f, r.frame = some f → m.latestFrameStamp = f.stamp ∧ m.latestFramePose = f.tWorldSensor
  refs : m.submapReferences = r.refs
  world : m.submapWorldPose = r.world
  bound : ∀ e, e ∈ m.waypoints ↔ ∃ s f, r.status e.name = some (.bound s f) ∧ e = entryOf e.name s f
  pending : ∀ p, p ∈ m.pendingWaypoints ↔ r.status p.name = some (.pending p.frame)
  nodup : (m.waypoints.map (·.name) ++ m.pendingWaypoints.map (·.name)).Nodup

end Waypoint
