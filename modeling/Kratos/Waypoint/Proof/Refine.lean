import Kratos.Waypoint.Registry
import Mathlib.Data.List.Basic

/-!
# The manager implements the registry

`run_refines`: after every history of calls the manager's two lists hold exactly the bound and
the pending names of the registry, each once (`Refines`). The two calls with an argument are
`add_waypoint` (`Refines.tag`: erase from both lists, then append to one of them) and
`on_new_submap` (`Refines.finalize`: the loop over the pending queue, `onNewSubmap_eq`).
-/

namespace Waypoint

variable {S P : Type}

/-! ## The binding loop -/

section
variable [LE S] [DecidableLE S]

/-- A submap finalized after every range missed the stamp decides the search alone. -/
theorem find_snoc_of_not_covers {refs : List (SubmapReference S P)} {s : SubmapReference S P}
    {stamp : S} (h : ∀ t ∈ refs, ¬ t.Covers stamp) :
    ((refs ++ [s]).reverse.find? fun t => t.Covers stamp) =
      if s.Covers stamp then some s else none := by
  have hn : (refs.reverse.find? fun t => decide (t.Covers stamp)) = none :=
    List.find?_eq_none.2 fun t ht => by simpa using h t (List.mem_reverse.1 ht)
  rw [List.reverse_append, List.reverse_singleton, List.singleton_append, List.find?_cons, hn]
  by_cases hc : s.Covers stamp <;> simp [hc]

end

namespace WaypointManager

variable [LE S] [DecidableLE S] [Mul P] [Inv P]

@[simp] theorem find_addWaypointLocked (m : WaypointManager S P) (name : String) (T : P)
    (s : SubmapReference S P) (stamp : S) :
    (m.addWaypointLocked name T s).findSubmapForStampLocked stamp =
      m.findSubmapForStampLocked stamp := rfl

/-- What the loop does to a queue in one go: the covered waypoints are appended to the bound
list in queue order, the others stay. -/
theorem bindPendingFrom_eq (m : WaypointManager S P) (kept ps : List (PendingWaypoint S P)) :
    m.bindPendingFrom kept ps =
      { m with
        waypoints := m.waypoints ++ ps.filterMap fun p =>
          (m.findSubmapForStampLocked p.stamp).map fun s => entryOf p.name s p.frame
        pendingWaypoints := kept ++ ps.filter fun p =>
          (m.findSubmapForStampLocked p.stamp).isNone } := by
  induction ps generalizing m kept with
  | nil => simp [bindPendingFrom]
  | cons p ps ih =>
    unfold bindPendingFrom
    cases hf : m.findSubmapForStampLocked p.stamp with
    | none => simp [ih, hf]
    | some s =>
      simp only [ih, find_addWaypointLocked]
      simp [addWaypointLocked, entryOf, PendingWaypoint.frame, hf]

/-- Where no queued stamp is in a recorded range, a new submap takes the queued waypoints in its
own range, and only those. -/
theorem bindPending_eq (m : WaypointManager S P) (ref : SubmapReference S P)
    (h : ∀ p ∈ m.pendingWaypoints, ∀ s ∈ m.submapReferences, ¬ s.Covers p.stamp) :
    { m with submapReferences := m.submapReferences ++ [ref] }.bindPendingWaypointsLocked =
      { m with
        submapReferences := m.submapReferences ++ [ref]
        waypoints := m.waypoints ++
          (m.pendingWaypoints.filter fun p => ref.Covers p.stamp).map fun p =>
            entryOf p.name ref p.frame
        pendingWaypoints := m.pendingWaypoints.filter fun p => ¬ ref.Covers p.stamp } := by
  have hfind : ∀ p ∈ m.pendingWaypoints,
      { m with submapReferences := m.submapReferences ++ [ref] }.findSubmapForStampLocked p.stamp =
        if ref.Covers p.stamp then some ref else none := fun p hp =>
    find_snoc_of_not_covers (h p hp)
  have hbound : (m.pendingWaypoints.filterMap fun p =>
      ({ m with submapReferences := m.submapReferences ++ [ref] }.findSubmapForStampLocked
        p.stamp).map fun s => entryOf p.name s p.frame) =
      (m.pendingWaypoints.filter fun p => ref.Covers p.stamp).map fun p =>
        entryOf p.name ref p.frame := by
    rw [← List.filterMap_eq_map, List.filterMap_filter]
    refine List.filterMap_congr fun p hp => ?_
    rw [hfind p hp]
    by_cases hc : ref.Covers p.stamp <;> simp [hc]
  have hkept : (m.pendingWaypoints.filter fun p =>
      ({ m with submapReferences := m.submapReferences ++ [ref] }.findSubmapForStampLocked
        p.stamp).isNone) = m.pendingWaypoints.filter fun p => ¬ ref.Covers p.stamp := by
    refine List.filter_congr fun p hp => ?_
    rw [hfind p hp]
    by_cases hc : ref.Covers p.stamp <;> simp [hc]
  unfold bindPendingWaypointsLocked
  rw [bindPendingFrom_eq, hbound, hkept, List.nil_append]

end WaypointManager

/-! ## Calls that leave the lists alone -/

open WaypointManager Registry

section
variable [Mul P] [Inv P] {m : WaypointManager S P} {r : Registry S P}

theorem refines_init [Zero S] [One P] :
    Refines (WaypointManager.init : WaypointManager S P) Registry.init := by
  constructor <;> simp [WaypointManager.init, Registry.init]

theorem Refines.newFrame (h : Refines m r) (frame : Option (EstimationFrame S P)) :
    Refines (m.onUpdateNewFrame frame) { r with frame := frame.orElse fun _ => r.frame } := by
  cases frame with
  | none => exact h
  | some f => exact ⟨rfl, by simp [onUpdateNewFrame], h.refs, h.world, h.bound, h.pending, h.nodup⟩

theorem Refines.report (h : Refines m r) (submap : Option (SubMap S P)) :
    Refines (m.onInsertSubmap submap) (r.report (Call.insertSubmap submap).reports) := by
  cases submap with
  | none => exact h
  | some sm =>
    refine ⟨h.hasFrame, h.latest, h.refs, ?_, h.bound, h.pending, h.nodup⟩
    simp [onInsertSubmap, Registry.report, Call.reports, h.world]

theorem Refines.reports (h : Refines m r) (submaps : List (Option (SubMap S P))) :
    Refines (m.onUpdateSubmaps submaps) (r.report (Call.updateSubmaps submaps).reports) := by
  unfold onUpdateSubmaps
  induction submaps generalizing m r with
  | nil => exact h
  | cons submap submaps ih =>
    have h1 := ih (h.report submap)
    simpa [Registry.report, Call.reports, List.foldl_append] using h1

/-! ## `add_waypoint` -/

/-- Erasing a name from both lists leaves the other names, each once. -/
theorem Refines.erase_nodup (h : Refines m r) (name : String) :
    (((m.waypoints.filter fun wp => wp.name ≠ name).map (·.name)) ++
      ((m.pendingWaypoints.filter fun wp => wp.name ≠ name).map (·.name))).Nodup := by
  have hs : List.Sublist
      (((m.waypoints.filter fun wp => wp.name ≠ name).map (·.name)) ++
        ((m.pendingWaypoints.filter fun wp => wp.name ≠ name).map (·.name)))
      (m.waypoints.map (·.name) ++ m.pendingWaypoints.map (·.name)) :=
    (List.filter_sublist.map _).append (List.filter_sublist.map _)
  exact h.nodup.sublist hs

/-- Re-tagging a name as bound: out of both lists, then to the end of the bound one. -/
theorem Refines.setBound (h : Refines m r) (name : String) (s : SubmapReference S P)
    (f : EstimationFrame S P) :
    Refines
      { m with
        waypoints := (m.waypoints.filter fun wp => wp.name ≠ name) ++ [entryOf name s f]
        pendingWaypoints := m.pendingWaypoints.filter fun wp => wp.name ≠ name }
      { r with status := Function.update r.status name (some (.bound s f)) } := by
  refine ⟨h.hasFrame, h.latest, h.refs, h.world, fun e => ?_, fun p => ?_, ?_⟩
  · by_cases he : e.name = name
    · subst he
      simp [eq_comm]
    · have hne : e ≠ entryOf name s f := fun h => he (by rw [h]; rfl)
      simp [he, hne, h.bound e]
  · by_cases hp : p.name = name
    · subst hp
      simp
    · simp [hp, h.pending p]
  · have hnew : name ∉ ((m.waypoints.filter fun wp => wp.name ≠ name).map (·.name)) ++
        ((m.pendingWaypoints.filter fun wp => wp.name ≠ name).map (·.name)) := by simp
    simpa using List.perm_middle.nodup_iff.2 (List.nodup_cons.2 ⟨hnew, h.erase_nodup name⟩)

/-- Re-tagging a name as pending: out of both lists, then to the end of the queue. -/
theorem Refines.setPending (h : Refines m r) (name : String) (f : EstimationFrame S P) :
    Refines
      { m with
        waypoints := m.waypoints.filter fun wp => wp.name ≠ name
        pendingWaypoints :=
          (m.pendingWaypoints.filter fun wp => wp.name ≠ name) ++ [pendingOf name f] }
      { r with status := Function.update r.status name (some (.pending f)) } := by
  refine ⟨h.hasFrame, h.latest, h.refs, h.world, fun e => ?_, fun p => ?_, ?_⟩
  · by_cases he : e.name = name
    · subst he
      simp
    · simp [he, h.bound e]
  · by_cases hp : p.name = name
    · subst hp
      obtain ⟨n, stamp, T⟩ := p
      simp [PendingWaypoint.frame, pendingOf, EstimationFrame.ext_iff, eq_comm]
    · have hne : p ≠ pendingOf name f := fun h => hp (by rw [h]; rfl)
      simp [hp, hne, h.pending p]
  · have hnew : name ∉ ((m.waypoints.filter fun wp => wp.name ≠ name).map (·.name)) ++
        ((m.pendingWaypoints.filter fun wp => wp.name ≠ name).map (·.name)) := by simp
    have hperm := List.perm_append_singleton name
      (((m.waypoints.filter fun wp => wp.name ≠ name).map (·.name)) ++
        ((m.pendingWaypoints.filter fun wp => wp.name ≠ name).map (·.name)))
    simpa using hperm.nodup_iff.2 (List.nodup_cons.2 ⟨hnew, h.erase_nodup name⟩)

end

section
variable [LE S] [DecidableLE S] [Mul P] [Inv P] {m : WaypointManager S P} {r : Registry S P}

/-- What an accepted `add_waypoint` does, in one go. -/
theorem addWaypointCb_eq (h : Refines m r) {f : EstimationFrame S P} (hf : r.frame = some f)
    {name : String} (hname : name ≠ "") :
    (m.addWaypointCb name).2.success = true ∧
    (m.addWaypointCb name).1 =
      match r.statusNow f with
      | .bound s f =>
        { m with
          waypoints := (m.waypoints.filter fun wp => wp.name ≠ name) ++ [entryOf name s f]
          pendingWaypoints := m.pendingWaypoints.filter fun wp => wp.name ≠ name }
      | .pending f =>
        { m with
          waypoints := m.waypoints.filter fun wp => wp.name ≠ name
          pendingWaypoints :=
            (m.pendingWaypoints.filter fun wp => wp.name ≠ name) ++ [pendingOf name f] } := by
  have hhas : m.hasFrame = true := by rw [h.hasFrame, hf]; rfl
  obtain ⟨hst, hpo⟩ := h.latest f hf
  have hfind : ((m.eraseWaypointNamedLocked name).erasePendingWaypointNamedLocked
      name).findSubmapForStampLocked m.latestFrameStamp =
      r.refs.reverse.find? fun s => s.Covers f.stamp := by
    rw [← h.refs, hst]; rfl
  unfold addWaypointCb statusNow
  rw [if_neg (by simp [hhas]), if_neg hname]
  simp only [eraseWaypointNamedLocked, erasePendingWaypointNamedLocked] at hfind ⊢
  rw [hfind]
  cases r.refs.reverse.find? fun s => s.Covers f.stamp with
  | some s => simp [addWaypointLocked, entryOf, hpo]
  | none => simp [pendingOf, hpo, hst]

/-- An `add_waypoint` before the first frame, or with an empty name, changes nothing. -/
theorem addWaypointCb_rejected {n : String} (h : m.hasFrame = false ∨ n = "") :
    (m.addWaypointCb n).2.success = false ∧ (m.addWaypointCb n).1 = m := by
  unfold addWaypointCb
  by_cases hh : m.hasFrame = false
  · rw [if_pos hh]
    exact ⟨rfl, rfl⟩
  · rw [if_neg hh, if_pos (h.resolve_left hh)]
    exact ⟨rfl, rfl⟩

theorem Refines.tag (h : Refines m r) (name : String) :
    Refines (m.addWaypointCb name).1 (r.tag name) := by
  cases hf : r.frame with
  | none =>
    have hhas : m.hasFrame = false := by rw [h.hasFrame, hf]; rfl
    rw [(addWaypointCb_rejected (.inl hhas)).2, show r.tag name = r by simp [Registry.tag, hf]]
    exact h
  | some f =>
    by_cases hname : name = ""
    · rw [(addWaypointCb_rejected (.inr hname)).2,
        show r.tag name = r by simp [Registry.tag, hf, hname]]
      exact h
    · have ht : r.tag name =
          { r with status := Function.update r.status name (some (r.statusNow f)) } := by
        simp [Registry.tag, hf, hname]
      rw [ht, (addWaypointCb_eq h hf hname).2]
      cases r.statusNow f with
      | bound s f => exact h.setBound name s f
      | pending f => exact h.setPending name f

/-! ## `on_new_submap` -/

theorem Refines.finalize (h : Refines m r) (hwf : Wf r) (ref : SubmapReference S P) :
    Refines { m with submapReferences := m.submapReferences ++ [ref] }.bindPendingWaypointsLocked
      (r.finalize ref) := by
  rw [bindPending_eq m ref fun p hp => h.refs ▸ hwf.pending ((h.pending p).1 hp)]
  refine ⟨h.hasFrame, h.latest, by simp [Registry.finalize, h.refs], h.world, fun e => ?_,
    fun p => ?_, ?_⟩
  · simp only [List.mem_append, List.mem_map, List.mem_filter, decide_eq_true_eq,
      Registry.finalize, Option.map_eq_some_iff]
    refine ⟨fun hm => ?_, fun hm => ?_⟩
    · rcases hm with he | ⟨p, ⟨hp, hc⟩, rfl⟩
      · obtain ⟨s, f, hs, he⟩ := (h.bound e).1 he
        exact ⟨s, f, ⟨_, hs, rfl⟩, he⟩
      · exact ⟨ref, p.frame, ⟨_, (h.pending p).1 hp, by
          simp [bindTo, PendingWaypoint.frame, hc]⟩, rfl⟩
    · obtain ⟨s, f, ⟨st, hst, hb⟩, he⟩ := hm
      cases st with
      | bound s' f' =>
        cases hb
        exact .inl ((h.bound e).2 ⟨s, f, hst, he⟩)
      | pending f' =>
        simp only [bindTo] at hb
        split at hb
        · rename_i hc
          cases hb
          refine .inr ⟨pendingOf e.name f, ⟨(h.pending _).2 hst, hc⟩, ?_⟩
          exact he.symm
        · cases hb
  · simp only [List.mem_filter, decide_eq_true_eq, Registry.finalize, Option.map_eq_some_iff]
    refine ⟨fun hm => ?_, fun hm => ?_⟩
    · obtain ⟨hp, hc⟩ := hm
      have hc' : ¬ ref.Covers p.stamp := by simpa using hc
      exact ⟨_, (h.pending p).1 hp, if_neg hc'⟩
    · obtain ⟨st, hst, hb⟩ := hm
      cases st with
      | bound s' f' => cases hb
      | pending f' =>
        simp only [bindTo] at hb
        split at hb
        · cases hb
        · rename_i hc
          cases hb
          exact ⟨(h.pending p).2 hst, hc⟩
  · have hperm := (List.filter_append_perm (fun p => decide (ref.Covers p.stamp))
      m.pendingWaypoints).map (·.name)
    have hall := (hperm.append_left (m.waypoints.map (·.name))).nodup_iff.2 h.nodup
    simpa [Function.comp_def] using hall

/-! ## Runs -/

theorem Refines.step (h : Refines m r) (hwf : Wf r) (c : Call S P) :
    Refines (m.step c) (r.step c) := by
  cases c with
  | newFrame frame => exact h.newFrame frame
  | newSubmap submap =>
    simp only [WaypointManager.step, onNewSubmap, Registry.step]
    cases submap.bind SubMap.reference? with
    | none => exact h
    | some ref => exact h.finalize hwf ref
  | insertSubmap submap => exact h.report submap
  | updateSubmaps submaps => exact h.reports submaps
  | add name => exact h.tag name
  | get name => exact h
  | list => exact h
  | save path ok => exact h

/-- **The manager implements the registry**, after every history of calls. -/
theorem run_refines [Zero S] [One P] (h : List (Call S P)) :
    Refines (WaypointManager.run h) (Registry.run h) := by
  induction h using List.reverseRecOn with
  | nil => exact refines_init
  | append_singleton h c ih =>
    rw [WaypointManager.run_snoc, Registry.run_snoc]
    exact ih.step (wf_run h) c

end

end Waypoint
