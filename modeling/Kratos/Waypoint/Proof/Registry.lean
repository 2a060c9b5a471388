import Kratos.Waypoint.History

/-!
# The registry invariant

After every history of calls (`registry_run`): the bound and the pending list together hold each
name ever accepted exactly once, each entry carries the data of the name's last successful
`add_waypoint`, and no pending stamp is in a recorded range. Rejected adds and malformed submaps
change nothing (`addWaypointCb_unchanged`, `onNewSubmap_malformed`, `onUpdateSubmaps_nulls`).
-/

namespace Waypoint

open History WaypointManager

variable {S P : Type}

/-- A submap that `on_new_submap` must ignore: no frames, or a null first, last or origin
frame. -/
def SubMap.Malformed (submap : SubMap S P) : Prop :=
  submap.frames = [] ∨ submap.frames.head? = some none ∨ submap.frames.getLast? = some none ∨
    submap.originFrame = none

theorem SubMap.reference?_eq_none {submap : SubMap S P} :
    submap.reference? = none ↔ submap.Malformed := by
  unfold SubMap.reference? SubMap.Malformed
  by_cases he : submap.frames = []
  · simp [he]
  · rw [if_neg (by simpa using he)]
    obtain ⟨a, ha⟩ : ∃ a, submap.frames.head? = some a := ⟨_, List.head?_eq_some_head he⟩
    obtain ⟨b, hb⟩ : ∃ b, submap.frames.getLast? = some b :=
      ⟨_, List.getLast?_eq_some_getLast he⟩
    rw [ha, hb]
    cases a <;> cases b <;> cases submap.originFrame <;> simp [he]

/-- What is recorded of a submap: the stamps of its first and its last frame, and the pose of the
sensor at its origin frame. -/
theorem SubMap.reference?_eq_some {submap : SubMap S P} {ref : SubmapReference S P} :
    submap.reference? = some ref ↔ ∃ first last origin,
      submap.frames.head? = some (some first) ∧ submap.frames.getLast? = some (some last) ∧
        submap.originFrame = some origin ∧
          ref = ⟨submap.id, first.stamp, last.stamp, origin.tWorldSensor⟩ := by
  constructor
  · intro href
    have hok : ¬ submap.Malformed := by
      rw [← reference?_eq_none, href]
      exact Option.some_ne_none ref
    unfold SubMap.Malformed at hok
    push Not at hok
    obtain ⟨hframes, hfirst, hlast, horigin⟩ := hok
    obtain ⟨origin, horigin⟩ := Option.ne_none_iff_exists'.1 horigin
    have hhead := List.head?_eq_some_head hframes
    have hend := List.getLast?_eq_some_getLast hframes
    cases hf : submap.frames.head hframes with
    | none => exact absurd (hf ▸ hhead) hfirst
    | some first =>
      cases hl : submap.frames.getLast hframes with
      | none => exact absurd (hl ▸ hend) hlast
      | some last =>
        rw [hf] at hhead
        rw [hl] at hend
        refine ⟨first, last, origin, hhead, hend, horigin, ?_⟩
        rw [SubMap.reference?, if_neg (by simpa using hframes), hhead, hend, horigin] at href
        exact (Option.some_inj.1 href).symm
  · rintro ⟨first, last, origin, hhead, hend, horigin, rfl⟩
    have hframes : submap.frames ≠ [] := fun hnil => by simp [hnil] at hhead
    rw [SubMap.reference?, if_neg (by simpa using hframes), hhead, hend, horigin]
    rfl

/-- The finalized submaps of a history are recorded so, each well-formed one that was reported. -/
theorem mem_finalized {h : List (Call S P)} {ref : SubmapReference S P} :
    ref ∈ finalized h ↔ ∃ submap first last origin, .newSubmap (some submap) ∈ h ∧
      submap.frames.head? = some (some first) ∧ submap.frames.getLast? = some (some last) ∧
        submap.originFrame = some origin ∧
          ref = ⟨submap.id, first.stamp, last.stamp, origin.tWorldSensor⟩ := by
  unfold finalized
  rw [List.mem_filterMap]
  constructor
  · rintro ⟨c, hc, href⟩
    cases c with
    | newSubmap submap =>
      obtain ⟨sm, rfl, href⟩ := Option.bind_eq_some_iff.1 href
      obtain ⟨first, last, origin, hrec⟩ := SubMap.reference?_eq_some.1 href
      exact ⟨sm, first, last, origin, hc, hrec⟩
    | _ => cases href
  · rintro ⟨submap, first, last, origin, hc, hrec⟩
    exact ⟨_, hc, SubMap.reference?_eq_some.2 ⟨first, last, origin, hrec⟩⟩

/-- The null pointers of an update are skipped. -/
theorem onUpdateSubmaps_nulls (m : WaypointManager S P) (submaps : List (Option (SubMap S P))) :
    m.onUpdateSubmaps submaps = m.onUpdateSubmaps (submaps.filter (·.isSome)) := by
  unfold onUpdateSubmaps
  induction submaps generalizing m with
  | nil => rfl
  | cons submap submaps ih => cases submap <;> simp [onInsertSubmap, ih]

theorem statusOf_frame [LE S] [DecidableLE S] {f f' : EstimationFrame S P}
    {h₁ h₂ : List (Call S P)} :
    (statusOf f h₁ h₂ = .pending f' → f = f') ∧ ∀ s, statusOf f h₁ h₂ = .bound s f' → f = f' := by
  unfold statusOf
  split <;> simp

section
variable [LE S] [DecidableLE S] [Mul P] [Inv P]

theorem onNewSubmap_malformed (m : WaypointManager S P) {submap : Option (SubMap S P)}
    (h : ∀ sm, submap = some sm → sm.Malformed) : m.onNewSubmap submap = m := by
  have hn : submap.bind SubMap.reference? = none :=
    Option.bind_eq_none_iff.2 fun sm hsm => SubMap.reference?_eq_none.2 (h sm hsm)
  rw [onNewSubmap, hn]

variable [Zero S] [One P]

/-! ## The invariant -/

/-- What the two lists of a manager hold after the history `h`. -/
structure RegistryOk (h : List (Call S P)) (m : WaypointManager S P) : Prop where
  /-- The recorded submaps are the well-formed ones finalized so far. -/
  refs : m.submapReferences = finalized h
  /-- Each name is in the two lists exactly once if it was ever successfully added, and not at
  all otherwise. -/
  nodup : (m.waypoints.map (·.name) ++ m.pendingWaypoints.map (·.name)).Nodup
  names : ∀ name, name ∈ m.waypoints.map (·.name) ++ m.pendingWaypoints.map (·.name) ↔
    ∃ h₁ c h₂, h = h₁ ++ c :: h₂ ∧ AcceptedAdd name h₁ c
  pending : ∀ p ∈ m.pendingWaypoints, ∃ h₁ h₂ f, LastAdd p.name h h₁ h₂ ∧
    latestFrame h₁ = some f ∧ p.stamp = f.stamp ∧ p.tOdomSensor = f.tWorldSensor
  bound : ∀ e ∈ m.waypoints, ∃ h₁ h₂ f, LastAdd e.name h h₁ h₂ ∧ latestFrame h₁ = some f ∧
    ∃ s ∈ m.submapReferences, s.Covers f.stamp ∧ e.submapId = s.id ∧
      e.tSubmapSensor = s.tOdomOriginSensor⁻¹ * f.tWorldSensor
  uncovered : ∀ p ∈ m.pendingWaypoints, ∀ s ∈ m.submapReferences, ¬ s.Covers p.stamp

/-- A name with a status has a last successful add, made at the status's frame. -/
theorem lastAdd_of_status {h : List (Call S P)} {name : String} {st : Status S P}
    (hs : (Registry.run h).status name = some st) :
    ∃ h₁ h₂ f, LastAdd name h h₁ h₂ ∧ latestFrame h₁ = some f ∧ st = statusOf f h₁ h₂ := by
  rcases status_run h name with ⟨h₁, h₂, f, hl, hf, hs'⟩ | ⟨-, hs'⟩
  · exact ⟨h₁, h₂, f, hl, hf, Option.some.inj (hs.symm.trans hs')⟩
  · rw [hs] at hs'; cases hs'

theorem registryOk_run (h : List (Call S P)) : RegistryOk h (run h) := by
  have hr := run_refines h
  have hwf := Registry.wf_run h
  have hpend : ∀ p ∈ (run h).pendingWaypoints,
      (Registry.run h).status p.name = some (.pending p.frame) := fun p hp => (hr.pending p).1 hp
  refine ⟨hr.refs.trans (refs_run h), hr.nodup, fun name => ?_, fun p hp => ?_, fun e he => ?_,
    fun p hp => ?_⟩
  · refine ⟨fun hm => ?_, fun hm => ?_⟩
    · have hst : ∃ st, (Registry.run h).status name = some st := by
        rcases List.mem_append.1 hm with hm | hm
        · obtain ⟨e, he, rfl⟩ := List.mem_map.1 hm
          obtain ⟨s, f, hs, -⟩ := (hr.bound e).1 he
          exact ⟨_, hs⟩
        · obtain ⟨p, hp, rfl⟩ := List.mem_map.1 hm
          exact ⟨_, hpend p hp⟩
      obtain ⟨st, hst⟩ := hst
      obtain ⟨h₁, h₂, f, hl, -, -⟩ := lastAdd_of_status hst
      exact ⟨h₁, _, h₂, hl.split, hl.hit⟩
    · obtain ⟨h₁, c, h₂, he, ha⟩ := hm
      rcases status_run h name with ⟨k₁, k₂, f, hl, -, hs⟩ | ⟨hn, -⟩
      · cases hst : statusOf f k₁ k₂ with
        | bound s f' =>
          refine List.mem_append_left _ (List.mem_map.2 ⟨entryOf name s f', ?_, rfl⟩)
          exact (hr.bound _).2 ⟨s, f', hs.trans (congrArg some hst), rfl⟩
        | pending f' =>
          refine List.mem_append_right _ (List.mem_map.2 ⟨pendingOf name f', ?_, rfl⟩)
          exact (hr.pending _).2 (hs.trans (congrArg some hst))
      · exact absurd ha (hn _ _ _ he)
  · obtain ⟨h₁, h₂, f, hl, hf, hst⟩ := lastAdd_of_status (hpend p hp)
    obtain rfl := statusOf_frame.1 hst.symm
    exact ⟨h₁, h₂, p.frame, hl, hf, rfl, rfl⟩
  · obtain ⟨s, f, hs, he⟩ := (hr.bound e).1 he
    obtain ⟨h₁, h₂, f', hl, hf, hst⟩ := lastAdd_of_status hs
    obtain rfl := statusOf_frame.2 s hst.symm
    refine ⟨h₁, h₂, f', hl, hf, s, hr.refs ▸ (hwf.bound hs).1, (hwf.bound hs).2, ?_, ?_⟩ <;>
      rw [he] <;> rfl
  · exact hr.refs ▸ hwf.pending (hpend p hp)

/-- **The registry invariant** holds after every history, and the calls that must change nothing
change nothing. -/
theorem registry_run (h : List (Call S P)) :
    RegistryOk h (run h) ∧
    (∀ name, ((run h).addWaypointCb name).2.success = false ↔
      latestFrame h = none ∨ name = "") ∧
    (∀ name, ((run h).addWaypointCb name).2.success = false →
      ((run h).addWaypointCb name).1 = run h) ∧
    (run h).onNewSubmap none = run h ∧ (run h).onInsertSubmap none = run h ∧
    (∀ sm, SubMap.Malformed sm → (run h).onNewSubmap (some sm) = run h) ∧
    ∀ sms, (run h).onUpdateSubmaps sms = (run h).onUpdateSubmaps (sms.filter (·.isSome)) := by
  have hrej : ∀ name, ((run h).addWaypointCb name).2.success = false ↔
      latestFrame h = none ∨ name = "" := fun name => by
    have ha : AcceptedAdd name h (.add name) ↔ _ := acceptedAdd_iff
    simp only [AcceptedAdd, true_and, ← Option.isSome_iff_exists] at ha
    rw [← Bool.not_eq_true, ha, Option.isSome_iff_ne_none]
    tauto
  refine ⟨registryOk_run h, hrej, fun name hn => ?_, rfl, rfl,
    fun sm hsm => onNewSubmap_malformed _ fun _ he => Option.some.inj he ▸ hsm,
    onUpdateSubmaps_nulls _⟩
  have hno : (run h).hasFrame = false ∨ name = "" := by
    rw [(run_refines h).hasFrame, frame_run]
    rcases (hrej name).1 hn with hf | hn
    · exact .inl (by rw [hf]; rfl)
    · exact .inr hn
  exact (addWaypointCb_rejected hno).2

end

end Waypoint
