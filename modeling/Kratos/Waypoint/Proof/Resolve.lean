import Kratos.Waypoint.History

/-!
# Resolution of a waypoint over whole histories

`get_waypoint` answers from the name's last successful add alone (`getWaypointCb_run`): found once
that tag has a submap and the submap a reported pose, with the pose `W * O⁻¹ * T`
(`getWaypoint_resolves`).
-/

namespace Waypoint

open History WaypointManager

variable {S P : Type}

/-! ## The answer, from the registry -/

/-- The answer of `get_waypoint` for a status and the reported poses. -/
def answer [Mul P] [Inv P] (world : Int → Option P) : Option (Status S P) → GetWaypointResponse P
  | some (.bound s f) =>
    match world s.id with
    | none => ⟨false, "", none⟩
    | some W => ⟨true, "map", some (W * (s.tOdomOriginSensor⁻¹ * f.tWorldSensor))⟩
  | _ => ⟨false, "", none⟩

theorem Refines.answer [Mul P] [Inv P] {m : WaypointManager S P} {r : Registry S P}
    (h : Refines m r) (name : String) :
    m.getWaypointCb name = answer r.world (r.status name) := by
  unfold getWaypointCb
  cases hf : m.waypoints.find? fun wp => decide (wp.name = name) with
  | some e =>
    obtain rfl : e.name = name := by simpa using List.find?_some hf
    obtain ⟨s, f, hs, he⟩ := (h.bound e).1 (List.mem_of_find?_eq_some hf)
    rw [hs, he, h.world]
    unfold Waypoint.answer entryOf
    cases r.world s.id <;> rfl
  | none =>
    cases hs : r.status name with
    | none => rfl
    | some st =>
      cases st with
      | pending f => rfl
      | bound s f =>
        have hm : entryOf name s f ∈ m.waypoints := (h.bound _).2 ⟨s, f, hs, rfl⟩
        exact absurd (List.find?_eq_none.1 hf _ hm) (by simp)

/-! ## The answer, from the history -/

/-- A bound tag stays bound to its submap. -/
theorem boundSubmap_append [LE S] [DecidableLE S] {f : EstimationFrame S P}
    {h₁ h₂ : List (Call S P)} {s : SubmapReference S P} (hb : boundSubmap f h₁ h₂ = some s)
    (k : List (Call S P)) :
    boundSubmap f h₁ (h₂ ++ k) = some s := by
  unfold boundSubmap at hb ⊢
  rw [finalized_append, List.find?_append]
  cases hn : (finalized h₁).reverse.find? fun s => decide (s.Covers f.stamp) with
  | some t => rw [hn] at hb; exact hb
  | none =>
    rw [hn] at hb
    simp only [Option.orElse_eq_or, Option.none_or] at hb ⊢
    rw [hb]; rfl

/-- A reported pose is only ever replaced by a newer one. -/
theorem lastReport_append {h : List (Call S P)} {id : Int} {W : P}
    (hW : lastReport h id = some W) (k : List (Call S P)) :
    ∃ W', lastReport (h ++ k) id = some W' := by
  unfold lastReport at hW ⊢
  rw [List.flatMap_append, List.filter_append, List.getLast?_append]
  cases (k.flatMap Call.reports).filter (fun w => decide (w.1 = id)) |>.getLast? with
  | some w => exact ⟨w.2, rfl⟩
  | none => exact ⟨W, hW⟩

section
variable [LE S] [DecidableLE S] [Mul P] [Inv P] [Zero S] [One P]

theorem getWaypointCb_run (h : List (Call S P)) (name : String) :
    (run h).getWaypointCb name = answer (lastReport h) ((Registry.run h).status name) := by
  rw [(run_refines h).answer, show (Registry.run h).world = lastReport h from
    funext (world_run h)]

theorem found_iff (h : List (Call S P)) (name : String) :
    ((run h).getWaypointCb name).found = true ↔ ∃ h₁ h₂ f s W, LastAdd name h h₁ h₂ ∧
      latestFrame h₁ = some f ∧ boundSubmap f h₁ h₂ = some s ∧ lastReport h s.id = some W := by
  rw [getWaypointCb_run]
  refine ⟨fun hfound => ?_, fun hm => ?_⟩
  · rcases status_run h name with ⟨h₁, h₂, f, hl, hf, hs⟩ | ⟨-, hs⟩
    · rw [hs, statusOf] at hfound
      cases hb : boundSubmap f h₁ h₂ with
      | none => rw [hb] at hfound; cases hfound
      | some s =>
        rw [hb] at hfound
        cases hW : lastReport h s.id with
        | none => simp [answer, hW] at hfound
        | some W => exact ⟨h₁, h₂, f, s, W, hl, hf, hb, hW⟩
    · rw [hs] at hfound; cases hfound
  · obtain ⟨h₁, h₂, f, s, W, hl, hf, hb, hW⟩ := hm
    obtain ⟨f', hf', hs⟩ := hl.status
    obtain rfl : f = f' := Option.some.inj (hf.symm.trans hf')
    simp [hs, statusOf, hb, answer, hW]

end

/-- **`get_waypoint` over whole histories.** -/
theorem getWaypoint_resolves [LE S] [DecidableLE S] [Group P] [Zero S] (h : List (Call S P))
    (name : String) :
    (((run h).getWaypointCb name).found = true ↔ ∃ h₁ h₂ f s W, LastAdd name h h₁ h₂ ∧
      latestFrame h₁ = some f ∧ boundSubmap f h₁ h₂ = some s ∧ lastReport h s.id = some W) ∧
    (∀ h₁ h₂ f s W, LastAdd name h h₁ h₂ → latestFrame h₁ = some f →
      boundSubmap f h₁ h₂ = some s → lastReport h s.id = some W →
      (run h).getWaypointCb name =
        ⟨true, "map", some (W * s.tOdomOriginSensor⁻¹ * f.tWorldSensor)⟩) ∧
    ∀ k, ((run h).getWaypointCb name).found = true →
      (∀ k₁ c k₂, k = k₁ ++ c :: k₂ → ¬ AcceptedAdd name (h ++ k₁) c) →
      ((run (h ++ k)).getWaypointCb name).found = true := by
  refine ⟨found_iff h name, fun h₁ h₂ f s W hl hf hb hW => ?_, fun k hfound hk => ?_⟩
  · obtain ⟨f', hf', hs⟩ := hl.status
    obtain rfl : f = f' := Option.some.inj (hf.symm.trans hf')
    simp [getWaypointCb_run, hs, statusOf, hb, answer, hW, mul_assoc]
  · obtain ⟨h₁, h₂, f, s, W, hl, hf, hb, hW⟩ := (found_iff h name).1 hfound
    obtain ⟨W', hW'⟩ := lastReport_append hW k
    exact (found_iff (h ++ k) name).2
      ⟨h₁, h₂ ++ k, f, s, W', hl.append_skip hk, hf, boundSubmap_append hb k, hW'⟩

end Waypoint
