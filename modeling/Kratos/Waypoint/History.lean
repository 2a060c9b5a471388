import Kratos.Lib.History
import Kratos.Lib.Keyed
import Kratos.Waypoint.Proof.Refine

/-!
# The manager's state as a function of its history

What a history of calls has said so far: the latest frame, the submaps finalized, the poses
reported, and for a name its last successful `add_waypoint` (`LastAdd`). The registry after a
history is read off these (`status_run`).
-/

namespace Waypoint

open History

variable {S P : Type}

/-! ## What a history has said -/

def latestFrame (h : List (Call S P)) : Option (EstimationFrame S P) :=
  (h.filterMap Call.frame?).getLast?

/-- The submaps finalized so far, oldest first. -/
def finalized (h : List (Call S P)) : List (SubmapReference S P) := h.filterMap Call.finalized?

/-- The `T_world_origin` most recently reported for a submap id. -/
def lastReport (h : List (Call S P)) (id : Int) : Option P :=
  ((h.flatMap Call.reports).filter fun w => w.1 = id).getLast?.map (·.2)

/-- The submap of a tag made at frame `f` after `h₁`, as of the later calls `h₂`: the most
recently finalized one that covers the stamp, else the first later one. -/
def boundSubmap [LE S] [DecidableLE S] (f : EstimationFrame S P) (h₁ h₂ : List (Call S P)) :
    Option (SubmapReference S P) :=
  ((finalized h₁).reverse.find? fun s => s.Covers f.stamp).orElse fun _ =>
    (finalized h₂).find? fun s => s.Covers f.stamp

section
variable [LE S] [DecidableLE S] [Mul P] [Inv P] [Zero S] [One P]

/-- `c`, called after `h`, is an `add_waypoint` for `name` that answers success. -/
def AcceptedAdd (name : String) (h : List (Call S P)) (c : Call S P) : Prop :=
  c = .add name ∧ ((WaypointManager.run h).addWaypointCb name).2.success = true

/-- `h` is `h₁`, the last successful `add_waypoint` for `name`, and then `h₂`. -/
abbrev LastAdd (name : String) (h h₁ h₂ : List (Call S P)) : Prop :=
  LastAt (AcceptedAdd name) h h₁ (.add name) h₂

end

@[simp] theorem latestFrame_snoc (h : List (Call S P)) (c : Call S P) :
    latestFrame (h ++ [c]) = c.frame?.orElse fun _ => latestFrame h := by
  unfold latestFrame
  cases hc : c.frame? <;> simp [hc]

@[simp] theorem finalized_snoc (h : List (Call S P)) (c : Call S P) :
    finalized (h ++ [c]) = finalized h ++ c.finalized?.toList := by
  unfold finalized
  cases hc : c.finalized? <;> simp [hc]

theorem finalized_append (h k : List (Call S P)) :
    finalized (h ++ k) = finalized h ++ finalized k := List.filterMap_append

/-! ## The registry along a history -/

theorem report_world (r : Registry S P) (ws : List (Int × P)) (id : Int) :
    (r.report ws).world id =
      ((ws.filter fun w => w.1 = id).getLast?.map (·.2)).orElse fun _ => r.world id :=
  Keyed.putAll_apply ws r.world id

section
variable [LE S] [DecidableLE S]

theorem frame_run (h : List (Call S P)) : (Registry.run h).frame = latestFrame h := by
  induction h using List.reverseRecOn with
  | nil => rfl
  | append_singleton h c ih =>
    rw [Registry.run_snoc, latestFrame_snoc, ← ih]
    cases c with
    | newSubmap submap =>
      simp only [Registry.step, Call.frame?]
      split <;> rfl
    | add name => simp [Registry.step, Call.frame?]
    | _ => rfl

theorem refs_run (h : List (Call S P)) : (Registry.run h).refs = finalized h := by
  induction h using List.reverseRecOn with
  | nil => rfl
  | append_singleton h c ih =>
    rw [Registry.run_snoc, finalized_snoc, ← ih]
    cases c with
    | newSubmap submap =>
      simp only [Registry.step, Call.finalized?]
      cases submap.bind SubMap.reference? with
      | none => simp
      | some s => rfl
    | add name => simp [Registry.step, Call.finalized?]
    | _ => simp [Registry.step, Registry.report, Call.finalized?]

theorem world_run (h : List (Call S P)) (id : Int) :
    (Registry.run h).world id = lastReport h id := by
  induction h using List.reverseRecOn with
  | nil => rfl
  | append_singleton h c ih =>
    have hcase : (Registry.run (h ++ [c])).world =
        ((Registry.run h).report c.reports).world := by
      rw [Registry.run_snoc]
      cases c with
      | newSubmap submap =>
        simp only [Registry.step]
        split <;> rfl
      | add name => exact Registry.tag_world _ _
      | _ => rfl
    rw [hcase, report_world, ih]
    unfold lastReport
    rw [List.flatMap_append, List.filter_append, List.flatMap_singleton]
    cases hc : (c.reports.filter fun w => decide (w.1 = id)).getLast? with
    | none => simp [List.getLast?_eq_none_iff.1 hc]
    | some w => simp [hc]

end

/-! ## The status of a name -/

section
variable [LE S] [DecidableLE S]

/-- The status of a tag made at frame `f` after `h₁`, as of the later calls `h₂`. -/
def statusOf (f : EstimationFrame S P) (h₁ h₂ : List (Call S P)) : Status S P :=
  match boundSubmap f h₁ h₂ with
  | some s => .bound s f
  | none => .pending f

/-- A call other than an accepted add of the name only finalizes submaps for its status. -/
theorem status_step {name : String} {h : List (Call S P)} {c : Call S P}
    (hc : c = .add name → name = "" ∨ latestFrame h = none) :
    (Registry.run (h ++ [c])).status name =
      ((Registry.run h).status name).map fun st =>
        c.finalized?.elim st fun s => Registry.bindTo s st := by
  rw [Registry.run_snoc]
  cases c with
  | newSubmap submap =>
    simp only [Registry.step, Call.finalized?]
    cases submap.bind SubMap.reference? <;> simp [Registry.finalize]
  | add other =>
    simp only [Registry.step, Registry.tag, frame_run, Call.finalized?, Option.elim_none,
      Option.map_id']
    split
    · rfl
    · rename_i f hf
      split
      · rfl
      · rename_i hne
        have hno : name ≠ other := by
          rintro rfl
          exact (hc rfl).elim hne fun hn => by rw [hf] at hn; cases hn
        simp [Function.update_of_ne hno]
  | _ => simp [Registry.step, Registry.report, Call.finalized?]

theorem status_add {name : String} {h : List (Call S P)} {f : EstimationFrame S P}
    (hname : name ≠ "") (hf : latestFrame h = some f) :
    (Registry.run (h ++ [.add name])).status name = some ((Registry.run h).statusNow f) := by
  rw [Registry.run_snoc]
  simp [Registry.step, Registry.tag, frame_run, hf, hname]

/-- Finalizing a submap follows a tag's status. -/
theorem statusOf_snoc (f : EstimationFrame S P) (h₁ h₂ : List (Call S P)) (c : Call S P) :
    statusOf f h₁ (h₂ ++ [c]) =
      c.finalized?.elim (statusOf f h₁ h₂) fun s => Registry.bindTo s (statusOf f h₁ h₂) := by
  unfold statusOf boundSubmap
  rw [finalized_snoc, List.find?_append]
  cases (finalized h₁).reverse.find? fun s => decide (s.Covers f.stamp) with
  | some s => cases c.finalized? <;> rfl
  | none =>
    cases (finalized h₂).find? fun s => decide (s.Covers f.stamp) with
    | some s => cases c.finalized? <;> rfl
    | none =>
      cases hs : c.finalized? with
      | none => rfl
      | some s => by_cases hcov : s.Covers f.stamp <;> simp [Registry.bindTo, hcov]

end

section
variable [LE S] [DecidableLE S] [Mul P] [Inv P] [Zero S] [One P]

theorem acceptedAdd_iff {name : String} {h : List (Call S P)} {c : Call S P} :
    AcceptedAdd name h c ↔ c = .add name ∧ name ≠ "" ∧ ∃ f, latestFrame h = some f := by
  have hr := run_refines h
  refine and_congr_right fun _ => ?_
  rw [← frame_run]
  cases hf : (Registry.run h).frame with
  | none =>
    have hno : (WaypointManager.run h).hasFrame = false := by rw [hr.hasFrame, hf]; rfl
    have hrej := addWaypointCb_rejected (m := WaypointManager.run h) (n := name) (.inl hno)
    simp [hrej.1]
  | some f =>
    by_cases hname : name = ""
    · subst hname
      simp [(addWaypointCb_rejected (m := WaypointManager.run h) (.inr rfl)).1]
    · simp [(addWaypointCb_eq hr hf hname).1, hname]

/-- **The status of a name**, read off the history: what became of its last successful add, and
nothing if there was none. -/
theorem status_run (h : List (Call S P)) (name : String) :
    (∃ h₁ h₂ f, LastAdd name h h₁ h₂ ∧ latestFrame h₁ = some f ∧
        (Registry.run h).status name = some (statusOf f h₁ h₂)) ∨
      (∀ h₁ c h₂, h = h₁ ++ c :: h₂ → ¬ AcceptedAdd name h₁ c) ∧
        (Registry.run h).status name = none := by
  induction h using List.reverseRecOn with
  | nil => exact .inr ⟨fun _ _ _ he => by simp at he, rfl⟩
  | append_singleton h c ih =>
    by_cases hc : AcceptedAdd name h c
    · obtain ⟨rfl, hname, f, hf⟩ := acceptedAdd_iff.1 hc
      refine .inl ⟨h, [], f, .snoc_hit hc, hf, ?_⟩
      rw [status_add hname hf, Registry.statusNow, refs_run, statusOf, boundSubmap]
      cases (finalized h).reverse.find? fun s => decide (s.Covers f.stamp) <;> rfl
    · have hstep : (Registry.run (h ++ [c])).status name =
          ((Registry.run h).status name).map fun st =>
            c.finalized?.elim st fun s => Registry.bindTo s st := status_step fun he => by
        by_contra hno
        push Not at hno
        exact hc (acceptedAdd_iff.2 ⟨he, hno.1, Option.ne_none_iff_exists'.1 hno.2⟩)
      rcases ih with ⟨h₁, h₂, f, hl, hf, hs⟩ | ⟨hn, hs⟩
      · refine .inl ⟨h₁, h₂ ++ [c], f, hl.snoc_skip hc, hf, ?_⟩
        rw [hstep, hs, statusOf_snoc]
        rfl
      · refine .inr ⟨fun h₁ b h₂ he => ?_, by rw [hstep, hs]; rfl⟩
        rcases List.eq_nil_or_concat h₂ with rfl | ⟨h₂, d, rfl⟩
        · obtain ⟨rfl, hb⟩ := List.append_inj' he rfl
          obtain rfl : c = b := by simpa using hb
          exact hc
        · have he' : h ++ [c] = (h₁ ++ b :: h₂) ++ [d] := by simpa using he
          exact hn h₁ b h₂ (List.append_inj' he' rfl).1

/-- With its last successful add known, a name's status is. -/
theorem LastAdd.status {name : String} {h h₁ h₂ : List (Call S P)} (hl : LastAdd name h h₁ h₂) :
    ∃ f, latestFrame h₁ = some f ∧ (Registry.run h).status name = some (statusOf f h₁ h₂) := by
  rcases status_run h name with ⟨k₁, k₂, f, hk, hf, hs⟩ | ⟨hn, -⟩
  · obtain ⟨rfl, -, rfl⟩ := hl.unique hk
    exact ⟨f, hf, hs⟩
  · exact absurd hl.hit (hn _ _ _ hl.split)

end

end Waypoint
