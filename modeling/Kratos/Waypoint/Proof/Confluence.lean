import Mathlib.Algebra.Group.TypeTags.Basic
import Mathlib.Algebra.GroupWithZero.Nat
import Mathlib.Algebra.Ring.Int.Defs
import Kratos.Waypoint.Proof.Resolve

/-!
# Bindings do not depend on when GLIM's stages report

Odometry and tagging, sub-mapping and global mapping are three streams of calls. Where the
finalized ranges are pairwise disjoint, a name's status after any interleaving is its status
after the tagging stream alone, settled against all finalized submaps (`status_settle`); so every
interleaving ends with the same names, entries and answers (`interleavings_agree`).
-/

namespace Waypoint

open History WaypointManager

variable {S P : Type}

/-! ## The final map -/

/-- The entry of a name: pending, or bound. -/
def WaypointManager.lookup (m : WaypointManager S P) (name : String) :
    Option (PendingWaypoint S P ⊕ WaypointEntry P) :=
  match m.waypoints.find? fun wp => wp.name = name with
  | some wp => some (.inr wp)
  | none => (m.pendingWaypoints.find? fun wp => wp.name = name).map .inl

/-- The entry a status stands for. -/
def Status.entry [Mul P] [Inv P] (name : String) :
    Status S P → PendingWaypoint S P ⊕ WaypointEntry P
  | .pending f => .inl (pendingOf name f)
  | .bound s f => .inr (entryOf name s f)

theorem Refines.lookup [Mul P] [Inv P] {m : WaypointManager S P} {r : Registry S P}
    (h : Refines m r) (name : String) :
    m.lookup name = (r.status name).map (Status.entry name) := by
  unfold WaypointManager.lookup
  cases hw : m.waypoints.find? fun wp => decide (wp.name = name) with
  | some e =>
    obtain rfl : e.name = name := by simpa using List.find?_some hw
    obtain ⟨s, f, hs, he⟩ := (h.bound e).1 (List.mem_of_find?_eq_some hw)
    rw [hs]
    exact congrArg (some ∘ Sum.inr) he
  | none =>
    have hnb : ∀ s f, r.status name ≠ some (.bound s f) := fun s f hs =>
      absurd (List.find?_eq_none.1 hw _ ((h.bound (entryOf name s f)).2 ⟨s, f, hs, rfl⟩)) (by simp)
    cases hp : m.pendingWaypoints.find? fun wp => decide (wp.name = name) with
    | some p =>
      obtain rfl : p.name = name := by simpa using List.find?_some hp
      rw [(h.pending p).1 (List.mem_of_find?_eq_some hp)]
      rfl
    | none =>
      cases hs : r.status name with
      | none => rfl
      | some st =>
        cases st with
        | bound s f => exact absurd hs (hnb s f)
        | pending f =>
          have hm : pendingOf name f ∈ m.pendingWaypoints := (h.pending _).2 hs
          exact absurd (List.find?_eq_none.1 hp _ hm) (by simp)

/-! ## The three streams -/

/-- Where a call comes from: odometry and tagging, sub-mapping, global mapping, or a service that
only reads. -/
inductive Stream where
  | tagging
  | finalizing
  | reporting
  | reading
  deriving DecidableEq, Repr

def Call.stream : Call S P → Stream
  | .newFrame _ | .add _ => .tagging
  | .newSubmap _ => .finalizing
  | .insertSubmap _ | .updateSubmaps _ => .reporting
  | .get _ | .list | .save _ _ => .reading

/-- The calls of one stream. -/
def only (st : Stream) (h : List (Call S P)) : List (Call S P) := h.filter fun c => c.stream = st

theorem only_snoc (st : Stream) (h : List (Call S P)) (c : Call S P) :
    only st (h ++ [c]) = if c.stream = st then only st h ++ [c] else only st h := by
  by_cases hc : c.stream = st <;> simp [only, hc]

theorem finalized_only (h : List (Call S P)) :
    finalized (only .finalizing h) = finalized h := by
  unfold finalized only
  rw [List.filterMap_filter]
  refine List.filterMap_congr fun c _ => ?_
  cases c <;> rfl

theorem latestFrame_only (h : List (Call S P)) :
    latestFrame (only .tagging h) = latestFrame h := by
  unfold latestFrame only
  rw [List.filterMap_filter]
  refine congrArg _ (List.filterMap_congr fun c _ => ?_)
  cases c <;> rfl

theorem finalized?_of_tagging {c : Call S P} (hc : c.stream = .tagging) : c.finalized? = none := by
  cases c <;> first | rfl | cases hc

theorem finalized_only_tagging (h : List (Call S P)) : finalized (only .tagging h) = [] := by
  unfold finalized only
  rw [List.filterMap_filter, List.filterMap_eq_nil_iff]
  intro c _
  cases c <;> rfl

theorem lastReport_only (h : List (Call S P)) :
    lastReport (only .reporting h) = lastReport h := by
  have hr : (only .reporting h).flatMap Call.reports = h.flatMap Call.reports := by
    induction h with
    | nil => rfl
    | cons c h ih =>
      rw [List.flatMap_cons, ← ih, only, List.filter_cons]
      cases c <;> rfl
  funext id
  rw [lastReport, hr, lastReport]

/-! ## Settling a tag -/

section
variable [LE S] [DecidableLE S]

/-- No stamp is in two ranges of the list. -/
def DisjointRanges (refs : List (SubmapReference S P)) : Prop :=
  refs.Pairwise fun s t => ∀ stamp, ¬ (s.Covers stamp ∧ t.Covers stamp)

theorem find?_reverse {refs : List (SubmapReference S P)} (h : DisjointRanges refs) (stamp : S) :
    (refs.reverse.find? fun s => s.Covers stamp) = refs.find? fun s => s.Covers stamp := by
  induction refs with
  | nil => rfl
  | cons s refs ih =>
    obtain ⟨hs, hrefs⟩ := List.pairwise_cons.1 h
    rw [List.reverse_cons, List.find?_append, ih hrefs, List.find?_cons]
    by_cases hc : s.Covers stamp
    · have hn : (refs.find? fun t => decide (t.Covers stamp)) = none :=
        List.find?_eq_none.2 fun t ht hct => hs t ht stamp ⟨hc, by simpa using hct⟩
      simp [hc, hn]
    · simp [hc]

/-- What a tag becomes once the submaps `refs` are known, whenever they were finalized. -/
def settle (refs : List (SubmapReference S P)) : Status S P → Status S P
  | .pending f =>
    match refs.find? fun s => s.Covers f.stamp with
    | some s => .bound s f
    | none => .pending f
  | .bound s f => .bound s f

theorem settle_snoc (refs : List (SubmapReference S P)) (s : SubmapReference S P)
    (st : Status S P) : settle (refs ++ [s]) st = Registry.bindTo s (settle refs st) := by
  cases st with
  | bound t f => rfl
  | pending f =>
    simp only [settle, List.find?_append]
    cases refs.find? fun t => decide (t.Covers f.stamp) with
    | some t => rfl
    | none => by_cases hc : s.Covers f.stamp <;> simp [Registry.bindTo, hc]

/-- An accepted tag, on its own and among the submaps finalized before it. -/
theorem status_add_settle {name : String} {h : List (Call S P)} {f : EstimationFrame S P}
    (hd : DisjointRanges (finalized h)) (hname : name ≠ "") (hf : latestFrame h = some f) :
    (Registry.run (h ++ [.add name])).status name = some (settle (finalized h) (.pending f)) ∧
    (Registry.run (only .tagging h ++ [.add name])).status name = some (.pending f) := by
  refine ⟨?_, ?_⟩
  · rw [status_add hname hf, Registry.statusNow, refs_run, find?_reverse hd]
    show _ = some (match (finalized h).find? fun s => decide (s.Covers f.stamp) with
      | some s => Status.bound s f
      | none => Status.pending f)
    cases (finalized h).find? fun s => decide (s.Covers f.stamp) <;> rfl
  · rw [status_add hname ((latestFrame_only h).trans hf), Registry.statusNow, refs_run,
      finalized_only_tagging]
    rfl

/-- **A status is the tagging stream's, settled**: the order of the streams does not matter. -/
theorem status_settle (h : List (Call S P)) (hd : DisjointRanges (finalized h)) (name : String) :
    (Registry.run h).status name =
      ((Registry.run (only .tagging h)).status name).map (settle (finalized h)) := by
  induction h using List.reverseRecOn with
  | nil => rfl
  | append_singleton h c ih =>
    have hd' : DisjointRanges (finalized h) := by
      rw [finalized_snoc] at hd
      exact (List.pairwise_append.1 hd).1
    rw [only_snoc]
    by_cases hacc : c = .add name ∧ name ≠ "" ∧ latestFrame h ≠ none
    · obtain ⟨rfl, hname, hne⟩ := hacc
      obtain ⟨f, hf⟩ := Option.ne_none_iff_exists'.1 hne
      obtain ⟨h1, h2⟩ := status_add_settle hd' hname hf
      rw [h1, if_pos (show (Call.add name : Call S P).stream = .tagging from rfl), h2,
        finalized_snoc, finalized?_of_tagging rfl, Option.toList_none, List.append_nil]
      rfl
    · -- the call only finalizes: nothing in the tagging stream, one more range in the whole one
      have hrej : c = .add name → name = "" ∨ latestFrame h = none := fun he => by
        by_contra hno
        push Not at hno
        exact hacc ⟨he, hno⟩
      have htag : (Registry.run (if c.stream = .tagging then only .tagging h ++ [c]
          else only .tagging h)).status name = (Registry.run (only .tagging h)).status name := by
        split
        · rename_i hc
          rw [status_step fun he => by rw [latestFrame_only]; exact hrej he,
            finalized?_of_tagging hc]
          exact Option.map_id'
        · rfl
      rw [htag, status_step hrej, ih hd', Option.map_map, finalized_snoc]
      refine congrArg (Option.map · _) (funext fun st => ?_)
      cases c.finalized? with
      | none => simp
      | some s => exact (settle_snoc _ _ _).symm

end

/-! ## Confluence -/

/-- **Interleavings agree**: tags `A`, finalized submaps `B` with disjoint ranges and reported
poses `C` end with the same final map and the same answers, however they interleave. -/
theorem interleavings_agree [LE S] [DecidableLE S] [Mul P] [Inv P] [Zero S] [One P]
    {A B C h h' : List (Call S P)} (hA : ∀ c ∈ A, c.stream = .tagging)
    (hB : ∀ c ∈ B, c.stream = .finalizing) (hC : ∀ c ∈ C, c.stream = .reporting)
    (hd : DisjointRanges (finalized B)) (hh : Interleave3 A B C h) (hh' : Interleave3 A B C h')
    (name : String) :
    (run h).lookup name = (run h').lookup name ∧
    (run h).getWaypointCb name = (run h').getWaypointCb name := by
  have hstream : ∀ k, Interleave3 A B C k → only .tagging k = A ∧
      finalized k = finalized B ∧ lastReport k = lastReport C := fun k hk => by
    refine ⟨hk.filter_fst ?_ ?_ ?_, ?_, ?_⟩
    · exact fun c hc => by rw [hA c hc]; rfl
    · exact fun c hc => by rw [hB c hc]; rfl
    · exact fun c hc => by rw [hC c hc]; rfl
    · rw [← finalized_only k, only, hk.filter_snd]
      · exact fun c hc => by rw [hA c hc]; rfl
      · exact fun c hc => by rw [hB c hc]; rfl
      · exact fun c hc => by rw [hC c hc]; rfl
    · rw [← lastReport_only k, only, hk.filter_trd]
      · exact fun c hc => by rw [hA c hc]; rfl
      · exact fun c hc => by rw [hB c hc]; rfl
      · exact fun c hc => by rw [hC c hc]; rfl
  obtain ⟨h1, h2, h3⟩ := hstream h hh
  obtain ⟨h1', h2', h3'⟩ := hstream h' hh'
  have hstatus : (Registry.run h).status name = (Registry.run h').status name := by
    rw [status_settle h (h2 ▸ hd), status_settle h' (h2' ▸ hd), h1, h1', h2, h2']
  refine ⟨?_, ?_⟩
  · rw [(run_refines h).lookup, (run_refines h').lookup, hstatus]
  · rw [getWaypointCb_run, getWaypointCb_run, hstatus, h3, h3']

/-- A tag made before its submap is finalized, and the same tag made after it. -/
theorem interleavings_agree_tag :
    let frame : EstimationFrame Nat (Multiplicative Int) := ⟨10, .ofAdd 7⟩
    let origin : EstimationFrame Nat (Multiplicative Int) := ⟨5, .ofAdd 3⟩
    let submap : SubMap Nat (Multiplicative Int) :=
      ⟨0, [some origin, some ⟨15, .ofAdd 9⟩], some origin, .ofAdd 100⟩
    let early := run [.newFrame (some frame), .add "wp", .newSubmap (some submap),
      .insertSubmap (some submap)]
    let late := run [.insertSubmap (some submap), .newSubmap (some submap),
      .newFrame (some frame), .add "wp"]
    early.lookup "wp" = late.lookup "wp" ∧ early.getWaypointCb "wp" = late.getWaypointCb "wp" := by
  intro frame origin submap early late
  exact interleavings_agree (A := [.newFrame (some frame), .add "wp"])
    (B := [.newSubmap (some submap)]) (C := [.insertSubmap (some submap)])
    (by decide) (by decide) (by decide) (List.pairwise_singleton _ _)
    (.fst (.fst (.snd (.trd .nil)))) (.trd (.snd (.fst (.fst .nil)))) "wp"

end Waypoint
