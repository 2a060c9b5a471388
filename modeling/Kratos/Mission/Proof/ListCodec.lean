import Mathlib.Algebra.Group.TypeTags.Basic
import Mathlib.Algebra.GroupWithZero.Nat
import Mathlib.Algebra.Ring.Int.Defs
import Mathlib.Data.List.Sort
import Kratos.Waypoint.Proof.Order
import Kratos.Waypoint.Proof.Registry
import Kratos.Mission.Proof.Quiet

/-!
# The list of waypoints, encoded and decoded

`list_waypoints` marks pending waypoints by a suffix (`Waypoint.WaypointManager.listWaypointsCb`)
and `waypoint_names` strips that suffix from any name (`bareName`). The decoder undoes the encoder
on pending names (`bareName_pending`) and on names without the suffix (`bareName_eq_self`), so
the two agree iff no bound name ends in it (`waypointNames_decode`). The list is in tag order
(`listWaypoints_tag_order_iff`).
-/

namespace Mission

open Prog Waypoint

/-! ## The decoder -/

theorem bareName_pending (n : String) : bareName (n ++ WaypointManager.pendingSuffix) = n := by
  have hsuf : (n ++ WaypointManager.pendingSuffix).toList =
      n.toList ++ pendingSuffix.toList := String.toList_append
  unfold bareName
  rw [hsuf, if_pos (List.isSuffixOf_iff_suffix.2 (List.suffix_append _ _)), List.length_append,
    Nat.add_sub_cancel, List.take_left, String.ofList_toList]

theorem bareName_eq_self {n : String} :
    bareName n = n ↔ ¬ pendingSuffix.toList <:+ n.toList := by
  unfold bareName
  split
  · rename_i h
    have hsuf := List.isSuffixOf_iff_suffix.1 h
    refine iff_of_false (fun he => ?_) (not_not.2 hsuf)
    -- the decoded name is shorter
    have hlen := congrArg (fun s => s.toList.length) he
    have hle := hsuf.length_le
    have hten : pendingSuffix.toList.length = 10 := by decide
    simp only [String.toList_ofList, List.length_take] at hlen
    omega
  · rename_i h
    exact iff_of_true rfl (mt List.isSuffixOf_iff_suffix.2 h)

/-! ## Both lists -/

section Codec

variable {S P : Type} (m : WaypointManager S P)

def boundNames : List String := m.waypoints.map (·.name)

def pendingNames : List String := m.pendingWaypoints.map (·.name)

/-- The decoder gives back the bound names and then the pending ones, unless it strips a bound
name. -/
theorem decode_listWaypointsCb_iff :
    m.listWaypointsCb.map bareName = boundNames m ++ pendingNames m ↔
      ∀ n ∈ boundNames m, ¬ pendingSuffix.toList <:+ n.toList := by
  have hpending : (m.pendingWaypoints.map fun pwp =>
      pwp.name ++ WaypointManager.pendingSuffix).map bareName = pendingNames m := by
    rw [List.map_map]
    exact List.map_congr_left fun pwp _ => bareName_pending pwp.name
  rw [WaypointManager.listWaypointsCb, List.map_append, hpending, List.append_left_inj]
  show (boundNames m).map bareName = boundNames m ↔ _
  constructor
  · intro h n hn
    have hall := List.map_eq_map_iff.1 (h.trans (List.map_id _).symm)
    exact bareName_eq_self.1 (hall n hn)
  · intro h
    exact (List.map_congr_left fun n hn => bareName_eq_self.2 (h n hn)).trans (List.map_id _)

/-- `names` are the bound and then the pending waypoints; each is known, and no two agree. -/
def Faithful (names : List String) : Prop :=
  names = boundNames m ++ pendingNames m ∧
    (∀ n ∈ names, n ∈ boundNames m ∨ n ∈ pendingNames m) ∧ names.Nodup

end Codec

/-! ## Asking GLIM -/

variable {G : Geometry} {w : World G}

/-- A list that was not asked for does not arrive. -/
theorem handle_unasked (e : Event G) (h : w.listResponse w.calls.length = none) :
    (w.handle e).calls = w.calls ∧ (w.handle e).listResponse w.calls.length = none := by
  cases e with
  | names k ns =>
    simp only [World.handle]
    split
    · rename_i hk
      refine ⟨rfl, ?_⟩
      show Function.update w.listResponse k (some ns) w.calls.length = none
      rw [Function.update_of_ne (Nat.ne_of_gt hk.1), h]
    · exact ⟨rfl, h⟩
  | transform o => exact ⟨rfl, h⟩
  | _ =>
    simp only [World.handle]
    (repeat' split) <;> exact ⟨rfl, h⟩

theorem advance_unasked (t : Tick G) (h : w.listResponse w.calls.length = none) :
    (w.advance t).calls = w.calls ∧ (w.advance t).listResponse w.calls.length = none := by
  have hevents : ∀ (es : List (Event G)) (w : World G), w.listResponse w.calls.length = none →
      (es.foldl World.handle w).calls = w.calls ∧
        (es.foldl World.handle w).listResponse w.calls.length = none := by
    intro es
    induction es with
    | nil => exact fun w h => ⟨rfl, h⟩
    | cons e es ih =>
      intro w h
      obtain ⟨hc, hl⟩ := handle_unasked e h
      obtain ⟨hc', hl'⟩ := ih (w.handle e) (by rw [hc]; exact hl)
      exact ⟨hc'.trans hc, by rw [hc] at hl'; exact hl'⟩
  exact hevents t.events _ h

/-- Without a `waypoints` parameter the names are the list GLIM answered with, decoded. -/
theorem wp_waypointNames_listed (p : Params G) (hp : p.waypoints.filter (· ≠ "") = [])
    (h : w.listResponse w.calls.length = none) :
    wp (waypointNames p)
      (fun names w' =>
        names = ((w'.listResponse w.calls.length).map fun ns => ns.map bareName).getD [])
      (fun _ _ => True) (fun _ => True) w := by
  have htrue : Stable (G := G) (fun _ => True) (fun _ _ => True) (fun _ => True) :=
    ⟨fun _ _ _ _ => trivial, fun _ _ => trivial, fun _ _ => trivial⟩
  unfold waypointNames
  dsimp only
  rw [if_neg (not_not.2 hp)]
  refine wp_bind (wp_bind (wp_bind (wp_next (fun t => wp_bind (wp_modify ?_)) trivial)))
  obtain ⟨hcalls, hlist⟩ := advance_unasked { t with events := t.events.filter Event.remote } h
  have hcalls : (w.idle t).calls = w.calls := hcalls
  have hlist : (w.idle t).listResponse w.calls.length = none := hlist
  cases t.interrupt with
  | true => exact wp_bind (wp_bind (wp_modify (wp_raise trivial)))
  | false =>
    refine wp_bind (wp_pure (wp_pure ?_))
    cases t.ready with
    | false =>
      refine wp_bind (wp_log (wp_pure (wp_pure ?_)))
      show [] = (((w.idle t).listResponse w.calls.length).map _).getD []
      rw [hlist]
      rfl
    | true =>
      refine wp_bind (wp_get (wp_bind (wp_modify ?_)))
      refine (wp_wait htrue _ _ trivial).mono fun r w' hr => ?_
      rw [hr.2, hcalls]
      cases hl : w'.listResponse w.calls.length with
      | none => exact wp_pure (by rw [hl]; rfl)
      | some ns => exact wp_pure (by rw [hl]; rfl)

/-! ## Agreement -/

section Agreement

variable {S P : Type} [LE S] [DecidableLE S] [Mul P] [Inv P] [Zero S] [One P]

/-- **`waypoint_names` gets GLIM's waypoints back from the list of any reachable manager iff no
bound one's name ends in " (pending)".** -/
theorem waypointNames_decode (h : List (Call S P)) (p : Params G)
    (hp : p.waypoints.filter (· ≠ "") = []) (hw : w.listResponse w.calls.length = none)
    (ins rest : List (Tick G)) (names : List String) (w' : World G)
    (hr : (waypointNames p).run ins w = .ret names rest w')
    (ha : w'.listResponse w.calls.length = some (WaypointManager.run h).listWaypointsCb) :
    Faithful (WaypointManager.run h) names ↔
      ∀ n ∈ boundNames (WaypointManager.run h), ¬ pendingSuffix.toList <:+ n.toList := by
  have hnames := (wp_waypointNames_listed p hp hw).ret hr
  rw [ha, Option.map_some, Option.getD_some] at hnames
  rw [← decode_listWaypointsCb_iff, ← hnames]
  refine ⟨?_, fun he => ?_⟩
  · exact fun hf => hf.1
  · refine ⟨he, fun n hn => ?_, ?_⟩
    · rw [he] at hn
      exact List.mem_append.1 hn
    · rw [he]
      exact (registryOk_run h).nodup

end Agreement

/-- A submap over stamps 0 to 9 and a frame in it; then tags, before and after a later frame. -/
def tagging (early late : List String) : List (Call Nat (Multiplicative Int)) :=
  [.newFrame (some ⟨5, 1⟩), .newSubmap (some ⟨0, [some ⟨0, 1⟩, some ⟨9, 1⟩], some ⟨0, 1⟩, 1⟩)] ++
    early.map .add ++ .newFrame (some ⟨12, 1⟩) :: late.map .add

/-- GLIM is up and answers. -/
def answers (early late : List String) : List (Tick .line) :=
  [{}, { events := [.names 0 (WaypointManager.run (tagging early late)).listWaypointsCb] }]

def noWaypoints : Params .line := { replanThreshold := (1 : Nat) }

theorem waypointNames_decode_tagged :
    Faithful (WaypointManager.run (tagging ["wp1"] ["wp2"])) ["wp1", "wp2"] := by
  have hdecode := waypointNames_decode (w := {}) (tagging ["wp1"] ["wp2"]) noWaypoints (by decide)
    rfl (answers ["wp1"] ["wp2"]) [] ["wp1", "wp2"] _ rfl rfl
  exact hdecode.2 (by decide)

/-- Two bound waypoints, `a` and `a (pending)`, and both decode to `a`. -/
theorem waypointNames_strips_bound :
    ∃ w, (waypointNames noWaypoints).run (answers ["a", "a (pending)"] []) {} =
        .ret ["a", "a"] [] w ∧
      boundNames (WaypointManager.run (tagging ["a", "a (pending)"] [])) = ["a", "a (pending)"] ∧
      ¬ Faithful (WaypointManager.run (tagging ["a", "a (pending)"] [])) ["a", "a"] := by
  refine ⟨_, rfl, rfl, fun h => ?_⟩
  exact absurd h.2.2 (by decide)

/-! ## In tag order -/

section TagOrder

variable {S P : Type} [Preorder S] [DecidableLE S] [Mul P] [Inv P] [Zero S] [One P]

/-- All that have been tagged, in the order of their last tags. -/
def InTagOrder (h : List (Call S P)) (names : List String) : Prop :=
  names.Pairwise (TaggedBefore h) ∧ ∀ n, n ∈ names ↔ ∃ h₁ h₂, LastAdd n h h₁ h₂

/-- There is one such list. -/
theorem InTagOrder.unique {h : List (Call S P)} {names names' : List String}
    (hn : InTagOrder h names) (hn' : InTagOrder h names') : names = names' :=
  hn.1.eq_of_mem_iff hn'.1 fun n => (hn.2 n).trans (hn'.2 n).symm

/-- **`list_waypoints` is in tag order**: the bound names, and then the pending ones; the two
together where no tagged stamp falls between submaps, and then the names `waypoint_names` makes of
the answer are the tagged ones in tag order iff no bound one ends in " (pending)". -/
theorem listWaypoints_tag_order_iff (h : List (Call S P)) (ho : Ordered h) :
    (WaypointManager.run h).listWaypointsCb =
      boundNames (WaypointManager.run h) ++
        (pendingNames (WaypointManager.run h)).map (· ++ WaypointManager.pendingSuffix) ∧
    (boundNames (WaypointManager.run h)).Pairwise (TaggedBefore h) ∧
    (pendingNames (WaypointManager.run h)).Pairwise (TaggedBefore h) ∧
    (Gapless h →
      InTagOrder h (boundNames (WaypointManager.run h) ++ pendingNames (WaypointManager.run h)) ∧
      ∀ (p : Params G) (w w' : World G) ins rest names,
        p.waypoints.filter (· ≠ "") = [] → w.listResponse w.calls.length = none →
        (waypointNames p).run ins w = .ret names rest w' →
        w'.listResponse w.calls.length = some (WaypointManager.run h).listWaypointsCb →
        (InTagOrder h names ↔
          ∀ n ∈ boundNames (WaypointManager.run h), ¬ pendingSuffix.toList <:+ n.toList)) := by
  have ht := tagOrder_run h ho
  have hbound : (boundNames (WaypointManager.run h)).Pairwise (TaggedBefore h) :=
    List.pairwise_map.2 ht.bound
  have hpending : (pendingNames (WaypointManager.run h)).Pairwise (TaggedBefore h) :=
    List.pairwise_map.2 ht.pending
  refine ⟨?_, hbound, hpending, fun hg => ?_⟩
  · rw [WaypointManager.listWaypointsCb, pendingNames, List.map_map]
    rfl
  have hall : InTagOrder h
      (boundNames (WaypointManager.run h) ++ pendingNames (WaypointManager.run h)) := by
    refine ⟨List.pairwise_append.2 ⟨hbound, hpending, fun a ha b hb => ?_⟩, mem_names_iff h⟩
    obtain ⟨e, he, rfl⟩ := List.mem_map.1 ha
    obtain ⟨q, hq, rfl⟩ := List.mem_map.1 hb
    exact bound_before_pending ho hg he hq
  refine ⟨hall, fun p w w' ins rest names hp hw hr hans => ?_⟩
  have hnames := (wp_waypointNames_listed p hp hw).ret hr
  rw [hans, Option.map_some, Option.getD_some] at hnames
  rw [← decode_listWaypointsCb_iff, ← hnames]
  exact ⟨fun hin => hin.unique hall, fun heq => heq ▸ hall⟩

end TagOrder

/-- Frames and one submap, as in `tagging`. -/
theorem gapless_of_first {h : List (Call Nat (Multiplicative Int))}
    (hf : finalized h = [⟨0, 0, 9, 1⟩]) : Gapless h := by
  rintro name h₁ h₂ f - - ⟨s, hs, hle⟩
  have hfirst : s = ⟨0, 0, 9, 1⟩ := List.mem_singleton.1 (hf ▸ hs)
  exact ⟨s, hs, hfirst ▸ Nat.zero_le _, hle⟩

theorem listWaypoints_tag_order_tagged :
    InTagOrder (tagging ["wp1"] ["wp2"]) ["wp1", "wp2"] := by
  have ho : Ordered (tagging ["wp1"] ["wp2"]) := ⟨by decide, by decide⟩
  have h := (listWaypoints_tag_order_iff (G := .line) _ ho).2.2.2 (gapless_of_first rfl)
  exact (h.2 noWaypoints {} _ (answers ["wp1"] ["wp2"]) [] ["wp1", "wp2"] (by decide) rfl rfl
    rfl).2 (by decide)

/-- `a` and `a (pending)` are tagged in this order and bound, and `a` is driven to twice. -/
theorem waypointNames_repeats_bound :
    let h := tagging ["a", "a (pending)"] []
    Ordered h ∧ Gapless h ∧ (∃ h₁ h₂, LastAdd "a (pending)" h h₁ h₂) ∧
      (∃ w, (waypointNames noWaypoints).run (answers ["a", "a (pending)"] []) {} =
        .ret ["a", "a"] [] w) ∧
      ¬ InTagOrder h ["a", "a"] := by
  intro h
  have htagged : ∃ h₁ h₂, LastAdd "a (pending)" h h₁ h₂ := (mem_names_iff h _).1 (by decide)
  refine ⟨⟨by decide, by decide⟩, gapless_of_first rfl, htagged, ⟨_, rfl⟩, fun hin => ?_⟩
  exact absurd ((hin.2 _).2 htagged) (by decide)

end Mission
