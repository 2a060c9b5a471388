import Kratos.Mission.Proof.Loops
import Kratos.Mission.Proof.Route
import Kratos.Mission.Proof.Tracked

/-!
# The route in mode through

`go_through` keeps `Through`: the invariant `OnRoute` of its trace, with as many waypoints ahead in
the loop's `names` as are believed to be left (`OnLoop`). So:

* a re-sent route goes back exactly where a count was processed but not read
  (`goThrough_resends`);
* as long as no count read is 0, the part ahead is not empty, so `max` has an argument and a
  failure has a name (`goThrough_verdict`).
-/

namespace Mission

open Prog Trace

variable {G : Geometry} {w w' : World G} {tr : List (Entry G)} {e : Entry G} {k : Int}
  {names : List String} {f : Option GoalId} {known : List (String × PoseStamped G)}

/-! ## While `go_through` runs -/

/-- `go_through` runs since the trace was `base`. -/
def Through (base : List (Entry G)) (names : List String) (f : Option GoalId) (k : Int)
    (known : List (String × PoseStamped G)) (w : World G) : Prop :=
  w.ok = true ∧ ∃ tr, w.trace = tr ++ base ∧ OnRoute names f k known tr

/-- However far a run has come, its routes were of the right length. -/
def Routed (base : List (Entry G)) (names : List String) (w : World G) : Prop :=
  ∃ tr, w.trace = tr ++ base ∧ Each (RouteSent names) tr

/-- `max` fails only with nothing left. -/
def RouteFailed (base : List (Entry G)) (names : List String) (e : PyErr) (w : World G) : Prop :=
  ∃ tr, w.trace = tr ++ base ∧ Each (RouteSent names) tr ∧
    (e = .valueError → ¬ 1 ≤ remaining names.length tr)

/-- The verdict is right if something was left. -/
def RouteDone (base : List (Entry G)) (names left : List String) (w : World G) : Prop :=
  ∃ tr, w.trace = tr ++ base ∧ Each (RouteSent names) tr ∧
    (1 ≤ remaining names.length tr →
      (left = [] ↔ ∃ g, trackedGoal tr = some g ∧ w.result g = some .succeeded))

variable {base : List (Entry G)}

theorem Through.entry (h : Through base names f k known w) (he : e.calm = true)
    (hok : w'.ok = w.ok) (htr : w'.trace = e :: w.trace) : Through base names f k known w' := by
  obtain ⟨ho, tr, ht, hr⟩ := h
  exact ⟨hok.trans ho, e :: tr, by rw [htr, ht]; rfl, hr.calm he⟩

theorem Through.record (h : Through base names f k known w) (he : e.calm = true) :
    Through base names f k known (w.record e) := h.entry he rfl rfl

theorem Through.routed (h : Through base names f k known w) : Routed base names w := by
  obtain ⟨-, tr, ht, hr⟩ := h
  exact ⟨tr, ht, hr.sent⟩

theorem through_stable :
    Stable (Through base names f k known) (RouteFailed base names) (Routed base names) where
  quiet w w' hq h := by
    rcases hq.trace with ⟨_, ht | ⟨e, he, ht⟩⟩ | ⟨g, q, _, ht⟩
    · obtain ⟨ho, tr, htr, hr⟩ := h
      exact ⟨hq.same.ok.trans ho, tr, ht.trans htr, hr⟩
    · exact h.entry (calm_of_quiet he) hq.same.ok ht
    · exact h.entry (e := .feedback g q) rfl hq.same.ok ht
  interrupt w h := by
    obtain ⟨-, tr, htr, hr⟩ := h.record (e := .interrupt) rfl
    exact ⟨tr, htr, hr.sent, nofun⟩
  blocked _ h := h.routed

theorem through_sweep (h : Through base names f k known w) :
    wp sweep (fun _ => Through base names f k known) (RouteFailed base names) (Routed base names)
      w := by
  refine wp_sweep through_stable (fun w r h _ => h) (fun w r h _ => ?_) h
  exact (h.record (e := .log .lateAccept) rfl).entry (e := .cancel r) rfl rfl rfl

/-- The tracked goal changes to the one returned, if any. -/
theorem through_sendThrough {route : List (String × PoseStamped G)}
    (h : Through base names f k known w) (hsuf : route.map (·.1) <:+ names)
    (hknown : ∀ a ∈ route, a ∈ known) (hlen : (route.length : Int) = k) :
    wp (sendThrough (route.map (·.2)))
      (fun r => Through base names (r.elim f fun r => some r.2) k known) (RouteFailed base names)
      (Routed base names) w := by
  obtain ⟨ho, tr, ht, hr⟩ := h
  have hstable : Stable (Through base names f k known) (RouteFailed base names)
      (Routed base names) := through_stable
  refine wp_bind (wp_modify (wp_sendAction hstable _ ?_ ?_ ?_ ?_))
  · exact ⟨ho, _ :: tr, congrArg (_ :: ·) ht, hr.send _ hsuf hknown hlen⟩
  · intro w' h' _
    exact (h'.record (e := .log .noAnswer) rfl).entry (e := .outcome _ .timedOut) rfl rfl rfl
  · intro w' h' _
    exact (h'.record (e := .log .goalRejected) rfl).entry (e := .outcome _ .rejected) rfl rfl rfl
  · intro w' h' _
    obtain ⟨ho, tr, ht, hr⟩ := h'
    exact ⟨ho, _ :: tr, congrArg (_ :: ·) ht, hr.accept _⟩

/-! ## Resolving -/

section Methods

variable (p : Params G)

theorem Through.forget (h : Through base names f k known w)
    {known' : List (String × PoseStamped G)} (hsub : ∀ a ∈ known', a ∈ known) :
    Through base names f k known' w := by
  obtain ⟨ho, tr, ht, hr⟩ := h
  exact ⟨ho, tr, ht, hr.forget hsub⟩

/-- A goal that `resolve` returned is known. -/
theorem Resolved.learn {name : String} {goal : PoseStamped G}
    (hr : Resolved (Through base names f k known) name (some goal) w) :
    Through base names f k ((name, goal) :: known) w := by
  obtain ⟨w, ⟨ho, tr, ht, hroute⟩, rfl⟩ := hr goal rfl
  exact ⟨ho, _ :: tr, congrArg (_ :: ·) ht, hroute.learn name goal⟩

theorem Through.shift {a : String × PoseStamped G} {route : List (String × PoseStamped G)}
    (h : Through base names f k (route ++ a :: known) w) :
    Through base names f k (a :: route ++ known) w := by
  refine h.forget fun b hb => ?_
  simp only [List.cons_append, List.mem_cons, List.mem_append] at hb ⊢
  rcases hb with hb | hb | hb
  · exact .inr (.inl hb)
  · exact .inl hb
  · exact .inr (.inr hb)

theorem through_resolveRoute (ns : List String) (h : Through base names f k known w) :
    wp (resolveRoute p ns)
      (fun r w => Through base names f k known w ∧ ∀ goals, r = some goals →
        goals.length = ns.length ∧ Through base names f k (ns.zip goals ++ known) w)
      (RouteFailed base names) (Routed base names) w := by
  induction ns generalizing known w with
  | nil =>
    refine wp_pure ⟨h, fun goals he => ?_⟩
    cases he
    exact ⟨rfl, h⟩
  | cons name ns ih =>
    refine wp_bind ((wp_resolveWithWait p through_stable name h).mono fun r w h => ?_)
    cases r with
    | none => exact wp_bind (wp_log (wp_pure ⟨h.1.record rfl, nofun⟩))
    | some goal =>
      refine wp_bind ((ih h.2.learn).mono fun r w h => ?_)
      obtain ⟨h, hgoals⟩ := h
      have hbase := h.forget fun _ => List.mem_cons_of_mem _
      cases r with
      | none => exact wp_pure ⟨hbase, nofun⟩
      | some goals =>
        refine wp_pure ⟨hbase, fun _ he => ?_⟩
        cases he
        obtain ⟨hlen, hall⟩ := hgoals goals rfl
        exact ⟨by simp [hlen], hall.shift⟩

theorem through_resolveAhead (ahead : List (String × PoseStamped G))
    (h : Through base names f k known w) :
    wp (resolveAhead p ahead)
      (fun fresh w => Through base names f k known w ∧ ∀ route, allResolved fresh = some route →
        route.map (·.1) = ahead.map (·.1) ∧ Through base names f k (route ++ known) w)
      (RouteFailed base names) (Routed base names) w := by
  induction ahead generalizing known w with
  | nil =>
    refine wp_pure ⟨h, fun route he => ?_⟩
    obtain rfl : [] = route := by simpa [allResolved] using he
    exact ⟨rfl, h⟩
  | cons a ahead ih =>
    refine wp_bind ((wp_resolve p through_stable a.1 h).mono fun r w h => ?_)
    cases r with
    | none =>
      refine wp_bind ((ih h.1).mono fun fresh w h => wp_pure ⟨h.1, fun route he => ?_⟩)
      obtain ⟨g, rest, hg, -⟩ := allResolved_cons he
      cases hg
    | some goal =>
      refine wp_bind ((ih h.2.learn).mono fun fresh w h => ?_)
      obtain ⟨h, hroute⟩ := h
      refine wp_pure ⟨h.forget fun _ => List.mem_cons_of_mem _, fun route he => ?_⟩
      obtain ⟨g, rest, hg, hrest, rfl⟩ := allResolved_cons he
      obtain rfl : goal = g := Option.some.inj hg
      obtain ⟨hnames, hall⟩ := hroute rest hrest
      exact ⟨by simp [hnames], hall.shift⟩

/-! ## The loop -/

/-- The loop's `names` end the list, and what is ahead of them is as long as believed. -/
structure Ahead (names : List String) (k : Int) (l : goThrough.Vars G) : Prop where
  suffix : l.names <:+ names
  goals : l.goals.length = l.names.length
  left : ((l.names.length - l.passed : Nat) : Int) = max 0 k

/-- Between two turns of the loop. -/
def OnLoop (base : List (Entry G)) (names : List String) (l : goThrough.Vars G) (w : World G) :
    Prop :=
  ∃ k, Through base names (some l.resultFuture) k [] w ∧ Ahead names k l

/-- Taking a count: what is ahead shrinks to it. -/
theorem onLoop_sweep {l : goThrough.Vars G} (h : OnLoop base names l w) :
    wp (goThrough.sweep l) (fun l' => OnLoop base names l') (RouteFailed base names)
      (Routed base names) w := by
  obtain ⟨k, h, hl⟩ := h
  refine wp_bind ((through_sweep h).mono fun _ w h => wp_update (fun _ => ⟨k, h, hl⟩) fun q _ => ?_)
  have hread : Through base names (some l.resultFuture) (min q k) [] (w.record (.read q)) := by
    obtain ⟨ho, tr, ht, hr⟩ := h
    exact ⟨ho, _ :: tr, congrArg (_ :: ·) ht, hr.read q⟩
  refine ⟨min q k, logReached_inv (fun _ _ h => h.record rfl) _ hread, hl.suffix, hl.goals, ?_⟩
  have hleft := hl.left
  show ((l.names.length - (max (l.passed : Int) (l.names.length - q)).toNat : Nat) : Int) = _
  omega

theorem through_refresh {l : goThrough.Vars G} (h : OnLoop base names l w) :
    wp (goThrough.refresh p l) (turnPost (OnLoop base names) (RouteDone base names))
      (RouteFailed base names) (Routed base names) w := by
  obtain ⟨k, h, hl⟩ := h
  have hleft := hl.left
  rw [goThrough.refresh_eq]
  refine wp_bind ((through_resolveAhead p _ h).mono fun fresh w h => ?_)
  obtain ⟨h, hroute⟩ := h
  rw [ahead_names hl.goals] at hroute
  have hlen : ∀ route, allResolved fresh = some route → (route.length : Int) = max 0 k := by
    intro route hall
    rw [← hleft, ← List.length_map (f := (·.1)), (hroute route hall).1, List.length_drop]
  have hahead : ∀ route, allResolved fresh = some route → route.length = l.ahead.length :=
    fun route hall => ahead_length hl.goals (hroute route hall).1
  refine wp_decide_goThrough (fun _ => ⟨k, h, hl⟩) (fun route hall hmax => ?_)
    (fun _ _ _ _ _ => ⟨k, h, hl⟩) (fun route d hall hmax _ => ?_)
  · -- `max` of nothing: all waypoints are believed to be passed
    obtain ⟨-, tr, ht, hr⟩ := h
    refine ⟨tr, ht, hr.sent, fun _ hone => ?_⟩
    rw [hr.left] at hone
    have hnil := hlen route hall
    rw [(maxDist_movedBy (hahead route hall)).1 hmax, List.length_nil] at hnil
    omega
  · obtain ⟨hnames, hknown⟩ := hroute route hall
    have hne : route ≠ [] := by
      intro he
      rw [(maxDist_movedBy (hahead route hall)).2 he] at hmax
      cases hmax
    have hk : (route.length : Int) = k := by
      have := hlen route hall
      have := List.length_pos_iff.2 hne
      omega
    have hsuf : route.map (·.1) <:+ names := by
      rw [hnames]
      exact (List.drop_suffix _ _).trans hl.suffix
    refine (through_sendThrough (hknown.record rfl) hsuf
      (fun a ha => List.mem_append_left _ ha) hk).mono fun r w hr => ?_
    have hr : Through base names _ k [] w := hr.forget (by simp)
    cases r with
    | none => exact ⟨k, hr, hl⟩
    | some r =>
      refine ⟨k, hr, hsuf, ?_, ?_⟩
      · simp [goThrough.Vars.sent]
      · simp [goThrough.Vars.sent]
        omega

theorem result_stays (hq : Quiet w w') {g : GoalId} {s : GoalStatus} (h : w.result g = some s) :
    w'.result g = some s := by
  rcases hq.result g with he | ⟨_, hn, -⟩
  · rw [he, h]
  · rw [h] at hn
    cases hn

/-- The verdict on the tracked goal's result. -/
theorem routeDone_failed {g : GoalId} {status : GoalStatus} {left : List String}
    (h : Through base names (some g) k [] w) (hr : w.result g = some status)
    (hs : status ≠ .succeeded) (hleft : 1 ≤ k → left ≠ []) : RouteDone base names left w := by
  obtain ⟨-, tr, ht, hroute⟩ := h
  refine ⟨tr, ht, hroute.sent, fun hone => iff_of_false (hleft (hroute.left ▸ hone)) fun hex => ?_⟩
  obtain ⟨g', hg', hr'⟩ := hex
  obtain rfl : g = g' := Option.some.inj (hroute.tracked.symm.trans hg')
  exact hs (Option.some.inj (hr.symm.trans hr'))

theorem routeDone_succeeded {g : GoalId} (h : Through base names (some g) k [] w)
    (hr : w.result g = some .succeeded) : RouteDone base names [] w := by
  obtain ⟨-, tr, ht, hroute⟩ := h
  exact ⟨tr, ht, hroute.sent, fun _ => iff_of_true rfl ⟨g, hroute.tracked, hr⟩⟩

theorem through_turn {l : goThrough.Vars G} (h : OnLoop base names l w) :
    wp (goThrough.turn p l) (turnPost (OnLoop base names) (RouteDone base names))
      (RouteFailed base names) (Routed base names) w := by
  have hok : w.ok = true := h.choose_spec.1.1
  refine wp_turn_goThrough (fun hno => absurd (hok.symm.trans hno) (by simp))
    (fun _ => onLoop_sweep h) (fun l w h hr => ?_) (fun l w status h hr hs => ?_)
    (fun l w h _ _ => ?_) fun _ _ h _ => h
  · obtain ⟨k, h, -⟩ := h
    have hreached := logReached_inv (w := w.forget)
      (J := fun w => Through base names (some l.resultFuture) k [] w ∧
        w.result l.resultFuture = some .succeeded) (fun _ _ h => ⟨h.1.record rfl, h.2⟩)
      (l.names.drop l.passed) ⟨h, hr⟩
    exact routeDone_succeeded hreached.1 hreached.2
  · obtain ⟨k, h, hl⟩ := h
    have h' : Through base names (some l.resultFuture) k [] w.forget := h
    refine routeDone_failed (h'.record rfl) hr hs fun hone hnil => ?_
    have hleft := hl.left
    have := congrArg List.length hnil
    simp at this
    omega
  · obtain ⟨k, h, hl⟩ := h
    exact through_refresh p ⟨k, h, hl.suffix, hl.goals, hl.left⟩

/-- An early return leaves all names. -/
theorem routeDone_unsent (h : Through base names none names.length known w) :
    RouteDone base names names w := by
  obtain ⟨-, tr, ht, hr⟩ := h
  refine ⟨tr, ht, hr.sent, fun hone => iff_of_false ?_ ?_⟩
  · intro hnil
    rw [hr.left, hnil] at hone
    simp at hone
  · rw [hr.tracked]
    simp

theorem through_goThrough (h : Through base names none names.length [] w) :
    wp (goThrough p names) (RouteDone base names) (RouteFailed base names) (Routed base names)
      w := by
  refine wp_bind ((through_resolveRoute p names h).mono fun r w h => ?_)
  obtain ⟨h, hgoals⟩ := h
  cases r with
  | none => exact wp_pure (routeDone_unsent h)
  | some goals =>
    obtain ⟨hlen, hknown⟩ := hgoals goals rfl
    have hfst : (names.zip goals).map (·.1) = names := List.map_fst_zip hlen.ge
    have hsnd : (names.zip goals).map (·.2) = goals := List.map_snd_zip hlen.le
    refine wp_bind (wp_log (wp_bind ?_))
    have hsend := through_sendThrough (hknown.record (e := .log (.drivingThrough (names.zip goals)))
      rfl) (by rw [hfst]) (fun a ha => List.mem_append_left _ ha) (by simp [hlen])
    rw [hsnd] at hsend
    refine hsend.mono fun r w h => ?_
    cases r with
    | none => exact wp_pure (routeDone_unsent h)
    | some r =>
      have h : Through base names (some r.2) names.length [] w := h.forget (by simp)
      refine wp_bind (wp_get ?_)
      refine wp_loop (OnLoop base names) (fun l w h => through_turn p h) (fun l w h => ?_)
        ⟨_, h, List.suffix_rfl, hlen, by simp⟩
      obtain ⟨k, h, -⟩ := h
      exact h.routed

theorem through_start {n : List String} (h : w.ok = true) :
    Through w.trace n none n.length [] w :=
  ⟨h, [], rfl, trivial, rfl, rfl, by simp⟩

/-! ## What is re-sent -/

/-- No count processed so far is smaller than the route. -/
def StaysAhead (poses : List (PoseStamped G)) (pre : List (Entry G)) : Prop :=
  ∀ g c, .feedback g c ∈ pre → (poses.length : Int) ≤ c

/-- No count processed so far is smaller than all those read and the number of waypoints. -/
def CountsRead (names : List String) (pre : List (Entry G)) : Prop :=
  ∀ g c, .feedback g c ∈ pre → (names.length : Int) ≤ c ∨ ∃ q ≤ c, .read q ∈ pre

theorem staysAhead_iff {pre : List (Entry G)} {poses : List (PoseStamped G)}
    (h : (poses.length : Int) = remaining names.length pre) :
    StaysAhead poses pre ↔ CountsRead names pre := by
  unfold StaysAhead CountsRead
  rw [h]
  exact forall_congr' fun g => forall_congr' fun c => imp_congr_right fun _ => remaining_le

/-- **Every route `go_through` sends is for the last waypoints of the list, and it goes back
exactly if a count was processed that the loop has not read**, in every run so far. -/
theorem goThrough_resends (names : List String) (ins : List (Tick G)) (w₀ : World G)
    (hok : w₀.ok = true) :
    ∃ tr, ((goThrough p names).run ins w₀).state.trace = tr ++ w₀.trace ∧
      Each (fun e pre => ∀ g poses, e = .sent g (.navigateThroughPoses poses) →
        RouteFor names poses pre ∧ (StaysAhead poses pre ↔ CountsRead names pre)) tr := by
  have h : wp (goThrough p names) (RouteDone w₀.trace names) (RouteFailed w₀.trace names)
      (Routed w₀.trace names) w₀ := through_goThrough p (through_start hok)
  have hrouted : Routed w₀.trace names ((goThrough p names).run ins w₀).state := by
    refine h.state (fun left w h => ?_) (fun e w h => ?_) (fun w h => h) ins
    · obtain ⟨tr, ht, hs, -⟩ := h
      exact ⟨tr, ht, hs⟩
    · obtain ⟨tr, ht, hs, -⟩ := h
      exact ⟨tr, ht, hs⟩
  obtain ⟨tr, ht, hs⟩ := hrouted
  refine ⟨tr, ht, hs.imp fun e pre h g poses he => ?_⟩
  obtain ⟨hroute, hlen⟩ := h g poses he
  exact ⟨hroute, staysAhead_iff hlen⟩

end Methods

def twoWaypoints : Params .line :=
  { waypoints := ["wp1", "wp2"], mode := "through", replanThreshold := (1 : Nat) }

/-- GLIM answers for both waypoints and Nav2 accepts the route. -/
def untilRouted : List (Tick .line) :=
  [{}, { events := [.transform (0 : Int), .waypoint 0 ⟨true, "map", (4 : Int)⟩] },
    {}, { events := [.waypoint 1 ⟨true, "map", (9 : Int)⟩] },
    { events := [.accept 0, .answer 0] }]

/-- The first waypoint is passed, the second has moved, and its goal is sent again; the old goal's
feedback comes late, and then the new goal SUCCEEDED. -/
def routeResent : List (Tick .line) :=
  untilRouted ++ [{ now := 3 * second, events := [.feedback 0 1] },
    { now := 3 * second },
    { now := 3 * second, events := [.waypoint 2 ⟨true, "map", (11 : Int)⟩] },
    { now := 3 * second, events := [.accept 1, .answer 1, .feedback 0 1] },
    { now := 3 * second, events := [.finish 1 .succeeded, .result 1] }]

/-- The count of a feedback. -/
def Entry.count? {G : Geometry} : Entry G → Option Int
  | .feedback _ c => some c
  | _ => none

/-- The second route is for the second waypoint alone, and does not go back. -/
theorem goThrough_resends_once :
    ∃ post poses pre, ((goThrough twoWaypoints ["wp1", "wp2"]).run routeResent {}).state.trace =
        post ++ .sent 1 (.navigateThroughPoses poses) :: pre ∧
      poses.length = 1 ∧ RouteFor ["wp1", "wp2"] poses pre ∧ StaysAhead poses pre := by
  obtain ⟨tr, ht, h⟩ := goThrough_resends twoWaypoints ["wp1", "wp2"] routeResent {} rfl
  obtain rfl : _ = tr := ht.trans (List.append_nil tr)
  obtain ⟨hroute, hahead⟩ := h.2.2.2.2.1 1 _ rfl
  refine ⟨[_, _, _, _], _, _, rfl, rfl, hroute, hahead.2 fun g c hc => .inr ⟨1, ?_, ?_⟩⟩
  · -- the one count that was processed
    have hcount : c ∈ List.filterMap Entry.count? _ := List.mem_filterMap.2 ⟨_, hc, rfl⟩
    exact (List.mem_singleton.1 hcount).ge
  · exact .tail _ (.tail _ (.tail _ (.head _)))

/-- Both waypoints have moved when they are re-read, and the first is passed meanwhile. -/
def passedMeanwhile : List (Tick .line) :=
  untilRouted ++ [{ now := 3 * second, events := [.feedback 0 2] },
    { now := 3 * second },
    { now := 3 * second, events := [.waypoint 2 ⟨true, "map", (6 : Int)⟩, .feedback 0 1] },
    { now := 3 * second },
    { now := 3 * second, events := [.waypoint 3 ⟨true, "map", (11 : Int)⟩] }]

/-- The route is re-sent from the waypoint that was passed. -/
theorem goThrough_goes_back :
    ∃ poses pre, ((goThrough twoWaypoints ["wp1", "wp2"]).run passedMeanwhile {}).state.trace =
        .sent 1 (.navigateThroughPoses poses) :: pre ∧
      .feedback 0 1 ∈ pre ∧ poses.length = 2 ∧ ¬ StaysAhead poses pre := by
  refine ⟨_, _, rfl, ?_, rfl, fun h => ?_⟩
  · exact .tail _ (.tail _ (.tail _ (.head _)))
  · have h1 := h 0 1 (.tail _ (.tail _ (.tail _ (.head _))))
    exact absurd h1 (by decide)

/-! ## The verdict in mode through -/

/-- The loop has read no count of 0 (nor a negative one, which the message's type allows). -/
def NoZeroRead (tr : List (Entry G)) : Prop := ∀ q, .read q ∈ tr → 1 ≤ q

/-- Nav2 reported SUCCEEDED for the last goal accepted in time. -/
def Succeeded (tr : List (Entry G)) (w : World G) : Prop :=
  ∃ g, trackedGoal tr = some g ∧ w.result g = some .succeeded

section Verdict

variable (p : Params G)

/-- Before `go_through`. -/
def Unsent (w : World G) : Prop := w.ok = true ∧ trackedGoal w.trace = none

theorem unsent_stable : Stable (G := G) Unsent (fun _ _ => True) (fun _ => True) where
  quiet w w' hq h := by
    refine ⟨hq.same.ok.trans h.1, ?_⟩
    rcases hq.trace with ⟨_, ht | ⟨e, he, ht⟩⟩ | ⟨g, q, _, ht⟩
    · rw [ht, h.2]
    · rw [ht, trackedGoal_plain (plain_of_quiet he), h.2]
    · rw [ht]
      exact h.2
  interrupt _ _ := trivial
  blocked _ _ := trivial

theorem trackedGoal_append {g : GoalId} (h : trackedGoal tr = some g) (base : List (Entry G)) :
    trackedGoal (tr ++ base) = some g := by
  induction tr with
  | nil => cases h
  | cons e tr ih =>
    cases e with
    | outcome g' o => cases o <;> first | exact h | exact ih h
    | _ => exact ih h

/-- What a run in mode through comes to. -/
def ThroughVerdict (rc : Int) (w : World G) : Prop :=
  rc = 0 → NoZeroRead w.trace → Succeeded w.trace w

theorem through_drive (hp : p.mode = "through") (hne : names ≠ []) (h : Unsent w) :
    wp (drive p names) ThroughVerdict (fun _ _ => True) (fun _ => True) w := by
  have hstart : Unsent (w.record (.log (.mission p.mode names))) := h
  refine wp_bind (wp_log ?_)
  rw [if_pos hp]
  have hgo : wp (goThrough p names) (RouteDone _ names) _ _ _ :=
    through_goThrough p (through_start hstart.1)
  refine wp_bind (hgo.imp (fun left w hdone => ?_) (fun _ _ _ => trivial) fun _ _ => trivial)
  unfold finish
  split
  · exact wp_bind (wp_log (wp_pure fun hrc => absurd hrc (by decide)))
  · rename_i hleft
    refine wp_bind (wp_log (wp_pure fun _ hread => ?_))
    obtain ⟨tr, ht, -, hdone⟩ := hdone
    have hone : 1 ≤ remaining names.length tr := by
      refine le_remaining.2 ⟨?_, fun q hq => ?_⟩
      · have := List.length_pos_iff.2 hne
        omega
      · exact hread q (List.mem_cons_of_mem _ (ht ▸ List.mem_append_left _ hq))
    obtain ⟨g, hg, hr⟩ := (hdone hone).1 (not_not.1 hleft)
    refine ⟨g, ?_, hr⟩
    show trackedGoal w.trace = some g
    rw [ht, trackedGoal_append hg]

theorem through_run (hp : p.mode = "through") (h : Unsent w) :
    wp (run p) ThroughVerdict (fun _ _ => True) (fun _ => True) w :=
  wp_run p unsent_stable (fun _ _ _ _ hrc => absurd hrc (by decide))
    (fun _ _ hne h => through_drive p hp hne h) h

/-- **As long as no count of 0 is read, `go_through` raises nothing of its own and returns nothing
left iff the goal it tracks SUCCEEDED**; so `run` returns 0 only then. -/
theorem goThrough_verdict (names : List String) (hne : names ≠ []) (ins : List (Tick G))
    (w₀ : World G) (hok : w₀.ok = true) :
    (∃ tr, ((goThrough p names).run ins w₀).state.trace = tr ++ w₀.trace ∧
      (NoZeroRead tr →
        (∀ e rest w, (goThrough p names).run ins w₀ = .raised e rest w → e = .keyboardInterrupt) ∧
        ∀ left rest w, (goThrough p names).run ins w₀ = .ret left rest w →
          (left = [] ↔ Succeeded tr w))) ∧
    ∀ rest w, (run { p with mode := "through" }).run ins {} = .ret 0 rest w →
      NoZeroRead w.trace → Succeeded w.trace w := by
  have hone : ∀ tr : List (Entry G), NoZeroRead tr → 1 ≤ remaining names.length tr := by
    intro tr hread
    have := List.length_pos_iff.2 hne
    exact le_remaining.2 ⟨by omega, hread⟩
  constructor
  · have h := through_goThrough p (through_start (n := names) hok) ins
    cases hr : (goThrough p names).run ins w₀ with
    | ret left rest w =>
      rw [hr] at h
      obtain ⟨tr, ht, -, hdone⟩ := h
      refine ⟨tr, ht, fun hread => ⟨nofun, fun _ _ _ he => ?_⟩⟩
      cases he
      exact hdone (hone tr hread)
    | raised e rest w =>
      rw [hr] at h
      obtain ⟨tr, ht, -, hfail⟩ := h
      refine ⟨tr, ht, fun hread => ⟨fun e' _ _ he => ?_, nofun⟩⟩
      cases he
      cases e with
      | keyboardInterrupt => rfl
      | valueError => exact absurd (hone tr hread) (hfail rfl)
    | blocked w =>
      rw [hr] at h
      obtain ⟨tr, ht, -⟩ := h
      exact ⟨tr, ht, fun _ => ⟨nofun, nofun⟩⟩
  · intro rest w hr
    exact (through_run { p with mode := "through" } rfl ⟨rfl, rfl⟩).ret hr rfl

end Verdict

/-- A count is read, and the route SUCCEEDED. -/
def routeReached : List (Tick .line) :=
  {} :: untilRouted ++ [{ events := [.feedback 0 1] },
    { events := [.finish 0 .succeeded, .result 0] }]

theorem goThrough_verdict_reached :
    Succeeded ((run twoWaypoints).run routeReached {}).state.trace
      ((run twoWaypoints).run routeReached {}).state := by
  have hverdict := goThrough_verdict twoWaypoints ["wp1", "wp2"] (by decide) routeReached {} rfl
  refine hverdict.2 [] _ rfl ?_
  have hone : 1 ≤ remaining 1 ((run twoWaypoints).run routeReached {}).state.trace := by decide
  exact (le_remaining.1 hone).2

/-- The count drops to 0, then Nav2 aborts. -/
def abortedAtEnd : List (Tick .line) :=
  {} :: untilRouted ++ [{ events := [.feedback 0 0] },
    { events := [.finish 0 .aborted, .result 0] }]

/-- The count drops to 0, then a refresh is due. -/
def refreshedAtEnd : List (Tick .line) :=
  untilRouted ++ [{ now := 3 * second, events := [.feedback 0 0] }]

/-- With a count of 0 an aborted route makes `run` return 0, and a refresh makes `go_through`
raise a ValueError. -/
theorem goThrough_zero_count :
    (∃ w, (run twoWaypoints).run abortedAtEnd {} = .ret 0 [] w ∧
      trackedGoal w.trace = some 0 ∧ w.result 0 = some .aborted) ∧
    ∃ w, (goThrough twoWaypoints ["wp1", "wp2"]).run refreshedAtEnd {} =
      .raised .valueError [] w :=
  ⟨⟨_, rfl, rfl, rfl⟩, _, rfl⟩

end Mission
