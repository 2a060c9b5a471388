import Mathlib.Data.List.Forall2
import Mathlib.Order.Lattice
import Kratos.Mission.Proof.Tracked

/-!
# Drift since the last goal that was sent

A refresh compares what GLIM says now with the goal that Nav2 has, not with what GLIM said at the
refresh before. `Follows` is the invariant behind it: the loop's `goal` or `goals` are what was
sent in the tracked goal, over all turns and through sends that failed. So a refresh that re-sends
nothing has found every waypoint ahead near where Nav2 has it, however often it has moved since.
-/

namespace Mission

open Prog

variable {G : Geometry} {p : Params G} {name : String} {names : List String}
  {ins rest : List (Tick G)} {w₀ w w' w₁ : World G} {handle future : GoalId} {msg : GoalMsg G}
  {tr : List (Entry G)}

/-! ## The goal being tracked -/

/-- The tracked goal is `future`, in which Nav2 was sent `msg`. -/
structure Follows (handle future : GoalId) (msg : GoalMsg G) (w : World G) : Prop where
  sent : w.goals[future]? = some msg
  same : handle = future
  current : w.currentHandle = some handle

theorem follows_stable :
    Stable (Follows (G := G) handle future msg) (fun _ _ => True) fun _ => True where
  quiet _ _ hq h := by
    refine ⟨?_, h.same, hq.same.currentHandle.trans h.current⟩
    rw [hq.same.goals]
    exact h.sent
  interrupt _ _ := trivial
  blocked _ _ := trivial

theorem follows_sweep (h : Follows handle future msg w) :
    wp sweep (fun _ => Follows handle future msg) (fun _ _ => True) (fun _ => True) w := by
  refine wp_sweep follows_stable (fun w r h _ => ?_) (fun w r h _ => ?_) h
  · exact ⟨h.sent, h.same, h.current⟩
  · exact ⟨h.sent, h.same, h.current⟩

/-! ## How sends end -/

/-- Nav2 has accepted whatever was sent. -/
def AllAccepted (tr : List (Entry G)) : Prop := ∀ g o, .outcome g o ∈ tr → o = .accepted

theorem allAccepted_cons (g : GoalId) (h : ∀ g o, .outcome g o ∉ tr) :
    AllAccepted (.outcome g .accepted :: tr) := by
  intro k o hm
  rcases List.mem_cons.1 hm with hm | hm
  · cases hm
    rfl
  · exact absurd hm (h k o)

/-- Since `w`, no send has ended. -/
def Unjudged (w w' : World G) : Prop :=
  ∃ tr, w'.trace = tr ++ w.trace ∧ ∀ g o, .outcome g o ∉ tr

theorem Unjudged.refl (w : World G) : Unjudged w w := ⟨[], rfl, by simp⟩

theorem Unjudged.entry (h : Unjudged w₀ w) {e : Entry G} (he : ∀ g o, e ≠ .outcome g o)
    (ht : w'.trace = e :: w.trace) : Unjudged w₀ w' := by
  obtain ⟨tr, htr, hno⟩ := h
  refine ⟨e :: tr, by rw [ht, htr, List.cons_append], fun g o hm => ?_⟩
  rcases List.mem_cons.1 hm with hm | hm
  · exact he g o hm.symm
  · exact hno g o hm

theorem Unjudged.quiet (h : Unjudged w₀ w) (hq : Quiet w w') : Unjudged w₀ w' := by
  rcases hq.trace with ⟨-, ht | ⟨e, he, ht⟩⟩ | ⟨g, n, -, ht⟩
  · rw [Unjudged, ht]
    exact h
  · refine h.entry (fun g o heq => ?_) ht
    rw [heq] at he
    cases he
  · exact h.entry (by simp) ht

theorem Unjudged.failed (h : Unjudged w₀ w) {m : LogMsg G} {g : GoalId} {o : Outcome}
    (ho : o ≠ .accepted) (ht : w'.trace = .outcome g o :: .log m :: w.trace) :
    ∃ tr, w'.trace = tr ++ w₀.trace ∧ ¬ AllAccepted tr := by
  obtain ⟨tr, htr, -⟩ := h
  refine ⟨.outcome g o :: .log m :: tr, ?_, fun hall => ho (hall g o List.mem_cons_self)⟩
  rw [ht, htr, List.cons_append, List.cons_append]

/-- After a send from `w`, either the old goal is tracked or the new one, and the entries since
`w₀` tell which. -/
def SentFrom (w₀ w : World G) (msg : GoalMsg G) : Option (GoalId × GoalId) → World G → Prop
  | none, w' => ∃ tr, w'.trace = tr ++ w₀.trace ∧ ¬ AllAccepted tr ∧
      ∀ h f old, Follows h f old w → Follows h f old w'
  | some (h, f), w' => ∃ tr, w'.trace = tr ++ w₀.trace ∧ AllAccepted tr ∧ Follows h f msg w'

theorem sentFrom_sendAction (msg : GoalMsg G) (hu : Unjudged w₀ w) :
    wp (sendAction msg) (SentFrom w₀ w msg) (fun _ _ => True) (fun _ => True) w := by
  let J : World G → Prop := fun w' =>
    w'.goals = w.goals ++ [msg] ∧ w'.currentHandle = w.currentHandle ∧ Unjudged w₀ w'
  have hstable : Stable J (fun _ _ => True) fun _ => True :=
    ⟨fun _ _ hq h => ⟨hq.same.goals.trans h.1, hq.same.currentHandle.trans h.2.1, h.2.2.quiet hq⟩,
      fun _ _ => trivial, fun _ _ => trivial⟩
  have hold : ∀ (w' : World G) (h f : GoalId) (old : GoalMsg G), w'.goals = w.goals ++ [msg] →
      w'.currentHandle = w.currentHandle → Follows h f old w → Follows h f old w' := by
    intro w' h f old hg hc hf
    obtain ⟨hlt, -⟩ := List.getElem?_eq_some_iff.1 hf.sent
    refine ⟨?_, hf.same, hc.trans hf.current⟩
    rw [hg, List.getElem?_append_left hlt]
    exact hf.sent
  refine wp_sendAction hstable msg ⟨rfl, rfl, hu.entry (e := .sent _ msg) (by simp) rfl⟩ ?_ ?_ ?_
  · intro w' hJ _
    have hfailed : ∃ tr, (w'.timedOut w.goals.length).trace = tr ++ w₀.trace ∧ ¬ AllAccepted tr :=
      hJ.2.2.failed (o := .timedOut) (by decide) rfl
    obtain ⟨tr, ht, hall⟩ := hfailed
    exact ⟨tr, ht, hall, fun h f old => hold _ h f old hJ.1 hJ.2.1⟩
  · intro w' hJ _
    have hfailed : ∃ tr, (w'.rejected w.goals.length).trace = tr ++ w₀.trace ∧ ¬ AllAccepted tr :=
      hJ.2.2.failed (o := .rejected) (by decide) rfl
    obtain ⟨tr, ht, hall⟩ := hfailed
    exact ⟨tr, ht, hall, fun h f old => hold _ h f old hJ.1 hJ.2.1⟩
  · intro w' hJ _
    obtain ⟨hg, -, tr, ht, hno⟩ := hJ
    refine ⟨.outcome w.goals.length .accepted :: tr, ?_, allAccepted_cons _ hno, ?_, rfl, rfl⟩
    · show _ :: w'.trace = _
      rw [ht, List.cons_append]
    · show w'.goals[w.goals.length]? = some msg
      rw [hg]
      simp

theorem sentFrom_sendThrough (goals : List (PoseStamped G)) (hu : Unjudged w₀ w) :
    wp (sendThrough goals) (SentFrom w₀ w (.navigateThroughPoses goals)) (fun _ _ => True)
      (fun _ => True) w := by
  have hu' : Unjudged w₀ { w with posesRemaining := none } := hu
  refine wp_bind (wp_modify ((sentFrom_sendAction _ hu').mono fun r w' hs => ?_))
  cases r with
  | none =>
    obtain ⟨tr, ht, hall, hold⟩ := hs
    exact ⟨tr, ht, hall, fun h f old hf => hold h f old ⟨hf.sent, hf.same, hf.current⟩⟩
  | some r => exact hs

/-! ## `go_to` -/

/-- What a refresh of `go_to` has made of its goal, having recorded `tr`. -/
def goTo.Refreshed (p : Params G) (l : goTo.Vars G) (fresh : Option (PoseStamped G)) (w : World G)
    (l' : goTo.Vars G) (w' : World G) : Prop :=
  ∃ tr, w'.trace = tr ++ w.trace ∧
    Follows l'.handle l'.resultFuture (.navigateToPose l'.goal) w' ∧
    (l' = l ∧ (∀ goal, fresh = some goal → AllAccepted tr →
        G.gt (G.moved goal.pose l.goal.pose) p.replanThreshold = false) ∨
      fresh = some l'.goal ∧ AllAccepted tr)

theorem goTo.refreshed {l l' : goTo.Vars G} {fresh : Option (PoseStamped G)} {ins₁ : List (Tick G)}
    (hf : Follows l.handle l.resultFuture (.navigateToPose l.goal) w)
    (hr : (resolve p name).run ins w = .ret fresh ins₁ w₁)
    (hn : (goTo.refresh p name l).run ins w = .ret (.next l') rest w') :
    goTo.Refreshed p l fresh w l' w' := by
  have hstable := follows_stable.and
    (J := Follows (G := G) l.handle l.resultFuture (.navigateToPose l.goal))
    fun _ _ hq (h : Unjudged w _) => h.quiet hq
  obtain ⟨⟨hf, hu⟩, -⟩ := (wp_resolve p hstable name ⟨hf, .refl w⟩).ret hr
  rw [goTo.refresh_eq, run_ret _ hr] at hn
  have hdecide : wp (goTo.decide p name l fresh)
      (fun t w' => ∃ l', t = .next l' ∧ goTo.Refreshed p l fresh w l' w') (fun _ _ => True)
      (fun _ => True) w₁ := by
    refine wp_decide_goTo (fun hstays => ?_) fun goal hgoal _ => ?_
    · obtain ⟨tr, ht, -⟩ := hu
      exact ⟨l, rfl, tr, ht, hf, .inl ⟨rfl, fun goal hgoal _ => hstays goal hgoal⟩⟩
    · have hu' : Unjudged w (w₁.record (.log (.moved name (G.moved goal.pose l.goal.pose)))) :=
        hu.entry (by simp) rfl
      refine (sentFrom_sendAction _ hu').mono fun r w' hsent => ⟨_, rfl, ?_⟩
      cases r with
      | none =>
        obtain ⟨tr, ht, hnot, hold⟩ := hsent
        have hf := hold _ _ _ ⟨hf.sent, hf.same, hf.current⟩
        exact ⟨tr, ht, hf, .inl ⟨rfl, fun _ _ hall => absurd hall hnot⟩⟩
      | some r =>
        obtain ⟨tr, ht, hall, hf⟩ := hsent
        exact ⟨tr, ht, hf, .inr ⟨hgoal, hall⟩⟩
  obtain ⟨_, hl, h⟩ := hdecide.ret hn
  cases hl
  exact h

theorem goTo.Enters.follows {h : At (goTo.Vars G) (Tick G) (World G)}
    (he : goTo.Enters p name ins w₀ h) :
    Follows h.var.handle h.var.resultFuture (.navigateToPose h.var.goal) h.state := by
  obtain ⟨-, hs⟩ := he
  obtain ⟨-, -, -, hf⟩ := (sentFrom_sendAction _ (.refl _)).ret hs
  exact hf

/-- **In every turn the loop's goal is the one Nav2 was sent.** -/
theorem goTo.Heads.follows {h : At (goTo.Vars G) (Tick G) (World G)}
    (hh : goTo.Heads p name ins w₀ h) :
    Follows h.var.handle h.var.resultFuture (.navigateToPose h.var.goal) h.state := by
  obtain ⟨h₀, he, ht⟩ := hh
  induction ht with
  | refl => exact he.follows
  | tail _ hn ih =>
    obtain ⟨-, ins₁, w₁, hs, -, hnext⟩ := goTo.turn_next hn
    have hswept := (follows_sweep ih).ret hs
    rcases hnext with ⟨-, hr⟩ | ⟨-, hl, -, hw⟩
    · have hr' := hr
      rw [goTo.refresh_eq] at hr'
      obtain ⟨fresh, ins₂, w₂, hres, -⟩ := ret_bind hr'
      obtain ⟨-, -, hf, -⟩ := goTo.refreshed
        (l := { nextRefresh := w₁.now + p.refreshPeriod, .. }) hswept hres hr
      exact hf
    · rw [hl, hw]
      exact hswept

/-! ## `go_through` -/

structure goThrough.Follows (l : goThrough.Vars G) (w : World G) : Prop where
  goal : Mission.Follows l.handle l.resultFuture (.navigateThroughPoses l.goals) w
  length : l.goals.length = l.names.length

theorem goThrough.follows_sweep {l : goThrough.Vars G} (h : goThrough.Follows l w) :
    wp (goThrough.sweep l) (fun l' => goThrough.Follows l') (fun _ _ => True) (fun _ => True)
      w := by
  refine wp_bind ((Mission.follows_sweep h.goal).mono fun _ w hg => ?_)
  refine wp_update (fun _ => ⟨hg, h.length⟩) fun remaining _ => ⟨?_, h.length⟩
  have hread : Mission.Follows l.handle l.resultFuture (.navigateThroughPoses l.goals)
      (w.record (.read remaining)) := ⟨hg.sent, hg.same, hg.current⟩
  exact logReached_inv (fun _ _ h => ⟨h.sent, h.same, h.current⟩) _ hread

/-- What a refresh of `go_through` has made of its route, having recorded `tr`. -/
def goThrough.Refreshed (p : Params G) (l : goThrough.Vars G)
    (fresh : List (String × Option (PoseStamped G))) (w : World G) (l' : goThrough.Vars G)
    (w' : World G) : Prop :=
  ∃ tr, w'.trace = tr ++ w.trace ∧ goThrough.Follows l' w' ∧
    (l' = l ∧ (∀ route, allResolved fresh = some route → AllAccepted tr →
        ∃ d, maxDist G (movedBy l.ahead route) = some d ∧ G.gt d p.replanThreshold = false) ∨
      ∃ route, allResolved fresh = some route ∧ AllAccepted tr ∧
        l'.names = route.map (·.1) ∧ l'.goals = route.map (·.2) ∧ l'.passed = 0)

theorem goThrough.refreshed {l l' : goThrough.Vars G}
    {fresh : List (String × Option (PoseStamped G))} {ins₁ : List (Tick G)}
    (hf : goThrough.Follows l w) (hr : (resolveAhead p l.ahead).run ins w = .ret fresh ins₁ w₁)
    (hn : (goThrough.refresh p l).run ins w = .ret (.next l') rest w') :
    goThrough.Refreshed p l fresh w l' w' ∧ fresh.map (·.1) = l.names.drop l.passed := by
  have hstable := follows_stable.and
    (J := Mission.Follows (G := G) l.handle l.resultFuture (.navigateThroughPoses l.goals))
    fun _ _ hq (h : Unjudged w _) => h.quiet hq
  obtain ⟨⟨hg, hu⟩, hnames⟩ := (wp_resolveAhead p hstable l.ahead ⟨hf.goal, .refl w⟩).ret hr
  rw [ahead_names hf.length] at hnames
  rw [goThrough.refresh_eq, run_ret _ hr] at hn
  have hdecide : wp (goThrough.decide p l fresh)
      (fun t w' => ∃ l', t = .next l' ∧ goThrough.Refreshed p l fresh w l' w') (fun _ _ => True)
      (fun _ => True) w₁ := by
    have hkept : (∀ route, allResolved fresh = some route →
          ∃ d, maxDist G (movedBy l.ahead route) = some d ∧ G.gt d p.replanThreshold = false) →
        goThrough.Refreshed p l fresh w l w₁ := by
      intro hstays
      obtain ⟨tr, ht, -⟩ := hu
      exact ⟨tr, ht, ⟨hg, hf.length⟩, .inl ⟨rfl, fun route hroute _ => hstays route hroute⟩⟩
    refine wp_decide_goThrough (fun hnone => ⟨l, rfl, hkept fun route hroute => ?_⟩)
      (fun _ _ _ => trivial)
      (fun route d hroute hmax hgt => ⟨l, rfl, hkept fun route' hroute' => ?_⟩)
      (fun route d hroute _ _ => ?_)
    · rw [hnone] at hroute
      cases hroute
    · obtain rfl : route = route' := Option.some.inj (hroute.symm.trans hroute')
      exact ⟨d, hmax, hgt⟩
    · have hu' : Unjudged w (w₁.record (.log (.routeMoved d (route.map (·.1))))) :=
        hu.entry (by simp) rfl
      refine (sentFrom_sendThrough _ hu').mono fun r w' hsent => ⟨_, rfl, ?_⟩
      cases r with
      | none =>
        obtain ⟨tr, ht, hnot, hold⟩ := hsent
        have hg := hold _ _ _ ⟨hg.sent, hg.same, hg.current⟩
        exact ⟨tr, ht, ⟨hg, hf.length⟩, .inl ⟨rfl, fun _ _ hall => absurd hall hnot⟩⟩
      | some r =>
        obtain ⟨tr, ht, hall, hg⟩ := hsent
        refine ⟨tr, ht, ⟨hg, ?_⟩, .inr ⟨route, hroute, hall, rfl, rfl, rfl⟩⟩
        simp [goThrough.Vars.sent]
  obtain ⟨_, hl, h⟩ := hdecide.ret hn
  cases hl
  exact ⟨h, hnames⟩

theorem goThrough.Enters.follows {h : At (goThrough.Vars G) (Tick G) (World G)}
    (he : goThrough.Enters p names ins w₀ h) : goThrough.Follows h.var h.state := by
  obtain ⟨hr, hs⟩ := he
  have htrivial : Stable (G := G) (fun _ => True) (fun _ _ => True) fun _ => True :=
    ⟨fun _ _ _ _ => trivial, fun _ _ => trivial, fun _ _ => trivial⟩
  obtain ⟨-, hlen⟩ := (wp_resolveRoute p htrivial names trivial).ret hr
  obtain ⟨-, -, -, hf⟩ := (sentFrom_sendThrough _ (.refl _)).ret hs
  exact ⟨hf, hlen _ rfl⟩

theorem goThrough.Heads.follows {h : At (goThrough.Vars G) (Tick G) (World G)}
    (hh : goThrough.Heads p names ins w₀ h) : goThrough.Follows h.var h.state := by
  obtain ⟨h₀, he, ht⟩ := hh
  induction ht with
  | refl => exact he.follows
  | tail _ hn ih =>
    obtain ⟨-, l, ins₁, w₁, hs, -, hnext⟩ := goThrough.turn_next hn
    have hswept := (goThrough.follows_sweep ih).ret hs
    rcases hnext with ⟨-, hr⟩ | ⟨-, hl, -, hw⟩
    · have hr' := hr
      rw [goThrough.refresh_eq] at hr'
      obtain ⟨fresh, ins₂, w₂, hres, -⟩ := ret_bind hr'
      have hdue : goThrough.Follows { l with nextRefresh := w₁.now + p.refreshPeriod } w₁ :=
        ⟨hswept.goal, hswept.length⟩
      obtain ⟨⟨-, -, hf, -⟩, -⟩ := goThrough.refreshed hdue hres hr
      exact hf
    · rw [hl, hw]
      exact hswept

/-! ## Distances -/

/-- What Nav2 has for a waypoint is what `resolve` returned, or no farther from it than the
threshold. -/
def Near [LE G.Dist] (p : Params G) (fresh tracked : PoseStamped G) : Prop :=
  tracked.pose = fresh.pose ∨ G.moved fresh.pose tracked.pose ≤ p.replanThreshold

variable [LinearOrder G.Dist]

theorem le_maxDist (hgt : ∀ a b, G.gt a b = true ↔ b < a) {ds : List G.Dist} {d : G.Dist}
    (h : maxDist G ds = some d) : ∀ x ∈ ds, x ≤ d := by
  have hfold : ∀ (ds : List G.Dist) (m : G.Dist),
      m ≤ ds.foldl (fun m d => if G.gt d m then d else m) m ∧
        ∀ x ∈ ds, x ≤ ds.foldl (fun m d => if G.gt d m then d else m) m := by
    intro ds
    induction ds with
    | nil => exact fun m => ⟨le_rfl, by simp⟩
    | cons d ds ih =>
      intro m
      have hstep : m ≤ (if G.gt d m then d else m) ∧ d ≤ (if G.gt d m then d else m) := by
        split
        · exact ⟨((hgt d m).1 ‹_›).le, le_rfl⟩
        · exact ⟨le_rfl, not_lt.1 fun hlt => absurd ((hgt d m).2 hlt) ‹_›⟩
      obtain ⟨hm, hds⟩ := ih (if G.gt d m then d else m)
      refine ⟨hstep.1.trans hm, fun x hx => ?_⟩
      rcases List.mem_cons.1 hx with rfl | hx
      · exact hstep.2.trans hm
      · exact hds x hx
  cases ds with
  | nil => cases h
  | cons m ds =>
    obtain rfl : _ = d := Option.some.inj h
    obtain ⟨hm, hds⟩ := hfold ds m
    intro x hx
    rcases List.mem_cons.1 hx with rfl | hx
    · exact hm
    · exact hds x hx

theorem le_of_gt_false (hgt : ∀ a b, G.gt a b = true ↔ b < a) {a b : G.Dist}
    (h : G.gt a b = false) : a ≤ b :=
  not_lt.1 fun hlt => absurd ((hgt a b).2 hlt) (by simp [h])

theorem near_of_movedBy {ahead route : List (String × PoseStamped G)}
    (hlen : route.length = ahead.length)
    (h : ∀ d ∈ movedBy ahead route, d ≤ p.replanThreshold) :
    List.Forall₂ (Near p) (route.map (·.2)) (ahead.map (·.2)) := by
  induction ahead generalizing route with
  | nil =>
    obtain rfl : route = [] := List.length_eq_zero_iff.1 hlen
    exact .nil
  | cons a ahead ih =>
    cases route with
    | nil => cases hlen
    | cons f route =>
      refine .cons (.inr (h _ List.mem_cons_self)) (ih (Nat.succ.inj hlen) fun d hd => ?_)
      exact h d (List.mem_cons_of_mem _ hd)

/-! ## Every refresh -/

/-- A refresh of `go_to`, from when it is due in `w` to the loop's next turn: `fresh` is what it
resolved. -/
inductive goTo.Refreshes (p : Params G) (name : String) (ins : List (Tick G)) (w₀ : World G) :
    goTo.Vars G → World G → Option (PoseStamped G) → goTo.Vars G → World G → Prop
  | intro {h : At (goTo.Vars G) (Tick G) (World G)} {fresh : Option (PoseStamped G)}
      {l' : goTo.Vars G} {ins₁ ins₂ rest : List (Tick G)} {w w₁ w' : World G} :
      goTo.Heads p name ins w₀ h → h.state.ok = true →
      sweep.run h.rest h.state = .ret () ins₁ w →
      w.result h.var.resultFuture = none → h.var.nextRefresh ≤ w.now →
      (resolve p name).run ins₁ w = .ret fresh ins₂ w₁ →
      (goTo.refresh p name { h.var with nextRefresh := w.now + p.refreshPeriod }).run ins₁ w =
        .ret (.next l') rest w' →
      Refreshes p name ins w₀ h.var w fresh l' w'

inductive goThrough.Refreshes (p : Params G) (names : List String) (ins : List (Tick G))
    (w₀ : World G) : goThrough.Vars G → World G → List (String × Option (PoseStamped G)) →
    goThrough.Vars G → World G → Prop
  | intro {h : At (goThrough.Vars G) (Tick G) (World G)} {l l' : goThrough.Vars G}
      {fresh : List (String × Option (PoseStamped G))} {ins₁ ins₂ rest : List (Tick G)}
      {w w₁ w' : World G} :
      goThrough.Heads p names ins w₀ h → h.state.ok = true →
      (goThrough.sweep h.var).run h.rest h.state = .ret l ins₁ w →
      w.result l.resultFuture = none → l.nextRefresh ≤ w.now →
      (resolveAhead p l.ahead).run ins₁ w = .ret fresh ins₂ w₁ →
      (goThrough.refresh p { l with nextRefresh := w.now + p.refreshPeriod }).run ins₁ w =
        .ret (.next l') rest w' →
      Refreshes p names ins w₀ l w fresh l' w'

/-- The tracked goal and its message, in both worlds. -/
def SameGoal (handle future : GoalId) (w w' : World G) : Prop :=
  ∃ msg, Follows handle future msg w ∧ Follows handle future msg w'

theorem goTo.refresh_near (hgt : ∀ a b, G.gt a b = true ↔ b < a) {l l' : goTo.Vars G}
    {fresh : Option (PoseStamped G)} (hr : goTo.Refreshes p name ins w₀ l w fresh l' w') :
    ∃ tr, w'.trace = tr ++ w.trace ∧
      (∀ goal, fresh = some goal → AllAccepted tr → ∃ tracked, Near p goal tracked ∧
        Follows l'.handle l'.resultFuture (.navigateToPose tracked) w') ∧
      (fresh = none ∨ ¬ AllAccepted tr → l' = { l with nextRefresh := l'.nextRefresh } ∧
        SameGoal l.handle l.resultFuture w w') := by
  obtain ⟨hh, -, hs, -, -, hres, hn⟩ := hr
  have hf := (follows_sweep hh.follows).ret hs
  obtain ⟨tr, ht, hf', hend⟩ := goTo.refreshed
    (l := { nextRefresh := w.now + p.refreshPeriod, .. }) hf hres hn
  refine ⟨tr, ht, fun goal hgoal hall => ⟨l'.goal, ?_, hf'⟩, fun hfail => ?_⟩
  · rcases hend with ⟨rfl, hstays⟩ | ⟨hl, -⟩
    · exact .inr (le_of_gt_false hgt (hstays goal hgoal hall))
    · rw [hgoal] at hl
      rw [Option.some.inj hl]
      exact .inl rfl
  · rcases hend with ⟨rfl, -⟩ | ⟨hl, hall⟩
    · exact ⟨rfl, _, hf, hf'⟩
    · rcases hfail with hnone | hnot
      · rw [hnone] at hl
        cases hl
      · exact absurd hall hnot

theorem goThrough.refresh_near (hgt : ∀ a b, G.gt a b = true ↔ b < a) {l l' : goThrough.Vars G}
    {fresh : List (String × Option (PoseStamped G))}
    (hr : goThrough.Refreshes p names ins w₀ l w fresh l' w') :
    ∃ tr, w'.trace = tr ++ w.trace ∧
      (∀ route, allResolved fresh = some route → AllAccepted tr →
        l'.names.drop l'.passed = route.map (·.1) ∧
          ∃ tracked, List.Forall₂ (Near p) (route.map (·.2)) (tracked.drop l'.passed) ∧
            Mission.Follows l'.handle l'.resultFuture (.navigateThroughPoses tracked) w') ∧
      (allResolved fresh = none ∨ ¬ AllAccepted tr →
        l' = { l with nextRefresh := l'.nextRefresh } ∧
          SameGoal l.handle l.resultFuture w w') := by
  obtain ⟨hh, -, hs, -, -, hres, hn⟩ := hr
  have hf := (goThrough.follows_sweep hh.follows).ret hs
  obtain ⟨⟨tr, ht, hf', hend⟩, hnames⟩ := goThrough.refreshed
    (l := { l with nextRefresh := w.now + p.refreshPeriod }) ⟨hf.goal, hf.length⟩ hres hn
  refine ⟨tr, ht, fun route hroute hall => ?_, fun hfail => ?_⟩
  · have hroutes := (allResolved_names hroute).trans hnames
    rcases hend with ⟨rfl, hstays⟩ | ⟨route', hroute', -, hn', hg', hp'⟩
    · obtain ⟨d, hmax, hle⟩ := hstays route hroute hall
      have hbound : ∀ x ∈ movedBy l.ahead route, x ≤ p.replanThreshold :=
        fun x hx => (le_maxDist hgt hmax x hx).trans (le_of_gt_false hgt hle)
      have hlen : route.length = l.ahead.length := ahead_length hf.length hroutes
      refine ⟨hroutes.symm, l.goals, ?_, hf'.goal⟩
      rw [← ahead_goals hf.length]
      exact near_of_movedBy hlen hbound
    · obtain rfl : route = route' := Option.some.inj (hroute.symm.trans hroute')
      refine ⟨?_, l'.goals, ?_, hf'.goal⟩
      · rw [hn', hp', List.drop_zero]
      · rw [hg', hp', List.drop_zero]
        exact List.forall₂_same.2 fun _ _ => .inl rfl
  · rcases hend with ⟨rfl, -⟩ | ⟨route, hroute, hall, -⟩
    · exact ⟨rfl, _, hf.goal, hf'.goal⟩
    · rcases hfail with hnone | hnot
      · rw [hnone] at hroute
        cases hroute
      · exact absurd hall hnot

/-- **After every refresh that resolved all and whose send, if it made one, was accepted, the
tracked goal is near what was resolved**, for each waypoint ahead. One that failed leaves the loop's
variables and the tracked goal as they were. -/
theorem refresh_bounds_drift (p : Params G) (hgt : ∀ a b, G.gt a b = true ↔ b < a) :
    (∀ (name : String) (ins : List (Tick G)) (w₀ w w' : World G) (l l' : goTo.Vars G)
      (fresh : Option (PoseStamped G)), goTo.Refreshes p name ins w₀ l w fresh l' w' →
      ∃ tr, w'.trace = tr ++ w.trace ∧
        (∀ goal, fresh = some goal → AllAccepted tr → ∃ tracked, Near p goal tracked ∧
          Follows l'.handle l'.resultFuture (.navigateToPose tracked) w') ∧
        (fresh = none ∨ ¬ AllAccepted tr → l' = { l with nextRefresh := l'.nextRefresh } ∧
          SameGoal l.handle l.resultFuture w w')) ∧
    ∀ (names : List String) (ins : List (Tick G)) (w₀ w w' : World G) (l l' : goThrough.Vars G)
      (fresh : List (String × Option (PoseStamped G))),
      goThrough.Refreshes p names ins w₀ l w fresh l' w' →
      ∃ tr, w'.trace = tr ++ w.trace ∧
        (∀ route, allResolved fresh = some route → AllAccepted tr →
          l'.names.drop l'.passed = route.map (·.1) ∧
            ∃ tracked, List.Forall₂ (Near p) (route.map (·.2)) (tracked.drop l'.passed) ∧
              Follows l'.handle l'.resultFuture (.navigateThroughPoses tracked) w') ∧
        (allResolved fresh = none ∨ ¬ AllAccepted tr →
          l' = { l with nextRefresh := l'.nextRefresh } ∧
            SameGoal l.handle l.resultFuture w w') :=
  ⟨fun _ _ _ _ _ _ _ _ hr => goTo.refresh_near hgt hr,
    fun _ _ _ _ _ _ _ _ hr => goThrough.refresh_near hgt hr⟩

/-- The waypoint moves from 7 by 1 twice, which the threshold allows once. -/
def driftingTwice : List (Tick .line) :=
  [{}, { events := [.transform (0 : Int), .waypoint 0 ⟨true, "map", (7 : Int)⟩] },
    { events := [.accept 0, .answer 0] }, { now := 3 * second }, { now := 3 * second },
    { now := 3 * second, events := [.waypoint 1 ⟨true, "map", (8 : Int)⟩] },
    { now := 6 * second }, { now := 6 * second },
    { now := 6 * second, events := [.waypoint 2 ⟨true, "map", (9 : Int)⟩] },
    { now := 6 * second, events := [.accept 1, .answer 1] }]

instance lineLinearOrder : LinearOrder Geometry.line.Dist := inferInstanceAs (LinearOrder Nat)

theorem line_gt (a b : Geometry.line.Dist) : Geometry.line.gt a b = true ↔ b < a :=
  @decide_eq_true_iff (Nat.lt b a) (Nat.decLt b a)

/-- Where the waypoint is in the end. -/
def drifted : PoseStamped .line := { frameId := "map", stamp := 6 * second, pose := (9 : Int) }

theorem refresh_bounds_drift_twice :
    (∃ l w l' w', goTo.Refreshes oneWaypoint "wp1" driftingTwice {} l w (some drifted) l' w' ∧
      ∃ tracked, Near oneWaypoint drifted tracked ∧ Follows 1 1 (.navigateToPose tracked) w') ∧
    ∃ l w l' w',
      goThrough.Refreshes oneWaypoint ["wp1"] driftingTwice {} l w [("wp1", some drifted)] l' w' ∧
      ∃ tracked, List.Forall₂ (Near oneWaypoint) [drifted] tracked ∧
        Follows 1 1 (.navigateThroughPoses tracked) w' := by
  have hbounds := refresh_bounds_drift oneWaypoint line_gt
  constructor
  · have hr : goTo.Refreshes oneWaypoint "wp1" driftingTwice {} _ _ (some drifted) _ _ :=
      .intro (h := ⟨_, _, _⟩) ⟨_, .intro rfl rfl, .single rfl⟩ rfl rfl rfl (by decide) rfl rfl
    obtain ⟨tr, ht, hnear, -⟩ := hbounds.1 _ _ _ _ _ _ _ _ hr
    obtain rfl : [.outcome 1 .accepted, .sent 1 (.navigateToPose drifted),
      .log (.moved "wp1" (2 : Nat)), .resolved "wp1" drifted] = tr := List.append_cancel_right ht
    exact ⟨_, _, _, _, hr, hnear drifted rfl (allAccepted_cons 1 (by simp))⟩
  · have hr : goThrough.Refreshes oneWaypoint ["wp1"] driftingTwice {} _ _
        [("wp1", some drifted)] _ _ :=
      .intro (h := ⟨_, _, _⟩) ⟨_, .intro rfl rfl, .single rfl⟩ rfl rfl rfl (by decide) rfl rfl
    obtain ⟨tr, ht, hnear, -⟩ := hbounds.2 _ _ _ _ _ _ _ _ hr
    obtain rfl : [.outcome 1 .accepted, .sent 1 (.navigateThroughPoses [drifted]),
      .log (.routeMoved (2 : Nat) ["wp1"]), .resolved "wp1" drifted] = tr :=
        List.append_cancel_right ht
    have hall := hnear [("wp1", drifted)] rfl (allAccepted_cons 1 (by simp))
    exact ⟨_, _, _, _, hr, hall.2⟩

end Mission
