import Kratos.Mission.Proof.Loops

/-!
# Rules for the loops

What a turn of `go_to` or `go_through` can do, said once: `wp_turn_goTo` and `wp_turn_goThrough` up
to the refresh, `wp_decide_goTo` and `wp_decide_goThrough` from the decision on. What holds of all
turns is proved with these rules.
-/

namespace Mission

open Prog

variable {G : Geometry} {p : Params G} {name : String} {w : World G}
  {E : PyErr → World G → Prop} {B : World G → Prop}

theorem wp_sweep {J : World G → Prop} (hJ : Stable J E B)
    (hdrop : ∀ w r, J w → w.answer r = some false → J (w.dropLate r))
    (hcancel : ∀ w r, J w → w.answer r = some true →
      J ((w.dropLate r).cancelled r .lateAccept))
    (h : J w) : wp sweep (fun _ => J) E B w :=
  wp_bind ((wp_spinOnce hJ h).mono fun _ _ h => wp_cancelLateGoals hJ hdrop hcancel h)

def World.forget (w : World G) : World G := { w with currentHandle := none }

/-! ## `go_to` -/

/-- What the answer to a send at the decision leaves. -/
def goTo.Vars.sent (l : goTo.Vars G) (fresh : PoseStamped G) :
    Option (GoalId × GoalId) → goTo.Vars G
  | none => l
  | some (handle, future) => { l with goal := fresh, handle := handle, resultFuture := future }

theorem wp_decide_goTo {Q : Turn (goTo.Vars G) Bool → World G → Prop} {l : goTo.Vars G}
    {fresh : Option (PoseStamped G)}
    (hstays : (∀ goal, fresh = some goal →
      G.gt (G.moved goal.pose l.goal.pose) p.replanThreshold = false) → Q (.next l) w)
    (hmoves : ∀ goal, fresh = some goal →
      G.gt (G.moved goal.pose l.goal.pose) p.replanThreshold = true →
      wp (send goal) (fun r => Q (.next (l.sent goal r))) E B
        (w.record (.log (.moved name (G.moved goal.pose l.goal.pose))))) :
    wp (goTo.decide p name l fresh) Q E B w := by
  unfold goTo.decide
  cases fresh with
  | none => exact wp_pure (hstays nofun)
  | some goal =>
    dsimp only
    split
    · refine wp_bind (wp_log (wp_bind ((hmoves goal rfl ‹_›).mono fun r w h => ?_)))
      cases r <;> exact wp_pure h
    · rename_i hgt
      refine wp_pure (hstays fun g hg => ?_)
      obtain rfl : goal = g := Option.some.inj hg
      exact Bool.eq_false_iff.2 hgt

/-- `K` holds when a turn looks at the result. -/
theorem wp_turn_goTo {Q : Turn (goTo.Vars G) Bool → World G → Prop} {K : World G → Prop}
    {l : goTo.Vars G} (hleave : w.ok = false → Q (.done false) w)
    (hsweep : w.ok = true → wp sweep (fun _ => K) E B w)
    (hreached : ∀ w, K w → w.result l.resultFuture = some .succeeded →
      Q (.done true) (w.forget.record (.log (.reached name))))
    (hfailed : ∀ w status, K w → w.result l.resultFuture = some status → status ≠ .succeeded →
      Q (.done false) (w.forget.record (.log (.failedAt name status))))
    (hdue : ∀ w, K w → w.result l.resultFuture = none → l.nextRefresh ≤ w.now →
      wp (goTo.refresh p name { l with nextRefresh := w.now + p.refreshPeriod }) Q E B w)
    (hidle : ∀ w, K w → w.result l.resultFuture = none → Q (.next l) w) :
    wp (goTo.turn p name l) Q E B w := by
  refine wp_bind (wp_get ?_)
  split
  · refine wp_bind_assoc (p := spinOnce) ?_
    refine wp_bind ((hsweep ‹_›).mono fun _ w h => wp_bind (wp_get ?_))
    cases hr : w.result l.resultFuture with
    | some status =>
      refine wp_bind (wp_modify ?_)
      split
      · rename_i hs
        exact wp_bind (wp_log (wp_pure (hreached w h (hs ▸ hr))))
      · exact wp_bind (wp_log (wp_pure (hfailed w status h hr ‹_›)))
    | none =>
      dsimp only
      split
      · exact hdue w h hr ‹_›
      · exact wp_pure (hidle w h hr)
  · exact wp_pure (hleave (Bool.eq_false_iff.2 ‹_›))

/-! ## `go_through` -/

/-- The world once `ns` were logged as reached. -/
def World.logReached (w : World G) (ns : List String) : World G :=
  { w with trace := (ns.map fun name => .log (.reached name)).reverse ++ w.trace }

theorem run_reached (ns : List String) (ins : List (Tick G)) (w : World G) :
    (ns.forM fun name => log (.reached name)).run ins w = .ret PUnit.unit ins (w.logReached ns) := by
  induction ns generalizing w with
  | nil => rfl
  | cons name ns ih =>
    refine (run_ret _ (run_log (.reached name) ins w)).trans ((ih _).trans ?_)
    simp [World.logReached, World.record]

theorem logReached_inv {J : World G → Prop}
    (hlog : ∀ w name, J w → J (w.record (.log (.reached name)))) (ns : List String) (h : J w) :
    J (w.logReached ns) := by
  have hrun : wp (ns.forM fun name => log (.reached name)) (fun _ => J) (fun _ _ => True)
      (fun _ => True) w := wp_forM (fun name _ w h => wp_log (hlog w name h)) h
  exact hrun.ret (run_reached ns [] w)

theorem wp_reached {Q : PUnit → World G → Prop} {ns : List String}
    (h : Q PUnit.unit (w.logReached ns)) :
    wp (ns.forM fun name => log (.reached name)) Q E B w := by
  intro ins
  rw [run_reached]
  exact h

/-- What the answer to a send at the decision leaves. -/
def goThrough.Vars.sent (l : goThrough.Vars G) (route : List (String × PoseStamped G)) :
    Option (GoalId × GoalId) → goThrough.Vars G
  | none => l
  | some (handle, future) =>
    { l with
      names := route.map (·.1)
      goals := route.map (·.2)
      handle := handle
      resultFuture := future
      passed := 0 }

theorem wp_decide_goThrough {Q : Turn (goThrough.Vars G) (List String) → World G → Prop}
    {l : goThrough.Vars G} {fresh : List (String × Option (PoseStamped G))}
    (hfailed : allResolved fresh = none → Q (.next l) w)
    (hempty : ∀ route, allResolved fresh = some route →
      maxDist G (movedBy l.ahead route) = none → E .valueError w)
    (hstays : ∀ route d, allResolved fresh = some route →
      maxDist G (movedBy l.ahead route) = some d → G.gt d p.replanThreshold = false → Q (.next l) w)
    (hmoves : ∀ route d, allResolved fresh = some route →
      maxDist G (movedBy l.ahead route) = some d → G.gt d p.replanThreshold = true →
      wp (sendThrough (route.map (·.2))) (fun r => Q (.next (l.sent route r))) E B
        (w.record (.log (.routeMoved d (route.map (·.1)))))) :
    wp (goThrough.decide p l fresh) Q E B w := by
  unfold goThrough.decide
  cases hall : allResolved fresh with
  | none => exact wp_pure (hfailed hall)
  | some route =>
    dsimp only
    cases hmax : maxDist G (movedBy l.ahead route) with
    | none => exact wp_raise (hempty route hall hmax)
    | some d =>
      dsimp only
      split
      · refine wp_bind (wp_log (wp_bind ((hmoves route d hall hmax ‹_›).mono fun r w h => ?_)))
        cases r <;> exact wp_pure h
      · exact wp_pure (hstays route d hall hmax (Bool.eq_false_iff.2 ‹_›))

/-- The value that the update gives `passed`. -/
def goThrough.Vars.upTo (l : goThrough.Vars G) (remaining : Int) : Nat :=
  (max (l.passed : Int) (l.names.length - remaining)).toNat

theorem wp_update {Q : goThrough.Vars G → World G → Prop} {l : goThrough.Vars G}
    (hnone : w.posesRemaining = none → Q l w)
    (hread : ∀ remaining, w.posesRemaining = some remaining → Q { l with passed := l.upTo remaining }
      ((w.record (.read remaining)).logReached
        ((l.names.drop l.passed).take (l.upTo remaining - l.passed)))) :
    wp (goThrough.update l) Q E B w := by
  refine wp_bind (wp_get ?_)
  cases hq : w.posesRemaining with
  | none => exact wp_pure (hnone hq)
  | some remaining =>
    exact wp_bind (wp_modify (wp_bind (wp_reached (wp_pure (hread remaining hq)))))

/-- `K` holds when a turn looks at the result. -/
theorem wp_turn_goThrough {Q : Turn (goThrough.Vars G) (List String) → World G → Prop}
    {K : goThrough.Vars G → World G → Prop} {l : goThrough.Vars G}
    (hleave : w.ok = false → Q (.done (l.names.drop l.passed)) w)
    (hsweep : w.ok = true → wp (goThrough.sweep l) K E B w)
    (hreached : ∀ l w, K l w → w.result l.resultFuture = some .succeeded →
      Q (.done []) (w.forget.logReached (l.names.drop l.passed)))
    (hfailed : ∀ l w status, K l w → w.result l.resultFuture = some status →
      status ≠ .succeeded → Q (.done (l.names.drop l.passed))
        (w.forget.record (.log (.failedWith (l.names.drop l.passed) status))))
    (hdue : ∀ l w, K l w → w.result l.resultFuture = none → l.nextRefresh ≤ w.now →
      wp (goThrough.refresh p { l with nextRefresh := w.now + p.refreshPeriod }) Q E B w)
    (hidle : ∀ l w, K l w → w.result l.resultFuture = none → Q (.next l) w) :
    wp (goThrough.turn p l) Q E B w := by
  refine wp_bind (wp_get ?_)
  split
  · refine wp_bind_assoc (p := spinOnce) (wp_bind_assoc (p := Mission.sweep) ?_)
    refine wp_bind ((hsweep ‹_›).mono fun l w h => wp_bind (wp_get ?_))
    cases hr : w.result l.resultFuture with
    | some status =>
      refine wp_bind (wp_modify ?_)
      split
      · rename_i hs
        exact wp_bind (wp_reached (wp_pure (hreached l w h (hs ▸ hr))))
      · exact wp_bind (wp_log (wp_pure (hfailed l w status h hr ‹_›)))
    | none =>
      dsimp only
      split
      · exact hdue l w h hr ‹_›
      · exact wp_pure (hidle l w h hr)
  · exact wp_pure (hleave (Bool.eq_false_iff.2 ‹_›))

end Mission
