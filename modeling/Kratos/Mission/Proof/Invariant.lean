import Kratos.Mission.Proof.Rules

/-!
# Invariants of the script

`Invariant J A`: `J` is kept by every step of the script and of its environment. `A g` is what
takes its place while `send_action` waits for the answer to `g`. Every method then keeps `J`,
however it ends (`Invariant.keeps_log` to `Invariant.keeps_cleanup`), and so does a session
(`Invariant.session`).
-/

namespace Mission

open Prog

variable {G : Geometry}

structure Invariant (J : World G → Prop) (A : GoalId → World G → Prop) : Prop where
  quiet : ∀ w w', Quiet w w' → J w → J w'
  record : ∀ w e, J w → J (w.record e)
  waits : ∀ g w w', Quiet w w' → A g w → A g w'
  /-- `send_action` may be interrupted while it waits. -/
  broken : ∀ g w, A g w → J w
  send : ∀ w msg, J w → A w.goals.length (w.sendGoal msg)
  timedOut : ∀ g w, A g w → w.answer g = none → J (w.timedOut g)
  rejected : ∀ g w, A g w → w.answer g = some false → J (w.rejected g)
  accepted : ∀ g w, A g w → w.answer g = some true → J (w.accepted g)
  reset : ∀ w, J w → J { w with posesRemaining := none }
  forget : ∀ w, J w → J { w with currentHandle := none }
  drop : ∀ w r, J w → w.answer r = some false → J (w.dropLate r)
  cancelLate : ∀ w r, J w → w.answer r = some true → J ((w.dropLate r).cancelled r .lateAccept)
  cancelCurrent : ∀ w g, J w → w.currentHandle = some g → J (w.cancelled g .cancellingCurrent)

/-- What sending and cancelling more does not spoil. -/
theorem Invariant.of_more {P : Bool → List (GoalMsg G) → List GoalId → Prop}
    (hsend : ∀ ok goals cancels msg, P ok goals cancels → P ok (goals ++ [msg]) cancels)
    (hcancel : ∀ ok goals cancels g, P ok goals cancels → P ok goals (cancels ++ [g])) :
    Invariant (G := G) (fun w => P w.ok w.goals w.cancels) fun _ w => P w.ok w.goals w.cancels := by
  have hquiet : ∀ w w' : World G, Quiet w w' → P w.ok w.goals w.cancels →
      P w'.ok w'.goals w'.cancels := by
    intro w w' hq h
    rw [hq.same.ok, hq.same.goals, hq.same.cancels]
    exact h
  exact
    { quiet := hquiet
      record := fun _ _ h => h
      waits := fun _ => hquiet
      broken := fun _ _ h => h
      send := fun _ msg h => hsend _ _ _ msg h
      timedOut := fun _ _ h _ => h
      rejected := fun _ _ h _ => h
      accepted := fun _ _ h _ => h
      reset := fun _ h => h
      forget := fun _ h => h
      drop := fun _ _ h _ => h
      cancelLate := fun _ r h _ => hcancel _ _ _ r h
      cancelCurrent := fun _ g h _ => hcancel _ _ _ g h }

namespace Invariant

variable {J : World G → Prop} {A : GoalId → World G → Prop} (hI : Invariant J A) (p : Params G)

include hI

theorem stable : Stable J (fun _ => J) J where
  quiet := hI.quiet
  interrupt w h := hI.record w _ h
  blocked _ h := h

theorem keeps_log (m : LogMsg G) : Keeps J (log m) := keeps_modify fun w h => hI.record w _ h

theorem keeps_spinOnce : Keeps J spinOnce := fun _ h => wp_spinOnce hI.stable h

theorem keeps_resolve (name : String) : Keeps J (resolve p name) :=
  fun _ h => (wp_resolve p hI.stable name h).mono fun _ _ h => h.1

theorem keeps_resolveWithWait (name : String) : Keeps J (resolveWithWait p name) :=
  fun _ h => (wp_resolveWithWait p hI.stable name h).mono fun _ _ h => h.1

theorem keeps_resolveAhead (ahead : List (String × PoseStamped G)) :
    Keeps J (resolveAhead p ahead) :=
  fun _ h => (wp_resolveAhead p hI.stable ahead h).mono fun _ _ h => h.1

/-! ## Sending and cancelling -/

/-- Sending needs no more than what holds once the request is out. -/
theorem wp_sendAction {w : World G} (msg : GoalMsg G) (h : A w.goals.length (w.sendGoal msg)) :
    wp (sendAction msg) (fun _ => J) (fun _ => J) J w := by
  have hwaiting : Stable (A w.goals.length) (fun _ => J) J :=
    ⟨hI.waits _, fun w h => hI.record w _ (hI.broken _ w h), hI.broken _⟩
  exact Mission.wp_sendAction hwaiting msg h (hI.timedOut _) (hI.rejected _) (hI.accepted _)

theorem keeps_send (goal : PoseStamped G) : Keeps J (Mission.send goal) :=
  fun w h => hI.wp_sendAction _ (hI.send w _ h)

theorem keeps_sendThrough (goals : List (PoseStamped G)) : Keeps J (sendThrough goals) :=
  (keeps_modify hI.reset).bind fun _ w h => hI.wp_sendAction _ (hI.send w _ h)

theorem keeps_cancelLateGoals : Keeps J cancelLateGoals :=
  fun _ h => wp_cancelLateGoals hI.stable hI.drop hI.cancelLate h

theorem keeps_sweep : Keeps J sweep :=
  fun _ h => wp_sweep hI.stable hI.drop hI.cancelLate h

/-! ## The loops -/

theorem keeps_decide_goTo (name : String) (l : goTo.Vars G) (fresh : Option (PoseStamped G)) :
    Keeps J (goTo.decide p name l fresh) := fun _ h =>
  wp_decide_goTo (fun _ => h) fun goal _ _ => hI.keeps_send goal _ (hI.record _ _ h)

theorem keeps_refresh_goTo (name : String) (l : goTo.Vars G) : Keeps J (goTo.refresh p name l) := by
  rw [goTo.refresh_eq]
  exact (hI.keeps_resolve p name).bind (hI.keeps_decide_goTo p name l)

theorem keeps_turn_goTo (name : String) (l : goTo.Vars G) : Keeps J (goTo.turn p name l) := by
  intro w h
  have hforget : ∀ w m, J w → J (w.forget.record (.log m)) :=
    fun w m h => hI.record _ _ (hI.forget w h)
  refine wp_turn_goTo (fun _ => h) (fun _ => hI.keeps_sweep w h) (fun w h _ => hforget w _ h)
    (fun w _ h _ _ => hforget w _ h) (fun w h _ _ => ?_) fun _ h _ => h
  exact hI.keeps_refresh_goTo p name _ w h

theorem logReached {w : World G} (ns : List String) (h : J w) : J (w.logReached ns) :=
  logReached_inv (fun w _ h => hI.record w _ h) ns h

theorem keeps_update (l : goThrough.Vars G) : Keeps J (goThrough.update l) := fun _ h =>
  wp_update (fun _ => h) fun _ _ => hI.logReached _ (hI.record _ _ h)

theorem keeps_decide_goThrough (l : goThrough.Vars G)
    (fresh : List (String × Option (PoseStamped G))) : Keeps J (goThrough.decide p l fresh) :=
  fun _ h => wp_decide_goThrough (fun _ => h) (fun _ _ _ => h) (fun _ _ _ _ _ => h)
    fun _ _ _ _ _ => hI.keeps_sendThrough _ _ (hI.record _ _ h)

theorem keeps_refresh_goThrough (l : goThrough.Vars G) : Keeps J (goThrough.refresh p l) := by
  rw [goThrough.refresh_eq]
  exact (hI.keeps_resolveAhead p l.ahead).bind (hI.keeps_decide_goThrough p l)

theorem keeps_turn_goThrough (l : goThrough.Vars G) : Keeps J (goThrough.turn p l) := by
  intro w h
  have hsweep : Keeps J (goThrough.sweep l) := hI.keeps_sweep.bind fun _ => hI.keeps_update l
  refine wp_turn_goThrough (K := fun _ => J) (fun _ => h) (fun _ => hsweep w h)
    (fun _ w h _ => hI.logReached _ (hI.forget w h))
    (fun _ w _ h _ _ => hI.record _ _ (hI.forget w h)) (fun l w h _ _ => ?_) fun _ _ h _ => h
  exact hI.keeps_refresh_goThrough p _ w h

theorem keeps_resume_goTo (name : String) (t : Turn (goTo.Vars G) Bool) :
    Keeps J (goTo.resume p name t) := by
  cases t with
  | next l => exact keeps_loop (hI.keeps_turn_goTo p name) l
  | done ok => exact keeps_pure ok

theorem keeps_resume_goThrough (t : Turn (goThrough.Vars G) (List String)) :
    Keeps J (goThrough.resume p t) := by
  cases t with
  | next l => exact keeps_loop (hI.keeps_turn_goThrough p) l
  | done left => exact keeps_pure left

theorem keeps_goTo (name : String) : Keeps J (goTo p name) := by
  refine (hI.keeps_resolveWithWait p name).bind fun goal => ?_
  cases goal with
  | none => exact (hI.keeps_log _).bind fun _ => keeps_pure _
  | some goal =>
    refine (hI.keeps_log _).bind fun _ => (hI.keeps_send goal).bind fun r => ?_
    cases r with
    | none => exact keeps_pure _
    | some r => exact keeps_get fun w => keeps_loop (hI.keeps_turn_goTo p name) _

theorem keeps_resolveRoute (names : List String) : Keeps J (resolveRoute p names) :=
  fun _ h => (wp_resolveRoute p hI.stable names h).mono fun _ _ h => h.1

theorem keeps_goThrough (names : List String) : Keeps J (goThrough p names) := by
  refine (hI.keeps_resolveRoute p names).bind fun goals => ?_
  cases goals with
  | none => exact keeps_pure _
  | some goals =>
    refine (hI.keeps_log _).bind fun _ => (hI.keeps_sendThrough goals).bind fun r => ?_
    cases r with
    | none => exact keeps_pure _
    | some r => exact keeps_get fun w => keeps_loop (hI.keeps_turn_goThrough p) _

/-! ## The mission -/

theorem keeps_visitAll (names : List String) : Keeps J (visitAll p names) := by
  induction names with
  | nil => exact keeps_pure _
  | cons name names ih =>
    refine (keeps_modify fun w h => hI.record w _ h).bind fun _ => ?_
    refine (hI.keeps_goTo p name).bind fun ok => ?_
    refine (keeps_modify fun w h => hI.record w _ h).bind fun _ => ?_
    split
    · exact ih
    · split
      · exact keeps_pure _
      · exact Keeps.bind ih fun _ => keeps_pure _

theorem keeps_drive (names : List String) : Keeps J (drive p names) := by
  have hfinish : ∀ failed, Keeps J (finish (G := G) failed) := by
    intro failed
    unfold finish
    split <;> exact (hI.keeps_log _).bind fun _ => keeps_pure _
  refine (hI.keeps_log _).bind fun _ => ?_
  split
  · exact (hI.keeps_goThrough p names).bind hfinish
  · exact (hI.keeps_visitAll p names).bind hfinish

theorem keeps_run : Keeps J (run p) := fun _ h =>
  wp_run p hI.stable (fun _ w _ h => hI.record w _ h)
    (fun names w _ h => hI.keeps_drive p names w h) h

theorem keeps_cancelCurrent : Keeps J Mission.cancelCurrent := by
  intro w h
  refine wp_bind (wp_get ?_)
  cases hc : w.currentHandle with
  | none => exact wp_pure h
  | some g => exact wp_cancelAndWait hI.stable g _ (hI.cancelCurrent w g h hc)

theorem keeps_turn_cleanup (deadline : Int) (u : Unit) : Keeps J (cleanup.turn deadline u) := by
  refine keeps_get fun w => ?_
  split
  · exact hI.keeps_spinOnce.bind fun _ => hI.keeps_cancelLateGoals.bind fun _ => keeps_pure _
  · exact keeps_pure _

theorem keeps_cleanup : Keeps J Mission.cleanup := by
  refine hI.keeps_cancelCurrent.bind fun _ => keeps_get fun w => ?_
  refine (keeps_loop (hI.keeps_turn_cleanup _) ()).bind fun _ => keeps_get fun w => ?_
  split
  · exact keeps_pure _
  · exact hI.keeps_log _

/-- **An invariant that holds at first holds all the time.** -/
theorem session {w : World G} (h : J w) (ins : List (Tick G)) :
    J ((Mission.session p).run ins w).state := by
  have hsession : Keeps J (Mission.session p) :=
    (hI.keeps_run p).attempt.bind fun _ => hI.keeps_cleanup.bind fun _ => keeps_pure _
  exact (hsession w h).state (fun _ _ h => h) (fun _ _ h => h) (fun _ h => h) ins

end Invariant

end Mission
