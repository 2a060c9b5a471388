import Kratos.Mission.Proof.Booked
import Kratos.Mission.Proof.Invariant

/-!
# A result that arrives while the refresh is under way

`go_to` and `go_through` look at the result once a turn, before the refresh. While the refresh asks
GLIM the node is spun, so the result may be there when it decides whether to send the goal again.
If it does not, the next turn returns by that result and nothing more is sent (`Concludes`), in
bounded time where time passes (`ends_goTo_over`, `ends_goThrough_over`). If it does, the finished
goal is replaced by a new one.
-/

namespace Mission

open Prog

variable {G : Geometry} {α : Type} {w w' w₀ : World G} {p : Params G} {name : String}
  {names : List String} {ins rest : List (Tick G)}

/-! ## Waits end -/

/-- Time passes in a tick, and nothing is interrupted. -/
def Tick.Passes (t : Tick G) : Prop := 0 < t.elapsed ∧ t.interrupt = false

theorem handle_monotonic (w : World G) (e : Event G) : (w.handle e).monotonic = w.monotonic := by
  cases e <;> simp only [World.handle] <;> (repeat' split) <;> rfl

theorem advance_monotonic (w : World G) (t : Tick G) :
    (w.advance t).monotonic = w.monotonic + t.elapsed := by
  have hevents : ∀ (es : List (Event G)) (w : World G),
      (es.foldl World.handle w).monotonic = w.monotonic := by
    intro es
    induction es with
    | nil => intro w; rfl
    | cons e es ih => intro w; rw [List.foldl_cons, ih, handle_monotonic]
  exact hevents t.events _

theorem ends_spinOnce (w : World G) :
    ends Tick.Passes 1 spinOnce (fun _ w' => w.monotonic < w'.monotonic) w := by
  refine ends_then (ends_next fun t ht => ?_)
  refine ends_modify ?_
  rw [interruptIf, if_neg (by simp [ht.2])]
  refine ends_pure ?_
  rw [advance_monotonic]
  exact Nat.lt_add_of_pos_right ht.1

/-- `spin_until_future_complete` is over when its timeout is. -/
theorem ends_wait (future : World G → Option α) (timeout : Nat) (w : World G) :
    ends Tick.Passes (timeout + 1) (wait future timeout) (fun _ _ => True) w := by
  let μ : Unit → World G → Nat := fun _ w' => w.monotonic + timeout - w'.monotonic
  have hbody : ∀ (u : Unit) (w' : World G), True → ends Tick.Passes 1
      (wait.turn future (w.monotonic + timeout) u)
      (variantPost (fun _ _ => True) μ (fun _ _ => True) (μ u w')) w' := by
    intro u w' _
    refine ends_get ?_
    split
    · exact ends_pure trivial
    · refine ends_then ((ends_spinOnce w').mono fun _ w'' hlt => ?_)
      refine ends_get ?_
      split
      · exact ends_pure trivial
      · refine ends_pure ⟨trivial, ?_⟩
        show w.monotonic + timeout - w''.monotonic < w.monotonic + timeout - w'.monotonic
        omega
  have hloop := ends_loop (wait.turn_waits future (w.monotonic + timeout)) (fun _ _ => True) μ
    hbody (b := ()) (s := w) trivial
  refine ends_get (hloop.imp ?_ fun _ _ h => h)
  show 1 * (w.monotonic + timeout - w.monotonic + 1) ≤ timeout + 1
  omega

/-- The spins in which one turn's cancels are over, a nanosecond for each at least. -/
def enough (w : World G) : Nat := 1 + w.unanswered.length * (2 * second + 1)

theorem ends_cancelAndWait (g : GoalId) (w : World G) :
    ends Tick.Passes (2 * second + 1) (cancelAndWait g) (fun _ _ => True) w := by
  have hsend : ends Tick.Passes 0 (cancelGoalAsync g) (fun request => ends Tick.Passes
      (2 * second + 1) (do let _ ← wait (fun w => w.cancelResponse request) (2 * second))
      fun _ _ => True) w := by
    refine ends_get (ends_modify (ends_pure ?_))
    exact ends_then ((ends_wait _ _ _).mono fun _ _ _ => ends_pure trivial)
  exact (ends_bind hsend).imp (Nat.zero_add _).le fun _ _ h => h

theorem ends_cancelLateGoals (w : World G) :
    ends Tick.Passes (w.unanswered.length * (2 * second + 1)) cancelLateGoals
      (fun _ _ => True) w := by
  have hlate : ∀ (r : GoalId) (w : World G),
      ends Tick.Passes (2 * second + 1) (cancelLate r) (fun _ _ => True) w := by
    intro r w
    refine ends_modify (ends_get ?_)
    split
    · exact ends_modify (ends_cancelAndWait r _)
    · exact ends_pure trivial
  have hlen : (w.unanswered.filter fun r => (w.answer r).isSome).length ≤ w.unanswered.length :=
    List.length_filter_le _ _
  refine ends_get ((ends_forM fun r _ => hlate r).imp ?_ fun _ _ h => h)
  exact Nat.mul_le_mul_right _ hlen

/-! ## The result is there -/

/-- The goal `g` is over with `status`, and `goals` are all that were sent. -/
structure Over (goals : List (GoalMsg G)) (g : GoalId) (status : GoalStatus) (w : World G) :
    Prop where
  ok : w.ok = true
  goals : w.goals = goals
  result : w.result g = some status

/-- What a run without a verdict comes to. -/
def Unchanged (goals : List (GoalMsg G)) (w : World G) : Prop := w.goals = goals

def Interrupted (goals : List (GoalMsg G)) (e : PyErr) (w : World G) : Prop :=
  e = .keyboardInterrupt ∧ w.goals = goals

variable {goals : List (GoalMsg G)} {g : GoalId} {status : GoalStatus}

theorem over_stable :
    Stable (Over goals g status) (Interrupted (G := G) goals) (Unchanged goals) where
  quiet _ _ hq h := ⟨hq.same.ok.trans h.ok, hq.same.goals.trans h.goals, result_stays hq h.result⟩
  interrupt _ h := ⟨rfl, h.goals⟩
  blocked _ h := h.goals

theorem over_cancelLateGoals (h : Over goals g status w) :
    wp cancelLateGoals (fun _ => Over goals g status) (Interrupted goals) (Unchanged goals)
      w := by
  refine wp_cancelLateGoals over_stable (fun w r h _ => ?_) (fun w r h _ => ?_) h
  · exact ⟨h.ok, h.goals, h.result⟩
  · exact ⟨h.ok, h.goals, h.result⟩

theorem over_sweep (h : Over goals g status w) :
    wp sweep (fun _ => Over goals g status) (Interrupted goals) (Unchanged goals) w :=
  wp_bind ((wp_spinOnce over_stable h).mono fun _ _ h => over_cancelLateGoals h)

/-- A turn of either loop, up to where it looks at the result. -/
theorem ends_swept {k : Script G α} (h : Over goals g status w)
    (hk : ∀ w, Over goals g status w → ends Tick.Passes 0 k (fun _ _ => True) w) :
    ends Tick.Passes (enough w) (do spinOnce; cancelLateGoals; k) (fun _ _ => True) w := by
  have hstable : Stable (fun w' => Over goals g status w' ∧ w'.unanswered = w.unanswered)
      (Interrupted goals) (Unchanged goals) :=
    over_stable.and fun _ _ hq h => hq.same.unanswered.trans h
  refine ends_bind (((ends_spinOnce w).and (wp_spinOnce hstable ⟨h, rfl⟩)).mono fun _ w' h => ?_)
  obtain ⟨-, h, hu⟩ := h
  rw [← hu]
  refine ends_then (((ends_cancelLateGoals w').and (over_cancelLateGoals h)).mono fun _ w h => ?_)
  exact hk w h.2

/-- What is promised of a run whose result is there, from `w` on with the inputs `rest`: it sends
nothing, returns what is `right`, and does return if time passes. -/
structure Concludes (r : Res (Tick G) PyErr (World G) α) (rest : List (Tick G)) (w : World G)
    (right : α → World G → Prop) : Prop where
  unsent : r.state.goals = w.goals
  returns : ∀ a rest' w', r = .ret a rest' w' → right a w'
  raises : ∀ e rest' w', r = .raised e rest' w' → e = .keyboardInterrupt
  ends : (∀ t ∈ rest, t.Passes) → enough w ≤ rest.length → ∃ a rest' w', r = .ret a rest' w'

/-- A loop that leaves by the result. -/
theorem concludes_loop {β : Type} {body : β → Script G (Turn β α)} {right : α → World G → Prop}
    (hw : ∀ b, Waits (body b)) {b : β} (h : Over goals g status w)
    (hwp : ∀ w, Over goals g status w → wp (body b)
      (fun t w => ∃ a, t = .done a ∧ w.goals = goals ∧ right a w) (Interrupted goals)
      (Unchanged goals) w)
    (hends : ends Tick.Passes (enough w) (body b) (fun _ _ => True) w) (rest : List (Tick G)) :
    Concludes ((loop body b).run rest w) rest w right := by
  have hloop : wp (loop body b) (fun a w => w.goals = goals ∧ right a w) (Interrupted goals)
      (Unchanged goals) w := by
    refine wp_loop (fun b' w => b' = b ∧ Over goals g status w) (fun b' w hb => ?_)
      (fun _ _ hb => hb.2.goals) ⟨rfl, h⟩
    obtain ⟨rfl, h⟩ := hb
    refine (hwp w h).mono fun t w ht => ?_
    obtain ⟨a, rfl, ha⟩ := ht
    exact ha
  refine ⟨?_, fun a rest' w' hr => ?_, fun e rest' w' hr => ?_, fun hP hlen => ?_⟩
  · rw [h.goals]
    exact hloop.state (fun _ _ h => h.1) (fun _ _ h => h.2) (fun _ h => h) rest
  · exact (hloop.ret hr).2
  · exact (hloop.raised hr).1
  · have hdone : ends Tick.Passes (enough w) (loop body b) (fun _ _ => True) w := by
      refine ends_loop_done hw ((hends.and (hwp w h)).mono fun t w ht => ?_)
      obtain ⟨-, a, ha, -⟩ := ht
      exact ⟨a, ha, trivial⟩
    obtain ⟨a, rest', w', hr, -⟩ := hdone rest hP hlen
    exact ⟨a, rest', w', hr⟩

/-- What `go_to` returns by a result. -/
def GoToBy (status : GoalStatus) (ok : Bool) (_ : World G) : Prop := ok = true ↔ status = .succeeded

theorem over_goTo_turn {l : goTo.Vars G} (h : Over goals l.resultFuture status w) :
    wp (goTo.turn p name l)
      (fun t w => ∃ ok, t = .done ok ∧ w.goals = goals ∧ GoToBy status ok w) (Interrupted goals)
      (Unchanged goals) w := by
  refine wp_turn_goTo (fun hno => absurd (h.ok.symm.trans hno) (by simp)) (fun _ => over_sweep h)
    (fun w h hr => ?_) (fun w s h hr hs => ?_) (fun w h hnone _ => ?_) (fun w h hnone => ?_)
  · obtain rfl : status = .succeeded := Option.some.inj (h.result.symm.trans hr)
    exact ⟨_, rfl, h.goals, iff_of_true rfl rfl⟩
  · obtain rfl : status = s := Option.some.inj (h.result.symm.trans hr)
    exact ⟨_, rfl, h.goals, iff_of_false (by simp) hs⟩
  · exact absurd (h.result.symm.trans hnone) (by simp)
  · exact absurd (h.result.symm.trans hnone) (by simp)

theorem ends_goTo_turn {l : goTo.Vars G} (h : Over goals l.resultFuture status w) :
    ends Tick.Passes (enough w) (goTo.turn p name l) (fun _ _ => True) w := by
  refine ends_get ?_
  rw [if_pos h.ok]
  refine ends_swept h fun w h => ends_get ?_
  rw [h.result]
  refine ends_modify ?_
  split <;> exact ends_modify (ends_pure trivial)

/-- What an update from `l` leaves of the names, by the count that is there. -/
def goThrough.Vars.unreached (l : goThrough.Vars G) (w : World G) : List String :=
  l.names.drop (w.posesRemaining.elim l.passed l.upTo)

/-- What `go_through` returns by a result: nothing, or what it logs as left of `names`. -/
def GoThroughBy (l : goThrough.Vars G) (status : GoalStatus) (left : List String) (w : World G) :
    Prop :=
  (status = .succeeded → left = []) ∧ (status ≠ .succeeded →
    left = l.unreached w ∧ w.trace.head? = some (.log (.failedWith left status)))

/-- The update of a turn of `go_through` from `l`, with the result there. -/
structure Updated (l : goThrough.Vars G) (goals : List (GoalMsg G)) (status : GoalStatus)
    (l' : goThrough.Vars G) (w : World G) : Prop where
  ended : Over goals l'.resultFuture status w
  left : l'.names.drop l'.passed = l.unreached w
  future : l'.resultFuture = l.resultFuture

theorem over_update {l : goThrough.Vars G} (h : Over goals l.resultFuture status w) :
    wp (goThrough.update l) (Updated l goals status) (Interrupted goals) (Unchanged goals) w := by
  refine wp_update (fun hnone => ⟨h, ?_, rfl⟩) fun q hq => ?_
  · rw [goThrough.Vars.unreached, hnone]
    rfl
  · have hread : Over goals l.resultFuture status (w.record (.read q)) ∧
        (w.record (.read q)).posesRemaining = some q := ⟨⟨h.ok, h.goals, h.result⟩, hq⟩
    obtain ⟨hover, hq'⟩ := logReached_inv
      (J := fun w => Over goals l.resultFuture status w ∧ w.posesRemaining = some q)
      (fun _ _ h => ⟨⟨h.1.ok, h.1.goals, h.1.result⟩, h.2⟩) _ hread
    refine ⟨hover, ?_, rfl⟩
    rw [goThrough.Vars.unreached, hq']
    rfl

theorem over_goThrough_turn {l : goThrough.Vars G} (h : Over goals l.resultFuture status w) :
    wp (goThrough.turn p l)
      (fun t w => ∃ left, t = .done left ∧ w.goals = goals ∧ GoThroughBy l status left w)
      (Interrupted goals) (Unchanged goals) w := by
  have hsweep : wp (goThrough.sweep l) (Updated l goals status) (Interrupted goals)
      (Unchanged goals) w := wp_bind ((over_sweep h).mono fun _ _ h => over_update h)
  refine wp_turn_goThrough (fun hno => absurd (h.ok.symm.trans hno) (by simp)) (fun _ => hsweep)
    (fun l' w h hr => ?_) (fun l' w s h hr hs => ?_) (fun l' w h hnone _ => ?_)
    (fun l' w h hnone => ?_)
  · obtain rfl : status = .succeeded := Option.some.inj (h.ended.result.symm.trans hr)
    exact ⟨_, rfl, h.ended.goals, fun _ => rfl, fun hne => absurd rfl hne⟩
  · obtain rfl : status = s := Option.some.inj (h.ended.result.symm.trans hr)
    exact ⟨_, rfl, h.ended.goals, fun he => absurd he hs, fun _ => ⟨h.left, rfl⟩⟩
  · exact absurd (h.ended.result.symm.trans hnone) (by simp)
  · exact absurd (h.ended.result.symm.trans hnone) (by simp)

theorem ends_reached (ns : List String) (w : World G) :
    ends Tick.Passes 0 (ns.forM fun name => log (.reached name)) (fun _ _ => True) w :=
  fun ins _ _ => ⟨_, ins, _, run_reached ns ins w, by omega, trivial⟩

theorem ends_goThrough_turn {l : goThrough.Vars G} (h : Over goals l.resultFuture status w) :
    ends Tick.Passes (enough w) (goThrough.turn p l) (fun _ _ => True) w := by
  refine ends_get ?_
  rw [if_pos h.ok]
  refine ends_swept h fun w h => ?_
  have hupdate : ends Tick.Passes 0 (goThrough.update l) (fun _ _ => True) w := by
    refine ends_get ?_
    split
    · exact ends_pure trivial
    · refine ends_modify (ends_then ((ends_reached _ _).mono fun _ _ _ => ?_))
      exact ends_pure trivial
  refine ends_then ((hupdate.and (over_update h)).mono fun l' w h => ends_get ?_)
  rw [h.2.ended.result]
  refine ends_modify ?_
  split
  · exact ends_then ((ends_reached _ _).mono fun _ _ _ => ends_pure trivial)
  · exact ends_modify (ends_pure trivial)

/-! ## A goal is sent again -/

/-- More than `n` goals were sent. -/
def Sent (n : Nat) (w : World G) : Prop := n < w.goals.length

variable {n : Nat}

theorem sent_invariant : Invariant (G := G) (Sent n) fun _ => Sent n := by
  refine .of_more (P := fun _ goals _ => n < goals.length) (fun _ goals _ msg h => ?_)
    fun _ _ _ _ h => h
  rw [List.length_append]
  exact Nat.lt_succ_of_lt h

theorem sent_sendGoal (w : World G) (msg : GoalMsg G) : Sent w.goals.length (w.sendGoal msg) := by
  show w.goals.length < (w.goals ++ [msg]).length
  rw [List.length_append]
  exact Nat.lt_succ_self _

/-! ## The decision -/

/-- The waypoint has moved too far, and the goal is sent again. -/
def goTo.Resends (p : Params G) (l : goTo.Vars G) (fresh : Option (PoseStamped G)) : Prop :=
  ∃ goal, fresh = some goal ∧ G.gt (G.moved goal.pose l.goal.pose) p.replanThreshold = true

/-- A waypoint could not be resolved, or those ahead have not moved too far. -/
def goThrough.Stays (p : Params G) (l : goThrough.Vars G)
    (fresh : List (String × Option (PoseStamped G))) : Prop :=
  ∀ route, allResolved fresh = some route →
    ∃ d, maxDist G (movedBy l.ahead route) = some d ∧ G.gt d p.replanThreshold = false

theorem ok_invariant : Invariant (G := G) (fun w => w.ok = true) fun _ w => w.ok = true :=
  .of_more (P := fun ok _ _ => ok = true) (fun _ _ _ _ h => h) fun _ _ _ _ h => h

theorem goTo.Decides.ok {l : goTo.Vars G} {fresh : Option (PoseStamped G)}
    (hd : goTo.Decides p name ins w₀ l fresh rest w) : w.ok = true := by
  obtain ⟨-, hok, hs, -, -, hr⟩ := hd
  exact (ok_invariant.keeps_resolve p name _ ((ok_invariant.keeps_sweep _ hok).ret hs)).ret hr

theorem goThrough.Decides.ok {l : goThrough.Vars G}
    {fresh : List (String × Option (PoseStamped G))}
    (hd : goThrough.Decides p names ins w₀ l fresh rest w) : w.ok = true := by
  obtain ⟨-, hok, hs, -, -, hr⟩ := hd
  obtain ⟨_, _, _, h1, h2⟩ := ret_bind hs
  have hswept := (ok_invariant.keeps_sweep _ hok).ret h1
  have hupdated := (ok_invariant.keeps_update _ _ hswept).ret h2
  exact (ok_invariant.keeps_resolveAhead p _ _ hupdated).ret hr

/-- A send at the decision is in the list of goals from then on. -/
theorem sent_sendAction (msg : GoalMsg G) (w : World G) :
    wp (sendAction msg) (fun _ => Sent w.goals.length) (fun _ => Sent w.goals.length)
      (Sent w.goals.length) w := sent_invariant.wp_sendAction msg (sent_sendGoal w msg)

theorem not_concludes {q : Script G α} {right : α → World G → Prop}
    (h : wp q (fun _ => Sent w.goals.length) (fun _ => Sent w.goals.length) (Sent w.goals.length)
      w) : ¬ Concludes (q.run rest w) rest w right := by
  intro hc
  have hlt := h.state (fun _ _ h => h) (fun _ _ h => h) (fun _ h => h) rest
  exact absurd (congrArg List.length hc.unsent) (Nat.ne_of_gt hlt)

theorem goTo.decide_stays {l : goTo.Vars G} {fresh : Option (PoseStamped G)}
    (hstays : ¬ goTo.Resends p l fresh) (rest : List (Tick G)) (w : World G) :
    (goTo.decide p name l fresh).run rest w = .ret (.next l) rest w := by
  cases fresh with
  | none => rfl
  | some goal =>
    unfold goTo.decide
    dsimp only
    rw [if_neg fun hmoved => hstays ⟨goal, rfl, hmoved⟩]
    rfl

theorem goTo.sent_decide {l : goTo.Vars G} {fresh : Option (PoseStamped G)}
    (hmoved : goTo.Resends p l fresh) (w : World G) :
    wp (goTo.decide p name l fresh) (fun _ => Sent w.goals.length) (fun _ => Sent w.goals.length)
      (Sent w.goals.length) w := by
  obtain ⟨goal, rfl, hgt⟩ := hmoved
  refine wp_decide_goTo (fun hstays => ?_) fun goal _ _ => sent_sendAction _ _
  exact absurd hgt (by simp [hstays goal rfl])

theorem goTo.concludes_iff {l : goTo.Vars G} {fresh : Option (PoseStamped G)}
    (hd : goTo.Decides p name ins w₀ l fresh rest w) (hr : w.result l.resultFuture = some status) :
    Concludes ((goTo p name).run ins w₀) rest w (GoToBy status) ↔ ¬ goTo.Resends p l fresh := by
  have hover : Over w.goals l.resultFuture status w := ⟨hd.ok, rfl, hr⟩
  rw [hd.run_eq]
  constructor
  · intro hc hmoved
    refine not_concludes (wp_bind ?_) hc
    exact (goTo.sent_decide hmoved w).mono fun t w' h =>
      sent_invariant.keeps_resume_goTo p name t w' h
  · intro hstays
    rw [run_ret _ (goTo.decide_stays hstays rest w)]
    exact concludes_loop (goTo.turn_waits p name) hover (fun w h => over_goTo_turn h)
      (ends_goTo_turn hover) rest

section

variable {l : goThrough.Vars G} {fresh : List (String × Option (PoseStamped G))}
  {route : List (String × PoseStamped G)}

theorem goThrough.decide_stays (hstays : goThrough.Stays p l fresh) (rest : List (Tick G))
    (w : World G) : (goThrough.decide p l fresh).run rest w = .ret (.next l) rest w := by
  unfold goThrough.decide
  cases hroute : allResolved fresh with
  | none => rfl
  | some route =>
    obtain ⟨d, hmax, hgt⟩ := hstays route hroute
    dsimp only
    rw [hmax]
    dsimp only
    rw [if_neg (by simp [hgt])]
    rfl

/-- With no waypoint ahead there is nothing to take the maximum of. -/
theorem goThrough.decide_empty (hroute : allResolved fresh = some route)
    (hmax : maxDist G (movedBy l.ahead route) = none) (rest : List (Tick G)) (w : World G) :
    (goThrough.decide p l fresh).run rest w = .raised .valueError rest w := by
  unfold goThrough.decide
  rw [hroute]
  dsimp only
  rw [hmax]
  rfl

theorem goThrough.sent_decide {d : G.Dist} (hroute : allResolved fresh = some route)
    (hmax : maxDist G (movedBy l.ahead route) = some d) (hmoved : G.gt d p.replanThreshold = true)
    (w : World G) :
    wp (goThrough.decide p l fresh) (fun _ => Sent w.goals.length) (fun _ => Sent w.goals.length)
      (Sent w.goals.length) w := by
  refine wp_decide_goThrough (fun hnone => ?_) (fun route' hroute' hnone => ?_)
    (fun route' d' hroute' hmax' hgt => ?_)
    fun _ _ _ _ _ => wp_bind (wp_modify (sent_sendAction _ _))
  · rw [hnone] at hroute
    cases hroute
  · obtain rfl : route = route' := Option.some.inj (hroute.symm.trans hroute')
    rw [hmax] at hnone
    cases hnone
  · obtain rfl : route = route' := Option.some.inj (hroute.symm.trans hroute')
    obtain rfl : d = d' := Option.some.inj (hmax.symm.trans hmax')
    exact absurd hmoved (by simp [hgt])

theorem goThrough.concludes_iff (hd : goThrough.Decides p names ins w₀ l fresh rest w)
    (hr : w.result l.resultFuture = some status) :
    Concludes ((goThrough p names).run ins w₀) rest w (GoThroughBy l status) ↔
      goThrough.Stays p l fresh := by
  have hover : Over w.goals l.resultFuture status w := ⟨hd.ok, rfl, hr⟩
  rw [hd.run_eq]
  constructor
  · intro hc route hroute
    cases hmax : maxDist G (movedBy l.ahead route) with
    | none =>
      refine absurd (hc.raises .valueError rest w ?_) (by decide)
      rw [run_bind, goThrough.decide_empty hroute hmax rest w]
    | some d =>
      refine ⟨d, rfl, Bool.eq_false_iff.2 fun hmoved => not_concludes (wp_bind ?_) hc⟩
      exact (goThrough.sent_decide hroute hmax hmoved w).mono fun t w' h =>
        sent_invariant.keeps_resume_goThrough p t w' h
  · intro hstays
    rw [run_ret _ (goThrough.decide_stays hstays rest w)]
    exact concludes_loop (goThrough.turn_waits p) hover (fun w h => over_goThrough_turn h)
      (ends_goThrough_turn hover) rest

end

/-- **If the tracked goal's result is there when a refresh decides, the run returns by it and sends
nothing more exactly if the refresh does not send the goal again.** -/
theorem refresh_concludes_iff (p : Params G) :
    (∀ (name : String) (ins rest : List (Tick G)) (w₀ w : World G) (l : goTo.Vars G)
      (fresh : Option (PoseStamped G)) (status : GoalStatus),
      goTo.Decides p name ins w₀ l fresh rest w → w.result l.resultFuture = some status →
        (Concludes ((goTo p name).run ins w₀) rest w (GoToBy status) ↔
          ¬ goTo.Resends p l fresh)) ∧
    ∀ (names : List String) (ins rest : List (Tick G)) (w₀ w : World G) (l : goThrough.Vars G)
      (fresh : List (String × Option (PoseStamped G))) (status : GoalStatus),
      goThrough.Decides p names ins w₀ l fresh rest w → w.result l.resultFuture = some status →
        (Concludes ((goThrough p names).run ins w₀) rest w (GoThroughBy l status) ↔
          goThrough.Stays p l fresh) :=
  ⟨fun _ _ _ _ _ _ _ _ hd hr => goTo.concludes_iff hd hr,
    fun _ _ _ _ _ _ _ _ hd hr => goThrough.concludes_iff hd hr⟩

/-- The goal is aborted while the refresh asks GLIM, which has the waypoint at `x`. -/
def abortedMeanwhile (x : Int) : List (Tick .line) :=
  [{}, { events := [.transform (0 : Int), .waypoint 0 ⟨true, "map", (7 : Int)⟩] },
    { events := [.accept 0, .answer 0] }, { now := 3 * second }, { now := 3 * second },
    { now := 3 * second, events := [.finish 0 .aborted, .result 0, .waypoint 1 ⟨true, "map", x⟩] },
    { now := 3 * second, events := [.accept 1, .answer 1] }]

/-- The waypoint has not moved, and both functions fail. -/
theorem refresh_concludes_aborted :
    (∃ l fresh rest w, goTo.Decides oneWaypoint "wp1" (abortedMeanwhile 7) {} l fresh rest w ∧
      w.result l.resultFuture = some .aborted ∧
      Concludes ((goTo oneWaypoint "wp1").run (abortedMeanwhile 7) {}) rest w
        (GoToBy .aborted)) ∧
    ∃ l fresh rest w,
      goThrough.Decides oneWaypoint ["wp1"] (abortedMeanwhile 7) {} l fresh rest w ∧
      w.result l.resultFuture = some .aborted ∧
      Concludes ((goThrough oneWaypoint ["wp1"]).run (abortedMeanwhile 7) {}) rest w
        (GoThroughBy l .aborted) := by
  have hiff := refresh_concludes_iff oneWaypoint
  constructor
  · have hd : goTo.Decides oneWaypoint "wp1" (abortedMeanwhile 7) {} _ _ _ _ :=
      .intro ⟨_, .intro rfl rfl, .refl _⟩ rfl rfl rfl (by decide) rfl
    refine ⟨_, _, _, _, hd, rfl, (hiff.1 _ _ _ _ _ _ _ _ hd rfl).2 ?_⟩
    rintro ⟨goal, hgoal, hmoved⟩
    cases hgoal
    exact absurd hmoved (by decide)
  · have hd : goThrough.Decides oneWaypoint ["wp1"] (abortedMeanwhile 7) {} _ _ _ _ :=
      .intro ⟨_, .intro rfl rfl, .refl _⟩ rfl rfl rfl (by decide) rfl
    refine ⟨_, _, _, _, hd, rfl, (hiff.2 _ _ _ _ _ _ _ _ hd rfl).2 fun route hroute => ?_⟩
    cases hroute
    exact ⟨_, rfl, by decide⟩

/-- The waypoint has moved, and the aborted goal is replaced by a new one. -/
theorem refresh_revives_aborted :
    ∃ l fresh rest w, goTo.Decides oneWaypoint "wp1" (abortedMeanwhile 9) {} l fresh rest w ∧
      w.result l.resultFuture = some .aborted ∧ w.goals.length = 1 ∧
      ((goTo oneWaypoint "wp1").run (abortedMeanwhile 9) {}).state.goals.length = 2 ∧
      ((goTo oneWaypoint "wp1").run (abortedMeanwhile 9) {}).state.currentHandle = some 1 :=
  ⟨_, _, _, _, .intro ⟨_, .intro rfl rfl, .refl _⟩ rfl rfl rfl (by decide) rfl, rfl, rfl, rfl, rfl⟩

end Mission
