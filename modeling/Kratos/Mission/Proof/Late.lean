import Mathlib.Data.List.Nodup
import Kratos.Mission.Proof.Invariant
import Kratos.Mission.Proof.Tracked

/-!
# Late acceptances

A goal request that Nav2 did not answer in time stays in `unanswered`, and `cancel_late_goals`
cancels it once its acceptance has come. The cancelling is polled: an iteration of `go_to`,
`go_through` or `cleanup` does it (`prompt_sweep`), one of `resolve_with_wait` does not
(`resolveWithWait.cancels`).

`Iteration` is a complete iteration of any of these loops in a session, and `Apart` what holds of
the requests in `unanswered` all the time: none of them is cancelled or tracked.
-/

namespace Mission

open Prog

variable {G : Geometry} {w w' : World G} {p : Params G} {name : String} {names : List String}
  {g : GoalId}

/-! ## Requests that were given up -/

structure Apart (w : World G) : Prop where
  unsent : ∀ g, w.goals.length ≤ g → w.phase g = .requested
  answered : ∀ g, w.answer g ≠ none → g < w.goals.length
  waiting : ∀ g ∈ w.unanswered, g < w.goals.length
  cancelled : ∀ g ∈ w.cancels, g < w.goals.length
  current : ∀ g, w.currentHandle = some g → g < w.goals.length ∧ g ∉ w.unanswered
  nodup : w.unanswered.Nodup
  apart : ∀ g ∈ w.unanswered, g ∉ w.cancels

/-- While `send_action` waits for the answer to `g`, which is new. -/
structure Awaited (g : GoalId) (w : World G) : Prop where
  apart : Apart w
  sent : g < w.goals.length
  waiting : g ∉ w.unanswered
  cancelled : g ∉ w.cancels
  untracked : w.currentHandle ≠ some g

theorem Apart.quiet (h : Apart w) (hq : Quiet w w') : Apart w' where
  unsent g hg := by
    rw [hq.same.goals] at hg
    exact hq.unsent hg (h.unsent g hg)
  answered g hg := by
    rw [hq.same.goals]
    rcases hq.answer g with he | ⟨_, hr, _, _⟩
    · exact h.answered g (he ▸ hg)
    · exact Nat.lt_of_not_le fun hle => hr (h.unsent g hle)
  waiting g hg := by
    rw [hq.same.unanswered] at hg
    rw [hq.same.goals]
    exact h.waiting g hg
  cancelled g hg := by
    rw [hq.same.cancels] at hg
    rw [hq.same.goals]
    exact h.cancelled g hg
  current g hg := by
    rw [hq.same.currentHandle] at hg
    rw [hq.same.goals, hq.same.unanswered]
    exact h.current g hg
  nodup := by
    rw [hq.same.unanswered]
    exact h.nodup
  apart := by
    rw [hq.same.unanswered, hq.same.cancels]
    exact h.apart

theorem Awaited.quiet (h : Awaited g w) (hq : Quiet w w') : Awaited g w' where
  apart := h.apart.quiet hq
  sent := by
    rw [hq.same.goals]
    exact h.sent
  waiting := by
    rw [hq.same.unanswered]
    exact h.waiting
  cancelled := by
    rw [hq.same.cancels]
    exact h.cancelled
  untracked := by
    rw [hq.same.currentHandle]
    exact h.untracked

theorem Apart.send (h : Apart w) (msg : GoalMsg G) :
    Awaited w.goals.length (w.sendGoal msg) := by
  have hgoals : (w.sendGoal msg).goals.length = w.goals.length + 1 := by simp [World.sendGoal]
  refine ⟨⟨fun g hg => ?_, fun g hg => ?_, fun g hg => ?_, fun g hg => ?_, fun g hg => ?_,
    h.nodup, h.apart⟩, ?_, fun hm => ?_, fun hm => ?_, fun hm => ?_⟩
  · rw [hgoals] at hg
    exact h.unsent g (by omega)
  · rw [hgoals]
    exact Nat.lt_succ_of_lt (h.answered g hg)
  · rw [hgoals]
    exact Nat.lt_succ_of_lt (h.waiting g hg)
  · rw [hgoals]
    exact Nat.lt_succ_of_lt (h.cancelled g hg)
  · rw [hgoals]
    exact ⟨Nat.lt_succ_of_lt (h.current g hg).1, (h.current g hg).2⟩
  · rw [hgoals]
    exact Nat.lt_succ_self _
  · exact absurd (h.waiting _ hm) (Nat.lt_irrefl _)
  · exact absurd (h.cancelled _ hm) (Nat.lt_irrefl _)
  · exact absurd (h.current _ hm).1 (Nat.lt_irrefl _)

theorem Awaited.timedOut (h : Awaited g w) : Apart (w.timedOut g) where
  unsent := h.apart.unsent
  answered := h.apart.answered
  waiting k hk := by
    rcases List.mem_append.1 hk with hk | hk
    · exact h.apart.waiting k hk
    · rw [List.mem_singleton.1 hk]
      exact h.sent
  cancelled := h.apart.cancelled
  current k hk := by
    refine ⟨(h.apart.current k hk).1, fun hm => ?_⟩
    rcases List.mem_append.1 hm with hm | hm
    · exact (h.apart.current k hk).2 hm
    · rw [List.mem_singleton.1 hm] at hk
      exact h.untracked hk
  nodup := by
    refine List.nodup_append.2 ⟨h.apart.nodup, List.nodup_singleton g, fun k hk j hj he => ?_⟩
    rw [he, List.mem_singleton.1 hj] at hk
    exact h.waiting hk
  apart k hk := by
    rcases List.mem_append.1 hk with hk | hk
    · exact h.apart.apart k hk
    · rw [List.mem_singleton.1 hk]
      exact h.cancelled

theorem Awaited.accepted (h : Awaited g w) : Apart (w.accepted g) where
  __ := h.apart
  current k hk := by
    obtain rfl : g = k := Option.some.inj hk
    exact ⟨h.sent, h.waiting⟩

theorem Apart.forget (h : Apart w) : Apart { w with currentHandle := none } where
  __ := h
  current _ hk := by cases hk

theorem Apart.drop (h : Apart w) (r : GoalId) : Apart (w.dropLate r) where
  __ := h
  waiting k hk := h.waiting k (List.mem_of_mem_erase hk)
  current k hk := ⟨(h.current k hk).1, fun hm => (h.current k hk).2 (List.mem_of_mem_erase hm)⟩
  nodup := h.nodup.erase r
  apart k hk := h.apart k (List.mem_of_mem_erase hk)

/-- A goal that is not waited for may be cancelled. -/
theorem Apart.cancel (h : Apart w) (hg : g < w.goals.length) (hw : g ∉ w.unanswered)
    (m : LogMsg G) : Apart (w.cancelled g m) where
  __ := h
  cancelled k hk := by
    rcases List.mem_append.1 hk with hk | hk
    · exact h.cancelled k hk
    · rw [List.mem_singleton.1 hk]
      exact hg
  apart k hk hm := by
    rcases List.mem_append.1 hm with hm | hm
    · exact h.apart k hk hm
    · rw [List.mem_singleton.1 hm] at hk
      exact hw hk

theorem apart_invariant : Invariant (G := G) Apart Awaited where
  quiet _ _ hq h := h.quiet hq
  record _ _ h := { h with }
  waits _ _ _ hq h := h.quiet hq
  broken _ _ h := h.apart
  send _ msg h := h.send msg
  timedOut _ _ h _ := h.timedOut
  rejected _ _ h _ := { h.apart with }
  accepted _ _ h _ := h.accepted
  reset _ h := { h with }
  forget _ h := h.forget
  drop _ r h _ := h.drop r
  cancelLate w r h ha := by
    refine (h.drop r).cancel (h.answered r ?_) h.nodup.not_mem_erase _
    rw [ha]
    exact Option.some_ne_none _
  cancelCurrent _ _ h hc := h.cancel (h.current _ hc).1 (h.current _ hc).2 _

theorem apart_init : Apart ({} : World G) := by
  constructor <;> simp

/-- **At no time of a session is a request both given up and cancelled, or given up and tracked.** -/
theorem apart_session (p : Params G) (ins : List (Tick G)) :
    Apart ((session p).run ins {}).state := apart_invariant.session p apart_init ins

/-! ## Which iterations cancel -/

/-- Each request given up at `w` whose acceptance has reached the node by then is sent a cancel by
`w'`. -/
def Prompt (w w' : World G) : Prop :=
  ∀ r ∈ w.unanswered, w.answer r = some true → r ∈ w'.cancels

theorem answer_stays (hq : Quiet w w') {r : GoalId} {b : Bool} (h : w.answer r = some b) :
    w'.answer r = some b := by
  rcases hq.answer r with he | ⟨hn, -⟩
  · rw [he, h]
  · rw [h] at hn
    cases hn

/-- **`cancel_late_goals` cancels all that were accepted.** -/
theorem prompt_cancelLateGoals (w : World G) :
    wp cancelLateGoals (fun _ => Prompt w) (fun _ _ => True) (fun _ => True) w := by
  let late := w.unanswered.filter fun r => (w.answer r).isSome
  let J : World G → Prop := fun w' => ∀ r ∈ late, w'.answer r = w.answer r
  have hJ : ∀ w₁ w₂, Quiet w₁ w₂ → J w₁ → J w₂ := by
    intro w₁ w₂ hq h r hr
    have hsome := (List.mem_filter.1 hr).2
    obtain ⟨b, hb⟩ := Option.isSome_iff_exists.1 hsome
    rw [hb]
    exact answer_stays hq ((h r hr).trans hb)
  have hbody : ∀ r ∈ late, ∀ w₁, J w₁ → wp (cancelLate r)
      (fun _ w₂ => J w₂ ∧ (w.answer r = some true → r ∈ w₂.cancels) ∧
        ∀ k, (w.answer k = some true → k ∈ w₁.cancels) → w.answer k = some true → k ∈ w₂.cancels)
      (fun _ _ => True) (fun _ => True) w₁ := by
    intro r hr w₁ h
    refine wp_bind (wp_modify (wp_bind (wp_get ?_)))
    dsimp only
    rw [h r hr]
    split
    · have hstable : Stable (fun w₂ => J w₂ ∧ w₂.cancels = w₁.cancels ++ [r]) (fun _ _ => True)
          (fun _ => True) :=
        ⟨fun _ _ hq h => ⟨hJ _ _ hq h.1, hq.same.cancels.trans h.2⟩, fun _ _ => trivial,
          fun _ _ => trivial⟩
      have hlate : J ((w₁.dropLate r).cancelled r .lateAccept) ∧
          ((w₁.dropLate r).cancelled r .lateAccept).cancels = w₁.cancels ++ [r] := ⟨h, rfl⟩
      refine (wp_cancelAndWait hstable r .lateAccept hlate).mono fun _ w₂ h₂ => ?_
      refine ⟨h₂.1, fun _ => ?_, fun k hk ha => ?_⟩
      · rw [h₂.2]
        exact List.mem_append_right _ List.mem_cons_self
      · rw [h₂.2]
        exact List.mem_append_left _ (hk ha)
    · rename_i hne
      exact wp_pure ⟨h, fun ha => absurd ha hne, fun _ hk => hk⟩
  refine wp_bind (wp_get ?_)
  refine (wp_forM_each hbody fun r _ => rfl).mono fun _ w' h r hr ha => ?_
  exact h.2.1 r (List.mem_filter.2 ⟨hr, by simp [ha]⟩) ha

theorem prompt_sweep (w : World G) :
    wp sweep (fun _ => Prompt w) (fun _ _ => True) (fun _ => True) w := by
  have hstable : Stable (fun w₁ : World G => w₁.unanswered = w.unanswered ∧
      ∀ r, w.answer r = some true → w₁.answer r = some true) (fun _ _ => True) (fun _ => True) :=
    ⟨fun _ _ hq h => ⟨hq.same.unanswered.trans h.1, fun r hr => answer_stays hq (h.2 r hr)⟩,
      fun _ _ => trivial, fun _ _ => trivial⟩
  refine wp_bind ((wp_spinOnce hstable ⟨rfl, fun _ h => h⟩).mono fun _ w₁ h => ?_)
  refine (prompt_cancelLateGoals w₁).mono fun _ w' hp r hr ha => ?_
  exact hp r (h.1 ▸ hr) (h.2 r ha)

/-- A cancel is not taken back. -/
theorem cancels_invariant (R : GoalId → Prop) :
    Invariant (G := G) (fun w => ∀ r, R r → r ∈ w.cancels) fun _ w => ∀ r, R r → r ∈ w.cancels :=
  .of_more (P := fun _ _ cancels => ∀ r, R r → r ∈ cancels) (fun _ _ _ _ h => h)
    fun _ _ _ _ h r hr => List.mem_append_left _ (h r hr)

theorem goTo.turn_prompt {l l' : goTo.Vars G} {ins rest : List (Tick G)}
    (hn : (goTo.turn p name l).run ins w = .ret (.next l') rest w') : Prompt w w' := by
  obtain ⟨-, ins₁, w₁, hs, -, hnext⟩ := goTo.turn_next hn
  have hprompt : Prompt w w₁ := (prompt_sweep w).ret hs
  have hkeep := cancels_invariant (G := G) fun r => r ∈ w.unanswered ∧ w.answer r = some true
  rcases hnext with ⟨-, hr⟩ | ⟨-, -, -, hw⟩
  · rw [goTo.refresh_eq] at hr
    have hrefresh := (hkeep.keeps_resolve p name).bind fun fresh =>
      hkeep.keeps_decide_goTo p name { l with nextRefresh := w₁.now + p.refreshPeriod } fresh
    exact fun r hr' ha => (hrefresh w₁ fun r h => hprompt r h.1 h.2).ret hr r ⟨hr', ha⟩
  · rw [hw]
    exact hprompt

theorem goThrough.turn_prompt {l l'' : goThrough.Vars G} {ins rest : List (Tick G)}
    (hn : (goThrough.turn p l).run ins w = .ret (.next l'') rest w') : Prompt w w' := by
  obtain ⟨-, l', ins₁, w₁, hs, -, hnext⟩ := goThrough.turn_next hn
  obtain ⟨_, ins₂, w₂, hs, hu⟩ := ret_bind hs
  have hprompt : Prompt w w₂ := (prompt_sweep w).ret hs
  have hkeep := cancels_invariant (G := G) fun r => r ∈ w.unanswered ∧ w.answer r = some true
  have hupdated := (hkeep.keeps_update l w₂ fun r h => hprompt r h.1 h.2).ret hu
  rcases hnext with ⟨-, hr⟩ | ⟨-, -, -, hw⟩
  · rw [goThrough.refresh_eq] at hr
    have hrefresh := (hkeep.keeps_resolveAhead p l'.ahead).bind fun fresh =>
      hkeep.keeps_decide_goThrough p { l' with nextRefresh := w₁.now + p.refreshPeriod } fresh
    exact fun r hr' ha => (hrefresh w₁ hupdated).ret hr r ⟨hr', ha⟩
  · rw [hw]
    exact fun r hr' ha => hupdated r ⟨hr', ha⟩

theorem cleanup.turn_prompt {deadline : Int} {u u' : Unit} {ins rest : List (Tick G)}
    (hn : (cleanup.turn deadline u).run ins w = .ret (.next u') rest w') : Prompt w w' := by
  unfold cleanup.turn at hn
  rw [run_ret _ (run_get ..)] at hn
  split at hn
  · obtain ⟨_, ins₂, w₂, h1, hn⟩ := ret_bind hn
    obtain ⟨_, ins₁, w₁, h2, hn⟩ := ret_bind hn
    have hsweep : sweep.run ins w = .ret () ins₁ w₁ := (run_ret _ h1).trans h2
    injection hn with _ _ hw
    rw [← hw]
    exact (prompt_sweep w).ret hsweep
  · cases hn

/-- `resolve_with_wait` cancels nothing. -/
theorem resolveWithWait.turn_cancels {deadline : Int} {warned warned' : Bool}
    {ins rest : List (Tick G)}
    (hn : (resolveWithWait.turn p name deadline warned).run ins w = .ret (.next warned') rest w') :
    w'.cancels = w.cancels := by
  have hstable : Stable (fun w₁ : World G => w₁.cancels = w.cancels) (fun _ _ => True)
      (fun _ => True) :=
    ⟨fun _ _ hq h => hq.same.cancels.trans h, fun _ _ => trivial, fun _ _ => trivial⟩
  exact (wp_turn_resolveWithWait p hstable name deadline warned rfl).ret hn

/-! ## The iterations of a session -/

/-- The loops that spin the node while a mission runs. -/
inductive SpinLoop where
  | goTo | goThrough | resolveWithWait | cleanup

/-- `run` has come to its mission. -/
inductive Drives (p : Params G) (ins : List (Tick G)) (w₀ : World G) :
    List String → List (Tick G) → World G → Prop
  | intro {names : List String} {ins₁ rest : List (Tick G)} {w₁ w : World G} :
      waitForServer.run ins w₀ = .ret true ins₁ w₁ →
      (waypointNames p).run ins₁ w₁ = .ret names rest w → names ≠ [] →
      Drives p ins w₀ names rest (w.record (.log (.mission p.mode names)))

/-- The loop over `names` in mode pose calls `go_to`. -/
inductive visitAll.Calls (p : Params G) : List String → List (Tick G) → World G →
    String → List (Tick G) → World G → Prop
  | here {name : String} {names : List String} {ins : List (Tick G)} {w : World G} :
      Calls p (name :: names) ins w name ins (w.record (.goTo name))
  | later {name name' : String} {names : List String} {ok : Bool} {ins ins₁ ins' : List (Tick G)}
      {w w₁ w' : World G} :
      (goTo p name).run ins (w.record (.goTo name)) = .ret ok ins₁ w₁ →
      (ok = true ∨ p.stopOnFailure = false) →
      Calls p names ins₁ (w₁.record (.returned ok)) name' ins' w' →
      Calls p (name :: names) ins w name' ins' w'

/-- The first loop of `go_through` calls `resolve_with_wait`. -/
inductive resolveRoute.Calls (p : Params G) : List String → List (Tick G) → World G →
    String → List (Tick G) → World G → Prop
  | here {name : String} {names : List String} {ins : List (Tick G)} {w : World G} :
      Calls p (name :: names) ins w name ins w
  | later {name name' : String} {names : List String} {goal : PoseStamped G}
      {ins ins₁ ins' : List (Tick G)} {w w₁ w' : World G} :
      (resolveWithWait p name).run ins w = .ret (some goal) ins₁ w₁ →
      Calls p names ins₁ w₁ name' ins' w' → Calls p (name :: names) ins w name' ins' w'

/-- A turn of `resolve_with_wait`'s loop starts here. -/
def resolveWithWait.Heads (p : Params G) (name : String) (ins : List (Tick G)) (w : World G)
    (h : At Bool (Tick G) (World G)) : Prop :=
  Turns (resolveWithWait.turn p name (w.now + p.waitForWaypoint)) ⟨false, ins, w⟩ h

/-- A complete iteration of a loop in the session on `ins`, and the world before and after. -/
inductive Iteration (p : Params G) (ins : List (Tick G)) : SpinLoop → World G → World G → Prop
  | goTo {names : List String} {name : String} {ins₁ ins₂ rest : List (Tick G)}
      {w₁ w₂ w' : World G} {h : At (goTo.Vars G) (Tick G) (World G)} {l' : goTo.Vars G} :
      p.mode = "pose" → Drives p ins {} names ins₁ w₁ →
      visitAll.Calls p names ins₁ w₁ name ins₂ w₂ → goTo.Heads p name ins₂ w₂ h →
      (goTo.turn p name h.var).run h.rest h.state = .ret (.next l') rest w' →
      Iteration p ins .goTo h.state w'
  | goThrough {names : List String} {ins₁ rest : List (Tick G)} {w₁ w' : World G}
      {h : At (goThrough.Vars G) (Tick G) (World G)} {l' : goThrough.Vars G} :
      p.mode = "through" → Drives p ins {} names ins₁ w₁ → goThrough.Heads p names ins₁ w₁ h →
      (goThrough.turn p h.var).run h.rest h.state = .ret (.next l') rest w' →
      Iteration p ins .goThrough h.state w'
  | resolvePose {names : List String} {name : String} {ins₁ ins₂ rest : List (Tick G)}
      {w₁ w₂ w' : World G} {h : At Bool (Tick G) (World G)} {warned : Bool} :
      p.mode = "pose" → Drives p ins {} names ins₁ w₁ →
      visitAll.Calls p names ins₁ w₁ name ins₂ w₂ → resolveWithWait.Heads p name ins₂ w₂ h →
      (resolveWithWait.turn p name (w₂.now + p.waitForWaypoint) h.var).run h.rest h.state =
        .ret (.next warned) rest w' →
      Iteration p ins .resolveWithWait h.state w'
  | resolveThrough {names : List String} {name : String} {ins₁ ins₂ rest : List (Tick G)}
      {w₁ w₂ w' : World G} {h : At Bool (Tick G) (World G)} {warned : Bool} :
      p.mode = "through" → Drives p ins {} names ins₁ w₁ →
      resolveRoute.Calls p names ins₁ w₁ name ins₂ w₂ → resolveWithWait.Heads p name ins₂ w₂ h →
      (resolveWithWait.turn p name (w₂.now + p.waitForWaypoint) h.var).run h.rest h.state =
        .ret (.next warned) rest w' →
      Iteration p ins .resolveWithWait h.state w'
  | cleanup {rc : Except PyErr Int} {ins₁ ins₂ rest : List (Tick G)} {w₁ w₂ w' : World G}
      {h : At Unit (Tick G) (World G)} {u : Unit} :
      (attempt (run p)).run ins {} = .ret rc ins₁ w₁ → cancelCurrent.run ins₁ w₁ = .ret () ins₂ w₂ →
      Turns (cleanup.turn (w₂.now + 5 * second)) ⟨(), ins₂, w₂⟩ h →
      (cleanup.turn (w₂.now + 5 * second) h.var).run h.rest h.state = .ret (.next u) rest w' →
      Iteration p ins .cleanup h.state w'

theorem Drives.apart {ins rest : List (Tick G)} (hd : Drives p ins {} names rest w) : Apart w := by
  obtain ⟨hs, hn, -⟩ := hd
  have hstable := apart_invariant (G := G) |>.stable
  have hserver := (wp_waitForServer hstable apart_init).ret hs
  exact apart_invariant.record _ _ ((wp_waypointNames p hstable hserver).ret hn)

theorem visitAll.Calls.apart {ins ins' : List (Tick G)}
    (hc : visitAll.Calls p names ins w name ins' w') (h : Apart w) : Apart w' := by
  induction hc with
  | here => exact apart_invariant.record _ _ h
  | later hr _ _ ih =>
    have hgo := (apart_invariant.keeps_goTo p _ _ (apart_invariant.record _ _ h)).ret hr
    exact ih (apart_invariant.record _ _ hgo)

theorem resolveRoute.Calls.apart {ins ins' : List (Tick G)}
    (hc : resolveRoute.Calls p names ins w name ins' w') (h : Apart w) : Apart w' := by
  induction hc with
  | here => exact h
  | later hr _ ih => exact ih ((apart_invariant.keeps_resolveWithWait p _ _ h).ret hr)

theorem resolveWithWait.Heads.apart {ins : List (Tick G)} {h : At Bool (Tick G) (World G)}
    (hh : resolveWithWait.Heads p name ins w h) (ha : Apart w) : Apart h.state := by
  have hstable := apart_invariant (G := G) |>.stable
  exact Turns.inv (J := fun _ => Apart) hh
    (fun warned _ h => wp_turn_resolveWithWait p hstable name _ warned h) ha

/-- An iteration of `resolve_with_wait` is prompt where there is nothing to cancel. -/
theorem resolveWithWait.turn_prompt_iff {deadline : Int} {warned warned' : Bool}
    {ins rest : List (Tick G)} (ha : Apart w)
    (hn : (resolveWithWait.turn p name deadline warned).run ins w = .ret (.next warned') rest w') :
    Prompt w w' ↔ ∀ r ∈ w.unanswered, w.answer r ≠ some true := by
  unfold Prompt
  rw [resolveWithWait.turn_cancels hn]
  refine forall_congr' fun r => forall_congr' fun hr => ⟨fun hp hacc => ?_, fun hne hacc => ?_⟩
  · exact ha.apart r hr (hp hacc)
  · exact absurd hacc hne

/-- **A complete iteration of a mission loop cancels all acceptances that had come late when it
started, unless it is one of `resolve_with_wait` and there is one.** -/
theorem iteration_prompt_iff (p : Params G) (ins : List (Tick G)) (k : SpinLoop) (w w' : World G)
    (hi : Iteration p ins k w w') :
    Prompt w w' ↔ (k = .resolveWithWait → ∀ r ∈ w.unanswered, w.answer r ≠ some true) := by
  cases hi with
  | goTo _ _ _ _ hn => exact iff_of_true (goTo.turn_prompt hn) nofun
  | goThrough _ _ _ hn => exact iff_of_true (goThrough.turn_prompt hn) nofun
  | cleanup _ _ _ hn => exact iff_of_true (cleanup.turn_prompt hn) nofun
  | resolvePose _ hd hc hh hn =>
    rw [resolveWithWait.turn_prompt_iff (hh.apart (hc.apart hd.apart)) hn]
    simp
  | resolveThrough _ hd hc hh hn =>
    rw [resolveWithWait.turn_prompt_iff (hh.apart (hc.apart hd.apart)) hn]
    simp

def goOnWaypoints : Params .line :=
  { waypoints := ["wp1", "wp2"], stopOnFailure := false, replanThreshold := (1 : Nat) }

/-- Nav2 does not answer the request for the first waypoint in time. -/
def untilTimedOut : List (Tick .line) :=
  untilSent ++ [{ elapsed := 5 * second }]

/-- It accepts the request while `go_to` waits for the second goal's answer. -/
def acceptedDriving : List (Tick .line) :=
  untilTimedOut ++ [{ ready := true }, { events := [.waypoint 1 ⟨true, "map", (9 : Int)⟩] },
    { events := [.accept 0, .answer 0, .accept 1, .answer 1] }, { now := 0 },
    { events := [.cancelResponse 0] }]

theorem iteration_prompt_driving :
    ∃ w w', Iteration goOnWaypoints acceptedDriving .goTo w w' ∧ 0 ∈ w.unanswered ∧
      w.answer 0 = some true ∧ 0 ∈ w'.cancels := by
  have hi : Iteration goOnWaypoints acceptedDriving .goTo _ _ :=
    .goTo rfl (.intro rfl rfl (by decide)) (.later rfl (.inr rfl) .here)
      ⟨_, .intro rfl rfl, .refl _⟩ rfl
  have hprompt := (iteration_prompt_iff goOnWaypoints acceptedDriving .goTo _ _ hi).2 nofun
  exact ⟨_, _, hi, .head _, rfl, hprompt 0 (.head _) rfl⟩

/-- It accepts the request while the second waypoint is pending. -/
def acceptedPending : List (Tick .line) :=
  untilTimedOut ++ [{ ready := true }, { events := [.waypoint 1 ⟨false, "map", (0 : Int)⟩] },
    { events := [.accept 0, .answer 0] }, { ready := true },
    { events := [.waypoint 2 ⟨false, "map", (0 : Int)⟩] }, { now := second }]

/-- `resolve_with_wait` goes through a whole iteration while Nav2 executes the goal. -/
theorem iteration_ignores_accepted :
    ∃ w w', Iteration goOnWaypoints acceptedPending .resolveWithWait w w' ∧ 0 ∈ w.unanswered ∧
      w.answer 0 = some true ∧ w.phase 0 = .executing ∧ w'.phase 0 = .executing ∧
      w'.cancels = [] := by
  have hi : Iteration goOnWaypoints acceptedPending .resolveWithWait _ _ :=
    .resolvePose (h := ⟨_, _, _⟩) rfl (.intro rfl rfl (by decide)) (.later rfl (.inr rfl) .here)
      (.single rfl) rfl
  exact ⟨_, _, hi, .head _, rfl, rfl, rfl, rfl⟩

end Mission
