import Kratos.Mission.Script

/-!
# What waiting can do

`Quiet w w'`: one step of what happens while the script waits, asks GLIM or logs. It moves
clocks, delivers messages and lets Nav2 act, and leaves alone what the script itself keeps
(`Quiet.frame`); `Quiet.phase`, `Quiet.answer`, `Quiet.result` and `Quiet.trace` say what it can
do to the rest.

A predicate that every quiet step keeps (`Stable`) is kept by all the methods up to
`resolve_with_wait`, and by `send_action` and `cancel_late_goals` up to what they do themselves:
`wp_wait`, `wp_call`, `wp_resolve`, `wp_resolveWithWait`, `wp_sendAction`, `wp_cancelLateGoals`.
-/

namespace Mission

open Prog

variable {G : Geometry} {α : Type} {w w' : World G}

/-! ## Every loop waits, so it is its turns (`Prog.loop_eq`) -/

section

variable (p : Params G)

theorem spinOnce_consumes : Consumes (spinOnce (G := G)) := consumes_next.bind _

theorem resolve_consumes (name : String) : Consumes (resolve p name) :=
  ((consumes_next.bind _).bind _).bind _

theorem wait.turn_waits (future : World G → Option α) (deadline : Nat) (u : Unit) :
    Waits (wait.turn future deadline u) := by
  refine waits_bind fun w => ?_
  split
  · exact waits_done _
  · exact (spinOnce_consumes.bind _).waits

theorem sensorToBaseOffset.turn_waits (deadline : Int) (u : Unit) :
    Waits (sensorToBaseOffset.turn p deadline u) := by
  refine waits_bind fun w => ?_
  split
  · cases w.transform with
    | some t => exact waits_done _
    | none => exact (spinOnce_consumes.bind _).waits
  · exact waits_bind fun _ => waits_done _

theorem resolveWithWait.turn_waits (name : String) (deadline : Int) (warned : Bool) :
    Waits (resolveWithWait.turn p name deadline warned) := by
  refine waits_bind fun w => ?_
  split
  · exact ((resolve_consumes p name).bind _).waits
  · exact waits_done _

theorem goTo.turn_waits (name : String) (l : goTo.Vars G) : Waits (goTo.turn p name l) := by
  refine waits_bind fun w => ?_
  split
  · exact (spinOnce_consumes.bind _).waits
  · exact waits_done _

theorem goThrough.turn_waits (l : goThrough.Vars G) : Waits (goThrough.turn p l) := by
  refine waits_bind fun w => ?_
  split
  · exact (spinOnce_consumes.bind _).waits
  · exact waits_done _

theorem cleanup.turn_waits (deadline : Int) (u : Unit) :
    Waits (cleanup.turn (G := G) deadline u) := by
  refine waits_bind fun w => ?_
  split
  · exact (spinOnce_consumes.bind _).waits
  · exact waits_done _

end

@[simp] theorem run_log (m : LogMsg G) (ins : List (Tick G)) (w : World G) :
    (log m).run ins w = .ret () ins (w.record (.log m)) := rfl

/-! ## Quiet steps -/

/-- Entries of methods that send nothing and come to no verdict. -/
def Entry.quiet : Entry G → Bool
  | .log (.mission ..) | .log (.reached _) => false
  | .log _ | .resolved .. => true
  | _ => false

inductive Quiet : World G → World G → Prop where
  | clock (w : World G) (monotonic : Nat) (now : Int) : Quiet w { w with monotonic, now }
  | event (w : World G) (e : Event G) : Quiet w (w.handle e)
  | call (w : World G) (request : Request) : Quiet w { w with calls := w.calls ++ [request] }
  | record (w : World G) (e : Entry G) (he : e.quiet = true) : Quiet w (w.record e)

/-- The fields that only the script's own statements assign. -/
structure SameScript (w w' : World G) : Prop where
  ok : w'.ok = w.ok
  goals : w'.goals = w.goals
  cancels : w'.cancels = w.cancels
  resultRequests : w'.resultRequests = w.resultRequests
  currentHandle : w'.currentHandle = w.currentHandle
  unanswered : w'.unanswered = w.unanswered

theorem handle_same (w : World G) (e : Event G) : SameScript w (w.handle e) := by
  cases e <;> simp only [World.handle] <;> (repeat' split) <;> constructor <;> rfl

theorem Quiet.same (h : Quiet w w') : SameScript w w' := by
  cases h with
  | event e => exact handle_same w e
  | _ => constructor <;> rfl

/-- What Nav2 can do to a goal at a time. -/
inductive Moves : Phase → Phase → Prop where
  | stay (p : Phase) : Moves p p
  | accept : Moves .requested .executing
  | reject : Moves .requested .rejected
  | preempt : Moves .executing .preempted
  | finish {p : Phase} (s : GoalStatus) (hp : p = .executing ∨ p = .preempted) :
      Moves p (.ended s)

/-- Nav2 has accepted the goal, whatever became of it. -/
def Phase.Accepted (p : Phase) : Prop := p ≠ .requested ∧ p ≠ .rejected

theorem Moves.accepted {p q : Phase} (hm : Moves p q) (hp : p.Accepted) : q.Accepted := by
  cases hm with
  | stay => exact hp
  | accept => exact absurd rfl hp.1
  | reject => exact absurd rfl hp.1
  | preempt | finish => exact ⟨by simp, by simp⟩

theorem Moves.rejected {q : Phase} (hm : Moves .rejected q) : q = .rejected := by
  cases hm with
  | stay => rfl
  | finish s hp => simp at hp

theorem Moves.ended {q : Phase} {s : GoalStatus} (hm : Moves (.ended s) q) : q = .ended s := by
  cases hm with
  | stay => rfl
  | finish s hp => simp at hp

theorem Moves.preempted {q : Phase} (hm : Moves .preempted q) :
    q = .preempted ∨ ∃ s, q = .ended s := by
  cases hm with
  | stay => exact .inl rfl
  | finish s hp => exact .inr ⟨s, rfl⟩

theorem Moves.requested {q : Phase} (hm : Moves .requested q) (hq : q.Accepted) :
    q = .executing := by
  cases hm with
  | stay => exact absurd rfl hq.1
  | accept => rfl
  | reject => exact absurd rfl hq.2
  | finish s hp => simp at hp

theorem Moves.of_accepted {p q : Phase} (hm : Moves p q) (hp : ¬ p.Accepted) (hq : q.Accepted) :
    p = .requested ∧ q = .executing := by
  have hreq : p = .requested := by
    by_contra hne
    exact hp ⟨hne, fun hrej => hq.2 (hrej ▸ hm).rejected⟩
  subst hreq
  exact ⟨rfl, hm.requested hq⟩

theorem preempt_moves (phase : GoalId → Phase) (g : GoalId) :
    Moves (phase g) (preempt phase g) := by
  by_cases hg : phase g = .executing
  · rw [preempt, if_pos hg, hg]
    exact .preempt
  · rw [preempt, if_neg hg]
    exact .stay _

/-- One goal is moved, and the others have moved before. -/
theorem update_moves {f f' : GoalId → Phase} {h : GoalId} {b : Phase} (hb : Moves (f h) b)
    (hf : ∀ g, Moves (f g) (f' g)) (g : GoalId) : Moves (f g) (Function.update f' h b g) := by
  by_cases hg : g = h
  · subst hg
    rw [Function.update_self]
    exact hb
  · rw [Function.update_of_ne hg]
    exact hf g

theorem handle_moves (w : World G) (e : Event G) (g : GoalId) :
    Moves (w.phase g) ((w.handle e).phase g) := by
  cases e with
  | accept h =>
    simp only [World.handle]
    split
    · rename_i hh
      exact update_moves (hh.2 ▸ .accept) (preempt_moves _) g
    · exact .stay _
  | reject h =>
    simp only [World.handle]
    split
    · rename_i hh
      exact update_moves (hh.2 ▸ .reject) (fun _ => .stay _) g
    · exact .stay _
  | finish h s =>
    simp only [World.handle]
    split
    · rename_i hh
      exact update_moves (.finish s hh) (fun _ => .stay _) g
    · exact .stay _
  | answer h | cancelResponse k | waypoint k r | names k ns =>
    simp only [World.handle]
    split <;> exact .stay _
  | result h | feedback h n =>
    simp only [World.handle]
    (repeat' split) <;> exact .stay _
  | transform o => exact .stay _

theorem Quiet.moves (h : Quiet w w') (g : GoalId) : Moves (w.phase g) (w'.phase g) := by
  cases h with
  | event e => exact handle_moves w e g
  | _ => exact .stay _

/-- A goal that was not sent is not decided on. -/
theorem Quiet.unsent (h : Quiet w w') {g : GoalId} (hg : w.goals.length ≤ g)
    (hr : w.phase g = .requested) : w'.phase g = .requested := by
  cases h with
  | event e =>
    cases e <;> simp only [World.handle] <;> (repeat' split) <;> try exact hr
    · rename_i h hh
      have hne : g ≠ h := fun he => absurd hh.1 (Nat.not_lt.2 (he ▸ hg))
      simp [Function.update_of_ne hne, preempt, hr]
    · rename_i h hh
      have hne : g ≠ h := fun he => absurd hh.1 (Nat.not_lt.2 (he ▸ hg))
      simp [Function.update_of_ne hne, hr]
    · rename_i h s hh
      have hne : g ≠ h := by rintro rfl; simp [hr] at hh
      simp [Function.update_of_ne hne, hr]
  | _ => exact hr

/-- **Nav2 executes the goal it has just accepted and no other.** -/
theorem Quiet.accepts (h : Quiet w w') {g k : GoalId} (hg : w.phase g = .requested)
    (hg' : w'.phase g = .executing) (hk : k ≠ g) : w'.phase k ≠ .executing := by
  cases h with
  | event e =>
    cases e with
    | accept j =>
      simp only [World.handle] at hg' ⊢
      split at hg'
      · have hj : g = j := by
          by_contra hne
          simp [Function.update_of_ne hne, preempt, hg] at hg'
        subst hj
        rw [if_pos ‹_›]
        simp only [Function.update_of_ne hk, preempt]
        split <;> simp_all
      · rw [hg] at hg'
        cases hg'
    | reject j =>
      simp only [World.handle] at hg'
      split at hg'
      · by_cases hj : g = j <;> simp_all [Function.update_of_ne]
      · rw [hg] at hg'
        cases hg'
    | finish j s =>
      simp only [World.handle] at hg'
      split at hg'
      · by_cases hj : g = j <;> simp_all [Function.update_of_ne]
      · rw [hg] at hg'
        cases hg'
    | _ =>
      simp only [World.handle] at hg'
      exfalso
      revert hg'
      repeat' split
      all_goals simp [hg]
  | _ => exact absurd (hg.symm.trans hg') (by decide)

theorem Quiet.answer (h : Quiet w w') (g : GoalId) :
    w'.answer g = w.answer g ∨
      w.answer g = none ∧ w.phase g ≠ .requested ∧ w'.phase = w.phase ∧
        w'.answer g = some (decide (w.phase g ≠ .rejected)) := by
  cases h with
  | event e =>
    cases e with
    | answer j =>
      simp only [World.handle]
      split
      · rename_i hh
        by_cases hj : g = j
        · subst hj
          exact .inr ⟨hh.1, hh.2, rfl, by simp⟩
        · exact .inl (by simp [Function.update_of_ne hj])
      · exact .inl rfl
    | transform o => exact .inl rfl
    | _ =>
      left
      simp only [World.handle]
      (repeat' split) <;> rfl
  | _ => exact .inl rfl

theorem Quiet.result (h : Quiet w w') (g : GoalId) :
    w'.result g = w.result g ∨
      ∃ s, w.result g = none ∧ w.phase g = .ended s ∧ w'.result g = some s := by
  cases h with
  | event e =>
    cases e with
    | result j =>
      simp only [World.handle]
      split
      · rename_i s hs
        split
        · rename_i hh
          by_cases hj : g = j
          · subst hj
            exact .inr ⟨s, hh.2, hs, by simp⟩
          · exact .inl (by simp [Function.update_of_ne hj])
        · exact .inl rfl
      · exact .inl rfl
    | transform o => exact .inl rfl
    | _ =>
      left
      simp only [World.handle]
      (repeat' split) <;> rfl
  | _ => exact .inl rfl

/-- A quiet step records a quiet entry, the feedback it processes, or nothing. -/
theorem Quiet.trace (h : Quiet w w') :
    w'.posesRemaining = w.posesRemaining ∧
        (w'.trace = w.trace ∨ ∃ e, e.quiet = true ∧ w'.trace = e :: w.trace) ∨
      ∃ g n, w'.posesRemaining = some n ∧ w'.trace = .feedback g n :: w.trace := by
  cases h with
  | event e =>
    cases e with
    | feedback g n =>
      simp only [World.handle]
      split
      · exact .inr ⟨g, n, rfl, rfl⟩
      · exact .inl ⟨rfl, .inl rfl⟩
    | transform o => exact .inl ⟨rfl, .inl rfl⟩
    | accept _ | reject _ | finish _ _ | answer _ | result _ | cancelResponse _ | waypoint _ _
    | names _ _ =>
      left
      simp only [World.handle]
      (repeat' split) <;> exact ⟨rfl, .inl rfl⟩
  | record e he => exact .inl ⟨rfl, .inr ⟨e, he, rfl⟩⟩
  | _ => exact .inl ⟨rfl, .inl rfl⟩

/-! ## Predicates that waiting keeps -/

/-- `J` is kept by quiet steps, gives `E` where a KeyboardInterrupt strikes, and gives `B`. -/
structure Stable (J : World G → Prop) (E : PyErr → World G → Prop) (B : World G → Prop) :
    Prop where
  quiet : ∀ w w', Quiet w w' → J w → J w'
  interrupt : ∀ w, J w → E .keyboardInterrupt (w.record .interrupt)
  blocked : ∀ w, J w → B w

variable {J K : World G → Prop} {E : PyErr → World G → Prop} {B : World G → Prop}

/-- Quiet facts may be added. -/
theorem Stable.and (hJ : Stable J E B) (hK : ∀ w w', Quiet w w' → K w → K w') :
    Stable (fun w => J w ∧ K w) E B where
  quiet w w' hq h := ⟨hJ.quiet w w' hq h.1, hK w w' hq h.2⟩
  interrupt w h := hJ.interrupt w h.1
  blocked w h := hJ.blocked w h.1

theorem Stable.advance (hJ : Stable J E B) (t : Tick G) (h : J w) : J (w.advance t) := by
  have hevents : ∀ (es : List (Event G)) w, J w → J (es.foldl World.handle w) := by
    intro es
    induction es with
    | nil => exact fun _ h => h
    | cons e es ih => exact fun w h => ih _ (hJ.quiet w _ (.event w e) h)
  exact hevents t.events _ (hJ.quiet w _ (.clock w _ _) h)

theorem Stable.log (hJ : Stable J E B) {m : LogMsg G} (hm : (Entry.log m).quiet = true)
    (h : J w) : J (w.record (.log m)) := hJ.quiet w _ (.record w _ hm) h

/-! ## The methods that send nothing -/

theorem wp_log {m : LogMsg G} {Q : Unit → World G → Prop} (h : Q () (w.record (.log m))) :
    wp (log m) Q E B w := wp_modify h

theorem wp_interruptIf (hJ : Stable J E B) (b : Bool) (h : J w) :
    wp (interruptIf b) (fun _ => J) E B w := by
  cases b with
  | false => exact wp_pure h
  | true => exact wp_bind (wp_modify (wp_raise (hJ.interrupt w h)))

theorem wp_spinOnce (hJ : Stable J E B) (h : J w) : wp spinOnce (fun _ => J) E B w := by
  refine wp_bind (wp_next (fun t => ?_) (hJ.blocked w h))
  exact wp_bind (wp_modify (wp_interruptIf hJ t.interrupt (hJ.advance t h)))

theorem wp_waitForServer (hJ : Stable J E B) (h : J w) :
    wp waitForServer (fun _ => J) E B w := by
  refine wp_bind (wp_next (fun t => ?_) (hJ.blocked w h))
  refine wp_bind (wp_modify (wp_bind ?_))
  exact (wp_interruptIf hJ t.interrupt (hJ.advance _ h)).mono fun _ _ h' => wp_pure h'

theorem wp_wait (hJ : Stable J E B) (future : World G → Option α) (timeout : Nat) (h : J w) :
    wp (wait future timeout) (fun r w' => J w' ∧ r = future w') E B w := by
  refine wp_bind (wp_get ?_)
  refine wp_loop (fun _ => J) (fun _ w h => ?_) (fun _ => hJ.blocked) h
  refine wp_bind (wp_get ?_)
  split
  · exact wp_pure ⟨h, rfl⟩
  · refine wp_bind ((wp_spinOnce hJ h).mono fun _ w h => wp_bind (wp_get ?_))
    split
    · exact wp_pure ⟨h, rfl⟩
    · exact wp_pure h

theorem wp_call (hJ : Stable J E B) (service : String) (request : Request)
    (response : World G → Nat → Option α) (h : J w) :
    wp (call service request response) (fun _ => J) E B w := by
  refine wp_bind ((wp_waitForServer hJ h).mono fun ready w h => ?_)
  cases ready with
  | false => exact wp_bind (wp_log (wp_pure (hJ.log rfl h)))
  | true =>
    refine wp_bind (wp_get (wp_bind (wp_modify ?_)))
    exact (wp_wait hJ _ _ (hJ.quiet w _ (.call w request) h)).mono fun _ _ h' => h'.1

variable (p : Params G)

theorem wp_sensorToBaseOffset (hJ : Stable J E B) (h : J w) :
    wp (sensorToBaseOffset p) (fun _ => J) E B w := by
  refine wp_bind (wp_get ?_)
  refine wp_loop (fun _ => J) (fun _ w h => ?_) (fun _ => hJ.blocked) h
  refine wp_bind (wp_get ?_)
  split
  · cases w.transform with
    | some t => exact wp_pure h
    | none => exact wp_bind ((wp_spinOnce hJ h).mono fun _ _ h' => wp_pure h')
  · exact wp_bind (wp_log (wp_pure (hJ.log rfl h)))

/-- `resolve` has just recorded the goal it returns. -/
def Resolved (J : World G → Prop) (name : String) (r : Option (PoseStamped G)) (w : World G) :
    Prop :=
  ∀ goal, r = some goal → ∃ w₀, J w₀ ∧ w = w₀.record (.resolved name goal)

theorem wp_resolve (hJ : Stable J E B) (name : String) (h : J w) :
    wp (resolve p name) (fun r w' => J w' ∧ Resolved J name r w') E B w := by
  refine wp_bind ((wp_call hJ _ _ _ h).mono fun res w h => ?_)
  cases res with
  | none => exact wp_pure ⟨h, nofun⟩
  | some res =>
    dsimp only
    split
    · refine wp_bind ((wp_sensorToBaseOffset p hJ h).mono fun offset w h => ?_)
      cases offset with
      | none => exact wp_pure ⟨h, nofun⟩
      | some offset =>
        refine wp_bind (wp_get (wp_bind (wp_modify (wp_pure ⟨?_, ?_⟩))))
        · exact hJ.quiet w _ (.record w _ rfl) h
        · intro goal hgoal
          cases hgoal
          exact ⟨w, h, rfl⟩
    · exact wp_pure ⟨h, nofun⟩

theorem wp_turn_resolveWithWait (hJ : Stable J E B) (name : String) (deadline : Int)
    (warned : Bool) (h : J w) :
    wp (resolveWithWait.turn p name deadline warned)
      (turnPost (fun _ => J) fun r w' => J w' ∧ Resolved J name r w') E B w := by
  refine wp_bind (wp_get ?_)
  split
  · refine wp_bind ((wp_resolve p hJ name h).mono fun r w h => ?_)
    cases r with
    | some goal => exact wp_pure h
    | none =>
      refine wp_bind (wp_get ?_)
      split
      · exact wp_pure h
      · have hwarn : wp (warnOnce warned (.notResolvable name)) (fun _ => J) E B w := by
          cases warned with
          | true => exact wp_pure h.1
          | false => exact wp_log (hJ.log rfl h.1)
        refine wp_bind (hwarn.mono fun _ w h => ?_)
        exact wp_bind ((wp_spinOnce hJ h).mono fun _ _ h' => wp_pure h')
  · exact wp_pure ⟨h, nofun⟩

theorem wp_resolveWithWait (hJ : Stable J E B) (name : String) (h : J w) :
    wp (resolveWithWait p name) (fun r w' => J w' ∧ Resolved J name r w') E B w := by
  refine wp_bind (wp_get ?_)
  exact wp_loop (fun _ => J) (fun warned _ h => wp_turn_resolveWithWait p hJ name _ warned h)
    (fun _ => hJ.blocked) h

theorem wp_resolveRoute (hJ : Stable J E B) (names : List String) (h : J w) :
    wp (resolveRoute p names)
      (fun r w => J w ∧ ∀ goals, r = some goals → goals.length = names.length) E B w := by
  induction names generalizing w with
  | nil => exact wp_pure ⟨h, by simp⟩
  | cons name names ih =>
    refine wp_bind ((wp_resolveWithWait p hJ name h).mono fun r w h => ?_)
    cases r with
    | none => exact wp_bind (wp_log (wp_pure ⟨hJ.log rfl h.1, nofun⟩))
    | some goal =>
      refine wp_bind ((ih h.1).mono fun r w h => ?_)
      obtain ⟨h, hlen⟩ := h
      cases r with
      | none => exact wp_pure ⟨h, nofun⟩
      | some goals =>
        refine wp_pure ⟨h, fun _ he => ?_⟩
        cases he
        simp [hlen goals rfl]

theorem wp_resolveAhead (hJ : Stable J E B) (ahead : List (String × PoseStamped G)) (h : J w) :
    wp (resolveAhead p ahead) (fun fresh w => J w ∧ fresh.map (·.1) = ahead.map (·.1)) E B w := by
  induction ahead generalizing w with
  | nil => exact wp_pure ⟨h, rfl⟩
  | cons a ahead ih =>
    refine wp_bind ((wp_resolve p hJ a.1 h).mono fun _ w h => ?_)
    refine wp_bind ((ih h.1).mono fun fresh _ h => wp_pure ⟨h.1, ?_⟩)
    rw [List.map_cons, List.map_cons, h.2]

/-! ## Up to the first waypoint -/

theorem wp_waypointNames (hJ : Stable J E B) (h : J w) :
    wp (waypointNames p) (fun _ => J) E B w := by
  unfold waypointNames
  dsimp only
  split
  · exact wp_pure h
  · refine wp_bind ((wp_call hJ _ _ _ h).mono fun r w h => ?_)
    cases r <;> exact wp_pure h

/-- **`run`** either fails before it has sent anything, or drives. -/
theorem wp_run {Q : Int → World G → Prop} (hJ : Stable J E B)
    (hfail : ∀ m w, (Entry.log m).quiet = true → J w → Q 1 (w.record (.log m)))
    (hdrive : ∀ names w, names ≠ [] → J w → wp (drive p names) Q E B w) (h : J w) :
    wp (run p) Q E B w := by
  unfold run
  split
  · exact wp_bind (wp_log (wp_pure (hfail _ _ rfl h)))
  · refine wp_bind ((wp_waitForServer hJ h).mono fun ready w h => ?_)
    split
    · refine wp_bind ((wp_waypointNames p hJ h).mono fun names w h => ?_)
      split
      · exact wp_bind (wp_log (wp_pure (hfail _ _ rfl h)))
      · rename_i hne
        exact hdrive names w hne h
    · exact wp_bind (wp_log (wp_pure (hfail _ _ rfl h)))

/-! ## Sending -/

def World.sendGoal (w : World G) (msg : GoalMsg G) : World G :=
  { w with goals := w.goals ++ [msg], trace := .sent w.goals.length msg :: w.trace }

def World.timedOut (w : World G) (g : GoalId) : World G :=
  { w with
    unanswered := w.unanswered ++ [g]
    trace := .outcome g .timedOut :: .log .noAnswer :: w.trace }

def World.rejected (w : World G) (g : GoalId) : World G :=
  { w with trace := .outcome g .rejected :: .log .goalRejected :: w.trace }

def World.accepted (w : World G) (g : GoalId) : World G :=
  { w with
    currentHandle := some g
    resultRequests := g :: w.resultRequests
    trace := .outcome g .accepted :: w.trace }

/-- **`send_action`**: `J` holds while it waits for the answer, and the answer it has when it stops
waiting decides. -/
theorem wp_sendAction {Q : Option (GoalId × GoalId) → World G → Prop} (hJ : Stable J E B)
    (msg : GoalMsg G) (h : J (w.sendGoal msg))
    (htimedOut : ∀ w', J w' → w'.answer w.goals.length = none →
      Q none (w'.timedOut w.goals.length))
    (hrejected : ∀ w', J w' → w'.answer w.goals.length = some false →
      Q none (w'.rejected w.goals.length))
    (haccepted : ∀ w', J w' → w'.answer w.goals.length = some true →
      Q (some (w.goals.length, w.goals.length)) (w'.accepted w.goals.length)) :
    wp (sendAction msg) Q E B w := by
  refine wp_bind (wp_bind (wp_get (wp_bind (wp_modify (wp_pure ?_)))))
  refine wp_bind ((wp_wait hJ _ _ h).mono fun r w' hw => ?_)
  obtain ⟨hw, hr⟩ := hw
  match r with
  | none => exact wp_bind (wp_log (wp_bind (wp_modify (wp_bind (wp_modify
      (wp_pure (htimedOut w' hw hr.symm)))))))
  | some false => exact wp_bind (wp_log (wp_bind (wp_modify
      (wp_pure (hrejected w' hw hr.symm)))))
  | some true => exact wp_bind (wp_modify (wp_bind (wp_modify (wp_bind (wp_modify
      (wp_pure (haccepted w' hw hr.symm)))))))

/-! ## Cancelling -/

def World.cancelled (w : World G) (g : GoalId) (m : LogMsg G) : World G :=
  { w with cancels := w.cancels ++ [g], trace := .cancel g :: .log m :: w.trace }

def World.dropLate (w : World G) (g : GoalId) : World G :=
  { w with unanswered := w.unanswered.erase g }

theorem wp_cancelAndWait (hJ : Stable J E B) (g : GoalId) (m : LogMsg G)
    (h : J (w.cancelled g m)) : wp (do log m; cancelAndWait g) (fun _ => J) E B w := by
  refine wp_bind (wp_log (wp_bind (wp_bind (wp_get (wp_bind (wp_modify (wp_pure ?_)))))))
  exact wp_bind ((wp_wait hJ _ _ h).mono fun _ _ h' => wp_pure h'.1)

/-- **`cancel_late_goals`** keeps what dropping a rejected request and cancelling an accepted one
keep. -/
theorem wp_cancelLateGoals (hJ : Stable J E B)
    (hdrop : ∀ w r, J w → w.answer r = some false → J (w.dropLate r))
    (hcancel : ∀ w r, J w → w.answer r = some true →
      J ((w.dropLate r).cancelled r .lateAccept))
    (h : J w) : wp cancelLateGoals (fun _ => J) E B w := by
  refine wp_bind (wp_get ?_)
  -- what was answered when the list was made stays answered
  let late := w.unanswered.filter fun r => (w.answer r).isSome
  let K : World G → Prop := fun w' => ∀ r ∈ late, w'.answer r ≠ none
  have hK : ∀ w w', Quiet w w' → K w → K w' := by
    intro w w' hq hw r hr
    rcases hq.answer r with he | ⟨hn, _⟩
    · rw [he]
      exact hw r hr
    · exact absurd hn (hw r hr)
  have hlate : wp (late.forM cancelLate) (fun _ w' => J w' ∧ K w') E B w := by
    refine wp_forM (fun r hr w hw => ?_) ⟨h, fun r hr => ?_⟩
    · refine wp_bind (wp_modify (wp_bind (wp_get ?_)))
      dsimp only
      cases ha : w.answer r with
      | none => exact absurd ha (hw.2 r hr)
      | some b =>
        cases b with
        | false => exact wp_pure ⟨hdrop w r hw.1 ha, hw.2⟩
        | true => exact wp_cancelAndWait (hJ.and hK) r _ ⟨hcancel w r hw.1 ha, hw.2⟩
    · exact Option.isSome_iff_ne_none.1 (List.mem_filter.1 hr).2
  exact hlate.mono fun _ _ hw => hw.1

end Mission
