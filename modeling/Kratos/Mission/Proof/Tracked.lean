import Mathlib.Data.List.Basic
import Kratos.Lib.Trace
import Kratos.Mission.Proof.Rules

/-!
# No goal is left behind

`Tracked a w`: every goal request the mission sent is settled, or the node holds on to it, in
`current_handle`, in `unanswered`, or in the `send_action` that is waiting for its answer (`a`).
Quiet steps keep it (`Tracked.quiet`) and so does each thing the script does to its handles
(`Tracked.send` to `Tracked.cancelCurrent`); `run` and `cleanup` follow method by method.

The one hole is a KeyboardInterrupt in `send_action`'s wait: the request is then in no field of
the node. `Undisturbed` says that none strikes there.
-/

namespace Mission

open Prog Trace

variable {G : Geometry} {w w' : World G} {a : Option GoalId} {g h : GoalId}

/-! ## Settled goals -/

/-- Rejected, ended with a result, preempted by a later goal, or sent a cancel. -/
def Settled (w : World G) (g : GoalId) : Prop :=
  w.phase g = .rejected ∨ (∃ s, w.phase g = .ended s) ∨ w.phase g = .preempted ∨ g ∈ w.cancels

theorem Settled.quiet (hq : Quiet w w') (hg : Settled w g) : Settled w' g := by
  have hm := hq.moves g
  rcases hg with hg | ⟨s, hg⟩ | hg | hg
  · rw [hg] at hm
    exact .inl hm.rejected
  · rw [hg] at hm
    exact .inr (.inl ⟨s, hm.ended⟩)
  · rw [hg] at hm
    rcases hm.preempted with hp | hp
    · exact .inr (.inr (.inl hp))
    · exact .inr (.inl hp)
  · exact .inr (.inr (.inr (by rw [hq.same.cancels]; exact hg)))

theorem settled_of_accepted (hg : (w.phase g).Accepted) (he : w.phase g ≠ .executing) :
    Settled w g := by
  cases hp : w.phase g with
  | requested => exact absurd hp hg.1
  | rejected => exact .inl hp
  | executing => exact absurd hp he
  | preempted => exact .inr (.inr (.inl hp))
  | ended s => exact .inr (.inl ⟨s, hp⟩)

/-! ## The invariant -/

/-- The request whose answer `send_action` is waiting for. -/
def awaiting : List (Entry G) → Option GoalId
  | [] => none
  | .sent g _ :: _ => some g
  | .outcome _ _ :: _ => none
  | _ :: tr => awaiting tr

/-- No KeyboardInterrupt has struck while `send_action` was waiting for an answer. -/
def Undisturbed (tr : List (Entry G)) : Prop :=
  Each (fun e pre => e = .interrupt → awaiting pre = none) tr

structure Tracked (a : Option GoalId) (w : World G) : Prop where
  awaiting : awaiting w.trace = a
  unsent : ∀ g, w.goals.length ≤ g → w.phase g = .requested
  accepted : ∀ g, w.answer g = some true → (w.phase g).Accepted
  rejected : ∀ g, w.answer g = some false → w.phase g = .rejected
  ended : ∀ g s, w.result g = some s → w.phase g = .ended s
  current : ∀ g, w.currentHandle = some g → (w.phase g).Accepted
  /-- Once the awaited goal is accepted, the tracked one no longer drives. -/
  replaced : ∀ g h, a = some g → (w.phase g).Accepted → w.currentHandle = some h → Settled w h
  known : ∀ g < w.goals.length,
    Settled w g ∨ g ∈ w.unanswered ∨ w.currentHandle = some g ∨ a = some g

theorem tracked_init : Tracked none ({} : World G) := by
  constructor <;> simp [Mission.awaiting]

theorem awaiting_quiet {e : Entry G} (he : e.quiet = true) (tr : List (Entry G)) :
    awaiting (e :: tr) = awaiting tr := by
  cases e <;> first | rfl | simp [Entry.quiet] at he

theorem Quiet.awaiting (hq : Quiet w w') : awaiting w'.trace = awaiting w.trace := by
  rcases hq.trace with ⟨_, ht | ⟨e, he, ht⟩⟩ | ⟨g, n, _, ht⟩
  · rw [ht]
  · rw [ht, awaiting_quiet he]
  · rw [ht]
    rfl

/-- **Waiting keeps it**, whatever Nav2 does meanwhile. -/
theorem Tracked.quiet (ht : Tracked a w) (hq : Quiet w w') : Tracked a w' where
  awaiting := by rw [hq.awaiting, ht.awaiting]
  unsent g hg := by
    rw [hq.same.goals] at hg
    exact hq.unsent hg (ht.unsent g hg)
  accepted g hg := by
    rcases hq.answer g with he | ⟨_, hr, hp, he⟩
    · exact (hq.moves g).accepted (ht.accepted g (he ▸ hg))
    · rw [hp]
      exact ⟨hr, by simpa using he.symm.trans hg⟩
  rejected g hg := by
    rcases hq.answer g with he | ⟨_, hr, hp, he⟩
    · exact ((ht.rejected g (he ▸ hg)) ▸ hq.moves g).rejected
    · rw [hp]
      simpa using he.symm.trans hg
  ended g s hg := by
    rcases hq.result g with he | ⟨s', _, hp, he⟩
    · exact ((ht.ended g s (he ▸ hg)) ▸ hq.moves g).ended
    · obtain rfl : s' = s := by simpa using he.symm.trans hg
      exact (hp ▸ hq.moves g).ended
  current g hg := by
    rw [hq.same.currentHandle] at hg
    exact (hq.moves g).accepted (ht.current g hg)
  replaced g h ha hg hh := by
    rw [hq.same.currentHandle] at hh
    by_cases hold : (w.phase g).Accepted
    · exact (ht.replaced g h ha hold hh).quiet hq
    · -- it is being accepted in this step, which preempts the tracked one
      obtain ⟨hreq, hexec⟩ := (hq.moves g).of_accepted hold hg
      have hne : h ≠ g := fun he => (ht.current h hh).1 (he ▸ hreq)
      exact settled_of_accepted ((hq.moves h).accepted (ht.current h hh))
        (hq.accepts hreq hexec hne)
  known g hg := by
    rw [hq.same.goals] at hg
    rw [hq.same.unanswered, hq.same.currentHandle]
    rcases ht.known g hg with hs | hu | hc | ha
    · exact .inl (hs.quiet hq)
    · exact .inr (.inl hu)
    · exact .inr (.inr (.inl hc))
    · exact .inr (.inr (.inr ha))

/-! ## What the script does to its handles -/

theorem Tracked.send (ht : Tracked none w) (msg : GoalMsg G) :
    Tracked (some w.goals.length) (w.sendGoal msg) where
  __ := ht
  awaiting := rfl
  unsent g hg := ht.unsent g (Nat.le_of_succ_le (by simpa [World.sendGoal] using hg))
  replaced g h hg hacc _ := by
    obtain rfl : w.goals.length = g := Option.some.inj hg
    exact absurd (ht.unsent _ le_rfl) hacc.1
  known g hg := by
    have hg' : g < w.goals.length ∨ g = w.goals.length := by
      rw [← Nat.lt_succ_iff_lt_or_eq]
      simpa [World.sendGoal] using hg
    rcases hg' with hg' | rfl
    · rcases ht.known g hg' with hs | hu | hc | ha
      · exact .inl hs
      · exact .inr (.inl hu)
      · exact .inr (.inr (.inl hc))
      · cases ha
    · exact .inr (.inr (.inr rfl))

theorem Tracked.timedOut (ht : Tracked (some g) w) : Tracked none (w.timedOut g) where
  __ := ht
  awaiting := rfl
  replaced := by simp
  known k hk := by
    rcases ht.known k hk with hs | hu | hc | ha
    · exact .inl hs
    · exact .inr (.inl (List.mem_append_left _ hu))
    · exact .inr (.inr (.inl hc))
    · obtain rfl : g = k := Option.some.inj ha
      exact .inr (.inl (List.mem_append_right _ List.mem_cons_self))

theorem Tracked.reject (ht : Tracked (some g) w) (hg : w.answer g = some false) :
    Tracked none (w.rejected g) where
  __ := ht
  awaiting := rfl
  replaced := by simp
  known k hk := by
    rcases ht.known k hk with hs | hu | hc | ha
    · exact .inl hs
    · exact .inr (.inl hu)
    · exact .inr (.inr (.inl hc))
    · obtain rfl : g = k := Option.some.inj ha
      exact .inl (.inl (ht.rejected g hg))

theorem Tracked.accept (ht : Tracked (some g) w) (hg : w.answer g = some true) :
    Tracked none (w.accepted g) where
  __ := ht
  awaiting := rfl
  current k hk := by
    obtain rfl : g = k := Option.some.inj hk
    exact ht.accepted g hg
  replaced := by simp
  known k hk := by
    rcases ht.known k hk with hs | hu | hc | ha
    · exact .inl hs
    · exact .inr (.inl hu)
    · exact .inl (ht.replaced g k rfl (ht.accepted g hg) hc)
    · obtain rfl : g = k := Option.some.inj ha
      exact .inr (.inr (.inl rfl))

/-- Forgetting the tracked goal once its result is there. -/
theorem Tracked.forget (ht : Tracked none w) {s : GoalStatus} (hc : w.currentHandle = some g)
    (hr : w.result g = some s) : Tracked none { w with currentHandle := none } where
  __ := ht
  current := by simp
  replaced := by simp
  known k hk := by
    rcases ht.known k hk with hs | hu | hk | ha
    · exact .inl hs
    · exact .inr (.inl hu)
    · obtain rfl : g = k := Option.some.inj (hc.symm.trans hk)
      exact .inl (.inr (.inl ⟨s, ht.ended g s hr⟩))
    · cases ha

/-- An entry that is no send and no outcome. -/
theorem Tracked.mark (ht : Tracked a w) {e : Entry G}
    (he : Mission.awaiting (e :: w.trace) = Mission.awaiting w.trace) : Tracked a (w.record e) where
  __ := ht
  awaiting := he.trans ht.awaiting

/-- A request leaves `unanswered` when it is settled. -/
theorem Tracked.drop (ht : Tracked none w) (hg : w.answer g = some false) :
    Tracked none (w.dropLate g) where
  __ := ht
  known k hk := by
    rcases ht.known k hk with hs | hu | hrest
    · exact .inl hs
    · by_cases hkg : k = g
      · exact .inl (.inl (hkg ▸ ht.rejected g hg))
      · exact .inr (.inl ((List.mem_erase_of_ne hkg).2 hu))
    · exact .inr (.inr hrest)

theorem Tracked.cancelLate (ht : Tracked none w) (m : LogMsg G) :
    Tracked none ((w.dropLate g).cancelled g m) where
  __ := ht
  replaced := by simp
  known k hk := by
    rcases ht.known k hk with hs | hu | hrest
    · exact .inl (hs.imp_right fun hs => hs.imp_right fun hs => hs.imp_right
        fun hs => List.mem_append_left _ hs)
    · by_cases hkg : k = g
      · exact .inl (.inr (.inr (.inr (hkg ▸ List.mem_append_right _ List.mem_cons_self))))
      · exact .inr (.inl ((List.mem_erase_of_ne hkg).2 hu))
    · exact .inr (.inr hrest)

theorem Tracked.cancelCurrent (ht : Tracked none w) (m : LogMsg G) :
    Tracked none (w.cancelled g m) where
  __ := ht
  replaced := by simp
  known k hk := by
    rcases ht.known k hk with hs | hrest
    · exact .inl (hs.imp_right fun hs => hs.imp_right fun hs => hs.imp_right
        fun hs => List.mem_append_left _ hs)
    · exact .inr hrest

/-! ## The methods keep it -/

section Methods

variable (p : Params G)

/-- `Tracked`, in runs that no interrupt has spoiled. -/
def Held (a : Option GoalId) (w : World G) : Prop := Undisturbed w.trace → Tracked a w

/-- What is left when a method raises. -/
def Dropped (_ : PyErr) (w : World G) : Prop := Held none w

theorem Quiet.undisturbed (hq : Quiet w w') (hu : Undisturbed w'.trace) :
    Undisturbed w.trace := by
  rcases hq.trace with ⟨_, ht | ⟨e, _, ht⟩⟩ | ⟨g, n, _, ht⟩
  · rwa [ht] at hu
  · rw [ht] at hu
    exact hu.2
  · rw [ht] at hu
    exact hu.2

theorem held_stable (a : Option GoalId) :
    Stable (G := G) (Held a) Dropped (fun _ => True) where
  quiet _ _ hq h hu := (h (hq.undisturbed hu)).quiet hq
  interrupt w h hu := by
    have ht := h hu.2
    obtain rfl : none = a := (hu.1 rfl).symm.trans ht.awaiting
    exact ht.mark rfl
  blocked _ _ := trivial

/-- While a goal is tracked. -/
def Tracks (h : Option GoalId) (w : World G) : Prop := w.currentHandle = h

theorem held_tracks_stable (a h : Option GoalId) :
    Stable (G := G) (fun w => Held a w ∧ Tracks h w) Dropped (fun _ => True) :=
  (held_stable a).and fun _ _ hq hw => hq.same.currentHandle.trans hw

theorem held_sweep {h : Option GoalId} (hw : Held none w ∧ Tracks h w) :
    wp sweep (fun _ w => Held none w ∧ Tracks h w) Dropped (fun _ => True) w := by
  refine wp_sweep (held_tracks_stable none h) (fun w r hw hr => ?_) (fun w r hw _ => ?_) hw
  · exact ⟨fun hu => (hw.1 hu).drop hr, hw.2⟩
  · exact ⟨fun hu => (hw.1 hu.2.2).cancelLate _, hw.2⟩

/-- The goal returned is the goal tracked; without one the old goal stays. -/
theorem held_sendAction {h : Option GoalId} (msg : GoalMsg G) (hw : Held none w ∧ Tracks h w) :
    wp (sendAction msg)
      (fun r w => Held none w ∧ Tracks (r.elim h fun r => some r.2) w) Dropped (fun _ => True)
      w := by
  refine wp_sendAction (held_tracks_stable (some w.goals.length) h) msg ?_ ?_ ?_ ?_
  · exact ⟨fun hu => (hw.1 hu.2).send msg, hw.2⟩
  · exact fun w' hw' _ => ⟨fun hu => (hw'.1 hu.2.2).timedOut, hw'.2⟩
  · exact fun w' hw' ha => ⟨fun hu => (hw'.1 hu.2.2).reject ha, hw'.2⟩
  · exact fun w' hw' ha => ⟨fun hu => (hw'.1 hu.2).accept ha, rfl⟩

theorem held_sendThrough {h : Option GoalId} (goals : List (PoseStamped G))
    (hw : Held none w ∧ Tracks h w) :
    wp (sendThrough goals)
      (fun r w => Held none w ∧ Tracks (r.elim h fun r => some r.2) w) Dropped (fun _ => True)
      w := by
  refine wp_bind (wp_modify (held_sendAction _ ⟨fun hu => ?_, hw.2⟩))
  exact { hw.1 hu with }

theorem held_log {m : LogMsg G} (hw : Held none w) : Held none (w.record (.log m)) :=
  fun hu => (hw hu.2).mark rfl

/-- The tracked goal is forgotten only with its result. -/
theorem held_forget {s : GoalStatus} (hw : Held none w ∧ Tracks (some g) w)
    (hr : w.result g = some s) : Held none w.forget :=
  fun hu => (hw.1 hu).forget hw.2 hr

theorem held_goTo_refresh (name : String) (l : goTo.Vars G)
    (hw : Held none w ∧ Tracks (some l.resultFuture) w) :
    wp (goTo.refresh p name l)
      (turnPost (fun l w => Held none w ∧ Tracks (some l.resultFuture) w) fun _ => Held none)
      Dropped (fun _ => True) w := by
  rw [goTo.refresh_eq]
  refine wp_bind ((wp_resolve p (held_tracks_stable none _) name hw).mono fun fresh w hw => ?_)
  refine wp_decide_goTo (fun _ => hw.1) fun goal _ _ => ?_
  refine (held_sendAction _ ⟨held_log hw.1.1, hw.1.2⟩).mono fun r w hw => ?_
  cases r <;> exact hw

theorem held_goTo_turn (name : String) (l : goTo.Vars G)
    (hw : Held none w ∧ Tracks (some l.resultFuture) w) :
    wp (goTo.turn p name l)
      (turnPost (fun l w => Held none w ∧ Tracks (some l.resultFuture) w) fun _ => Held none)
      Dropped (fun _ => True) w := by
  refine wp_turn_goTo (fun _ => hw.1) (fun _ => held_sweep hw) (fun w hw hr => ?_)
    (fun w status hw hr _ => ?_) (fun w hw _ _ => ?_) fun _ hw _ => hw
  · exact held_log (held_forget hw hr)
  · exact held_log (held_forget hw hr)
  · exact held_goTo_refresh p name _ hw

theorem held_goTo (name : String) (hw : Held none w) :
    wp (goTo p name) (fun _ => Held none) Dropped (fun _ => True) w := by
  have hres := wp_resolveWithWait p (held_tracks_stable none w.currentHandle) name ⟨hw, rfl⟩
  refine wp_bind (hres.mono fun r w' hw => ?_)
  cases r with
  | none => exact wp_bind (wp_log (wp_pure (held_log hw.1.1)))
  | some goal =>
    refine wp_bind (wp_log (wp_bind ?_))
    refine (held_sendAction _ ⟨held_log hw.1.1, hw.1.2⟩).mono fun r w hw => ?_
    cases r with
    | none => exact wp_pure hw.1
    | some r =>
      refine wp_bind (wp_get ?_)
      exact wp_loop (fun (l : goTo.Vars G) w => Held none w ∧ Tracks (some l.resultFuture) w)
        (fun l w hw => held_goTo_turn p name l hw) (fun _ _ _ => trivial) hw

theorem held_resolveRoute (names : List String) (hw : Held none w) :
    wp (resolveRoute p names) (fun _ => Held none) Dropped (fun _ => True) w :=
  (wp_resolveRoute p (held_stable none) names hw).mono fun _ _ h => h.1

theorem held_logReached {h : Option GoalId} (ns : List String) (hw : Held none w ∧ Tracks h w) :
    Held none (w.logReached ns) ∧ Tracks h (w.logReached ns) :=
  logReached_inv (J := fun w => Held none w ∧ Tracks h w) (fun _ _ hw => ⟨held_log hw.1, hw.2⟩) ns hw

theorem held_goThrough_sweep (l : goThrough.Vars G)
    (hw : Held none w ∧ Tracks (some l.resultFuture) w) :
    wp (goThrough.sweep l) (fun l w => Held none w ∧ Tracks (some l.resultFuture) w) Dropped
      (fun _ => True) w := by
  refine wp_bind ((held_sweep hw).mono fun _ w hw => wp_update (fun _ => hw) fun q _ => ?_)
  have hread : Held none (w.record (.read q)) ∧ Tracks (some l.resultFuture) (w.record (.read q)) :=
    ⟨fun hu => (hw.1 hu.2).mark rfl, hw.2⟩
  exact held_logReached _ hread

theorem held_goThrough_refresh (l : goThrough.Vars G)
    (hw : Held none w ∧ Tracks (some l.resultFuture) w) :
    wp (goThrough.refresh p l)
      (turnPost (fun l w => Held none w ∧ Tracks (some l.resultFuture) w) fun _ => Held none)
      Dropped (fun _ => True) w := by
  rw [goThrough.refresh_eq]
  refine wp_bind ((wp_resolveAhead p (held_tracks_stable none _) _ hw).mono fun fresh w hw => ?_)
  refine wp_decide_goThrough (fun _ => hw.1) (fun _ _ _ => hw.1.1) (fun _ _ _ _ _ => hw.1)
    fun route d _ _ _ => ?_
  refine (held_sendThrough _ ⟨held_log hw.1.1, hw.1.2⟩).mono fun r w hw => ?_
  cases r <;> exact hw

theorem held_goThrough_turn (l : goThrough.Vars G)
    (hw : Held none w ∧ Tracks (some l.resultFuture) w) :
    wp (goThrough.turn p l)
      (turnPost (fun l w => Held none w ∧ Tracks (some l.resultFuture) w) fun _ => Held none)
      Dropped (fun _ => True) w := by
  refine wp_turn_goThrough (fun _ => hw.1) (fun _ => held_goThrough_sweep l hw)
    (fun l w hw hr => ?_) (fun l w status hw hr _ => ?_) (fun l w hw _ _ => ?_)
    fun _ _ hw _ => hw
  · exact (held_logReached (h := none) _ ⟨held_forget hw hr, rfl⟩).1
  · exact held_log (held_forget hw hr)
  · exact held_goThrough_refresh p _ hw

theorem held_goThrough (names : List String) (hw : Held none w) :
    wp (goThrough p names) (fun _ => Held none) Dropped (fun _ => True) w := by
  refine wp_bind ((held_resolveRoute p names hw).mono fun r w hw => ?_)
  cases r with
  | none => exact wp_pure hw
  | some goals =>
    refine wp_bind (wp_log (wp_bind ?_))
    refine (held_sendThrough (h := w.currentHandle) _ ⟨held_log hw, rfl⟩).mono fun r w hw => ?_
    cases r with
    | none => exact wp_pure hw.1
    | some r =>
      refine wp_bind (wp_get ?_)
      exact wp_loop (fun (l : goThrough.Vars G) w => Held none w ∧ Tracks (some l.resultFuture) w)
        (fun l w hw => held_goThrough_turn p l hw) (fun _ _ _ => trivial) hw

theorem held_visitAll (names : List String) (hw : Held none w) :
    wp (visitAll p names) (fun _ => Held none) Dropped (fun _ => True) w := by
  induction names generalizing w with
  | nil => exact wp_pure hw
  | cons name names ih =>
    have hstart : Held none (w.record (.goTo name)) := fun hu => (hw hu.2).mark rfl
    refine wp_bind (wp_modify (wp_bind ((held_goTo p name hstart).mono fun ok w hw => ?_)))
    refine wp_bind (wp_modify ?_)
    have hw' : Held none (w.record (.returned ok)) := fun hu => (hw hu.2).mark rfl
    split
    · exact ih hw'
    · split
      · exact wp_pure hw'
      · exact wp_bind ((ih hw').mono fun _ _ h => wp_pure h)

theorem held_drive (names : List String) (hw : Held none w) :
    wp (drive p names) (fun _ => Held none) Dropped (fun _ => True) w := by
  have hfinish : ∀ failed (w : World G), Held none w →
      wp (finish failed) (fun _ => Held none) Dropped (fun _ => True) w := by
    intro failed w hw
    unfold finish
    split <;> exact wp_bind (wp_log (wp_pure (held_log hw)))
  refine wp_bind (wp_log ?_)
  split
  · exact wp_bind ((held_goThrough p names (held_log hw)).mono (hfinish · · ·))
  · exact wp_bind ((held_visitAll p names (held_log hw)).mono (hfinish · · ·))

theorem held_run (hw : Held none w) :
    wp (run p) (fun _ => Held none) Dropped (fun _ => True) w :=
  wp_run p (held_stable none) (fun _ _ _ hw => held_log hw)
    (fun names _ _ hw => held_drive p names hw) hw

end Methods

/-! ## Cleanup -/

/-- What `cleanup` starts with: the tracked goal is being cancelled. -/
def Cancelled (w : World G) : Prop := ∀ g, w.currentHandle = some g → g ∈ w.cancels

theorem held_cancelled_stable :
    Stable (G := G) (fun w => Held none w ∧ Cancelled w) Dropped (fun _ => True) := by
  refine (held_stable none).and fun w w' hq hw g hg => ?_
  rw [hq.same.currentHandle] at hg
  rw [hq.same.cancels]
  exact hw g hg

theorem held_cancelCurrent (hw : Held none w) :
    wp cancelCurrent (fun _ w => Held none w ∧ Cancelled w) Dropped (fun _ => True) w := by
  refine wp_bind (wp_get ?_)
  cases hc : w.currentHandle with
  | none =>
    refine wp_pure ⟨hw, fun g hg => ?_⟩
    rw [hc] at hg
    cases hg
  | some g =>
    refine wp_cancelAndWait held_cancelled_stable g _ ⟨fun hu => ?_, fun k hk => ?_⟩
    · exact (hw hu.2.2).cancelCurrent _
    · obtain rfl : g = k := Option.some.inj (hc.symm.trans hk)
      exact List.mem_append_right _ List.mem_cons_self

theorem cancelled_cancelLateGoals (hw : Held none w ∧ Cancelled w) :
    wp cancelLateGoals (fun _ w => Held none w ∧ Cancelled w) Dropped (fun _ => True) w := by
  refine wp_cancelLateGoals held_cancelled_stable (fun w r hw hr => ?_) (fun w r hw _ => ?_) hw
  · exact ⟨fun hu => (hw.1 hu).drop hr, hw.2⟩
  · exact ⟨fun hu => (hw.1 hu.2.2).cancelLate _,
      fun g hg => List.mem_append_left _ (hw.2 g hg)⟩

/-- Cancelled, reported, or over. -/
def Accounted (w : World G) (g : GoalId) : Prop :=
  Settled w g ∨ g ∈ w.unanswered ∧ .log .neverAnswered ∈ w.trace

theorem Tracked.accounted (ht : Tracked none w) (hc : Cancelled w) (hg : g < w.goals.length) :
    Settled w g ∨ g ∈ w.unanswered := by
  rcases ht.known g hg with hs | hu | hk | ha
  · exact .inl hs
  · exact .inr hu
  · exact .inl (.inr (.inr (.inr (hc g hk))))
  · cases ha

theorem held_cleanup (hw : Held none w) :
    wp cleanup (fun _ w => Undisturbed w.trace → ∀ g < w.goals.length, Accounted w g)
      Dropped (fun _ => True) w := by
  refine wp_bind ((held_cancelCurrent hw).mono fun _ w hw => wp_bind (wp_get (wp_bind ?_)))
  have hturn : ∀ (deadline : Int) (u : Unit) (w : World G), Held none w ∧ Cancelled w →
      wp (cleanup.turn deadline u)
        (turnPost (fun _ w => Held none w ∧ Cancelled w) fun _ w => Held none w ∧ Cancelled w)
        Dropped (fun _ => True) w := by
    intro deadline u w hw
    refine wp_bind (wp_get ?_)
    split
    · refine wp_bind ((wp_spinOnce held_cancelled_stable hw).mono fun _ w hw => ?_)
      exact wp_bind ((cancelled_cancelLateGoals hw).mono fun _ _ h => wp_pure h)
    · exact wp_pure hw
  have hloop : wp (loop (cleanup.turn (w.now + 5 * second)) ())
      (fun _ w => Held none w ∧ Cancelled w) Dropped (fun _ => True) w :=
    wp_loop (fun _ w => Held none w ∧ Cancelled w) (hturn _) (fun _ _ _ => trivial) hw
  refine hloop.mono fun _ w hw => wp_bind (wp_get ?_)
  split
  · rename_i hempty
    refine wp_pure fun hu g hg => .inl (((hw.1 hu).accounted hw.2 hg).resolve_right ?_)
    rw [List.isEmpty_iff.1 hempty]
    exact List.not_mem_nil
  · refine wp_log fun hu g hg => ?_
    exact ((hw.1 hu.2).accounted hw.2 hg).imp_right fun hmem => ⟨hmem, List.mem_cons_self⟩

theorem held_session (p : Params G) (hw : Held none w) :
    wp (session p) (fun _ w => Undisturbed w.trace → ∀ g < w.goals.length, Accounted w g)
      Dropped (fun _ => True) w := by
  have hrun : wp (attempt (run p)) (fun _ => Held none) Dropped (fun _ => True) w :=
    wp_attempt (held_run p hw)
  refine wp_bind (hrun.mono fun _ w hw => ?_)
  exact wp_bind ((held_cleanup hw).mono fun _ _ h => wp_pure h)

/-- **Once cleanup has returned, every goal request is settled or reported**, if no
KeyboardInterrupt struck while `send_action` was waiting for Nav2's answer. -/
theorem session_accounts (p : Params G) (ins rest : List (Tick G)) (rc : Except PyErr Int)
    (w : World G) (hr : (session p).run ins {} = .ret rc rest w) (hu : Undisturbed w.trace) :
    ∀ g < w.goals.length, Accounted w g :=
  (held_session p fun _ => tracked_init).ret hr hu

/-! Ctrl+C while driving, and while the request is on its way. -/

def oneWaypoint : Params .line := { waypoints := ["wp1"], replanThreshold := (1 : Nat) }

/-- Nav2 is up and GLIM answers; the goal goes out. -/
def untilSent : List (Tick .line) :=
  [{}, {}, { events := [.transform (0 : Int), .waypoint 0 ⟨true, "map", (7 : Int)⟩] }]

def ctrlCDriving : List (Tick .line) :=
  untilSent ++ [{ events := [.accept 0, .answer 0] }, { interrupt := true },
    { events := [.cancelResponse 0] }]

theorem session_accounts_driving :
    let w := ((session oneWaypoint).run ctrlCDriving {}).state
    w.goals.length = 1 ∧ ∀ g < w.goals.length, Accounted w g := by
  refine ⟨rfl, session_accounts oneWaypoint ctrlCDriving [] (.error .keyboardInterrupt) _ rfl ?_⟩
  exact ⟨nofun, nofun, fun _ => rfl, nofun, nofun, nofun, nofun, nofun, nofun, trivial⟩

def ctrlCSending : List (Tick .line) :=
  untilSent ++ [{ events := [.accept 0], interrupt := true }]

/-- Nav2 accepts the request after all, and nobody cancels it. -/
theorem session_loses_request :
    let w := ((session oneWaypoint).run ctrlCSending {}).state
    (session oneWaypoint).run ctrlCSending {} = .ret (.error .keyboardInterrupt) [] w ∧
      w.goals.length = 1 ∧ w.phase 0 = .executing ∧ w.unanswered = [] ∧ ¬ Accounted w 0 := by
  refine ⟨rfl, rfl, rfl, rfl, ?_⟩
  rintro ((h | ⟨s, h⟩ | h | h) | ⟨h, -⟩)
  all_goals cases h

end Mission
