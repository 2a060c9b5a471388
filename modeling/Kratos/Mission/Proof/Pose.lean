import Kratos.Mission.Proof.Tracked
import Kratos.Mission.Proof.Visits

/-!
# The verdict in mode pose

`go_to` returns true iff the goal it tracks has ended SUCCEEDED (`Verdict`, `pose_goTo`), so the
loop over the names knows which visits reached their waypoint (`pose_visitAll`) and `run` returns
0 iff all of them did (`run_pose`). `Sound` is what this needs of the world beside the trace: a
result that was delivered is Nav2's, and the verdicts given stand.
-/

namespace Mission

open Prog Trace

variable {G : Geometry} {w w' : World G}

/-! ## Verdicts -/

/-- `ok` says whether the tracked goal `t` has ended SUCCEEDED; it has ended. -/
def Verdict (w : World G) (t : Option GoalId) (ok : Bool) : Prop :=
  match t with
  | none => ok = false
  | some g => ∃ s, w.phase g = .ended s ∧ (ok = true ↔ s = .succeeded)

/-- The visit's tracked goal has ended SUCCEEDED. -/
def Reached (w : World G) (v : Visit G) : Prop :=
  ∃ g, trackedGoal v.body = some g ∧ w.phase g = .ended .succeeded

theorem Verdict.reached_iff {v : Visit G} {ok : Bool} (h : Verdict w (trackedGoal v.body) ok) :
    Reached w v ↔ ok = true := by
  unfold Reached
  cases ht : trackedGoal v.body with
  | none =>
    rw [ht] at h
    simp [show ok = false from h]
  | some g =>
    rw [ht] at h
    obtain ⟨s, hs, hok⟩ := h
    rw [hok]
    constructor
    · rintro ⟨k, hk, hp⟩
      obtain rfl : g = k := Option.some.inj hk
      simpa [hs] using hp
    · rintro rfl
      exact ⟨g, rfl, hs⟩

/-- What the verdicts rest on. -/
structure Sound (past : List (Visit G)) (w : World G) : Prop where
  ok : w.ok = true
  ended : ∀ g s, w.result g = some s → w.phase g = .ended s
  judged : ∀ v ∈ past, ∃ ok, returned v.body = some ok ∧ Verdict w (trackedGoal v.body) ok

variable {past : List (Visit G)}

theorem Verdict.quiet {t : Option GoalId} {ok : Bool} (h : Verdict w t ok) (hq : Quiet w w') :
    Verdict w' t ok := by
  cases t with
  | none => exact h
  | some g =>
    obtain ⟨s, hs, hok⟩ := h
    exact ⟨s, (hs ▸ hq.moves g).ended, hok⟩

theorem Sound.quiet (h : Sound past w) (hq : Quiet w w') : Sound past w' where
  ok := hq.same.ok.trans h.ok
  ended g s hg := by
    rcases hq.result g with he | ⟨s', _, hp, he⟩
    · exact ((h.ended g s (he ▸ hg)) ▸ hq.moves g).ended
    · obtain rfl : s' = s := by simpa using he.symm.trans hg
      exact (hp ▸ hq.moves g).ended
  judged v hv := by
    obtain ⟨ok, hr, hok⟩ := h.judged v hv
    exact ⟨ok, hr, hok.quiet hq⟩

/-! ## During one visit -/

section Visit

variable {stop : Bool} {names : List String} {name : String} {t : Option GoalId}

def Visiting (stop : Bool) (names : List String) (name : String) (past : List (Visit G))
    (t : Option GoalId) (w : World G) : Prop :=
  Sound past w ∧ OnVisit stop names name past t w.trace

/-- However a run ends, it was orderly. -/
def Tidy (stop : Bool) (w : World G) : Prop := Orderly stop w.trace

theorem onVisit_quiet (h : OnVisit stop names name past t w.trace) (hq : Quiet w w') :
    OnVisit stop names name past t w'.trace := by
  rcases hq.trace with ⟨_, ht | ⟨e, he, ht⟩⟩ | ⟨g, n, _, ht⟩
  · rwa [ht]
  · rw [ht]
    exact h.plain (plain_of_quiet he)
  · rw [ht]
    exact h.plain rfl

theorem visiting_stable :
    Stable (Visiting (G := G) stop names name past t) (fun _ => Tidy stop) (Tidy stop) where
  quiet _ _ hq h := ⟨h.1.quiet hq, onVisit_quiet h.2 hq⟩
  interrupt _ h := h.2.orderly.plain rfl
  blocked _ h := h.2.orderly

theorem Visiting.log (h : Visiting stop names name past t w) {m : LogMsg G}
    (hm : (Entry.log m).plain = true) : Visiting stop names name past t (w.record (.log m)) :=
  ⟨⟨h.1.ok, h.1.ended, h.1.judged⟩, h.2.plain hm⟩

/-- The tracked goal changes to the one returned, if any. -/
theorem visiting_send {goal : PoseStamped G} (h : Visiting stop names name past t w)
    (hg : ResolvedHere goal w.trace) :
    wp (send goal) (fun r => Visiting stop names name past (r.elim t fun r => some r.2))
      (fun _ => Tidy stop) (Tidy stop) w := by
  have hstable : Stable (Visiting stop names name past t) (fun _ => Tidy stop) (Tidy stop) :=
    visiting_stable (G := G)
  refine wp_sendAction hstable _ ?_ ?_ ?_ ?_
  · exact ⟨⟨h.1.ok, h.1.ended, h.1.judged⟩, h.2.send hg _⟩
  · exact fun w' h' _ => ⟨⟨h'.1.ok, h'.1.ended, h'.1.judged⟩, (h'.2.plain rfl).plain rfl⟩
  · exact fun w' h' _ => ⟨⟨h'.1.ok, h'.1.ended, h'.1.judged⟩, (h'.2.plain rfl).plain rfl⟩
  · exact fun w' h' _ => ⟨⟨h'.1.ok, h'.1.ended, h'.1.judged⟩, h'.2.accept _⟩

theorem visiting_sweep (h : Visiting stop names name past t w) :
    wp sweep (fun _ => Visiting stop names name past t) (fun _ => Tidy stop) (Tidy stop) w := by
  refine wp_sweep visiting_stable (fun w r h _ => ?_) (fun w r h _ => ?_) h
  · exact ⟨⟨h.1.ok, h.1.ended, h.1.judged⟩, h.2⟩
  · exact ⟨⟨h.1.ok, h.1.ended, h.1.judged⟩, (h.2.plain rfl).plain rfl⟩

/-- `go_to` has come to its verdict. -/
def Judged (stop : Bool) (names : List String) (name : String) (past : List (Visit G))
    (ok : Bool) (w : World G) : Prop :=
  ∃ t, Visiting stop names name past t w ∧ Verdict w t ok

variable (p : Params G)

theorem visiting_refresh (l : goTo.Vars G)
    (h : Visiting stop names name past (some l.resultFuture) w) :
    wp (goTo.refresh p name l)
      (turnPost (fun l => Visiting stop names name past (some l.resultFuture))
        (Judged stop names name past))
      (fun _ => Tidy stop) (Tidy stop) w := by
  rw [goTo.refresh_eq]
  refine wp_bind ((wp_resolve p visiting_stable name h).mono fun fresh w h => ?_)
  obtain ⟨h, hr⟩ := h
  refine wp_decide_goTo (fun _ => h) fun goal hgoal _ => ?_
  obtain ⟨w, -, rfl⟩ := hr goal hgoal
  have hhere := h.2.resolvedHere
  refine (visiting_send (h.log rfl) (hhere.plain rfl)).mono fun r w h => ?_
  cases r <;> exact h

theorem visiting_turn (l : goTo.Vars G)
    (h : Visiting stop names name past (some l.resultFuture) w) :
    wp (goTo.turn p name l)
      (turnPost (fun l => Visiting stop names name past (some l.resultFuture))
        (Judged stop names name past))
      (fun _ => Tidy stop) (Tidy stop) w := by
  have hforget : ∀ w m, (Entry.log m).plain = true →
      Visiting stop names name past (some l.resultFuture) w →
      Visiting stop names name past (some l.resultFuture) (w.forget.record (.log m)) :=
    fun w m hm h => Visiting.log (w := w.forget) ⟨⟨h.1.ok, h.1.ended, h.1.judged⟩, h.2⟩ hm
  refine wp_turn_goTo (fun hok => ?_) (fun _ => visiting_sweep h) (fun w h hr => ?_)
    (fun w status h hr hs => ?_) (fun w h _ _ => visiting_refresh p _ h) fun _ h _ => h
  · exact absurd (h.1.ok.symm.trans hok) (by simp)
  · exact ⟨_, hforget w _ rfl h, _, h.1.ended _ _ hr, by simp⟩
  · exact ⟨_, hforget w _ rfl h, _, h.1.ended _ _ hr, by simp [hs]⟩

/-- **`go_to` returns true iff the goal it tracks has ended SUCCEEDED.** -/
theorem pose_goTo (h : Visiting stop names name past none w) :
    wp (goTo p name) (Judged stop names name past) (fun _ => Tidy stop) (Tidy stop) w := by
  refine wp_bind ((wp_resolveWithWait p visiting_stable name h).mono fun r w h => ?_)
  obtain ⟨h, hr⟩ := h
  cases r with
  | none => exact wp_bind (wp_log (wp_pure ⟨none, h.log rfl, rfl⟩))
  | some goal =>
    obtain ⟨w, -, rfl⟩ := hr goal rfl
    have hhere := h.2.resolvedHere
    refine wp_bind (wp_log (wp_bind ?_))
    refine (visiting_send (h.log rfl) (hhere.plain rfl)).mono fun r w h => ?_
    cases r with
    | none => exact wp_pure ⟨none, h, rfl⟩
    | some r =>
      refine wp_bind (wp_get ?_)
      exact wp_loop (fun (l : goTo.Vars G) => Visiting stop names name past (some l.resultFuture))
        (fun l w h => visiting_turn p l h) (fun _ _ h => h.2.orderly) h

end Visit

/-! ## All visits -/

section Run

variable (p : Params G) {stop : Bool} {names rest : List String}

/-- `visitAll` has gone through `rest`, or through the part of it before a stop. -/
structure Toured (stop : Bool) (names : List String) (past : List (Visit G))
    (rest failed : List String) (w : World G) (vs : List (Visit G)) : Prop where
  visits : visits w.trace = vs ++ past
  sound : Sound (vs ++ past) w
  orderly : Orderly stop w.trace
  mission : missionNames w.trace = some names
  verdict : failed = [] ↔
    vs.reverse.map (·.name) = rest ∧ ∀ v ∈ vs, returned v.body = some true

/-- The visit `v` has just returned `ok` and joins those before it. -/
structure Returned (stop : Bool) (names : List String) (past : List (Visit G)) (ok : Bool)
    (w : World G) (v : Visit G) : Prop where
  returned : returned v.body = some ok
  visits : visits w.trace = v :: past
  sound : Sound (v :: past) w
  orderly : Orderly stop w.trace
  mission : missionNames w.trace = some names
  between : (stop = true → ok = true) → Between stop names (v :: past) w.trace

theorem Judged.returned {name : String} {ok : Bool} (h : Judged stop names name past ok w) :
    ∃ v, v.name = name ∧ Returned stop names past ok (w.record (.returned ok)) v := by
  obtain ⟨t, ⟨hs, hv⟩, hok⟩ := h
  obtain ⟨body, hvis, ht, ho⟩ := hv.return ok
  refine ⟨_, rfl, rfl, hvis, ⟨hs.ok, hs.ended, fun v hmem => ?_⟩, ho, hv.mission, fun hstop => ?_⟩
  · rcases List.mem_cons.1 hmem with rfl | hmem
    · refine ⟨ok, rfl, ?_⟩
      show Verdict w (trackedGoal body) ok
      rw [ht]
      exact hok
    · exact hs.judged v hmem
  · refine hv.between hstop hvis rfl (fun v hmem => ?_) ho
    obtain ⟨ok', hr, -⟩ := hs.judged v hmem
    simp [hr]

variable {v : Visit G} {vs : List (Visit G)} {failed : List String}

theorem Toured.cons (h : Toured stop names (v :: past) rest failed w vs)
    (hr : returned v.body = some true) :
    Toured stop names past (v.name :: rest) failed w (vs ++ [v]) where
  visits := by simpa using h.visits
  sound := by simpa using h.sound
  orderly := h.orderly
  mission := h.mission
  verdict := by
    rw [h.verdict]
    simp [hr, or_imp, forall_and]

/-- A failed visit makes the mission fail, whatever the others do. -/
theorem Toured.fail (h : Toured stop names (v :: past) rest failed w vs)
    (hr : returned v.body = some false) {failed' : List String} (hne : failed' ≠ []) :
    Toured stop names past (v.name :: rest) failed' w (vs ++ [v]) where
  visits := by simpa using h.visits
  sound := by simpa using h.sound
  orderly := h.orderly
  mission := h.mission
  verdict := by simp [hr, hne, or_imp, forall_and]

theorem Returned.stopped (h : Returned stop names past false w v) (hne : failed ≠ []) :
    Toured stop names past (v.name :: rest) failed w [v] where
  visits := by simpa using h.visits
  sound := by simpa using h.sound
  orderly := h.orderly
  mission := h.mission
  verdict := by simp [h.returned, hne]

theorem pose_visitAll (hnames : past.reverse.map (·.name) ++ rest = names)
    (hs : Sound past w) (hb : Between p.stopOnFailure names past w.trace) :
    wp (visitAll p rest)
      (fun failed w => ∃ vs, Toured p.stopOnFailure names past rest failed w vs)
      (fun _ => Tidy p.stopOnFailure) (Tidy p.stopOnFailure) w := by
  induction rest generalizing past w with
  | nil =>
    exact wp_pure ⟨[], by simpa using hb.visits, by simpa using hs, hb.orderly, hb.mission,
      by simp⟩
  | cons name rest ih =>
    have hpre : past.reverse.map (·.name) ++ [name] <+: names := ⟨rest, by simpa using hnames⟩
    have hstart : Visiting p.stopOnFailure names name past none (w.record (.goTo name)) :=
      ⟨⟨hs.ok, hs.ended, hs.judged⟩, hb.start hpre⟩
    refine wp_bind (wp_modify (wp_bind ((pose_goTo p hstart).mono fun ok w h => ?_)))
    refine wp_bind (wp_modify ?_)
    obtain ⟨v, rfl, hv⟩ := h.returned
    have hnames' : (v :: past).reverse.map (·.name) ++ rest = names := by simpa using hnames
    cases ok with
    | true =>
      refine (ih hnames' hv.sound (hv.between fun _ => rfl)).mono fun _ _ h => ?_
      obtain ⟨vs, h⟩ := h
      exact ⟨_, h.cons hv.returned⟩
    | false =>
      rw [if_neg (by simp)]
      split
      · exact wp_pure ⟨_, hv.stopped (by simp)⟩
      · rename_i hstop
        refine wp_bind ((ih hnames' hv.sound (hv.between fun h => absurd h hstop)).mono
          fun _ _ h => wp_pure ?_)
        obtain ⟨vs, h⟩ := h
        exact ⟨_, h.fail hv.returned (by simp)⟩

/-! ## The exit code -/

/-- Every name of the mission's list was visited, in order, and reached. -/
def AllReached (w : World G) : Prop :=
  ∃ names, names ≠ [] ∧ missionNames w.trace = some names ∧
    (visits w.trace).reverse.map (·.name) = names ∧ ∀ v ∈ visits w.trace, Reached w v

/-- What a run in mode pose comes to. -/
def PoseVerdict (stop : Bool) (rc : Int) (w : World G) : Prop :=
  Orderly stop w.trace ∧ (rc = 0 ↔ AllReached w)

theorem reached_plain {tr : List (Entry G)} {e : Entry G} (he : e.plain = true) :
    (∀ v ∈ visits (e :: tr), Reached w v) ↔ ∀ v ∈ visits tr, Reached w v := by
  cases hv : visits tr with
  | nil => rw [visits_cons_nil hv (plain_ne_goTo he)]
  | cons v past =>
    rw [visits_cons hv (plain_ne_goTo he)]
    simp only [List.forall_mem_cons, Reached, trackedGoal_plain he]

theorem allReached_log {m : LogMsg G} (hm : (Entry.log m).plain = true) :
    AllReached (w.record (.log m)) ↔ AllReached w := by
  have hnames : (visits (.log m :: w.trace)).reverse.map (·.name) =
      (visits w.trace).reverse.map (·.name) := by
    rw [List.map_reverse, (visits_plain hm).2, ← List.map_reverse]
  have hreached : (∀ v ∈ visits (.log m :: w.trace), Reached (w.record (.log m)) v) ↔
      ∀ v ∈ visits w.trace, Reached w v := reached_plain hm
  refine exists_congr fun names => and_congr_right fun _ => ?_
  refine and_congr (iff_of_eq ?_) (and_congr (iff_of_eq ?_) hreached)
  · exact congrArg (· = some names) (missionNames_plain hm)
  · exact congrArg (· = names) hnames

theorem pose_finish (hne : names ≠ []) (h : Toured stop names [] names failed w vs) :
    wp (finish failed) (PoseVerdict stop) (fun _ => Tidy stop) (Tidy stop) w := by
  obtain ⟨hv, hs, ho, hm, hf⟩ := h
  rw [List.append_nil] at hv hs
  have hiff : failed = [] ↔ AllReached w := by
    rw [hf]
    have hjudged : ∀ v ∈ vs, (returned v.body = some true ↔ Reached w v) := by
      intro v hmem
      obtain ⟨ok, hr, hok⟩ := hs.judged v hmem
      rw [hok.reached_iff, hr, Option.some.injEq]
    refine ⟨?_, fun h => ?_⟩
    · exact fun h => ⟨names, hne, hm, by rw [hv]; exact h.1,
        by rw [hv]; exact fun v hmem => (hjudged v hmem).1 (h.2 v hmem)⟩
    · obtain ⟨names', -, hm', hn, hreached⟩ := h
      obtain rfl : names = names' := Option.some.inj (hm.symm.trans hm')
      rw [hv] at hn hreached
      exact ⟨hn, fun v hmem => (hjudged v hmem).2 (hreached v hmem)⟩
  unfold finish
  split
  · rename_i hfailed
    refine wp_bind (wp_log (wp_pure ⟨ho.plain rfl, ?_⟩))
    rw [allReached_log rfl, ← hiff]
    exact iff_of_false (by decide) hfailed
  · rename_i hfailed
    refine wp_bind (wp_log (wp_pure ⟨ho.plain rfl, ?_⟩))
    rw [allReached_log rfl, ← hiff]
    exact iff_of_true rfl (not_not.1 hfailed)

/-- Before the first visit. -/
def Setting (stop : Bool) (w : World G) : Prop :=
  Sound [] w ∧ visits w.trace = [] ∧ missionNames w.trace = none ∧ Orderly stop w.trace ∧
    .returned false ∉ w.trace

theorem Setting.record (h : Setting stop w) {e : Entry G} (he : e.plain = true) :
    Setting stop (w.record e) := by
  obtain ⟨hs, hv, hm, ho, hf⟩ := h
  refine ⟨⟨hs.ok, hs.ended, hs.judged⟩, visits_cons_nil hv (plain_ne_goTo he),
    (missionNames_plain he).trans hm, ho.plain he, fun hmem => ?_⟩
  rcases List.mem_cons.1 hmem with he' | hmem
  · rw [← he'] at he
    simp [Entry.plain] at he
  · exact hf hmem

theorem setting_stable :
    Stable (Setting (G := G) stop) (fun _ => Tidy stop) (Tidy stop) where
  quiet w w' hq h := by
    have hs : Sound [] w' := h.1.quiet hq
    rcases hq.trace with ⟨_, ht | ⟨e, he, ht⟩⟩ | ⟨g, n, _, ht⟩
    · refine ⟨hs, ?_⟩
      rw [ht]
      exact h.2
    · refine ⟨hs, ?_⟩
      rw [ht]
      exact (h.record (plain_of_quiet he)).2
    · refine ⟨hs, ?_⟩
      rw [ht]
      exact (h.record (e := .feedback g n) rfl).2
  interrupt _ h := h.2.2.2.1.plain rfl
  blocked _ h := h.2.2.2.1

theorem setting_init : Setting stop ({} : World G) := by
  refine ⟨⟨rfl, by simp, by simp⟩, rfl, rfl, ⟨trivial, by simp [visits], ?_, fun _ => trivial⟩, ?_⟩
  · exact List.nil_prefix
  · exact List.not_mem_nil

/-- A run that ends before the first visit fails. -/
theorem Setting.verdict (h : Setting stop w) {m : LogMsg G} (hm : (Entry.log m).plain = true) :
    PoseVerdict stop 1 (w.record (.log m)) := by
  have h' := h.record hm
  refine ⟨h'.2.2.2.1, iff_of_false (by decide) fun hall => ?_⟩
  obtain ⟨names, -, hnames, -⟩ := hall
  rw [h'.2.2.1] at hnames
  cases hnames

theorem pose_drive (hp : p.mode = "pose") (hne : names ≠ []) (h : Setting p.stopOnFailure w) :
    wp (drive p names) (PoseVerdict p.stopOnFailure) (fun _ => Tidy p.stopOnFailure)
      (Tidy p.stopOnFailure) w := by
  obtain ⟨hs, hv, hm, ho, hf⟩ := h
  refine wp_bind (wp_log ?_)
  rw [if_neg (by simp [hp])]
  have hv' : visits (w.record (.log (.mission p.mode names))).trace = [] :=
    visits_cons_nil hv (by simp)
  have hb : Between p.stopOnFailure names []
      (w.record (.log (.mission p.mode names))).trace :=
    { visits := hv'
      finished := by simp
      mission := rfl
      orderly :=
        { sent := ⟨by simp [SentOnVisit], ho.sent⟩
          returned := by simp [hv']
          order := by simp [hv']
          stops := fun hstop => ⟨by simp [SentUnfailed], ho.stops hstop⟩ }
      clear := fun _ hmem => hf ((List.mem_cons.1 hmem).resolve_left (by simp)) }
  have hs' : Sound [] (w.record (.log (.mission p.mode names))) := ⟨hs.ok, hs.ended, hs.judged⟩
  have hvisit := pose_visitAll p rfl hs' hb
  refine wp_bind (hvisit.mono fun failed w h => ?_)
  obtain ⟨vs, h⟩ := h
  exact pose_finish hne h

theorem pose_run (hp : p.mode = "pose") (h : Setting p.stopOnFailure w) :
    wp (run p) (PoseVerdict p.stopOnFailure) (fun _ => Tidy p.stopOnFailure)
      (Tidy p.stopOnFailure) w :=
  wp_run p setting_stable (fun _ _ hm h => h.verdict (plain_of_quiet hm))
    (fun _ _ hne h => pose_drive p hp hne h) h

/-- **In mode pose, `run` returns 0 iff every waypoint's tracked goal ended SUCCEEDED**, and every
run, finished or not, sends its goals in order. -/
theorem run_pose_verdict (ins : List (Tick G)) :
    Orderly p.stopOnFailure ((run { p with mode := "pose" }).run ins {}).state.trace ∧
      ∀ rc rest w, (run { p with mode := "pose" }).run ins {} = .ret rc rest w →
        (rc = 0 ↔ AllReached w) := by
  have h := pose_run { p with mode := "pose" } rfl setting_init
  exact ⟨h.state (fun _ _ h => h.1) (fun _ _ h => h) (fun _ h => h) ins,
    fun rc rest w hr => (h.ret hr).2⟩

end Run

def visitBoth : Params .line := { waypoints := ["wp1", "wp2"], replanThreshold := (1 : Nat) }

/-- Nav2 reaches the first waypoint, and then the second. -/
def bothReached : List (Tick .line) :=
  untilSent ++ [{ events := [.accept 0, .answer 0] },
    { events := [.finish 0 .succeeded, .result 0] }, { ready := true },
    { events := [.waypoint 1 ⟨true, "map", (9 : Int)⟩] }, { events := [.accept 1, .answer 1] },
    { events := [.finish 1 .succeeded, .result 1] }]

theorem run_pose_verdict_reached :
    let w := ((run visitBoth).run bothReached {}).state
    (visits w.trace).reverse.map (·.name) = ["wp1", "wp2"] ∧ w.goals.length = 2 ∧
      Orderly true w.trace ∧ AllReached w := by
  obtain ⟨horderly, hverdict⟩ := run_pose_verdict (p := visitBoth) bothReached
  exact ⟨rfl, rfl, horderly, (hverdict 0 [] _ rfl).1 rfl⟩

end Mission
