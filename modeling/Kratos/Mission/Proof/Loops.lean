import Kratos.Lib.Turns
import Kratos.Mission.Proof.Quiet

/-!
# The loops of the script, turn by turn

`goTo.Enters` and `goThrough.Enters` say where `go_to` and `go_through` come to their loops, and
`goTo.Heads` and `goThrough.Heads` where each turn starts. A turn sweeps (`sweep`,
`goThrough.sweep`) and then looks at the result. If there is none and a refresh is due, it asks
GLIM, and is then at its decision (`goTo.Decides`, `goThrough.Decides`) whether to send the goal
again. The run goes on from there with `goTo.decide` and `goThrough.decide`
(`goTo.Decides.run_eq`, `goThrough.Decides.run_eq`).
-/

namespace Mission

open Prog

variable {G : Geometry} {p : Params G} {name : String} {names : List String}
  {ins rest ins₁ : List (Tick G)} {w₀ w w' w₁ : World G}

/-- What every turn of `go_to` and `go_through` starts with. -/
def sweep : Script G Unit := do
  spinOnce
  cancelLateGoals

/-! ## `go_to` -/

/-- `go_to` has come to its loop. -/
inductive goTo.Enters (p : Params G) (name : String) (ins : List (Tick G)) (w₀ : World G) :
    At (goTo.Vars G) (Tick G) (World G) → Prop
  | intro {goal : PoseStamped G} {handle resultFuture : GoalId} {ins₁ rest : List (Tick G)}
      {w₁ w : World G} :
      (resolveWithWait p name).run ins w₀ = .ret (some goal) ins₁ w₁ →
      (send goal).run ins₁ (w₁.record (.log (.driving name goal))) =
        .ret (some (handle, resultFuture)) rest w →
      Enters p name ins w₀
        ⟨{ goal, handle, resultFuture, nextRefresh := w.now + p.refreshPeriod }, rest, w⟩

/-- A turn of `go_to`'s loop starts here. -/
def goTo.Heads (p : Params G) (name : String) (ins : List (Tick G)) (w₀ : World G)
    (h : At (goTo.Vars G) (Tick G) (World G)) : Prop :=
  ∃ h₀, goTo.Enters p name ins w₀ h₀ ∧ Turns (goTo.turn p name) h₀ h

/-- What `go_to`'s refresh does with what `resolve` returned. -/
def goTo.decide (p : Params G) (name : String) (l : goTo.Vars G) :
    Option (PoseStamped G) → Script G (Turn (goTo.Vars G) Bool)
  | none => return .next l
  | some fresh => do
    let moved := G.moved fresh.pose l.goal.pose
    if G.gt moved p.replanThreshold then
      log (.moved name moved)
      match ← send fresh with
      | none => return .next l
      | some (newHandle, newFuture) =>
        return .next { l with goal := fresh, handle := newHandle, resultFuture := newFuture }
    else return .next l

/-- A turn of `go_to` is about to decide: `fresh` is what `resolve` returned, `l` the loop's
variables. -/
inductive goTo.Decides (p : Params G) (name : String) (ins : List (Tick G)) (w₀ : World G) :
    goTo.Vars G → Option (PoseStamped G) → List (Tick G) → World G → Prop
  | intro {h : At (goTo.Vars G) (Tick G) (World G)} {fresh : Option (PoseStamped G)}
      {ins₁ rest : List (Tick G)} {w₁ w : World G} :
      goTo.Heads p name ins w₀ h → h.state.ok = true →
      sweep.run h.rest h.state = .ret () ins₁ w₁ →
      w₁.result h.var.resultFuture = none → h.var.nextRefresh ≤ w₁.now →
      (resolve p name).run ins₁ w₁ = .ret fresh rest w →
      Decides p name ins w₀ { h.var with nextRefresh := w₁.now + p.refreshPeriod } fresh rest w

theorem goTo.refresh_eq (l : goTo.Vars G) :
    goTo.refresh p name l = resolve p name >>= goTo.decide p name l := by
  unfold goTo.refresh
  refine congrArg (resolve p name >>= ·) (funext fun fresh => ?_)
  cases fresh with
  | none => rfl
  | some fresh =>
    unfold goTo.decide
    rfl

/-- `go_to` runs on from the start of its loop. -/
theorem goTo.Enters.run_eq {h : At (goTo.Vars G) (Tick G) (World G)}
    (he : goTo.Enters p name ins w₀ h) :
    (goTo p name).run ins w₀ = (loop (goTo.turn p name) h.var).run h.rest h.state := by
  obtain ⟨hr, hs⟩ := he
  unfold goTo
  rw [run_ret _ hr]
  dsimp only
  rw [run_ret _ (run_log ..), run_ret _ hs]
  dsimp only
  rw [run_ret _ (run_get ..)]

theorem goTo.Heads.run_eq {h : At (goTo.Vars G) (Tick G) (World G)}
    (hh : goTo.Heads p name ins w₀ h) :
    (goTo p name).run ins w₀ = (loop (goTo.turn p name) h.var).run h.rest h.state := by
  obtain ⟨h₀, he, ht⟩ := hh
  rw [he.run_eq, ht.run_eq (goTo.turn_waits p name)]

/-- A turn that finds no result and a refresh due. -/
theorem goTo.turn_due {l : goTo.Vars G} (hok : w.ok = true)
    (hs : sweep.run ins w = .ret () ins₁ w₁) (hr : w₁.result l.resultFuture = none)
    (hd : l.nextRefresh ≤ w₁.now) :
    (goTo.turn p name l).run ins w =
      (goTo.refresh p name { l with nextRefresh := w₁.now + p.refreshPeriod }).run ins₁ w₁ := by
  obtain ⟨_, ins₂, w₂, h1, h2⟩ := ret_bind hs
  unfold goTo.turn
  rw [run_ret _ (run_get ..), if_pos hok, run_ret _ h1, run_ret _ h2, run_ret _ (run_get ..), hr]
  dsimp only
  rw [if_pos hd]

/-- What a turn that goes on has done. -/
theorem goTo.turn_next {l l' : goTo.Vars G}
    (hn : (goTo.turn p name l).run ins w = .ret (.next l') rest w') :
    w.ok = true ∧ ∃ ins₁ w₁, sweep.run ins w = .ret () ins₁ w₁ ∧
      w₁.result l.resultFuture = none ∧
      (l.nextRefresh ≤ w₁.now ∧
          (goTo.refresh p name { l with nextRefresh := w₁.now + p.refreshPeriod }).run ins₁ w₁ =
            .ret (.next l') rest w' ∨
        w₁.now < l.nextRefresh ∧ l' = l ∧ rest = ins₁ ∧ w' = w₁) := by
  unfold goTo.turn at hn
  rw [run_ret _ (run_get ..)] at hn
  split at hn
  · rename_i hok
    obtain ⟨_, ins₂, w₂, h1, hn⟩ := ret_bind hn
    obtain ⟨_, ins₁, w₁, h2, hn⟩ := ret_bind hn
    refine ⟨hok, ins₁, w₁, (run_ret _ h1).trans h2, ?_⟩
    rw [run_ret _ (run_get ..)] at hn
    cases hr : w₁.result l.resultFuture with
    | some status =>
      simp only [hr] at hn
      obtain ⟨_, _, _, -, hn⟩ := ret_bind hn
      split at hn
      all_goals
        obtain ⟨_, _, _, -, hn⟩ := ret_bind hn
        cases hn
    | none =>
      simp only [hr] at hn
      split at hn
      · exact ⟨rfl, .inl ⟨‹_›, hn⟩⟩
      · cases hn
        exact ⟨rfl, .inr ⟨by omega, rfl, rfl, rfl⟩⟩
  · cases hn

/-- What is left of a loop once a turn has come to its end. -/
def goTo.resume (p : Params G) (name : String) : Turn (goTo.Vars G) Bool → Script G Bool
  | .next l => loop (goTo.turn p name) l
  | .done ok => pure ok

/-- `go_to` runs on from each of its decisions. -/
theorem goTo.Decides.run_eq {l : goTo.Vars G} {fresh : Option (PoseStamped G)}
    (hd : goTo.Decides p name ins w₀ l fresh rest w) :
    (goTo p name).run ins w₀ = (goTo.decide p name l fresh >>= goTo.resume p name).run rest w := by
  obtain ⟨hh, hok, hs, hr, hdue, hres⟩ := hd
  rw [hh.run_eq, loop_eq (goTo.turn_waits p name), run_bind, goTo.turn_due hok hs hr hdue,
    goTo.refresh_eq, run_ret _ hres, ← run_bind]
  refine congrArg (fun q : Script G Bool => q.run rest w) (congrArg (_ >>= ·) (funext fun t => ?_))
  cases t <;> rfl

/-! ## `go_through` -/

inductive goThrough.Enters (p : Params G) (names : List String) (ins : List (Tick G))
    (w₀ : World G) : At (goThrough.Vars G) (Tick G) (World G) → Prop
  | intro {goals : List (PoseStamped G)} {handle resultFuture : GoalId}
      {ins₁ rest : List (Tick G)} {w₁ w : World G} :
      (resolveRoute p names).run ins w₀ = .ret (some goals) ins₁ w₁ →
      (sendThrough goals).run ins₁ (w₁.record (.log (.drivingThrough (names.zip goals)))) =
        .ret (some (handle, resultFuture)) rest w →
      Enters p names ins w₀
        ⟨{ names, goals, handle, resultFuture, nextRefresh := w.now + p.refreshPeriod, passed := 0 },
          rest, w⟩

def goThrough.Heads (p : Params G) (names : List String) (ins : List (Tick G)) (w₀ : World G)
    (h : At (goThrough.Vars G) (Tick G) (World G)) : Prop :=
  ∃ h₀, goThrough.Enters p names ins w₀ h₀ ∧ Turns (goThrough.turn p) h₀ h

/-- `go_through`'s turns also read the feedback. -/
def goThrough.sweep (l : goThrough.Vars G) : Script G (goThrough.Vars G) := do
  Mission.sweep
  goThrough.update l

/-- The waypoints ahead, with the goals Nav2 has for them. -/
def goThrough.Vars.ahead (l : goThrough.Vars G) : List (String × PoseStamped G) :=
  (l.names.drop l.passed).zip (l.goals.drop l.passed)

theorem ahead_names {l : goThrough.Vars G} (hg : l.goals.length = l.names.length) :
    l.ahead.map (·.1) = l.names.drop l.passed :=
  List.map_fst_zip (by simp [hg])

theorem ahead_length {l : goThrough.Vars G} (hg : l.goals.length = l.names.length)
    {route : List (String × PoseStamped G)} (hr : route.map (·.1) = l.names.drop l.passed) :
    route.length = l.ahead.length := by
  rw [← List.length_map (·.1), hr, ← ahead_names hg, List.length_map]

theorem ahead_goals {l : goThrough.Vars G} (hg : l.goals.length = l.names.length) :
    l.ahead.map (·.2) = l.goals.drop l.passed :=
  List.map_snd_zip (by simp [hg])

/-- The pairs that were resolved, if all were. -/
def allResolved (fresh : List (String × Option (PoseStamped G))) :
    Option (List (String × PoseStamped G)) :=
  fresh.mapM fun (n, g) => g.map fun g => (n, g)

theorem allResolved_cons {name : String} {goal : Option (PoseStamped G)}
    {fresh : List (String × Option (PoseStamped G))} {route : List (String × PoseStamped G)}
    (h : allResolved ((name, goal) :: fresh) = some route) :
    ∃ g rest, goal = some g ∧ allResolved fresh = some rest ∧ route = (name, g) :: rest := by
  cases goal with
  | none => simp [allResolved] at h
  | some g =>
    cases hf : allResolved fresh with
    | none =>
      unfold allResolved at h hf
      simp [hf] at h
    | some rest =>
      unfold allResolved at h hf
      refine ⟨g, rest, rfl, rfl, ?_⟩
      simpa [hf, eq_comm] using h

theorem allResolved_names {fresh : List (String × Option (PoseStamped G))}
    {route : List (String × PoseStamped G)} (h : allResolved fresh = some route) :
    route.map (·.1) = fresh.map (·.1) := by
  induction fresh generalizing route with
  | nil =>
    obtain rfl : [] = route := by simpa [allResolved] using h
    rfl
  | cons a fresh ih =>
    obtain ⟨g, rest, -, hrest, rfl⟩ := allResolved_cons h
    rw [List.map_cons, List.map_cons, ih hrest]

/-- How far the waypoints ahead have moved. -/
def movedBy (ahead fresh : List (String × PoseStamped G)) : List G.Dist :=
  List.zipWith (fun a f => G.moved f.2.pose a.2.pose) ahead fresh

/-- `max` has nothing to take if there is nothing ahead. -/
theorem maxDist_movedBy {ahead route : List (String × PoseStamped G)}
    (hlen : route.length = ahead.length) :
    maxDist G (movedBy ahead route) = none ↔ route = [] := by
  cases route with
  | nil => simp [movedBy, maxDist]
  | cons f route =>
    cases ahead with
    | nil => cases hlen
    | cons a ahead => simp [movedBy, maxDist]

/-- What `go_through`'s refresh does with what `resolve` returned. -/
def goThrough.decide (p : Params G) (l : goThrough.Vars G)
    (fresh : List (String × Option (PoseStamped G))) :
    Script G (Turn (goThrough.Vars G) (List String)) :=
  match allResolved fresh with
  | none => return .next l
  | some fresh =>
    match maxDist G (movedBy l.ahead fresh) with
    | none => raise .valueError
    | some moved => do
      if G.gt moved p.replanThreshold then
        log (.routeMoved moved (fresh.map (·.1)))
        match ← sendThrough (fresh.map (·.2)) with
        | none => return .next l
        | some (newHandle, newFuture) =>
          return .next
            { l with
              names := fresh.map (·.1)
              goals := fresh.map (·.2)
              handle := newHandle
              resultFuture := newFuture
              passed := 0 }
      else return .next l

inductive goThrough.Decides (p : Params G) (names : List String) (ins : List (Tick G))
    (w₀ : World G) : goThrough.Vars G → List (String × Option (PoseStamped G)) →
    List (Tick G) → World G → Prop
  | intro {h : At (goThrough.Vars G) (Tick G) (World G)} {l : goThrough.Vars G}
      {fresh : List (String × Option (PoseStamped G))} {ins₁ rest : List (Tick G)}
      {w₁ w : World G} :
      goThrough.Heads p names ins w₀ h → h.state.ok = true →
      (goThrough.sweep h.var).run h.rest h.state = .ret l ins₁ w₁ →
      w₁.result l.resultFuture = none → l.nextRefresh ≤ w₁.now →
      (resolveAhead p l.ahead).run ins₁ w₁ = .ret fresh rest w →
      Decides p names ins w₀ { l with nextRefresh := w₁.now + p.refreshPeriod } fresh rest w

theorem goThrough.refresh_eq (l : goThrough.Vars G) :
    goThrough.refresh p l = resolveAhead p l.ahead >>= goThrough.decide p l := by
  unfold goThrough.refresh
  refine congrArg (resolveAhead p l.ahead >>= ·) (funext fun fresh => ?_)
  unfold goThrough.decide
  rw [show (fresh.mapM fun (n, g) => g.map fun g => (n, g)) = allResolved fresh from rfl]
  rfl

theorem goThrough.Enters.run_eq {h : At (goThrough.Vars G) (Tick G) (World G)}
    (he : goThrough.Enters p names ins w₀ h) :
    (goThrough p names).run ins w₀ = (loop (goThrough.turn p) h.var).run h.rest h.state := by
  obtain ⟨hr, hs⟩ := he
  unfold goThrough
  rw [run_ret _ hr]
  dsimp only
  rw [run_ret _ (run_log ..), run_ret _ hs]
  dsimp only
  rw [run_ret _ (run_get ..)]

theorem goThrough.Heads.run_eq {h : At (goThrough.Vars G) (Tick G) (World G)}
    (hh : goThrough.Heads p names ins w₀ h) :
    (goThrough p names).run ins w₀ = (loop (goThrough.turn p) h.var).run h.rest h.state := by
  obtain ⟨h₀, he, ht⟩ := hh
  rw [he.run_eq, ht.run_eq (goThrough.turn_waits p)]

theorem goThrough.turn_due {l l' : goThrough.Vars G} (hok : w.ok = true)
    (hs : (goThrough.sweep l).run ins w = .ret l' ins₁ w₁)
    (hr : w₁.result l'.resultFuture = none) (hd : l'.nextRefresh ≤ w₁.now) :
    (goThrough.turn p l).run ins w =
      (goThrough.refresh p { l' with nextRefresh := w₁.now + p.refreshPeriod }).run ins₁ w₁ := by
  obtain ⟨_, ins₃, w₃, hs, h3⟩ := ret_bind hs
  obtain ⟨_, ins₂, w₂, h1, h2⟩ := ret_bind hs
  unfold goThrough.turn
  rw [run_ret _ (run_get ..), if_pos hok, run_ret _ h1, run_ret _ h2, run_ret _ h3,
    run_ret _ (run_get ..), hr]
  dsimp only
  rw [if_pos hd]

theorem goThrough.turn_next {l l'' : goThrough.Vars G}
    (hn : (goThrough.turn p l).run ins w = .ret (.next l'') rest w') :
    w.ok = true ∧ ∃ l' ins₁ w₁, (goThrough.sweep l).run ins w = .ret l' ins₁ w₁ ∧
      w₁.result l'.resultFuture = none ∧
      (l'.nextRefresh ≤ w₁.now ∧
          (goThrough.refresh p { l' with nextRefresh := w₁.now + p.refreshPeriod }).run ins₁ w₁ =
            .ret (.next l'') rest w' ∨
        w₁.now < l'.nextRefresh ∧ l'' = l' ∧ rest = ins₁ ∧ w' = w₁) := by
  unfold goThrough.turn at hn
  rw [run_ret _ (run_get ..)] at hn
  split at hn
  · rename_i hok
    obtain ⟨_, ins₃, w₃, h1, hn⟩ := ret_bind hn
    obtain ⟨_, ins₂, w₂, h2, hn⟩ := ret_bind hn
    obtain ⟨l', ins₁, w₁, h3, hn⟩ := ret_bind hn
    have hsweep : Mission.sweep.run ins w = .ret () ins₂ w₂ := (run_ret _ h1).trans h2
    refine ⟨hok, l', ins₁, w₁, (run_ret _ hsweep).trans h3, ?_⟩
    rw [run_ret _ (run_get ..)] at hn
    cases hr : w₁.result l'.resultFuture with
    | some status =>
      simp only [hr] at hn
      obtain ⟨_, _, _, -, hn⟩ := ret_bind hn
      split at hn
      all_goals
        obtain ⟨_, _, _, -, hn⟩ := ret_bind hn
        cases hn
    | none =>
      simp only [hr] at hn
      split at hn
      · exact ⟨rfl, .inl ⟨‹_›, hn⟩⟩
      · cases hn
        exact ⟨rfl, .inr ⟨by omega, rfl, rfl, rfl⟩⟩
  · cases hn

def goThrough.resume (p : Params G) :
    Turn (goThrough.Vars G) (List String) → Script G (List String)
  | .next l => loop (goThrough.turn p) l
  | .done left => pure left

/-- `go_through` runs on from each of its decisions. -/
theorem goThrough.Decides.run_eq {l : goThrough.Vars G}
    {fresh : List (String × Option (PoseStamped G))}
    (hd : goThrough.Decides p names ins w₀ l fresh rest w) :
    (goThrough p names).run ins w₀ =
      (goThrough.decide p l fresh >>= goThrough.resume p).run rest w := by
  obtain @⟨_, l, _, _, _, w₁, _, hh, hok, hs, hr, hdue, hres⟩ := hd
  have hahead : goThrough.Vars.ahead { l with nextRefresh := w₁.now + p.refreshPeriod } =
      l.ahead := rfl
  rw [hh.run_eq, loop_eq (goThrough.turn_waits p), run_bind, goThrough.turn_due hok hs hr hdue,
    goThrough.refresh_eq, hahead, run_ret _ hres, ← run_bind]
  refine congrArg (fun q : Script G (List String) => q.run rest w)
    (congrArg (_ >>= ·) (funext fun t => ?_))
  cases t <;> rfl

end Mission
