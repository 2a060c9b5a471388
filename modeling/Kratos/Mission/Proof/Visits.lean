import Kratos.Lib.Trace
import Kratos.Mission.Proof.Quiet

/-!
# Reading a trace

What a trace says about a run: the goal tracked (`trackedGoal`), the list the mission set out with
(`missionNames`) and, in mode pose, the calls of `go_to` (`visits`).

`Orderly` is what holds of the trace of every run in mode pose, `OnVisit` what holds while `go_to`
runs and `Between` what holds before its next call. Entries that say nothing about visits are
`Entry.plain`.
-/

namespace Mission

open Trace

variable {G : Geometry} {tr : List (Entry G)}

/-! ## What the trace says -/

/-- The last goal sent that Nav2 accepted before `send_action` gave up on it. -/
def trackedGoal : List (Entry G) → Option GoalId
  | [] => none
  | .outcome g .accepted :: _ => some g
  | _ :: tr => trackedGoal tr

/-- The list `run` logged before it set out. -/
def missionNames : List (Entry G) → Option (List String)
  | [] => none
  | .log (.mission _ names) :: _ => some names
  | _ :: tr => missionNames tr

/-- What `go_to` returned. -/
def returned : List (Entry G) → Option Bool
  | [] => none
  | .returned ok :: _ => some ok
  | _ :: tr => returned tr

/-- One call of `go_to` and what was recorded from its start to the next one's, newest first. -/
structure Visit (G : Geometry) where
  name : String
  body : List (Entry G)

/-- The calls of `go_to`, newest first. -/
def visits : List (Entry G) → List (Visit G)
  | [] => []
  | .goTo name :: tr => ⟨name, []⟩ :: visits tr
  | e :: tr =>
    match visits tr with
    | [] => []
    | v :: past => { v with body := e :: v.body } :: past

variable {past : List (Visit G)} {name : String} {body : List (Entry G)} {e : Entry G}

/-- An entry goes to the visit under way. -/
theorem visits_cons (h : visits tr = ⟨name, body⟩ :: past) (he : ∀ n, e ≠ .goTo n) :
    visits (e :: tr) = ⟨name, e :: body⟩ :: past := by
  cases e with
  | goTo n => exact absurd rfl (he n)
  | _ => simp only [visits, h]

theorem visits_cons_nil (h : visits tr = []) (he : ∀ n, e ≠ .goTo n) : visits (e :: tr) = [] := by
  cases e with
  | goTo n => exact absurd rfl (he n)
  | _ => simp only [visits, h]

/-! ## Plain entries -/

/-- Entries that leave visits, verdicts and the list alone. -/
def Entry.plain : Entry G → Bool
  | .goTo _ | .returned _ | .sent .. | .outcome _ .accepted | .log (.mission ..) => false
  | _ => true

theorem plain_of_quiet (he : e.quiet = true) : e.plain = true := by
  cases e with
  | log m => cases m <;> first | rfl | simp [Entry.quiet] at he
  | resolved n goal => rfl
  | _ => simp [Entry.quiet] at he

theorem plain_ne_goTo (he : e.plain = true) (n : String) : e ≠ .goTo n := by
  rintro rfl
  simp [Entry.plain] at he

theorem plain_ne_sent (he : e.plain = true) (g : GoalId) (msg : GoalMsg G) : e ≠ .sent g msg := by
  rintro rfl
  simp [Entry.plain] at he

theorem trackedGoal_plain (he : e.plain = true) : trackedGoal (e :: tr) = trackedGoal tr := by
  cases e with
  | outcome g o => cases o <;> first | rfl | simp [Entry.plain] at he
  | _ => rfl

theorem missionNames_plain (he : e.plain = true) : missionNames (e :: tr) = missionNames tr := by
  cases e with
  | log m => cases m <;> first | rfl | simp [Entry.plain] at he
  | _ => rfl

theorem returned_plain (he : e.plain = true) : returned (e :: tr) = returned tr := by
  cases e with
  | returned ok => simp [Entry.plain] at he
  | _ => rfl

/-! ## Orderly runs -/

/-- A goal is sent by the `go_to` under way, which has not returned, and it is the goal that
`resolve` made of that waypoint during this call. -/
def SentOnVisit (e : Entry G) (pre : List (Entry G)) : Prop :=
  ∀ g msg, e = .sent g msg → ∃ v past goal, visits pre = v :: past ∧ returned v.body = none ∧
    msg = .navigateToPose goal ∧ .resolved v.name goal ∈ v.body

/-- A goal is sent only while no `go_to` has failed. -/
def SentUnfailed (e : Entry G) (pre : List (Entry G)) : Prop :=
  ∀ g msg, e = .sent g msg → .returned false ∉ pre

structure Orderly (stopOnFailure : Bool) (tr : List (Entry G)) : Prop where
  sent : Each SentOnVisit tr
  /-- A `go_to` starts after the one before has returned. -/
  returned : ∀ v ∈ (visits tr).tail, returned v.body ≠ none
  order : (visits tr).reverse.map (·.name) <+: (missionNames tr).getD []
  stops : stopOnFailure = true → Each SentUnfailed tr

variable {stop : Bool} {names : List String} {t : Option GoalId}

theorem visits_plain (he : e.plain = true) :
    (visits (e :: tr)).tail = (visits tr).tail ∧
      (visits (e :: tr)).map (·.name) = (visits tr).map (·.name) := by
  cases hv : visits tr with
  | nil => rw [visits_cons_nil hv (plain_ne_goTo he)]; exact ⟨rfl, rfl⟩
  | cons v past => rw [visits_cons hv (plain_ne_goTo he)]; exact ⟨rfl, rfl⟩

theorem Orderly.plain (h : Orderly stop tr) (he : e.plain = true) : Orderly stop (e :: tr) where
  sent := ⟨fun g msg hs => absurd hs (plain_ne_sent he g msg), h.sent⟩
  returned := by
    rw [(visits_plain he).1]
    exact h.returned
  order := by
    rw [missionNames_plain he, List.map_reverse, (visits_plain he).2, ← List.map_reverse]
    exact h.order
  stops hstop := ⟨fun g msg hs => absurd hs (plain_ne_sent he g msg), h.stops hstop⟩

/-! ## While `go_to` runs -/

/-- `go_to` runs for `name`, after the visits `past` and with `t` tracked. -/
structure OnVisit (stop : Bool) (names : List String) (name : String) (past : List (Visit G))
    (t : Option GoalId) (tr : List (Entry G)) : Prop where
  head : ∃ body, visits tr = ⟨name, body⟩ :: past ∧ returned body = none ∧ trackedGoal body = t
  mission : missionNames tr = some names
  orderly : Orderly stop tr
  clear : stop = true → .returned false ∉ tr

theorem OnVisit.plain (h : OnVisit stop names name past t tr) (he : e.plain = true) :
    OnVisit stop names name past t (e :: tr) where
  head := by
    obtain ⟨body, hv, hr, ht⟩ := h.head
    refine ⟨e :: body, visits_cons hv (plain_ne_goTo he), ?_, ?_⟩
    · rw [returned_plain he, hr]
    · rw [trackedGoal_plain he, ht]
  mission := by rw [missionNames_plain he, h.mission]
  orderly := h.orderly.plain he
  clear hstop hmem := by
    rcases List.mem_cons.1 hmem with rfl | hmem
    · simp [Entry.plain] at he
    · exact h.clear hstop hmem

/-- `goal` was resolved for the waypoint under way. -/
def ResolvedHere (goal : PoseStamped G) (tr : List (Entry G)) : Prop :=
  ∃ v past, visits tr = v :: past ∧ .resolved v.name goal ∈ v.body

theorem ResolvedHere.plain {goal : PoseStamped G} (h : ResolvedHere goal tr)
    (he : e.plain = true) : ResolvedHere goal (e :: tr) := by
  obtain ⟨v, past, hv, hm⟩ := h
  exact ⟨_, past, visits_cons hv (plain_ne_goTo he), List.mem_cons_of_mem e hm⟩

theorem OnVisit.resolvedHere {goal : PoseStamped G}
    (h : OnVisit stop names name past t (.resolved name goal :: tr)) :
    ResolvedHere goal (.resolved name goal :: tr) := by
  obtain ⟨body, hv, -, -⟩ := h.head
  cases htr : visits tr with
  | nil => rw [visits_cons_nil htr (by simp)] at hv; cases hv
  | cons v vs =>
    rw [visits_cons htr (by simp)] at hv
    obtain ⟨hv, -⟩ := List.cons.inj hv
    obtain ⟨rfl, -⟩ := Visit.mk.inj hv
    exact ⟨_, vs, visits_cons htr (by simp), List.mem_cons_self⟩

theorem OnVisit.send (h : OnVisit stop names name past t tr) {goal : PoseStamped G}
    (hg : ResolvedHere goal tr) (g : GoalId) :
    OnVisit stop names name past t (.sent g (.navigateToPose goal) :: tr) := by
  obtain ⟨body, hv, hr, ht⟩ := h.head
  have hv' : visits (.sent g (.navigateToPose goal) :: tr) = ⟨name, _ :: body⟩ :: past :=
    visits_cons hv (by simp)
  obtain ⟨v, vs, hv₂, hm⟩ := hg
  obtain ⟨rfl, rfl⟩ := List.cons.inj (hv.symm.trans hv₂)
  refine ⟨⟨_, hv', hr, ht⟩, h.mission, ⟨⟨?_, h.orderly.sent⟩, ?_, ?_, ?_⟩, ?_⟩
  · rintro _ _ ⟨⟩
    exact ⟨_, past, goal, hv, hr, rfl, hm⟩
  · rw [hv']
    simpa [hv] using h.orderly.returned
  · rw [hv']
    simpa [hv, missionNames] using h.orderly.order
  · exact fun hstop => ⟨fun _ _ _ => h.clear hstop, h.orderly.stops hstop⟩
  · exact fun hstop hmem => h.clear hstop ((List.mem_cons.1 hmem).resolve_left (by simp))

theorem OnVisit.accept (h : OnVisit stop names name past t tr) (g : GoalId) :
    OnVisit stop names name past (some g) (.outcome g .accepted :: tr) := by
  obtain ⟨body, hv, hr, -⟩ := h.head
  have hv' : visits (.outcome g .accepted :: tr) = ⟨name, _ :: body⟩ :: past :=
    visits_cons hv (by simp)
  refine ⟨⟨_, hv', hr, rfl⟩, h.mission, ⟨⟨?_, h.orderly.sent⟩, ?_, ?_, ?_⟩, ?_⟩
  · exact fun _ _ he => by simp at he
  · rw [hv']
    simpa [hv] using h.orderly.returned
  · rw [hv']
    simpa [hv, missionNames] using h.orderly.order
  · exact fun hstop => ⟨fun _ _ he => by simp at he, h.orderly.stops hstop⟩
  · exact fun hstop hmem => h.clear hstop ((List.mem_cons.1 hmem).resolve_left (by simp))

/-! ## Between visits -/

/-- The visits `past` have returned, and the next may start. -/
structure Between (stop : Bool) (names : List String) (past : List (Visit G))
    (tr : List (Entry G)) : Prop where
  visits : visits tr = past
  finished : ∀ v ∈ past, Mission.returned v.body ≠ none
  mission : missionNames tr = some names
  orderly : Orderly stop tr
  clear : stop = true → .returned false ∉ tr

theorem Between.start (h : Between stop names past tr)
    (hn : past.reverse.map (·.name) ++ [name] <+: names) :
    OnVisit stop names name past none (.goTo name :: tr) where
  head := ⟨[], by rw [Mission.visits, h.visits], rfl, rfl⟩
  mission := h.mission
  orderly :=
    { sent := ⟨fun _ _ he => (by simp at he), h.orderly.sent⟩
      returned := by
        rw [Mission.visits, h.visits]
        exact h.finished
      order := by
        rw [Mission.visits, h.visits, List.reverse_cons, List.map_append]
        simpa [missionNames, h.mission] using hn
      stops := fun hstop => ⟨fun _ _ he => (by simp at he), h.orderly.stops hstop⟩ }
  clear hstop hmem := h.clear hstop ((List.mem_cons.1 hmem).resolve_left (by simp))

theorem OnVisit.return (h : OnVisit stop names name past t tr) (ok : Bool) :
    ∃ body, visits (.returned ok :: tr) = ⟨name, .returned ok :: body⟩ :: past ∧
      trackedGoal body = t ∧ Orderly stop (.returned ok :: tr) := by
  obtain ⟨body, hv, -, ht⟩ := h.head
  have hv' : visits (.returned ok :: tr) = ⟨name, .returned ok :: body⟩ :: past :=
    visits_cons hv (by simp)
  refine ⟨body, hv', ht, ⟨⟨fun _ _ he => by simp at he, h.orderly.sent⟩, ?_, ?_, ?_⟩⟩
  · rw [hv']
    simpa [hv] using h.orderly.returned
  · rw [hv']
    simpa [hv, missionNames] using h.orderly.order
  · exact fun hstop => ⟨fun _ _ he => by simp at he, h.orderly.stops hstop⟩

/-- After a success, or a failure that does not stop the mission. -/
theorem OnVisit.between (h : OnVisit stop names name past t tr) {ok : Bool}
    (hok : stop = true → ok = true) {v : Visit G}
    (hv : visits (.returned ok :: tr) = v :: past) (hr : returned v.body = some ok)
    (hover : ∀ v ∈ past, returned v.body ≠ none) (ho : Orderly stop (.returned ok :: tr)) :
    Between stop names (v :: past) (.returned ok :: tr) where
  visits := hv
  finished u hu := by
    rcases List.mem_cons.1 hu with rfl | hu
    · simp [hr]
    · exact hover u hu
  mission := h.mission
  orderly := ho
  clear hstop hmem := by
    rcases List.mem_cons.1 hmem with he | hmem
    · rw [hok hstop] at he
      simp at he
    · exact h.clear hstop hmem

end Mission
