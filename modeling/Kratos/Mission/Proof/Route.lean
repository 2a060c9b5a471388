import Mathlib.Algebra.Order.Ring.Int
import Kratos.Mission.Proof.Visits

/-!
# What is left of a route

`remaining n tr`: what `go_through` believes is left of `n` waypoints, the least of `n` and the
counts it has read from `self.poses_remaining` (`remaining_le`, `le_remaining`). `OnRoute` is what
the trace of `go_through` says: every route sent was resolved for as many of the last waypoints as
were believed to be left (`RouteSent`). Each entry that `go_through` makes keeps it
(`OnRoute.calm` to `OnRoute.accept`).
-/

namespace Mission

open Prog Trace

variable {G : Geometry} {tr : List (Entry G)} {e : Entry G} {n k : Int}

/-! ## What is left -/

def remaining (n : Int) : List (Entry G) → Int
  | [] => n
  | .read k :: tr => min k (remaining n tr)
  | _ :: tr => remaining n tr

/-- Entries that change neither visits nor what is left. -/
def Entry.calm : Entry G → Bool
  | .read _ => false
  | e => e.plain

theorem plain_of_calm (he : e.calm = true) : e.plain = true := by
  cases e with
  | read k => rfl
  | _ => exact he

theorem calm_of_quiet (he : e.quiet = true) : e.calm = true := by
  have hp := plain_of_quiet he
  cases e with
  | read k => simp [Entry.quiet] at he
  | _ => exact hp

theorem remaining_cons (he : ∀ k, e ≠ .read k) : remaining n (e :: tr) = remaining n tr := by
  cases e with
  | read k => exact absurd rfl (he k)
  | _ => rfl

theorem calm_ne_read (he : e.calm = true) (k : Int) : e ≠ .read k := by
  intro h
  rw [h] at he
  cases he

theorem remaining_le : remaining n tr ≤ k ↔ n ≤ k ∨ ∃ q ≤ k, .read q ∈ tr := by
  induction tr with
  | nil => simp [remaining]
  | cons e tr ih =>
    by_cases he : ∃ q, e = .read q
    · obtain ⟨q, rfl⟩ := he
      simp only [remaining, min_le_iff, ih, List.mem_cons, Entry.read.injEq]
      refine ⟨fun h => ?_, fun h => ?_⟩
      · rcases h with hq | hn | ⟨q', hq', hm⟩
        · exact .inr ⟨q, hq, .inl rfl⟩
        · exact .inl hn
        · exact .inr ⟨q', hq', .inr hm⟩
      · rcases h with hn | ⟨q', hq', rfl | hm⟩
        · exact .inr (.inl hn)
        · exact .inl hq'
        · exact .inr (.inr ⟨q', hq', hm⟩)
    · have hne : ∀ q, e ≠ .read q := fun q h => he ⟨q, h⟩
      rw [remaining_cons hne, ih]
      simp [List.mem_cons, (hne _).symm]

theorem le_remaining : k ≤ remaining n tr ↔ k ≤ n ∧ ∀ q, .read q ∈ tr → k ≤ q := by
  have h : remaining n tr ≤ k - 1 ↔ _ := remaining_le
  refine ⟨fun hk => ?_, fun hk => ?_⟩
  · have hno := mt h.2 (by omega)
    push Not at hno
    exact ⟨by omega, fun q hq => by have := mt (hno.2 q) (not_not.2 hq); omega⟩
  · by_contra hlt
    rcases h.1 (by omega) with hn | ⟨q, hq, hm⟩
    · omega
    · have := hk.2 q hm
      omega

/-! ## Routes -/

/-- `poses` were resolved for the last waypoints of `names`. -/
def RouteFor (names : List String) (poses : List (PoseStamped G)) (pre : List (Entry G)) : Prop :=
  ∃ route : List (String × PoseStamped G), route.map (·.1) <:+ names ∧
    poses = route.map (·.2) ∧ ∀ a ∈ route, .resolved a.1 a.2 ∈ pre

/-- A route is sent for as many of the last waypoints as are believed to be left. -/
def RouteSent (names : List String) (e : Entry G) (pre : List (Entry G)) : Prop :=
  ∀ g poses, e = .sent g (.navigateThroughPoses poses) →
    RouteFor names poses pre ∧ (poses.length : Int) = remaining names.length pre

/-- What `go_through` has recorded: `f` is tracked, `k` waypoints are believed to be left and the
goals `known` were resolved. -/
structure OnRoute (names : List String) (f : Option GoalId) (k : Int)
    (known : List (String × PoseStamped G)) (tr : List (Entry G)) : Prop where
  sent : Each (RouteSent names) tr
  tracked : trackedGoal tr = f
  left : remaining names.length tr = k
  known : ∀ a ∈ known, .resolved a.1 a.2 ∈ tr

variable {names : List String} {f : Option GoalId} {known : List (String × PoseStamped G)}

theorem routeSent_plain (he : e.plain = true) (pre : List (Entry G)) : RouteSent names e pre :=
  fun g _ h => absurd h (plain_ne_sent he g _)

theorem OnRoute.calm (h : OnRoute names f k known tr) (he : e.calm = true) :
    OnRoute names f k known (e :: tr) where
  sent := ⟨routeSent_plain (plain_of_calm he) tr, h.sent⟩
  tracked := (trackedGoal_plain (plain_of_calm he)).trans h.tracked
  left := (remaining_cons (calm_ne_read he)).trans h.left
  known a ha := List.mem_cons_of_mem e (h.known a ha)

theorem OnRoute.learn (h : OnRoute names f k known tr) (name : String) (goal : PoseStamped G) :
    OnRoute names f k ((name, goal) :: known) (.resolved name goal :: tr) where
  __ := h.calm (e := .resolved name goal) rfl
  known a ha := by
    rcases List.mem_cons.1 ha with rfl | ha
    · exact List.mem_cons_self
    · exact List.mem_cons_of_mem _ (h.known a ha)

theorem OnRoute.forget (h : OnRoute names f k known tr) {known' : List (String × PoseStamped G)}
    (hsub : ∀ a ∈ known', a ∈ known) : OnRoute names f k known' tr where
  __ := h
  known a ha := h.known a (hsub a ha)

theorem OnRoute.read (h : OnRoute names f k known tr) (q : Int) :
    OnRoute names f (min q k) known (.read q :: tr) where
  __ := h
  sent := ⟨fun g _ he => (by cases he), h.sent⟩
  left := by rw [remaining, h.left]
  known a ha := List.mem_cons_of_mem _ (h.known a ha)

theorem OnRoute.send (h : OnRoute names f k known tr) (g : GoalId)
    {route : List (String × PoseStamped G)} (hsuf : route.map (·.1) <:+ names)
    (hknown : ∀ a ∈ route, a ∈ known) (hlen : (route.length : Int) = k) :
    OnRoute names f k known (.sent g (.navigateThroughPoses (route.map (·.2))) :: tr) where
  __ := h
  sent := by
    refine ⟨fun _ _ he => ?_, h.sent⟩
    cases he
    refine ⟨⟨route, hsuf, rfl, fun a ha => h.known a (hknown a ha)⟩, ?_⟩
    rw [List.length_map, hlen, h.left]
  known a ha := List.mem_cons_of_mem _ (h.known a ha)

theorem OnRoute.accept (h : OnRoute names f k known tr) (g : GoalId) :
    OnRoute names (some g) k known (.outcome g .accepted :: tr) where
  __ := h
  sent := ⟨fun _ _ he => (by cases he), h.sent⟩
  tracked := rfl
  known a ha := List.mem_cons_of_mem _ (h.known a ha)

end Mission
