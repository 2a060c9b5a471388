import Kratos.Mission.Proof.Through

/-!
# What `go_through` keeps of its route

`names` shrinks at every re-send and `passed` counts from its head, while `poses_remaining` is
written by the feedback of any goal, of whatever length. `Booked` is why this goes together: every
goal sent is for the end of the same list, so a count says how much of that end is left whichever
goal it came from, and what the script has logged as reached is the part before it.

It holds as long as the counts are at least 1 (`Counted`); their upper bound does not matter.
-/

namespace Mission

open Prog Trace

variable {G : Geometry} {w w' : World G} {tr base : List (Entry G)} {e : Entry G}
  {names : List String} {l : goThrough.Vars G} {lo : Int}

/-! ## What was logged -/

/-- The waypoints logged as reached, in order. -/
def reachedLog : List (Entry G) → List String
  | [] => []
  | .log (.reached name) :: tr => reachedLog tr ++ [name]
  | _ :: tr => reachedLog tr

/-- No count processed is below 1. -/
def Counted (tr : List (Entry G)) : Prop := ∀ g q, .feedback g q ∈ tr → 1 ≤ q

/-- A feedback has a count of at least 1. -/
def Entry.counted : Entry G → Bool
  | .feedback _ q => decide (1 ≤ q)
  | _ => true

theorem counted_iff : Counted tr ↔ ∀ e ∈ tr, e.counted = true := by
  refine ⟨fun h e he => ?_, fun h g q hm => by simpa [Entry.counted] using h _ hm⟩
  cases e with
  | feedback g q => simpa [Entry.counted] using h g q he
  | _ => rfl

instance decidableCounted (tr : List (Entry G)) : Decidable (Counted tr) :=
  decidable_of_iff _ counted_iff.symm

/-- Entries that are no feedback and leave the book alone. -/
def Entry.silent : Entry G → Bool
  | .log (.reached _) | .read _ | .feedback .. => false
  | _ => true

theorem silent_of_quiet (he : e.quiet = true) : e.silent = true := by
  cases e with
  | log m => cases m <;> first | rfl | simp [Entry.quiet] at he
  | resolved n goal => rfl
  | _ => simp [Entry.quiet] at he

theorem reachedLog_silent (he : e.silent = true) : reachedLog (e :: tr) = reachedLog tr := by
  cases e with
  | log m => cases m <;> first | rfl | simp [Entry.silent] at he
  | _ => rfl

theorem silent_ne_read (he : e.silent = true) (q : Int) : e ≠ .read q := by
  rintro rfl
  simp [Entry.silent] at he

theorem Counted.tail (h : Counted (e :: tr)) : Counted tr :=
  fun g q hm => h g q (List.mem_cons_of_mem e hm)

theorem reachedLog_append (ns : List String) (tr : List (Entry G)) :
    reachedLog ((ns.map fun name => .log (.reached name)).reverse ++ tr) = reachedLog tr ++ ns := by
  induction ns generalizing tr with
  | nil => simp
  | cons name ns ih =>
    rw [List.map_cons, List.reverse_cons, List.append_assoc, List.singleton_append, ih]
    simp [reachedLog]

theorem mem_of_logReached {ns : List String} (hne : ∀ n, e ≠ .log (.reached n))
    (h : e ∈ (ns.map fun name => .log (.reached name)).reverse ++ tr) : e ∈ tr := by
  rcases List.mem_append.1 h with h | h
  · obtain ⟨n, -, hn⟩ := List.mem_map.1 (List.mem_reverse.1 h)
    exact absurd hn.symm (hne n)
  · exact h

/-! ## The book -/

/-- The place in the original list, of `n` waypoints, that the loop has come to. -/
def goThrough.Vars.position (n : Nat) (l : goThrough.Vars G) : Int :=
  n - l.names.length + l.passed

structure Booked (names : List String) (lo : Int) (l : goThrough.Vars G) (tr : List (Entry G))
    (posesRemaining : Option Int) : Prop where
  suffix : l.names <:+ names
  goals : l.goals.length = l.names.length
  ahead : l.passed < l.names.length
  /-- What is logged and what is ahead make up the list. -/
  logged : reachedLog tr ++ l.names.drop l.passed = names
  count : ∀ q, posesRemaining = some q → ∃ g, .feedback g q ∈ tr
  counts : ∀ q, .read q ∈ tr → ∃ g, .feedback g q ∈ tr
  reads : ∀ q, .read q ∈ tr → names.length - q ≤ l.position names.length
  since : lo ≤ l.position names.length

variable {k k' : Option Int}

theorem Booked.entry (h : Booked names lo l tr k) (he : e.silent = true) :
    Booked names lo l (e :: tr) k where
  __ := h
  logged := by rw [reachedLog_silent he, h.logged]
  count q hq := (h.count q hq).imp fun _ => List.mem_cons_of_mem e
  counts q hq := by
    have hq := (List.mem_cons.1 hq).resolve_left (silent_ne_read he q).symm
    exact (h.counts q hq).imp fun _ => List.mem_cons_of_mem e
  reads q hq := h.reads q ((List.mem_cons.1 hq).resolve_left (silent_ne_read he q).symm)

theorem Booked.feedback (h : Booked names lo l tr k) (g : GoalId) (q : Int) :
    Booked names lo l (.feedback g q :: tr) (some q) where
  __ := h
  count q' hq := by
    obtain rfl : q = q' := Option.some.inj hq
    exact ⟨g, List.mem_cons_self⟩
  counts q' hq := by
    have hq := (List.mem_cons.1 hq).resolve_left (by simp)
    exact (h.counts q' hq).imp fun _ => List.mem_cons_of_mem _
  reads q' hq := h.reads q' ((List.mem_cons.1 hq).resolve_left (by simp))

/-- **The update**: a count says how much of the list's end is left, and the place in the list
comes at least that far. -/
theorem Booked.update (h : Booked names lo l tr k) {q : Int} (hk : k = some q) (hq : 1 ≤ q)
    {upTo : Nat} (hup : (upTo : Int) = max (l.passed : Int) (l.names.length - q)) :
    Booked names lo { l with passed := upTo }
      ((((l.names.drop l.passed).take (upTo - l.passed)).map
        fun name => .log (.reached name)).reverse ++ .read q :: tr) k := by
  have hahead := h.ahead
  have hlen := h.suffix.length_le
  have hmem : ∀ e ∈ .read q :: tr, e ∈ (((l.names.drop l.passed).take (upTo - l.passed)).map
      fun name => .log (.reached name)).reverse ++ .read q :: tr :=
    fun e he => List.mem_append_right _ he
  have hread : ∀ r, .read r ∈ (((l.names.drop l.passed).take (upTo - l.passed)).map
      fun name => .log (.reached name)).reverse ++ .read q :: tr → r = q ∨ .read r ∈ tr := by
    intro r hr
    simpa using mem_of_logReached (by simp) hr
  refine ⟨h.suffix, h.goals, ?_, ?_, fun r hr => ?_, fun r hr => ?_, fun r hr => ?_, ?_⟩
  · show upTo < l.names.length
    omega
  · -- what the update logs is the part of what was ahead that it passes
    have hdrop : l.names.drop upTo = (l.names.drop l.passed).drop (upTo - l.passed) := by
      rw [List.drop_drop]
      congr 1
      omega
    show _ ++ l.names.drop upTo = names
    rw [reachedLog_append, hdrop, List.append_assoc, List.take_append_drop]
    exact h.logged
  · exact (h.count r hr).imp fun _ hm => hmem _ (List.mem_cons_of_mem _ hm)
  · rcases hread r hr with rfl | hr
    · exact (h.count r hk).imp fun _ hm => hmem _ (List.mem_cons_of_mem _ hm)
    · exact (h.counts r hr).imp fun _ hm => hmem _ (List.mem_cons_of_mem _ hm)
  · show _ ≤ (names.length : Int) - l.names.length + upTo
    rcases hread r hr with rfl | hr
    · omega
    · have := h.reads r hr
      unfold goThrough.Vars.position at this
      omega
  · have := h.since
    unfold goThrough.Vars.position at this
    show lo ≤ (names.length : Int) - l.names.length + upTo
    omega

/-- **The re-send**: what is ahead becomes the list, and the place is the same. -/
theorem Booked.resend (h : Booked names lo l tr k) {route : List (String × PoseStamped G)}
    (hroute : route.map (·.1) = l.names.drop l.passed) (handle future : GoalId) :
    Booked names lo
      { l with
        names := route.map (·.1)
        goals := route.map (·.2)
        handle := handle
        resultFuture := future
        passed := 0 } tr k := by
  have hahead := h.ahead
  have hlen : (route.map (·.1)).length = l.names.length - l.passed := by
    rw [hroute, List.length_drop]
  have hpos : (names.length : Int) - (route.map (·.1)).length + (0 : Nat) =
      l.position names.length := by
    unfold goThrough.Vars.position
    omega
  refine ⟨?_, ?_, ?_, ?_, h.count, h.counts, fun q hq => ?_, ?_⟩
  · show route.map (·.1) <:+ names
    rw [hroute]
    exact (List.drop_suffix _ _).trans h.suffix
  · simp
  · show 0 < (route.map (·.1)).length
    omega
  · show _ ++ route.map (·.1) = names
    rw [hroute, h.logged]
  · exact (h.reads q hq).trans_eq hpos.symm
  · exact h.since.trans_eq hpos.symm

/-- Before the loop: nothing is logged and nothing is read. -/
structure Blank (tr : List (Entry G)) : Prop where
  logged : reachedLog tr = []
  reads : ∀ q, .read q ∉ tr

theorem Blank.entry (h : Blank tr) (he : ∀ n, e ≠ .log (.reached n)) (hr : ∀ q, e ≠ .read q) :
    Blank (e :: tr) where
  logged := by
    rw [← h.logged]
    cases e with
    | log m => cases m <;> first | rfl | exact absurd rfl (he _)
    | _ => rfl
  reads q hq := h.reads q ((List.mem_cons.1 hq).resolve_left (hr q).symm)

/-- While the first route is sent. -/
def Unread (tr : List (Entry G)) (posesRemaining : Option Int) : Prop :=
  Blank tr ∧ ∀ q, posesRemaining = some q → ∃ g, .feedback g q ∈ tr

/-- The loop starts at the head of the list. -/
theorem Unread.booked (h : Unread tr k) (hl : l.names = names)
    (hg : l.goals.length = l.names.length) (hp : l.passed = 0) (hne : names ≠ []) :
    Booked names 0 l tr k where
  suffix := by rw [hl]
  goals := hg
  ahead := by
    rw [hp, hl]
    exact List.length_pos_iff.2 hne
  logged := by
    rw [h.1.logged, hp, hl]
    rfl
  count := h.2
  counts q hq := absurd hq (h.1.reads q)
  reads q hq := absurd hq (h.1.reads q)
  since := by
    unfold goThrough.Vars.position
    rw [hl, hp]
    simp

/-! ## Keeping the book -/

/-- What a `P` of the trace since `base` and of `poses_remaining` must stand while the script
waits and sends. -/
structure Kept (P : List (Entry G) → Option Int → Prop) : Prop where
  entry : ∀ tr k e, e.silent = true → P tr k → P (e :: tr) k
  feedback : ∀ tr k g q, P tr k → P (.feedback g q :: tr) (some q)

/-- `P` holds of the trace since `base`, if all counts in it are at least 1. -/
def Since (base : List (Entry G)) (P : List (Entry G) → Option Int → Prop) (w : World G) : Prop :=
  w.ok = true ∧ ∃ tr, w.trace = tr ++ base ∧ (Counted tr → P tr w.posesRemaining)

/-- Waypoints were logged in order, and each once. -/
def InOrder (base : List (Entry G)) (names : List String) (w : World G) : Prop :=
  ∃ tr, w.trace = tr ++ base ∧ (Counted tr → reachedLog tr <+: names)

theorem booked_kept : Kept (Booked names lo l) where
  entry _ _ _ he h := h.entry he
  feedback _ _ g q h := h.feedback g q

theorem silent_ne_reached (he : e.silent = true) (n : String) : e ≠ .log (.reached n) := by
  rintro rfl
  simp [Entry.silent] at he

theorem blank_kept : Kept (G := G) fun tr _ => Blank tr where
  entry _ _ _ he h := h.entry (silent_ne_reached he) (silent_ne_read he)
  feedback _ _ _ _ h := h.entry (by simp) (by simp)

theorem unread_kept : Kept (G := G) Unread where
  entry _ _ _ he h := ⟨h.1.entry (silent_ne_reached he) (silent_ne_read he),
    fun q hq => (h.2 q hq).imp fun _ => List.mem_cons_of_mem _⟩
  feedback _ _ g q h := by
    refine ⟨h.1.entry (by simp) (by simp), fun q' hq => ?_⟩
    obtain rfl : q = q' := Option.some.inj hq
    exact ⟨g, List.mem_cons_self⟩

variable {P : List (Entry G) → Option Int → Prop}

theorem Since.entry (h : Since base P w) (hP : Kept P) (he : e.silent = true) (hok : w'.ok = w.ok)
    (hk : w'.posesRemaining = w.posesRemaining) (htr : w'.trace = e :: w.trace) :
    Since base P w' := by
  obtain ⟨ho, tr, ht, hb⟩ := h
  refine ⟨hok.trans ho, e :: tr, by rw [htr, ht]; rfl, fun hc => ?_⟩
  rw [hk]
  exact hP.entry _ _ e he (hb hc.tail)

theorem Since.record (h : Since base P w) (hP : Kept P) (he : e.silent = true) :
    Since base P (w.record e) := h.entry hP he rfl rfl rfl

theorem Since.imp {Q : List (Entry G) → Option Int → Prop} (h : Since base P w)
    (hPQ : ∀ tr k, P tr k → Q tr k) : Since base Q w := by
  obtain ⟨ho, tr, ht, hb⟩ := h
  exact ⟨ho, tr, ht, fun hc => hPQ _ _ (hb hc)⟩

theorem since_stable (hP : Kept P) (hlog : ∀ tr k, P tr k → reachedLog tr <+: names) :
    Stable (Since base P) (fun _ => InOrder base names) (InOrder base names) where
  quiet w w' hq h := by
    rcases hq.trace with ⟨hk, ht | ⟨e, he, ht⟩⟩ | ⟨g, q, hk, ht⟩
    · obtain ⟨ho, tr, htr, hb⟩ := h
      exact ⟨hq.same.ok.trans ho, tr, ht.trans htr, by rwa [hk]⟩
    · exact h.entry hP (silent_of_quiet he) hq.same.ok hk ht
    · obtain ⟨ho, tr, htr, hb⟩ := h
      refine ⟨hq.same.ok.trans ho, _ :: tr, by rw [ht, htr]; rfl, fun hc => ?_⟩
      rw [hk]
      exact hP.feedback _ _ g q (hb hc.tail)
  interrupt w h := by
    obtain ⟨-, tr, ht, hb⟩ := h.record (e := .interrupt) hP rfl
    exact ⟨tr, ht, fun hc => hlog _ _ (hb hc)⟩
  blocked w h := by
    obtain ⟨-, tr, ht, hb⟩ := h
    exact ⟨tr, ht, fun hc => hlog _ _ (hb hc)⟩

theorem since_sweep (hP : Kept P) (hlog : ∀ tr k, P tr k → reachedLog tr <+: names)
    (h : Since base P w) :
    wp sweep (fun _ => Since base P) (fun _ => InOrder base names) (InOrder base names) w := by
  refine wp_sweep (since_stable hP hlog) (fun w r h _ => h) (fun w r h _ => ?_) h
  exact (h.record (e := .log .lateAccept) hP rfl).entry (e := .cancel r) hP rfl rfl rfl rfl

theorem since_sendThrough (hP : Kept P) (hlog : ∀ tr k, P tr k → reachedLog tr <+: names)
    (goals : List (PoseStamped G)) (h : Since base P { w with posesRemaining := none }) :
    wp (sendThrough goals) (fun _ => Since base P) (fun _ => InOrder base names)
      (InOrder base names) w := by
  have hstable : Stable (Since base P) (fun _ => InOrder base names) (InOrder base names) :=
    since_stable hP hlog
  refine wp_bind (wp_modify (wp_sendAction hstable _ ?_ ?_ ?_ ?_))
  · exact h.entry (e := .sent _ _) hP rfl rfl rfl rfl
  · intro w' h' _
    exact (h'.record (e := .log .noAnswer) hP rfl).entry (e := .outcome _ .timedOut) hP rfl rfl
      rfl rfl
  · intro w' h' _
    exact (h'.record (e := .log .goalRejected) hP rfl).entry (e := .outcome _ .rejected) hP rfl
      rfl rfl rfl
  · intro w' h' _
    exact h'.entry (e := .outcome _ .accepted) hP rfl rfl rfl rfl

/-! ## The methods -/

section Methods

variable (p : Params G)

/-- The loop, since the trace was `base`. -/
def Keeping (base : List (Entry G)) (names : List String) (lo : Int) (l : goThrough.Vars G) :
    World G → Prop := Since base (Booked names lo l)

/-- What is returned is what was not logged; a read count came from a feedback. -/
def Closed (base : List (Entry G)) (names left : List String) (w : World G) : Prop :=
  ∃ tr, w.trace = tr ++ base ∧ (Counted tr → reachedLog tr ++ left = names ∧ NoZeroRead tr)

theorem booked_prefix : ∀ tr k, Booked names lo l tr k → reachedLog tr <+: names :=
  fun _ _ h => ⟨_, h.logged⟩

theorem keeping_stable : Stable (Keeping base names lo l) (fun _ => InOrder base names)
    (InOrder base names) := since_stable booked_kept booked_prefix

theorem Keeping.inOrder (h : Keeping base names lo l w) : InOrder base names w := by
  obtain ⟨-, tr, ht, hb⟩ := h
  exact ⟨tr, ht, fun hc => booked_prefix _ _ (hb hc)⟩

theorem Keeping.reset (h : Keeping base names lo l w) :
    Keeping base names lo l { w with posesRemaining := none } := by
  obtain ⟨ho, tr, ht, hb⟩ := h
  exact ⟨ho, tr, ht, fun hc => { hb hc with count := nofun }⟩

theorem Booked.noZeroRead (h : Booked names lo l tr k) (hc : Counted tr) : NoZeroRead tr := by
  intro q hq
  obtain ⟨g, hg⟩ := h.counts q hq
  exact hc g q hg

/-- The update of a turn moves the place in the list on, or leaves it. -/
theorem keeping_sweep (h : Keeping base names lo l w) :
    wp (goThrough.sweep l) (fun l' => Keeping base names lo l') (fun _ => InOrder base names)
      (InOrder base names) w := by
  refine wp_bind ((since_sweep booked_kept booked_prefix h).mono fun _ w h => ?_)
  obtain ⟨ho, tr, ht, hb⟩ := h
  refine wp_update (fun _ => ⟨ho, tr, ht, hb⟩) fun q hq => ?_
  generalize hup : l.upTo q = upTo
  refine ⟨ho, (((l.names.drop l.passed).take (upTo - l.passed)).map fun name =>
    .log (.reached name)).reverse ++ .read q :: tr, ?_, fun hc => ?_⟩
  · rw [List.append_assoc, List.cons_append, ← ht]
    rfl
  · have hfeed : Counted tr := fun g r hm => hc g r (List.mem_append_right _
      (List.mem_cons_of_mem _ hm))
    have hbook := hb hfeed
    obtain ⟨g, hg⟩ := hbook.count q hq
    unfold goThrough.Vars.upTo at hup
    exact hbook.update hq (hfeed g q hg) (by omega)

/-- A refresh leaves the place in the list. -/
theorem keeping_refresh (h : Keeping base names lo l w) :
    wp (goThrough.refresh p l)
      (turnPost (fun l' => Keeping base names lo l') (Closed base names))
      (fun _ => InOrder base names) (InOrder base names) w := by
  rw [goThrough.refresh_eq]
  refine wp_bind ((wp_resolveAhead p keeping_stable _ h).mono fun fresh w h => ?_)
  obtain ⟨h, hnames⟩ := h
  refine wp_decide_goThrough (fun _ => h) (fun _ _ _ => h.inOrder) (fun _ _ _ _ _ => h)
    fun route d hf _ _ => ?_
  refine (since_sendThrough booked_kept booked_prefix (route.map (·.2))
    (Keeping.reset (h.record (e := .log (.routeMoved _ _)) booked_kept rfl))).mono fun r w h => ?_
  cases r with
  | none => exact h
  | some r =>
    refine h.imp fun tr k hb => hb.resend ?_ r.1 r.2
    rw [allResolved_names hf, hnames, ahead_names hb.goals]

/-- What is ahead when the route has failed was not logged. -/
theorem Keeping.closed (h : Keeping base names lo l w) :
    Closed base names (l.names.drop l.passed) w := by
  obtain ⟨-, tr, ht, hb⟩ := h
  exact ⟨tr, ht, fun hc => ⟨(hb hc).logged, (hb hc).noZeroRead hc⟩⟩

/-- When the route has succeeded, what is ahead is logged too. -/
theorem Keeping.closed_all (h : Keeping base names lo l w) :
    Closed base names [] (w.logReached (l.names.drop l.passed)) := by
  obtain ⟨-, tr, ht, hb⟩ := h
  refine ⟨((l.names.drop l.passed).map fun name => .log (.reached name)).reverse ++ tr, ?_,
    fun hc => ?_⟩
  · rw [List.append_assoc, ← ht]
    rfl
  · have hc' : Counted tr := fun g q hm => hc g q (List.mem_append_right _ hm)
    refine ⟨?_, fun q hq => ?_⟩
    · rw [reachedLog_append, List.append_nil, (hb hc').logged]
    · exact (hb hc').noZeroRead hc' q (mem_of_logReached (by simp) hq)

theorem keeping_turn (h : Keeping base names lo l w) :
    wp (goThrough.turn p l)
      (turnPost (fun l' => Keeping base names lo l') (Closed base names))
      (fun _ => InOrder base names) (InOrder base names) w := by
  refine wp_turn_goThrough (fun hno => absurd (h.1.symm.trans hno) (by simp))
    (fun _ => keeping_sweep h) (fun l w h _ => ?_) (fun l w status h _ _ => ?_)
    (fun l w h _ _ => ?_) fun _ _ h _ => h
  · have hforget : Keeping base names lo l w.forget := h
    exact hforget.closed_all
  · have hforget : Keeping base names lo l w.forget := h
    exact Keeping.closed (hforget.record booked_kept rfl)
  · exact keeping_refresh p (h.imp fun _ _ hb => { hb with })

theorem blank_resolveRoute (names ns : List String) (h : Since base (fun tr _ => Blank tr) w) :
    wp (resolveRoute p ns)
      (fun r w => Since base (fun tr _ => Blank tr) w ∧
        ∀ goals, r = some goals → goals.length = ns.length)
      (fun _ => InOrder base names) (InOrder base names) w := by
  have hstable : Stable (Since base fun tr _ => Blank tr) (fun _ => InOrder base names)
      (InOrder base names) := since_stable blank_kept fun tr _ h => h.logged ▸ List.nil_prefix
  exact wp_resolveRoute p hstable ns h

theorem Since.unsent (h : Since base (fun tr _ => Blank tr) w) : Closed base names names w := by
  obtain ⟨-, tr, ht, hb⟩ := h
  exact ⟨tr, ht, fun hc => ⟨by rw [(hb hc).logged]; rfl, fun q hq => absurd hq ((hb hc).reads q)⟩⟩

theorem unread_sendThrough (names : List String) (goals : List (PoseStamped G))
    (h : Since base (fun tr _ => Blank tr) w) :
    wp (sendThrough goals) (fun _ => Since base Unread) (fun _ => InOrder base names)
      (InOrder base names) w := by
  have hreset : Since base Unread { w with posesRemaining := none } := by
    obtain ⟨ho, tr, ht, hb⟩ := h
    exact ⟨ho, tr, ht, fun hc => ⟨hb hc, nofun⟩⟩
  exact since_sendThrough unread_kept (fun _ _ h => h.1.logged ▸ List.nil_prefix) goals hreset

theorem Since.start (h : Since base Unread w) (hne : names ≠ []) {goals : List (PoseStamped G)}
    (hlen : goals.length = names.length) (handle resultFuture : GoalId) (nextRefresh : Int) :
    Keeping base names 0 { names, goals, handle, resultFuture, nextRefresh, passed := 0 } w :=
  h.imp fun _ _ hb => hb.booked rfl hlen rfl hne

theorem keeping_goThrough (hne : names ≠ []) (hok : w.ok = true) :
    wp (goThrough p names) (Closed w.trace names) (fun _ => InOrder w.trace names)
      (InOrder w.trace names) w := by
  have hblank : Since w.trace (fun tr _ => Blank tr) w := ⟨hok, [], rfl, fun _ => ⟨rfl, by simp⟩⟩
  refine wp_bind ((blank_resolveRoute p names names hblank).mono fun r w₁ h => ?_)
  obtain ⟨h, hlen⟩ := h
  cases r with
  | none => exact wp_pure h.unsent
  | some goals =>
    refine wp_bind (wp_log (wp_bind ?_))
    refine (unread_sendThrough names goals (h.record blank_kept rfl)).mono fun r w₂ h => ?_
    cases r with
    | none => exact wp_pure (h.imp fun _ _ hu => hu.1).unsent
    | some r =>
      refine wp_bind (wp_get ?_)
      exact wp_loop (Keeping w.trace names 0) (fun l w h => keeping_turn p h)
        (fun _ _ h => h.inOrder) (h.start hne (hlen goals rfl) _ _ _)

/-! ## Turn by turn -/

variable {p} {ins rest : List (Tick G)} {h h' u u' : At (goThrough.Vars G) (Tick G) (World G)}

theorem goThrough.Enters.keeping {w₀ : World G} (he : goThrough.Enters p names ins w₀ h)
    (hne : names ≠ []) (hok : w₀.ok = true) : Keeping w₀.trace names 0 h.var h.state := by
  obtain ⟨hr, hs⟩ := he
  have hblank : Since w₀.trace (fun tr _ => Blank tr) w₀ :=
    ⟨hok, [], rfl, fun _ => ⟨rfl, by simp⟩⟩
  obtain ⟨h, hlen⟩ := (blank_resolveRoute p names names hblank).ret hr
  have hsent := (unread_sendThrough names _ (h.record
    (e := .log (.drivingThrough (names.zip _))) blank_kept rfl)).ret hs
  exact hsent.start hne (hlen _ rfl) _ _ _

theorem goThrough.Heads.keeping {w₀ : World G} (hh : goThrough.Heads p names ins w₀ h)
    (hne : names ≠ []) (hok : w₀.ok = true) : Keeping w₀.trace names 0 h.var h.state := by
  obtain ⟨h₀, he, ht⟩ := hh
  exact ht.inv (fun l w h => keeping_turn p h) (he.keeping hne hok)

/-- A turn of `go_through` from `h` has read the feedback, and goes on from `u`. -/
def goThrough.Updates (p : Params G) (names : List String) (ins : List (Tick G)) (w₀ : World G)
    (h u : At (goThrough.Vars G) (Tick G) (World G)) : Prop :=
  goThrough.Heads p names ins w₀ h ∧ h.state.ok = true ∧
    (goThrough.sweep h.var).run h.rest h.state = .ret u.var u.rest u.state

/-- From one update to a later one the place in the list does not go back. -/
theorem goThrough.Updates.forward {w₀ : World G} (hu : goThrough.Updates p names ins w₀ h u)
    (ht : Turns (goThrough.turn p) h h') (hu' : goThrough.Updates p names ins w₀ h' u')
    (hk : Keeping base names lo u.var u.state) : Keeping base names lo u'.var u'.state := by
  rcases ht.first with rfl | ⟨h₁, hn, ht⟩
  · have he := hu.2.2.symm.trans hu'.2.2
    injection he with hvar _ hstate
    rwa [← hvar, ← hstate]
  · have hhead : Keeping base names lo h₁.var h₁.state := by
      obtain ⟨-, l', ins₁, w₁, hs, -, hnext⟩ := goThrough.turn_next hn
      have he := hu.2.2.symm.trans hs
      injection he with hvar hrest hstate
      subst hvar hstate
      rcases hnext with ⟨-, hr⟩ | ⟨-, hl, -, hw⟩
      · have hdue : Keeping base names lo
            { u.var with nextRefresh := u.state.now + p.refreshPeriod } u.state :=
          hk.imp fun _ _ hb => { hb with }
        exact (keeping_refresh p hdue).ret hr
      · rwa [hl, hw]
    have hhead' : Keeping base names lo h'.var h'.state :=
      ht.inv (fun l w h => keeping_turn p h) hhead
    exact (keeping_sweep hhead').ret hu'.2.2

/-- What a feedback update leaves, since the trace was `base`. -/
structure Placed (names : List String) (l : goThrough.Vars G) (tr : List (Entry G)) : Prop where
  suffix : l.names <:+ names
  bound : l.position names.length ≤ names.length - 1
  reads : ∀ q, .read q ∈ tr → names.length - q ≤ l.position names.length

theorem Booked.placed (h : Booked names lo l tr k) : Placed names l tr where
  suffix := h.suffix
  bound := by
    have := h.ahead
    unfold goThrough.Vars.position
    omega
  reads := h.reads

/-- **`go_through`'s bookkeeping is right under any order of feedback**, as long as every count
processed is at least 1. -/
theorem goThrough_books (p : Params G) (names : List String) (hne : names ≠ [])
    (ins : List (Tick G)) (w₀ : World G) (hok : w₀.ok = true) :
    -- in every run so far, waypoints are logged in order and each at most once
    (∃ tr, ((goThrough p names).run ins w₀).state.trace = tr ++ w₀.trace ∧
      (Counted tr → reachedLog tr <+: names)) ∧
    -- after every update the loop knows its place, which never goes back
    (∀ h u, goThrough.Updates p names ins w₀ h u →
      ∃ tr, u.state.trace = tr ++ w₀.trace ∧ (Counted tr → Placed names u.var tr)) ∧
    (∀ h u h' u', goThrough.Updates p names ins w₀ h u → goThrough.Updates p names ins w₀ h' u' →
      Turns (goThrough.turn p) h h' → ∃ tr, u'.state.trace = tr ++ w₀.trace ∧
        (Counted tr → u.var.position names.length ≤ u'.var.position names.length)) ∧
    -- what is returned is what was not logged, and nothing if the tracked goal SUCCEEDED
    ∀ left rest w, (goThrough p names).run ins w₀ = .ret left rest w →
      ∃ tr, w.trace = tr ++ w₀.trace ∧ (Counted tr →
        reachedLog tr ++ left = names ∧ (left = [] ↔ Succeeded tr w)) := by
  have hrun : wp (goThrough p names) (Closed w₀.trace names) (fun _ => InOrder w₀.trace names)
      (InOrder w₀.trace names) w₀ := keeping_goThrough p hne hok
  refine ⟨?_, fun h u hu => ?_, fun h u h' u' hu hu' ht => ?_, fun left rest w hr => ?_⟩
  · refine hrun.state (fun left w h => ?_) (fun _ _ h => h) (fun _ h => h) ins
    obtain ⟨tr, ht, hb⟩ := h
    exact ⟨tr, ht, fun hc => ⟨left, (hb hc).1⟩⟩
  · have hk : Keeping w₀.trace names 0 u.var u.state :=
      (keeping_sweep (hu.1.keeping hne hok)).ret hu.2.2
    obtain ⟨-, tr, ht, hb⟩ := hk
    exact ⟨tr, ht, fun hc => (hb hc).placed⟩
  · have hk : Keeping w₀.trace names 0 u.var u.state :=
      (keeping_sweep (hu.1.keeping hne hok)).ret hu.2.2
    have hhere : Keeping w₀.trace names (u.var.position names.length) u.var u.state :=
      hk.imp fun _ _ hb => { hb with since := le_rfl }
    obtain ⟨-, tr, htr, hb⟩ := hu.forward ht hu' hhere
    exact ⟨tr, htr, fun hc => (hb hc).since⟩
  · obtain ⟨tr, ht, hb⟩ := hrun.ret hr
    have hdone := (through_goThrough p (through_start (n := names) hok)).ret hr
    obtain ⟨tr', ht', -, hverdict⟩ := hdone
    obtain rfl : tr = tr' := List.append_cancel_right (ht.symm.trans ht')
    refine ⟨tr, ht, fun hc => ⟨(hb hc).1, hverdict (le_remaining.2 ⟨?_, (hb hc).2⟩)⟩⟩
    have := List.length_pos_iff.2 hne
    omega

end Methods

theorem goThrough_books_resent :
    let w := ((goThrough twoWaypoints ["wp1", "wp2"]).run routeResent {}).state
    (∃ h u, goThrough.Updates twoWaypoints ["wp1", "wp2"] routeResent {} h u ∧
      u.var.position 2 = 1) ∧
    w.goals.length = 2 ∧ reachedLog w.trace = ["wp1", "wp2"] ∧ Succeeded w.trace w := by
  obtain ⟨tr, ht, h⟩ := (goThrough_books twoWaypoints ["wp1", "wp2"] (by decide) routeResent {}
    rfl).2.2.2 [] [] _ rfl
  obtain rfl : _ = tr := ht.trans (List.append_nil tr)
  obtain ⟨hlog, hverdict⟩ := h (by decide)
  refine ⟨⟨_, ⟨_, _, _⟩, ⟨⟨_, .intro rfl rfl, .refl _⟩, rfl, rfl⟩, rfl⟩, rfl, ?_, hverdict.1 rfl⟩
  exact (List.append_nil _).symm.trans hlog

end Mission
