import Kratos.Bringup.LidarIp
import Mathlib.Data.List.Basic

/-!
# Which LiDAR is found

`reachable_neighbours` finds the candidates that a table lists as reachable
(`mem_reachableNeighbours`), and `pick` takes a known unit if it is given one (`pick_known`). The
loop hands it the first hits there are (`pollUntil_cases`): so what is found is listed in a table
that was read, but a known unit that is listed in the time the search may take is found only if no
other LiDAR is listed before all known units (`found_known_iff`, `prefersKnown_iff`).
-/

namespace Bringup

/-! ## Tables -/

/-- A line of the table gives the address as reachable, with a link-layer address. -/
def Listed (table ip : String) : Prop :=
  ∃ line ∈ splitlines table, ∃ words, split line = ip :: words ∧ "lladdr" ∈ words ∧
    words.getLast? = some "REACHABLE"

theorem reachableLine_eq_some {candidates : List String} (hcand : "lladdr" ∉ candidates)
    {line ip : String} : reachableLine candidates line = some ip ↔
      (ip ∈ candidates ∧ ip ≠ HOST_IP) ∧ ∃ words, split line = ip :: words ∧ "lladdr" ∈ words ∧
        words.getLast? = some "REACHABLE" := by
  unfold reachableLine
  refine ⟨fun h => ?_, fun hm => ?_⟩
  · split at h
    · rename_i first part parts hsplit
      split at h
      · cases h
      · rename_i hcounts
        split at h
        · rename_i hlisted
          obtain rfl := Option.some.inj h
          push Not at hcounts
          refine ⟨hcounts, part :: parts, hsplit, ?_, hlisted.2⟩
          rcases List.mem_cons.1 hlisted.1 with hfirst | hwords
          · exact absurd (hfirst ▸ hcounts.1) hcand
          · exact hwords
        · cases h
    · cases h
  · obtain ⟨⟨hmem, hhost⟩, words, hsplit, hlladdr, hlast⟩ := hm
    rw [hsplit]
    cases words with
    | nil => simp at hlladdr
    | cons part parts =>
      dsimp only
      rw [if_neg (by simp [hmem, hhost]), if_pos ⟨List.mem_cons_of_mem _ hlladdr, hlast⟩]

theorem mem_reachableNeighbours {candidates : List String} (hcand : "lladdr" ∉ candidates)
    {table ip : String} : ip ∈ reachableNeighbours table candidates ↔
      (ip ∈ candidates ∧ ip ≠ HOST_IP) ∧ Listed table ip := by
  unfold reachableNeighbours Listed
  rw [List.mem_filterMap]
  simp only [reachableLine_eq_some hcand]
  refine ⟨fun hm => ?_, fun hm => ?_⟩
  · obtain ⟨line, hline, hip, words⟩ := hm
    exact ⟨hip, line, hline, words⟩
  · obtain ⟨hip, line, hline, words⟩ := hm
    exact ⟨line, hline, hip, words⟩

theorem candidates_spec : "lladdr" ∉ CANDIDATES ∧ HOST_IP ∉ CANDIDATES ∧
    ∀ ip ∈ KNOWN_UNITS, ip ∈ CANDIDATES := by decide +kernel

/-- Neither the host nor a word of a table is a candidate. -/
theorem mem_reachable {table ip : String} :
    ip ∈ reachableNeighbours table CANDIDATES ↔ ip ∈ CANDIDATES ∧ Listed table ip := by
  rw [mem_reachableNeighbours candidates_spec.1]
  refine ⟨fun hm => ?_, fun hm => ?_⟩
  · obtain ⟨⟨hmem, -⟩, hlisted⟩ := hm
    exact ⟨hmem, hlisted⟩
  · obtain ⟨hmem, hlisted⟩ := hm
    exact ⟨⟨hmem, fun he => candidates_spec.2.1 (he ▸ hmem)⟩, hlisted⟩

/-! ## Choosing -/

theorem pick_mem {hits : List String} {ip : String} (h : pick hits = some ip) : ip ∈ hits := by
  unfold pick at h
  cases hknown : KNOWN_UNITS.find? (· ∈ hits) with
  | none =>
    rw [hknown] at h
    exact List.mem_of_head? h
  | some known =>
    rw [hknown] at h
    obtain rfl := Option.some.inj h
    simpa using List.find?_some hknown

theorem pick_eq_none {hits : List String} : pick hits = none ↔ hits = [] := by
  refine ⟨fun h => ?_, fun hm => ?_⟩
  · unfold pick at h
    cases hknown : KNOWN_UNITS.find? (· ∈ hits) with
    | none =>
      rw [hknown] at h
      exact List.head?_eq_none_iff.1 h
    | some known =>
      rw [hknown] at h
      cases h
  · obtain rfl := hm
    rfl

/-- A known unit is picked iff there is one. -/
theorem pick_known {hits : List String} :
    (∃ ip ∈ KNOWN_UNITS, pick hits = some ip) ↔ ∃ ip ∈ KNOWN_UNITS, ip ∈ hits := by
  refine ⟨fun hm => ?_, fun hm => ?_⟩
  · obtain ⟨ip, hknown, hpick⟩ := hm
    exact ⟨ip, hknown, pick_mem hpick⟩
  · obtain ⟨ip, hknown, hhit⟩ := hm
    have hsome : (KNOWN_UNITS.find? (· ∈ hits)).isSome = true :=
      List.find?_isSome.2 ⟨ip, hknown, by simpa using hhit⟩
    obtain ⟨known, hfind⟩ := Option.isSome_iff_exists.1 hsome
    refine ⟨known, List.mem_of_find?_eq_some hfind, ?_⟩
    unfold pick
    rw [hfind]
    rfl

/-! ## The loop -/

/-- The rounds that the deadline gives time for, also after the search has ended. -/
def window (deadline : ℚ) (polls : List Poll) : List Poll :=
  polls.takeWhile fun poll => poll.now < deadline

/-- **The loop ends at the first hits of the window**, if there are any. -/
theorem pollUntil_cases (deadline : ℚ) (candidates : List String) (polls : List Poll) :
    ((∀ poll ∈ window deadline polls, reachableNeighbours poll.table candidates = []) ∧
      pollUntil deadline candidates polls = ([], (window deadline polls).map Poll.table)) ∨
    ∃ pre poll post, window deadline polls = pre ++ poll :: post ∧
      (∀ earlier ∈ pre, reachableNeighbours earlier.table candidates = []) ∧
      reachableNeighbours poll.table candidates ≠ [] ∧
      pollUntil deadline candidates polls =
        (reachableNeighbours poll.table candidates, (pre ++ [poll]).map Poll.table) := by
  induction polls with
  | nil => exact .inl ⟨by simp [window], rfl⟩
  | cons poll polls ih =>
    by_cases hnow : poll.now < deadline
    · have hw : window deadline (poll :: polls) = poll :: window deadline polls := by
        simp [window, hnow]
      rw [hw, pollUntil, if_pos hnow]
      cases hhits : reachableNeighbours poll.table candidates with
      | nil =>
        dsimp only
        rcases ih with ⟨hnone, he⟩ | ⟨pre, first, post, hsplit, hpre, hfirst, he⟩
        · refine .inl ⟨List.forall_mem_cons.2 ⟨hhits, hnone⟩, ?_⟩
          rw [he]
          rfl
        · refine .inr ⟨poll :: pre, first, post, ?_, List.forall_mem_cons.2 ⟨hhits, hpre⟩,
            hfirst, ?_⟩
          · rw [hsplit]
            rfl
          · rw [he]
            rfl
      | cons hit hits =>
        refine .inr ⟨[], poll, window deadline polls, rfl, by simp, by simp [hhits], ?_⟩
        rw [hhits]
        rfl
    · have hw : window deadline (poll :: polls) = [] := by simp [window, hnow]
      rw [hw, pollUntil, if_neg hnow]
      exact .inl ⟨by simp, rfl⟩

/-! ## What is found -/

/-- What is promised of a search, with `rounds` the rounds it has time for. -/
structure PrefersKnown (found : Search) (rounds : List Poll) : Prop where
  known : (∃ poll ∈ rounds, ∃ ip ∈ KNOWN_UNITS, Listed poll.table ip) →
    ∃ ip ∈ KNOWN_UNITS, found.ip = some ip
  listed : ∀ ip, found.ip = some ip → ip ∈ CANDIDATES ∧ ∃ table ∈ found.tables, Listed table ip
  none : found.ip = none → ∀ table ∈ found.tables, ∀ ip ∈ CANDIDATES, ¬ Listed table ip

theorem no_hits_iff {table : String} :
    reachableNeighbours table CANDIDATES = [] ↔ ∀ ip ∈ CANDIDATES, ¬ Listed table ip := by
  rw [List.eq_nil_iff_forall_not_mem]
  simp only [mem_reachable, not_and]

theorem known_hit_iff {table : String} :
    (∃ ip ∈ KNOWN_UNITS, ip ∈ reachableNeighbours table CANDIDATES) ↔
      ∃ ip ∈ KNOWN_UNITS, Listed table ip := by
  refine exists_congr fun ip => and_congr_right fun hknown => ?_
  rw [mem_reachable]
  exact and_iff_right (candidates_spec.2.2 ip hknown)

theorem findLidarIp_none (start waitS : ℚ) (polls : List Poll) :
    findLidarIp none start polls waitS =
      ⟨pick (pollUntil (start + waitS) CANDIDATES polls).1, CANDIDATES,
        (pollUntil (start + waitS) CANDIDATES polls).2⟩ := rfl

/-- There is one first poll with hits at the most. -/
theorem first_unique {pre pre' post post' : List Poll} {poll poll' : Poll}
    (hsplit : pre ++ poll :: post = pre' ++ poll' :: post')
    (hpre : ∀ q ∈ pre, reachableNeighbours q.table CANDIDATES = [])
    (hpre' : ∀ q ∈ pre', reachableNeighbours q.table CANDIDATES = [])
    (hpoll : reachableNeighbours poll.table CANDIDATES ≠ [])
    (hpoll' : reachableNeighbours poll'.table CANDIDATES ≠ []) : poll = poll' := by
  let hit : Poll → Bool := fun q => !(reachableNeighbours q.table CANDIDATES).isEmpty
  have hfirst : (pre ++ poll :: post).find? hit = some poll :=
    List.find?_eq_some_iff_append.2 ⟨by simpa [hit] using hpoll, pre, post, rfl, by
      simpa [hit] using hpre⟩
  have hfirst' : (pre' ++ poll' :: post').find? hit = some poll' :=
    List.find?_eq_some_iff_append.2 ⟨by simpa [hit] using hpoll', pre', post', rfl, by
      simpa [hit] using hpre'⟩
  rw [hsplit, hfirst'] at hfirst
  exact (Option.some.inj hfirst).symm

theorem hits_of_known {table : String} (h : ∃ ip ∈ KNOWN_UNITS, Listed table ip) :
    reachableNeighbours table CANDIDATES ≠ [] := by
  obtain ⟨ip, -, hhit⟩ := known_hit_iff.2 h
  exact List.ne_nil_of_mem hhit

/-- What is found has been listed, and nothing is found only if nothing has. -/
theorem findLidarIp_listed (start waitS : ℚ) (polls : List Poll) :
    (∀ ip, (findLidarIp none start polls waitS).ip = some ip → ip ∈ CANDIDATES ∧
        ∃ table ∈ (findLidarIp none start polls waitS).tables, Listed table ip) ∧
      ((findLidarIp none start polls waitS).ip = none →
        ∀ table ∈ (findLidarIp none start polls waitS).tables,
          ∀ ip ∈ CANDIDATES, ¬ Listed table ip) := by
  rw [findLidarIp_none]
  rcases pollUntil_cases (start + waitS) CANDIDATES polls with
    ⟨hnone, he⟩ | ⟨pre, poll, post, -, -, hpoll, he⟩
  · rw [he]
    refine ⟨fun ip h => absurd (pick_mem h) List.not_mem_nil, fun _ table htable => ?_⟩
    obtain ⟨poll, hpoll, rfl⟩ := List.mem_map.1 htable
    exact no_hits_iff.1 (hnone poll hpoll)
  · rw [he]
    refine ⟨fun ip h => ?_, fun h => absurd (pick_eq_none.1 h) hpoll⟩
    obtain ⟨hmem, hlisted⟩ := mem_reachable.1 (pick_mem h)
    exact ⟨hmem, poll.table, by simp, hlisted⟩

/-- A known unit is found iff the first round with a candidate has one. -/
theorem found_known_iff (start waitS : ℚ) (polls : List Poll) :
    (∃ ip ∈ KNOWN_UNITS, (findLidarIp none start polls waitS).ip = some ip) ↔
      ∃ pre poll post, window (start + waitS) polls = pre ++ poll :: post ∧
        (∀ earlier ∈ pre, ∀ ip ∈ CANDIDATES, ¬ Listed earlier.table ip) ∧
        ∃ ip ∈ KNOWN_UNITS, Listed poll.table ip := by
  have hcases := pollUntil_cases (start + waitS) CANDIDATES polls
  rw [findLidarIp_none]
  dsimp only
  rw [pick_known]
  refine ⟨fun h => ?_, fun hm => ?_⟩
  · rcases hcases with ⟨-, he⟩ | ⟨pre, poll, post, hsplit, hpre, -, he⟩
    · rw [he] at h
      obtain ⟨ip, -, hmem⟩ := h
      exact absurd hmem List.not_mem_nil
    · rw [he] at h
      exact ⟨pre, poll, post, hsplit, fun q hq => no_hits_iff.1 (hpre q hq), known_hit_iff.1 h⟩
  · obtain ⟨pre, poll, post, hsplit, hpre, hknown⟩ := hm
    have hpoll := hits_of_known hknown
    rcases hcases with ⟨hno, -⟩ | ⟨pre', first, post', hsplit', hpre', hfirst, he⟩
    · exact absurd (hno poll (by simp [hsplit])) hpoll
    · have hsame : poll = first := first_unique (hsplit.symm.trans hsplit')
        (fun q hq => no_hits_iff.2 (hpre q hq)) hpre' hpoll hfirst
      rw [he, ← hsame]
      exact known_hit_iff.2 hknown

/-- **A known unit is preferred** iff none is listed in time, or one is listed as early as any
candidate. What is found has been listed, in any case. -/
theorem prefersKnown_iff (start waitS : ℚ) (polls : List Poll) :
    PrefersKnown (findLidarIp none start polls waitS) (window (start + waitS) polls) ↔
      (∀ poll ∈ window (start + waitS) polls, ∀ ip ∈ KNOWN_UNITS, ¬ Listed poll.table ip) ∨
        ∃ pre poll post, window (start + waitS) polls = pre ++ poll :: post ∧
          (∀ earlier ∈ pre, ∀ ip ∈ CANDIDATES, ¬ Listed earlier.table ip) ∧
          ∃ ip ∈ KNOWN_UNITS, Listed poll.table ip := by
  obtain ⟨hlisted, hnone⟩ := findLidarIp_listed start waitS polls
  rw [← found_known_iff]
  refine ⟨fun h => ?_, fun h => ?_⟩
  · by_cases hany : ∃ poll ∈ window (start + waitS) polls, ∃ ip ∈ KNOWN_UNITS, Listed poll.table ip
    · exact .inr (h.known hany)
    · left
      intro poll hpoll ip hknown hip
      exact hany ⟨poll, hpoll, ip, hknown, hip⟩
  · refine ⟨?_, hlisted, hnone⟩
    rintro ⟨poll, hpoll, ip, hknown, hip⟩
    exact h.resolve_left fun hno => hno poll hpoll ip hknown hip

/-- The table of another LiDAR that answers, and of a known unit in a state. -/
def tableWith (state : String) : String :=
  "192.168.1.140 dev eth0 lladdr 00:11:22:33:44:55 REACHABLE\n" ++
    "192.168.1.162 dev eth0 lladdr e4:7a:2c:6e:fb:56 " ++ state ++ "\n"

/-- The known unit answers in the second round. -/
def lateUnit : List Poll := [⟨0, tableWith "STALE"⟩, ⟨1 / 4, tableWith "REACHABLE"⟩]

theorem prefersKnown_lateUnit :
    (findLidarIp none 0 lateUnit).ip = some "192.168.1.140" ∧
      ¬ PrefersKnown (findLidarIp none 0 lateUnit) (window (0 + 8) lateUnit) := by
  have hfound : (findLidarIp none 0 lateUnit).ip = some "192.168.1.140" := by decide +kernel
  refine ⟨hfound, fun h => ?_⟩
  have hwindow : window (0 + 8) lateUnit = lateUnit := by decide +kernel
  have hlate : "192.168.1.162" ∈ reachableNeighbours (tableWith "REACHABLE") CANDIDATES := by
    decide +kernel
  rw [hwindow] at h
  obtain ⟨ip, hknown, hip⟩ := h.known ⟨⟨1 / 4, tableWith "REACHABLE"⟩, by simp [lateUnit],
    "192.168.1.162", by decide, (mem_reachable.1 hlate).2⟩
  rw [hfound] at hip
  obtain rfl := Option.some.inj hip
  exact absurd hknown (by decide)

end Bringup
