import Mathlib.Algebra.Order.BigOperators.Group.Finset
import Mathlib.Data.Prod.Lex
import Kratos.Livox.Proof.Wake

/-!
# The poll thread comes to rest

Left to itself, the poll thread empties what it finds and ends at `pcd_semaphore_.Wait()` with a count
of 0, or at its return (`rests`): a pop makes `backlog` smaller, a wait makes the count smaller, and
each other turn brings the thread nearer to the end of its sweep. So what has been stored is
published (`delivery`), and on shutdown the thread returns unless it waits already (`shutdown_iff`).
-/

namespace Livox

variable {F : Type} {d : Driver F} {tr : List (Event F)}

namespace Driver

/-- The packets that wait in the queues. -/
def backlog (d : Driver F) : Nat := ∑ i : Index, (d.queue i).queueUsedSize.toNat

/-- How far the poll thread is from the end of its sweep, and then from `Wait` or its return. -/
def distance (d : Driver F) : Nat :=
  match d.poll with
  | .lidars k => 16 * (33 - k) + 5
  | .ifNull j => 16 * (33 - j) + 4
  | .polling j => 16 * (33 - j) - if (d.queue j).queueIsEmpty then 5 else 0
  | .publishing j => 16 * (33 - j) - if (d.queue j).queueIsEmpty then 4 else 1
  | .prePop j => 16 * (33 - j) - 2
  | .baseTime j => 16 * (33 - j) - 3
  | .pointsNum j _ => 16 * (33 - j) - 4
  | .points j _ => 16 * (33 - j) - 5
  | .popUpdate j _ => 16 * (33 - j) - 6
  | .publish j _ => 16 * (33 - j)
  | .status => 3
  | .start => if d.lds.requestExit then 4 else 2
  | .wait => 1
  | .done => 0

def measure (d : Driver F) : Nat ×ₗ Nat ×ₗ Nat :=
  toLex (d.backlog, toLex (d.lds.pcdSemaphore, d.distance))

/-- The driver runs in a format that it can publish, or it has been told to end. -/
def Going (d : Driver F) : Prop :=
  (d.lds.requestExit = false ∧ d.exitSignal = false ∧ (d.transferFormat = 0 ∨ d.transferFormat = 1)) ∨
    (d.lds.requestExit = true ∧ d.exitSignal = true)

/-- The poll thread waits at a count of 0, or has returned. -/
def Rests (d : Driver F) : Prop := (d.poll = .wait ∧ d.lds.pcdSemaphore = 0) ∨ d.poll = .done

end Driver

open Driver

/-! ## A turn of the poll thread -/

theorem measure_poll {pc : PollPc F} (h : distance { d with poll := pc } < d.distance) :
    measure { d with poll := pc } < d.measure :=
  Prod.Lex.toLex_lt_toLex.2 (.inr ⟨rfl, Prod.Lex.toLex_lt_toLex.2 (.inr ⟨rfl, h⟩)⟩)

/-- What is popped was in the queue. -/
theorem backlog_pop {j : Index} {pkg : StoragePacket F} (hf : ∀ i, ∃ q, Feed i d tr q)
    (hpc : d.poll = .popUpdate j pkg) :
    backlog { d with lds := d.lds.setQueue j (·.queuePopUpdate), poll := .publish j pkg } <
      d.backlog := by
  have hqueue : ∀ i, Driver.queue
      { d with lds := d.lds.setQueue j (·.queuePopUpdate), poll := .publish j pkg } i =
        if j = i then (d.queue i).queuePopUpdate else d.queue i := fun _ => setQueue_data _ _ _ _
  obtain ⟨q, h⟩ := hf j
  have hp : PollPc.Ok j q (.popUpdate j pkg) := hpc ▸ h.poll
  obtain ⟨rest, rfl⟩ := hp rfl
  have hring := h.contains.ring_of_ne_nil (List.cons_ne_nil _ _)
  have hlt : (d.queue j).queuePopUpdate.queueUsedSize.toNat < (d.queue j).queueUsedSize.toNat := by
    unfold LidarDataQueue.queueUsedSize
    rw [hring.queuePopUpdate.usedSize, hring.usedSize]
    exact Nat.lt_succ_self _
  unfold backlog
  refine Finset.sum_lt_sum (fun i _ => ?_) ⟨j, Finset.mem_univ j, ?_⟩
  · rw [hqueue]
    split
    · rename_i hj
      subst hj
      exact hlt.le
    · exact le_rfl
  · rw [hqueue, if_pos rfl]
    exact hlt

theorem measure_pollTurn (hgo : d.Going) (hf : ∀ i, ∃ q, Feed i d tr q) (hrest : ¬d.Rests) :
    d.pollTurn.1.measure < d.measure := by
  have hindex : ∀ j : Index, (j : Nat) < 32 := fun j => j.isLt
  have hqueue : ∀ pc i, Driver.queue { d with poll := pc } i = d.queue i := fun _ _ => rfl
  unfold Driver.pollTurn
  cases hpc : d.poll with
  | start =>
    dsimp only
    split
    · rename_i hexit
      exact measure_poll (by simp [distance, hpc, hexit])
    · rename_i hexit
      exact measure_poll (by simp [distance, hpc, hexit])
  | wait =>
    dsimp only
    split
    · rename_i hcount
      exact Prod.Lex.toLex_lt_toLex.2 (.inr ⟨rfl, Prod.Lex.toLex_lt_toLex.2
        (.inl (Nat.sub_lt hcount Nat.one_pos))⟩)
    · rename_i hcount
      exact absurd (.inl ⟨hpc, by omega⟩) hrest
  | lidars k =>
    dsimp only
    split
    · rename_i hk
      have hk' : k < 32 := hk
      split
      · exact measure_poll (by simp only [distance, hpc]; omega)
      · exact measure_poll (by simp only [distance, hpc]; omega)
    · exact measure_poll (by simp only [distance, hpc]; omega)
  | ifNull j =>
    have hj := hindex j
    dsimp only
    split
    · exact measure_poll (by simp only [distance, hpc]; omega)
    · exact measure_poll (by simp only [distance, hpc]; split <;> omega)
  | polling j =>
    have hj := hindex j
    dsimp only
    split
    · rename_i hloop
      rw [Bool.and_eq_true, Bool.not_eq_true', Bool.not_eq_true'] at hloop
      rcases hgo with ⟨-, -, hformat⟩ | ⟨hexit, -⟩
      · rw [if_pos hformat]
        exact measure_poll (by
          simp only [distance, hpc, hqueue, hloop.2, Bool.false_eq_true, if_false]
          omega)
      · rw [hexit] at hloop
        cases hloop.1
    · exact measure_poll (by simp only [distance, hpc]; split <;> omega)
  | publishing j =>
    have hj := hindex j
    dsimp only
    split
    · rename_i hq
      rw [Bool.not_eq_true'] at hq
      exact measure_poll (by
        simp only [distance, hpc, hq, Bool.false_eq_true, if_false]
        omega)
    · rename_i hq
      rw [Bool.not_eq_true', Bool.not_eq_false] at hq
      exact measure_poll (by
        simp only [distance, hpc, hqueue, hq, if_true]
        omega)
  | prePop j =>
    have hj := hindex j
    obtain ⟨q, h⟩ := hf j
    have hp : PollPc.Ok j q (.prePop j) := hpc ▸ h.poll
    obtain ⟨a, rest, rfl⟩ := hp rfl
    dsimp only
    split
    · rename_i hq
      cases h.contains.isEmpty_iff.1 hq
    · exact measure_poll (by simp only [distance, hpc]; omega)
  | baseTime j | pointsNum j pkg | points j pkg =>
    have hj := hindex j
    exact measure_poll (by simp only [distance, hpc]; omega)
  | popUpdate j pkg => exact Prod.Lex.toLex_lt_toLex.2 (.inl (backlog_pop hf hpc))
  | publish j pkg =>
    have hj := hindex j
    exact measure_poll (by simp only [distance, hpc]; split <;> omega)
  | status =>
    dsimp only
    split
    · exact measure_poll (by simp [distance, hpc])
    · rename_i hsignal
      rcases hgo with ⟨hexit, -⟩ | ⟨-, hset⟩
      · exact measure_poll (by simp [distance, hpc, hexit])
      · exact absurd hset hsignal
  | done => exact absurd (.inr hpc) hrest

/-- What decides whether the driver goes on is not the poll thread's to change. -/
theorem pollTurn_keeps (d : Driver F) :
    d.pollTurn.1.lds.requestExit = d.lds.requestExit ∧ d.pollTurn.1.exitSignal = d.exitSignal ∧
      d.pollTurn.1.transferFormat = d.transferFormat := by
  unfold Driver.pollTurn
  split
  all_goals repeat' split
  all_goals exact ⟨rfl, rfl, rfl⟩

theorem pollTurn_going (hgo : d.Going) : d.pollTurn.1.Going := by
  obtain ⟨hexit, hsignal, hformat⟩ := pollTurn_keeps d
  unfold Going
  rw [hexit, hsignal, hformat]
  exact hgo

/-! ## Turns of the poll thread alone -/

theorem rests (hgo : d.Going) (hf : ∀ i, ∃ q, Feed i d tr q) :
    ∃ n, (d.run (List.replicate n .poll)).Rests := by
  induction hm : d.measure using WellFoundedLT.induction generalizing d tr with
  | ind m ih =>
    subst hm
    by_cases hrest : d.Rests
    · exact ⟨0, hrest⟩
    · obtain ⟨n, hn⟩ := ih d.pollTurn.1.measure (measure_pollTurn hgo hf hrest) (pollTurn_going hgo)
        (fun i => (hf i).elim fun _ h => h.pollTurn) rfl
      exact ⟨n + 1, hn⟩

/-- The poll thread alone leaves all but its own place, the queues and the count. -/
theorem run_poll_keeps (d : Driver F) (n : Nat) :
    (d.run (List.replicate n .poll)).store = d.store ∧
      (d.run (List.replicate n .poll)).lds.requestExit = d.lds.requestExit ∧
      (d.run (List.replicate n .poll)).exitSignal = d.exitSignal := by
  induction n generalizing d with
  | zero => exact ⟨rfl, rfl, rfl⟩
  | succ n ih =>
    obtain ⟨hstore, hexit, hsignal⟩ := ih d.pollTurn.1
    obtain ⟨hexit', hsignal', -⟩ := pollTurn_keeps d
    have hstore' := (pollTurn_store (0 : Index) d).2.1
    exact ⟨hstore.trans hstore', hexit.trans hexit', hsignal.trans hsignal'⟩

/-! ## Delivery -/

theorem pointTurn_keeps (d : Driver F) :
    d.pointTurn.1.poll = d.poll ∧ d.pointTurn.1.exitSignal = d.exitSignal ∧
      d.pointTurn.1.transferFormat = d.transferFormat := by
  unfold Driver.pointTurn
  split
  all_goals repeat' split
  all_goals exact ⟨rfl, rfl, rfl⟩

theorem run_transferFormat (d : Driver F) (ts : List Turn) :
    (d.run ts).transferFormat = d.transferFormat := by
  induction ts generalizing d with
  | nil => rfl
  | cons t ts ih =>
    refine (ih (d.turn t).1).trans ?_
    cases t with
    | point => exact (pointTurn_keeps d).2.2
    | poll => exact (pollTurn_keeps d).2.2
    | allot handle | sampling j | requestExit | exitSignal => rfl

theorem pollTurn_done (h : d.pollTurn.1.poll = .done) :
    d.poll = .done ∨ (d.poll = .status ∧ d.exitSignal = true) := by
  unfold Driver.pollTurn at h
  cases hpc : d.poll with
  | done => exact .inl rfl
  | status =>
    rw [hpc] at h
    dsimp only at h
    split at h
    · rename_i hsignal
      exact .inr ⟨rfl, hsignal⟩
    · cases h
  | _ =>
    rw [hpc] at h
    dsimp only at h
    repeat' split at h
    all_goals first
      | cases h
      | exact .inl (hpc.symm.trans h)

theorem pollTurn_wait (h : d.pollTurn.1.poll = .wait) :
    (d.poll = .wait ∧ d.lds.pcdSemaphore = 0 ∧ d.pollTurn.1 = d) ∨
      (d.poll = .start ∧ d.lds.requestExit = false) := by
  unfold Driver.pollTurn at h ⊢
  cases hpc : d.poll with
  | wait =>
    rw [hpc] at h
    dsimp only at h ⊢
    split at h
    · cases h
    · rename_i hcount
      rw [if_neg hcount]
      exact .inl ⟨rfl, Nat.eq_zero_of_not_pos hcount, rfl⟩
  | start =>
    rw [hpc] at h
    dsimp only at h
    split at h
    · cases h
    · rename_i hexit
      exact .inr ⟨rfl, Bool.eq_false_iff.2 hexit⟩
  | _ =>
    rw [hpc] at h
    dsimp only at h
    repeat' split at h
    all_goals first
      | cases h
      | cases hpc.symm.trans h

/-- The poll thread returns at `exit_signal_` only. -/
theorem exitSignal_of_done (h : d.poll = .done → d.exitSignal = true) (ts : List Turn) :
    (d.run ts).poll = .done → (d.run ts).exitSignal = true := by
  induction ts generalizing d with
  | nil => exact h
  | cons t ts ih =>
    refine ih (d := (d.turn t).1) ?_
    cases t with
    | point =>
      obtain ⟨hpoll, hsignal, -⟩ := pointTurn_keeps d
      rw [Driver.turn, hpoll, hsignal]
      exact h
    | poll =>
      rw [Driver.turn, (pollTurn_keeps d).2.1]
      intro hdone
      rcases pollTurn_done hdone with hpc | ⟨-, hsignal⟩
      · exact h hpc
      · exact hsignal
    | allot handle | sampling j | requestExit => exact h
    | exitSignal => exact fun _ => rfl

/-- While a LiDAR is seen to, some turns of the poll thread publish what has been stored of it. -/
theorem delivered (hgo : d.Going) (hf : ∀ i, ∃ q, Feed i d tr q) (hwake : Wake i d)
    (hexit : d.lds.requestExit = false) (hsignal : d.exitSignal = false)
    (hdone : d.poll = .done → d.exitSignal = true) (hstore : ¬d.store.Signals i) :
    ∃ n, publishedIn i (tr ++ d.trace (List.replicate n .poll)) =
      (storedIn i (tr ++ d.trace (List.replicate n .poll))).filter
        fun pkg => decide (pkg.points ≠ []) := by
  obtain ⟨n, hn⟩ := rests hgo hf
  obtain ⟨hstore', hexit', hsignal'⟩ := run_poll_keeps d n
  rcases hn with ⟨hwait, hcount⟩ | hend
  · obtain ⟨q, hq⟩ := hf i
    obtain ⟨q', hq'⟩ := hq.run (List.replicate n .poll)
    refine ⟨n, hq'.published_of_wait (hwake.run hq _) ?_ hwait hcount ?_⟩
    · rw [hexit', hexit]
    · rw [hstore']
      exact hstore
  · have hset := exitSignal_of_done hdone (List.replicate n .poll) hend
    rw [hsignal', hsignal] at hset
    cases hset

/-- **Whatever has been stored of a sampling LiDAR is published** once the poll thread gets its turns,
from any state in which the point thread is not about to signal. -/
theorem delivery (lds : Lds F) (transferFormat : UInt8) (frames : List (PointFrame F))
    (ts ts' : List Turn) (t : Turn) (i : Index) (packet : StoragePacket F)
    (hformat : transferFormat = 0 ∨ transferFormat = 1)
    (hsampling :
      (((Driver.init lds transferFormat frames).run ts).lds.lidars i).connectState = .sampling)
    (hev : (((Driver.init lds transferFormat frames).run ts).turn t).2 = some (.stored i packet)) :
    let d₀ : Driver F := .init lds transferFormat frames
    let d := d₀.run (ts ++ t :: ts')
    d.lds.requestExit = false → d.exitSignal = false → ¬d.store.Signals i →
      ∃ n, publishedIn i (d₀.trace (ts ++ t :: (ts' ++ List.replicate n .poll))) =
        (storedIn i (d₀.trace (ts ++ t :: (ts' ++ List.replicate n .poll)))).filter
          fun pkg => decide (pkg.points ≠ []) := by
  intro d₀ d hexit hsignal hstore
  have hgo : d.Going :=
    .inl ⟨hexit, hsignal, by rw [show d.transferFormat = _ from run_transferFormat _ _]; exact hformat⟩
  obtain ⟨_, hf⟩ := (feed_init lds transferFormat frames i).run ts
  obtain ⟨n, hn⟩ := delivered hgo
    (fun j => (feed_init lds transferFormat frames j).run (ts ++ t :: ts'))
    (Wake.run_of_stored hf hsampling hev ts') hexit hsignal
    (exitSignal_of_done (d := d₀) (fun h => by cases h) _) hstore
  refine ⟨n, ?_⟩
  rw [List.nil_append, ← trace_append, List.append_assoc, List.cons_append] at hn
  exact hn

theorem delivery_one : ∃ n, publishedIn 0 ((Driver.init oneLds 1 [[(7, onePacket)]]).trace
      (oneStored ++ .point :: (List.replicate 4 .point ++ List.replicate n .poll))) =
    (storedIn 0 ((Driver.init oneLds 1 [[(7, onePacket)]]).trace
      (oneStored ++ .point :: (List.replicate 4 .point ++ List.replicate n .poll)))).filter
        fun pkg => decide (pkg.points ≠ []) :=
  delivery oneLds 1 [[(7, onePacket)]] oneStored (List.replicate 4 .point) .point 0
    (packetOf (7, onePacket)) (.inr rfl) (by decide +kernel) (by decide +kernel) (by decide +kernel)
    (by decide +kernel) (by decide +kernel)

/-! ## Shutdown -/

/-- The poll thread waits, and nothing is left that could signal. -/
structure Stuck (d : Driver F) : Prop where
  wait : d.poll = .wait
  count : d.lds.pcdSemaphore = 0
  idle : d.store = .idle
  frames : d.frames = []

theorem Stuck.turn (h : Stuck d) (t : Turn) : Stuck (d.turn t).1 := by
  cases t with
  | point =>
    have hturn : d.pointTurn.1 = d := by
      unfold Driver.pointTurn
      rw [h.idle, h.frames]
    exact hturn.symm ▸ h
  | poll =>
    have hturn : d.pollTurn.1 = d := by
      unfold Driver.pollTurn
      rw [h.wait]
      dsimp only
      rw [if_neg (by rw [h.count]; exact Nat.lt_irrefl 0)]
    exact hturn.symm ▸ h
  | allot handle | sampling j | requestExit | exitSignal =>
    exact ⟨h.wait, h.count, h.idle, h.frames⟩

theorem Stuck.run (h : Stuck d) (ts : List Turn) : Stuck (d.run ts) := by
  induction ts generalizing d with
  | nil => exact h
  | cons t ts ih => exact ih (h.turn t)

/-- After `RequestExit` the poll thread does not come to a wait that it is not in. -/
theorem run_poll_wait (hexit : d.lds.requestExit = true)
    (hnot : ¬(d.poll = .wait ∧ d.lds.pcdSemaphore = 0)) (n : Nat) :
    ¬((d.run (List.replicate n .poll)).poll = .wait ∧
      (d.run (List.replicate n .poll)).lds.pcdSemaphore = 0) := by
  induction n generalizing d with
  | zero => exact hnot
  | succ n ih =>
    refine ih (d := d.pollTurn.1) (by rw [(pollTurn_keeps d).1, hexit]) fun ⟨hwait, _⟩ => ?_
    rcases pollTurn_wait hwait with ⟨hpc, hcount, -⟩ | ⟨-, hexit'⟩
    · exact hnot ⟨hpc, hcount⟩
    · rw [hexit] at hexit'
      cases hexit'

/-- **The poll thread can be joined unless it waits already**: once the destructor has asked it to end
and no frame is left, some turns let it return if and only if it does not wait at a count of 0. -/
theorem shutdown_iff (lds : Lds F) (transferFormat : UInt8) (frames : List (PointFrame F))
    (ts : List Turn) :
    let d := (Driver.init lds transferFormat frames).run ts
    d.lds.requestExit = true → d.exitSignal = true → d.store = .idle → d.frames = [] →
      ((∃ ts', (d.run ts').poll = .done) ↔ ¬(d.poll = .wait ∧ d.lds.pcdSemaphore = 0)) := by
  intro d hexit hsignal hidle hframes
  constructor
  · rintro ⟨ts', hdone⟩ ⟨hwait, hcount⟩
    have hstuck : Stuck d := ⟨hwait, hcount, hidle, hframes⟩
    rw [(hstuck.run ts').wait] at hdone
    cases hdone
  · intro hnot
    obtain ⟨n, hn⟩ := rests (d := d) (.inr ⟨hexit, hsignal⟩)
      fun i => (feed_init lds transferFormat frames i).run ts
    exact ⟨_, hn.resolve_left (run_poll_wait hexit hnot n)⟩

/-- A packet is stored, the poll thread has `k` turns, and then it is told to end. -/
def oneAsked (k : Nat) : List Turn :=
  oneStored ++ .point :: (List.replicate 4 .point ++ (List.replicate k .poll ++
    [.requestExit, .exitSignal]))

set_option maxRecDepth 4000 in
/-- After 12 turns the packet is published and the sweep goes on; after 48 the thread waits. -/
theorem shutdown_iff_asked :
    let d : Driver Nat := .init oneLds 1 [[(7, onePacket)]]
    publishedIn 0 (d.trace (oneAsked 12)) = [packetOf (7, onePacket)] ∧
      (∃ ts', ((d.run (oneAsked 12)).run ts').poll = .done) ∧
      ¬∃ ts', ((d.run (oneAsked 48)).run ts').poll = .done := by
  intro d
  have hends := shutdown_iff oneLds 1 [[(7, onePacket)]] (oneAsked 12) (by decide +kernel)
    (by decide +kernel) rfl (by decide +kernel)
  have hwaits := shutdown_iff oneLds 1 [[(7, onePacket)]] (oneAsked 48) (by decide +kernel)
    (by decide +kernel) rfl (by decide +kernel)
  refine ⟨by decide +kernel, hends.2 (by decide +kernel), fun hdone => hwaits.1 hdone ?_⟩
  decide +kernel

end Livox
