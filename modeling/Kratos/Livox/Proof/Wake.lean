import Kratos.Livox.Proof.Handled

/-!
# No wake-up is lost

The point thread signals `pcd_semaphore_` only when it finds the count at 0, and the poll thread
takes one count for a whole sweep of the LiDARs. `Wake i d`: while the queue of a sampling LiDAR `i`
is not empty, there is a count, or the point thread is about to see to one, or the sweep has not
passed `i`. So the poll thread does not sleep over a packet (`no_lost_wakeup`).
-/

namespace Livox

variable {F : Type} {i : Index} {d : Driver F} {tr : List (Event F)} {q : List (StoragePacket F)}

/-- The point thread is on its way to `pcd_semaphore_`, with a packet of the LiDAR in its queue. -/
def StorePc.Signals (i : Index) : StorePc F → Prop
  | .ifEmpty p => p.index = i
  | .ifCount _ | .signal _ => True
  | _ => False

instance (i : Index) : DecidablePred (StorePc.Signals i : StorePc F → Prop)
  | .ifEmpty p => inferInstanceAs (Decidable (p.index = i))
  | .ifCount _ | .signal _ => .isTrue trivial
  | .idle | .packets _ | .init _ | .ifFull _ | .baseTime _ | .pointsNum _ | .clear _ | .copy _
  | .advance _ => .isFalse id

/-- The poll thread is in a sweep that has not passed the LiDAR. -/
def PollPc.Before (i : Index) : PollPc F → Prop
  | .lidars k => k ≤ i
  | .ifNull j | .polling j | .publishing j | .prePop j | .baseTime j | .pointsNum j _ | .points j _
  | .popUpdate j _ | .publish j _ => j ≤ i
  | _ => False

structure Wake (i : Index) (d : Driver F) : Prop where
  sampling : (d.lds.lidars i).connectState = .sampling
  awake : d.lds.requestExit = false → (d.queue i).queueIsEmpty = false →
    0 < d.lds.pcdSemaphore ∨ d.store.Signals i ∨ d.poll.Before i

namespace Wake

theorem setQueue_connectState (lds : Lds F) (j i : Index)
    (f : LidarDataQueue F → LidarDataQueue F) :
    ((lds.setQueue j f).lidars i).connectState = (lds.lidars i).connectState := by
  unfold Lds.setQueue
  by_cases hi : j = i
  · subst hi
    simp
  · simp [Function.update_of_ne (Ne.symm hi)]

/-! ## The point thread -/

theorem toStore (h : Wake i d) {pc : StorePc F} {frames : List (PointFrame F)}
    (hpc : d.store.Signals i → (d.queue i).queueIsEmpty = false →
      0 < d.lds.pcdSemaphore ∨ pc.Signals i) :
    Wake i { d with store := pc, frames } where
  sampling := h.sampling
  awake := fun hexit hne => by
    rcases h.awake hexit hne with hcount | hstore | hpoll
    · exact .inl hcount
    · exact (hpc hstore hne).imp_right .inl
    · exact .inr (.inr hpoll)

/-- A statement of a push that leaves the indices. -/
theorem assign (h : Wake i d) {p : Pushing F} {f : LidarDataQueue F → LidarDataQueue F}
    {next : Pushing F → StorePc F} (hf : ∀ queue, (f queue).queueIsEmpty = queue.queueIsEmpty)
    (hpc : ¬d.store.Signals i) : Wake i (d.assign p f next) where
  sampling := (setQueue_connectState _ _ _ _).trans h.sampling
  awake := fun hexit hne => by
    rw [queue_assign] at hne
    have hne' : (d.queue i).queueIsEmpty = false := by
      split at hne
      · rw [← hf]
        exact hne
      · exact hne
    rcases h.awake hexit hne' with hcount | hstore | hpoll
    · exact .inl hcount
    · exact absurd hstore hpc
    · exact .inr (.inr hpoll)

/-- A fresh queue is empty. -/
theorem init (h : Wake i d) {p : Pushing F} (queueSize : UInt32) (hpc : ¬d.store.Signals i) :
    Wake i (d.assign p (fun _ => initQueue queueSize) .ifFull) where
  sampling := by
    unfold Driver.assign
    rw [setQueue_connectState]
    exact h.sampling
  awake := fun hexit hne => by
    rw [queue_assign] at hne
    split at hne
    · cases hne
    · rcases h.awake hexit hne with hcount | hstore | hpoll
      · exact .inl hcount
      · exact absurd hstore hpc
      · exact .inr (.inr hpoll)

/-- After its packet the point thread is about to signal, and for another LiDAR nothing changes. -/
theorem advance (h : Wake i d) {p : Pushing F} (hpc : ¬d.store.Signals i) :
    Wake i (d.assign p (·.advanceWrIdx) .ifEmpty) where
  sampling := (setQueue_connectState _ _ _ _).trans h.sampling
  awake := fun hexit hne => by
    by_cases hi : p.index = i
    · exact .inr (.inl hi)
    · rw [queue_assign, if_neg hi] at hne
      rcases h.awake hexit hne with hcount | hstore | hpoll
      · exact .inl hcount
      · exact absurd hstore hpc
      · exact .inr (.inr hpoll)

theorem pointTurn (h : Wake i d) : Wake i d.pointTurn.1 := by
  have hno : ∀ pc, d.store = pc → ¬pc.Signals i → ¬d.store.Signals i := fun pc hpc hn => hpc ▸ hn
  unfold Driver.pointTurn
  cases hpc : d.store with
  | idle =>
    have hidle := hno _ hpc id
    dsimp only
    split
    · exact h
    · exact h.toStore fun hs => absurd hs hidle
  | packets rest =>
    have hpackets := hno _ hpc id
    cases rest with
    | nil => exact h.toStore fun hs => absurd hs hpackets
    | cons entry rest =>
      dsimp only
      split
      · exact h.toStore fun hs => absurd hs hpackets
      · exact h.toStore fun hs => absurd hs hpackets
  | init p =>
    have hinit := hno _ hpc id
    dsimp only
    split
    · exact h.init _ hinit
    · exact h.toStore fun hs => absurd hs hinit
  | ifFull p =>
    have hfull := hno _ hpc id
    dsimp only
    split
    · exact h.toStore fun hs => absurd hs hfull
    · exact h.toStore fun hs => absurd hs hfull
  | baseTime p | pointsNum p | clear p | copy p =>
    exact h.assign (fun _ => rfl) (hno _ hpc id)
  | advance p => exact h.advance (hno _ hpc id)
  | ifEmpty p =>
    dsimp only
    split
    · exact h.toStore fun _ _ => .inr trivial
    · rename_i hempty
      refine h.toStore fun hs hne => ?_
      rw [hpc] at hs
      rw [show p.index = i from hs, hne] at hempty
      exact absurd rfl hempty
  | ifCount p =>
    dsimp only
    split
    · exact h.toStore fun _ _ => .inr trivial
    · rename_i hcount
      exact h.toStore fun _ _ => .inl (Nat.lt_of_not_le hcount)
  | signal p => exact ⟨h.sampling, fun _ _ => .inl (Nat.succ_pos _)⟩

/-! ## The poll thread -/

theorem toPoll (h : Wake i d) {pc : PollPc F}
    (hpc : d.poll.Before i → d.lds.requestExit = false → (d.queue i).queueIsEmpty = false →
      pc.Before i) :
    Wake i { d with poll := pc } where
  sampling := h.sampling
  awake := fun hexit hne => by
    rcases h.awake hexit hne with hcount | hstore | hpoll
    · exact .inl hcount
    · exact .inr (.inl hstore)
    · exact .inr (.inr (hpc hpoll hexit hne))

/-- The poll thread leaves a LiDAR with nothing in its queue. -/
theorem pass (h : Wake i d) {j : Index} (hbefore : d.poll.Before i → (j : Nat) ≤ i)
    (hj : d.lds.requestExit = false → j = i → (d.queue j).queueIsEmpty = true) :
    Wake i { d with poll := .lidars (j + 1) } := by
  refine h.toPoll fun hpoll hexit hne => ?_
  have hne' : (j : Nat) ≠ i := fun he => by
    have hempty := hj hexit (Fin.ext he)
    rw [Fin.ext he, hne] at hempty
    cases hempty
  exact Nat.succ_le_of_lt (lt_of_le_of_ne (hbefore hpoll) hne')

theorem popUpdate (h : Wake i d) {j : Index} {pkg : StoragePacket F}
    (hpc : d.poll = .popUpdate j pkg) :
    Wake i { d with lds := d.lds.setQueue j (·.queuePopUpdate), poll := .publish j pkg } where
  sampling := (setQueue_connectState _ _ _ _).trans h.sampling
  awake := fun hexit hne => by
    by_cases hi : j = i
    · exact .inr (.inr (congrArg Fin.val hi).le)
    · unfold Driver.queue at hne
      rw [setQueue_data, if_neg hi] at hne
      rcases h.awake hexit hne with hcount | hstore | hpoll
      · exact .inl hcount
      · exact .inr (.inl hstore)
      · rw [hpc] at hpoll
        exact .inr (.inr hpoll)

theorem pollTurn (h : Wake i d) (hf : Feed i d tr q) : Wake i d.pollTurn.1 := by
  unfold Driver.pollTurn
  cases hpc : d.poll with
  | start =>
    dsimp only
    split <;> exact h.toPoll fun hb => by rw [hpc] at hb; exact hb.elim
  | wait =>
    dsimp only
    split
    · exact ⟨h.sampling, fun _ _ => .inr (.inr (Nat.zero_le _))⟩
    · exact h
  | lidars k =>
    dsimp only
    split
    · rename_i hk
      split
      · rename_i hconnect
        refine h.toPoll fun hb _ _ => ?_
        rw [hpc] at hb
        have hne : k ≠ i := fun he => hconnect ((Fin.ext he : (⟨k, hk⟩ : Index) = i) ▸ h.sampling)
        exact Nat.succ_le_of_lt (lt_of_le_of_ne hb hne)
      · exact h.toPoll fun hb _ _ => by rw [hpc] at hb; exact hb
    · rename_i hk
      refine h.toPoll fun hb _ _ => absurd (lt_of_le_of_lt ?_ i.isLt) hk
      rw [hpc] at hb
      exact hb
  | ifNull j =>
    dsimp only
    split
    · rename_i hnull
      exact h.pass (fun hb => by rw [hpc] at hb; exact hb) fun _ hj =>
        hj ▸ hf.contains.isEmpty_iff.2 (hf.contains.nil (hj ▸ hnull))
    · exact h.toPoll fun hb _ _ => by rw [hpc] at hb; exact hb
  | polling j =>
    dsimp only
    split
    · split
      · exact h.toPoll fun hb _ _ => by rw [hpc] at hb; exact hb
      · exact h
    · rename_i hstop
      exact h.pass (fun hb => by rw [hpc] at hb; exact hb) fun hexit _ => by simpa [hexit] using hstop
  | publishing j | prePop j =>
    dsimp only
    split <;> exact h.toPoll fun hb _ _ => by rw [hpc] at hb; exact hb
  | baseTime j | pointsNum j pkg | points j pkg | publish j pkg =>
    exact h.toPoll fun hb _ _ => by rw [hpc] at hb; exact hb
  | popUpdate j pkg => exact h.popUpdate hpc
  | status =>
    dsimp only
    split <;> exact h.toPoll fun hb => by rw [hpc] at hb; exact hb.elim
  | done => exact h

theorem turn (h : Wake i d) (hf : Feed i d tr q) (t : Turn) : Wake i (d.turn t).1 := by
  cases t with
  | point => exact h.pointTurn
  | poll => exact h.pollTurn hf
  | allot handle => exact ⟨h.sampling, h.awake⟩
  | sampling j =>
    refine ⟨?_, ?_⟩
    · unfold Driver.turn Lds.setConnectState
      by_cases hi : i = j
      · subst hi
        simp
      · simpa [Function.update_of_ne hi] using h.sampling
    · unfold Driver.turn Driver.queue
      dsimp only
      rw [setConnectState_data]
      exact h.awake
  | requestExit => exact ⟨h.sampling, fun hexit => absurd hexit (by simp [Driver.turn])⟩
  | exitSignal => exact ⟨h.sampling, h.awake⟩

theorem run (h : Wake i d) (hf : Feed i d tr q) (ts : List Turn) : Wake i (d.run ts) := by
  induction ts generalizing d tr q with
  | nil => exact h
  | cons t ts ih =>
    obtain ⟨q', hf'⟩ := hf.turn t
    exact ih (h.turn hf t) hf'

/-- Storing a packet of a sampling LiDAR sees to it, whatever was in its queue. -/
theorem of_stored {t : Turn} {packet : StoragePacket F}
    (hsampling : (d.lds.lidars i).connectState = .sampling)
    (hev : (d.turn t).2 = some (.stored i packet)) : Wake i (d.turn t).1 := by
  cases t with
  | point =>
    unfold Driver.turn Driver.pointTurn at hev ⊢
    cases hpc : d.store with
    | advance p =>
      rw [hpc] at hev
      injection hev with hev
      injection hev with hi hpacket
      exact ⟨(setQueue_connectState _ _ _ _).trans hsampling, fun _ _ => .inr (.inl hi)⟩
    | packets rest =>
      rw [hpc] at hev
      cases rest with
      | nil => cases hev
      | cons entry rest =>
        dsimp only at hev
        split at hev <;> cases hev
    | _ =>
      rw [hpc] at hev
      dsimp only at hev
      first
        | cases hev
        | split at hev <;> cases hev
  | poll =>
    have hquiet := (pollTurn_store i d).2.2.2
    rw [Driver.turn] at hev
    rw [hev] at hquiet
    simp [Event.handledAt] at hquiet
  | allot handle | sampling j | requestExit | exitSignal => cases hev

end Wake

theorem run_append (d : Driver F) (ts ts' : List Turn) :
    d.run (ts ++ ts') = (d.run ts).run ts' := List.foldl_append

/-- From then on the poll thread does not sleep over it. -/
theorem Wake.run_of_stored {d₀ : Driver F} {ts : List Turn} {t : Turn} {packet : StoragePacket F}
    (hf : Feed i (d₀.run ts) tr q) (hsampling : ((d₀.run ts).lds.lidars i).connectState = .sampling)
    (hev : ((d₀.run ts).turn t).2 = some (.stored i packet)) (ts' : List Turn) :
    Wake i (d₀.run (ts ++ t :: ts')) := by
  obtain ⟨_, hf'⟩ := hf.turn t
  rw [run_append]
  exact (Wake.of_stored hsampling hev).run hf' ts'

theorem trace_append (d : Driver F) (ts ts' : List Turn) :
    d.trace (ts ++ ts') = d.trace ts ++ (d.run ts).trace ts' := by
  induction ts generalizing d with
  | nil => rfl
  | cons t ts ih =>
    show _ ++ (d.turn t).1.trace (ts ++ ts') = _ ++ (d.turn t).1.trace ts ++ _
    rw [ih, List.append_assoc]
    rfl

/-- Nothing is left to publish of a LiDAR while the poll thread waits for a signal that is not to
come. -/
theorem Feed.published_of_wait (hf : Feed i d tr q) (hwake : Wake i d)
    (hexit : d.lds.requestExit = false) (hwait : d.poll = .wait) (hcount : d.lds.pcdSemaphore = 0)
    (hstore : ¬d.store.Signals i) :
    publishedIn i tr = (storedIn i tr).filter fun pkg => decide (pkg.points ≠ []) := by
  have hq : q = [] := by
    refine hf.contains.isEmpty_iff.1 ?_
    by_contra hne
    rcases hwake.awake hexit (by simpa using hne) with hc | hs | hb
    · omega
    · exact hstore hs
    · rw [hwait] at hb
      exact hb
  have hpub := hf.published
  have hst := hf.stored
  rw [hwait] at hpub
  rw [hq, List.append_nil] at hst
  rw [hst, ← hpub]
  exact (List.append_nil _).symm

/-- **The poll thread never sleeps over a packet**: once a packet of a sampling LiDAR has been stored,
whenever the poll thread waits at a count of 0 and the point thread is not about to signal,
everything stored of the LiDAR has been published. -/
theorem no_lost_wakeup (lds : Lds F) (transferFormat : UInt8) (frames : List (PointFrame F))
    (ts ts' : List Turn) (t : Turn) (i : Index) (packet : StoragePacket F)
    (hsampling :
      (((Driver.init lds transferFormat frames).run ts).lds.lidars i).connectState = .sampling)
    (hev : (((Driver.init lds transferFormat frames).run ts).turn t).2 = some (.stored i packet)) :
    let d₀ : Driver F := .init lds transferFormat frames
    let d := d₀.run (ts ++ t :: ts')
    d.lds.requestExit = false → d.poll = .wait → d.lds.pcdSemaphore = 0 → ¬d.store.Signals i →
      publishedIn i (d₀.trace (ts ++ t :: ts')) =
        (storedIn i (d₀.trace (ts ++ t :: ts'))).filter fun pkg => decide (pkg.points ≠ []) := by
  intro d₀ d hexit hwait hcount hstore
  obtain ⟨q, hf⟩ := (feed_init lds transferFormat frames i).run (ts ++ t :: ts')
  rw [List.nil_append] at hf
  obtain ⟨_, hf₁⟩ := (feed_init lds transferFormat frames i).run ts
  have hwake : Wake i d := Wake.run_of_stored hf₁ hsampling hev ts'
  exact hf.published_of_wait hwake hexit hwait hcount hstore

/-- The turns up to the statement that adds the packet to the queue. -/
def oneStored : List Turn := .allot 1 :: .sampling 0 :: List.replicate 8 .point

/-- The rest of the frame, and the sweep that publishes the packet. -/
def oneSweep : List Turn := List.replicate 4 .point ++ List.replicate 48 .poll

theorem no_lost_wakeup_one :
    publishedIn 0 ((Driver.init oneLds 0 [[(7, onePacket)]]).trace (oneStored ++ .point :: oneSweep)) =
      (storedIn 0 ((Driver.init oneLds 0 [[(7, onePacket)]]).trace
        (oneStored ++ .point :: oneSweep))).filter fun pkg => decide (pkg.points ≠ []) :=
  no_lost_wakeup oneLds 0 [[(7, onePacket)]] oneStored oneSweep .point 0 (packetOf (7, onePacket))
    (by decide +kernel) (by decide +kernel) (by decide +kernel) (by decide +kernel)
    (by decide +kernel) (by decide +kernel)

end Livox
