import Kratos.Livox.Proof.Queue
import Kratos.Livox.Threads

/-!
# No packet is lost, repeated or torn between the threads

`Feed i d tr q`: after a trace `tr`, the queue of LiDAR `i` holds the packets `q`, and each thread
that is in the middle of it has the part of a packet that its place says. Every turn keeps it
(`Feed.turn`), so in every run what has been stored is what has been taken and then what is in the
queue (`fifo`), whatever the order of the turns.
-/

namespace Livox

variable {F : Type} {i : Index} {d : Driver F} {tr : List (Event F)}

/-! ## What a trace says of a LiDAR -/

def Event.storedAt (i : Index) : Event F → Option (StoragePacket F)
  | .stored j packet => if j = i then some packet else none
  | _ => none

def Event.takenAt (i : Index) : Event F → Option (StoragePacket F)
  | .taken j pkg => if j = i then some pkg else none
  | _ => none

def Event.publishedAt (i : Index) : Event F → Option (StoragePacket F)
  | .published j pkg => if j = i then some pkg else none
  | _ => none

def storedIn (i : Index) (tr : List (Event F)) : List (StoragePacket F) :=
  tr.filterMap (Event.storedAt i)

def takenIn (i : Index) (tr : List (Event F)) : List (StoragePacket F) :=
  tr.filterMap (Event.takenAt i)

def publishedIn (i : Index) (tr : List (Event F)) : List (StoragePacket F) :=
  tr.filterMap (Event.publishedAt i)

/-- The packets from `rd_idx` to `wr_idx`. -/
def LidarDataQueue.contents (queue : LidarDataQueue F) : List (StoragePacket F) :=
  (List.range queue.queueUsedSize.toNat).map fun k =>
    queue.storagePacket.getD ((queue.rdIdx + UInt32.ofNat k) &&& queue.mask).toNat {}

/-- A packet that the poll thread has taken and has yet to publish. -/
def PollPc.inHand (i : Index) : PollPc F → List (StoragePacket F)
  | .publish j pkg => if j = i ∧ pkg.points ≠ [] then [pkg] else []
  | _ => []

/-! ## The queue, allocated or not -/

def LidarDataQueue.Contains (queue : LidarDataQueue F) (q : List (StoragePacket F)) : Prop :=
  (queue = {} ∧ q = []) ∨ queue.Ring q

namespace LidarDataQueue.Contains

variable {queue : LidarDataQueue F} {q : List (StoragePacket F)}

theorem ring (h : queue.Contains q) (hne : queue.storagePacket ≠ []) : queue.Ring q := by
  rcases h with ⟨rfl, -⟩ | h
  · exact absurd rfl hne
  · exact h

theorem nil (h : queue.Contains q) (hnull : queue.storagePacket = []) : q = [] := by
  rcases h with ⟨-, hq⟩ | h
  · exact hq
  · exact absurd hnull h.allocated

theorem isEmpty_iff (h : queue.Contains q) : queue.queueIsEmpty = true ↔ q = [] := by
  rcases h with ⟨rfl, rfl⟩ | h
  · exact iff_of_true rfl rfl
  · exact h.isEmpty_iff

theorem ring_of_ne_nil (h : queue.Contains q) (hq : q ≠ []) : queue.Ring q := by
  rcases h with ⟨-, hnil⟩ | h
  · exact absurd hnil hq
  · exact h

theorem contents_eq (h : queue.Contains q) : queue.contents = q := by
  rcases h with ⟨rfl, rfl⟩ | h
  · simp [contents, queueUsedSize]
  · have hlen : queue.queueUsedSize.toNat = q.length := h.usedSize
    unfold contents
    rw [hlen]
    refine List.ext_getElem (by simp) fun k hk hk' => ?_
    have hcell : ((queue.rdIdx + UInt32.ofNat k) &&& queue.mask).toNat =
        (queue.rdIdx.toNat + k) % queue.storagePacket.length := by
      rw [h.and_mask, UInt32.toNat_add, UInt32.toNat_ofNat_of_lt' (hk'.trans h.count_lt),
        Ring.mod_cell h.dvd]
    rw [List.getElem_map, List.getElem_range, hcell, List.getD_eq_getElem?_getD,
      h.holds.cell k hk']
    rfl

end LidarDataQueue.Contains

/-! ## The places of the threads -/

/-- There is room for a packet, and the cell that it goes to is as `P` says. -/
structure LidarDataQueue.Room (queue : LidarDataQueue F) (q : List (StoragePacket F))
    (P : StoragePacket F → Prop) : Prop where
  ring : queue.Ring q
  room : q.length < queue.storagePacket.length
  back : ∃ cell, queue.back? = some cell ∧ P cell

theorem LidarDataQueue.Room.write {queue : LidarDataQueue F} {q : List (StoragePacket F)}
    {P Q : StoragePacket F → Prop} (h : queue.Room q P) {f : StoragePacket F → StoragePacket F}
    (hf : ∀ cell, P cell → Q (f cell)) : (queue.write f).Room q Q where
  ring := h.ring.write h.room f
  room := by simpa [LidarDataQueue.write] using h.room
  back := by
    obtain ⟨cell, hcell, hP⟩ := h.back
    exact ⟨f cell, by rw [Ring.back?_write, hcell]; rfl, hf cell hP⟩

/-- The cell that the point thread has filled so far. -/
def StorePc.Ok (i : Index) (queue : LidarDataQueue F) (q : List (StoragePacket F)) :
    StorePc F → Prop
  | .ifFull p => p.index = i → queue.Ring q
  | .baseTime p => p.index = i → queue.Room q fun _ => True
  | .pointsNum p => p.index = i → queue.Room q fun cell => cell.baseTime = p.stored.baseTime
  | .clear p | .copy p =>
    p.index = i → queue.Room q fun cell =>
      cell.baseTime = p.stored.baseTime ∧ cell.pointsNum = p.stored.pointsNum
  | .advance p => p.index = i → queue.Room q (· = p.stored)
  | _ => True

/-- The packet that the poll thread has read so far. -/
def PollPc.Ok (i : Index) (q : List (StoragePacket F)) : PollPc F → Prop
  | .prePop j | .baseTime j => j = i → ∃ a rest, q = a :: rest
  | .pointsNum j pkg => j = i → ∃ a rest, q = a :: rest ∧ pkg.baseTime = a.baseTime
  | .points j pkg =>
    j = i → ∃ a rest, q = a :: rest ∧ pkg.baseTime = a.baseTime ∧ pkg.pointsNum = a.pointsNum
  | .popUpdate j pkg => j = i → ∃ rest, q = pkg :: rest
  | _ => True

theorem PollPc.Ok.append {q : List (StoragePacket F)} {pc : PollPc F} (h : pc.Ok i q)
    (a : StoragePacket F) : pc.Ok i (q ++ [a]) := by
  cases pc with
  | prePop j | baseTime j =>
    intro hj
    obtain ⟨b, rest, rfl⟩ := h hj
    exact ⟨b, rest ++ [a], rfl⟩
  | pointsNum j pkg | points j pkg =>
    intro hj
    obtain ⟨b, rest, rfl, hpkg⟩ := h hj
    exact ⟨b, rest ++ [a], rfl, hpkg⟩
  | popUpdate j pkg =>
    intro hj
    obtain ⟨rest, rfl⟩ := h hj
    exact ⟨rest ++ [a], rfl⟩
  | _ => trivial

/-- A pop makes more room, and leaves the cell that is being filled. -/
theorem StorePc.Ok.pop {queue : LidarDataQueue F} {a : StoragePacket F}
    {q : List (StoragePacket F)} {pc : StorePc F} (h : pc.Ok i queue (a :: q)) :
    pc.Ok i queue.queuePopUpdate q := by
  have hroom : ∀ {P : StoragePacket F → Prop}, queue.Room (a :: q) P →
      queue.queuePopUpdate.Room q P := fun hr =>
    ⟨hr.ring.queuePopUpdate, Nat.lt_of_succ_lt hr.room, hr.back⟩
  cases pc with
  | ifFull p => exact fun hp => (h hp).queuePopUpdate
  | baseTime p | pointsNum p | clear p | copy p | advance p => exact fun hp => hroom (h hp)
  | _ => trivial

/-! ## The invariant -/

structure Feed (i : Index) (d : Driver F) (tr : List (Event F)) (q : List (StoragePacket F)) :
    Prop where
  contains : (d.queue i).Contains q
  whole : ∀ a ∈ q, a.points.length ≤ a.pointsNum.toNat
  store : d.store.Ok i (d.queue i) q
  poll : d.poll.Ok i q
  stored : storedIn i tr = takenIn i tr ++ q
  published : publishedIn i tr ++ d.poll.inHand i =
    (takenIn i tr).filter fun pkg => decide (pkg.points ≠ [])

@[simp] theorem storedIn_append (l : List (Event F)) :
    storedIn i (tr ++ l) = storedIn i tr ++ storedIn i l := List.filterMap_append

@[simp] theorem takenIn_append (l : List (Event F)) :
    takenIn i (tr ++ l) = takenIn i tr ++ takenIn i l := List.filterMap_append

@[simp] theorem publishedIn_append (l : List (Event F)) :
    publishedIn i (tr ++ l) = publishedIn i tr ++ publishedIn i l := List.filterMap_append

@[simp] theorem storedIn_toList (ev : Option (Event F)) :
    storedIn i ev.toList = (ev.bind (Event.storedAt i)).toList := by
  cases ev with
  | none => rfl
  | some e => cases h : e.storedAt i <;> simp [storedIn, h]

@[simp] theorem takenIn_toList (ev : Option (Event F)) :
    takenIn i ev.toList = (ev.bind (Event.takenAt i)).toList := by
  cases ev with
  | none => rfl
  | some e => cases h : e.takenAt i <;> simp [takenIn, h]

@[simp] theorem publishedIn_toList (ev : Option (Event F)) :
    publishedIn i ev.toList = (ev.bind (Event.publishedAt i)).toList := by
  cases ev with
  | none => rfl
  | some e => cases h : e.publishedAt i <;> simp [publishedIn, h]

/-- Nothing of LiDAR `i` in an event, if there is one. -/
def Quiet (i : Index) (ev : Option (Event F)) : Prop :=
  ev.bind (Event.storedAt i) = none ∧ ev.bind (Event.takenAt i) = none ∧
    ev.bind (Event.publishedAt i) = none

theorem quiet_none : Quiet i (none : Option (Event F)) := ⟨rfl, rfl, rfl⟩

namespace Feed

variable {q : List (StoragePacket F)} {d' : Driver F} {ev : Option (Event F)}

/-- A turn that leaves the queue of the LiDAR. -/
theorem silent (h : Feed i d tr q) (hev : Quiet i ev) (hq : d'.queue i = d.queue i)
    (hstore : d'.store.Ok i (d.queue i) q) (hpoll : d'.poll.Ok i q)
    (hhand : d'.poll.inHand i = d.poll.inHand i) : Feed i d' (tr ++ ev.toList) q where
  contains := hq ▸ h.contains
  whole := h.whole
  store := hq ▸ hstore
  poll := hpoll
  stored := by simpa [hev.1, hev.2.1] using h.stored
  published := by
    rw [publishedIn_append, takenIn_append, publishedIn_toList, takenIn_toList, hev.2.1, hev.2.2,
      hhand]
    simpa using h.published

end Feed

/-! ## Setters -/

theorem setQueue_data (lds : Lds F) (j i : Index) (f : LidarDataQueue F → LidarDataQueue F) :
    ((lds.setQueue j f).lidars i).data =
      if j = i then f (lds.lidars i).data else (lds.lidars i).data := by
  unfold Lds.setQueue
  by_cases hi : j = i
  · subst hi
    simp
  · simp [hi, Function.update_of_ne (Ne.symm hi)]

theorem setConnectState_data (lds : Lds F) (j i : Index) (state : LidarConnectState) :
    ((lds.setConnectState j state).lidars i).data = (lds.lidars i).data := by
  unfold Lds.setConnectState
  by_cases hi : j = i
  · subst hi
    simp
  · simp [Function.update_of_ne (Ne.symm hi)]

/-! ## The turns of the point thread -/

theorem queue_assign (d : Driver F) (p : Pushing F) (f : LidarDataQueue F → LidarDataQueue F)
    (next : Pushing F → StorePc F) :
    (d.assign p f next).queue i = if p.index = i then f (d.queue i) else d.queue i :=
  setQueue_data _ _ _ _

namespace Feed

variable {q : List (StoragePacket F)}

/-- The point thread goes on to a place where nothing of a packet is in the queue. -/
theorem toStore (h : Feed i d tr q) {pc : StorePc F} (hpc : pc.Ok i (d.queue i) q) :
    Feed i { d with store := pc } (tr ++ (none : Option (Event F)).toList) q :=
  h.silent quiet_none rfl hpc h.poll rfl

/-- A write to the cell that is being filled. -/
theorem write (h : Feed i d tr q) {p : Pushing F} {f : StoragePacket F → StoragePacket F}
    {next : Pushing F → StorePc F} {P Q : StoragePacket F → Prop}
    (hroom : p.index = i → (d.queue i).Room q P) (hf : ∀ cell, P cell → Q (f cell))
    (hnext : ∀ queue : LidarDataQueue F, (p.index = i → queue.Room q Q) → (next p).Ok i queue q) :
    Feed i (d.assign p (·.write f) next) (tr ++ (none : Option (Event F)).toList) q where
  contains := by
    rw [queue_assign]
    split
    · rename_i hi
      exact .inr ((hroom hi).ring.write (hroom hi).room f)
    · exact h.contains
  whole := h.whole
  store := by
    refine hnext _ fun hi => ?_
    rw [queue_assign, if_pos hi]
    exact (hroom hi).write hf
  poll := h.poll
  stored := by simpa using h.stored
  published := by rw [Option.toList_none, List.append_nil]; exact h.published

/-- A null `storage_packet` is allocated; nothing was in the queue. -/
theorem init (h : Feed i d tr q) {p : Pushing F} (queueSize : UInt32)
    (hnull : (d.queue p.index).storagePacket = []) :
    Feed i (d.assign p (fun _ => initQueue queueSize) .ifFull)
      (tr ++ (none : Option (Event F)).toList) q := by
  have hq : p.index = i → q = [] := fun hi => (hi ▸ h.contains).nil hnull
  have hring : p.index = i → (initQueue queueSize : LidarDataQueue F).Ring q := fun hi => by
    rw [hq hi]
    exact initQueue_ring queueSize
  refine ⟨?_, h.whole, ?_, h.poll, by simpa using h.stored, ?_⟩
  · rw [queue_assign]
    split
    · rename_i hi
      exact .inr (hring hi)
    · exact h.contains
  · intro hi
    rw [queue_assign, if_pos hi]
    exact hring hi
  · rw [Option.toList_none, List.append_nil]
    exact h.published

/-- A packet that is complete is in the queue once the index moves. -/
theorem advance (h : Feed i d tr q) {p : Pushing F} (hpc : d.store = .advance p) :
    ∃ q', Feed i (d.assign p (·.advanceWrIdx) .ifEmpty)
      (tr ++ (some (Event.stored p.index p.stored)).toList) q' := by
  by_cases hi : p.index = i
  · have hs : StorePc.Ok i (d.queue i) q (.advance p) := hpc ▸ h.store
    obtain ⟨cell, hcell, rfl⟩ := (hs hi).back
    refine ⟨q ++ [p.stored], ?_, ?_, trivial, h.poll.append _, ?_, ?_⟩
    · rw [queue_assign, if_pos hi]
      exact .inr ((hs hi).ring.advanceWrIdx (hs hi).room hcell)
    · intro a ha
      rcases List.mem_append.1 ha with ha | ha
      · exact h.whole a ha
      · obtain rfl := List.mem_singleton.1 ha
        exact List.length_take_le _ _
    · rw [storedIn_append, takenIn_append, storedIn_toList, takenIn_toList, h.stored]
      simp [Event.storedAt, Event.takenAt, hi]
    · rw [publishedIn_append, takenIn_append, publishedIn_toList, takenIn_toList]
      show publishedIn i tr ++ [] ++ d.poll.inHand i = _
      simpa [Event.takenAt] using h.published
  · refine ⟨q, h.silent ?_ ?_ trivial h.poll rfl⟩
    · simp [Quiet, Event.storedAt, Event.takenAt, Event.publishedAt, hi]
    · rw [queue_assign, if_neg hi]

theorem pointTurn (h : Feed i d tr q) :
    ∃ q', Feed i d.pointTurn.1 (tr ++ d.pointTurn.2.toList) q' := by
  have hok : ∀ pc, d.store = pc → pc.Ok i (d.queue i) q := fun pc hpc => hpc ▸ h.store
  unfold Driver.pointTurn
  cases hpc : d.store with
  | idle =>
    dsimp only
    split
    · exact ⟨q, h.silent quiet_none rfl h.store h.poll rfl⟩
    · exact ⟨q, h.silent quiet_none rfl trivial h.poll rfl⟩
  | packets rest =>
    cases rest with
    | nil => exact ⟨q, h.toStore trivial⟩
    | cons entry rest =>
      dsimp only
      split
      · exact ⟨q, h.toStore trivial⟩
      · exact ⟨q, h.toStore trivial⟩
  | init p =>
    dsimp only
    split
    · rename_i hnull
      exact ⟨q, h.init _ hnull⟩
    · rename_i hne
      exact ⟨q, h.toStore fun hi => h.contains.ring (hi ▸ hne)⟩
  | ifFull p =>
    dsimp only
    split
    · rename_i hfull
      refine ⟨q, h.toStore fun hi => ?_⟩
      have hring := hok _ hpc hi
      have hroom : q.length ≠ (d.queue i).storagePacket.length := fun he => by
        rw [hi, hring.isFull_iff.2 he] at hfull
        cases hfull
      obtain ⟨cell, hcell⟩ := Option.isSome_iff_exists.1 hring.back?_isSome
      exact ⟨hring, lt_of_le_of_ne hring.holds.fits hroom, cell, hcell, trivial⟩
    · exact ⟨q, h.silent ⟨rfl, rfl, rfl⟩ rfl trivial h.poll rfl⟩
  | baseTime p => exact ⟨q, h.write (hok _ hpc) (fun _ _ => rfl) fun _ hr => hr⟩
  | pointsNum p => exact ⟨q, h.write (hok _ hpc) (fun _ hc => ⟨hc, rfl⟩) fun _ hr => hr⟩
  | clear p => exact ⟨q, h.write (hok _ hpc) (fun _ hc => hc) fun _ hr => hr⟩
  | copy p =>
    refine ⟨q, h.write (Q := (· = p.stored)) (hok _ hpc) (fun cell hc => ?_) fun _ hr => hr⟩
    obtain ⟨baseTime, pointsNum, points⟩ := cell
    obtain ⟨rfl, rfl⟩ := hc
    rfl
  | advance p => exact h.advance hpc
  | ifEmpty p =>
    dsimp only
    split
    · exact ⟨q, h.toStore trivial⟩
    · exact ⟨q, h.toStore trivial⟩
  | ifCount p =>
    dsimp only
    split
    · exact ⟨q, h.toStore trivial⟩
    · exact ⟨q, h.toStore trivial⟩
  | signal p => exact ⟨q, h.silent quiet_none rfl trivial h.poll rfl⟩

end Feed

/-! ## The turns of the poll thread -/

namespace Feed

variable {q : List (StoragePacket F)}

/-- The poll thread goes on, with nothing taken and nothing published. -/
theorem toPoll (h : Feed i d tr q) {pc : PollPc F} (hpc : pc.Ok i q)
    (hnow : d.poll.inHand i = []) (hnext : pc.inHand i = []) :
    Feed i { d with poll := pc } (tr ++ (none : Option (Event F)).toList) q :=
  h.silent quiet_none rfl h.store hpc (by rw [hnow, hnext])

/-- The packet that has been read is popped. -/
theorem pop (h : Feed i d tr q) {j : Index} {pkg : StoragePacket F} (hpc : d.poll = .popUpdate j pkg) :
    ∃ q', Feed i { d with lds := d.lds.setQueue j (·.queuePopUpdate), poll := .publish j pkg }
      (tr ++ (some (Event.taken j pkg)).toList) q' := by
  have hqueue : ∀ pc : PollPc F,
      Driver.queue { d with lds := d.lds.setQueue j (·.queuePopUpdate), poll := pc } i =
        if j = i then (d.queue i).queuePopUpdate else d.queue i := fun _ => setQueue_data _ _ _ _
  have hhand : d.poll.inHand i = [] := by rw [hpc]; rfl
  have hpub := h.published
  rw [hhand, List.append_nil] at hpub
  by_cases hi : j = i
  · have hp : PollPc.Ok i q (.popUpdate j pkg) := hpc ▸ h.poll
    obtain ⟨rest, rfl⟩ := hp hi
    refine ⟨rest, ?_, fun a ha => h.whole a (List.mem_cons_of_mem _ ha), ?_, trivial, ?_, ?_⟩
    · rw [hqueue, if_pos hi]
      exact .inr (h.contains.ring_of_ne_nil (List.cons_ne_nil _ _)).queuePopUpdate
    · rw [hqueue, if_pos hi]
      exact h.store.pop
    · rw [storedIn_append, takenIn_append, storedIn_toList, takenIn_toList, h.stored]
      simp [Event.storedAt, Event.takenAt, hi]
    · rw [publishedIn_append, takenIn_append, publishedIn_toList, takenIn_toList,
        List.filter_append, ← hpub]
      by_cases hne : pkg.points = []
      · simp [Event.publishedAt, Event.takenAt, PollPc.inHand, hi, hne]
      · simp [Event.publishedAt, Event.takenAt, PollPc.inHand, hi, hne]
  · refine ⟨q, h.silent ?_ ?_ ?_ trivial ?_⟩
    · simp [Quiet, Event.storedAt, Event.takenAt, Event.publishedAt, hi]
    · rw [hqueue, if_neg hi]
    · exact h.store
    · rw [hhand]
      simp [PollPc.inHand, hi]

/-- What is published is the packet in hand. -/
theorem publish (h : Feed i d tr q) {j : Index} {pkg : StoragePacket F} (hpc : d.poll = .publish j pkg) :
    Feed i { d with poll := .publishing j }
      (tr ++ (if pkg.points = [] then none else some (Event.published j pkg)).toList) q := by
  have hpub := h.published
  rw [hpc] at hpub
  refine ⟨h.contains, h.whole, h.store, trivial, ?_, ?_⟩
  · rw [storedIn_append, takenIn_append, storedIn_toList, takenIn_toList, h.stored]
    split <;> simp [Event.storedAt, Event.takenAt]
  · rw [publishedIn_append, takenIn_append, publishedIn_toList, takenIn_toList,
      List.filter_append, ← hpub]
    by_cases hne : pkg.points = []
    · simp [PollPc.inHand, hne]
    · by_cases hi : j = i
      · simp [Event.publishedAt, Event.takenAt, PollPc.inHand, hi, hne]
      · simp [Event.publishedAt, Event.takenAt, PollPc.inHand, hi, hne]

theorem pollTurn (h : Feed i d tr q) :
    ∃ q', Feed i d.pollTurn.1 (tr ++ d.pollTurn.2.toList) q' := by
  have hok : ∀ pc, d.poll = pc → pc.Ok i q := fun pc hpc => hpc ▸ h.poll
  have hempty : ∀ {j}, j = i → (d.queue j).queueIsEmpty = false → ∃ a rest, q = a :: rest := by
    rintro j rfl he
    refine List.exists_cons_of_ne_nil fun hq => ?_
    rw [h.contains.isEmpty_iff.2 hq] at he
    cases he
  have hfront : ∀ {a rest}, q = a :: rest → (d.queue i).front = a := by
    rintro a rest rfl
    exact (h.contains.ring_of_ne_nil (List.cons_ne_nil _ _)).front_eq
  unfold Driver.pollTurn
  cases hpc : d.poll with
  | start =>
    have hhand : d.poll.inHand i = [] := by rw [hpc]; rfl
    dsimp only
    split <;> exact ⟨q, h.toPoll trivial hhand rfl⟩
  | wait =>
    have hhand : d.poll.inHand i = [] := by rw [hpc]; rfl
    dsimp only
    split
    · exact ⟨q, h.silent quiet_none rfl h.store trivial hhand.symm⟩
    · exact ⟨q, h.silent quiet_none rfl h.store h.poll rfl⟩
  | lidars j =>
    have hhand : d.poll.inHand i = [] := by rw [hpc]; rfl
    dsimp only
    split
    · split <;> exact ⟨q, h.toPoll trivial hhand rfl⟩
    · exact ⟨q, h.toPoll trivial hhand rfl⟩
  | ifNull j =>
    have hhand : d.poll.inHand i = [] := by rw [hpc]; rfl
    dsimp only
    split <;> exact ⟨q, h.toPoll trivial hhand rfl⟩
  | polling j =>
    have hhand : d.poll.inHand i = [] := by rw [hpc]; rfl
    dsimp only
    split
    · split
      · exact ⟨q, h.toPoll trivial hhand rfl⟩
      · exact ⟨q, h.silent quiet_none rfl h.store h.poll rfl⟩
    · exact ⟨q, h.toPoll trivial hhand rfl⟩
  | publishing j =>
    have hhand : d.poll.inHand i = [] := by rw [hpc]; rfl
    dsimp only
    split
    · rename_i hne
      exact ⟨q, h.toPoll (fun hj => hempty hj (by simpa using hne)) hhand rfl⟩
    · exact ⟨q, h.toPoll trivial hhand rfl⟩
  | prePop j =>
    have hhand : d.poll.inHand i = [] := by rw [hpc]; rfl
    dsimp only
    split
    · exact ⟨q, h.toPoll trivial hhand (by simp [PollPc.inHand])⟩
    · rename_i hne
      exact ⟨q, h.toPoll (fun hj => hempty hj (by simpa using hne)) hhand rfl⟩
  | baseTime j =>
    have hhand : d.poll.inHand i = [] := by rw [hpc]; rfl
    refine ⟨q, h.toPoll (fun hj => ?_) hhand rfl⟩
    obtain ⟨a, rest, rfl⟩ := hok _ hpc hj
    exact ⟨a, rest, rfl, by rw [hj, LidarDataQueue.readBaseTime, hfront rfl]⟩
  | pointsNum j pkg =>
    have hhand : d.poll.inHand i = [] := by rw [hpc]; rfl
    refine ⟨q, h.toPoll (fun hj => ?_) hhand rfl⟩
    obtain ⟨a, rest, rfl, hbase⟩ := hok _ hpc hj
    exact ⟨a, rest, rfl, hbase, by rw [hj, LidarDataQueue.readPointsNum, hfront rfl]⟩
  | points j pkg =>
    have hhand : d.poll.inHand i = [] := by rw [hpc]; rfl
    refine ⟨q, h.toPoll (fun hj => ?_) hhand rfl⟩
    obtain ⟨a, rest, rfl, hbase, hnum⟩ := hok _ hpc hj
    refine ⟨rest, congrArg (· :: rest) ?_⟩
    rw [hj, LidarDataQueue.readPoints, hfront rfl, hnum, hbase,
      List.take_of_length_le (h.whole a List.mem_cons_self)]
  | popUpdate j pkg => exact h.pop hpc
  | publish j pkg => exact ⟨q, h.publish hpc⟩
  | status =>
    have hhand : d.poll.inHand i = [] := by rw [hpc]; rfl
    dsimp only
    split <;> exact ⟨q, h.toPoll trivial hhand rfl⟩
  | done => exact ⟨q, h.silent quiet_none rfl h.store h.poll rfl⟩

theorem turn (h : Feed i d tr q) (t : Turn) :
    ∃ q', Feed i (d.turn t).1 (tr ++ (d.turn t).2.toList) q' := by
  cases t with
  | point => exact h.pointTurn
  | poll => exact h.pollTurn
  | sampling j =>
    exact ⟨q, h.silent quiet_none (setConnectState_data _ _ _ _) h.store h.poll rfl⟩
  | allot handle | requestExit | exitSignal =>
    exact ⟨q, h.silent quiet_none rfl h.store h.poll rfl⟩

theorem run (h : Feed i d tr q) (ts : List Turn) : ∃ q', Feed i (d.run ts) (tr ++ d.trace ts) q' := by
  induction ts generalizing d tr q with
  | nil => exact ⟨q, by simpa [Driver.trace, Driver.run] using h⟩
  | cons t ts ih =>
    obtain ⟨q', h'⟩ := h.turn t
    obtain ⟨q'', h''⟩ := ih h'
    exact ⟨q'', by simpa [Driver.trace, Driver.run] using h''⟩

end Feed

theorem feed_init (lds : Lds F) (transferFormat : UInt8) (frames : List (PointFrame F)) (i : Index) :
    Feed i (.init lds transferFormat frames) [] [] where
  contains := .inl ⟨rfl, rfl⟩
  whole := fun _ ha => absurd ha List.not_mem_nil
  store := trivial
  poll := trivial
  stored := rfl
  published := rfl

/-- **What has been stored of a LiDAR is what has been taken and then what is in the queue**, whole and
in order, and what has been taken is published, unless it has no points. -/
theorem fifo (lds : Lds F) (transferFormat : UInt8) (frames : List (PointFrame F)) (ts : List Turn)
    (i : Index) :
    let d₀ : Driver F := .init lds transferFormat frames
    storedIn i (d₀.trace ts) = takenIn i (d₀.trace ts) ++ ((d₀.run ts).queue i).contents ∧
      publishedIn i (d₀.trace ts) ++ (d₀.run ts).poll.inHand i =
        (takenIn i (d₀.trace ts)).filter (fun pkg => decide (pkg.points ≠ [])) ∧
      ((d₀.run ts).queue i).contents.length ≤ ((d₀.run ts).queue i).storagePacket.length := by
  obtain ⟨q, h⟩ := (feed_init lds transferFormat frames i).run ts
  rw [List.nil_append] at h
  have hcontents := h.contains.contents_eq
  refine ⟨by rw [hcontents, h.stored], h.published, ?_⟩
  rw [hcontents]
  rcases h.contains with ⟨-, rfl⟩ | hring
  · exact Nat.zero_le _
  · exact hring.holds.fits

end Livox
