import Kratos.Lib.Ring
import Kratos.Livox.Lds

/-!
# The packet queue is a ring

`LidarDataQueue.Ring queue q`: the allocated queue holds the packets `q`. Its size is a power of two
for every size that is asked for (`initQueue_ring`), so the 32-bit indices may wrap; the tests and
the statements of a push and of a pop are those of a bounded queue.
-/

namespace Livox

variable {F : Type}

/-! ## Powers of two -/

theorem isPowerOf2_spec {size : UInt32} (h : isPowerOf2 size = true) :
    ∃ k, k < 32 ∧ size.toNat = 2 ^ k := by
  simp only [isPowerOf2, Bool.and_eq_true, bne_iff_ne, beq_iff_eq] at h
  have hpos : size.toNat ≠ 0 := fun h0 => h.1 (UInt32.toNat_inj.1 h0)
  have hsub : (size - 1).toNat = size.toNat - 1 :=
    UInt32.toNat_sub_of_le _ _ (by rw [UInt32.le_iff_toNat_le, UInt32.toNat_one]; omega)
  have hand : size.toNat &&& (size.toNat - 1) = 0 := by
    rw [← hsub, ← UInt32.toNat_and, h.2]
    rfl
  obtain ⟨k, hk⟩ := Nat.ne_zero_and_sub_one_eq_zero_iff_isPowerOfTwo.1 ⟨hpos, hand⟩
  refine ⟨k, ?_, hk⟩
  have hlt := size.toNat_lt
  rw [hk] at hlt
  exact (Nat.pow_lt_pow_iff_right (by decide)).1 hlt

theorem roundupPowerOf2_spec (size : UInt32) : ∃ k, k < 32 ∧ (roundupPowerOf2 size).toNat = 2 ^ k := by
  have hpow : ∀ k < 32, ((1 : UInt32) <<< UInt32.ofNat k).toNat = 2 ^ k := by decide
  unfold roundupPowerOf2
  cases hfind : ((List.range 32).map fun i => (1 : UInt32) <<< UInt32.ofNat i).find? (size ≤ ·) with
  | none => exact ⟨31, by decide, rfl⟩
  | some power =>
    obtain ⟨k, hk, rfl⟩ := List.mem_map.1 (List.mem_of_find?_eq_some hfind)
    exact ⟨k, List.mem_range.1 hk, hpow k (List.mem_range.1 hk)⟩

/-! ## The ring -/

namespace LidarDataQueue

structure Ring (queue : LidarDataQueue F) (q : List (StoragePacket F)) : Prop where
  size : ∃ k, k < 32 ∧ queue.storagePacket.length = 2 ^ k
  mask : queue.mask.toNat = queue.storagePacket.length - 1
  count : queue.wrIdx.toNat = (queue.rdIdx.toNat + q.length) % 2 ^ 32
  holds : Ring.Holds queue.storagePacket queue.rdIdx.toNat q

/-- The cell that the next push fills. -/
def back? (queue : LidarDataQueue F) : Option (StoragePacket F) :=
  queue.storagePacket[(queue.wrIdx &&& queue.mask).toNat]?

end LidarDataQueue

open LidarDataQueue

theorem initQueue_ring (queueSize : UInt32) : (initQueue queueSize : LidarDataQueue F).Ring [] := by
  obtain ⟨k, hk, hsize⟩ : ∃ k, k < 32 ∧ (initQueue queueSize : LidarDataQueue F).size.toNat = 2 ^ k := by
    unfold initQueue
    dsimp only
    split
    · rename_i hpow
      exact isPowerOf2_spec hpow
    · exact roundupPowerOf2_spec queueSize
  have hlen : (initQueue queueSize : LidarDataQueue F).storagePacket.length = 2 ^ k := by
    rw [← hsize]
    exact List.length_replicate
  refine ⟨⟨k, hk, hlen⟩, ?_, rfl, .nil⟩
  have hone : 1 ≤ (initQueue queueSize : LidarDataQueue F).size.toNat := hsize ▸ Nat.one_le_two_pow
  rw [hlen, ← hsize]
  exact UInt32.toNat_sub_of_le _ _ (UInt32.le_iff_toNat_le.2 hone)

namespace LidarDataQueue.Ring

variable {queue : LidarDataQueue F} {q : List (StoragePacket F)} {a : StoragePacket F}

theorem length_lt (h : queue.Ring q) : queue.storagePacket.length < 2 ^ 32 := by
  obtain ⟨k, hk, hlen⟩ := h.size
  rw [hlen]
  exact Nat.pow_lt_pow_right (by decide) hk

theorem allocated (h : queue.Ring q) : queue.storagePacket ≠ [] := by
  obtain ⟨k, -, hlen⟩ := h.size
  intro hnil
  have hpos := Nat.two_pow_pos k
  rw [← hlen, hnil] at hpos
  exact Nat.lt_irrefl 0 hpos

theorem count_lt (h : queue.Ring q) : q.length < 2 ^ 32 := h.holds.fits.trans_lt h.length_lt

/-- Masking an index is taking the cell of its number. -/
theorem and_mask (h : queue.Ring q) (n : UInt32) :
    (n &&& queue.mask).toNat = n.toNat % queue.storagePacket.length := by
  obtain ⟨k, -, hlen⟩ := h.size
  rw [UInt32.toNat_and, h.mask, hlen, Nat.and_two_pow_sub_one_eq_mod]

theorem dvd (h : queue.Ring q) : queue.storagePacket.length ∣ 2 ^ 32 := by
  obtain ⟨k, hk, hlen⟩ := h.size
  rw [hlen]
  exact Nat.pow_dvd_pow 2 hk.le

theorem wrIdx_cell (h : queue.Ring q) :
    (queue.wrIdx &&& queue.mask).toNat =
      (queue.rdIdx.toNat + q.length) % queue.storagePacket.length := by
  rw [h.and_mask, h.count, Ring.mod_cell h.dvd]

theorem usedSize (h : queue.Ring q) : (queue.wrIdx - queue.rdIdx).toNat = q.length := by
  have hrd := queue.rdIdx.toNat_lt
  rw [UInt32.toNat_sub, h.count, Nat.add_comm]
  exact Ring.count_mod hrd h.count_lt

theorem isFull_iff (h : queue.Ring q) :
    queue.queueIsFull = true ↔ q.length = queue.storagePacket.length := by
  have hfits := h.holds.fits
  have hpos := List.length_pos_iff.2 h.allocated
  unfold queueIsFull
  rw [decide_eq_true_iff, gt_iff_lt, UInt32.lt_iff_toNat_lt, h.usedSize, h.mask]
  omega

theorem isEmpty_iff (h : queue.Ring q) : queue.queueIsEmpty = true ↔ q = [] := by
  unfold queueIsEmpty
  rw [beq_iff_eq, ← List.length_eq_zero_iff, ← h.usedSize]
  refine ⟨fun he => by rw [he]; simp, fun he => ?_⟩
  have hzero : queue.wrIdx - queue.rdIdx = 0 := UInt32.toNat_inj.1 he
  grind

/-! ## Pushing -/

theorem write (h : queue.Ring q) (hq : q.length < queue.storagePacket.length)
    (f : StoragePacket F → StoragePacket F) : (queue.write f).Ring q where
  size := by
    obtain ⟨k, hk, hlen⟩ := h.size
    exact ⟨k, hk, by simpa [LidarDataQueue.write] using hlen⟩
  mask := by simpa [LidarDataQueue.write] using h.mask
  count := h.count
  holds := by
    have hfree := h.holds.modify_free hq f
    rw [← h.wrIdx_cell] at hfree
    exact hfree

theorem back?_write (f : StoragePacket F → StoragePacket F) :
    (queue.write f).back? = queue.back?.map f := by
  unfold back? LidarDataQueue.write
  rw [List.getElem?_modify_eq]
  rfl

theorem back?_isSome (h : queue.Ring q) : queue.back?.isSome := by
  unfold back?
  rw [h.wrIdx_cell, List.getElem?_eq_getElem (Nat.mod_lt _ (List.length_pos_iff.2 h.allocated))]
  rfl

theorem advanceWrIdx (h : queue.Ring q) (hq : q.length < queue.storagePacket.length)
    (ha : queue.back? = some a) : queue.advanceWrIdx.Ring (q ++ [a]) where
  size := h.size
  mask := h.mask
  count := by
    show (queue.wrIdx + 1).toNat = _
    rw [UInt32.toNat_add, h.count, UInt32.toNat_one, List.length_append, List.length_singleton,
      Nat.mod_add_mod]
    rfl
  holds := by
    refine h.holds.push hq ?_
    rw [← h.wrIdx_cell]
    exact ha

/-! ## Popping -/

theorem front_eq (h : queue.Ring (a :: q)) : queue.front = a := by
  unfold front
  rw [h.and_mask, List.getD_eq_getElem?_getD, h.holds.head]
  rfl

theorem queuePopUpdate (h : queue.Ring (a :: q)) : queue.queuePopUpdate.Ring q where
  size := h.size
  mask := h.mask
  count := by
    show queue.wrIdx.toNat = ((queue.rdIdx + 1).toNat + _) % _
    rw [h.count, UInt32.toNat_add, UInt32.toNat_one, Nat.mod_add_mod, List.length_cons]
    congr 1
    omega
  holds := by
    refine h.holds.pop.congr ?_
    show (queue.rdIdx.toNat + 1) % _ = (queue.rdIdx + 1).toNat % _
    rw [UInt32.toNat_add, UInt32.toNat_one]
    exact (Ring.mod_cell h.dvd).symm

end LidarDataQueue.Ring

end Livox
