import Mathlib.Data.List.Basic

/-!
# Rings

A ring is a list of cells that are numbered on and on: the number `k` is the cell
`k % cells.length`. `Holds cells r q`: the queue `q` is in the cells from the number `r` on. A write
to the first cell after the queue leaves the queue (`Holds.modify_free`) and, once it is complete, can
be added to it (`Holds.push`); the oldest element is in the cell `r` (`Holds.head`) and is given up
by counting on (`Holds.pop`). Only the remainder of `r` matters (`Holds.congr`), so the counter may
wrap at any multiple of the number of cells (`mod_cell`).
-/

namespace Ring

variable {α : Type} {cells : List α} {r s : Nat} {q : List α} {a : α}

structure Holds (cells : List α) (r : Nat) (q : List α) : Prop where
  fits : q.length ≤ cells.length
  cell : ∀ k (hk : k < q.length), cells[(r + k) % cells.length]? = some (q.get ⟨k, hk⟩)

theorem Holds.nil : Holds cells r [] where
  fits := Nat.zero_le _
  cell := fun k hk => absurd hk (Nat.not_lt_zero k)

theorem Holds.congr (h : Holds cells r q) (hr : r % cells.length = s % cells.length) :
    Holds cells s q where
  fits := h.fits
  cell := fun k hk => by
    rw [← h.cell k hk, Nat.add_mod, ← hr, ← Nat.add_mod]

/-- Two numbers less than a turn apart are not of one cell. -/
theorem cell_ne {n k l : Nat} (hkl : k < l) (hl : l < k + n) : (r + k) % n ≠ (r + l) % n := by
  intro he
  have hdvd : n ∣ r + l - (r + k) := Nat.dvd_of_mod_eq_zero (Nat.sub_mod_eq_zero_of_mod_eq he.symm)
  have hle : n ≤ r + l - (r + k) := Nat.le_of_dvd (by omega) hdvd
  omega

/-- **A write to the first free cell does not touch the queue.** -/
theorem Holds.modify_free (h : Holds cells r q) (hq : q.length < cells.length) (f : α → α) :
    Holds (cells.modify ((r + q.length) % cells.length) f) r q where
  fits := by rw [List.length_modify]; exact h.fits
  cell := fun k hk => by
    rw [List.length_modify, List.getElem?_modify_ne f _ (cell_ne hk (by omega)).symm]
    exact h.cell k hk

theorem Holds.push (h : Holds cells r q) (hq : q.length < cells.length)
    (ha : cells[(r + q.length) % cells.length]? = some a) : Holds cells r (q ++ [a]) where
  fits := by rw [List.length_append]; exact hq
  cell := fun k hk => by
    by_cases hlt : k < q.length
    · rw [h.cell k hlt]
      simp [List.getElem_append_left hlt]
    · have hk' : k = q.length := by
        rw [List.length_append, List.length_singleton] at hk
        omega
      subst hk'
      rw [ha]
      simp

theorem Holds.head (h : Holds cells r (a :: q)) : cells[r % cells.length]? = some a :=
  h.cell 0 (Nat.zero_lt_succ _)

theorem Holds.pop (h : Holds cells r (a :: q)) : Holds cells (r + 1) q where
  fits := Nat.le_of_succ_le h.fits
  cell := fun k hk => by
    rw [Nat.add_assoc, Nat.add_comm 1 k]
    exact h.cell (k + 1) (Nat.succ_lt_succ hk)

/-! ## Counters that wrap -/

theorem mod_cell {m n : Nat} (h : n ∣ m) : r % m % n = r % n := Nat.mod_mod_of_dvd r h

/-- The number of elements is the difference of the counters, also when the later one has
wrapped. -/
theorem count_mod {m k : Nat} (hr : r < m) (hk : k < m) : ((r + k) % m + (m - r)) % m = k := by
  rw [Nat.mod_add_mod, show r + k + (m - r) = k + m by omega, Nat.add_mod_right,
    Nat.mod_eq_of_lt hk]

end Ring
