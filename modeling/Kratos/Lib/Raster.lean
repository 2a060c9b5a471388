import Mathlib.Data.Nat.Basic

/-!
# Painting a grid

`paint idx v ps data` writes `v` at the index of each of `ps` that has one, in order. A cell is
then painted iff something maps to it, whatever the order (`getElem?_paint`,
`getElem?_paint_replicate`, `mem_paint_iff`). A
grid of rows of width `w` is addressed by `i + j * w`, one index for each cell (`rowMajor_eq_iff`,
`rowMajor_lt`, and `rowMajor_mod_inj_iff` for addresses that wrap round).

`walk h w` is the cells in row-major order (`walk_pairwise`). Two nested loops are a loop over it
(`foldlM_walk`), and the cell before each one in its row, or above it, has been visited
(`walk_left`, `walk_above`).
-/

namespace Raster

variable {α β : Type} {idx : α → Option Nat} {v : β} {ps : List α} {data : List β} {k : Nat}

/-! ## Painting -/

def paint (idx : α → Option Nat) (v : β) : List α → List β → List β
  | [], data => data
  | p :: ps, data => paint idx v ps ((idx p).elim data fun k => data.set k v)

theorem paint_length : (paint idx v ps data).length = data.length := by
  induction ps generalizing data with
  | nil => rfl
  | cons p ps ih =>
    rw [paint, ih]
    cases idx p <;> simp

theorem getElem?_set_elim (hk : k < data.length) (o : Option Nat) :
    (o.elim data fun k => data.set k v)[k]? = if o = some k then some v else data[k]? := by
  cases o with
  | none => simp
  | some k' =>
    by_cases hkk : k' = k
    · subst hkk
      simp [hk]
    · simp [hkk, List.getElem?_set_ne]

/-- **A cell is painted iff something maps to it.** -/
theorem getElem?_paint (idx : α → Option Nat) (v : β) (ps : List α) (hk : k < data.length) :
    ((∃ p ∈ ps, idx p = some k) → (paint idx v ps data)[k]? = some v) ∧
      ((¬ ∃ p ∈ ps, idx p = some k) → (paint idx v ps data)[k]? = data[k]?) := by
  induction ps generalizing data with
  | nil => exact ⟨by simp, fun _ => rfl⟩
  | cons p ps ih =>
    have hlen : k < ((idx p).elim data fun k => data.set k v).length := by
      cases idx p <;> simpa using hk
    obtain ⟨hsome, hnone⟩ := ih hlen
    simp only [paint, List.mem_cons, exists_eq_or_imp]
    rw [getElem?_set_elim hk] at hnone
    by_cases hps : ∃ q ∈ ps, idx q = some k
    · exact ⟨fun _ => hsome hps, fun h => absurd (.inr hps) h⟩
    · rw [hnone hps]
      by_cases hp : idx p = some k
      · exact ⟨fun _ => if_pos hp, fun h => absurd (.inl hp) h⟩
      · exact ⟨fun h => absurd h (not_or.2 ⟨hp, hps⟩), fun _ => if_neg hp⟩

/-- A grid that is all `b` before is `v` where something maps to. -/
theorem getElem?_paint_replicate {n : Nat} {b : β} (hk : k < n)
    [Decidable (∃ p ∈ ps, idx p = some k)] :
    (paint idx v ps (List.replicate n b))[k]? =
      some (if ∃ p ∈ ps, idx p = some k then v else b) := by
  have hlen : k < (List.replicate n b).length := by rwa [List.length_replicate]
  obtain ⟨hpainted, hfree⟩ := getElem?_paint idx v ps hlen
  split
  · rename_i hp
    exact hpainted hp
  · rename_i hp
    rw [hfree hp, List.getElem?_replicate, if_pos hk]

theorem mem_paint_iff (hv : v ∉ data) :
    v ∈ paint idx v ps data ↔ ∃ p ∈ ps, ∃ k < data.length, idx p = some k := by
  refine ⟨fun hmem => ?_, fun hm => ?_⟩
  · obtain ⟨k, hk⟩ := List.mem_iff_getElem?.1 hmem
    have hlen : k < data.length := by
      obtain ⟨hlt, -⟩ := List.getElem?_eq_some_iff.1 hk
      rwa [paint_length] at hlt
    by_cases hps : ∃ p ∈ ps, idx p = some k
    · obtain ⟨p, hp, hidx⟩ := hps
      exact ⟨p, hp, k, hlen, hidx⟩
    · rw [(getElem?_paint idx v ps hlen).2 hps] at hk
      exact absurd (List.mem_of_getElem? hk) hv
  · obtain ⟨p, hp, k, hlen, hidx⟩ := hm
    exact List.mem_of_getElem? ((getElem?_paint idx v ps hlen).1 ⟨p, hp, hidx⟩)

/-! ## Row-major cells -/

variable {i i' j j' w h : Nat}

theorem rowMajor_eq_iff (hi : i < w) (hi' : i' < w) :
    i + j * w = i' + j' * w ↔ i = i' ∧ j = j' := by
  refine ⟨fun he => ?_, fun hm => ?_⟩
  · have hmod := congrArg (· % w) he
    simp only [Nat.add_mul_mod_self_right, Nat.mod_eq_of_lt hi, Nat.mod_eq_of_lt hi'] at hmod
    subst hmod
    exact ⟨rfl, Nat.eq_of_mul_eq_mul_right (Nat.zero_lt_of_lt hi) (Nat.add_left_cancel he)⟩
  · obtain ⟨rfl, rfl⟩ := hm
    rfl

theorem rowMajor_lt (hi : i < w) (hj : j < h) : i + j * w < w * h := by
  calc i + j * w < w + j * w := Nat.add_lt_add_right hi _
    _ = (j + 1) * w := by rw [Nat.add_mul, Nat.one_mul, Nat.add_comm]
    _ ≤ h * w := Nat.mul_le_mul_right w hj
    _ = w * h := Nat.mul_comm h w

/-- Addresses that are kept in a word of `N` values tell the cells apart iff there are no more
cells than values. -/
theorem rowMajor_mod_inj_iff {N : Nat} (hN : 0 < N) :
    (∀ i < w, ∀ j < h, ∀ i' < w, ∀ j' < h, (i + j * w) % N = (i' + j' * w) % N →
      i = i' ∧ j = j') ↔ w * h ≤ N := by
  constructor
  · intro hinj
    apply Nat.le_of_not_lt
    intro hlt
    have hw : 0 < w := Nat.pos_of_mul_pos_right (Nat.zero_lt_of_lt hlt)
    -- the cell with the address `N` meets the first one
    have hj : N / w < h := Nat.div_lt_of_lt_mul hlt
    have haddr : N % w + N / w * w = N := Nat.mod_add_div' N w
    obtain ⟨hi0, hj0⟩ := hinj 0 hw 0 (Nat.zero_lt_of_lt hj) (N % w) (Nat.mod_lt N hw) (N / w) hj (by
      rw [haddr]
      simp)
    rw [← hi0, ← hj0] at haddr
    omega
  · intro hle i hi j hj i' hi' j' hj' he
    have hlt := rowMajor_lt hi hj
    have hlt' := rowMajor_lt hi' hj'
    rw [Nat.mod_eq_of_lt (by omega), Nat.mod_eq_of_lt (by omega)] at he
    exact (rowMajor_eq_iff hi hi').1 he

/-! ## Walking a grid -/

def walk (h w : Nat) : List (Nat × Nat) :=
  (List.range h).flatMap fun row => (List.range w).map fun column => (row, column)

@[simp] theorem mem_walk {q : Nat × Nat} : q ∈ walk h w ↔ q.1 < h ∧ q.2 < w := by
  simp only [walk, List.mem_flatMap, List.mem_range, List.mem_map]
  refine ⟨fun hm => ?_, fun hq => ⟨q.1, hq.1, q.2, hq.2, rfl⟩⟩
  obtain ⟨row, hrow, column, hcolumn, rfl⟩ := hm
  exact ⟨hrow, hcolumn⟩

theorem walk_length : (walk h w).length = h * w := by
  simp [walk, List.length_flatMap, List.map_const']

theorem walk_pairwise :
    (walk h w).Pairwise fun q r => q.1 < r.1 ∨ q.1 = r.1 ∧ q.2 < r.2 := by
  refine List.pairwise_flatMap.2 ⟨fun row _ => ?_, ?_⟩
  · exact List.pairwise_map.2 (List.pairwise_lt_range.imp fun hlt => .inr ⟨rfl, hlt⟩)
  · refine List.pairwise_lt_range.imp fun {a b} hlt q hq r hr => ?_
    obtain ⟨_, _, rfl⟩ := List.mem_map.1 hq
    obtain ⟨_, _, rfl⟩ := List.mem_map.1 hr
    exact .inl hlt

variable {pre post : List (Nat × Nat)} {q r : Nat × Nat}

/-- What comes earlier in row-major order has been visited. -/
theorem mem_of_before (hw : walk h w = pre ++ r :: post) (hq : q ∈ walk h w)
    (hqr : q.1 < r.1 ∨ q.1 = r.1 ∧ q.2 < r.2) : q ∈ pre := by
  have hpair := hw ▸ walk_pairwise
  rw [hw] at hq
  rcases List.mem_append.1 hq with hq | hq
  · exact hq
  · rcases List.mem_cons.1 hq with rfl | hq
    · omega
    · have hrq := (List.pairwise_cons.1 (List.pairwise_append.1 hpair).2.1).1 q hq
      omega

theorem walk_bounds (hw : walk h w = pre ++ r :: post) : r.1 < h ∧ r.2 < w := by
  have hmem : r ∈ walk h w := by
    rw [hw]
    simp
  exact mem_walk.1 hmem

theorem walk_left (hw : walk h w = pre ++ (i, j + 1) :: post) : (i, j) ∈ pre := by
  have hb := walk_bounds hw
  exact mem_of_before hw (mem_walk.2 ⟨hb.1, by omega⟩) (by simp)

theorem walk_above (hw : walk h w = pre ++ (i + 1, j) :: post) : (i, j) ∈ pre := by
  have hb := walk_bounds hw
  exact mem_of_before hw (mem_walk.2 ⟨by omega, hb.2⟩) (by simp)

theorem foldlM_walk {m : Type → Type} [Monad m] [LawfulMonad m] {σ : Type}
    (f : σ → Nat → Nat → m σ) (s : σ) :
    (List.range h).foldlM (fun s row => (List.range w).foldlM (fun s col => f s row col) s) s =
      (walk h w).foldlM (fun s q => f s q.1 q.2) s := by
  unfold walk
  generalize List.range h = rows
  induction rows generalizing s with
  | nil => rfl
  | cons row rows ih =>
    rw [List.foldlM_cons, List.flatMap_cons, List.foldlM_append, List.foldlM_map]
    exact bind_congr fun s => ih s

end Raster
