import Kratos.Pgm.Node

/-!
# The cells of the fixed grid

For a grid of fewer than `2 ^ 31` cells the rasterizer's machine arithmetic is exact: a point's
index is `i + j * width` for its own column and row, and it has one iff these are in the grid
(`cellIndex_eq_some`). `setMapTopicMsgFixedBounds` then draws the cloud, cell by cell
(`setMapTopicMsgFixedBounds_draws`). For any grid, it leaves every cell free iff no point has an
index in `data` (`occupied_iff`, `lands_iff`).
-/

namespace Pgm

variable {p : Params}

/-! ## Words -/

theorem toInt32_natCast {n : Nat} (h : n < 2 ^ 31) : toInt32 n = n := by
  unfold toInt32
  omega

theorem wrapUInt32_natCast {n : Nat} (h : n < 2 ^ 32) : wrapUInt32 n = n := by
  unfold wrapUInt32
  omega

theorem asInt32_natCast {n : Nat} (h : n < 2 ^ 31) : asInt32 n = n := by
  apply Int.bmod_eq_of_le <;> omega

/-- The bounds test on one axis of `n` cells, where `x` is the exact index. -/
theorem inBounds_iff {x : Int} {n : Nat} (h : n < 2 ^ 32) :
    toInt32 x ≥ 0 ∧ toInt32 x < asInt32 n ↔ n < 2 ^ 31 ∧ ∃ i : Nat, i < n ∧ x = i := by
  by_cases hn : n < 2 ^ 31
  · rw [asInt32_natCast hn]
    unfold toInt32
    refine ⟨fun hm => ?_, fun hm => ?_⟩
    · obtain ⟨h0, hlt⟩ := hm
      exact ⟨hn, x.toNat, by omega, by omega⟩
    · obtain ⟨-, i, hi, rfl⟩ := hm
      omega
  · have hneg : asInt32 n < 0 :=
      (Int.bmod_neg_iff (by omega) (by omega)).2 (.inr (by omega))
    refine ⟨fun hm => ?_, fun hm => ?_⟩
    · obtain ⟨h0, hlt⟩ := hm
      omega
    · obtain ⟨hlt, -⟩ := hm
      exact absurd hlt hn

/-! ## The cell of a point -/

def column (p : Params) (point : PointXYZ) : Int :=
  ⌊(point.x - p.fixedOriginX) / p.mapResolution⌋

def row (p : Params) (point : PointXYZ) : Int :=
  ⌊(point.y - p.fixedOriginY) / p.mapResolution⌋

theorem cellIndex_eq (point : PointXYZ) : cellIndex p point =
    if toInt32 (column p point) ≥ 0 ∧ toInt32 (column p point) < asInt32 (gridWidth p) ∧
        toInt32 (row p point) ≥ 0 ∧ toInt32 (row p point) < asInt32 (gridHeight p) then
      some (wrapUInt32 (toInt32 (column p point) + toInt32 (row p point) * gridWidth p))
    else none := rfl

theorem wrapUInt32_address (i j w : Nat) : wrapUInt32 (i + j * w) = (i + j * w) % 2 ^ 32 := by
  have hcast : (i + j * w : Int) = (i + j * w : Nat) := by push_cast; rfl
  rw [hcast]
  unfold wrapUInt32
  omega

/-- The address of a cell does not wrap round where the grid's size does not. -/
theorem wrapUInt32_cell {w h i j : Nat} (hsize : w * h ≤ 2 ^ 32) (hi : i < w) (hj : j < h) :
    wrapUInt32 (i + j * w) = i + j * w := by
  have hlt := Raster.rowMajor_lt hi hj
  rw [wrapUInt32_address, Nat.mod_eq_of_lt (by omega)]

theorem toUInt32_lt (x : Int) : toUInt32 x < 2 ^ 32 := by
  unfold toUInt32
  omega

/-- A point has an index iff its cell is in the grid and the grid's sides are `int`s. -/
theorem cellIndex_eq_some_iff {point : PointXYZ} {k : Nat} : cellIndex p point = some k ↔
    gridWidth p < 2 ^ 31 ∧ gridHeight p < 2 ^ 31 ∧ ∃ i < gridWidth p, ∃ j < gridHeight p,
      column p point = i ∧ row p point = j ∧ k = wrapUInt32 (i + j * gridWidth p) := by
  have hw : gridWidth p < 2 ^ 32 := toUInt32_lt _
  have hh : gridHeight p < 2 ^ 32 := toUInt32_lt _
  rw [cellIndex_eq]
  refine ⟨fun hk => ?_, fun hm => ?_⟩
  · split at hk
    · rename_i hin
      obtain ⟨hw', i, hi, hx⟩ := (inBounds_iff hw).1 ⟨hin.1, hin.2.1⟩
      obtain ⟨hh', j, hj, hy⟩ := (inBounds_iff hh).1 hin.2.2
      rw [hx, hy, toInt32_natCast (by omega), toInt32_natCast (by omega), Option.some_inj] at hk
      exact ⟨hw', hh', i, hi, j, hj, hx, hy, hk.symm⟩
    · cases hk
  · obtain ⟨hw', hh', i, hi, j, hj, hx, hy, rfl⟩ := hm
    have hcol := (inBounds_iff hw).2 ⟨hw', i, hi, hx⟩
    have hrow := (inBounds_iff hh).2 ⟨hh', j, hj, hy⟩
    rw [if_pos ⟨hcol.1, hcol.2, hrow⟩, hx, hy, toInt32_natCast (by omega),
      toInt32_natCast (by omega)]

/-- **A point has the index of its own cell.** -/
theorem cellIndex_eq_some (hsize : gridWidth p * gridHeight p < 2 ^ 31) {point : PointXYZ}
    {k : Nat} : cellIndex p point = some k ↔
      ∃ i < gridWidth p, ∃ j < gridHeight p,
        column p point = i ∧ row p point = j ∧ k = i + j * gridWidth p := by
  rw [cellIndex_eq_some_iff]
  refine ⟨fun hm => ?_, fun hm => ?_⟩
  · obtain ⟨-, -, i, hi, j, hj, hx, hy, rfl⟩ := hm
    exact ⟨i, hi, j, hj, hx, hy, wrapUInt32_cell (by omega) hi hj⟩
  · obtain ⟨i, hi, j, hj, hx, hy, rfl⟩ := hm
    have hw' : gridWidth p < 2 ^ 31 :=
      Nat.lt_of_le_of_lt (Nat.le_mul_of_pos_right _ (Nat.zero_lt_of_lt hj)) hsize
    have hh' : gridHeight p < 2 ^ 31 :=
      Nat.lt_of_le_of_lt (Nat.le_mul_of_pos_left _ (Nat.zero_lt_of_lt hi)) hsize
    exact ⟨hw', hh', i, hi, j, hj, hx, hy, (wrapUInt32_cell (by omega) hi hj).symm⟩

/-- It has no other cell's. -/
theorem cellIndex_eq_cell (hsize : gridWidth p * gridHeight p < 2 ^ 31) {i j : Nat}
    (hi : i < gridWidth p) (hj : j < gridHeight p) {point : PointXYZ} :
    cellIndex p point = some (i + j * gridWidth p) ↔ column p point = i ∧ row p point = j := by
  rw [cellIndex_eq_some hsize]
  refine ⟨fun hm => ?_, fun hm => ?_⟩
  · obtain ⟨i', hi', j', hj', hx, hy, he⟩ := hm
    obtain ⟨rfl, rfl⟩ := (Raster.rowMajor_eq_iff hi hi').1 he
    exact ⟨hx, hy⟩
  · obtain ⟨hx, hy⟩ := hm
    exact ⟨i, hi, j, hj, hx, hy, rfl⟩

theorem dataSize_eq (hsize : gridWidth p * gridHeight p < 2 ^ 31) :
    dataSize p = gridWidth p * gridHeight p := by
  unfold dataSize
  rw [← Nat.cast_mul, wrapUInt32_natCast (by omega)]

/-! ## The drawn grid -/

/-- `grid` is the fixed grid, with the cells of the cloud's points occupied and the others
free. -/
structure Draws (p : Params) (cloud : Cloud) (grid : OccupancyGrid) : Prop where
  frameId : grid.frameId = "map"
  resolution : grid.resolution = p.mapResolution
  width : grid.width = gridWidth p
  height : grid.height = gridHeight p
  origin : grid.origin = ⟨(p.fixedOriginX, p.fixedOriginY, 0), (0, 0, 0, 1)⟩
  size : grid.data.length = grid.width * grid.height
  cell : ∀ i < grid.width, ∀ j < grid.height, grid.data[i + j * grid.width]? =
    some (if ∃ point ∈ cloud, column p point = i ∧ row p point = j then 100 else 0)

theorem setMapTopicMsgFixedBounds_draws (hsize : gridWidth p * gridHeight p < 2 ^ 31) (now : Int)
    (cloud : Cloud) : Draws p cloud (setMapTopicMsgFixedBounds p now cloud).1 where
  frameId := rfl
  resolution := rfl
  width := rfl
  height := rfl
  origin := rfl
  size := by
    show (Raster.paint ..).length = _
    rw [Raster.paint_length, List.length_replicate, dataSize_eq hsize]
    rfl
  cell := by
    intro i hi j hj
    show (Raster.paint ..)[i + j * gridWidth p]? = _
    have hlt : i + j * gridWidth p < dataSize p := by
      rw [dataSize_eq hsize]
      exact Raster.rowMajor_lt hi hj
    rw [Raster.getElem?_paint_replicate hlt]
    refine congrArg some (if_congr ?_ rfl rfl)
    simp only [cellIndex_eq_cell hsize hi hj]

/-! ## Occupied cells -/

/-- The point has an index in `data`. -/
def Lands (p : Params) (point : PointXYZ) : Prop := ∃ k < dataSize p, cellIndex p point = some k

theorem occupied_iff (now : Int) (cloud : Cloud) :
    100 ∈ (setMapTopicMsgFixedBounds p now cloud).1.data ↔ ∃ point ∈ cloud, Lands p point := by
  have hfree : (100 : Int) ∉ List.replicate (dataSize p) 0 := by simp
  show 100 ∈ Raster.paint .. ↔ _
  rw [Raster.mem_paint_iff hfree, List.length_replicate]
  rfl

theorem floor_in_iff {x o r : ℚ} {n : Nat} (hr : 0 < r) :
    (∃ i : Nat, i < n ∧ ⌊(x - o) / r⌋ = i) ↔ o ≤ x ∧ x < o + n * r := by
  have hfloor : (∃ i : Nat, i < n ∧ ⌊(x - o) / r⌋ = i) ↔
      0 ≤ ⌊(x - o) / r⌋ ∧ ⌊(x - o) / r⌋ < n := by
    refine ⟨fun hm => ?_, fun hm => ?_⟩
    · obtain ⟨i, hi, he⟩ := hm
      omega
    · obtain ⟨h0, hlt⟩ := hm
      exact ⟨⌊(x - o) / r⌋.toNat, by omega, by omega⟩
  rw [hfloor, Int.floor_nonneg, Int.floor_lt, Int.cast_natCast, div_lt_iff₀ hr, le_div_iff₀ hr,
    zero_mul, sub_nonneg, sub_lt_iff_lt_add']

/-- In a grid of fewer than `2 ^ 31` cells a point lands iff it is over the fixed rectangle. -/
theorem lands_iff (hres : 0 < p.mapResolution) (hsize : gridWidth p * gridHeight p < 2 ^ 31)
    {point : PointXYZ} : Lands p point ↔
      (p.fixedOriginX ≤ point.x ∧ point.x < p.fixedOriginX + gridWidth p * p.mapResolution) ∧
        p.fixedOriginY ≤ point.y ∧ point.y < p.fixedOriginY + gridHeight p * p.mapResolution := by
  rw [← floor_in_iff hres, ← floor_in_iff hres]
  unfold Lands
  rw [dataSize_eq hsize]
  simp only [cellIndex_eq_some hsize]
  refine ⟨fun hm => ?_, fun hm => ?_⟩
  · obtain ⟨k, hk, i, hi, j, hj, hx, hy, -⟩ := hm
    exact ⟨⟨i, hi, hx⟩, j, hj, hy⟩
  · obtain ⟨⟨i, hi, hx⟩, j, hj, hy⟩ := hm
    exact ⟨_, Raster.rowMajor_lt hi hj, i, hi, j, hj, hx, hy, rfl⟩

end Pgm
