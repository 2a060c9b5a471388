import Kratos.Pgm.FileMode
import Kratos.Pgm.Proof.Cells
import Mathlib.Data.List.Induction

/-!
# The grid of a bounding box

* **The box** (`boundsOf_spec`): every point of the cloud is in it, and each side has one.
* **Cells** (`Bounds.cellIndex_eq_some_iff`): a point has the index of the column and the row that
  an `int` holds of its own.

The grid has `⌈extent / resolution⌉` columns, but the points on the far side are in column
`⌊extent / resolution⌋`: they are in the grid iff these are not the same (`floor_lt_ceil_iff`). So
file mode loses no point iff neither extent is a multiple of the resolution, where the last column
and row are `int`s (`lossless_iff`).
-/

namespace Pgm

variable {p : Params} {b : Bounds} {point : PointXYZ} {points : Cloud}

/-! ## The box -/

/-- `b` is the least box about the points of a cloud. -/
structure Boxes (cloud : Cloud) (b : Bounds) : Prop where
  inside : ∀ q ∈ cloud, (b.xMin ≤ q.x ∧ q.x ≤ b.xMax) ∧ b.yMin ≤ q.y ∧ q.y ≤ b.yMax
  xMin : ∃ q ∈ cloud, q.x = b.xMin
  xMax : ∃ q ∈ cloud, q.x = b.xMax
  yMin : ∃ q ∈ cloud, q.y = b.yMin
  yMax : ∃ q ∈ cloud, q.y = b.yMax

theorem exists_min {α : Type} {f : α → ℚ} {l : List α} {x : ℚ} {a : α} (h : ∃ q ∈ l, f q = x) :
    ∃ q ∈ l ++ [a], f q = min x (f a) := by
  obtain ⟨q, hq, rfl⟩ := h
  rcases min_choice (f q) (f a) with he | he
  · exact ⟨q, by simp [hq], he.symm⟩
  · exact ⟨a, by simp, he.symm⟩

theorem exists_max {α : Type} {f : α → ℚ} {l : List α} {x : ℚ} {a : α} (h : ∃ q ∈ l, f q = x) :
    ∃ q ∈ l ++ [a], f q = max x (f a) := by
  obtain ⟨q, hq, rfl⟩ := h
  rcases max_choice (f q) (f a) with he | he
  · exact ⟨q, by simp [hq], he.symm⟩
  · exact ⟨a, by simp, he.symm⟩

theorem Boxes.extend {cloud : Cloud} (h : Boxes cloud b) (point : PointXYZ) :
    Boxes (cloud ++ [point]) (b.extend point) where
  inside := by
    intro q hq
    simp only [Bounds.extend, min_le_iff, le_max_iff]
    rcases List.mem_append.1 hq with hq | hq
    · have := h.inside q hq
      simp [this]
    · obtain rfl := List.mem_singleton.1 hq
      simp
  xMin := exists_min h.xMin
  xMax := exists_max h.xMax
  yMin := exists_min h.yMin
  yMax := exists_max h.yMax

theorem boundsOf_spec (point : PointXYZ) (points : Cloud) :
    Boxes (point :: points) (boundsOf point points) := by
  induction points using List.reverseRecOn with
  | nil => constructor <;> simp [boundsOf]
  | append_singleton points q ih =>
    have hfold : boundsOf point (points ++ [q]) = (boundsOf point points).extend q := by
      simp [boundsOf]
    rw [hfold]
    exact ih.extend q

/-! ## The cell of a point -/

namespace Bounds

def column (p : Params) (b : Bounds) (point : PointXYZ) : Int :=
  ⌊(point.x - b.xMin) / p.mapResolution⌋

def row (p : Params) (b : Bounds) (point : PointXYZ) : Int :=
  ⌊(point.y - b.yMin) / p.mapResolution⌋

end Bounds

theorem toInt32_bounds (x : Int) : -2 ^ 31 ≤ toInt32 x ∧ toInt32 x < 2 ^ 31 := by
  unfold toInt32
  omega

/-- The comparison of `int` with `unsigned`. -/
theorem inBounds_unsigned_iff {x : Int} {n : Nat} :
    toInt32 x ≥ 0 ∧ wrapUInt32 (toInt32 x) < n ↔ ∃ i : Nat, i < n ∧ toInt32 x = i := by
  have hx := toInt32_bounds x
  unfold wrapUInt32
  refine ⟨fun hm => ?_, fun hm => ?_⟩
  · obtain ⟨h0, hlt⟩ := hm
    exact ⟨(toInt32 x).toNat, by omega, by omega⟩
  · obtain ⟨i, hi, hx⟩ := hm
    omega

theorem Bounds.cellIndex_eq_some_iff {k : Nat} : b.cellIndex p point = some k ↔
    ∃ i < b.width p, ∃ j < b.height p, toInt32 (b.column p point) = i ∧
      toInt32 (b.row p point) = j ∧ k = wrapUInt32 (i + j * b.width p) := by
  have hcol := inBounds_unsigned_iff (x := b.column p point) (n := b.width p)
  have hrow := inBounds_unsigned_iff (x := b.row p point) (n := b.height p)
  unfold Bounds.column at hcol
  unfold Bounds.row at hrow
  unfold Bounds.cellIndex Bounds.column Bounds.row
  dsimp only
  refine ⟨fun hk => ?_, fun hm => ?_⟩
  · split at hk
    · rename_i hin
      obtain ⟨i, hi, hx⟩ := hcol.1 ⟨hin.1, hin.2.1⟩
      obtain ⟨j, hj, hy⟩ := hrow.1 hin.2.2
      rw [hx, hy, Option.some_inj] at hk
      exact ⟨i, hi, j, hj, hx, hy, hk.symm⟩
    · cases hk
  · obtain ⟨i, hi, j, hj, hx, hy, rfl⟩ := hm
    have hc := hcol.2 ⟨i, hi, hx⟩
    have hr := hrow.2 ⟨j, hj, hy⟩
    rw [if_pos ⟨hc.1, hc.2, hr⟩, hx, hy]

/-! ## Floors and ceilings -/

theorem floor_lt_ceil_iff {e r : ℚ} (hr : 0 < r) :
    ⌊e / r⌋ < ⌈e / r⌉ ↔ ¬ ∃ n : ℤ, e = n * r := by
  constructor
  · rintro hlt ⟨n, rfl⟩
    rw [mul_div_cancel_right₀ _ hr.ne', Int.floor_intCast, Int.ceil_intCast] at hlt
    omega
  · intro hno
    apply Int.lt_of_not_ge
    intro hle
    -- between its floor and its ceiling there is no room
    have hceil : e / r ≤ (⌈e / r⌉ : ℚ) := Int.le_ceil _
    have hfloor : (⌊e / r⌋ : ℚ) ≤ e / r := Int.floor_le _
    have hcast : (⌈e / r⌉ : ℚ) ≤ ⌊e / r⌋ := by exact_mod_cast hle
    have heq : e / r = ⌊e / r⌋ := le_antisymm (hceil.trans hcast) hfloor
    exact hno ⟨⌊e / r⌋, (div_eq_iff hr.ne').1 heq⟩

theorem floor_eq_iff_cell {x o r : ℚ} (hr : 0 < r) {i : ℤ} :
    ⌊(x - o) / r⌋ = i ↔ o + i * r ≤ x ∧ x < o + (i + 1) * r := by
  rw [Int.floor_eq_iff, le_div_iff₀ hr, div_lt_iff₀ hr, le_sub_iff_add_le', sub_lt_iff_lt_add']

/-- A point of the box is in a column of the grid, unless it is on the far side. -/
theorem floor_bounds {x o e r : ℚ} (hr : 0 < r) (hx : o ≤ x) (he : x ≤ e) :
    0 ≤ ⌊(x - o) / r⌋ ∧ ⌊(x - o) / r⌋ ≤ ⌊(e - o) / r⌋ := by
  constructor
  · exact Int.floor_nonneg.2 (div_nonneg (by linarith) hr.le)
  · exact Int.floor_le_floor (div_le_div_of_nonneg_right (by linarith) hr.le)

/-! ## Lossless grids -/

/-- The point is in the cell of column `i` and row `j`. -/
def OccupancyGrid.Cell (grid : OccupancyGrid) (i j : Nat) (point : PointXYZ) : Prop :=
  (grid.origin.position.1 + i * grid.resolution ≤ point.x ∧
      point.x < grid.origin.position.1 + (i + 1) * grid.resolution) ∧
    grid.origin.position.2.1 + j * grid.resolution ≤ point.y ∧
      point.y < grid.origin.position.2.1 + (j + 1) * grid.resolution

/-- The cells of the points are occupied, each point has one, and the other cells are free. -/
structure Lossless (cloud : Cloud) (grid : OccupancyGrid) : Prop where
  width : 1 ≤ grid.width
  height : 1 ≤ grid.height
  occupied : ∀ point ∈ cloud, ∃ i < grid.width, ∃ j < grid.height, grid.Cell i j point ∧
    grid.data[i + j * grid.width]? = some 100
  free : ∀ i < grid.width, ∀ j < grid.height, (∀ point ∈ cloud, ¬ grid.Cell i j point) →
    grid.data[i + j * grid.width]? = some 0

/-- The message for a cloud that is not empty. -/
def boxedMsg (p : Params) (now : Int) (point : PointXYZ) (points : Cloud) (msg : OccupancyGrid) :
    OccupancyGrid :=
  (setMapTopicMsgDynamicBounds p now (point :: points) msg).1

theorem boxedMsg_cell (hres : 0 < p.mapResolution) {now : Int} {msg : OccupancyGrid} {i j : Nat}
    {q : PointXYZ} : (boxedMsg p now point points msg).Cell i j q ↔
      (boundsOf point points).column p q = i ∧ (boundsOf point points).row p q = j := by
  unfold Bounds.column Bounds.row
  rw [floor_eq_iff_cell hres, floor_eq_iff_cell hres, Int.cast_natCast, Int.cast_natCast]
  rfl

theorem cast_toUInt32 {x : Int} (h0 : 0 ≤ x) (h : x < 2 ^ 32) : (toUInt32 x : Int) = x := by
  unfold toUInt32
  omega

/-- One axis of a box: its cells, and those of its points, whose far side is at `e`. -/
theorem axis_fits {o e r x : ℚ} (hr : 0 < r) (hx : o ≤ x) (he : x ≤ e)
    (hmul : ¬ ∃ n : ℤ, e - o = n * r) (hmax : ⌈(e - o) / r⌉ ≤ 2 ^ 31) :
    ∃ i : Nat, i < toUInt32 ⌈(e - o) / r⌉ ∧ ⌊(x - o) / r⌋ = i ∧ toInt32 ⌊(x - o) / r⌋ = i := by
  obtain ⟨h0, hle⟩ := floor_bounds hr hx he
  have hlt := (floor_lt_ceil_iff hr).2 hmul
  refine ⟨⌊(x - o) / r⌋.toNat, ?_, by omega, ?_⟩
  · unfold toUInt32
    omega
  · unfold toInt32
    omega

/-- The numbers of columns, rows and cells, as they are before any conversion, are `unsigned`s. -/
structure Bounds.Fits (p : Params) (b : Bounds) : Prop where
  columns : ⌈(b.xMax - b.xMin) / p.mapResolution⌉ < 2 ^ 32
  rows : ⌈(b.yMax - b.yMin) / p.mapResolution⌉ < 2 ^ 32
  cells : ⌈(b.xMax - b.xMin) / p.mapResolution⌉ * ⌈(b.yMax - b.yMin) / p.mapResolution⌉ < 2 ^ 32

theorem Boxes.extents {cloud : Cloud} (h : Boxes cloud b) (hres : 0 < p.mapResolution) :
    0 ≤ ⌈(b.xMax - b.xMin) / p.mapResolution⌉ ∧ 0 ≤ ⌈(b.yMax - b.yMin) / p.mapResolution⌉ := by
  obtain ⟨q, hq, -⟩ := h.xMin
  obtain ⟨⟨hx, hx'⟩, hy, hy'⟩ := h.inside q hq
  constructor
  · exact Int.ceil_nonneg (div_nonneg (by linarith) hres.le)
  · exact Int.ceil_nonneg (div_nonneg (by linarith) hres.le)

section
variable (hres : 0 < p.mapResolution) (hfits : (boundsOf point points).Fits p)
include hres hfits

theorem width_eq : ((boundsOf point points).width p : Int) =
    ⌈((boundsOf point points).xMax - (boundsOf point points).xMin) / p.mapResolution⌉ :=
  cast_toUInt32 ((boundsOf_spec point points).extents hres).1 hfits.columns

theorem height_eq : ((boundsOf point points).height p : Int) =
    ⌈((boundsOf point points).yMax - (boundsOf point points).yMin) / p.mapResolution⌉ :=
  cast_toUInt32 ((boundsOf_spec point points).extents hres).2 hfits.rows

theorem cells_lt : (boundsOf point points).width p * (boundsOf point points).height p < 2 ^ 32 := by
  have hcells := hfits.cells
  rw [← width_eq hres hfits, ← height_eq hres hfits] at hcells
  exact_mod_cast hcells

theorem wrapUInt32_boxed {i j : Nat} (hi : i < (boundsOf point points).width p)
    (hj : j < (boundsOf point points).height p) :
    wrapUInt32 (i + j * (boundsOf point points).width p) =
      i + j * (boundsOf point points).width p :=
  wrapUInt32_cell (cells_lt hres hfits).le hi hj

/-- A cell of the grid is occupied iff it is the index of a point. -/
theorem boxedMsg_data (now : Int) (msg : OccupancyGrid) {i j : Nat}
    (hi : i < (boundsOf point points).width p) (hj : j < (boundsOf point points).height p) :
    (boxedMsg p now point points msg).data[i + j * (boundsOf point points).width p]? =
      some (if ∃ q ∈ point :: points, (boundsOf point points).cellIndex p q =
          some (i + j * (boundsOf point points).width p) then 100 else 0) := by
  have hlt : i + j * (boundsOf point points).width p < (boundsOf point points).dataSize p := by
    rw [Bounds.dataSize, ← Nat.cast_mul, wrapUInt32_natCast (cells_lt hres hfits)]
    exact Raster.rowMajor_lt hi hj
  exact Raster.getElem?_paint_replicate hlt

/-- The cell of a point of a lossless grid, whose column and row are `int`s. -/
theorem Lossless.cell {now : Int} {msg : OccupancyGrid}
    (h : Lossless (point :: points) (boxedMsg p now point points msg)) {q : PointXYZ}
    (hq : q ∈ point :: points) : ∃ i < (boundsOf point points).width p,
      ∃ j < (boundsOf point points).height p, (boundsOf point points).column p q = i ∧
        (boundsOf point points).row p q = j ∧ i < 2 ^ 31 ∧ j < 2 ^ 31 := by
  obtain ⟨i, hi, j, hj, hcell, hdata⟩ := h.occupied q hq
  obtain ⟨hcol, hrow⟩ := (boxedMsg_cell hres).1 hcell
  refine ⟨i, hi, j, hj, hcol, hrow, ?_⟩
  -- something is drawn there, by a point with the same index
  have hdata' := (boxedMsg_data hres hfits now msg hi hj).symm.trans hdata
  split at hdata'
  · rename_i hpoint
    obtain ⟨q', -, hidx⟩ := hpoint
    obtain ⟨i', hi', j', hj', hx, hy, he⟩ := Bounds.cellIndex_eq_some_iff.1 hidx
    rw [wrapUInt32_boxed hres hfits hi' hj'] at he
    obtain ⟨rfl, rfl⟩ := (Raster.rowMajor_eq_iff hi hi').1 he
    have hx' := toInt32_bounds ((boundsOf point points).column p q')
    have hy' := toInt32_bounds ((boundsOf point points).row p q')
    omega
  · simp at hdata'

/-- The cell of a point of a box that is no whole number of cells long or wide. -/
theorem cell_of_inexact
    (hx : ¬ ∃ n : ℤ, (boundsOf point points).xMax - (boundsOf point points).xMin =
      n * p.mapResolution)
    (hy : ¬ ∃ n : ℤ, (boundsOf point points).yMax - (boundsOf point points).yMin =
      n * p.mapResolution)
    (hw : ⌈((boundsOf point points).xMax - (boundsOf point points).xMin) / p.mapResolution⌉ ≤
      2 ^ 31)
    (hh : ⌈((boundsOf point points).yMax - (boundsOf point points).yMin) / p.mapResolution⌉ ≤
      2 ^ 31) {q : PointXYZ} (hq : q ∈ point :: points) :
    ∃ i < (boundsOf point points).width p, ∃ j < (boundsOf point points).height p,
      (boundsOf point points).column p q = i ∧ (boundsOf point points).row p q = j ∧
        (boundsOf point points).cellIndex p q =
          some (i + j * (boundsOf point points).width p) := by
  obtain ⟨⟨hxmin, hxmax⟩, hymin, hymax⟩ := (boundsOf_spec point points).inside q hq
  obtain ⟨i, hi, hcol, hcol'⟩ := axis_fits hres hxmin hxmax hx hw
  obtain ⟨j, hj, hrow, hrow'⟩ := axis_fits hres hymin hymax hy hh
  refine ⟨i, hi, j, hj, hcol, hrow, Bounds.cellIndex_eq_some_iff.2 ?_⟩
  exact ⟨i, hi, j, hj, hcol', hrow', (wrapUInt32_boxed hres hfits hi hj).symm⟩

end

/-- **File mode loses no point** iff the cloud is no multiple of the resolution long or wide. -/
theorem lossless_iff (hres : 0 < p.mapResolution) (now : Int) (point : PointXYZ) (points : Cloud)
    (msg : OccupancyGrid) (hfits : (boundsOf point points).Fits p) :
    Lossless (point :: points) (setMapTopicMsgDynamicBounds p now (point :: points) msg).1 ↔
      ((¬ ∃ n : ℤ, (boundsOf point points).xMax - (boundsOf point points).xMin =
          n * p.mapResolution) ∧
        ¬ ∃ n : ℤ, (boundsOf point points).yMax - (boundsOf point points).yMin =
          n * p.mapResolution) ∧
      ⌈((boundsOf point points).xMax - (boundsOf point points).xMin) / p.mapResolution⌉ ≤ 2 ^ 31 ∧
      ⌈((boundsOf point points).yMax - (boundsOf point points).yMin) / p.mapResolution⌉ ≤
        2 ^ 31 := by
  have hbox := boundsOf_spec point points
  have hw := width_eq hres hfits
  have hh := height_eq hres hfits
  refine ⟨fun h => ?_, fun hm => ?_⟩
  · obtain ⟨q, hq, hx⟩ := hbox.xMax
    obtain ⟨i, hi, _, _, hcol, _, hi31, _⟩ := Lossless.cell hres hfits h hq
    obtain ⟨r, hr, hy⟩ := hbox.yMax
    obtain ⟨_, _, j, hj, _, hrow, _, hj31⟩ := Lossless.cell hres hfits h hr
    unfold Bounds.column at hcol
    unfold Bounds.row at hrow
    rw [hx] at hcol
    rw [hy] at hrow
    rw [← floor_lt_ceil_iff hres, ← floor_lt_ceil_iff hres]
    have hx1 := Int.ceil_le_floor_add_one
      (((boundsOf point points).xMax - (boundsOf point points).xMin) / p.mapResolution)
    have hy1 := Int.ceil_le_floor_add_one
      (((boundsOf point points).yMax - (boundsOf point points).yMin) / p.mapResolution)
    omega
  · obtain ⟨⟨hmx, hmy⟩, hxmax, hymax⟩ := hm
    have hcells := fun q => @cell_of_inexact p point points hres hfits hmx hmy hxmax hymax q
    obtain ⟨i₀, hi₀, j₀, hj₀, -⟩ := hcells point List.mem_cons_self
    refine ⟨Nat.zero_lt_of_lt hi₀, Nat.zero_lt_of_lt hj₀, ?_, ?_⟩
    · intro q hq
      obtain ⟨i, hi, j, hj, hcol, hrow, hidx⟩ := hcells q hq
      refine ⟨i, hi, j, hj, (boxedMsg_cell hres).2 ⟨hcol, hrow⟩, ?_⟩
      exact (boxedMsg_data hres hfits now msg hi hj).trans (congrArg some (if_pos ⟨q, hq, hidx⟩))
    · intro i hi j hj hempty
      refine (boxedMsg_data hres hfits now msg hi hj).trans (congrArg some (if_neg ?_))
      rintro ⟨q, hq, hidx⟩
      obtain ⟨i', hi', j', hj', hcol, hrow, hidx'⟩ := hcells q hq
      rw [hidx', Option.some_inj] at hidx
      obtain ⟨rfl, rfl⟩ := (Raster.rowMajor_eq_iff hi' hi).1 hidx
      exact hempty q hq ((boxedMsg_cell hres).2 ⟨hcol, hrow⟩)

/-- Cells of half a metre. -/
def halves : Params := { mapResolution := 1 / 2 }

theorem lossless_halves :
    Lossless [⟨0, 0, 1⟩, ⟨3 / 4, 1 / 4, 1⟩]
      (setMapTopicMsgDynamicBounds halves 0 [⟨0, 0, 1⟩, ⟨3 / 4, 1 / 4, 1⟩] {}).1 := by
  refine (lossless_iff (by decide +kernel) 0 _ _ {} ⟨?_, ?_, ?_⟩).2 ⟨?_, ?_⟩
  · decide +kernel
  · decide +kernel
  · decide +kernel
  · rw [← floor_lt_ceil_iff (by decide +kernel), ← floor_lt_ceil_iff (by decide +kernel)]
    decide +kernel
  · decide +kernel

/-- A cloud that is two cells long: its last point is in no cell. -/
theorem lossless_far_side :
    let cloud : Cloud := [⟨0, 0, 1⟩, ⟨1, 1 / 4, 1⟩]
    let grid := (setMapTopicMsgDynamicBounds halves 0 cloud {}).1
    (grid.width, grid.height, grid.data) = (2, 1, [100, 0]) ∧ ¬ Lossless cloud grid := by
  intro cloud grid
  have hgrid : (grid.width, grid.height, grid.data) = (2, 1, [100, 0]) := by decide +kernel
  refine ⟨hgrid, fun h => ?_⟩
  obtain ⟨i, hi, j, hj, hcell, -⟩ := h.occupied ⟨1, 1 / 4, 1⟩ (by simp [cloud])
  have hw : grid.width = 2 := congrArg Prod.fst hgrid
  rw [hw] at hi
  obtain ⟨⟨-, hx⟩, -⟩ := hcell
  have hi' : i = 0 ∨ i = 1 := by omega
  rcases hi' with rfl | rfl
  · revert hx
    decide +kernel
  · revert hx
    decide +kernel

end Pgm
