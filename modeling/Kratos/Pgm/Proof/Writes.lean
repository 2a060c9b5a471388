import Kratos.Pgm.Proof.BoundingBox

/-!
# Where the rasterizers write

Both rasterizers ask whether a point's column and row are in the grid, and then compute the size of
`data` and the index in it as `unsigned`s. For a grid of up to `2 ^ 31` columns and rows that is
safe iff the number of cells is an `unsigned` too (`inData_iff`); with one cell more `data` is empty
(`wrapUInt32`), which is safe while no point is over the grid (`writes_iff`).
-/

namespace Pgm

variable {p : Params} {b : Bounds} {cloud : Cloud}

/-- All writes are in `data`, and each cell of the grid has an index of its own. -/
structure InData (cellIndex : PointXYZ → Option Nat) (cloud : Cloud) (grid : OccupancyGrid) :
    Prop where
  writes : ∀ point ∈ cloud, ∀ k, cellIndex point = some k → k < grid.data.length
  distinct : ∀ i < grid.width, ∀ j < grid.height, ∀ i' < grid.width, ∀ j' < grid.height,
    wrapUInt32 (i + j * grid.width) = wrapUInt32 (i' + j' * grid.width) → i = i' ∧ j = j'

/-! ## Any grid -/

theorem wrapUInt32_natCast_mod (n : Nat) : wrapUInt32 n = n % 2 ^ 32 := by
  unfold wrapUInt32
  omega

theorem inData_iff {cellIndex : PointXYZ → Option Nat} {grid : OccupancyGrid}
    (hlen : grid.data.length = wrapUInt32 (grid.width * grid.height))
    (hidx : ∀ point k, cellIndex point = some k →
      ∃ i < grid.width, ∃ j < grid.height, k = wrapUInt32 (i + j * grid.width)) :
    InData cellIndex cloud grid ↔ grid.width * grid.height < 2 ^ 32 ∨
      grid.width * grid.height = 2 ^ 32 ∧ ∀ point ∈ cloud, cellIndex point = none := by
  rw [← Nat.cast_mul, wrapUInt32_natCast_mod] at hlen
  have hdistinct : (∀ i < grid.width, ∀ j < grid.height, ∀ i' < grid.width, ∀ j' < grid.height,
      wrapUInt32 (i + j * grid.width) = wrapUInt32 (i' + j' * grid.width) → i = i' ∧ j = j') ↔
      grid.width * grid.height ≤ 2 ^ 32 := by
    simp only [wrapUInt32_address]
    exact Raster.rowMajor_mod_inj_iff (by omega)
  refine ⟨fun h => ?_, fun h => ?_⟩
  · have hle := hdistinct.1 h.distinct
    rcases Nat.lt_or_eq_of_le hle with hlt | heq
    · exact .inl hlt
    · refine .inr ⟨heq, fun point hpoint => ?_⟩
      -- with `2 ^ 32` cells, `data` is empty
      rw [heq, Nat.mod_self] at hlen
      apply Option.eq_none_iff_forall_ne_some.2
      intro k hk
      have := h.writes point hpoint k hk
      omega
  · refine ⟨fun point hpoint k hk => ?_, hdistinct.2 ?_⟩
    · rcases h with hlt | ⟨-, hnone⟩
      · obtain ⟨i, hi, j, hj, rfl⟩ := hidx point k hk
        have haddr := Raster.rowMajor_lt hi hj
        rw [hlen, wrapUInt32_address, Nat.mod_eq_of_lt hlt, Nat.mod_eq_of_lt (by omega)]
        exact haddr
      · rw [hnone point hpoint] at hk
        cases hk
    · rcases h with hlt | ⟨heq, -⟩
      · exact Nat.le_of_lt hlt
      · exact Nat.le_of_eq heq

/-! ## The two rasterizers -/

/-- The rectangle that a grid is laid over. -/
structure Area where
  x : ℚ
  y : ℚ
  width : ℚ
  height : ℚ

namespace Area

variable (r : ℚ) (a : Area)

/-- The numbers of columns and rows of `r` metres are `int`s. -/
structure Fits : Prop where
  width : 0 < a.width
  height : 0 < a.height
  columns : ⌈a.width / r⌉ < 2 ^ 31
  rows : ⌈a.height / r⌉ < 2 ^ 31

/-- The point is over the cells. -/
def Under (point : PointXYZ) : Prop :=
  (a.x ≤ point.x ∧ point.x < a.x + ⌈a.width / r⌉ * r) ∧
    a.y ≤ point.y ∧ point.y < a.y + ⌈a.height / r⌉ * r

/-- The cells are fewer than `2 ^ 32`, or as many and under no point. -/
def Safe (cloud : Cloud) : Prop :=
  ⌈a.width / r⌉ * ⌈a.height / r⌉ < 2 ^ 32 ∨
    ⌈a.width / r⌉ * ⌈a.height / r⌉ = 2 ^ 32 ∧ ∀ point ∈ cloud, ¬ a.Under r point

end Area

def fixedArea (p : Params) : Area :=
  ⟨p.fixedOriginX, p.fixedOriginY, p.fixedWidthM, p.fixedHeightM⟩

def Bounds.area (b : Bounds) : Area := ⟨b.xMin, b.yMin, b.xMax - b.xMin, b.yMax - b.yMin⟩

variable {r : ℚ} {a : Area}

theorem Area.Fits.counts (h : a.Fits r) (hr : 0 < r) :
    (toUInt32 ⌈a.width / r⌉ : Int) = ⌈a.width / r⌉ ∧
      (toUInt32 ⌈a.height / r⌉ : Int) = ⌈a.height / r⌉ := by
  have hc := h.columns
  have hr' := h.rows
  have hc0 : 0 ≤ ⌈a.width / r⌉ := Int.ceil_nonneg (div_nonneg h.width.le hr.le)
  have hr0 : 0 ≤ ⌈a.height / r⌉ := Int.ceil_nonneg (div_nonneg h.height.le hr.le)
  exact ⟨cast_toUInt32 hc0 (by omega), cast_toUInt32 hr0 (by omega)⟩

/-- A grid that is laid over an area is safe iff the area is. -/
theorem inData_area {cellIndex : PointXYZ → Option Nat} {grid : OccupancyGrid} (hr : 0 < r)
    (hfits : a.Fits r) (hwidth : grid.width = toUInt32 ⌈a.width / r⌉)
    (hheight : grid.height = toUInt32 ⌈a.height / r⌉)
    (hlen : grid.data.length = wrapUInt32 (grid.width * grid.height))
    (hidx : ∀ point k, cellIndex point = some k ↔
      ∃ i < grid.width, ∃ j < grid.height, ⌊(point.x - a.x) / r⌋ = i ∧
        ⌊(point.y - a.y) / r⌋ = j ∧ k = wrapUInt32 (i + j * grid.width)) :
    InData cellIndex cloud grid ↔ a.Safe r cloud := by
  obtain ⟨hw, hh⟩ := hfits.counts hr
  rw [← hwidth] at hw
  rw [← hheight] at hh
  have hnone : ∀ point, cellIndex point = none ↔ ¬ a.Under r point := by
    intro point
    have hin : a.Under r point ↔ ∃ k, cellIndex point = some k := by
      have hx := floor_in_iff (x := point.x) (o := a.x) (n := grid.width) hr
      have hy := floor_in_iff (x := point.y) (o := a.y) (n := grid.height) hr
      unfold Area.Under
      rw [← hw, ← hh, Int.cast_natCast, Int.cast_natCast, ← hx, ← hy]
      simp only [hidx]
      refine ⟨fun hm => ?_, fun hm => ?_⟩
      · obtain ⟨⟨i, hi, hcol⟩, j, hj, hrow⟩ := hm
        exact ⟨_, i, hi, j, hj, hcol, hrow, rfl⟩
      · obtain ⟨k, i, hi, j, hj, hcol, hrow, -⟩ := hm
        exact ⟨⟨i, hi, hcol⟩, j, hj, hrow⟩
    rw [hin, ← Option.isSome_iff_exists, Bool.not_eq_true, Option.isSome_eq_false_iff,
      Option.isNone_iff_eq_none]
  have hsome : ∀ point k, cellIndex point = some k →
      ∃ i < grid.width, ∃ j < grid.height, k = wrapUInt32 (i + j * grid.width) := by
    intro point k hk
    obtain ⟨i, hi, j, hj, -, -, he⟩ := (hidx point k).1 hk
    exact ⟨i, hi, j, hj, he⟩
  rw [inData_iff hlen hsome, Area.Safe, ← hw, ← hh]
  simp only [hnone]
  norm_cast

theorem toInt32_eq_iff {x : Int} {i n : Nat} (hi : i < n) (hn : n < 2 ^ 31) :
    toInt32 x = i ↔ x = i := by
  unfold toInt32
  omega

/-- **The rasterizers write in `data` only**, and never one cell for another, iff the number of
cells is an `unsigned` or there is nothing to write. -/
theorem writes_iff (p : Params) (hres : 0 < p.mapResolution) (now : Int) :
    (∀ cloud, (fixedArea p).Fits p.mapResolution →
      (InData (cellIndex p) cloud (setMapTopicMsgFixedBounds p now cloud).1 ↔
        (fixedArea p).Safe p.mapResolution cloud)) ∧
    ∀ point points msg, (boundsOf point points).area.Fits p.mapResolution →
      (InData ((boundsOf point points).cellIndex p) (point :: points)
          (setMapTopicMsgDynamicBounds p now (point :: points) msg).1 ↔
        (boundsOf point points).area.Safe p.mapResolution (point :: points)) := by
  constructor
  · intro cloud hfits
    obtain ⟨hw, hh⟩ := hfits.counts hres
    have hw' : gridWidth p < 2 ^ 31 := Int.ofNat_lt.1 (hw.trans_lt hfits.columns)
    have hh' : gridHeight p < 2 ^ 31 := Int.ofNat_lt.1 (hh.trans_lt hfits.rows)
    refine inData_area hres hfits rfl rfl ?_ fun point k => ?_
    · show (Raster.paint ..).length = _
      rw [Raster.paint_length, List.length_replicate]
      rfl
    · rw [cellIndex_eq_some_iff]
      exact ⟨fun h => h.2.2, fun h => ⟨hw', hh', h⟩⟩
  · intro point points msg hfits
    let b := boundsOf point points
    obtain ⟨hw, hh⟩ := hfits.counts hres
    have hw' : b.width p < 2 ^ 31 := Int.ofNat_lt.1 (hw.trans_lt hfits.columns)
    have hh' : b.height p < 2 ^ 31 := Int.ofNat_lt.1 (hh.trans_lt hfits.rows)
    refine inData_area hres hfits rfl rfl ?_ fun q k => ?_
    · show (Raster.paint ..).length = _
      rw [Raster.paint_length, List.length_replicate]
      rfl
    · rw [Bounds.cellIndex_eq_some_iff]
      refine ⟨fun hm => ?_, fun hm => ?_⟩
      · obtain ⟨i, hi, j, hj, hcol, hrow, hk⟩ := hm
        exact ⟨i, hi, j, hj, (toInt32_eq_iff hi hw').1 hcol, (toInt32_eq_iff hj hh').1 hrow, hk⟩
      · obtain ⟨i, hi, j, hj, hcol, hrow, hk⟩ := hm
        exact ⟨i, hi, j, hj, (toInt32_eq_iff hi hw').2 hcol, (toInt32_eq_iff hj hh').2 hrow, hk⟩

theorem writes_halves :
    InData (cellIndex halves) [⟨0, 0, 1⟩] (setMapTopicMsgFixedBounds halves 0 [⟨0, 0, 1⟩]).1 ∧
      InData ((boundsOf ⟨0, 0, 1⟩ [⟨1, 1, 1⟩]).cellIndex halves) [⟨0, 0, 1⟩, ⟨1, 1, 1⟩]
        (setMapTopicMsgDynamicBounds halves 0 [⟨0, 0, 1⟩, ⟨1, 1, 1⟩] {}).1 := by
  obtain ⟨hfixed, hdynamic⟩ := writes_iff halves (by decide +kernel) 0
  constructor
  · refine (hfixed _ ⟨?_, ?_, ?_, ?_⟩).2 (.inl ?_) <;> decide +kernel
  · refine (hdynamic _ _ {} ⟨?_, ?_, ?_, ?_⟩).2 (.inl ?_) <;> decide +kernel

/-- Some 3.3 km of the default resolution: `2 ^ 32` cells. -/
def wide : Params :=
  { fixedOriginX := 0, fixedOriginY := 0, fixedWidthM := 16384 / 5, fixedHeightM := 16384 / 5 }

theorem writes_wide :
    let cloud : Cloud := [⟨1, 1, 1⟩]
    let grid := (setMapTopicMsgFixedBounds wide 0 cloud).1
    (grid.width, grid.height, grid.data) = (65536, 65536, []) ∧
      ¬ InData (cellIndex wide) cloud grid := by
  intro cloud grid
  have hgrid : (grid.width, grid.height, grid.data) = (65536, 65536, []) := by decide +kernel
  refine ⟨hgrid, fun h => ?_⟩
  have hdata : grid.data = [] := congrArg (fun g => g.2.2) hgrid
  have hidx : (cellIndex wide ⟨1, 1, 1⟩).isSome = true := by decide +kernel
  obtain ⟨k, hk⟩ := Option.isSome_iff_exists.1 hidx
  have hlt := h.writes ⟨1, 1, 1⟩ (by simp [cloud]) k hk
  rw [hdata] at hlt
  exact absurd hlt (Nat.not_lt_zero k)

end Pgm
