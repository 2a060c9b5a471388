import Kratos.Pgm.Proof.Live
import Mathlib.Data.List.Perm.Subperm

/-!
# A growing cloud

Where the filters decide as PCL documents it (`Pcl.Decides`), what they leave of a cloud they leave
of every larger one (`survivors_subset`): a point's own coordinates are the same, and it has at
least as many neighbours. So the cells that a cloud occupies stay occupied while it grows
(`growth_keeps_cells`).
-/

namespace Pgm

variable {p : Params} {pcl : Pcl} {A B : Cloud}

/-- `PassThrough` looks at the point alone, and `RadiusOutlierRemoval` keeps a point iff enough
points of its input are near it. -/
structure Pcl.Decides (pcl : Pcl) : Prop where
  passThrough : ∀ low high negative, ∃ keep : PointXYZ → Bool,
    ∀ cloud, pcl.passThrough low high negative cloud = cloud.filter keep
  radiusOutlierRemoval : ∀ radius count, ∃ (near : PointXYZ → PointXYZ → Bool) (enough : Int),
    ∀ cloud, pcl.radiusOutlierRemoval radius count cloud =
      cloud.filter fun point => decide (enough ≤ cloud.countP (near point))

theorem decides_documented : Pcl.documented.Decides where
  passThrough low high negative := ⟨_, fun _ => rfl⟩
  radiusOutlierRemoval radius count := by
    refine ⟨fun point q => decide ((point.x - q.x) ^ 2 + (point.y - q.y) ^ 2 +
      (point.z - q.z) ^ 2 ≤ radius ^ 2), count + 1, fun cloud => ?_⟩
    apply List.filter_congr
    intro point _
    simp only [Int.add_one_le_iff]

theorem passThrough_subperm (hpcl : pcl.Decides) (low high : ℚ) (negative : Bool)
    (hAB : A.Subperm B) :
    (pcl.passThrough low high negative A).Subperm (pcl.passThrough low high negative B) := by
  obtain ⟨keep, hkeep⟩ := hpcl.passThrough low high negative
  rw [hkeep, hkeep]
  exact hAB.filter keep

theorem radiusOutlierRemoval_subset (hpcl : pcl.Decides) (radius : ℚ) (count : Int)
    (hAB : A.Subperm B) :
    pcl.radiusOutlierRemoval radius count A ⊆ pcl.radiusOutlierRemoval radius count B := by
  obtain ⟨near, enough, hdecides⟩ := hpcl.radiusOutlierRemoval radius count
  rw [hdecides, hdecides]
  intro point hpoint
  rw [List.mem_filter, decide_eq_true_iff] at hpoint ⊢
  obtain ⟨hmem, henough⟩ := hpoint
  have hcount : A.countP (near point) ≤ B.countP (near point) := hAB.countP_le _
  exact ⟨hAB.subset hmem, by omega⟩

/-- **What survives in a cloud survives in a larger one.** -/
theorem survivors_subset (hpcl : pcl.Decides) (hAB : A.Subperm B) :
    survivors p pcl A ⊆ survivors p pcl B :=
  radiusOutlierRemoval_subset hpcl _ _ (passThrough_subperm hpcl _ _ _ hAB)

/-! ## Two runs -/

/-- The cells that are occupied are those of the points. -/
theorem getElem?_occupied_iff (now : Int) (cloud : Cloud) (k : Nat) :
    (setMapTopicMsgFixedBounds p now cloud).1.data[k]? = some 100 ↔
      k < dataSize p ∧ ∃ point ∈ cloud, cellIndex p point = some k := by
  show (Raster.paint ..)[k]? = _ ↔ _
  by_cases hk : k < dataSize p
  · rw [Raster.getElem?_paint_replicate hk]
    simp [hk]
  · have hnone : (Raster.paint (cellIndex p) (100 : Int) cloud
        (List.replicate (dataSize p) 0))[k]? = none := by
      rw [List.getElem?_eq_none_iff, Raster.paint_length, List.length_replicate]
      omega
    simp [hnone, hk]

/-- `grid'` is the same rectangle in the same cells, and has the obstacles of `grid`. -/
structure Grows (grid grid' : OccupancyGrid) : Prop where
  width : grid'.width = grid.width
  height : grid'.height = grid.height
  resolution : grid'.resolution = grid.resolution
  origin : grid'.origin = grid.origin
  size : grid'.data.length = grid.data.length
  occupied : ∀ k : Nat, grid.data[k]? = some 100 → grid'.data[k]? = some 100

theorem grows_of_subset {S S' : Cloud} (h : S ⊆ S') (now now' : Int) :
    Grows (setMapTopicMsgFixedBounds p now S).1 (setMapTopicMsgFixedBounds p now' S').1 where
  width := rfl
  height := rfl
  resolution := rfl
  origin := rfl
  size := by
    show (Raster.paint ..).length = (Raster.paint ..).length
    rw [Raster.paint_length, Raster.paint_length]
  occupied := by
    intro k hk
    rw [getElem?_occupied_iff] at hk ⊢
    obtain ⟨hlt, point, hpoint, hidx⟩ := hk
    exact ⟨hlt, point, h hpoint, hidx⟩

/-- The grids that a cloud makes a node publish. -/
theorem liveCloudCallback_grids (node : Node) (now : Int) (cloud : Cloud) :
    grids [(liveCloudCallback p pcl node now cloud).2] =
      if survivors p pcl cloud = [] then []
      else [(setMapTopicMsgFixedBounds p now (survivors p pcl cloud)).1] := by
  unfold grids
  split
  · rename_i h
    simp [(liveCloudCallback_kept node now h).1]
  · rename_i h
    simp [(liveCloudCallback_drawn node now h).1, List.filterMap_cons, Output.grid?]

/-- **A growing cloud loses no obstacle**, whatever the two nodes have seen before. -/
theorem growth_keeps_cells (p : Params) (pcl : Pcl) (hpcl : pcl.Decides) (A B : Cloud)
    (hAB : A.Subperm B) (node node' : Node) (now now' : Int) (grid : OccupancyGrid)
    (h : grid ∈ grids [(liveCloudCallback p pcl node now A).2]) :
    ∃ grid', grids [(liveCloudCallback p pcl node' now' B).2] = [grid'] ∧ Grows grid grid' := by
  have hsub := survivors_subset (p := p) hpcl hAB
  rw [liveCloudCallback_grids] at h ⊢
  split at h
  · simp at h
  · rename_i hA
    obtain rfl := List.mem_singleton.1 h
    have hB : survivors p pcl B ≠ [] := by
      intro hB
      rw [hB] at hsub
      exact hA (List.eq_nil_of_subset_nil hsub)
    exact ⟨_, if_neg hB, grows_of_subset hsub now now'⟩

theorem growth_keeps_cells_arena :
    let grid := (setMapTopicMsgFixedBounds arena 0 insideCloud).1
    100 ∈ grid.data ∧ ∃ grid', grids [(liveCloudCallback arena Pcl.documented {} 10
      (outsideCloud ++ insideCloud)).2] = [grid'] ∧ Grows grid grid' := by
  intro grid
  refine ⟨by decide +kernel, ?_⟩
  have hAB : insideCloud.Subperm (outsideCloud ++ insideCloud) :=
    (List.sublist_append_right outsideCloud insideCloud).subperm
  exact growth_keeps_cells arena Pcl.documented decides_documented insideCloud _ hAB {} {} 0 10
    grid (by decide +kernel)

end Pgm
