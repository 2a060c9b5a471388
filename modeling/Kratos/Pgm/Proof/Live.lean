import Kratos.Pgm.Proof.Cells

/-!
# Live mode over whole runs

What a live cloud makes the node send depends on that cloud's `survivors` alone: nothing if there
is none, else the survivors and their drawing (`liveCloudCallback_kept`,
`liveCloudCallback_drawn`). So a run answers its clouds one by one, whatever clouds it kept no map
of in between (`run_answered`), and it publishes an all-free grid iff some cloud's survivors all
miss the grid (`run_occupied_iff`).
-/

namespace Pgm

variable {p : Params} {pcl : Pcl} {cloud : Cloud}

/-! ## One cloud -/

/-- What both filters leave of a cloud. -/
def survivors (p : Params) (pcl : Pcl) (cloud : Cloud) : Cloud :=
  pcl.radiusOutlierRemoval p.threRadius p.thresPointCount
    (pcl.passThrough p.threZMin p.threZMax p.flagPassThrough cloud)

def Output.isMessage : Output → Bool
  | .log _ => false
  | .pcdCloud .. | .map _ => true

/-- The messages of a callback. -/
def published (output : List Output) : List Output := output.filter Output.isMessage

theorem published_append (output output' : List Output) :
    published (output ++ output') = published output ++ published output' :=
  List.filter_append ..

theorem published_outside (p : Params) (now : Int) (cloud : Cloud) :
    published (setMapTopicMsgFixedBounds p now cloud).2 = [] := by
  simp only [setMapTopicMsgFixedBounds]
  split <;> rfl

theorem liveCloudCallback_kept (node : Node) (now : Int) (h : survivors p pcl cloud = []) :
    published (liveCloudCallback p pcl node now cloud).2 = [] ∧
      (liveCloudCallback p pcl node now cloud).1.mapTopicMsg = node.mapTopicMsg := by
  unfold survivors at h
  cases hpass : pcl.passThrough p.threZMin p.threZMax p.flagPassThrough cloud with
  | nil =>
    simp only [liveCloudCallback, passThroughFilter, hpass]
    exact ⟨rfl, trivial⟩
  | cons point points =>
    rw [hpass] at h
    simp only [liveCloudCallback, passThroughFilter, radiusOutlierFilter, hpass, h]
    exact ⟨rfl, trivial⟩

theorem liveCloudCallback_drawn (node : Node) (now : Int) (h : survivors p pcl cloud ≠ []) :
    published (liveCloudCallback p pcl node now cloud).2 =
        [.pcdCloud "map" (survivors p pcl cloud),
          .map (setMapTopicMsgFixedBounds p now (survivors p pcl cloud)).1] ∧
      (liveCloudCallback p pcl node now cloud).1.mapTopicMsg =
        (setMapTopicMsgFixedBounds p now (survivors p pcl cloud)).1 := by
  unfold survivors at h ⊢
  cases hpass : pcl.passThrough p.threZMin p.threZMax p.flagPassThrough cloud with
  | nil =>
    rw [hpass, pcl.radius_nil] at h
    exact absurd rfl h
  | cons point points =>
    rw [hpass] at h
    cases hradius : pcl.radiusOutlierRemoval p.threRadius p.thresPointCount (point :: points) with
    | nil => exact absurd hradius h
    | cons point' points' =>
      simp only [liveCloudCallback, passThroughFilter, radiusOutlierFilter, hpass, hradius,
        published_append, published_outside]
      exact ⟨rfl, trivial⟩

/-! ## A run, cloud by cloud -/

/-- The answers to a run of clouds, between the grid that is held before and the one held after. -/
inductive Answered (p : Params) (pcl : Pcl) :
    OccupancyGrid → List (Int × Cloud) → List (List Output) → OccupancyGrid → Prop where
  | done {held} : Answered p pcl held [] [] held
  /-- No point survives: nothing is published, and the held grid stays. -/
  | kept {held now cloud clouds output outputs held'} :
      survivors p pcl cloud = [] → published output = [] →
      Answered p pcl held clouds outputs held' →
      Answered p pcl held ((now, cloud) :: clouds) (output :: outputs) held'
  /-- Some do: they are published, with one grid that draws them and no other cloud. -/
  | drawn {held now cloud clouds output outputs held' grid} :
      survivors p pcl cloud ≠ [] → Draws p (survivors p pcl cloud) grid →
      published output = [.pcdCloud "map" (survivors p pcl cloud), .map grid] →
      Answered p pcl grid clouds outputs held' →
      Answered p pcl held ((now, cloud) :: clouds) (output :: outputs) held'

/-- **Every run answers each cloud by that cloud alone.** -/
theorem run_answered (hsize : gridWidth p * gridHeight p < 2 ^ 31) (node : Node)
    (clouds : List (Int × Cloud)) :
    Answered p pcl node.mapTopicMsg clouds (run p pcl node clouds).2
      (run p pcl node clouds).1.mapTopicMsg := by
  induction clouds generalizing node with
  | nil => exact .done
  | cons c clouds ih =>
    obtain ⟨now, cloud⟩ := c
    have hrest := ih (liveCloudCallback p pcl node now cloud).1
    by_cases h : survivors p pcl cloud = []
    · obtain ⟨hpub, hheld⟩ := liveCloudCallback_kept node now h
      rw [hheld] at hrest
      exact .kept h hpub hrest
    · obtain ⟨hpub, hheld⟩ := liveCloudCallback_drawn node now h
      rw [hheld] at hrest
      exact .drawn h (setMapTopicMsgFixedBounds_draws hsize now _) hpub hrest

/-- Four cells, and no neighbour asked for. -/
def arena : Params :=
  { thresPointCount := 0, mapResolution := 1 / 2, fixedOriginX := 0, fixedOriginY := 0
    fixedWidthM := 1, fixedHeightM := 1 }

def insideCloud : Cloud := [⟨1 / 4, 3 / 4, 1⟩]

def outsideCloud : Cloud := [⟨5, 5, 1⟩]

theorem run_answered_arena : gridWidth arena * gridHeight arena < 2 ^ 31 ∧
    Answered arena Pcl.documented {} [(0, insideCloud), (10, [])]
      (run arena Pcl.documented {} [(0, insideCloud), (10, [])]).2
      (run arena Pcl.documented {} [(0, insideCloud), (10, [])]).1.mapTopicMsg :=
  have hsize : gridWidth arena * gridHeight arena < 2 ^ 31 := by decide +kernel
  ⟨hsize, run_answered hsize {} [(0, insideCloud), (10, [])]⟩

/-! ## All-free grids -/

def Output.grid? : Output → Option OccupancyGrid
  | .map grid => some grid
  | _ => none

/-- The grids a run publishes. -/
def grids (outputs : List (List Output)) : List OccupancyGrid :=
  outputs.flatMap fun output => (published output).filterMap Output.grid?

/-- A cloud's grid has an occupied cell if the cloud is kept, or one of its survivors lands. -/
theorem liveCloudCallback_occupied_iff (node : Node) (now : Int) :
    (∀ grid ∈ (published (liveCloudCallback p pcl node now cloud).2).filterMap Output.grid?,
        100 ∈ grid.data) ↔
      (survivors p pcl cloud ≠ [] → ∃ point ∈ survivors p pcl cloud, Lands p point) := by
  by_cases h : survivors p pcl cloud = []
  · rw [(liveCloudCallback_kept node now h).1]
    simp [h]
  · rw [(liveCloudCallback_drawn node now h).1, ← occupied_iff now]
    simp [h, Output.grid?]

/-- The grids of a run, cloud by cloud. -/
theorem grids_occupied_iff {In : PointXYZ → Prop} (hin : ∀ point, Lands p point ↔ In point)
    (node : Node) (clouds : List (Int × Cloud)) :
    (∀ grid ∈ grids (run p pcl node clouds).2, 100 ∈ grid.data) ↔
      ∀ c ∈ clouds, survivors p pcl c.2 ≠ [] → ∃ point ∈ survivors p pcl c.2, In point := by
  obtain rfl : Lands p = In := funext fun point => propext (hin point)
  induction clouds generalizing node with
  | nil => simp [run, grids]
  | cons c clouds ih =>
    obtain ⟨now, cloud⟩ := c
    rw [List.forall_mem_cons, ← ih (liveCloudCallback p pcl node now cloud).1,
      ← liveCloudCallback_occupied_iff node now, ← List.forall_mem_append]
    rfl

/-- **The grids of a run all have an occupied cell iff no cloud's survivors all miss the
grid.** -/
theorem run_occupied_iff (node : Node) (clouds : List (Int × Cloud)) :
    (∀ grid ∈ grids (run p pcl node clouds).2, 100 ∈ grid.data) ↔
      ∀ c ∈ clouds, survivors p pcl c.2 ≠ [] → ∃ point ∈ survivors p pcl c.2, Lands p point :=
  grids_occupied_iff (fun _ => .rfl) node clouds

/-- That is, iff each cloud that some point survives has a survivor over the fixed rectangle. -/
theorem run_occupied_iff_inside (hres : 0 < p.mapResolution)
    (hsize : gridWidth p * gridHeight p < 2 ^ 31) (node : Node) (clouds : List (Int × Cloud)) :
    (∀ grid ∈ grids (run p pcl node clouds).2, 100 ∈ grid.data) ↔
      ∀ c ∈ clouds, survivors p pcl c.2 ≠ [] → ∃ point ∈ survivors p pcl c.2,
        (p.fixedOriginX ≤ point.x ∧ point.x < p.fixedOriginX + gridWidth p * p.mapResolution) ∧
          p.fixedOriginY ≤ point.y ∧ point.y < p.fixedOriginY + gridHeight p * p.mapResolution :=
  grids_occupied_iff (fun _ => lands_iff hres hsize) node clouds

/-- All survivors of the second cloud are outside: its all-free grid takes the place of the
first one's. -/
theorem run_wipes :
    (grids (run arena Pcl.documented {} [(0, insideCloud), (10, outsideCloud)]).2).map
        OccupancyGrid.data = [[0, 0, 100, 0], [0, 0, 0, 0]] ∧
      ¬ ∀ grid ∈ grids (run arena Pcl.documented {} [(0, insideCloud), (10, outsideCloud)]).2,
        100 ∈ grid.data := by
  decide +kernel

end Pgm
