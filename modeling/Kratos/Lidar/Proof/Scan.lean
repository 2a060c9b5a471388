import Kratos.Lib.Raster
import Kratos.Lidar.Node

/-!
# What the loops of `filter_cloud` do

The records of a cloud are its declared points in row-major order, by their true offsets
(`PointCloud2.record`, `Raster.walk`). As long as every earlier point fit in `data`, the next
one's offset does not wrap (`no_wrap`), so the loops stop at the first point that does not fit, and
otherwise collect the records kept (`loops_eq`).

`filterCloud_safe`: no access is ever out of bounds, and a cloud that does not fit its own
description is neither published nor counted as dropped. `filterCloud_contract`: what is published
of a cloud that does.
-/

namespace Lidar

open Raster

/-! ## Records -/

/-- `f` is the first field of this name, is a float or a double, and is inside a record. -/
def PointCloud2.HasField (cloud : PointCloud2) (name : String) (f : PointField) : Prop :=
  (cloud.fields.find? fun candidate => candidate.name = name) = some f ∧
    (f.datatype = PointField.FLOAT32 ∧ f.offset.toNat + 4 ≤ cloud.pointStep.toNat ∨
      f.datatype = PointField.FLOAT64 ∧ f.offset.toNat + 8 ≤ cloud.pointStep.toNat)

/-- The fields of the coordinates. -/
structure Axes where
  x : PointField
  y : PointField
  z : PointField

structure PointCloud2.HasAxes (cloud : PointCloud2) (a : Axes) : Prop where
  x : cloud.HasField "x" a.x
  y : cloud.HasField "y" a.y
  z : cloud.HasField "z" a.z

namespace PointCloud2.HasAxes

variable {cloud : PointCloud2} {a b : Axes} {scan : Scan}

theorem unique (ha : cloud.HasAxes a) (hb : cloud.HasAxes b) : a = b := by
  obtain ⟨x, y, z⟩ := a
  obtain ⟨x', y', z'⟩ := b
  obtain rfl : x = x' := Option.some.inj (ha.x.1.symm.trans hb.x.1)
  obtain rfl : y = y' := Option.some.inj (ha.y.1.symm.trans hb.y.1)
  obtain rfl : z = z' := Option.some.inj (ha.z.1.symm.trans hb.z.1)
  rfl

/-- A published scan has its cloud's fields. -/
theorem filtered (ha : cloud.HasAxes a) (scan : Scan) : (filtered cloud scan).HasAxes a :=
  ⟨ha.x, ha.y, ha.z⟩

theorem of_filtered (ha : (Lidar.filtered cloud scan).HasAxes a) : cloud.HasAxes a :=
  ⟨ha.x, ha.y, ha.z⟩

end PointCloud2.HasAxes

/-- The true offset of a declared point. -/
def PointCloud2.offset (cloud : PointCloud2) (q : Nat × Nat) : Nat :=
  q.1 * cloud.rowStep.toNat + q.2 * cloud.pointStep.toNat

def PointCloud2.record (cloud : PointCloud2) (q : Nat × Nat) : List UInt8 :=
  (cloud.data.drop (cloud.offset q)).take cloud.pointStep.toNat

/-- The declared points, by row and column. -/
def PointCloud2.points (cloud : PointCloud2) : List (Nat × Nat) :=
  walk cloud.height.toNat cloud.width.toNat

def PointCloud2.records (cloud : PointCloud2) : List (List UInt8) :=
  cloud.points.map cloud.record

/-- The point fits in `data`. -/
def PointCloud2.Fits (cloud : PointCloud2) (q : Nat × Nat) : Prop :=
  cloud.offset q + cloud.pointStep.toNat ≤ cloud.data.length

instance (cloud : PointCloud2) (q : Nat × Nat) : Decidable (cloud.Fits q) :=
  inferInstanceAs (Decidable (_ ≤ _))

/-- Every declared point fits in `data`. -/
def PointCloud2.Complete (cloud : PointCloud2) : Prop := ∀ q ∈ cloud.points, cloud.Fits q

instance (cloud : PointCloud2) : Decidable cloud.Complete :=
  inferInstanceAs (Decidable (∀ q ∈ cloud.points, cloud.Fits q))

section
variable {F : Type} [Double F]

/-- The coordinate of a record. -/
def PointCloud2.coordinate (cloud : PointCloud2) (f : PointField) (record : List UInt8) : F :=
  decode f.datatype cloud.isBigendian
    ((record.drop f.offset.toNat).take (sizeOfType f.datatype))

/-- A point passes the elevation window and is outside both sectors. -/
def Params.keeps (p : Params F) (x y z : F) : Bool :=
  pointInElevationRange x y z p.minElevationDeg p.maxElevationDeg &&
    !pointIsMasked x y p.frontCenterDeg p.frontSectorDeg p.backSectorDeg

variable (p : Params F) (cloud : PointCloud2) (a : Axes)

def keptRecord (record : List UInt8) : Bool :=
  p.keeps (cloud.coordinate a.x record) (cloud.coordinate a.y record)
    (cloud.coordinate a.z record)

def usableRecord (record : List UInt8) : Bool :=
  pointIsUsable (cloud.coordinate a.x record) (cloud.coordinate a.y record)
    (cloud.coordinate a.z record) p.minUsableRange

/-- The records kept, in row-major order. -/
def kept : List (List UInt8) := cloud.records.filter (keptRecord p cloud a)

/-! ## Fields -/

variable {p cloud a} {name : String} {f : PointField}

theorem sizeOfType_le (h : cloud.HasField name f) :
    f.offset.toNat + sizeOfType f.datatype ≤ cloud.pointStep.toNat := by
  rcases h.2 with ⟨ht, hle⟩ | ⟨ht, hle⟩
  · rwa [ht]
  · rwa [ht]

theorem findCoordinateField_eq (h : cloud.HasField name f) :
    findCoordinateField cloud name = .ok ⟨f.offset, f.datatype⟩ := by
  have hle := sizeOfType_le h
  unfold findCoordinateField
  rw [h.1]
  dsimp only
  rw [if_neg, if_neg]
  · rfl
  · omega
  · rcases h.2 with ⟨ht, -⟩ | ⟨ht, -⟩ <;> simp [ht]

theorem findCoordinateField_error (h : ¬ ∃ f, cloud.HasField name f) :
    ∃ what, findCoordinateField cloud name = .error (.runtimeError what) := by
  unfold findCoordinateField
  split
  · exact ⟨_, rfl⟩
  · rename_i f hf
    split
    · exact ⟨_, rfl⟩
    · rename_i htype
      split
      · exact ⟨_, rfl⟩
      · rename_i hle
        refine absurd ⟨f, hf, ?_⟩ h
        by_cases ht : f.datatype = PointField.FLOAT32
        · rw [ht] at hle
          exact .inl ⟨ht, Nat.le_of_not_lt hle⟩
        · have ht' : f.datatype = PointField.FLOAT64 := by
            by_contra hne
            exact htype ⟨ht, hne⟩
          rw [ht'] at hle
          exact .inr ⟨ht', Nat.le_of_not_lt hle⟩

/-! ## One point -/

/-- A field of a point that fits is read from its record. -/
theorem readCoordinate_eq {q : Nat × Nat} (h : cloud.HasField name f) (hq : cloud.Fits q) :
    readCoordinate cloud.data (cloud.offset q) ⟨f.offset, f.datatype⟩ cloud.isBigendian =
      .ok (cloud.coordinate (F := F) f (cloud.record q)) := by
  have hle := sizeOfType_le h
  have hin : cloud.offset q + f.offset.toNat + sizeOfType f.datatype ≤ cloud.data.length := by
    unfold PointCloud2.Fits at hq
    omega
  unfold readCoordinate memcpy
  rw [if_pos hin]
  show Except.ok _ = _
  unfold PointCloud2.coordinate PointCloud2.record
  rw [List.drop_take, List.take_take, List.drop_drop, Nat.min_eq_left (by omega)]

/-- What a point that fits adds to a scan. -/
def Scan.add (p : Params F) (cloud : PointCloud2) (a : Axes) (scan : Scan)
    (record : List UInt8) : Scan :=
  if keptRecord p cloud a record then
    { data := scan.data ++ record
      keptPoints := scan.keptPoints + 1
      maskedPoints := scan.maskedPoints
      usablePoints := scan.usablePoints + if usableRecord p cloud a record then 1 else 0 }
  else { scan with maskedPoints := scan.maskedPoints + 1 }

/-- The body of the loops, with the fields found. -/
abbrev body (p : Params F) (cloud : PointCloud2) (a : Axes) (scan : Scan) (q : Nat × Nat) :
    Except Fault Scan :=
  filterPoint p cloud ⟨a.x.offset, a.x.datatype⟩ ⟨a.y.offset, a.y.datatype⟩
    ⟨a.z.offset, a.z.datatype⟩ scan q.1 q.2

/-- Short of 2^64 the offset of the source is the true one. -/
theorem offset_eq {q : Nat × Nat} (hq : cloud.offset q + cloud.pointStep.toNat < 2 ^ 64) :
    sizeT (sizeT (q.1 * cloud.rowStep.toNat) + sizeT (q.2 * cloud.pointStep.toNat)) =
        cloud.offset q ∧
      sizeT (cloud.offset q + cloud.pointStep.toNat) =
        cloud.offset q + cloud.pointStep.toNat := by
  have ho : cloud.offset q = q.1 * cloud.rowStep.toNat + q.2 * cloud.pointStep.toNat := rfl
  generalize q.1 * cloud.rowStep.toNat = rows at ho ⊢
  generalize q.2 * cloud.pointStep.toNat = columns at ho ⊢
  unfold sizeT
  omega

theorem filterPoint_fits {q : Nat × Nat} (ha : cloud.HasAxes a)
    (hdata : cloud.data.length < 2 ^ 63) (hq : cloud.Fits q) (scan : Scan) :
    body p cloud a scan q = .ok (scan.add p cloud a (cloud.record q)) := by
  have hfit : cloud.offset q + cloud.pointStep.toNat ≤ cloud.data.length := hq
  have hq64 : cloud.offset q + cloud.pointStep.toNat < 2 ^ 64 := by omega
  obtain ⟨ho, hs⟩ := offset_eq hq64
  have hmem : memcpy cloud.data (cloud.offset q) cloud.pointStep.toNat =
      .ok (cloud.record q) := if_pos hfit
  unfold body filterPoint
  dsimp only
  rw [ho, hs, if_neg (by omega), readCoordinate_eq ha.x hq, readCoordinate_eq ha.y hq,
    readCoordinate_eq ha.z hq, hmem]
  unfold Scan.add keptRecord usableRecord Params.keeps
  generalize (cloud.coordinate a.x (cloud.record q) : F) = x
  generalize (cloud.coordinate a.y (cloud.record q) : F) = y
  generalize (cloud.coordinate a.z (cloud.record q) : F) = z
  simp only [bind, Except.bind, pure, Except.pure]
  cases pointInElevationRange x y z p.minElevationDeg p.maxElevationDeg with
  | false => rfl
  | true =>
    cases pointIsMasked x y p.frontCenterDeg p.frontSectorDeg p.backSectorDeg with
    | false => rfl
    | true => rfl

theorem filterPoint_short {q : Nat × Nat}
    (hq : cloud.offset q + cloud.pointStep.toNat < 2 ^ 64) (hno : ¬ cloud.Fits q)
    (scan : Scan) : ∃ what, body p cloud a scan q = .error (.runtimeError what) := by
  have hfit : ¬ cloud.offset q + cloud.pointStep.toNat ≤ cloud.data.length := hno
  obtain ⟨ho, hs⟩ := offset_eq hq
  refine ⟨"PointCloud2 data is shorter than its dimensions declare", ?_⟩
  unfold body filterPoint
  dsimp only
  rw [ho, hs, if_pos (by omega)]
  rfl

/-! ## All points -/

/-- **After points that fit, the next offset does not wrap.** -/
theorem no_wrap {q : Nat × Nat} {pre post : List (Nat × Nat)}
    (hdata : cloud.data.length < 2 ^ 63) (hw : cloud.points = pre ++ q :: post)
    (hpre : ∀ r ∈ pre, cloud.Fits r) : cloud.offset q + cloud.pointStep.toNat < 2 ^ 64 := by
  have hrow := cloud.rowStep.toNat_lt
  have hpoint := cloud.pointStep.toNat_lt
  obtain ⟨i, j⟩ := q
  cases j with
  | succ j =>
    have hleft : cloud.offset (i, j) + cloud.pointStep.toNat ≤ cloud.data.length :=
      hpre _ (walk_left hw)
    unfold PointCloud2.offset at hleft ⊢
    dsimp only at hleft ⊢
    rw [Nat.succ_mul]
    omega
  | zero =>
    cases i with
    | succ i =>
      have habove : cloud.offset (i, 0) + cloud.pointStep.toNat ≤ cloud.data.length :=
        hpre _ (walk_above hw)
      unfold PointCloud2.offset at habove ⊢
      dsimp only at habove ⊢
      rw [Nat.succ_mul]
      omega
    | zero =>
      unfold PointCloud2.offset
      omega

/-- The loops stop at the first point that does not fit. -/
theorem body_foldlM (ha : cloud.HasAxes a) (hdata : cloud.data.length < 2 ^ 63)
    {pre l : List (Nat × Nat)} (hw : cloud.points = pre ++ l)
    (hpre : ∀ r ∈ pre, cloud.Fits r) (scan : Scan) :
    ((∀ q ∈ l, cloud.Fits q) ∧ l.foldlM (body p cloud a) scan =
        .ok (l.foldl (fun scan q => scan.add p cloud a (cloud.record q)) scan)) ∨
      (∃ q ∈ l, ¬ cloud.Fits q) ∧
        ∃ what, l.foldlM (body p cloud a) scan = .error (.runtimeError what) := by
  induction l generalizing pre scan with
  | nil => exact .inl ⟨by simp, rfl⟩
  | cons q l ih =>
    rw [List.foldlM_cons]
    by_cases hq : cloud.Fits q
    · have hpre' : ∀ r ∈ pre ++ [q], cloud.Fits r := by
        intro r hr
        rcases List.mem_append.1 hr with hr | hr
        · exact hpre r hr
        · exact List.mem_singleton.1 hr ▸ hq
      rw [filterPoint_fits ha hdata hq]
      have hw' : cloud.points = (pre ++ [q]) ++ l := by simpa using hw
      have hrest := ih hw' hpre' (scan.add p cloud a (cloud.record q))
      rcases hrest with ⟨hall, he⟩ | ⟨⟨r, hr, hno⟩, he⟩
      · exact .inl ⟨List.forall_mem_cons.2 ⟨hq, hall⟩, he⟩
      · exact .inr ⟨⟨r, List.mem_cons_of_mem q hr, hno⟩, he⟩
    · obtain ⟨what, he⟩ := filterPoint_short (p := p) (a := a) (no_wrap hdata hw hpre) hq scan
      rw [he]
      exact .inr ⟨⟨q, List.mem_cons_self, hq⟩, what, rfl⟩

/-- What a list of records adds up to. -/
theorem foldl_add (l : List (List UInt8)) (scan : Scan) :
    (l.foldl (Scan.add p cloud a) scan).data =
        scan.data ++ (l.filter (keptRecord p cloud a)).flatten ∧
      (l.foldl (Scan.add p cloud a) scan).keptPoints =
        scan.keptPoints + (l.filter (keptRecord p cloud a)).length ∧
      (l.foldl (Scan.add p cloud a) scan).usablePoints =
        scan.usablePoints + (l.filter (keptRecord p cloud a)).countP (usableRecord p cloud a) := by
  induction l generalizing scan with
  | nil => simp
  | cons r l ih =>
    rw [List.foldl_cons]
    obtain ⟨hd, hk, hu⟩ := ih (scan.add p cloud a r)
    rw [hd, hk, hu]
    unfold Scan.add
    cases hr : keptRecord p cloud a r with
    | false => simp [hr]
    | true =>
      refine ⟨by simp [hr], ?_, ?_⟩
      · simp only [hr, if_true, List.filter_cons_of_pos, List.length_cons]
        omega
      · simp only [hr, if_true, List.filter_cons_of_pos, List.countP_cons]
        omega

/-- What the loops come to on a cloud that is as it declares. -/
theorem scanCloud_eq (ha : cloud.HasAxes a) (hdata : cloud.data.length < 2 ^ 63)
    (hc : cloud.Complete) : ∃ scan, scanCloud p cloud = .ok scan ∧
      scan.data = (kept p cloud a).flatten ∧ scan.keptPoints = (kept p cloud a).length ∧
      scan.usablePoints = (kept p cloud a).countP (usableRecord p cloud a) := by
  have hloops := body_foldlM (p := p) ha hdata (List.nil_append cloud.points).symm (by simp) {}
  rcases hloops with ⟨-, he⟩ | ⟨⟨q, hq, hno⟩, -⟩
  · refine ⟨cloud.records.foldl (Scan.add p cloud a) {}, ?_, ?_⟩
    · unfold scanCloud PointCloud2.records
      rw [findCoordinateField_eq ha.x, findCoordinateField_eq ha.y, findCoordinateField_eq ha.z,
        List.foldl_map]
      exact (foldlM_walk (fun scan row column => body p cloud a scan (row, column)) {}).trans he
    · have hadd := @foldl_add F _ p cloud a cloud.records {}
      unfold kept
      simpa using hadd
  · exact absurd (hc q hq) hno

/-- Any other cloud is refused. -/
theorem scanCloud_malformed (hdata : cloud.data.length < 2 ^ 63)
    (h : (¬ ∃ a, cloud.HasAxes a) ∨ ¬ cloud.Complete) :
    ∃ what, scanCloud p cloud = .error (.runtimeError what) := by
  by_cases hx : ∃ f, cloud.HasField "x" f
  · obtain ⟨x, hx⟩ := hx
    by_cases hy : ∃ f, cloud.HasField "y" f
    · obtain ⟨y, hy⟩ := hy
      by_cases hz : ∃ f, cloud.HasField "z" f
      · obtain ⟨z, hz⟩ := hz
        have ha : cloud.HasAxes ⟨x, y, z⟩ := ⟨hx, hy, hz⟩
        have hno : ¬ cloud.Complete := h.resolve_left (not_not.2 ⟨_, ha⟩)
        have hloops := body_foldlM (p := p) ha hdata (List.nil_append cloud.points).symm (by simp) {}
        rcases hloops with ⟨hall, -⟩ | ⟨-, what, he⟩
        · exact absurd hall hno
        · refine ⟨what, ?_⟩
          unfold scanCloud
          rw [findCoordinateField_eq hx, findCoordinateField_eq hy, findCoordinateField_eq hz]
          exact (foldlM_walk (fun scan row column =>
            body p cloud ⟨x, y, z⟩ scan (row, column)) {}).trans he
      · obtain ⟨what, he⟩ := findCoordinateField_error hz
        refine ⟨what, ?_⟩
        unfold scanCloud
        rw [findCoordinateField_eq hx, findCoordinateField_eq hy, he]
        rfl
    · obtain ⟨what, he⟩ := findCoordinateField_error hy
      refine ⟨what, ?_⟩
      unfold scanCloud
      rw [findCoordinateField_eq hx, he]
      rfl
  · obtain ⟨what, he⟩ := findCoordinateField_error hx
    refine ⟨what, ?_⟩
    unfold scanCloud
    rw [he]
    rfl

/-! ## `filter_cloud` -/

/-- **`filter_cloud` is safe on any cloud**: no access is out of bounds, and a cloud with a field
or a point that it declares wrongly changes nothing but the log. -/
theorem filterCloud_safe (p : Params F) (node : Node F) (cloud : PointCloud2)
    (hdata : cloud.data.length < 2 ^ 63) :
    ∃ node', filterCloud p node cloud = some node' ∧
      ((¬ ∃ a, cloud.HasAxes a) ∨ (∃ q ∈ cloud.points, ¬ cloud.Fits q) →
        node'.published = node.published ∧ node'.droppedScans = node.droppedScans) := by
  by_cases h : (¬ ∃ a, cloud.HasAxes a) ∨ ¬ cloud.Complete
  · obtain ⟨what, he⟩ := scanCloud_malformed (p := p) hdata h
    refine ⟨{ node with logs := node.logs ++ [.error what] }, ?_, fun _ => ⟨rfl, rfl⟩⟩
    rw [filterCloud, he]
  · push Not at h
    obtain ⟨⟨a, ha⟩, hc⟩ := h
    obtain ⟨scan, he, -⟩ := scanCloud_eq (p := p) ha hdata hc
    have hmal : ¬ ((¬ ∃ a, cloud.HasAxes a) ∨ ∃ q ∈ cloud.points, ¬ cloud.Fits q) := by
      rintro (hno | ⟨q, hq, hno⟩)
      · exact hno ⟨a, ha⟩
      · exact hno (hc q hq)
    unfold filterCloud
    rw [he]
    dsimp only
    split
    · exact ⟨_, rfl, fun h => absurd h hmal⟩
    · exact ⟨_, rfl, fun h => absurd h hmal⟩

theorem kept_length_le : (kept p cloud a).length ≤ cloud.height.toNat * cloud.width.toNat := by
  have hlen : cloud.records.length = cloud.height.toNat * cloud.width.toNat := by
    rw [PointCloud2.records, List.length_map, PointCloud2.points, walk_length]
  exact hlen ▸ List.length_filter_le _ _

/-- With rows that do not overlap, the declared records fit in `data` side by side. -/
theorem records_size_le (hrow : cloud.width.toNat * cloud.pointStep.toNat ≤ cloud.rowStep.toNat)
    (hc : cloud.Complete) :
    cloud.height.toNat * cloud.width.toNat * cloud.pointStep.toNat ≤ cloud.data.length := by
  cases hh : cloud.height.toNat with
  | zero => simp
  | succ h =>
    cases hw : cloud.width.toNat with
    | zero => simp
    | succ w =>
      -- the last point of the last row
      have hlast : cloud.Fits (h, w) := hc _ (mem_walk.2 ⟨by omega, by omega⟩)
      unfold PointCloud2.Fits PointCloud2.offset at hlast
      dsimp only at hlast
      rw [hw] at hrow
      calc
        (h + 1) * (w + 1) * cloud.pointStep.toNat =
            h * ((w + 1) * cloud.pointStep.toNat) + (w + 1) * cloud.pointStep.toNat := by
          rw [Nat.mul_assoc, Nat.succ_mul]
        _ ≤ h * cloud.rowStep.toNat + (w + 1) * cloud.pointStep.toNat :=
          Nat.add_le_add_right (Nat.mul_le_mul_left h hrow) _
        _ ≤ cloud.data.length := by
          rw [Nat.succ_mul]
          omega

theorem record_length {q : Nat × Nat} (hq : cloud.Fits q) :
    (cloud.record q).length = cloud.pointStep.toNat := by
  unfold PointCloud2.Fits at hq
  rw [PointCloud2.record, List.length_take, List.length_drop]
  omega

theorem kept_lengths (hc : cloud.Complete) :
    ∀ r ∈ kept p cloud a, r.length = cloud.pointStep.toNat := by
  intro r hr
  obtain ⟨q, hq, rfl⟩ := List.mem_map.1 (List.mem_filter.1 hr).1
  exact record_length (hc q hq)

/-- The kept records, end to end. -/
theorem kept_flatten_length (hc : cloud.Complete) :
    (kept p cloud a).flatten.length = (kept p cloud a).length * cloud.pointStep.toNat := by
  rw [List.length_flatten, List.map_congr_left (kept_lengths hc), List.map_const', List.sum_replicate_nat]

/-- Entries of one length are found in the list of them end to end. -/
theorem take_drop_flatten {α : Type} {n : Nat} {K : List (List α)} (hK : ∀ r ∈ K, r.length = n)
    {j : Nat} (hj : j < K.length) : (K.flatten.drop (j * n)).take n = K[j] := by
  induction K generalizing j with
  | nil => exact absurd hj (Nat.not_lt_zero j)
  | cons r K ih =>
    obtain ⟨hr, hK⟩ := List.forall_mem_cons.1 hK
    rw [List.flatten_cons]
    cases j with
    | zero => simp [hr]
    | succ j =>
      have hdrop : (j + 1) * n = r.length + j * n := by rw [Nat.succ_mul, hr, Nat.add_comm]
      rw [hdrop, List.drop_length_add_append]
      simpa using ih hK (by simpa using hj)

/-- The records of a message that is made of `K`, of which its width counts 32 bits. -/
theorem records_filtered {K : List (List UInt8)} (hK : ∀ r ∈ K, r.length = cloud.pointStep.toNat)
    {scan : Scan} (hd : scan.data = K.flatten) (hk : scan.keptPoints = K.length) :
    (filtered cloud scan).records = K.take (K.length % 2 ^ 32) := by
  have hwidth : (filtered cloud scan).width.toNat = K.length % 2 ^ 32 := by
    show (UInt32.ofNat scan.keptPoints).toNat = _
    rw [hk, UInt32.toNat_ofNat']
  have hwalk : (filtered cloud scan).points =
      (List.range (K.length % 2 ^ 32)).map fun column => (0, column) := by
    rw [PointCloud2.points, hwidth]
    show walk 1 _ = _
    simp [walk]
  rw [PointCloud2.records, hwalk, List.map_map]
  refine List.ext_getElem ?_ fun j h₁ h₂ => ?_
  · rw [List.length_map, List.length_range, List.length_take,
      Nat.min_eq_left (Nat.mod_le _ _)]
  · have hj : j < K.length := by
      simp only [List.length_take] at h₂
      omega
    simp only [List.getElem_map, List.getElem_range, List.getElem_take, Function.comp_apply]
    rw [← take_drop_flatten hK hj, ← hd]
    unfold PointCloud2.record PointCloud2.offset
    rw [Nat.zero_mul, Nat.zero_add]
    rfl

theorem minUsableRange_finite (hp : validateParameters p = .ok ()) :
    Double.isFinite p.minUsableRange = true := by
  cases hf : Double.isFinite p.minUsableRange with
  | true => rfl
  | false =>
    unfold validateParameters at hp
    simp only [hf] at hp
    (repeat' split at hp) <;> simp_all

theorem usableThreshold_eq (hp : validateParameters p = .ok ()) :
    (p.usableThreshold : Int) = p.minUsablePoints.toInt := by
  have hnonneg : ¬ p.minUsablePoints < 0 := by
    intro hneg
    unfold validateParameters at hp
    simp only [hneg, true_or, if_true] at hp
    (repeat' split at hp) <;> cases hp
  have h0 : 0 ≤ p.minUsablePoints.toInt := by
    simpa [Int32.lt_iff_toInt_lt] using hnonneg
  have hlt := p.minUsablePoints.toInt_lt
  unfold Params.usableThreshold
  omega

/-- `msg` is the cloud with the records `K` in one row. -/
structure FilteredFrom (cloud msg : PointCloud2) (K : List (List UInt8)) : Prop where
  height : msg.height = 1
  width : msg.width.toNat = K.length
  rowStep : msg.rowStep.toNat = msg.width.toNat * msg.pointStep.toNat
  size : msg.rowStep.toNat = msg.data.length
  data : msg.data = K.flatten
  header : msg.header = cloud.header
  fields : msg.fields = cloud.fields
  pointStep : msg.pointStep = cloud.pointStep
  isBigendian : msg.isBigendian = cloud.isBigendian
  isDense : msg.isDense = cloud.isDense

theorem filtered_from (ha : cloud.HasAxes a) (hdata : cloud.data.length < 2 ^ 32)
    (hrow : cloud.width.toNat * cloud.pointStep.toNat ≤ cloud.rowStep.toNat)
    (hc : cloud.Complete) {scan : Scan} (hd : scan.data = (kept p cloud a).flatten)
    (hk : scan.keptPoints = (kept p cloud a).length) :
    FilteredFrom cloud (filtered cloud scan) (kept p cloud a) := by
  -- nothing is truncated: the records are disjoint parts of `data`, none of them empty
  have hstep : 0 < cloud.pointStep.toNat := by
    rcases ha.x.2 with ⟨-, hle⟩ | ⟨-, hle⟩ <;> omega
  have hsize : (kept p cloud a).length * cloud.pointStep.toNat < 2 ^ 32 := calc
    _ ≤ cloud.height.toNat * cloud.width.toNat * cloud.pointStep.toNat :=
      Nat.mul_le_mul_right _ kept_length_le
    _ ≤ cloud.data.length := records_size_le hrow hc
    _ < 2 ^ 32 := hdata
  have hcount : (kept p cloud a).length < 2 ^ 32 :=
    Nat.lt_of_le_of_lt (Nat.le_mul_of_pos_right _ hstep) hsize
  have hwidth : (filtered cloud scan).width.toNat = (kept p cloud a).length := by
    show (UInt32.ofNat scan.keptPoints).toNat = _
    rw [hk, UInt32.toNat_ofNat_of_lt' hcount]
  have hstep' : (filtered cloud scan).rowStep.toNat =
      (kept p cloud a).length * cloud.pointStep.toNat := by
    show ((filtered cloud scan).width * cloud.pointStep).toNat = _
    rw [UInt32.toNat_mul, hwidth, Nat.mod_eq_of_lt hsize]
  refine ⟨rfl, hwidth, ?_, ?_, hd, rfl, rfl, rfl, rfl, rfl⟩
  · rw [hstep', hwidth]
    rfl
  · show _ = scan.data.length
    rw [hstep', hd, kept_flatten_length hc]

/-- **What `filter_cloud` does to a well-formed cloud**: with `K` the records kept, it publishes
iff enough of `K` are usable, and then exactly `K` in one row. -/
theorem filterCloud_contract (p : Params F) (hp : validateParameters p = .ok ()) (node : Node F)
    (cloud : PointCloud2) (a : Axes) (ha : cloud.HasAxes a)
    (hrow : cloud.width.toNat * cloud.pointStep.toNat ≤ cloud.rowStep.toNat)
    (hdata : cloud.data.length < 2 ^ 32) (hc : cloud.Complete) :
    ∃ node', filterCloud p node cloud = some node' ∧
      (p.minUsablePoints.toInt ≤ (kept p cloud a).countP (usableRecord p cloud a) →
        node'.droppedScans = node.droppedScans ∧
        ∃ msg, node'.published = node.published ++ [msg] ∧
          FilteredFrom cloud msg (kept p cloud a)) ∧
      (¬ p.minUsablePoints.toInt ≤ (kept p cloud a).countP (usableRecord p cloud a) →
        node'.droppedScans = node.droppedScans + 1 ∧ node'.published = node.published) := by
  have hlt : cloud.data.length < 2 ^ 63 := by omega
  obtain ⟨scan, he, hd, hk, hu⟩ := scanCloud_eq (p := p) ha hlt hc
  have hgate : scanHasEnoughPoints scan.usablePoints p.usableThreshold = true ↔
      p.minUsablePoints.toInt ≤ (kept p cloud a).countP (usableRecord p cloud a) := by
    rw [← usableThreshold_eq hp, Int.ofNat_le, scanHasEnoughPoints, decide_eq_true_iff, hu]
  unfold filterCloud
  rw [he]
  dsimp only
  cases hs : scanHasEnoughPoints scan.usablePoints p.usableThreshold with
  | false =>
    have hno := mt hgate.2 (by simp [hs])
    exact ⟨_, rfl, fun h => absurd h hno, fun _ => ⟨rfl, rfl⟩⟩
  | true =>
    have hyes := hgate.1 hs
    exact ⟨_, rfl, fun _ => ⟨rfl, _, rfl, filtered_from ha hdata hrow hc hd hk⟩,
      fun h => absurd hyes h⟩

end

/-! ## A scan on the x axis -/

/-- The functions' values where y is zero. -/
@[reducible] def Libm.axis : Libm where
  hypot x _ := x.abs
  atan2 y x := if x < .fin 0 then .nan else y
  remainder _ _ := .nan

/-- Two rows of one point each, padded to 16 bytes: (x, 0, 0), as little-endian floats. -/
def axisCloud (x : List UInt8) : PointCloud2 where
  height := 2
  width := 1
  fields := [⟨"x", 0, 7, 1⟩, ⟨"y", 4, 7, 1⟩, ⟨"z", 8, 7, 1⟩]
  pointStep := 12
  rowStep := 16
  data := x ++ List.replicate 12 0 ++ x ++ List.replicate 8 0

def axisAxes : Axes := ⟨⟨"x", 0, 7, 1⟩, ⟨"y", 4, 7, 1⟩, ⟨"z", 8, 7, 1⟩⟩

theorem axisCloud_hasAxes {x : List UInt8} : (axisCloud x).HasAxes axisAxes :=
  ⟨⟨rfl, .inl ⟨rfl, Nat.le_of_ble_eq_true rfl⟩⟩, ⟨rfl, .inl ⟨rfl, Nat.le_of_ble_eq_true rfl⟩⟩,
    ⟨rfl, .inl ⟨rfl, Nat.le_of_ble_eq_true rfl⟩⟩⟩

/-- A gate of one point, and no sectors. -/
def axisParams [Libm] : Params Exact :=
  { frontSectorDeg := .fin 0, backSectorDeg := .fin 0, minUsablePoints := 1 }

/-- Both points at 2 m; the row padding is not part of a record. -/
theorem filterCloud_contract_axis :
    let _ := Libm.axis
    ∃ node' msg, filterCloud axisParams {} (axisCloud [0, 0, 0, 0x40]) =
        some node' ∧ node'.published = [msg] ∧
      FilteredFrom (axisCloud [0, 0, 0, 0x40]) msg
        (kept axisParams (axisCloud [0, 0, 0, 0x40]) axisAxes) := by
  intro _
  obtain ⟨node', he, hpub, -⟩ := filterCloud_contract axisParams (by decide +kernel) {}
    (axisCloud [0, 0, 0, 0x40]) axisAxes axisCloud_hasAxes
    (by decide) (by decide) (by decide)
  obtain ⟨-, msg, hmsg, hfrom⟩ := hpub (by decide +kernel)
  exact ⟨node', msg, he, hmsg, hfrom⟩

/-- A row more than there is data for. -/
theorem filterCloud_safe_short :
    let _ := Libm.axis
    ∃ node', filterCloud axisParams {}
        { axisCloud [0, 0, 0, 0x40] with height := 3 } = some node' ∧
      node'.published = [] := by
  intro _
  obtain ⟨node', he, hsame⟩ := filterCloud_safe axisParams {}
    { axisCloud [0, 0, 0, 0x40] with height := 3 } (by decide)
  exact ⟨node', he, (hsame (.inr ⟨(2, 0), by decide, by decide⟩)).1⟩

end Lidar
