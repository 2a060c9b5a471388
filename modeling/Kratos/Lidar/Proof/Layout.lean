import Kratos.Lib.Slice
import Kratos.Lidar.Proof.Scan

/-!
# `filter_cloud` and the layout of a cloud

`Relayout a flipped cloud cloud'`: the two have the same records, whatever their rows are like,
with the bytes of each coordinate reversed if the byte order is the other one (`Axes.layout`). A
coordinate then reads the same (`coordinate_layout`), so the same records are kept
(`kept_relayout`), and what is published is laid out anew in the same way
(`filterCloud_relayout`).
-/

namespace Lidar

open Slice

variable {F : Type} [Double F] {p : Params F} {cloud cloud' : PointCloud2} {a : Axes}
  {flipped : Bool} {record : List UInt8}

/-! ## Layouts -/

def PointField.size (f : PointField) : Nat := sizeOfType f.datatype

/-- No byte is in both fields. -/
def PointField.Apart (f g : PointField) : Prop :=
  f.offset.toNat + f.size ≤ g.offset.toNat ∨ g.offset.toNat + g.size ≤ f.offset.toNat

/-- Reversing the bytes of a field. -/
def swapField (f : PointField) (record : List UInt8) : List UInt8 :=
  reverseAt f.offset.toNat f.size record

namespace Axes

structure Apart (a : Axes) : Prop where
  xy : a.x.Apart a.y
  xz : a.x.Apart a.z
  yz : a.y.Apart a.z

def swap (a : Axes) (record : List UInt8) : List UInt8 :=
  swapField a.z (swapField a.y (swapField a.x record))

/-- A record in the other byte order, or in the same one. -/
def layout (a : Axes) (flipped : Bool) (record : List UInt8) : List UInt8 :=
  if flipped then a.swap record else record

end Axes

/-- `cloud'` is `cloud` with its records in another place and in another byte order. -/
structure Relayout (a : Axes) (flipped : Bool) (cloud cloud' : PointCloud2) : Prop where
  header : cloud'.header = cloud.header
  fields : cloud'.fields = cloud.fields
  pointStep : cloud'.pointStep = cloud.pointStep
  isDense : cloud'.isDense = cloud.isDense
  isBigendian : cloud'.isBigendian = (cloud.isBigendian != flipped)
  records : cloud'.records = cloud.records.map (a.layout flipped)

theorem Relayout.hasAxes (h : Relayout a flipped cloud cloud') (ha : cloud.HasAxes a) :
    cloud'.HasAxes a := by
  have hfield : ∀ {name f}, cloud.HasField name f → cloud'.HasField name f := by
    intro name f hf
    unfold PointCloud2.HasField
    rw [h.fields, h.pointStep]
    exact hf
  exact ⟨hfield ha.x, hfield ha.y, hfield ha.z⟩

/-! ## Coordinates -/

/-- The bytes of a field. -/
def PointField.bytes (f : PointField) (record : List UInt8) : List UInt8 :=
  slice f.offset.toNat f.size record

theorem swapField_length (f : PointField) : (swapField f record).length = record.length :=
  reverseAt_length

theorem layout_length : (a.layout flipped record).length = record.length := by
  unfold Axes.layout Axes.swap
  split
  · rw [swapField_length, swapField_length, swapField_length]
  · rfl

theorem bytes_swapField {f : PointField} (h : f.offset.toNat + f.size ≤ record.length) :
    f.bytes (swapField f record) = (f.bytes record).reverse :=
  slice_reverseAt h

theorem bytes_swapField_apart {f g : PointField} (h : g.offset.toNat + g.size ≤ record.length)
    (hapart : f.Apart g) : f.bytes (swapField g record) = f.bytes record :=
  slice_reverseAt_apart h hapart

theorem PointField.Apart.symm {f g : PointField} (h : f.Apart g) : g.Apart f := Or.symm h

/-- Each coordinate's bytes are reversed, and once only. -/
theorem bytes_swap (hapart : a.Apart) (hx : a.x.offset.toNat + a.x.size ≤ record.length)
    (hy : a.y.offset.toNat + a.y.size ≤ record.length)
    (hz : a.z.offset.toNat + a.z.size ≤ record.length) :
    a.x.bytes (a.swap record) = (a.x.bytes record).reverse ∧
      a.y.bytes (a.swap record) = (a.y.bytes record).reverse ∧
      a.z.bytes (a.swap record) = (a.z.bytes record).reverse := by
  have hx' : (swapField a.x record).length = record.length := swapField_length a.x
  have hy' : (swapField a.y (swapField a.x record)).length = (swapField a.x record).length :=
    swapField_length a.y
  unfold Axes.swap
  refine ⟨?_, ?_, ?_⟩
  · rw [bytes_swapField_apart (by omega) hapart.xz, bytes_swapField_apart (by omega) hapart.xy,
      bytes_swapField hx]
  · rw [bytes_swapField_apart (by omega) hapart.yz, bytes_swapField (by omega),
      bytes_swapField_apart hx hapart.xy.symm]
  · rw [bytes_swapField (by omega), bytes_swapField_apart (by omega) hapart.yz.symm,
      bytes_swapField_apart hx hapart.xz.symm]

/-- A value in the other byte order. -/
theorem decode_swapped (datatype : UInt8) (big : Bool) (value : List UInt8) :
    decode datatype (!big) value.reverse = (decode datatype big value : F) := by
  unfold decode byteSwap
  cases big <;> cases Double.hostIsBigEndian F <;> simp

theorem decode_layout {f : PointField} {value value' : List UInt8}
    (h : Relayout a flipped cloud cloud')
    (hv : value' = if flipped then value.reverse else value) :
    decode f.datatype cloud'.isBigendian value' =
      (decode f.datatype cloud.isBigendian value : F) := by
  rw [h.isBigendian, hv]
  cases flipped with
  | false =>
    rw [Bool.bne_false]
    rfl
  | true =>
    rw [Bool.bne_true]
    exact decode_swapped _ _ _

/-- **A coordinate reads the same in either layout.** -/
theorem coordinate_layout (h : Relayout a flipped cloud cloud') (ha : cloud.HasAxes a)
    (hapart : flipped = true → a.Apart) (hlen : record.length = cloud.pointStep.toNat) :
    (cloud'.coordinate a.x (a.layout flipped record) : F) = cloud.coordinate a.x record ∧
      (cloud'.coordinate a.y (a.layout flipped record) : F) = cloud.coordinate a.y record ∧
      (cloud'.coordinate a.z (a.layout flipped record) : F) = cloud.coordinate a.z record := by
  have hx := sizeOfType_le ha.x
  have hy := sizeOfType_le ha.y
  have hz := sizeOfType_le ha.z
  rw [← hlen] at hx hy hz
  have hbytes : a.x.bytes (a.layout flipped record) =
        (if flipped then (a.x.bytes record).reverse else a.x.bytes record) ∧
      a.y.bytes (a.layout flipped record) =
        (if flipped then (a.y.bytes record).reverse else a.y.bytes record) ∧
      a.z.bytes (a.layout flipped record) =
        (if flipped then (a.z.bytes record).reverse else a.z.bytes record) := by
    cases hf : flipped with
    | false => exact ⟨rfl, rfl, rfl⟩
    | true => exact bytes_swap (hapart hf) hx hy hz
  exact ⟨decode_layout h hbytes.1, decode_layout h hbytes.2.1, decode_layout h hbytes.2.2⟩

/-! ## The records kept -/

theorem records_length (hc : cloud.Complete) :
    ∀ r ∈ cloud.records, r.length = cloud.pointStep.toNat := by
  intro r hr
  obtain ⟨q, hq, rfl⟩ := List.mem_map.1 hr
  exact record_length (hc q hq)

/-- The places of the records that are kept. -/
def keptPlaces (p : Params F) (cloud : PointCloud2) (a : Axes) : List Nat :=
  (List.range cloud.records.length).filter fun i =>
    (cloud.records[i]?).any (keptRecord p cloud a)

/-- The records at some places. -/
def PointCloud2.recordsAt (cloud : PointCloud2) (places : List Nat) : List (List UInt8) :=
  places.filterMap fun i => cloud.records[i]?

/-- Filtering a list is finding the places of what is kept, and then what is there. -/
theorem filterMap_places {α : Type} (q : α → Bool) (l : List α) :
    ((List.range l.length).filter fun i => (l[i]?).any q).filterMap (fun i => l[i]?) =
      l.filter q := by
  have hall : (List.range l.length).filterMap (fun i => l[i]?) = l := by
    have hmap : (List.range l.length).map (fun i => l[i]?) = l.map some := by
      apply List.ext_getElem
      · simp
      · intro i h₁ h₂
        simp only [List.length_map, List.length_range] at h₁
        simp [h₁]
    have hid : (List.range l.length).filterMap (fun i => l[i]?) =
        ((List.range l.length).map fun i => l[i]?).filterMap id := by
      rw [List.filterMap_map]
      rfl
    rw [hid, hmap, List.filterMap_map]
    simp
  rw [List.filterMap_filter]
  conv_rhs => rw [← hall, List.filter_filterMap]
  apply List.filterMap_congr
  intro i _
  cases l[i]? with
  | none => rfl
  | some x => cases hx : q x <;> simp [hx, Option.filter]

theorem kept_eq_at : kept p cloud a = cloud.recordsAt (keptPlaces p cloud a) :=
  (filterMap_places _ _).symm

section
variable (h : Relayout a flipped cloud cloud') (ha : cloud.HasAxes a)
  (hapart : flipped = true → a.Apart)
include h ha hapart

theorem keptRecord_layout (hlen : record.length = cloud.pointStep.toNat) :
    keptRecord p cloud' a (a.layout flipped record) = keptRecord p cloud a record := by
  obtain ⟨hx, hy, hz⟩ := coordinate_layout (F := F) h ha hapart hlen
  unfold keptRecord
  rw [hx, hy, hz]

theorem usableRecord_layout (hlen : record.length = cloud.pointStep.toNat) :
    usableRecord p cloud' a (a.layout flipped record) = usableRecord p cloud a record := by
  obtain ⟨hx, hy, hz⟩ := coordinate_layout (F := F) h ha hapart hlen
  unfold usableRecord
  rw [hx, hy, hz]

theorem keptPlaces_relayout (hc : cloud.Complete) :
    keptPlaces p cloud' a = keptPlaces p cloud a := by
  unfold keptPlaces
  rw [h.records, List.length_map]
  apply List.filter_congr
  intro i _
  rw [List.getElem?_map]
  cases hi : cloud.records[i]? with
  | none => rfl
  | some r =>
    have hlen := records_length hc r (List.mem_of_getElem? hi)
    exact keptRecord_layout h ha hapart hlen

/-- **The records kept are the same ones**, in the other layout. -/
theorem kept_relayout (hc : cloud.Complete) :
    kept p cloud' a = (kept p cloud a).map (a.layout flipped) := by
  unfold kept
  rw [h.records, List.filter_map]
  congr 1
  apply List.filter_congr
  intro r hr
  exact keptRecord_layout h ha hapart (records_length hc r hr)

theorem usable_relayout (hc : cloud.Complete) :
    (kept p cloud' a).countP (usableRecord p cloud' a) =
      (kept p cloud a).countP (usableRecord p cloud a) := by
  rw [kept_relayout h ha hapart hc, List.countP_map]
  apply List.countP_congr
  intro r hr
  rw [Function.comp_apply, usableRecord_layout h ha hapart (kept_lengths hc r hr)]

end

/-! ## `filter_cloud` -/

/-- What becomes of a cloud: it is published, or it is dropped. -/
theorem filterCloud_cases (ha : cloud.HasAxes a) (hdata : cloud.data.length < 2 ^ 63)
    (hc : cloud.Complete) (node : Node F) : ∃ after, filterCloud p node cloud = some after ∧
      if p.usableThreshold ≤ (kept p cloud a).countP (usableRecord p cloud a) then
        ∃ scan, after.published = node.published ++ [filtered cloud scan] ∧
          after.droppedScans = node.droppedScans ∧ scan.data = (kept p cloud a).flatten ∧
          scan.keptPoints = (kept p cloud a).length
      else after.published = node.published ∧ after.droppedScans = node.droppedScans + 1 := by
  obtain ⟨scan, he, hd, hk, hu⟩ := scanCloud_eq (p := p) ha hdata hc
  rw [filterCloud, he]
  dsimp only
  rw [← hu]
  by_cases hgate : p.usableThreshold ≤ scan.usablePoints
  · have hs : scanHasEnoughPoints scan.usablePoints p.usableThreshold = true :=
      decide_eq_true hgate
    rw [hs]
    refine ⟨_, rfl, ?_⟩
    rw [if_pos hgate]
    exact ⟨scan, rfl, rfl, hd, hk⟩
  · have hs : scanHasEnoughPoints scan.usablePoints p.usableThreshold = false :=
      decide_eq_false hgate
    rw [hs]
    refine ⟨_, rfl, ?_⟩
    rw [if_neg hgate]
    exact ⟨rfl, rfl⟩

/-- Messages made of the same records are laid out as their clouds are. -/
theorem filtered_relayout (h : Relayout a flipped cloud cloud') {scan scan' : Scan}
    {K : List (List UInt8)}
    (hK : ∀ r ∈ K, r.length = cloud.pointStep.toNat) (hd : scan.data = K.flatten)
    (hk : scan.keptPoints = K.length) (hd' : scan'.data = (K.map (a.layout flipped)).flatten)
    (hk' : scan'.keptPoints = (K.map (a.layout flipped)).length) :
    Relayout a flipped (filtered cloud scan) (filtered cloud' scan') where
  header := h.header
  fields := h.fields
  pointStep := h.pointStep
  isDense := h.isDense
  isBigendian := h.isBigendian
  records := by
    have hK' : ∀ r ∈ K.map (a.layout flipped), r.length = cloud'.pointStep.toNat := by
      intro r hr
      obtain ⟨s, hs, rfl⟩ := List.mem_map.1 hr
      rw [layout_length, h.pointStep]
      exact hK s hs
    rw [records_filtered hK hd hk, records_filtered hK' hd' hk', List.length_map, List.map_take]

/-- The scan is published as `msg`, with the data of the records kept. -/
structure Publishes (p : Params F) (cloud : PointCloud2) (a : Axes) (node after : Node F)
    (msg : PointCloud2) : Prop where
  published : after.published = node.published ++ [msg]
  droppedScans : after.droppedScans = node.droppedScans
  data : msg.data = (cloud.recordsAt (keptPlaces p cloud a)).flatten

structure Drops (node after : Node F) : Prop where
  published : after.published = node.published
  droppedScans : after.droppedScans = node.droppedScans + 1

/-- **`filter_cloud` sees the points, not their layout**: of two clouds that are laid out
differently it publishes the same points, laid out as they are, or drops both. -/
theorem filterCloud_relayout (p : Params F) (node node' : Node F) (cloud cloud' : PointCloud2)
    (a : Axes) (flipped : Bool) (h : Relayout a flipped cloud cloud') (ha : cloud.HasAxes a)
    (hapart : flipped = true → a.Apart) (hc : cloud.Complete) (hc' : cloud'.Complete)
    (hdata : cloud.data.length < 2 ^ 63) (hdata' : cloud'.data.length < 2 ^ 63) :
    ∃ after after', filterCloud p node cloud = some after ∧
      filterCloud p node' cloud' = some after' ∧
      keptPlaces p cloud' a = keptPlaces p cloud a ∧
      ((∃ msg msg', Publishes p cloud a node after msg ∧ Publishes p cloud' a node' after' msg' ∧
          Relayout a flipped msg msg') ∨
        Drops node after ∧ Drops node' after') := by
  obtain ⟨after, he, hcases⟩ := filterCloud_cases (p := p) ha hdata hc node
  obtain ⟨after', he', hcases'⟩ := filterCloud_cases (p := p) (h.hasAxes ha) hdata' hc' node'
  refine ⟨after, after', he, he', keptPlaces_relayout h ha hapart hc, ?_⟩
  rw [usable_relayout h ha hapart hc] at hcases'
  by_cases hgate : p.usableThreshold ≤ (kept p cloud a).countP (usableRecord p cloud a)
  · rw [if_pos hgate] at hcases hcases'
    obtain ⟨scan, hpub, hdrop, hd, hk⟩ := hcases
    obtain ⟨scan', hpub', hdrop', hd', hk'⟩ := hcases'
    refine .inl ⟨_, _, ⟨hpub, hdrop, ?_⟩, ⟨hpub', hdrop', ?_⟩, ?_⟩
    · rw [← kept_eq_at, ← hd]
      rfl
    · rw [← kept_eq_at, ← hd']
      rfl
    · rw [kept_relayout h ha hapart hc] at hd' hk'
      exact filtered_relayout h (kept_lengths hc) hd hk hd' hk'
  · rw [if_neg hgate] at hcases hcases'
    exact .inr ⟨⟨hcases.1, hcases.2⟩, ⟨hcases'.1, hcases'.2⟩⟩

/-- The points of `axisCloud [0, 0, 0, 0x40]` in one row and in network byte order. -/
def axisRow : PointCloud2 where
  height := 1
  width := 2
  fields := [⟨"x", 0, 7, 1⟩, ⟨"y", 4, 7, 1⟩, ⟨"z", 8, 7, 1⟩]
  isBigendian := true
  pointStep := 12
  rowStep := 24
  data := [0x40, 0, 0, 0] ++ List.replicate 8 0 ++ [0x40, 0, 0, 0] ++ List.replicate 8 0

theorem filterCloud_relayout_axis :
    let _ := Libm.axis
    ∃ after after', filterCloud axisParams {} (axisCloud [0, 0, 0, 0x40]) = some after ∧
      filterCloud axisParams {} axisRow = some after' ∧
      keptPlaces axisParams axisRow axisAxes = [0, 1] ∧
      ∃ msg msg', after.published = [msg] ∧ after'.published = [msg'] ∧
        Relayout axisAxes true msg msg' := by
  intro _
  have hlayout : Relayout axisAxes true (axisCloud [0, 0, 0, 0x40]) axisRow :=
    ⟨rfl, rfl, rfl, rfl, rfl, by decide⟩
  have hapart : axisAxes.Apart := ⟨.inl (by decide), .inl (by decide), .inl (by decide)⟩
  obtain ⟨after, after', he, he', hplaces, hcases⟩ := filterCloud_relayout axisParams {} {}
    (axisCloud [0, 0, 0, 0x40]) axisRow axisAxes true hlayout axisCloud_hasAxes
    (fun _ => hapart) (by decide) (by decide) (by decide) (by decide)
  have hboth : keptPlaces axisParams (axisCloud [0, 0, 0, 0x40]) axisAxes = [0, 1] := by
    decide +kernel
  refine ⟨after, after', he, he', hplaces.trans hboth, ?_⟩
  rcases hcases with ⟨msg, msg', hpub, hpub', hmsg⟩ | ⟨hdrop, -⟩
  · exact ⟨msg, msg', hpub.published, hpub'.published, hmsg⟩
  · have hcount : (filterCloud axisParams {} (axisCloud [0, 0, 0, 0x40])).map
        (fun node => node.droppedScans) = some 0 := by decide +kernel
    rw [he, Option.map_some, hdrop.droppedScans] at hcount
    cases hcount

end Lidar
