import Kratos.Lidar.Proof.Scan
import Mathlib.Tactic.Linarith

/-!
# The scan gate and GLIM's preprocessing

GLIM keeps the finite points of a scan whose distance is between its two thresholds
(`Preprocess.keeps`). The gate of `filter_cloud` counts the points that are far enough away, so what
it says about the points GLIM keeps is off by those beyond the far threshold and by those that only
the gate finds too near (`survivors_balance`). `gate_protects_iff`: a published scan keeps
`min_usable_points` points under GLIM's rule iff these do not use the gate's margin up.

Doubles do not round here, and `<cmath>` is arbitrary. Distances are compared by their squares.
-/

namespace Lidar

open Raster

/-! ## Lists -/

/-- Counts of predicates that balance on each element balance. -/
theorem countP_balance {α : Type} {p₁ p₂ q₁ q₂ : α → Bool} (l : List α)
    (h : ∀ x, (p₁ x).toNat + (p₂ x).toNat = (q₁ x).toNat + (q₂ x).toNat) :
    l.countP p₁ + l.countP p₂ = l.countP q₁ + l.countP q₂ := by
  induction l with
  | nil => rfl
  | cons x l ih =>
    have hx := h x
    simp only [List.countP_cons]
    revert hx
    cases p₁ x <;> cases p₂ x <;> cases q₁ x <;> cases q₂ x <;>
      simp only [Bool.toNat_true, Bool.toNat_false] <;> intro hx <;> simp <;> omega

/-! ## GLIM's preprocessing -/

/-- `distance_near_thresh` and `distance_far_thresh`. -/
structure Preprocess where
  near : ℚ
  far : ℚ
  near_nonneg : 0 ≤ near
  far_nonneg : 0 ≤ far

/-- `config_preprocess.json`. -/
def Preprocess.config : Preprocess := ⟨1 / 2, 100, by decide +kernel, by decide⟩

/-- A finite point with `near ≤ d ≤ far`. -/
def Preprocess.keeps (g : Preprocess) : Exact → Exact → Exact → Bool
  | .fin x, .fin y, .fin z =>
    decide (g.near * g.near ≤ x * x + y * y + z * z) &&
      decide (x * x + y * y + z * z ≤ g.far * g.far)
  | _, _, _ => false

/-- A finite point with `far < d`. -/
def Preprocess.beyond (g : Preprocess) : Exact → Exact → Exact → Bool
  | .fin x, .fin y, .fin z => decide (g.far * g.far < x * x + y * y + z * z)
  | _, _, _ => false

section

variable [Libm] (g : Preprocess) (p : Params Exact) (cloud : PointCloud2) (a : Axes)

def survives (record : List UInt8) : Bool :=
  g.keeps (cloud.coordinate a.x record) (cloud.coordinate a.y record)
    (cloud.coordinate a.z record)

/-- Usable, but beyond GLIM's far threshold. -/
def tooFar (record : List UInt8) : Bool :=
  usableRecord p cloud a record &&
    g.beyond (cloud.coordinate a.x record) (cloud.coordinate a.y record)
      (cloud.coordinate a.z record)

/-- Not usable, but not too near for GLIM. -/
def onlyNear (record : List UInt8) : Bool :=
  survives g cloud a record && !usableRecord p cloud a record

variable {g p cloud a}

/-- A usable point is too near neither for the gate nor for GLIM. -/
theorem usable_cases {x y z r : Exact} (hr : r.isFinite = true)
    (hnear : Exact.fin g.near ≤ r) (hu : pointIsUsable x y z r = true) :
    g.keeps x y z = !g.beyond x y z := by
  unfold pointIsUsable at hu
  obtain ⟨q, rfl⟩ := Exact.isFinite_iff.1 hr
  have hnear : g.near ≤ q := Exact.le_fin.1 hnear
  split at hu
  · cases hu
  · rename_i hfin
    simp only [Double.isFinite, Bool.or_eq_true, Bool.not_eq_true', not_or,
      Bool.not_eq_false, Exact.isFinite_iff] at hfin
    obtain ⟨⟨⟨x, rfl⟩, ⟨y, rfl⟩⟩, ⟨z, rfl⟩⟩ := hfin
    have hsq : q * q ≤ x * x + y * y + z * z := Exact.le_fin.1 (of_decide_eq_true hu)
    have hle : g.near * g.near ≤ x * x + y * y + z * z :=
      (mul_self_le_mul_self g.near_nonneg hnear).trans hsq
    unfold Preprocess.keeps Preprocess.beyond
    simp [hle, ← not_lt]

theorem survivors_balance (hp : p.minUsableRange.isFinite = true)
    (hnear : Exact.fin g.near ≤ p.minUsableRange) (l : List (List UInt8)) :
    l.countP (survives g cloud a) + l.countP (tooFar g p cloud a) =
      l.countP (usableRecord p cloud a) + l.countP (onlyNear g p cloud a) := by
  refine countP_balance l fun r => ?_
  unfold onlyNear tooFar survives
  cases hu : usableRecord p cloud a r with
  | false => simp
  | true =>
    rw [usable_cases hp hnear hu]
    cases g.beyond (cloud.coordinate a.x r) (cloud.coordinate a.y r) (cloud.coordinate a.z r) <;>
      rfl

/-! ## What GLIM is sent -/

/-- The records that the width of the message, 32 bits, can count: all of them below 2^32. -/
def sent (p : Params Exact) (cloud : PointCloud2) (a : Axes) : List (List UInt8) :=
  (kept p cloud a).take ((kept p cloud a).length % 2 ^ 32)

/-- The records of the message are the ones sent. -/
theorem filtered_records (hc : cloud.Complete) {scan : Scan}
    (hd : scan.data = (kept p cloud a).flatten)
    (hk : scan.keptPoints = (kept p cloud a).length) :
    (filtered cloud scan).records = sent p cloud a :=
  records_filtered (kept_lengths hc) hd hk

/-- Every scan published for the cloud has `min_usable_points` points that GLIM keeps. -/
def Protected (g : Preprocess) (p : Params Exact) (cloud : PointCloud2) : Prop :=
  ∀ node node' msg a, filterCloud p node cloud = some node' →
    node'.published = node.published ++ [msg] → msg.HasAxes a →
    p.minUsablePoints.toInt ≤ (msg.records.countP (survives g msg a) : Nat)

theorem filterCloud_passes {scan : Scan} (hs : scanCloud p cloud = .ok scan)
    (hpass : p.usableThreshold ≤ scan.usablePoints) (node : Node Exact) :
    ∃ node', filterCloud p node cloud = some node' ∧
      node'.published = node.published ++ [filtered cloud scan] := by
  have hgate : scanHasEnoughPoints scan.usablePoints p.usableThreshold = true :=
    decide_eq_true hpass
  rw [filterCloud, hs]
  dsimp only
  rw [hgate]
  exact ⟨_, rfl, rfl⟩

theorem filterCloud_published {node node' : Node Exact} {msg : PointCloud2}
    (hdata : cloud.data.length < 2 ^ 63) (he : filterCloud p node cloud = some node')
    (hpub : node'.published = node.published ++ [msg]) :
    ∃ a scan, cloud.HasAxes a ∧ cloud.Complete ∧ scanCloud p cloud = .ok scan ∧
      p.usableThreshold ≤ scan.usablePoints ∧ msg = filtered cloud scan := by
  have hwell : ¬ ((¬ ∃ a, cloud.HasAxes a) ∨ ¬ cloud.Complete) := by
    intro h
    obtain ⟨what, hs⟩ := scanCloud_malformed (p := p) hdata h
    rw [filterCloud, hs] at he
    cases he
    simp at hpub
  push Not at hwell
  obtain ⟨⟨a, ha⟩, hc⟩ := hwell
  obtain ⟨scan, hs, -⟩ := scanCloud_eq (p := p) ha hdata hc
  rw [filterCloud, hs] at he
  dsimp only at he
  split at he
  · cases he
    simp at hpub
  · rename_i hgate
    cases he
    have hmsg : filtered cloud scan = msg := by simpa using hpub
    exact ⟨a, scan, ha, hc, hs, by simpa [scanHasEnoughPoints] using hgate, hmsg.symm⟩

/-- Every scan that is published is protected where the points beyond the far threshold leave
enough. -/
theorem protected_of (hp : validateParameters p = .ok ())
    (hnear : Exact.fin g.near ≤ p.minUsableRange) (hdata : cloud.data.length < 2 ^ 63)
    (h : ∀ a, cloud.HasAxes a → cloud.Complete →
      p.minUsablePoints.toInt ≤ ((kept p cloud a).countP (usableRecord p cloud a) : Nat) →
      p.minUsablePoints.toInt + ((sent p cloud a).countP (tooFar g p cloud a) : Nat) ≤
        ((sent p cloud a).countP (usableRecord p cloud a) : Nat) +
          ((sent p cloud a).countP (onlyNear g p cloud a) : Nat)) : Protected g p cloud := by
  have hthreshold := usableThreshold_eq hp
  intro node node' msg b he hpub hb
  obtain ⟨a, scan, ha, hc, hs, hpass, rfl⟩ := filterCloud_published hdata he hpub
  obtain ⟨scan', hs', hd, hk, hu⟩ := scanCloud_eq (p := p) ha hdata hc
  obtain rfl : scan = scan' := by
    rw [hs] at hs'
    exact Except.ok.inj hs'
  obtain rfl := ha.unique hb.of_filtered
  have hcond := h a ha hc (by omega)
  rw [filtered_records hc hd hk]
  have hbalance := @survivors_balance _ g p cloud a (minUsableRange_finite hp) hnear (sent p cloud a)
  show p.minUsablePoints.toInt ≤ ((sent p cloud a).countP (survives g cloud a) : Nat)
  omega

/-- **When the gate protects GLIM**: where it passes, the points beyond GLIM's far threshold must
not outnumber the usable points to spare and those that are too near for the gate alone. -/
theorem gate_protects_iff (g : Preprocess) (p : Params Exact) (hp : validateParameters p = .ok ())
    (hnear : Exact.fin g.near ≤ p.minUsableRange) (cloud : PointCloud2)
    (hdata : cloud.data.length < 2 ^ 63) :
    Protected g p cloud ↔ ∀ a, cloud.HasAxes a → cloud.Complete →
      p.minUsablePoints.toInt ≤ ((kept p cloud a).countP (usableRecord p cloud a) : Nat) →
      p.minUsablePoints.toInt + ((sent p cloud a).countP (tooFar g p cloud a) : Nat) ≤
        ((sent p cloud a).countP (usableRecord p cloud a) : Nat) +
          ((sent p cloud a).countP (onlyNear g p cloud a) : Nat) := by
  have hthreshold := usableThreshold_eq hp
  refine ⟨fun h a ha hc hgate => ?_, protected_of hp hnear hdata⟩
  obtain ⟨scan, hs, hd, hk, hu⟩ := scanCloud_eq (p := p) ha hdata hc
  obtain ⟨node', he, hpub⟩ := filterCloud_passes hs (by omega) {}
  have hsurvive := h {} node' _ a he hpub (ha.filtered scan)
  rw [filtered_records hc hd hk] at hsurvive
  have hbalance := @survivors_balance _ g p cloud a (minUsableRange_finite hp) hnear (sent p cloud a)
  have hsurvive : p.minUsablePoints.toInt ≤
      ((sent p cloud a).countP (survives g cloud a) : Nat) := hsurvive
  omega

/-- So it is where no point is beyond the far threshold, and the message's width can count those
that are kept. -/
theorem protected_of_near (hp : validateParameters p = .ok ())
    (hnear : Exact.fin g.near ≤ p.minUsableRange) (hdata : cloud.data.length < 2 ^ 63)
    (hlen : ∀ a, cloud.HasAxes a → (kept p cloud a).length < 2 ^ 32)
    (hfar : ∀ a, cloud.HasAxes a → ∀ record ∈ kept p cloud a,
      g.beyond (cloud.coordinate a.x record) (cloud.coordinate a.y record)
        (cloud.coordinate a.z record) = false) : Protected g p cloud := by
  refine protected_of hp hnear hdata fun a ha _ hgate => ?_
  have hsent : sent p cloud a = kept p cloud a := by
    rw [sent, Nat.mod_eq_of_lt (hlen a ha), List.take_length]
  have hnone : (kept p cloud a).countP (tooFar g p cloud a) = 0 := by
    rw [List.countP_eq_zero]
    intro record hrecord
    simp [tooFar, hfar a ha record hrecord]
  rw [hsent, hnone]
  omega

end

/-- Both points at 2 m. -/
theorem gate_protects_near :
    let _ := Libm.axis
    Protected .config axisParams (axisCloud [0, 0, 0, 0x40]) := by
  intro _
  refine (gate_protects_iff .config axisParams (by decide +kernel) (by decide +kernel) _
    (by decide)).2 fun a ha _ _ => ?_
  obtain rfl := ha.unique axisCloud_hasAxes
  decide +kernel

/-- Both points at 200 m: the scan is published, and GLIM keeps none of it. -/
theorem gate_passes_far :
    let _ := Libm.axis
    validateParameters axisParams = .ok () ∧
      Exact.fin Preprocess.config.near ≤ axisParams.minUsableRange ∧
      1 ≤ axisParams.minUsablePoints.toInt ∧
      ∃ node' msg, filterCloud axisParams {} (axisCloud [0, 0, 0x48, 0x43]) =
          some node' ∧ node'.published = [msg] ∧ msg.HasAxes axisAxes ∧
        msg.records.countP (survives .config msg axisAxes) = 0 := by
  intro _
  refine ⟨by decide +kernel, by decide +kernel, by decide, ?_⟩
  have hc : (axisCloud [0, 0, 0x48, 0x43]).Complete := by decide
  obtain ⟨scan, hs, hd, hk, hu⟩ :=
    scanCloud_eq (p := axisParams) axisCloud_hasAxes (by decide) hc
  have htwo : scan.usablePoints = 2 := hu.trans (by decide +kernel)
  obtain ⟨node', he, hpub⟩ := filterCloud_passes hs (by rw [htwo]; decide) {}
  refine ⟨node', _, he, hpub, axisCloud_hasAxes.filtered scan, ?_⟩
  rw [filtered_records hc hd hk]
  show (sent _ _ _).countP (survives .config (axisCloud [0, 0, 0x48, 0x43]) axisAxes) = 0
  decide +kernel

end Lidar
