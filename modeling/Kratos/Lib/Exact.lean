import Mathlib.Data.Rat.Floor

/-!
# Binary floating point without rounding

`Exact` has the values of an IEEE 754 format, with the finite ones unbounded and exact: a NaN, two
infinities and the rationals, with one zero. The operations and comparisons treat the special
values as IEEE 754 does; on finite values they are those of `ℚ` (`add_fin`, `mul_fin`,
`le_fin`, …). `ofBits` decodes the bits of an interchange format.
-/

inductive Exact where
  | nan
  | inf (negative : Bool)
  | fin (q : ℚ)
  deriving DecidableEq

namespace Exact

def isFinite : Exact → Bool
  | .fin _ => true
  | _ => false

theorem isFinite_iff {x : Exact} : x.isFinite = true ↔ ∃ q, x = .fin q := by
  cases x <;> simp [isFinite]

/-! ## Arithmetic -/

def neg : Exact → Exact
  | .nan => .nan
  | .inf s => .inf !s
  | .fin q => .fin (-q)

def add : Exact → Exact → Exact
  | .fin a, .fin b => .fin (a + b)
  | .inf s, .inf t => if s = t then .inf s else .nan
  | .inf s, .fin _ | .fin _, .inf s => .inf s
  | .nan, _ | _, .nan => .nan

def mul : Exact → Exact → Exact
  | .fin a, .fin b => .fin (a * b)
  | .inf s, .inf t => .inf (s != t)
  | .inf s, .fin q | .fin q, .inf s => if q = 0 then .nan else .inf (s != decide (q < 0))
  | .nan, _ | _, .nan => .nan

/-- A quotient by zero takes the sign of its dividend. -/
def div : Exact → Exact → Exact
  | .fin a, .fin b =>
    if b = 0 then if a = 0 then .nan else .inf (decide (a < 0)) else .fin (a / b)
  | .inf _, .inf _ => .nan
  | .inf s, .fin q => .inf (s != decide (q < 0))
  | .fin _, .inf _ => .fin 0
  | .nan, _ | _, .nan => .nan

def abs : Exact → Exact
  | .nan => .nan
  | .inf _ => .inf false
  | .fin q => .fin |q|

instance : Neg Exact := ⟨neg⟩
instance : Add Exact := ⟨add⟩
instance : Sub Exact := ⟨fun a b => a + -b⟩
instance : Mul Exact := ⟨mul⟩
instance : Div Exact := ⟨div⟩
instance : OfScientific Exact := ⟨fun m s e => .fin (OfScientific.ofScientific m s e)⟩

@[simp] theorem add_fin (a b : ℚ) : (fin a + fin b : Exact) = fin (a + b) := rfl

@[simp] theorem mul_fin (a b : ℚ) : (fin a * fin b : Exact) = fin (a * b) := rfl

/-! ## Comparison -/

/-- Nothing compares with a NaN. -/
def lt : Exact → Exact → Bool
  | .fin a, .fin b => decide (a < b)
  | .inf s, .inf t => s && !t
  | .inf s, .fin _ => s
  | .fin _, .inf s => !s
  | .nan, _ | _, .nan => false

/-- `==`, under which a NaN is not equal to itself. -/
def eq : Exact → Exact → Bool
  | .nan, _ => false
  | a, b => decide (a = b)

def le (a b : Exact) : Bool := lt a b || eq a b

instance : LT Exact := ⟨fun a b => lt a b = true⟩
instance : LE Exact := ⟨fun a b => le a b = true⟩
instance : BEq Exact := ⟨eq⟩
instance : DecidableLT Exact := fun a b => inferInstanceAs (Decidable (lt a b = true))
instance : DecidableLE Exact := fun a b => inferInstanceAs (Decidable (le a b = true))

@[simp] theorem lt_fin {a b : ℚ} : (fin a < fin b : Prop) ↔ a < b := by
  show lt (fin a) (fin b) = true ↔ a < b
  simp [lt]

@[simp] theorem le_fin {a b : ℚ} : (fin a ≤ fin b : Prop) ↔ a ≤ b := by
  show le (fin a) (fin b) = true ↔ a ≤ b
  simp [le, lt, eq, le_iff_lt_or_eq]

/-! ## Interchange formats -/

/-- The value of the bits of a format with `e` exponent and `m` fraction bits. -/
def ofBits (e m bits : Nat) : Exact :=
  let negative : Bool := bits / 2 ^ (e + m) % 2 = 1
  let exponent := bits / 2 ^ m % 2 ^ e
  let fraction := bits % 2 ^ m
  let bias := 2 ^ (e - 1) - 1
  if exponent = 2 ^ e - 1 then
    if fraction = 0 then .inf negative else .nan
  else
    -- a subnormal has the least exponent and no hidden bit
    let significand := if exponent = 0 then fraction else 2 ^ m + fraction
    let magnitude : ℚ := significand * 2 ^ max exponent 1 / 2 ^ (bias + m)
    .fin (if negative then -magnitude else magnitude)

/-- Bytes to bits, the least significant byte first. -/
def bitsOf (bytes : List UInt8) : Nat := bytes.foldr (fun b bits => b.toNat + 2 ^ 8 * bits) 0

def binary32 (bytes : List UInt8) : Exact := ofBits 8 23 (bitsOf bytes)

def binary64 (bytes : List UInt8) : Exact := ofBits 11 52 (bitsOf bytes)

example : binary32 [0x00, 0x00, 0x48, 0x43] = .fin 200 := by decide +kernel

end Exact
