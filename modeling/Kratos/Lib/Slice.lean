import Mathlib.Data.List.Basic

/-!
# Slices of a list

`slice o n l` is the `n` entries of `l` from `o` on, and `reverseAt o n l` is `l` with these in
reverse. A slice that is reversed reads backwards, and one beside it reads as before
(`slice_reverseAt`, `slice_reverseAt_apart`).
-/

namespace Slice

variable {α : Type} {l : List α} {o n o' n' : Nat}

def slice (o n : Nat) (l : List α) : List α := (l.drop o).take n

def reverseAt (o n : Nat) (l : List α) : List α :=
  l.take o ++ ((slice o n l).reverse ++ l.drop (o + n))

theorem slice_length (h : o + n ≤ l.length) : (slice o n l).length = n := by
  simp only [slice, List.length_take, List.length_drop]
  omega

theorem reverseAt_length : (reverseAt o n l).length = l.length := by
  simp only [reverseAt, slice, List.length_append, List.length_reverse, List.length_take,
    List.length_drop]
  omega

theorem slice_reverseAt (h : o + n ≤ l.length) :
    slice o n (reverseAt o n l) = (slice o n l).reverse := by
  have htake : (l.take o).length = o := by
    rw [List.length_take]
    omega
  have hrev : (slice o n l).reverse.length = n := by rw [List.length_reverse, slice_length h]
  unfold reverseAt
  rw [slice, List.drop_left' htake, List.take_left' hrev]

theorem slice_reverseAt_apart (h : o + n ≤ l.length) (hapart : o' + n' ≤ o ∨ o + n ≤ o') :
    slice o' n' (reverseAt o n l) = slice o' n' l := by
  have htake : (l.take o).length = o := by
    rw [List.length_take]
    omega
  have hrev : (slice o n l).reverse.length = n := by rw [List.length_reverse, slice_length h]
  unfold reverseAt
  rcases hapart with hbefore | hafter
  · unfold slice
    rw [List.drop_append_of_le_length (by omega), List.take_append_of_le_length, List.drop_take,
      List.take_take, Nat.min_eq_left (by omega)]
    rw [List.length_drop, htake]
    omega
  · have hfront : (l.take o ++ (slice o n l).reverse).length = o + n := by
      rw [List.length_append, htake, hrev]
    obtain ⟨d, rfl⟩ := Nat.exists_eq_add_of_le hafter
    rw [← List.append_assoc, slice, ← hfront, List.drop_length_add_append, hfront,
      List.drop_drop]
    rfl

end Slice
