import Mathlib.Data.List.Basic

/-!
# Traces

A trace is a list of entries, newest first, so that recording is `cons` and the trace before an
entry is its tail.

`Each P tr`: every entry of `tr` satisfies `P` against the trace before it.
-/

namespace Trace

variable {α : Type} {P Q : α → List α → Prop} {tr : List α}

def Each (P : α → List α → Prop) : List α → Prop
  | [] => True
  | a :: tr => P a tr ∧ Each P tr

@[simp] theorem each_nil : Each P [] := trivial

@[simp] theorem each_cons {a : α} : Each P (a :: tr) ↔ P a tr ∧ Each P tr := Iff.rfl

theorem Each.imp (h : Each P tr) (hPQ : ∀ a pre, P a pre → Q a pre) : Each Q tr := by
  induction tr with
  | nil => trivial
  | cons a tr ih => exact ⟨hPQ a tr h.1, ih h.2⟩

end Trace
